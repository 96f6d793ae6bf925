import TicketEngine.Stampede.Steps

namespace TicketEngine

theorem cacheKey_inj {e e' : String} (h : seatingMapCacheKey e = seatingMapCacheKey e') :
    e = e' := by
  unfold seatingMapCacheKey at h
  exact (String.append_right_inj _).mp h

theorem lockKey_inj {e e' : String} (h : lockKey e = lockKey e') : e = e' := by
  unfold lockKey at h
  exact (String.append_right_inj _).mp h

theorem head_append {first : String} {c : Char} (h : first.toList.head? = some c) (e : String) :
    (first ++ e).toList.head? = some c := by
  rw [String.toList_append, List.head?_append, h, Option.some_or]

theorem cacheKey_ne_lockKey (e e' : String) : seatingMapCacheKey e ≠ lockKey e' := by
  intro h
  have hcache : (seatingMapCacheKey e).toList.head? = some 'e' :=
    head_append (by decide +kernel) e
  have hlock : (lockKey e').toList.head? = some 'l' := head_append (by decide +kernel) e'
  rw [h, hlock] at hcache
  exact absurd hcache (by decide)

/-! ## What one command leaves alone -/

/-- The mutex of an event across a command of call `n`. -/
inductive LockChange (n : Nat) (eventId : String) (s s' : MapStore) : Prop
  | same (hkeys : s'.keys (lockKey eventId) = s.keys (lockKey eventId))
      (hacquirer : s'.acquirer eventId = s.acquirer eventId)
  | taken (hfree : Lease.read s.now (s.keys (lockKey eventId)) = none)
  | released (token : String) (howner : s.drawn token = some n)
      (hheld : Lease.read s.now (s.keys (lockKey eventId)) = some token)
      (hkeys : s'.keys (lockKey eventId) = none)
      (hacquirer : s'.acquirer eventId = s.acquirer eventId)

/-- The cache of an event across a command: only the SET of an owner touches it. -/
inductive CacheChange (eventId : String) (c : Choice) (f : MapFrame) (s s' : MapStore) : Prop
  | same (hkeys : s'.keys (seatingMapCacheKey eventId) = s.keys (seatingMapCacheKey eventId))
      (hwrites : s'.writes eventId = s.writes eventId)
  | set (id : String) (call : MapCall) (hold : MutexHold) (map : SeatingMap) (load : Nat)
      (hc : c = .ok id) (hf : f = .owner call hold (.store map load))
      (hcall : call.eventId = eventId)
      (hkeys : s'.keys (seatingMapCacheKey eventId) =
        some ⟨Json.stringify map.toJson, s.now + CACHE_TTL_SECONDS * 1000⟩)
      (hwrites : s'.writes eventId = load :: s.writes eventId)

structure MapChange (n : Nat) (s s' : MapStore) : Prop where
  now : s'.now = s.now
  drawn : ∀ token m, s.drawn token = some m → s'.drawn token = some m
  loads : ∀ eventId, s.loads eventId ≤ s'.loads eventId
  lock : ∀ eventId, LockChange n eventId s s'

/-- A hold of call `n`: its token is its own, and until the lease is over the mutex stores that
token and nobody has taken the mutex since. -/
structure MutexHold.Sound (hold : MutexHold) (eventId : String) (n : Nat) (s : MapStore) :
    Prop where
  drawn : s.drawn hold.token = some n
  past : hold.since ≤ s.now
  lease : s.now ≤ hold.since + LOCK_TTL_MS →
    s.keys (lockKey eventId) = some ⟨hold.token, hold.since + LOCK_TTL_MS⟩ ∧
      s.acquirer eventId = some n

/-- What is known of the stores while call `n` stands at a frame. -/
def MapFrame.Holds (n : Nat) (s : MapStore) : MapFrame → Prop
  | .owner call hold (.store _ load) => hold.Sound call.eventId n s ∧ load < s.loads call.eventId
  | .owner call hold _ => hold.Sound call.eventId n s
  | .sleep _ failedAt attempt wake => failedAt + WAIT_DELAY_MS * (attempt + 1) ≤ wake
  | .waitRead _ failedAt attempt => failedAt + WAIT_DELAY_MS * (attempt + 1) ≤ s.now
  | _ => True

theorem MapFrame.Holds.sound {n : Nat} {s : MapStore} {call : MapCall} {hold : MutexHold}
    {point : OwnerPoint} (h : (MapFrame.owner call hold point).Holds n s) :
    hold.Sound call.eventId n s := by
  cases point with
  | store map load => exact h.1
  | readCache => exact h
  | loadFromDatabase => exact h
  | release outcome => exact h

/-- The writes recorded are of loads that have been made. -/
def WritesLoaded (s : MapStore) : Prop :=
  ∀ eventId, ∀ load ∈ s.writes eventId, load < s.loads eventId

/-- The proof outline of the seating map service. -/
def mapOutline : Outline MapStore Nat MapFrame where
  inv := WritesLoaded
  holds n f s := f.Holds n s

theorem MapWorld.Initial.valid {world : MapWorld} (h : world.Initial) :
    mapOutline.Valid world := by
  refine ⟨fun eventId load hl => ?_, fun n => ?_⟩
  · rw [h.writes] at hl
    exact absurd hl List.not_mem_nil
  · rw [h.idle n]
    trivial

section Step

variable {env : MapEnv} {s s' : MapStore} {n m : Nat} {c : Choice} {f f' : MapFrame}

@[simp] theorem setKey_self (s : MapStore) (key : String) (cell : Option (Lease String)) :
    (s.setKey key cell).keys key = cell :=
  Function.update_self ..

theorem setKey_other (s : MapStore) {key key' : String} (h : key' ≠ key)
    (cell : Option (Lease String)) : (s.setKey key cell).keys key' = s.keys key' :=
  Function.update_of_ne h _ _

theorem setKey_lock (s : MapStore) {e e' : String} (h : e' ≠ e) (cell : Option (Lease String)) :
    (s.setKey (lockKey e) cell).keys (lockKey e') = s.keys (lockKey e') :=
  setKey_other s (fun hk => h (lockKey_inj hk)) cell

theorem cacheMap_lock (s : MapStore) (e e' : String) (map : SeatingMap) (load : Nat) :
    (s.cacheMap e map load).keys (lockKey e') = s.keys (lockKey e') := by
  simp only [MapStore.cacheMap, MapStore.setKey,
    Function.update_of_ne (cacheKey_ne_lockKey e e').symm]

theorem takeMutex_cache (s : MapStore) (n : Nat) (e e' : String)
    (cell : Option (Lease String)) :
    (s.takeMutex n e cell).keys (seatingMapCacheKey e') = s.keys (seatingMapCacheKey e') := by
  simp only [MapStore.takeMutex, MapStore.setKey,
    Function.update_of_ne (cacheKey_ne_lockKey e' e)]

theorem takeMutex_lock (s : MapStore) (n : Nat) {e e' : String} (h : e' ≠ e)
    (cell : Option (Lease String)) :
    (s.takeMutex n e cell).keys (lockKey e') = s.keys (lockKey e') :=
  setKey_lock s h cell

theorem draw_cases {token : String} (h : s.draw n token = some s') :
    s.drawn token = none ∧
      s' = { s with drawn := Function.update s.drawn token (some n) } := by
  unfold MapStore.draw at h
  split_ifs at h with hfresh
  exact ⟨hfresh, (Option.some.inj h).symm⟩

theorem drawn_draw {token t : String} (h : s.draw n token = some s')
    (ht : s.drawn t = some m) : s'.drawn t = some m := by
  obtain ⟨hfresh, rfl⟩ := draw_cases h
  have hne : t ≠ token := by
    intro heq
    subst heq
    rw [hfresh] at ht
    cases ht
  exact (Function.update_of_ne hne _ _).trans ht

theorem MapChange.refl (n : Nat) (s : MapStore) : MapChange n s s :=
  ⟨rfl, fun _ _ h => h, fun _ => le_refl _, fun _ => .same rfl rfl⟩

theorem loads_countLoad (s : MapStore) (eventId e : String) :
    s.loads e ≤ (s.countLoad eventId).loads e := by
  by_cases he : e = eventId
  · subst he
    simp only [MapStore.countLoad, Function.update_self]
    omega
  · simp only [MapStore.countLoad, Function.update_of_ne he]
    exact le_refl _

theorem countLoad_change (n : Nat) (s : MapStore) (eventId : String) :
    MapChange n s (s.countLoad eventId) :=
  ⟨rfl, fun _ _ h => h, loads_countLoad s eventId, fun _ => .same rfl rfl⟩

/-- The release script: it deletes the caller's own live token, or leaves every key alone. -/
theorem release_mutex_cases (now : Nat) (cell : Option (Lease String)) (token : String) :
    (release_mutex now cell token).1 = cell ∨
      Lease.read now cell = some token ∧ (release_mutex now cell token).1 = none := by
  unfold release_mutex
  cases hread : Lease.read now cell with
  | none => exact .inl rfl
  | some current =>
    simp only
    split_ifs with h
    · subst h
      exact .inr ⟨rfl, rfl⟩
    · exact .inl rfl

theorem MapStep.change (h : MapStep env s n c f s' f') (hf : f.Holds n s) :
    MapChange n s s' := by
  cases h with
  | acquire_won hdraw hfree =>
    rename_i call token s₁
    have hdrawn : ∀ t m, s.drawn t = some m → s₁.drawn t = some m :=
      fun _ _ => drawn_draw hdraw
    obtain ⟨-, rfl⟩ := draw_cases hdraw
    refine ⟨rfl, hdrawn, fun _ => le_refl _, fun e => ?_⟩
    by_cases he : e = call.eventId
    · subst he
      exact .taken hfree
    · exact .same (takeMutex_lock _ n he _) (Function.update_of_ne he _ _)
  | acquire_lost hdraw hheld =>
    have hdrawn : ∀ t m, s.drawn t = some m → s'.drawn t = some m :=
      fun _ _ => drawn_draw hdraw
    obtain ⟨-, rfl⟩ := draw_cases hdraw
    exact ⟨rfl, hdrawn, fun _ => le_refl _, fun _ => .same rfl rfl⟩
  | load_error => exact countLoad_change n s _
  | load_found => exact countLoad_change n s _
  | store_done =>
    exact ⟨rfl, fun _ _ h => h, fun _ => le_refl _,
      fun e => .same (cacheMap_lock s _ e _ _) rfl⟩
  | release_done =>
    rename_i call hold outcome
    refine ⟨rfl, fun _ _ h => h, fun _ => le_refl _, fun e => ?_⟩
    by_cases he : e = call.eventId
    · subst he
      rcases release_mutex_cases s.now (s.keys (lockKey call.eventId)) hold.token with
        hsame | ⟨hread, hnone⟩
      · exact .same ((setKey_self ..).trans hsame) rfl
      · exact .released hold.token hf.sound.drawn hread ((setKey_self ..).trans hnone) rfl
    · exact .same (setKey_lock s he _) rfl
  | _ => exact MapChange.refl n s

theorem MapStep.cache (h : MapStep env s n c f s' f') (eventId : String) :
    CacheChange eventId c f s s' := by
  cases h with
  | acquire_won hdraw hfree =>
    obtain ⟨-, rfl⟩ := draw_cases hdraw
    exact .same (takeMutex_cache _ n _ eventId _) rfl
  | acquire_lost hdraw hheld => obtain ⟨-, rfl⟩ := draw_cases hdraw; exact .same rfl rfl
  | load_error => exact .same rfl rfl
  | load_found => exact .same rfl rfl
  | store_done hc =>
    rename_i call hold map load id
    by_cases he : eventId = call.eventId
    · subst he
      exact .set id call hold map load hc rfl rfl (setKey_self ..) (Function.update_self ..)
    · exact .same (setKey_other s (fun h => he (cacheKey_inj h)) _)
        (Function.update_of_ne he _ _)
  | release_done => exact .same (setKey_other s (cacheKey_ne_lockKey _ _) _) rfl
  | _ => exact .same rfl rfl

/-- The owner's own commands keep its hold, except the last one. -/
theorem MutexHold.Sound.congr {hold : MutexHold} {eventId : String}
    (h : hold.Sound eventId n s) (hdrawn : s'.drawn = s.drawn) (hnow : s'.now = s.now)
    (hkeys : s'.keys (lockKey eventId) = s.keys (lockKey eventId))
    (hacquirer : s'.acquirer eventId = s.acquirer eventId) : hold.Sound eventId n s' := by
  refine ⟨by rw [hdrawn]; exact h.drawn, by rw [hnow]; exact h.past, fun hlive => ?_⟩
  rw [hkeys, hacquirer]
  exact h.lease (hnow ▸ hlive)

theorem MapStep.next (h : MapStep env s n c f s' f') (hf : f.Holds n s) : f'.Holds n s' := by
  cases h with
  | acquire_won hdraw hfree =>
    obtain ⟨-, rfl⟩ := draw_cases hdraw
    refine ⟨Function.update_self .., le_refl _, fun _ => ⟨?_, Function.update_self ..⟩⟩
    exact Function.update_self ..
  | acquire_lost hdraw hheld =>
    simp only [MapFrame.Holds]
    omega
  | locked_error => exact hf
  | locked_hit => exact hf
  | locked_miss => exact hf
  | load_error => exact hf.sound.congr rfl rfl rfl rfl
  | load_found =>
    refine ⟨hf.sound.congr rfl rfl rfl rfl, ?_⟩
    simp only [MapStore.countLoad, Function.update_self]
    omega
  | store_error => exact hf.1
  | store_done =>
    exact hf.1.congr rfl rfl (cacheMap_lock s _ _ _ _) rfl
  | wake hw => exact Nat.le_trans hf hw
  | wait_miss _ hmore =>
    simp only [MapFrame.Holds, WAIT_DELAY_MS] at hf ⊢
    omega
  | _ => trivial

theorem MapStep.writesLoaded (h : MapStep env s n c f s' f') (hf : f.Holds n s)
    (hw : WritesLoaded s) : WritesLoaded s' := by
  intro eventId load hl
  have hloads := (h.change hf).loads eventId
  cases h.cache eventId with
  | same _ hwrites =>
    rw [hwrites] at hl
    exact Nat.lt_of_lt_of_le (hw eventId load hl) hloads
  | set id call hold map number _ hframe hcall _ hwrites =>
    rw [hwrites] at hl
    rcases List.mem_cons.mp hl with hnew | hold
    · rw [hframe] at hf
      have hnumber := hf.2
      rw [hcall, ← hnew] at hnumber
      exact Nat.lt_of_lt_of_le hnumber hloads
    · exact Nat.lt_of_lt_of_le (hw eventId load hold) hloads

/-- A live hold survives the commands of the other calls. -/
theorem MutexHold.Sound.other {hold : MutexHold} {eventId : String}
    (h : hold.Sound eventId m s) (hne : m ≠ n) (hc : MapChange n s s') :
    hold.Sound eventId m s' := by
  refine ⟨hc.drawn _ _ h.drawn, by rw [hc.now]; exact h.past, fun hlive => ?_⟩
  rw [hc.now] at hlive
  obtain ⟨hkeys, hacquirer⟩ := h.lease hlive
  have hread : Lease.read s.now (s.keys (lockKey eventId)) = some hold.token := by
    rw [hkeys]
    exact Lease.read_eq_some.mpr ⟨_, rfl, hlive, rfl⟩
  cases hc.lock eventId with
  | same hk ha => exact ⟨hk.trans hkeys, ha.trans hacquirer⟩
  | taken hfree =>
    rw [hread] at hfree
    cases hfree
  | released token howner hheld =>
    rw [hread] at hheld
    cases hheld
    rw [h.drawn] at howner
    exact absurd (Option.some.inj howner) hne

/-- Assertions survive what keeps the holds and lets time and loads only grow. -/
theorem MapFrame.Holds.mono (h : f.Holds m s)
    (hhold : ∀ (hold : MutexHold) e, hold.Sound e m s → hold.Sound e m s')
    (hnow : s.now ≤ s'.now) (hloads : ∀ e, s.loads e ≤ s'.loads e) : f.Holds m s' := by
  cases f with
  | owner call hold point =>
    cases point with
    | store map load => exact ⟨hhold _ _ h.1, Nat.lt_of_lt_of_le h.2 (hloads _)⟩
    | readCache => exact hhold _ _ h
    | loadFromDatabase => exact hhold _ _ h
    | release outcome => exact hhold _ _ h
  | waitRead call failedAt attempt => exact Nat.le_trans h hnow
  | sleep => exact h
  | _ => trivial

theorem MapFrame.Holds.other (h : f.Holds m s) (hne : m ≠ n) (hc : MapChange n s s') :
    f.Holds m s' :=
  h.mono (fun _ _ hold => hold.other hne hc) hc.now.ge hc.loads

/-- What the environment can do to the stores: time passes, a cache entry is cleared, event
rows change, scripts are lost. -/
structure MapQuiet (s s' : MapStore) : Prop where
  now : s.now ≤ s'.now
  drawn : s'.drawn = s.drawn
  loads : s'.loads = s.loads
  writes : s'.writes = s.writes
  acquirer : s'.acquirer = s.acquirer
  lock : ∀ e, s'.keys (lockKey e) = s.keys (lockKey e)
  cache : ∀ e, s'.keys (seatingMapCacheKey e) = s.keys (seatingMapCacheKey e) ∨
    s'.keys (seatingMapCacheKey e) = none

theorem MutexHold.Sound.quiet {hold : MutexHold} {eventId : String}
    (h : hold.Sound eventId m s) (hq : MapQuiet s s') : hold.Sound eventId m s' := by
  refine ⟨by rw [hq.drawn]; exact h.drawn, h.past.trans hq.now, fun hlive => ?_⟩
  rw [hq.lock, hq.acquirer]
  exact h.lease (hq.now.trans hlive)

theorem MapFrame.Holds.quiet (h : f.Holds m s) (hq : MapQuiet s s') : f.Holds m s' :=
  h.mono (fun _ _ hold => hold.quiet hq) hq.now fun e => by rw [hq.loads]

theorem clear_quiet (s : MapStore) (eventId : String) :
    MapQuiet s (s.setKey (seatingMapCacheKey eventId) none) := by
  refine ⟨le_refl _, rfl, rfl, rfl, rfl, fun e => ?_, fun e => ?_⟩
  · exact setKey_other s (cacheKey_ne_lockKey eventId e).symm none
  · by_cases he : e = eventId
    · subst he
      exact .inr (setKey_self ..)
    · exact .inl (setKey_other s (fun h => he (cacheKey_inj h)) none)

end Step

section World

variable {env : MapEnv} {world world' : MapWorld}

/-- A step of the service is a command of a call, a call coming in, or the environment's. -/
theorem map_step_cases {l : MapLabel} (h : MapWorld.step env world l = some world') :
    (∃ n c s f, l = .act n c ∧ MapStep env world.shared n c (world.point n) s f ∧
      world' = ⟨s, Function.update world.point n f⟩) ∨
    (∀ n c, l ≠ .act n c) ∧
      ((∃ n e useRedis, world.point n = .idle ∧ world' = ⟨world.shared,
          Function.update world.point n (getSeatingMapForMode e useRedis world.shared.now)⟩) ∨
        ∃ s, MapQuiet world.shared s ∧ world' = ⟨s, world.point⟩) := by
  cases l with
  | act n c =>
    obtain ⟨⟨s, f⟩, hact, rfl⟩ := Option.map_eq_some_iff.mp h
    exact .inl ⟨n, c, s, f, rfl, act_cases hact, rfl⟩
  | getSeatingMapForMode n e useRedis =>
    simp only [MapWorld.step] at h
    split at h
    next hidle => exact .inr ⟨nofun, .inl ⟨n, e, useRedis, hidle, (Option.some.inj h).symm⟩⟩
    next => cases h
  | clearSeatingMapCache e =>
    cases h
    exact .inr ⟨nofun, .inr ⟨_, clear_quiet _ e, rfl⟩⟩
  | changeEvent e event =>
    cases h
    refine .inr ⟨nofun, .inr ⟨_, ?_, rfl⟩⟩
    exact ⟨le_refl _, rfl, rfl, rfl, rfl, fun _ => rfl, fun _ => .inl rfl⟩
  | advance ms =>
    cases h
    refine .inr ⟨nofun, .inr ⟨_, ?_, rfl⟩⟩
    exact ⟨Nat.le_add_right _ _, rfl, rfl, rfl, rfl, fun _ => rfl, fun _ => .inl rfl⟩
  | flushScripts =>
    cases h
    refine .inr ⟨nofun, .inr ⟨_, ?_, rfl⟩⟩
    exact ⟨le_refl _, rfl, rfl, rfl, rfl, fun _ => rfl, fun _ => .inl rfl⟩

theorem map_valid_step (env : MapEnv) : ∀ world l world', mapOutline.Valid world →
    (seatingMaps env).step world l = some world' → mapOutline.Valid world' := by
  intro world l world' hv h
  rcases map_step_cases h with ⟨n, c, s, f, -, hstep, rfl⟩ | ⟨-, hquiet⟩
  · have hf := hv.2 n
    exact hv.move (hstep.writesLoaded hf hv.1) (hstep.next hf)
      fun m hne hm => MapFrame.Holds.other hm hne (hstep.change hf)
  · rcases hquiet with ⟨n, e, useRedis, -, rfl⟩ | ⟨s, hq, rfl⟩
    · refine hv.move hv.1 ?_ fun _ _ hm => hm
      cases useRedis <;> trivial
    · refine hv.environment (fun e load hl => ?_) fun m hm => MapFrame.Holds.quiet hm hq
      rw [hq.loads]
      rw [hq.writes] at hl
      exact hv.1 e load hl

theorem map_reach_valid (hinit : world.Initial) (h : (seatingMaps env).Reach world world') :
    mapOutline.Valid world' :=
  Machine.Reach.invariant _ (map_valid_step env) hinit.valid h

/-- Call `n` owns the mutex of an event and has not yet released it. -/
def MapFrame.Owns (eventId : String) (hold : MutexHold) : MapFrame → Prop
  | .owner call h _ => call.eventId = eventId ∧ h = hold
  | _ => False

theorem MapFrame.Owns.sound {n : Nat} {eventId : String} {hold : MutexHold}
    (hv : mapOutline.Valid world) (h : (world.point n).Owns eventId hold) :
    hold.Sound eventId n world.shared := by
  have hf : (world.point n).Holds n world.shared := hv.2 n
  generalize world.point n = f at h hf
  cases f with
  | owner call own point =>
    obtain ⟨rfl, rfl⟩ := h
    exact hf.sound
  | _ => exact h.elim

/-- Mutual exclusion: calls that own the mutex of one event within their leases are one call. -/
theorem mutex_exclusive (hv : mapOutline.Valid world) {n m : Nat} {eventId : String}
    {hold hold' : MutexHold} (hn : (world.point n).Owns eventId hold)
    (hm : (world.point m).Owns eventId hold')
    (hlive : world.shared.now ≤ hold.since + LOCK_TTL_MS)
    (hlive' : world.shared.now ≤ hold'.since + LOCK_TTL_MS) : n = m := by
  have h := ((MapFrame.Owns.sound hv hn).lease hlive).2
  rw [((MapFrame.Owns.sound hv hm).lease hlive').2] at h
  exact (Option.some.inj h).symm

end World

end TicketEngine
