import TicketEngine.Stampede.Served

namespace TicketEngine

/-! ## The mutex alone -/

/-- One mutex key, and the acquisitions of it so far, newest first. -/
structure MutexRun where
  store : MapStore
  acquired : List MutexHold

inductive MutexCall
  | acquireMutex (n : Nat) (token : String)
  | releaseMutex (token : String)
  | advance (ms : Nat)

/-- A call of `acquireMutex` or `releaseMutex` that reaches Redis, or time passing. -/
def MutexRun.step (env : MapEnv) (key : String) (run : MutexRun) : MutexCall → Option MutexRun
  | .acquireMutex n token => do
    let s ← run.store.draw n token
    match acquireMutex s.now (s.keys key) token with
    | (cell, some token) => return ⟨s.setKey key cell, ⟨token, s.now⟩ :: run.acquired⟩
    | (_, none) => return ⟨s, run.acquired⟩
  | .releaseMutex token =>
    match run.store.releaseMutex env key token with
    | .ok s => some ⟨s, run.acquired⟩
    | .error _ => none
  | .advance ms => some ⟨{ run.store with now := run.store.now + ms }, run.acquired⟩

def mutexCalls (env : MapEnv) (key : String) : Machine MutexRun MutexCall where
  step := MutexRun.step env key

/-- Nobody has taken the mutex yet. -/
structure MutexRun.Initial (key : String) (run : MutexRun) : Prop where
  free : run.store.keys key = none
  acquired : run.acquired = []

/-- The token that Redis shows under a mutex key. -/
def MapStore.Stores (s : MapStore) (key token : String) : Prop :=
  Lease.read s.now (s.keys key) = some token

def OneToken (key : String) (run : MutexRun) : Prop :=
  ∀ token token', run.store.Stores key token → run.store.Stores key token' → token = token'

/-- What is stored is the token of the last acquisition, under the deadline it was given then. -/
def LastOwns (key : String) (run : MutexRun) : Prop :=
  ∀ token, run.store.Stores key token → ∃ since before,
    run.acquired = ⟨token, since⟩ :: before ∧
      run.store.keys key = some ⟨token, since + LOCK_TTL_MS⟩

/-- A release by an owner whose lease is over leaves every key, and its deadline, as it is. -/
def LateReleaseKeeps (env : MapEnv) (key : String) (run : MutexRun) : Prop :=
  ∀ hold ∈ run.acquired, hold.since + LOCK_TTL_MS < run.store.now →
    ∀ run', run.step env key (.releaseMutex hold.token) = some run' →
      run'.store.keys = run.store.keys

/-- The cell of the key is free or the last acquisition's, and no two acquisitions have one
token. -/
structure MutexRun.Sound (key : String) (run : MutexRun) : Prop where
  cell : run.store.keys key = none ∨ ∃ hold before, run.acquired = hold :: before ∧
    run.store.keys key = some ⟨hold.token, hold.since + LOCK_TTL_MS⟩
  distinct : run.acquired.Pairwise fun a b => a.token ≠ b.token
  drawn : ∀ hold ∈ run.acquired, run.store.drawn hold.token ≠ none

section Alone

variable {env : MapEnv} {key token : String} {run run' : MutexRun}

theorem MutexRun.Initial.sound (h : run.Initial key) : run.Sound key := by
  refine ⟨.inl h.free, ?_, ?_⟩
  · rw [h.acquired]
    exact .nil
  · rw [h.acquired]
    intro hold hmem
    cases hmem

theorem releaseMutex_ok {s s' : MapStore} (h : s.releaseMutex env key token = .ok s') :
    s' = s.setKey key (release_mutex s.now (s.keys key) token).1 := by
  unfold MapStore.releaseMutex at h
  split at h
  · cases h
  · split_ifs at h
    cases h
    rfl

/-- A release deletes the caller's own stored token or changes no key. -/
theorem release_keys (s : MapStore) (key token : String) :
    (s.setKey key (release_mutex s.now (s.keys key) token).1).keys = s.keys ∨
      s.Stores key token ∧
        (s.setKey key (release_mutex s.now (s.keys key) token).1).keys key = none := by
  rcases release_mutex_cases s.now (s.keys key) token with hsame | ⟨hread, hnone⟩
  · left
    simp only [MapStore.setKey, hsame, Function.update_eq_self]
  · right
    exact ⟨hread, by rw [hnone, setKey_self]⟩

/-- The drawn token becomes the last acquisition, or the key is held and nothing is taken. -/
theorem acquire_step {n : Nat} (h : run.step env key (.acquireMutex n token) = some run') :
    run.store.drawn token = none ∧ run'.store.drawn token ≠ none ∧
      (∀ t, run.store.drawn t ≠ none → run'.store.drawn t ≠ none) ∧
      (run'.acquired = run.acquired ∧ run'.store.keys = run.store.keys ∨
        run'.acquired = ⟨token, run.store.now⟩ :: run.acquired ∧
          run'.store.keys key = some ⟨token, run.store.now + LOCK_TTL_MS⟩) := by
  obtain ⟨s, hdraw, h⟩ := Option.bind_eq_some_iff.mp h
  obtain ⟨hfresh, rfl⟩ := draw_cases hdraw
  have hmine : Function.update run.store.drawn token (some n) token ≠ none := by
    simp
  have hkept : ∀ t, run.store.drawn t ≠ none →
      Function.update run.store.drawn token (some n) t ≠ none := by
    intro t ht
    by_cases heq : t = token
    · subst heq
      exact absurd hfresh ht
    · rwa [Function.update_of_ne heq]
  simp only [acquireMutex] at h
  cases hread : Lease.read run.store.now (run.store.keys key) with
  | none =>
    simp only [hread] at h
    cases h
    exact ⟨hfresh, hmine, hkept, .inr ⟨rfl, setKey_self ..⟩⟩
  | some value =>
    simp only [hread] at h
    cases h
    exact ⟨hfresh, hmine, hkept, .inl ⟨rfl, rfl⟩⟩

theorem mutex_sound_step (env : MapEnv) (key : String) : ∀ run call run', run.Sound key →
    (mutexCalls env key).step run call = some run' → run'.Sound key := by
  intro run call run' hsound h
  cases call with
  | acquireMutex n token =>
    have hstep : run.step env key (.acquireMutex n token) = some run' := h
    obtain ⟨hfresh, hmine, hkept, ⟨hacquired, hkeys⟩ | ⟨hacquired, hkeys⟩⟩ := acquire_step hstep
    · refine ⟨?_, ?_, ?_⟩
      · rw [hacquired, hkeys]
        exact hsound.cell
      · rw [hacquired]
        exact hsound.distinct
      · rw [hacquired]
        exact fun hold hmem => hkept _ (hsound.drawn hold hmem)
    · refine ⟨.inr ⟨_, _, hacquired, hkeys⟩, ?_, ?_⟩
      · rw [hacquired, List.pairwise_cons]
        refine ⟨fun hold hmem heq => ?_, hsound.distinct⟩
        simp only at heq
        rw [heq] at hfresh
        exact hsound.drawn hold hmem hfresh
      · rw [hacquired]
        intro hold hmem
        rcases List.mem_cons.mp hmem with rfl | hmem
        · exact hmine
        · exact hkept _ (hsound.drawn hold hmem)
  | releaseMutex token =>
    simp only [mutexCalls, MutexRun.step] at h
    split at h
    next s hs =>
      cases h
      have hrelease := releaseMutex_ok hs
      subst hrelease
      refine ⟨?_, hsound.distinct, hsound.drawn⟩
      rcases release_keys run.store key token with hsame | ⟨-, hnone⟩
      · simp only [hsame]
        exact hsound.cell
      · exact .inl hnone
    · cases h
  | advance ms =>
    cases h
    exact ⟨hsound.cell, hsound.distinct, hsound.drawn⟩

theorem MutexRun.Sound.lastOwns (h : run.Sound key) : LastOwns key run := by
  intro token hstored
  obtain ⟨c, hc, -, hvalue⟩ := Lease.read_eq_some.mp hstored
  rcases h.cell with hfree | ⟨hold, before, hacquired, hkeys⟩
  · rw [hfree] at hc
    cases hc
  · rw [hkeys] at hc
    cases hc
    subst hvalue
    exact ⟨hold.since, before, hacquired, hkeys⟩

theorem MutexRun.Sound.lateReleaseKeeps (h : run.Sound key) : LateReleaseKeeps env key run := by
  intro hold hmem hlate run' hstep
  simp only [MutexRun.step] at hstep
  split at hstep
  next s hs =>
    cases hstep
    rw [releaseMutex_ok hs]
    rcases release_keys run.store key hold.token with hsame | ⟨hstored, -⟩
    · exact hsame
    · -- A stored token is the last one, and nobody else ever had it.
      obtain ⟨since, before, hacquired, hkeys⟩ := h.lastOwns _ hstored
      obtain ⟨c, hc, hlive, -⟩ := Lease.read_eq_some.mp hstored
      rw [hkeys] at hc
      cases hc
      have hdistinct := h.distinct
      rw [hacquired, List.pairwise_cons] at hdistinct
      rw [hacquired] at hmem
      rcases List.mem_cons.mp hmem with hlast | hearlier
      · rw [hlast] at hlate
        simp only at hlate hlive
        omega
      · exact absurd rfl (hdistinct.1 hold hearlier)
  · cases hstep

end Alone

/-! ## The calls of the service -/

/-- No release of the step's call fails: the command arrives, and the script is loaded. -/
def ReleaseRuns (env : MapEnv) (world : MapWorld) (l : MapLabel) (_ : MapWorld) : Prop :=
  ∀ n c call hold outcome, l = .act n c → world.point n = .owner call hold (.release outcome) →
    (∃ id, c = .ok id) ∧ env.digests .releaseMutex = true ∧
      world.shared.cached .releaseMutex = true

/-- A call that has the mutex can always go on, ends within four commands, and if its release
runs, then from its end on its token is not stored. -/
def CleansUp (env : MapEnv) (world : MapWorld) : Prop :=
  ∀ n call hold point, world.point n = .owner call hold point →
    (∀ c, ((seatingMaps env).step world (.act n c)).isSome = true) ∧
    ∀ ls world', (seatingMaps env).run world ls = some world' →
      ls.countP (MapLabel.actOf n) ≤ 4 ∧
      ((seatingMaps env).Along (ReleaseRuns env) world ls →
        (∃ e outcome, world'.point n = .ended e outcome) →
          ¬ world'.shared.Stores (lockKey call.eventId) hold.token)

/-- The call still owns the mutex, or its token has gone for good. -/
def OwnsOrCleared (n : Nat) (call : MapCall) (hold : MutexHold) (world : MapWorld) : Prop :=
  (world.shared.drawn hold.token = some n ∧ ∃ point, world.point n = .owner call hold point) ∨
    ∃ m, world.shared.drawn hold.token = some m ∧
      ¬ world.shared.Stores (lockKey call.eventId) hold.token

section Calls

variable {env : MapEnv} {s s' : MapStore} {n : Nat} {c : Choice} {f f' : MapFrame}
  {world world' : MapWorld} {call : MapCall} {hold : MutexHold}

/-- No command brings a drawn token back. -/
theorem MapStep.stores (h : MapStep env s n c f s' f') {eventId token : String} {m : Nat}
    (hdrawn : s.drawn token = some m) (hstored : s'.Stores (lockKey eventId) token) :
    s.Stores (lockKey eventId) token := by
  cases h with
  | acquire_won hdraw hfree =>
    rename_i call fresh s₁
    obtain ⟨hfresh, rfl⟩ := draw_cases hdraw
    by_cases he : eventId = call.eventId
    · subst he
      obtain ⟨c', hc', -, hvalue⟩ := Lease.read_eq_some.mp hstored
      simp only [MapStore.takeMutex, setKey_self] at hc'
      cases hc'
      simp only at hvalue
      rw [← hvalue, hfresh] at hdrawn
      cases hdrawn
    · unfold MapStore.Stores at hstored ⊢
      rwa [takeMutex_lock _ n he] at hstored
  | acquire_lost hdraw hheld =>
    obtain ⟨-, rfl⟩ := draw_cases hdraw
    exact hstored
  | store_done =>
    unfold MapStore.Stores at hstored ⊢
    rwa [cacheMap_lock] at hstored
  | release_done =>
    rename_i call hold outcome
    by_cases he : eventId = call.eventId
    · subst he
      rcases release_keys s (lockKey call.eventId) hold.token with hsame | ⟨-, hnone⟩
      · unfold MapStore.Stores at hstored ⊢
        rwa [hsame] at hstored
      · unfold MapStore.Stores at hstored
        rw [hnone] at hstored
        cases hstored
    · unfold MapStore.Stores at hstored ⊢
      rwa [setKey_lock s he] at hstored
  | _ => exact hstored

theorem quiet_stores {eventId token : String} (hq : MapQuiet s s')
    (hstored : s'.Stores (lockKey eventId) token) : s.Stores (lockKey eventId) token := by
  unfold MapStore.Stores at hstored ⊢
  rw [hq.lock] at hstored
  exact Lease.read_earlier hq.now hstored

/-- After the release script has run with a token, that token is not stored. -/
theorem release_clears (now : Nat) (cell : Option (Lease String)) (token : String) :
    Lease.read now (release_mutex now cell token).1 ≠ some token := by
  intro hread
  rcases release_mutex_cases now cell token with hsame | ⟨-, hnone⟩
  · rw [hsame] at hread
    have hdeleted : (release_mutex now cell token).1 = none := by
      simp only [release_mutex, hread, if_true]
    rw [hdeleted] at hsame
    rw [← hsame] at hread
    cases hread
  · rw [hnone] at hread
    cases hread

/-- The owner's own command: it stays the owner, or it has released and its token is gone. -/
theorem MapStep.ownsOrCleared {point : OwnerPoint}
    (h : MapStep env s n c (.owner call hold point) s' f')
    (hruns : ∀ outcome, point = .release outcome → (∃ id, c = .ok id) ∧
      env.digests .releaseMutex = true ∧ s.cached .releaseMutex = true) :
    (∃ point', f' = .owner call hold point') ∨ ¬ s'.Stores (lockKey call.eventId) hold.token := by
  cases h with
  | release_error hfailed =>
    rename_i outcome message
    obtain ⟨⟨id, hc⟩, hdigest, hcached⟩ := hruns outcome rfl
    rcases hfailed with hfail | hmissing | hlost
    · rw [hc] at hfail
      cases hfail
    · rw [hdigest] at hmissing
      cases hmissing
    · rw [hcached] at hlost
      cases hlost
  | release_done =>
    right
    intro hstored
    simp only [MapStore.Stores, setKey_self] at hstored
    exact release_clears _ _ _ hstored
  | _ => exact .inl ⟨_, rfl⟩

theorem ownsOrCleared_step {l : MapLabel} (hv : mapOutline.Valid world)
    (h : MapWorld.step env world l = some world') (hruns : ReleaseRuns env world l world')
    (howns : OwnsOrCleared n call hold world) : OwnsOrCleared n call hold world' := by
  rcases map_step_cases h with ⟨m, c, s, f, rfl, hstep, rfl⟩ | ⟨-, hquiet⟩
  · have hdrawn := (hstep.change (hv.2 m)).drawn hold.token
    rcases howns with ⟨hmine, point, hpoint⟩ | ⟨k, hk, hcleared⟩
    · by_cases hnm : n = m
      · subst hnm
        rw [hpoint] at hstep
        have hnext := hstep.ownsOrCleared fun outcome hrelease =>
          hruns n c call hold outcome rfl (hrelease ▸ hpoint)
        rcases hnext with ⟨point', rfl⟩ | hcleared
        · exact .inl ⟨hdrawn n hmine, point', Function.update_self ..⟩
        · exact .inr ⟨n, hdrawn n hmine, hcleared⟩
      · exact .inl ⟨hdrawn n hmine, point, (Function.update_of_ne hnm _ _).trans hpoint⟩
    · exact .inr ⟨k, hdrawn k hk, fun hstored => hcleared (hstep.stores hk hstored)⟩
  · rcases hquiet with ⟨m, e, useRedis, hidle, rfl⟩ | ⟨s, hq, rfl⟩
    · rcases howns with ⟨hmine, point, hpoint⟩ | hcleared
      · have hnm : n ≠ m := by
          intro heq
          subst heq
          rw [hpoint] at hidle
          cases hidle
        exact .inl ⟨hmine, point, (Function.update_of_ne hnm _ _).trans hpoint⟩
      · exact .inr hcleared
    · have hdrawn : ∀ k, world.shared.drawn hold.token = some k →
          s.drawn hold.token = some k := by
        intro k hk
        rw [hq.drawn]
        exact hk
      rcases howns with ⟨hmine, hpoint⟩ | ⟨k, hk, hcleared⟩
      · exact .inl ⟨hdrawn n hmine, hpoint⟩
      · exact .inr ⟨k, hdrawn k hk, fun hstored => hcleared (quiet_stores hq hstored)⟩

theorem cleansUp (hv : mapOutline.Valid world) : CleansUp env world := by
  intro n call hold point hpoint
  have hbegun : Begun n world := by
    intro hidle
    rw [hpoint] at hidle
    cases hidle
  refine ⟨fun c => ?_, fun ls world' hrun => ⟨?_, fun hruns hended => ?_⟩⟩
  · simp only [seatingMaps, MapWorld.step, hpoint, MapFrame.act, Option.map_some,
      Option.isSome_some]
  · have hrank : (world.point n).rank ≤ 4 := by
      rw [hpoint]
      cases point <;> simp [MapFrame.rank]
    have hcount := commands_le_rank hbegun hrun
    omega
  · have hstart : OwnsOrCleared n call hold world := by
      have hholds : (world.point n).Holds n world.shared := hv.2 n
      rw [hpoint] at hholds
      exact .inl ⟨hholds.sound.drawn, point, hpoint⟩
    have hevery := Machine.every_of_along (seatingMaps env)
      (I := fun w => mapOutline.Valid w ∧ OwnsOrCleared n call hold w)
      (fun w l w' hw hstep hc =>
        ⟨map_valid_step env w l w' hw.1 hstep, ownsOrCleared_step hw.1 hstep hc hw.2⟩)
      ⟨hv, hstart⟩ hruns
    rcases (hevery.last _ hrun).2 with ⟨-, point', hpoint'⟩ | ⟨-, -, hcleared⟩
    · obtain ⟨e, outcome, hend⟩ := hended
      rw [hpoint'] at hend
      cases hend
    · exact hcleared

end Calls

/-- Mutex ownership. In every run of calls on one key the only token stored is that of the last
acquisition, under its own deadline, and an owner whose lease is over releases nothing; and in
every run of the service a call that has taken the mutex ends with its token gone. -/
theorem mutex_ownership (env : MapEnv) {key : String} {start : MutexRun}
    (hstart : start.Initial key) (calls : List MutexCall) {world₀ : MapWorld}
    (hinit : world₀.Initial) (ls : List MapLabel) :
    (mutexCalls env key).Every
        (fun run => OneToken key run ∧ LastOwns key run ∧ LateReleaseKeeps env key run)
        start calls ∧
      (seatingMaps env).Every (CleansUp env) world₀ ls := by
  constructor
  · have hsound := Machine.every_of_invariant (mutexCalls env key) (mutex_sound_step env key) calls
      hstart.sound
    refine Machine.Every.mono _ (fun run h => ⟨?_, h.lastOwns, h.lateReleaseKeeps⟩) hsound
    intro token token' hstored hstored'
    exact Option.some.inj (hstored.symm.trans hstored')
  · have hvalid := Machine.every_of_invariant (seatingMaps env) (map_valid_step env) ls hinit.valid
    exact Machine.Every.mono _ (fun _ hv => cleansUp hv) hvalid

/-- The first owner releases after its lease, when a second one has the mutex. -/
def lateMutexRelease : List MutexCall :=
  [.acquireMutex 0 "t0", .advance 5001, .acquireMutex 1 "t1", .releaseMutex "t0"]

theorem mutex_ownership_late :
    ((mutexCalls plainEnv (lockKey "e")).run ⟨coldCache.shared, []⟩ lateMutexRelease).map
        (fun run => run.store.keys (lockKey "e")) = some (some ⟨"t1", 10001⟩) ∧
      (mutexCalls plainEnv (lockKey "e")).Every
        (fun run => OneToken (lockKey "e") run ∧ LastOwns (lockKey "e") run ∧
          LateReleaseKeeps plainEnv (lockKey "e") run) ⟨coldCache.shared, []⟩ lateMutexRelease ∧
      (seatingMaps plainEnv).Every (CleansUp plainEnv) coldCache lateSet := by
  have hstart : MutexRun.Initial (lockKey "e") ⟨coldCache.shared, []⟩ := ⟨rfl, rfl⟩
  have h := mutex_ownership plainEnv hstart lateMutexRelease coldCache_initial lateSet
  exact ⟨by decide +kernel, h.1, h.2⟩

end TicketEngine
