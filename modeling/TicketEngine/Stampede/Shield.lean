import TicketEngine.Framework.JsonRoundTrip
import TicketEngine.Stampede.Mutex

namespace TicketEngine

/-- The call is one on the event and has not ended. -/
def MapFrame.on (eventId : String) : MapFrame → Bool
  | .getSeatingMapDirect call => call.eventId = eventId
  | .readCache call => call.eventId = eventId
  | .acquireMutex call => call.eventId = eventId
  | .owner call _ _ => call.eventId = eventId
  | .sleep call _ _ _ => call.eventId = eventId
  | .waitRead call _ _ => call.eventId = eventId
  | .idle => false
  | .ended _ _ => false

/-- The command fails: it does not get through, the event does not exist, or the release script
is not there. -/
def MapFrame.fails (env : MapEnv) (s : MapStore) (c : Choice) : MapFrame → Bool
  | .getSeatingMapDirect call | .owner call _ .loadFromDatabase =>
    !(s.loadFromDatabase env call.eventId c).isOk
  | .owner call hold (.release _) =>
    c.failed || !(s.releaseMutex env (lockKey call.eventId) hold.token).isOk
  | _ => c.failed

/-- No command of a call on the event fails. -/
def NoFailure (env : MapEnv) (eventId : String) (world : MapWorld) : MapLabel → MapWorld → Prop
  | .act n c, _ =>
    (world.point n).on eventId → (world.point n).fails env world.shared c = false
  | _, _ => True

instance {env : MapEnv} {eventId : String} {world world' : MapWorld} :
    (l : MapLabel) → Decidable (NoFailure env eventId world l world')
  | .act n c => inferInstanceAs (Decidable
      ((world.point n).on eventId → (world.point n).fails env world.shared c = false))
  | .getSeatingMapForMode _ _ _ | .clearSeatingMapCache _ | .changeEvent _ _ | .advance _
  | .flushScripts => isTrue trivial

/-- Every owner of the event's mutex is within its lease. -/
def OwnersLeased (eventId : String) (world : MapWorld) : Prop :=
  ∀ n hold, (world.point n).Owns eventId hold →
    world.shared.now ≤ hold.since + LOCK_TTL_MS

/-- After the first `start` SETs, a cache entry that is there stays there. -/
def CacheKept (eventId : String) (start : Nat) (world : MapWorld) (_ : MapLabel)
    (world' : MapWorld) : Prop :=
  start < (world.shared.writes eventId).length →
    (world.shared.visible eventId).isSome → (world'.shared.visible eventId).isSome

instance {eventId : String} {start : Nat} {world world' : MapWorld} {l : MapLabel} :
    Decidable (CacheKept eventId start world l world') :=
  inferInstanceAs (Decidable (_ → _ → _))

/-- The cache shows a map that an owner has written. -/
def Filled (eventId : String) (s : MapStore) : Prop :=
  ∃ map : SeatingMap, s.visible eventId = some (Json.stringify map.toJson)

def MapFrame.AtLoad (eventId : String) : MapFrame → Prop
  | .owner call _ .loadFromDatabase => call.eventId = eventId
  | _ => False

def MapFrame.AtStore (eventId : String) : MapFrame → Prop
  | .owner call _ (.store _ _) => call.eventId = eventId
  | _ => False

section Step

variable {env : MapEnv} {s s' : MapStore} {n : Nat} {c : Choice} {f f' : MapFrame}
  {eventId : String}

theorem MapFrame.AtLoad.owns (h : f.AtLoad eventId) : ∃ hold, f.Owns eventId hold := by
  cases f with
  | owner call hold point => cases point <;> first | exact ⟨hold, h, rfl⟩ | exact h.elim
  | _ => exact h.elim

theorem MapFrame.AtStore.owns (h : f.AtStore eventId) : ∃ hold, f.Owns eventId hold := by
  cases f with
  | owner call hold point => cases point <;> first | exact ⟨hold, h, rfl⟩ | exact h.elim
  | _ => exact h.elim

theorem MapFrame.AtStore.not_atLoad (h : f.AtStore eventId) : ¬ f.AtLoad eventId := by
  cases f with
  | owner call hold point => cases point <;> first | exact id | exact h.elim
  | _ => exact h.elim

theorem MapFrame.Owns.on {hold : MutexHold} (h : f.Owns eventId hold) :
    f.on eventId = true := by
  cases f with
  | owner call own point => exact decide_eq_true h.1
  | _ => exact h.elim

/-- A look that finds what an owner has written is a hit. -/
theorem look_filled {call : MapCall} (h : Filled call.eventId s) :
    s.look env call c ≠ .ok none := by
  obtain ⟨map, hmap⟩ := h
  unfold MapStore.visible at hmap
  cases c with
  | fail message => intro hc; cases hc
  | ok id =>
    simp only [MapStore.look, MapStore.readCachedMap, hmap, Json.parse_stringify, SeatingMap.toJson]
    intro hc
    cases hc

theorem loads_countLoad_other (s : MapStore) {e e' : String} (h : e' ≠ e) :
    (s.countLoad e).loads e' = s.loads e' :=
  Function.update_of_ne h _ _

/-- Only a command at `loadFromDatabase` counts as a load, and one that does not fail leads to
the SET. -/
theorem MapStep.loads (h : MapStep env s n c f s' f') (eventId : String) :
    s'.loads eventId = s.loads eventId ∨
      f.AtLoad eventId ∧ s'.loads eventId = s.loads eventId + 1 ∧
        (f'.AtStore eventId ∨ f.fails env s c = true) := by
  cases h with
  | acquire_won hdraw hfree => obtain ⟨-, rfl⟩ := draw_cases hdraw; exact .inl rfl
  | acquire_lost hdraw hheld => obtain ⟨-, rfl⟩ := draw_cases hdraw; exact .inl rfl
  | load_error herror =>
    rename_i call hold message
    by_cases he : eventId = call.eventId
    · subst he
      exact .inr ⟨rfl, Function.update_self .., .inr (by rw [MapFrame.fails, herror]; rfl)⟩
    · exact .inl (loads_countLoad_other s he)
  | load_found hfound =>
    rename_i call hold map
    by_cases he : eventId = call.eventId
    · subst he
      exact .inr ⟨rfl, Function.update_self .., .inl rfl⟩
    · exact .inl (loads_countLoad_other s he)
  | _ => exact .inl rfl

/-- A call comes to `loadFromDatabase` only from a miss under the mutex. -/
theorem MapStep.atLoad (h : MapStep env s n c f s' f') (hf : f'.AtLoad eventId) :
    (∃ hold, f.Owns eventId hold) ∧ ¬ f.AtStore eventId ∧ ¬ Filled eventId s := by
  cases h with
  | locked_miss hmiss =>
    rename_i call hold
    change call.eventId = eventId at hf
    subst hf
    exact ⟨⟨hold, rfl, rfl⟩, id, fun hfilled => look_filled hfilled hmiss⟩
  | _ => exact hf.elim

/-- The SET of an owner, when it goes through, fills the cache. -/
theorem MapStep.atStore (h : MapStep env s n c f s' f') (hf : f.AtStore eventId)
    (hok : f.fails env s c = false) :
    Filled eventId s' ∧ (s'.writes eventId).length = (s.writes eventId).length + 1 := by
  cases h with
  | store_error hfail => subst hfail; cases hok
  | store_done hc =>
    rename_i call hold map load id
    change call.eventId = eventId at hf
    subst hf
    refine ⟨⟨map, ?_⟩, ?_⟩
    · change Lease.read s.now ((s.setKey _ _).keys _) = _
      rw [setKey_self, Lease.read_fresh]
    · simp only [MapStore.cacheMap, Function.update_self, List.length_cons]
  | _ => exact hf.elim

theorem MapStep.writes_le (h : MapStep env s n c f s' f') (eventId : String) :
    (s.writes eventId).length ≤ (s'.writes eventId).length := by
  cases h.cache eventId with
  | same _ hwrites => rw [hwrites]
  | set _ _ _ _ _ _ _ _ _ hwrites => rw [hwrites]; exact Nat.le_succ _

/-- No command empties a filled cache. -/
theorem MapStep.filled (h : MapStep env s n c f s' f') (hf : f.Holds n s)
    (hfilled : Filled eventId s) : Filled eventId s' := by
  have hnow := (h.change hf).now
  unfold Filled MapStore.visible at *
  rw [hnow]
  cases h.cache eventId with
  | same hkeys => rw [hkeys]; exact hfilled
  | set id call hold map load _ _ _ hkeys =>
    rw [hkeys]
    exact ⟨map, Lease.read_fresh ..⟩

end Step

/-- The loads since the start of the interval: none yet, or one, and then nobody stands before
a load, and the loaded map is on the way to the cache or in it. -/
def Shield (eventId : String) (loads writes : Nat) (world : MapWorld) : Prop :=
  writes ≤ (world.shared.writes eventId).length ∧
    (world.shared.loads eventId = loads ∨
      world.shared.loads eventId = loads + 1 ∧
        (∀ n, ¬ (world.point n).AtLoad eventId) ∧
        ((∃ n, (world.point n).AtStore eventId) ∨
          writes < (world.shared.writes eventId).length ∧ Filled eventId world.shared))

section World

variable {env : MapEnv} {world world' : MapWorld} {eventId : String} {loads writes : Nat}

theorem filled_of_visible {s s' : MapStore} (hfilled : Filled eventId s) (hnow : s.now ≤ s'.now)
    (hkeys : s'.keys (seatingMapCacheKey eventId) = s.keys (seatingMapCacheKey eventId) ∨
      s'.keys (seatingMapCacheKey eventId) = none)
    (hkept : (s'.visible eventId).isSome) : Filled eventId s' := by
  obtain ⟨map, hmap⟩ := hfilled
  obtain ⟨text, htext⟩ := Option.isSome_iff_exists.mp hkept
  unfold Filled MapStore.visible at *
  rcases hkeys with hkeys | hkeys
  · rw [hkeys] at htext ⊢
    exact ⟨map, htext.trans ((Lease.read_earlier hnow htext).symm.trans hmap)⟩
  · rw [hkeys] at htext
    cases htext

/-- Owners of one mutex within their leases are one call. -/
theorem OwnersLeased.eq (hleased : OwnersLeased eventId world) (hv : mapOutline.Valid world)
    {n m : Nat} (hn : ∃ hold, (world.point n).Owns eventId hold)
    (hm : ∃ hold, (world.point m).Owns eventId hold) : n = m := by
  obtain ⟨hold, hn⟩ := hn
  obtain ⟨hold', hm⟩ := hm
  exact mutex_exclusive hv hn hm (hleased n hold hn) (hleased m hold' hm)

/-- A command of a call keeps the shield. -/
theorem shield_act (h : Shield eventId loads writes world) (hv : mapOutline.Valid world)
    (hleased : OwnersLeased eventId world) {n : Nat} {c : Choice}
    (hok : (world.point n).on eventId → (world.point n).fails env world.shared c = false)
    {s : MapStore} {f : MapFrame} (hstep : MapStep env world.shared n c (world.point n) s f) :
    Shield eventId loads writes ⟨s, Function.update world.point n f⟩ := by
  obtain ⟨hcount, hzero | ⟨hone, hnone, hway⟩⟩ := h
  · refine ⟨hcount.trans (hstep.writes_le eventId), ?_⟩
    rcases hstep.loads eventId with hsame | ⟨hat, hplus, hnext⟩
    · exact .inl (hsame.trans hzero)
    · have hstored : f.AtStore eventId :=
        hnext.resolve_right (ne_true_of_eq_false (hok hat.owns.choose_spec.on))
      refine .inr ⟨hplus.trans (by rw [hzero]), fun m hm => ?_, .inl ⟨n, ?_⟩⟩
      · by_cases hmn : m = n
        · subst hmn
          simp only [Function.update_self] at hm
          exact hstored.not_atLoad hm
        · simp only [Function.update_of_ne hmn] at hm
          exact hmn (hleased.eq hv hm.owns hat.owns)
      · simpa only [Function.update_self] using hstored
  · refine ⟨hcount.trans (hstep.writes_le eventId), .inr ⟨?_, fun m hm => ?_, ?_⟩⟩
    · rcases hstep.loads eventId with hsame | ⟨hat, -⟩
      · exact hsame.trans hone
      · exact absurd hat (hnone n)
    · by_cases hmn : m = n
      · subst hmn
        simp only [Function.update_self] at hm
        obtain ⟨howns, hnot, hempty⟩ := hstep.atLoad hm
        rcases hway with ⟨k, hk⟩ | ⟨-, hfilled⟩
        · have hkm := hleased.eq hv hk.owns howns
          subst hkm
          exact hnot hk
        · exact hempty hfilled
      · simp only [Function.update_of_ne hmn] at hm
        exact hnone m hm
    · rcases hway with ⟨k, hk⟩ | ⟨hset, hfilled⟩
      · by_cases hkn : k = n
        · subst hkn
          obtain ⟨hfilled, hlength⟩ := hstep.atStore hk (hok hk.owns.choose_spec.on)
          exact .inr ⟨by simp only; omega, hfilled⟩
        · exact .inl ⟨k, by simpa only [Function.update_of_ne hkn] using hk⟩
      · exact .inr ⟨hset.trans_le (hstep.writes_le eventId), hstep.filled (hv.2 n) hfilled⟩

/-- The environment leaves the shield up as long as it leaves the cache entry there. -/
theorem shield_quiet {s : MapStore} (h : Shield eventId loads writes world)
    (hq : MapQuiet world.shared s)
    (hkept : writes < (world.shared.writes eventId).length →
      (world.shared.visible eventId).isSome → (s.visible eventId).isSome) :
    Shield eventId loads writes ⟨s, world.point⟩ := by
  unfold Shield
  rw [hq.loads, hq.writes]
  refine h.imp_right (Or.imp_right fun ⟨hone, hnone, hway⟩ => ⟨hone, hnone, ?_⟩)
  refine hway.imp_right fun ⟨hset, hfilled⟩ => ⟨hset, ?_⟩
  have hsome : (world.shared.visible eventId).isSome := by
    obtain ⟨map, hmap⟩ := hfilled
    rw [hmap]
    rfl
  exact filled_of_visible hfilled hq.now (hq.cache eventId) (hkept hset hsome)

/-- A call that comes in stands neither before a load nor before a SET. -/
theorem shield_enter {n : Nat} {e : String} {useRedis : Bool}
    (h : Shield eventId loads writes world) (hidle : world.point n = .idle) :
    Shield eventId loads writes ⟨world.shared, Function.update world.point n
      (getSeatingMapForMode e useRedis world.shared.now)⟩ := by
  refine h.imp_right (Or.imp_right fun ⟨hone, hnone, hway⟩ => ⟨hone, ?_, hway.imp_left ?_⟩)
  · refine (Function.forall_update_iff _ fun _ (f : MapFrame) => ¬ f.AtLoad eventId).mpr
      ⟨?_, fun m _ => hnone m⟩
    cases useRedis <;> exact id
  · intro ⟨m, hm⟩
    have hmn : m ≠ n := by
      intro heq
      subst heq
      rw [hidle] at hm
      exact hm
    exact ⟨m, by simpa only [Function.update_of_ne hmn] using hm⟩

theorem shield_step {l : MapLabel} (h : Shield eventId loads writes world)
    (hv : mapOutline.Valid world) (hleased : OwnersLeased eventId world)
    (hok : NoFailure env eventId world l world') (hkept : CacheKept eventId writes world l world')
    (hstep : MapWorld.step env world l = some world') : Shield eventId loads writes world' := by
  rcases map_step_cases hstep with ⟨n, c, s, f, rfl, hact, rfl⟩ | ⟨-, hquiet⟩
  · exact shield_act h hv hleased hok hact
  · rcases hquiet with ⟨n, e, useRedis, hidle, rfl⟩ | ⟨s, hq, rfl⟩
    · exact shield_enter h hidle
    · exact shield_quiet h hq hkept

end World

/-- The stampede shield: in an interval in which the cache entry of an event is kept once it has
been set, no owner outlives its lease and no command fails, `loadFromDatabase` runs at most once
for the event. -/
theorem stampede_shield {env : MapEnv} {world₀ world world' : MapWorld} {ls : List MapLabel}
    (hinit : world₀.Initial) (hreach : (seatingMaps env).Reach world₀ world) (eventId : String)
    (hrun : (seatingMaps env).run world ls = some world')
    (hok : (seatingMaps env).Along (NoFailure env eventId) world ls)
    (hleased : (seatingMaps env).Every (OwnersLeased eventId) world ls)
    (hkept : (seatingMaps env).Along
      (CacheKept eventId (world.shared.writes eventId).length) world ls) :
    world'.shared.loads eventId ≤ world.shared.loads eventId + 1 := by
  have hstart : mapOutline.Valid world ∧
      Shield eventId (world.shared.loads eventId) (world.shared.writes eventId).length world :=
    ⟨map_reach_valid hinit hreach, le_refl _, .inl rfl⟩
  have hcond := Machine.Along.and _ (Machine.Along.and _ hok hkept) (Machine.Every.along _ hleased)
  have hevery := Machine.every_of_along (seatingMaps env) (I := fun w => mapOutline.Valid w ∧
      Shield eventId (world.shared.loads eventId) (world.shared.writes eventId).length w)
    (fun w l w' hw hstep hc => ⟨map_valid_step env w l w' hw.1 hstep,
      shield_step hw.2 hw.1 hc.2.1 hc.1.1 hc.1.2 hstep⟩) hstart hcond
  obtain ⟨-, -, hzero | ⟨hone, -⟩⟩ := Machine.Every.last _ hevery hrun
  · omega
  · omega

/-- Two calls miss the cache, and the second takes the mutex only after the first has filled the
cache and released it. -/
def delayedReader : List MapLabel :=
  [.getSeatingMapForMode 0 "e" true, .getSeatingMapForMode 1 "e" true] ++ mapActs 0 [""] ++
    mapActs 1 [""] ++ mapActs 0 ["t0", "", "", "", ""] ++ mapActs 1 ["t1", "", ""]

/-- While the clock is within the first lease, every owner is. -/
theorem every_ownersLeased {env : MapEnv} {world : MapWorld} {ls : List MapLabel}
    (eventId : String)
    (h : (seatingMaps env).Every (fun world => world.shared.now ≤ LOCK_TTL_MS) world ls) :
    (seatingMaps env).Every (OwnersLeased eventId) world ls :=
  h.mono _ fun _ hw _ _ _ => Nat.le_add_left_of_le hw

theorem stampede_shield_delayedReader :
    ∃ world, (seatingMaps plainEnv).run coldCache delayedReader = some world ∧
      world.shared.loads "e" ≤ coldCache.shared.loads "e" + 1 := by
  have hsome : ((seatingMaps plainEnv).run coldCache delayedReader).isSome = true := by
    decide +kernel
  obtain ⟨world, hrun⟩ := Option.isSome_iff_exists.mp hsome
  refine ⟨world, hrun, stampede_shield coldCache_initial (Machine.Reach.refl _ _) "e" hrun
    ?_ (every_ownersLeased "e" ?_) ?_⟩
  · decide +kernel
  · decide +kernel
  · decide +kernel

end TicketEngine
