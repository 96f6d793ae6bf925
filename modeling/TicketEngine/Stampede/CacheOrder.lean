import TicketEngine.Stampede.Mutex

namespace TicketEngine

/-- The cache was never written with an older load after a newer one. -/
def CacheOrdered (eventId : String) (s : MapStore) : Prop :=
  (s.writes eventId).Pairwise (· ≥ ·)

/-- The step is the SET of an owner on the event. -/
def Sets (eventId : String) (world : MapWorld) (l : MapLabel) (n : Nat) (hold : MutexHold)
    (load : Nat) : Prop :=
  ∃ id call map, l = .act n (.ok id) ∧ world.point n = .owner call hold (.store map load) ∧
    call.eventId = eventId

/-- An owner executes its SET only while no other call has taken the mutex since. -/
def SetsAsOwner (eventId : String) (world : MapWorld) (l : MapLabel) (_ : MapWorld) : Prop :=
  ∀ n hold load, Sets eventId world l n hold load → world.shared.acquirer eventId = some n

/-- An owner executes its SET only within its lease. -/
def SetsInLease (eventId : String) (world : MapWorld) (l : MapLabel) (_ : MapWorld) : Prop :=
  ∀ n hold load, Sets eventId world l n hold load →
    world.shared.now ≤ hold.since + LOCK_TTL_MS

/-- The load that the last call to take the mutex is about to write is as new as any written. -/
def LastIsNewest (eventId : String) (world : MapWorld) : Prop :=
  ∀ n call hold map load, world.point n = .owner call hold (.store map load) →
    call.eventId = eventId → world.shared.acquirer eventId = some n →
    ∀ written ∈ world.shared.writes eventId, written ≤ load

section Step

variable {env : MapEnv} {world world' : MapWorld} {eventId : String}

theorem setsAsOwner_of_lease {l : MapLabel} (hv : mapOutline.Valid world)
    (h : SetsInLease eventId world l world') : SetsAsOwner eventId world l world' := by
  intro n hold load hall
  obtain ⟨id, call, map, rfl, hpoint, hcall⟩ := hall
  have howns : (world.point n).Owns eventId hold := by
    rw [hpoint]
    exact ⟨hcall, rfl⟩
  exact ((howns.sound hv).lease
    (h n hold load ⟨id, call, map, rfl, hpoint, hcall⟩)).2

/-- The last acquirer changes only by a command of the new one. -/
theorem MapStep.acquirer {s s' : MapStore} {n m : Nat} {c : Choice} {f f' : MapFrame}
    (h : MapStep env s n c f s' f') (hm : s'.acquirer eventId = some m) (hne : m ≠ n) :
    s.acquirer eventId = some m := by
  cases h with
  | acquire_won hdraw hfree =>
    rename_i call token s₁
    obtain ⟨-, rfl⟩ := draw_cases hdraw
    simp only [MapStore.takeMutex, MapStore.setKey, Function.update_apply] at hm
    split_ifs at hm with he
    · exact absurd (Option.some.inj hm).symm hne
    · exact hm
  | acquire_lost hdraw hheld => obtain ⟨-, rfl⟩ := draw_cases hdraw; exact hm
  | _ => exact hm

/-- A map comes to its SET with the number of the load just made. -/
theorem MapStep.toStore {s s' : MapStore} {n : Nat} {c : Choice} {f f' : MapFrame}
    {call : MapCall} {hold : MutexHold} {map : SeatingMap} {load : Nat}
    (h : MapStep env s n c f s' f') (hf' : f' = .owner call hold (.store map load)) :
    s'.writes = s.writes ∧ load = s.loads call.eventId := by
  cases h with
  | load_found hfound => cases hf'; exact ⟨rfl, rfl⟩
  | _ => cases hf'

theorem lastIsNewest_act {n : Nat} {c : Choice} {s : MapStore} {f : MapFrame}
    (hv : mapOutline.Valid world) (hlast : LastIsNewest eventId world)
    (howner : SetsAsOwner eventId world (.act n c) ⟨s, Function.update world.point n f⟩)
    (hstep : MapStep env world.shared n c (world.point n) s f) :
    LastIsNewest eventId ⟨s, Function.update world.point n f⟩ := by
  intro m call hold map load hpoint hcall hm written hw
  by_cases hmn : m = n
  · subst hmn
    simp only [Function.update_self] at hpoint
    obtain ⟨hwrites, rfl⟩ := hstep.toStore hpoint
    simp only [hwrites] at hw
    rw [hcall]
    exact (hv.1 eventId written hw).le
  · simp only [Function.update_of_ne hmn] at hpoint
    have hbefore := hstep.acquirer hm hmn
    cases hstep.cache eventId with
    | same _ hwrites =>
      simp only [hwrites] at hw
      exact hlast m call hold map load hpoint hcall hbefore written hw
    | set id call' hold' map' load' hc hf hcall' _ _ =>
      have hn := howner n hold' load' ⟨id, call', map', by rw [hc], hf, hcall'⟩
      rw [hbefore] at hn
      exact absurd (Option.some.inj hn) hmn

/-- An older load is never written over a newer one by the last call to take the mutex. -/
theorem cacheOrdered_act {n : Nat} {c : Choice} {s : MapStore} {f : MapFrame}
    (hlast : LastIsNewest eventId world) (hordered : CacheOrdered eventId world.shared)
    (howner : SetsAsOwner eventId world (.act n c) ⟨s, Function.update world.point n f⟩)
    (hstep : MapStep env world.shared n c (world.point n) s f) : CacheOrdered eventId s := by
  unfold CacheOrdered
  cases hstep.cache eventId with
  | same _ hwrites => rw [hwrites]; exact hordered
  | set id call hold map load hc hf hcall _ hwrites =>
    rw [hwrites]
    have hn := howner n hold load ⟨id, call, map, by rw [hc], hf, hcall⟩
    exact List.pairwise_cons.mpr ⟨hlast n call hold map load hf hcall hn, hordered⟩

theorem cacheOrdered_step {l : MapLabel} (hv : mapOutline.Valid world)
    (hlast : LastIsNewest eventId world) (hordered : CacheOrdered eventId world.shared)
    (howner : SetsAsOwner eventId world l world')
    (h : MapWorld.step env world l = some world') :
    LastIsNewest eventId world' ∧ CacheOrdered eventId world'.shared := by
  rcases map_step_cases h with ⟨n, c, s, f, rfl, hstep, rfl⟩ | ⟨-, hquiet⟩
  · exact ⟨lastIsNewest_act hv hlast howner hstep,
      cacheOrdered_act hlast hordered howner hstep⟩
  · rcases hquiet with ⟨n, e, useRedis, -, rfl⟩ | ⟨s, hq, rfl⟩
    · refine ⟨fun m call hold map load hpoint => ?_, hordered⟩
      by_cases hmn : m = n
      · subst hmn
        simp only [Function.update_self, getSeatingMapForMode] at hpoint
        split_ifs at hpoint
      · simp only [Function.update_of_ne hmn] at hpoint
        exact hlast m call hold map load hpoint
    · unfold LastIsNewest CacheOrdered
      simp only [hq.writes, hq.acquirer]
      exact ⟨hlast, hordered⟩

end Step

/-- The cached seating map does not go backwards in a run in which every owner executes its SET
before another call takes the mutex, as one within its lease always does. -/
theorem seating_map_never_backwards (env : MapEnv) {world₀ : MapWorld} (hinit : world₀.Initial)
    (eventId : String) (ls : List MapLabel) :
    ((seatingMaps env).Along (SetsAsOwner eventId) world₀ ls →
        (seatingMaps env).Every (fun world => CacheOrdered eventId world.shared) world₀ ls) ∧
      ((seatingMaps env).Along (SetsInLease eventId) world₀ ls →
        (seatingMaps env).Along (SetsAsOwner eventId) world₀ ls) := by
  have hlast : LastIsNewest eventId world₀ := by
    intro n call hold map load hpoint
    rw [hinit.idle] at hpoint
    cases hpoint
  have hordered : CacheOrdered eventId world₀.shared := by
    rw [CacheOrdered, hinit.writes]
    exact .nil
  constructor
  · intro howner
    refine Machine.Every.mono _ (fun w hw => hw.2.2) (Machine.every_of_along (seatingMaps env)
      (I := fun w => mapOutline.Valid w ∧ LastIsNewest eventId w ∧ CacheOrdered eventId w.shared)
      (fun w l w' hw hstep hc => ?_) ⟨hinit.valid, hlast, hordered⟩ howner)
    exact ⟨map_valid_step env w l w' hw.1 hstep, cacheOrdered_step hw.1 hw.2.1 hw.2.2 hc hstep⟩
  · intro hlease
    have hvalid := Machine.every_of_invariant (seatingMaps env) (map_valid_step env) ls hinit.valid
    exact Machine.Along.mono _ (fun w l w' hc => setsAsOwner_of_lease hc.2.1 hc.1)
      (Machine.Along.and _ hlease (Machine.Every.along _ hvalid))

/-- Two owners fill the cache one after the other, the seat being sold in between. -/
def refill : List MapLabel :=
  [.getSeatingMapForMode 0 "e" true] ++ mapActs 0 ["", "t0", "", "", "", ""] ++
    [.clearSeatingMapCache "e", .changeEvent "e" (some (oneSeatEvent .SOLD)),
      .getSeatingMapForMode 1 "e" true] ++ mapActs 1 ["", "t1", "", "", "", ""]

theorem seating_map_never_backwards_refill :
    (seatingMaps plainEnv).Every (fun world => CacheOrdered "e" world.shared) coldCache
      refill := by
  have hnow : (seatingMaps plainEnv).Every (fun world => world.shared.now ≤ LOCK_TTL_MS)
      coldCache refill := by
    decide +kernel
  have hlease : (seatingMaps plainEnv).Along (SetsInLease "e") coldCache refill :=
    Machine.Along.mono _ (fun _ _ _ h _ _ _ _ => Nat.le_add_left_of_le h.1)
      (Machine.Every.along _ hnow)
  have h := seating_map_never_backwards plainEnv coldCache_initial "e" refill
  exact h.1 (h.2 hlease)

/-- A slow owner: its lease runs out before its SET, the seat is sold, and a second owner loads
and caches the sold seat first. -/
def lateSet : List MapLabel :=
  [.getSeatingMapForMode 0 "e" true] ++ mapActs 0 ["", "t0", "", ""] ++ [.advance 5001] ++
    [.changeEvent "e" (some (oneSeatEvent .SOLD)), .getSeatingMapForMode 1 "e" true] ++
    mapActs 1 ["", "t1", "", "", "", ""] ++ mapActs 0 [""]

theorem seating_map_goes_backwards_lateSet :
    ∃ world, (seatingMaps plainEnv).run coldCache lateSet = some world ∧
      ¬ CacheOrdered "e" world.shared ∧
      world.shared.events "e" = some (oneSeatEvent .SOLD) ∧
      world.shared.visible "e" = some (Json.stringify
        ((oneSeatEvent .AVAILABLE).toMap plainEnv.collation "e").toJson) := by
  have hview : ((seatingMaps plainEnv).run coldCache lateSet).map
      (fun world => (world.shared.writes "e", world.shared.events "e",
        world.shared.visible "e")) =
      some ([0, 1], some (oneSeatEvent .SOLD), some (Json.stringify
        ((oneSeatEvent .AVAILABLE).toMap plainEnv.collation "e").toJson)) := by
    decide +kernel
  obtain ⟨world, hrun, hworld⟩ := Option.map_eq_some_iff.mp hview
  simp only [Prod.mk.injEq] at hworld
  obtain ⟨hwrites, hevents, hvisible⟩ := hworld
  refine ⟨world, hrun, ?_, hevents, hvisible⟩
  rw [CacheOrdered, hwrites]
  decide

end TicketEngine
