import TicketEngine.Stampede.CacheOrder
import TicketEngine.Stampede.CacheProvenance

namespace TicketEngine

/-- The longest time between the load of a map and a call that is given it: the lease under which
it is loaded and written, and the life of a cache entry. -/
def MAX_AGE_MS : Nat := LOCK_TTL_MS + CACHE_TTL_SECONDS * 1000

/-- What the cache shows is a map that was seen at most `MAX_AGE_MS` before it expires. -/
def CacheFresh (seen : SeatingMap → Nat → Prop) (eventId : String) (s : MapStore) : Prop :=
  ∀ text, s.visible eventId = some text →
    ∃ map loadedAt deadline, s.keys (seatingMapCacheKey eventId) = some ⟨text, deadline⟩ ∧
      text = Json.stringify map.toJson ∧ seen map loadedAt ∧ loadedAt ≤ s.now ∧
      deadline ≤ loadedAt + MAX_AGE_MS

/-- A map on its way into the cache was seen under its owner's lease. -/
def MapFrame.LoadedInLease (seen : SeatingMap → Nat → Prop) (eventId : String) (s : MapStore) :
    MapFrame → Prop
  | .owner call hold (.store map _) =>
    call.eventId = eventId → ∃ loadedAt, seen map loadedAt ∧ hold.since ≤ loadedAt ∧
      loadedAt ≤ s.now
  | _ => True

/-- The proof outline of freshness, with the maps of one event and the times they were seen. -/
def freshness (seen : SeatingMap → Nat → Prop) (eventId : String) :
    Outline MapStore Nat MapFrame where
  inv := CacheFresh seen eventId
  holds _ f s := f.LoadedInLease seen eventId s

/-- A result shows a map that was seen at most `MAX_AGE_MS` before the result was made, which is
`durationMs` after the call has started. -/
structure FreshResult (seen : SeatingMap → Nat → Prop) (call : MapCall) (s : MapStore)
    (result : SeatingMapResult) : Prop where
  made : call.startedAt + result.execution.durationMs ≤ s.now
  shown : ∃ map loadedAt, seen map loadedAt ∧ result.map = map.toJson ∧
    loadedAt ≤ call.startedAt + result.execution.durationMs ∧
    call.startedAt + result.execution.durationMs ≤ loadedAt + MAX_AGE_MS

/-- How far a call has come. -/
def MapFrame.FreshFor (seen : SeatingMap → Nat → Prop) (call : MapCall) (s : MapStore) :
    MapFrame → Prop
  | .getSeatingMapDirect c | .readCache c | .acquireMutex c => c = call
  | .sleep c _ _ _ | .waitRead c _ _ => c = call
  | .owner c _ (.release (.ok result)) => c = call ∧ FreshResult seen call s result
  | .owner c _ _ => c = call
  | .ended e (.ok result) => e = call.eventId ∧ FreshResult seen call s result
  | .ended e (.error _) => e = call.eventId
  | .idle => False

section Fresh

variable {env : MapEnv} {seen : SeatingMap → Nat → Prop} {s s' : MapStore} {n : Nat} {c : Choice}
  {f f' : MapFrame} {eventId : String} {call : MapCall}

/-- A hit returns a map that was seen at most `MAX_AGE_MS` ago. -/
theorem look_fresh {map : Json} (hcache : CacheFresh seen call.eventId s)
    (h : s.look env call c = .ok (some map)) :
    ∃ loaded loadedAt, seen loaded loadedAt ∧ map = loaded.toJson ∧ loadedAt ≤ s.now ∧
      s.now ≤ loadedAt + MAX_AGE_MS := by
  cases c with
  | fail message => cases h
  | ok id =>
    simp only [MapStore.look, MapStore.readCachedMap] at h
    split at h
    · cases h
    next text hread =>
      obtain ⟨loaded, loadedAt, deadline, hcell, htext, hseen, hpast, hdeadline⟩ :=
        hcache text hread
      rw [htext, Json.parse_stringify] at h
      obtain ⟨cell, hcell', hlive, -⟩ := Lease.read_eq_some.mp hread
      have hsame : cell = ⟨text, deadline⟩ := Option.some.inj (hcell'.symm.trans hcell)
      rw [hsame] at hlive
      refine ⟨loaded, loadedAt, hseen, ?_, hpast, hlive.trans hdeadline⟩
      simp only [SeatingMap.toJson] at h
      cases h
      rfl

/-- A result that is made now of a map that is fresh now. -/
theorem result_fresh {map : SeatingMap} {loadedAt : Nat} {result : SeatingMapResult}
    (hstarted : call.startedAt ≤ s.now) (hseen : seen map loadedAt) (hpast : loadedAt ≤ s.now)
    (hage : s.now ≤ loadedAt + MAX_AGE_MS) (hmap : result.map = map.toJson)
    (hduration : result.execution.durationMs = s.now - call.startedAt) :
    FreshResult seen call s result := by
  have hmade : call.startedAt + result.execution.durationMs = s.now := by omega
  refine ⟨by omega, map, loadedAt, hseen, hmap, ?_, ?_⟩
  · rw [hmade]
    exact hpast
  · rw [hmade]
    exact hage

theorem hit_fresh {map : Json} {cacheHit lockAcquired waitedForLock databaseLoaded : Bool}
    (hcache : CacheFresh seen call.eventId s) (hstarted : call.startedAt ≤ s.now)
    (h : s.look env call c = .ok (some map)) :
    FreshResult seen call s
      (call.result s.now map cacheHit lockAcquired waitedForLock databaseLoaded) := by
  obtain ⟨loaded, loadedAt, hseen, hmap, hpast, hage⟩ := look_fresh hcache h
  exact result_fresh hstarted hseen hpast hage hmap rfl

/-- Time only passes; a result that was made stays made. -/
theorem FreshResult.later {result : SeatingMapResult} (h : FreshResult seen call s result)
    (hnow : s.now ≤ s'.now) : FreshResult seen call s' result :=
  ⟨h.made.trans hnow, h.shown⟩

theorem MapFrame.FreshFor.later (h : f.FreshFor seen call s) (hnow : s.now ≤ s'.now) :
    f.FreshFor seen call s' := by
  cases f with
  | owner c hold point =>
    cases point with
    | release outcome =>
      cases outcome with
      | error message => exact h
      | ok result => exact ⟨h.1, h.2.later hnow⟩
    | _ => exact h
  | ended e outcome =>
    cases outcome with
    | error message => exact h
    | ok result => exact ⟨h.1, h.2.later hnow⟩
  | _ => exact h

theorem MapFrame.LoadedInLease.later (h : f.LoadedInLease seen eventId s)
    (hnow : s.now ≤ s'.now) : f.LoadedInLease seen eventId s' := by
  cases f with
  | owner c hold point =>
    cases point with
    | store map load =>
      intro hcall
      obtain ⟨loadedAt, hseen, hsince, hpast⟩ := h hcall
      exact ⟨loadedAt, hseen, hsince, hpast.trans hnow⟩
    | _ => trivial
  | _ => trivial

/-- What is written within its lease is not too old when its cache entry expires. -/
theorem age_of_lease {now since loadedAt : Nat} (hwithin : now ≤ since + LOCK_TTL_MS)
    (hsince : since ≤ loadedAt) : now + CACHE_TTL_SECONDS * 1000 ≤ loadedAt + MAX_AGE_MS := by
  have hlease : now ≤ loadedAt + LOCK_TTL_MS :=
    hwithin.trans (Nat.add_le_add_right hsince LOCK_TTL_MS)
  calc now + CACHE_TTL_SECONDS * 1000
      ≤ loadedAt + LOCK_TTL_MS + CACHE_TTL_SECONDS * 1000 := Nat.add_le_add_right hlease _
    _ = loadedAt + MAX_AGE_MS := Nat.add_assoc ..

/-- The SET of this command, if it is one on the event, is within the lease. -/
def InLease (eventId : String) (s : MapStore) (c : Choice) (f : MapFrame) : Prop :=
  ∀ id call hold map load, c = .ok id → f = .owner call hold (.store map load) →
    call.eventId = eventId → s.now ≤ hold.since + LOCK_TTL_MS

theorem MapStep.loadedInLease (h : MapStep env s n c f s' f') (hf : f.Holds n s)
    (hloads : ∀ c map, s.loadFromDatabase env eventId c = .ok map → seen map s.now) :
    f'.LoadedInLease seen eventId s' := by
  have hnow := (h.change hf).now
  cases h with
  | load_found hfound =>
    rename_i call hold map
    intro hcall
    rw [hcall] at hfound
    exact ⟨s.now, hloads _ _ hfound, hf.sound.past, hnow.ge⟩
  | _ => trivial

/-- An owner that writes within its lease leaves the cache fresh. -/
theorem MapStep.cacheFresh (h : MapStep env s n c f s' f') (hf : f.Holds n s)
    (hloaded : f.LoadedInLease seen eventId s) (hlease : InLease eventId s c f)
    (hcache : CacheFresh seen eventId s) : CacheFresh seen eventId s' := by
  intro text hvisible
  have hnow := (h.change hf).now
  unfold MapStore.visible at hvisible
  rw [hnow] at hvisible ⊢
  cases h.cache eventId with
  | same hkeys hwrites =>
    rw [hkeys] at hvisible ⊢
    exact hcache text hvisible
  | set id call hold map load hc hframe hcall hkeys hwrites =>
    rw [hkeys, Lease.read_fresh] at hvisible
    have hwithin := hlease id call hold map load hc hframe hcall
    rw [hframe] at hloaded
    obtain ⟨loadedAt, hseen, hsince, hpast⟩ := hloaded hcall
    have htext := Option.some.inj hvisible
    refine ⟨map, loadedAt, s.now + CACHE_TTL_SECONDS * 1000, ?_, htext.symm, hseen, hpast, ?_⟩
    · rw [hkeys, htext]
    · exact age_of_lease hwithin hsince

theorem CacheFresh.quiet (hcache : CacheFresh seen eventId s) (hq : MapQuiet s s') :
    CacheFresh seen eventId s' := by
  intro text hvisible
  have hread := hvisible
  unfold MapStore.visible at hread
  rcases hq.cache eventId with hsame | hnone
  · rw [hsame] at hread ⊢
    obtain ⟨map, loadedAt, deadline, hcell, htext, hseen, hpast, hdeadline⟩ :=
      hcache text (Lease.read_earlier hq.now hread)
    exact ⟨map, loadedAt, deadline, hcell, htext, hseen, hpast.trans hq.now, hdeadline⟩
  · rw [hnone] at hread
    cases hread

theorem direct_fresh (hstarted : call.startedAt ≤ s.now)
    (hloads : ∀ c map, s.loadFromDatabase env call.eventId c = .ok map → seen map s.now) :
    (stepDirect env s call c).FreshFor seen call s := by
  unfold stepDirect
  cases h : s.loadFromDatabase env call.eventId c with
  | error message => exact rfl
  | ok map =>
    exact ⟨rfl, result_fresh hstarted (hloads _ _ h) (le_refl _) (Nat.le_add_right _ _) rfl rfl⟩

/-- A command of the call leads to a result that is fresh when it is made. -/
theorem MapStep.freshFor (h : MapStep env s n c f s' f') (hholds : f.Holds n s)
    (hstarted : call.startedAt ≤ s.now) (hcache : CacheFresh seen call.eventId s)
    (hloaded : f.LoadedInLease seen call.eventId s) (hlease : InLease call.eventId s c f)
    (hf : f.FreshFor seen call s) (hdirect : ∀ call, f ≠ .getSeatingMapDirect call) :
    f'.FreshFor seen call s' := by
  have hnow := (h.change hholds).now
  apply MapFrame.FreshFor.later (s := s) _ hnow.ge
  cases h with
  | direct_error | direct_found => exact absurd rfl (hdirect _)
  | read_error | read_miss | acquire_error | acquire_won | acquire_lost =>
    cases hf
    exact rfl
  | read_hit hhit =>
    cases hf
    exact ⟨rfl, hit_fresh hcache hstarted hhit⟩
  | locked_error | locked_miss | load_error | load_found =>
    cases hf
    exact rfl
  | locked_hit hhit =>
    cases hf
    exact ⟨rfl, hit_fresh hcache hstarted hhit⟩
  | store_error =>
    cases hf
    exact rfl
  | store_done hc =>
    cases hf
    have hwithin := hlease _ _ _ _ _ hc rfl rfl
    obtain ⟨loadedAt, hseen, hsince, hpast⟩ := hloaded rfl
    have hage := age_of_lease hwithin hsince
    exact ⟨rfl, result_fresh hstarted hseen hpast ((Nat.le_add_right _ _).trans hage) rfl rfl⟩
  | @release_error call' hold outcome =>
    cases outcome with
    | error e =>
      cases hf
      exact rfl
    | ok result =>
      obtain ⟨rfl, -⟩ := hf
      exact rfl
  | @release_done call' hold outcome =>
    cases outcome with
    | error e =>
      cases hf
      exact rfl
    | ok result =>
      obtain ⟨rfl, hresult⟩ := hf
      exact ⟨rfl, hresult⟩
  | wake | wait_error | wait_miss | wait_over =>
    cases hf
    exact rfl
  | wait_hit hhit =>
    cases hf
    exact ⟨rfl, hit_fresh hcache hstarted hhit⟩

end Fresh

/-! ## Runs -/

/-- What the database would load for the event at this moment is in `seen` at this time. -/
def LoadsSeenAt (env : MapEnv) (seen : SeatingMap → Nat → Prop) (eventId : String)
    (world : MapWorld) (_ : MapLabel) (_ : MapWorld) : Prop :=
  ∀ c map, world.shared.loadFromDatabase env eventId c = .ok map → seen map world.shared.now

section World

variable {env : MapEnv} {seen : SeatingMap → Nat → Prop} {world world' : MapWorld}
  {l : MapLabel} {n : Nat} {eventId : String} {call : MapCall}

theorem inLease_of_sets {c : Choice} (h : SetsInLease eventId world (.act n c) world') :
    InLease eventId world.shared c (world.point n) := by
  intro id call hold map load hc hpoint hcall
  apply h n hold load
  refine ⟨id, call, map, ?_, hpoint, hcall⟩
  rw [hc]

theorem freshness_step (hv : mapOutline.Valid world) (hf : (freshness seen eventId).Valid world)
    (hloads : LoadsSeenAt env seen eventId world l world')
    (hlease : SetsInLease eventId world l world')
    (h : MapWorld.step env world l = some world') : (freshness seen eventId).Valid world' := by
  rcases map_step_cases h with ⟨n, c, s, f, rfl, hmove, rfl⟩ | ⟨-, hquiet⟩
  · have hchange := hmove.change (hv.2 n)
    refine hf.move ?_ (hmove.loadedInLease (hv.2 n) hloads) ?_
    · exact hmove.cacheFresh (hv.2 n) (hf.2 n) (inLease_of_sets hlease) hf.1
    · intro m hne hm
      exact MapFrame.LoadedInLease.later hm hchange.now.ge
  · rcases hquiet with ⟨n, e, useRedis, -, rfl⟩ | ⟨s, hq, rfl⟩
    · refine hf.move hf.1 ?_ fun _ _ hm => hm
      cases useRedis <;> trivial
    · exact hf.environment (hf.1.quiet hq) fun m hm =>
        MapFrame.LoadedInLease.later hm hq.now

theorem freshFor_begun {s : MapStore} {f : MapFrame} (h : f.FreshFor seen call s) :
    f ≠ .idle := by
  rintro rfl
  exact h

/-- The call goes on as it should, whoever moves. -/
theorem freshFor_step (hv : mapOutline.Valid world)
    (hf : (freshness seen call.eventId).Valid world) (hstarted : call.startedAt ≤ world.shared.now)
    (hcall : (world.point n).FreshFor seen call world.shared)
    (hloads : LoadsSeenAt env seen call.eventId world l world')
    (hlease : SetsInLease call.eventId world l world')
    (h : MapWorld.step env world l = some world') :
    (world'.point n).FreshFor seen call world'.shared := by
  have hstep := h
  rcases map_step_cases h with ⟨m, c, s, f, rfl, hmove, rfl⟩ | ⟨-, hquiet⟩
  · by_cases hm : n = m
    · subst hm
      simp only [Function.update_self]
      by_cases hdirect : ∃ c', world.point n = .getSeatingMapDirect c'
      · obtain ⟨c', hpoint⟩ := hdirect
        rw [hpoint] at hcall
        cases hcall
        simp only [MapWorld.step, hpoint, MapFrame.act, Option.map_some, Option.some.injEq,
          Threaded.mk.injEq] at hstep
        have hframe : stepDirect env world.shared call c = f := by
          have hn := congrFun hstep.2 n
          simpa only [Function.update_self] using hn
        rw [← hframe, ← hstep.1]
        exact direct_fresh hstarted hloads
      · exact hmove.freshFor (hv.2 n) hstarted hf.1 (hf.2 n) (inLease_of_sets hlease) hcall
          fun c' hpoint => hdirect ⟨c', hpoint⟩
    · simp only [Function.update_of_ne hm]
      exact hcall.later (hmove.change (hv.2 m)).now.ge
  · rcases hquiet with ⟨m, e, useRedis, hidle, rfl⟩ | ⟨s, hq, rfl⟩
    · have hm : n ≠ m := by
        rintro rfl
        exact freshFor_begun hcall hidle
      simp only [Function.update_of_ne hm]
      exact hcall
    · exact hcall.later hq.now

theorem map_now_le (hv : mapOutline.Valid world) (h : MapWorld.step env world l = some world') :
    world.shared.now ≤ world'.shared.now := by
  rcases map_step_cases h with ⟨n, c, s, f, -, hmove, rfl⟩ | ⟨-, hquiet⟩
  · exact (hmove.change (hv.2 n)).now.ge
  · rcases hquiet with ⟨n, e, useRedis, -, rfl⟩ | ⟨s, hq, rfl⟩
    · exact le_refl _
    · exact hq.now

/-- What a step must meet: its load is seen, and its SET is within the lease. -/
def SeenInLease (env : MapEnv) (seen : SeatingMap → Nat → Prop) (eventId : String)
    (world : MapWorld) (l : MapLabel) (world' : MapWorld) : Prop :=
  LoadsSeenAt env seen eventId world l world' ∧ SetsInLease eventId world l world'

/-- The service before a call comes in. -/
def FreshService (seen : SeatingMap → Nat → Prop) (eventId : String) (world : MapWorld) : Prop :=
  mapOutline.Valid world ∧ (freshness seen eventId).Valid world

/-- The service with a call on its way. -/
structure FreshCall (seen : SeatingMap → Nat → Prop) (n : Nat) (call : MapCall)
    (world : MapWorld) : Prop where
  service : FreshService seen call.eventId world
  started : call.startedAt ≤ world.shared.now
  fresh : (world.point n).FreshFor seen call world.shared

theorem freshService_step (hs : FreshService seen eventId world)
    (hc : SeenInLease env seen eventId world l world')
    (h : (seatingMaps env).step world l = some world') : FreshService seen eventId world' :=
  ⟨map_valid_step env world l world' hs.1 h, freshness_step hs.1 hs.2 hc.1 hc.2 h⟩

theorem freshCall_step (hs : FreshCall seen n call world)
    (hc : SeenInLease env seen call.eventId world l world')
    (h : (seatingMaps env).step world l = some world') : FreshCall seen n call world' where
  service := freshService_step hs.service hc h
  started := hs.started.trans (map_now_le hs.service.1 h)
  fresh := freshFor_step hs.service.1 hs.service.2 hs.started hs.fresh hc.1 hc.2 h

theorem freshService_initial (hinit : world.Initial)
    (hcold : world.shared.visible eventId = none) : FreshService seen eventId world := by
  refine ⟨hinit.valid, fun text hvisible => ?_, fun m => ?_⟩
  · rw [hcold] at hvisible
    cases hvisible
  · rw [hinit.idle m]
    trivial

/-- A call that comes in has begun at this moment. -/
theorem freshCall_enter {useRedis : Bool} (hs : FreshService seen eventId world)
    (hc : SeenInLease env seen eventId world (.getSeatingMapForMode n eventId useRedis) world')
    (h : (seatingMaps env).step world (.getSeatingMapForMode n eventId useRedis) = some world') :
    FreshCall seen n ⟨eventId, world.shared.now⟩ world' := by
  have hservice := freshService_step hs hc h
  have hstep : MapWorld.step env world (.getSeatingMapForMode n eventId useRedis) = some world' :=
    h
  have hnow : world.shared.now ≤ world'.shared.now := map_now_le hs.1 hstep
  refine ⟨hservice, hnow, ?_⟩
  simp only [seatingMaps, MapWorld.step] at h
  split at h
  · cases h
    simp only [Function.update_self]
    cases useRedis with
    | true => exact rfl
    | false => exact rfl
  · cases h

/-- The maps that the database shows for the event at some point of the run, before its end,
with the times at which it does. -/
def SeenAtOn (env : MapEnv) (start : MapWorld) (ls : List MapLabel) (eventId : String)
    (map : SeatingMap) (time : Nat) : Prop :=
  ∃ as l bs earlier c, ls = as ++ l :: bs ∧ (seatingMaps env).run start as = some earlier ∧
    earlier.shared.loadFromDatabase env eventId c = .ok map ∧ earlier.shared.now = time

theorem seenAtOn_along (env : MapEnv) (start : MapWorld) (ls : List MapLabel)
    (eventId : String) :
    (seatingMaps env).Along (LoadsSeenAt env (SeenAtOn env start ls eventId) eventId) start ls := by
  apply Machine.along_of_points
  intro as l bs earlier next hls has _ c map hload
  exact ⟨as, l, bs, earlier, c, hls, has, hload, rfl⟩

/-- The labels of a run up to a call, the call, and the labels after it. -/
def aroundCall (ks : List MapLabel) (n : Nat) (eventId : String) (useRedis : Bool)
    (ls : List MapLabel) : List MapLabel :=
  ks ++ .getSeatingMapForMode n eventId useRedis :: ls

theorem freshCall_run {start called ended : MapWorld} {ks ls : List MapLabel}
    {useRedis : Bool} (hs : FreshService seen eventId start)
    (hreach : (seatingMaps env).run start ks = some world)
    (hcall : (seatingMaps env).step world (.getSeatingMapForMode n eventId useRedis) = some called)
    (hrun : (seatingMaps env).run called ls = some ended)
    (hc : (seatingMaps env).Along (SeenInLease env seen eventId) start
      (aroundCall ks n eventId useRedis ls)) :
    FreshCall seen n ⟨eventId, world.shared.now⟩ ended := by
  have hbefore : FreshService seen eventId world := by
    have hevery := Machine.every_of_along (seatingMaps env) (I := FreshService seen eventId)
      (fun _ _ _ hs hst hc => freshService_step hs hc hst) hs (Machine.along_prefix _ hc)
    exact hevery.last _ hreach
  have hrest := Machine.along_append _ hreach hc
  obtain ⟨hnow, hlater⟩ := (Machine.along_cons _ hcall).mp hrest
  have hevery := Machine.every_of_along (seatingMaps env)
    (I := FreshCall seen n ⟨eventId, world.shared.now⟩)
    (fun _ _ _ hs hst hc => freshCall_step hs hc hst) (freshCall_enter hbefore hnow hcall) hlater
  exact hevery.last _ hrun

/-- Every map that a call returns is fresh: as long as the owners of the event's mutex write the
cache within their leases, the database has shown the map at most `MAX_AGE_MS` before the call
made its result, which it did between its start and its end. If the event has not changed since
that long ago, the map is the one that the database shows at the end. -/
theorem seating_map_fresh (env : MapEnv) {start world called ended : MapWorld}
    {ks ls : List MapLabel} {useRedis : Bool} {e : String} {result : SeatingMapResult}
    (hinit : start.Initial) (hcold : start.shared.visible eventId = none)
    (hreach : (seatingMaps env).run start ks = some world)
    (hcall : (seatingMaps env).step world (.getSeatingMapForMode n eventId useRedis) = some called)
    (hrun : (seatingMaps env).run called ls = some ended)
    (hlease : (seatingMaps env).Along (SetsInLease eventId) start
      (aroundCall ks n eventId useRedis ls))
    (hended : ended.point n = .ended e (.ok result)) :
    world.shared.now + result.execution.durationMs ≤ ended.shared.now ∧
      (∃ as l bs earlier map, aroundCall ks n eventId useRedis ls = as ++ l :: bs ∧
        (seatingMaps env).run start as = some earlier ∧
        earlier.shared.loadFromDatabase env eventId (.ok "") = .ok map ∧
        result.map = map.toJson ∧
        earlier.shared.now ≤ world.shared.now + result.execution.durationMs ∧
        world.shared.now + result.execution.durationMs ≤ earlier.shared.now + MAX_AGE_MS) ∧
      ((∀ as bs later, aroundCall ks n eventId useRedis ls = as ++ bs →
          (seatingMaps env).run start as = some later →
          world.shared.now + result.execution.durationMs ≤ later.shared.now + MAX_AGE_MS →
          later.shared.events eventId = ended.shared.events eventId) →
        ∃ map, ended.shared.loadFromDatabase env eventId (.ok "") = .ok map ∧
          result.map = map.toJson) := by
  have hseen := seenAtOn_along env start (aroundCall ks n eventId useRedis ls) eventId
  have hboth := Machine.Along.and (seatingMaps env) hseen hlease
  have hfresh := (freshCall_run (freshService_initial hinit hcold) hreach hcall hrun hboth).fresh
  rw [hended] at hfresh
  obtain ⟨-, hmade, map, loadedAt, hmap, hresult, hpast, hage⟩ := hfresh
  obtain ⟨as, l, bs, earlier, c, hls, has, hload, rfl⟩ := hmap
  refine ⟨hmade, ?_, ?_⟩
  · exact ⟨as, l, bs, earlier, map, hls, has, load_congr rfl hload "", hresult, hpast, hage⟩
  · intro hsame
    have hrow := hsame as (l :: bs) earlier hls has hage
    exact ⟨map, load_congr hrow.symm hload "", hresult⟩

end World

/-- One call fills the cache. -/
def firstFill : List MapLabel :=
  .getSeatingMapForMode 0 "e" true :: mapActs 0 ["", "t0", "", "", "", ""]

/-- A second call takes a while to reach the cache. -/
def laterHit : List MapLabel := .advance 40 :: mapActs 1 [""]

theorem seating_map_fresh_hit :
    ∃ (ended : MapWorld) (result : SeatingMapResult), ended.point 1 = .ended "e" (.ok result) ∧
      result.execution.cacheHit = true ∧ result.execution.durationMs ≤ ended.shared.now := by
  have hview : ((seatingMaps plainEnv).run coldCache firstFill).bind (fun world =>
      ((seatingMaps plainEnv).step world (.getSeatingMapForMode 1 "e" true)).bind fun called =>
        ((seatingMaps plainEnv).run called laterHit).bind fun ended =>
          (ended.point 1).resolved.map fun p => (p.1, p.2.execution.cacheHit)) =
      some ("e", true) := by
    decide +kernel
  obtain ⟨world, hreach, hview⟩ := Option.bind_eq_some_iff.mp hview
  obtain ⟨called, hcall, hview⟩ := Option.bind_eq_some_iff.mp hview
  obtain ⟨ended, hrun, hview⟩ := Option.bind_eq_some_iff.mp hview
  obtain ⟨⟨e, result⟩, hreturned, hhit⟩ := Option.map_eq_some_iff.mp hview
  obtain ⟨rfl, hcached⟩ := Prod.mk.inj hhit
  have hended := ended_of_resolved hreturned
  have hnow : (seatingMaps plainEnv).Every (fun world => world.shared.now ≤ LOCK_TTL_MS)
      coldCache (aroundCall firstFill 1 "e" true laterHit) := by
    decide +kernel
  have hlease : (seatingMaps plainEnv).Along (SetsInLease "e") coldCache
      (aroundCall firstFill 1 "e" true laterHit) :=
    Machine.Along.mono _ (fun _ _ _ h _ _ _ _ => Nat.le_add_left_of_le h.1)
      (Machine.Every.along _ hnow)
  obtain ⟨hmade, -, -⟩ :=
    seating_map_fresh plainEnv coldCache_initial rfl hreach hcall hrun hlease hended
  exact ⟨ended, result, hended, hcached, by omega⟩

end TicketEngine
