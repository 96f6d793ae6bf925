import TicketEngine.Stampede.Waiting

namespace TicketEngine

/-- The result carries the JSON of one of the maps in `seen`. -/
def FromSeen (seen : String → SeatingMap → Prop) (eventId : String) (result : SeatingMapResult) :
    Prop :=
  ∃ map, seen eventId map ∧ result.map = map.toJson

/-- Every text that the cache shows is the encoding of a map seen for its own event. -/
def CacheFromSeen (seen : String → SeatingMap → Prop) (s : MapStore) : Prop :=
  ∀ eventId text, s.visible eventId = some text →
    ∃ map, seen eventId map ∧ text = Json.stringify map.toJson

/-- What is known of the map a call carries. -/
def MapFrame.Carries (seen : String → SeatingMap → Prop) : MapFrame → Prop
  | .owner call _ (.store map _) => seen call.eventId map
  | .owner call _ (.release (.ok result)) => FromSeen seen call.eventId result
  | .ended eventId (.ok result) => FromSeen seen eventId result
  | _ => True

/-- The proof outline of provenance: `seen` holds the maps that the database has shown so far. -/
def provenance (seen : String → SeatingMap → Prop) : Outline MapStore Nat MapFrame where
  inv := CacheFromSeen seen
  holds _ f _ := f.Carries seen

/-- Whatever the database would load at this moment is in `seen`. -/
def LoadsSeen (env : MapEnv) (seen : String → SeatingMap → Prop) (world : MapWorld)
    (_ : MapLabel) (_ : MapWorld) : Prop :=
  ∀ eventId c map, world.shared.loadFromDatabase env eventId c = .ok map → seen eventId map

section Provenance

variable {env : MapEnv} {seen : String → SeatingMap → Prop} {s s' : MapStore} {n : Nat}
  {c : Choice} {f f' : MapFrame} {world world' : MapWorld}

/-- Parsing a cached text gives back the JSON it was made from. -/
theorem look_seen {call : MapCall} {map : Json} (hcache : CacheFromSeen seen s)
    (h : s.look env call c = .ok (some map)) :
    ∃ loaded, seen call.eventId loaded ∧ map = loaded.toJson := by
  cases c with
  | fail message => cases h
  | ok id =>
    simp only [MapStore.look, MapStore.readCachedMap] at h
    split at h
    · cases h
    next text hread =>
      obtain ⟨loaded, hseen, htext⟩ := hcache call.eventId text hread
      rw [htext, Json.parse_stringify] at h
      refine ⟨loaded, hseen, ?_⟩
      simp only [SeatingMap.toJson] at h
      cases h
      rfl

/-- A direct call returns what the database shows. -/
theorem direct_carries {call : MapCall}
    (hloads : ∀ e c map, s.loadFromDatabase env e c = .ok map → seen e map) :
    (stepDirect env s call c).Carries seen := by
  unfold stepDirect
  cases h : s.loadFromDatabase env call.eventId c with
  | error message => trivial
  | ok map => exact ⟨map, hloads _ _ _ h, rfl⟩

theorem MapStep.carries (h : MapStep env s n c f s' f') (hcache : CacheFromSeen seen s)
    (hloads : ∀ e c map, s.loadFromDatabase env e c = .ok map → seen e map)
    (hf : f.Carries seen) (hdirect : ∀ call, f ≠ .getSeatingMapDirect call) :
    f'.Carries seen := by
  cases h with
  | direct_found => exact absurd rfl (hdirect _)
  | read_hit hhit => exact look_seen hcache hhit
  | locked_hit hhit => exact look_seen hcache hhit
  | wait_hit hhit => exact look_seen hcache hhit
  | load_found hfound => exact hloads _ _ _ hfound
  | store_done => exact ⟨_, hf, rfl⟩
  | release_done =>
    rename_i call hold outcome
    cases outcome with
    | error message => trivial
    | ok result => exact hf
  | _ => trivial

theorem MapStep.cacheFromSeen (h : MapStep env s n c f s' f') (hholds : f.Holds n s)
    (hf : f.Carries seen) (hcache : CacheFromSeen seen s) : CacheFromSeen seen s' := by
  intro eventId text hvisible
  unfold MapStore.visible at hvisible
  rw [(h.change hholds).now] at hvisible
  cases h.cache eventId with
  | same hkeys hwrites =>
    rw [hkeys] at hvisible
    exact hcache eventId text hvisible
  | set id call hold map load hc hframe hcall hkeys hwrites =>
    rw [hkeys, Lease.read_fresh] at hvisible
    rw [hframe] at hf
    have hseen : seen call.eventId map := hf
    rw [hcall] at hseen
    exact ⟨map, hseen, (Option.some.inj hvisible).symm⟩

theorem CacheFromSeen.quiet (hcache : CacheFromSeen seen s) (hq : MapQuiet s s') :
    CacheFromSeen seen s' := by
  intro eventId text hvisible
  rcases visible_fades hq.now (hq.cache eventId) with hsame | hnone
  · rw [hsame] at hvisible
    exact hcache eventId text hvisible
  · rw [hnone] at hvisible
    cases hvisible

theorem provenance_step {l : MapLabel} (hv : mapOutline.Valid world)
    (hp : (provenance seen).Valid world) (hloads : LoadsSeen env seen world l world')
    (h : MapWorld.step env world l = some world') : (provenance seen).Valid world' := by
  have hstep := h
  rcases map_step_cases h with ⟨n, c, s, f, rfl, hmove, rfl⟩ | ⟨-, hquiet⟩
  · have hcarries : f.Carries seen := by
      by_cases hdirect : ∃ call, world.point n = .getSeatingMapDirect call
      · obtain ⟨call, hpoint⟩ := hdirect
        simp only [MapWorld.step, hpoint, MapFrame.act, Option.map_some, Option.some.injEq,
          Threaded.mk.injEq] at hstep
        have hf : stepDirect env world.shared call c = f := by
          have := congrFun hstep.2 n
          simpa only [Function.update_self] using this
        rw [← hf]
        exact direct_carries hloads
      · exact hmove.carries hp.1 hloads (hp.2 n) fun call hcall => hdirect ⟨call, hcall⟩
    exact hp.move (hmove.cacheFromSeen (hv.2 n) (hp.2 n) hp.1) hcarries fun _ _ hm => hm
  · rcases hquiet with ⟨n, e, useRedis, -, rfl⟩ | ⟨s, hq, rfl⟩
    · refine hp.move hp.1 ?_ fun _ _ hm => hm
      cases useRedis <;> trivial
    · exact hp.environment (hp.1.quiet hq) fun _ hm => hm

end Provenance

/-- The maps that the database shows at some point of the run from `start`, before its end. -/
def SeenOn (env : MapEnv) (start : MapWorld) (ls : List MapLabel) (eventId : String)
    (map : SeatingMap) : Prop :=
  ∃ as l bs earlier c, ls = as ++ l :: bs ∧ (seatingMaps env).run start as = some earlier ∧
    earlier.shared.loadFromDatabase env eventId c = .ok map

/-- A load goes by the event's row alone. -/
theorem load_congr {env : MapEnv} {s s' : MapStore} {eventId : String} {c : Choice}
    {map : SeatingMap} (hrow : s'.events eventId = s.events eventId)
    (h : s.loadFromDatabase env eventId c = .ok map) (id : String) :
    s'.loadFromDatabase env eventId (.ok id) = .ok map := by
  cases c with
  | fail message => cases h
  | ok _ =>
    simp only [MapStore.loadFromDatabase] at h ⊢
    rw [hrow]
    exact h

/-- Every map a call returns for an event is the one the database showed for it at an earlier
instant of the run. While the row stays as it was then, a direct call returns the same map. -/
theorem returned_map_seen (env : MapEnv) {start world : MapWorld} (hinit : start.Initial)
    (hcold : ∀ e, start.shared.visible e = none) {ls : List MapLabel}
    (hrun : (seatingMaps env).run start ls = some world) {n : Nat} {eventId : String}
    {result : SeatingMapResult} (hended : world.point n = .ended eventId (.ok result)) :
    ∃ as l bs earlier map, ls = as ++ l :: bs ∧
      (seatingMaps env).run start as = some earlier ∧
      earlier.shared.loadFromDatabase env eventId (.ok "") = .ok map ∧
      result.map = map.toJson ∧
      (world.shared.events eventId = earlier.shared.events eventId →
        ∀ startedAt id, ∃ direct,
          stepDirect env world.shared ⟨eventId, startedAt⟩ (.ok id) = .ended eventId (.ok direct) ∧
            direct.map = result.map) := by
  have hloads : (seatingMaps env).Along (LoadsSeen env (SeenOn env start ls)) start ls := by
    apply Machine.along_of_points
    intro as l bs earlier next hls has _ e c map hload
    exact ⟨as, l, bs, earlier, c, hls, has, hload⟩
  have hstart : (provenance (SeenOn env start ls)).Valid start := by
    refine ⟨fun e text hvisible => ?_, fun m => ?_⟩
    · rw [hcold] at hvisible
      cases hvisible
    · rw [hinit.idle m]
      trivial
  have hevery := Machine.every_of_along (seatingMaps env)
    (I := fun w => mapOutline.Valid w ∧ (provenance (SeenOn env start ls)).Valid w)
    (fun w l w' hw hstep hc => ⟨map_valid_step env w l w' hw.1 hstep,
      provenance_step hw.1 hw.2 hc hstep⟩)
    ⟨hinit.valid, hstart⟩ hloads
  have hcarries : (world.point n).Carries (SeenOn env start ls) := (hevery.last _ hrun).2.2 n
  rw [hended] at hcarries
  obtain ⟨map, ⟨as, l, bs, earlier, c, hls, has, hload⟩, hmap⟩ := hcarries
  refine ⟨as, l, bs, earlier, map, hls, has, load_congr rfl hload "", hmap, ?_⟩
  intro hrow startedAt id
  have hnow := load_congr hrow hload id
  simp only [stepDirect, hnow]
  exact ⟨_, rfl, hmap.symm⟩

/-- The map a call has returned, with its event. -/
def MapFrame.resolved : MapFrame → Option (String × SeatingMapResult)
  | .ended eventId (.ok result) => some (eventId, result)
  | _ => none

theorem ended_of_resolved {f : MapFrame} {eventId : String} {result : SeatingMapResult}
    (h : f.resolved = some (eventId, result)) : f = .ended eventId (.ok result) := by
  cases f with
  | ended e outcome =>
    cases outcome with
    | error message => cases h
    | ok r => cases h; rfl
  | _ => cases h

/-- One call fills the cache, and a second one is answered from it. -/
def secondHit : List MapLabel :=
  [.getSeatingMapForMode 0 "e" true] ++ mapActs 0 ["", "t0", "", "", "", ""] ++
    [.getSeatingMapForMode 1 "e" true] ++ mapActs 1 [""]

theorem returned_map_seen_hit :
    ∃ world result, (seatingMaps plainEnv).run coldCache secondHit = some world ∧
      world.point 1 = .ended "e" (.ok result) ∧ result.execution.cacheHit = true ∧
      ∃ as l bs earlier map, secondHit = as ++ l :: bs ∧
        (seatingMaps plainEnv).run coldCache as = some earlier ∧
        earlier.shared.loadFromDatabase plainEnv "e" (.ok "") = .ok map ∧
        result.map = map.toJson := by
  have hview : ((seatingMaps plainEnv).run coldCache secondHit).bind (fun world =>
      (world.point 1).resolved.map fun p => (p.1, p.2.execution.cacheHit)) = some ("e", true) := by
    decide +kernel
  obtain ⟨world, hrun, hworld⟩ := Option.bind_eq_some_iff.mp hview
  obtain ⟨⟨e, result⟩, hreturned, hhit⟩ := Option.map_eq_some_iff.mp hworld
  obtain ⟨rfl, hcached⟩ := Prod.mk.inj hhit
  have hended := ended_of_resolved hreturned
  obtain ⟨as, l, bs, earlier, map, hls, has, hload, hmap, -⟩ :=
    returned_map_seen plainEnv coldCache_initial (fun _ => rfl) hrun hended
  exact ⟨world, result, hrun, hended, hcached, as, l, bs, earlier, map, hls, has, hload, hmap⟩

end TicketEngine
