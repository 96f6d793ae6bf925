import TicketEngine.Stampede.CacheOrder
import TicketEngine.Stampede.Shield

namespace TicketEngine

/-- What the cache shows under the event's key is JSON. -/
def Readable (env : MapEnv) (eventId : String) (s : MapStore) : Prop :=
  ∀ message, s.readCachedMap env (seatingMapCacheKey eventId) ≠ .error message

/-- Until a call has executed its SET, a look at the event's map is a miss. -/
def Missing (env : MapEnv) (eventId : String) (s : MapStore) : Prop :=
  s.writes eventId = [] → s.readCachedMap env (seatingMapCacheKey eventId) = .ok none

/-- What is known while a call on the event stands at a frame: one that is past its first look
misses until the first SET; one that releases the mutex has a result, and the first SET is
behind it. -/
def MapFrame.Waits (env : MapEnv) (eventId : String) (s : MapStore) : MapFrame → Prop
  | .acquireMutex call => call.eventId = eventId → Missing env eventId s
  | .owner call _ (.release outcome) =>
    call.eventId = eventId → s.writes eventId ≠ [] ∧ ∃ result, outcome = .ok result
  | .owner call _ _ => call.eventId = eventId → Missing env eventId s
  | .sleep call _ _ _ => call.eventId = eventId → Missing env eventId s
  | .waitRead call _ _ => call.eventId = eventId → Missing env eventId s
  | _ => True

/-- The proof outline of the waiting calls, in runs in which nothing fails and the filled cache
is kept. -/
def waitOutline (env : MapEnv) (eventId : String) : Outline MapStore Nat MapFrame where
  inv s := Readable env eventId s ∧ (s.writes eventId ≠ [] → Filled eventId s)
  holds _ f s := f.Waits env eventId s

section Cache

variable {env : MapEnv} {s s' : MapStore} {n : Nat} {c : Choice} {f f' : MapFrame}
  {eventId : String}

theorem readCachedMap_congr (h : s'.visible eventId = s.visible eventId) :
    s'.readCachedMap env (seatingMapCacheKey eventId) =
      s.readCachedMap env (seatingMapCacheKey eventId) := by
  unfold MapStore.visible at h
  rw [MapStore.readCachedMap, MapStore.readCachedMap, h]

theorem readCachedMap_none (h : s.visible eventId = none) :
    s.readCachedMap env (seatingMapCacheKey eventId) = .ok none := by
  unfold MapStore.visible at h
  rw [MapStore.readCachedMap, h]

theorem Filled.congr (h : s'.visible eventId = s.visible eventId)
    (hfilled : Filled eventId s) : Filled eventId s' := by
  unfold Filled
  rw [h]
  exact hfilled

theorem Filled.readable (h : Filled eventId s) : Readable env eventId s := by
  obtain ⟨map, hmap⟩ := h
  intro message
  unfold MapStore.visible at hmap
  simp only [MapStore.readCachedMap, hmap, Json.parse_stringify, SeatingMap.toJson]
  intro hc
  cases hc

/-- Time and a clear leave the shown text or remove it. -/
theorem visible_fades (hnow : s.now ≤ s'.now)
    (hkeys : s'.keys (seatingMapCacheKey eventId) = s.keys (seatingMapCacheKey eventId) ∨
      s'.keys (seatingMapCacheKey eventId) = none) :
    s'.visible eventId = s.visible eventId ∨ s'.visible eventId = none := by
  unfold MapStore.visible
  rcases hkeys with hkeys | hkeys
  · rw [hkeys]
    cases hread : Lease.read s'.now (s.keys (seatingMapCacheKey eventId)) with
    | none => exact .inr rfl
    | some text => exact .inl (Lease.read_earlier hnow hread).symm
  · rw [hkeys]
    exact .inr rfl

theorem Readable.fades (h : Readable env eventId s)
    (hfade : s'.visible eventId = s.visible eventId ∨ s'.visible eventId = none) :
    Readable env eventId s' := by
  rcases hfade with hsame | hnone
  · unfold Readable
    rw [readCachedMap_congr hsame]
    exact h
  · intro message
    rw [readCachedMap_none hnone]
    intro hc
    cases hc

theorem Missing.fades (h : Missing env eventId s) (hwrites : s'.writes eventId = s.writes eventId)
    (hfade : s'.visible eventId = s.visible eventId ∨ s'.visible eventId = none) :
    Missing env eventId s' := by
  intro hempty
  rcases hfade with hsame | hnone
  · rw [readCachedMap_congr hsame]
    exact h (hwrites ▸ hempty)
  · exact readCachedMap_none hnone

/-- A command that is no SET on the event shows the same text as before. -/
theorem MapStep.visible (h : MapStep env s n c f s' f') (hf : f.Holds n s) :
    s'.visible eventId = s.visible eventId ∧ s'.writes eventId = s.writes eventId ∨
      Filled eventId s' ∧ s'.writes eventId ≠ [] := by
  have hnow := (h.change hf).now
  unfold Filled MapStore.visible
  rw [hnow]
  cases h.cache eventId with
  | same hkeys hwrites => exact .inl ⟨by rw [hkeys], hwrites⟩
  | set id call hold map load _ _ _ hkeys hwrites =>
    refine .inr ⟨⟨map, ?_⟩, ?_⟩
    · rw [hkeys]
      exact Lease.read_fresh ..
    · rw [hwrites]
      exact List.cons_ne_nil _ _

theorem MapStep.missing (h : MapStep env s n c f s' f') (hf : f.Holds n s)
    (hm : Missing env eventId s) : Missing env eventId s' := by
  rcases h.visible hf with ⟨hsame, hwrites⟩ | ⟨-, hset⟩
  · exact hm.fades hwrites (.inl hsame)
  · exact fun hempty => absurd hempty hset

theorem MapStep.written (h : MapStep env s n c f s' f') (hf : f.Holds n s)
    (hw : s.writes eventId ≠ []) : s'.writes eventId ≠ [] := by
  rcases h.visible hf with ⟨-, hwrites⟩ | ⟨-, hset⟩
  · rw [hwrites]
    exact hw
  · exact hset

theorem MapFrame.Waits.mono (h : f.Waits env eventId s)
    (hmissing : Missing env eventId s → Missing env eventId s')
    (hwritten : s.writes eventId ≠ [] → s'.writes eventId ≠ []) : f.Waits env eventId s' := by
  cases f with
  | acquireMutex call => exact fun he => hmissing (h he)
  | owner call hold point =>
    cases point with
    | release outcome => exact fun he => ⟨hwritten (h he).1, (h he).2⟩
    | readCache => exact fun he => hmissing (h he)
    | loadFromDatabase => exact fun he => hmissing (h he)
    | store map load => exact fun he => hmissing (h he)
  | sleep call failedAt attempt wake => exact fun he => hmissing (h he)
  | waitRead call failedAt attempt => exact fun he => hmissing (h he)
  | _ => trivial

/-- A look that goes through answers with what the cache shows. -/
theorem look_ok {call : MapCall} (hok : c.failed = false) :
    s.look env call c = s.readCachedMap env (seatingMapCacheKey call.eventId) := by
  cases c with
  | fail message => cases hok
  | ok id => rfl

end Cache

section Step

variable {env : MapEnv} {s s' : MapStore} {n : Nat} {c : Choice} {f f' : MapFrame}
  {eventId : String}

theorem failed_of_fails (hon : f.fails env s c = false) : c.failed = false := by
  cases c with
  | ok id => rfl
  | fail message =>
    cases f with
    | getSeatingMapDirect call => cases hon
    | owner call hold point => cases point <;> cases hon
    | _ => exact hon

theorem load_of_fails {call : MapCall} {hold : MutexHold}
    (hok : (MapFrame.owner call hold .loadFromDatabase).fails env s c = false) (message : String) :
    s.loadFromDatabase env call.eventId c ≠ .error message := by
  intro h
  rw [MapFrame.fails, h] at hok
  cases hok

theorem MapStep.waits (h : MapStep env s n c f s' f') (hf : f.Holds n s)
    (hread : Readable env eventId s) (hw : f.Waits env eventId s)
    (hok : f.on eventId = true → f.fails env s c = false) : f'.Waits env eventId s' := by
  have hmiss {call : MapCall} {c : Choice} (hon : call.eventId = eventId → c.failed = false)
      (hlook : s.look env call c = .ok none) (he : call.eventId = eventId) :
      Missing env eventId s := by
    rw [look_ok (hon he), he] at hlook
    exact fun _ => hlook
  have hkept (hm : Missing env eventId s) : Missing env eventId s' := h.missing hf hm
  cases h with
  | read_miss hlook =>
    exact hmiss (fun he => failed_of_fails (hok (decide_eq_true he))) hlook
  | acquire_won => exact fun he => hkept (hw he)
  | acquire_lost => exact fun he => hkept (hw he)
  | locked_error hlook =>
    intro he
    rw [look_ok (failed_of_fails (hok (decide_eq_true he))), he] at hlook
    exact absurd hlook (hread _)
  | locked_hit hlook =>
    intro he
    rw [look_ok (failed_of_fails (hok (decide_eq_true he))), he] at hlook
    refine ⟨fun hempty => ?_, _, rfl⟩
    rw [hw he hempty] at hlook
    cases hlook
  | locked_miss => exact fun he => hkept (hw he)
  | load_error herror => exact fun he => absurd herror (load_of_fails (hok (decide_eq_true he)) _)
  | load_found => exact fun he => hkept (hw he)
  | store_error hfail =>
    intro he
    have hgood := failed_of_fails (hok (decide_eq_true he))
    rw [hfail] at hgood
    cases hgood
  | store_done =>
    intro heq
    subst heq
    refine ⟨?_, _, rfl⟩
    simp only [MapStore.cacheMap, Function.update_self]
    exact List.cons_ne_nil _ _
  | wake => exact fun he => hkept (hw he)
  | wait_miss => exact fun he => hkept (hw he)
  | _ => trivial

/-- The shared part of the outline across a command. -/
theorem MapStep.readable (h : MapStep env s n c f s' f') (hf : f.Holds n s)
    (hinv : (waitOutline env eventId).inv s) : (waitOutline env eventId).inv s' := by
  obtain ⟨hread, hfilled⟩ := hinv
  rcases h.visible hf with ⟨hsame, hwrites⟩ | ⟨hset, -⟩
  · exact ⟨hread.fades (.inl hsame), fun hw => (hfilled (hwrites ▸ hw)).congr hsame⟩
  · exact ⟨hset.readable, fun _ => hset⟩

end Step

section World

variable {env : MapEnv} {world world' : MapWorld} {eventId : String}

/-- What the environment leaves of the outline, as long as it leaves the cache entry there. -/
theorem wait_quiet {s : MapStore} {l : MapLabel} (hw : (waitOutline env eventId).Valid world)
    (hq : MapQuiet world.shared s) (hkept : CacheKept eventId 0 world l ⟨s, world.point⟩) :
    (waitOutline env eventId).Valid ⟨s, world.point⟩ := by
  have hfade := visible_fades hq.now (hq.cache eventId)
  have hwrites : s.writes eventId = world.shared.writes eventId := by rw [hq.writes]
  obtain ⟨hread, hfilled⟩ := hw.1
  refine hw.environment ⟨hread.fades hfade, fun hset => ?_⟩ fun n hn => ?_
  · have hbefore := hfilled (hwrites ▸ hset)
    refine filled_of_visible hbefore hq.now (hq.cache eventId) (hkept ?_ ?_)
    · exact List.length_pos_of_ne_nil (hwrites ▸ hset)
    · obtain ⟨map, hmap⟩ := hbefore
      rw [hmap]
      rfl
  · exact MapFrame.Waits.mono hn (fun hm => hm.fades hwrites hfade) fun h => by rwa [hwrites]

theorem wait_valid_step {l : MapLabel} (hv : mapOutline.Valid world)
    (hw : (waitOutline env eventId).Valid world) (hok : NoFailure env eventId world l world')
    (hkept : CacheKept eventId 0 world l world') (h : MapWorld.step env world l = some world') :
    (waitOutline env eventId).Valid world' := by
  rcases map_step_cases h with ⟨n, c, s, f, rfl, hstep, rfl⟩ | ⟨-, hquiet⟩
  · have hf := hv.2 n
    refine hw.move (hstep.readable hf hw.1) (hstep.waits hf hw.1.1 (hw.2 n) hok) fun m _ hm => ?_
    exact MapFrame.Waits.mono hm (hstep.missing hf) (hstep.written hf)
  · rcases hquiet with ⟨n, e, useRedis, -, rfl⟩ | ⟨s, hq, rfl⟩
    · refine hw.move hw.1 ?_ fun _ _ hm => hm
      cases useRedis <;> trivial
    · exact wait_quiet hw hq hkept

theorem MapWorld.Initial.waits (h : world.Initial) (hread : Readable env eventId world.shared) :
    (waitOutline env eventId).Valid world := by
  refine ⟨⟨hread, fun hset => absurd (h.writes eventId) hset⟩, fun n => ?_⟩
  rw [h.idle n]
  trivial

end World

end TicketEngine
