import TicketEngine.Stampede.Service

namespace TicketEngine

/-- Every course that one command of call `n` can take. -/
inductive MapStep (env : MapEnv) (s : MapStore) (n : Nat) (c : Choice) :
    MapFrame → MapStore → MapFrame → Prop
  | direct_error {call message} (h : s.loadFromDatabase env call.eventId c = .error message) :
      MapStep env s n c (.getSeatingMapDirect call) s (.ended call.eventId (.error message))
  | direct_found {call map result} (h : s.loadFromDatabase env call.eventId c = .ok map) :
      MapStep env s n c (.getSeatingMapDirect call) s (.ended call.eventId (.ok result))
  | read_error {call message} (h : s.look env call c = .error message) :
      MapStep env s n c (.readCache call) s (.ended call.eventId (.error message))
  | read_hit {call map} (h : s.look env call c = .ok (some map)) :
      MapStep env s n c (.readCache call) s
        (.ended call.eventId (.ok (call.result s.now map true false false false)))
  | read_miss {call} (h : s.look env call c = .ok none) :
      MapStep env s n c (.readCache call) s (.acquireMutex call)
  | acquire_error {call message} (h : c = .fail message) :
      MapStep env s n c (.acquireMutex call) s (.ended call.eventId (.error message))
  | acquire_won {call token s'} (hdraw : s.draw n token = some s')
      (hfree : Lease.read s.now (s.keys (lockKey call.eventId)) = none) :
      MapStep env s n c (.acquireMutex call)
        (s'.takeMutex n call.eventId (some ⟨token, s.now + LOCK_TTL_MS⟩))
        (.owner call ⟨token, s.now⟩ .readCache)
  | acquire_lost {call token s' value} (hdraw : s.draw n token = some s')
      (hheld : Lease.read s.now (s.keys (lockKey call.eventId)) = some value) :
      MapStep env s n c (.acquireMutex call) s'
        (.sleep call s.now 0 (s.now + WAIT_DELAY_MS))
  | locked_error {call hold message} (h : s.look env call c = .error message) :
      MapStep env s n c (.owner call hold .readCache) s
        (.owner call hold (.release (.error message)))
  | locked_hit {call hold map} (h : s.look env call c = .ok (some map)) :
      MapStep env s n c (.owner call hold .readCache) s
        (.owner call hold (.release (.ok (call.result s.now map true true false false))))
  | locked_miss {call hold} (h : s.look env call c = .ok none) :
      MapStep env s n c (.owner call hold .readCache) s (.owner call hold .loadFromDatabase)
  | load_error {call hold message} (h : s.loadFromDatabase env call.eventId c = .error message) :
      MapStep env s n c (.owner call hold .loadFromDatabase) (s.countLoad call.eventId)
        (.owner call hold (.release (.error message)))
  | load_found {call hold map} (h : s.loadFromDatabase env call.eventId c = .ok map) :
      MapStep env s n c (.owner call hold .loadFromDatabase) (s.countLoad call.eventId)
        (.owner call hold (.store map (s.loads call.eventId)))
  | store_error {call hold map load message} (h : c = .fail message) :
      MapStep env s n c (.owner call hold (.store map load)) s
        (.owner call hold (.release (.error message)))
  | store_done {call hold map load id} (h : c = .ok id) :
      MapStep env s n c (.owner call hold (.store map load))
        (s.cacheMap call.eventId map load)
        (.owner call hold (.release (.ok (call.result s.now map.toJson false true false true))))
  | release_error {call hold outcome message}
      (h : c = .fail message ∨ env.digests .releaseMutex = false ∨ s.cached .releaseMutex = false) :
      MapStep env s n c (.owner call hold (.release outcome)) s
        (.ended call.eventId (.error message))
  | release_done {call hold outcome} :
      MapStep env s n c (.owner call hold (.release outcome))
        (s.setKey (lockKey call.eventId)
          (release_mutex s.now (s.keys (lockKey call.eventId)) hold.token).1)
        (.ended call.eventId outcome)
  | wake {call failedAt attempt wake} (h : wake ≤ s.now) :
      MapStep env s n c (.sleep call failedAt attempt wake) s (.waitRead call failedAt attempt)
  | wait_error {call failedAt attempt message} (h : s.look env call c = .error message) :
      MapStep env s n c (.waitRead call failedAt attempt) s
        (.ended call.eventId (.error message))
  | wait_hit {call failedAt attempt map} (h : s.look env call c = .ok (some map)) :
      MapStep env s n c (.waitRead call failedAt attempt) s
        (.ended call.eventId (.ok (call.result s.now map true false true false)))
  | wait_miss {call failedAt attempt} (h : s.look env call c = .ok none)
      (hmore : attempt + 1 < WAIT_ATTEMPTS) :
      MapStep env s n c (.waitRead call failedAt attempt) s
        (.sleep call failedAt (attempt + 1) (s.now + WAIT_DELAY_MS))
  | wait_over {call failedAt attempt} (h : s.look env call c = .ok none)
      (hlast : WAIT_ATTEMPTS ≤ attempt + 1) :
      MapStep env s n c (.waitRead call failedAt attempt) s
        (.ended call.eventId
          (.error ("Seating map hydration timed out for event: " ++ call.eventId)))

section Act

variable {env : MapEnv} {s s' : MapStore} {n : Nat} {c : Choice} {f' : MapFrame}

theorem stepReadCache_cases (call : MapCall) :
    MapStep env s n c (.readCache call) s (stepReadCache env s call c) := by
  unfold stepReadCache
  split
  next h => exact .read_error h
  next h => exact .read_hit h
  next h => exact .read_miss h

theorem draw_now {token : String} (h : s.draw n token = some s') :
    s'.now = s.now ∧ s'.keys = s.keys := by
  unfold MapStore.draw at h
  split_ifs at h
  cases h
  exact ⟨rfl, rfl⟩

theorem stepAcquireMutex_cases {call : MapCall} (h : stepAcquireMutex s n call c = some (s', f')) :
    MapStep env s n c (.acquireMutex call) s' f' := by
  cases c with
  | fail message =>
    cases h
    exact .acquire_error rfl
  | ok token =>
    obtain ⟨s₁, hdraw, h⟩ := Option.bind_eq_some_iff.mp h
    obtain ⟨hnow, hkeys⟩ := draw_now hdraw
    simp only [acquireMutex, hnow, hkeys] at h
    cases hread : Lease.read s.now (s.keys (lockKey call.eventId)) with
    | none =>
      simp only [hread] at h
      cases h
      exact .acquire_won hdraw hread
    | some value =>
      simp only [hread] at h
      cases h
      exact .acquire_lost hdraw hread

theorem stepOwner_cases (env : MapEnv) (s : MapStore) (n : Nat) (c : Choice) (call : MapCall)
    (hold : MutexHold) (point : OwnerPoint) :
    MapStep env s n c (.owner call hold point) (stepOwner env s call hold c point).1
      (stepOwner env s call hold c point).2 := by
  cases point with
  | readCache =>
    simp only [stepOwner, stepLockedRead]
    split
    next h => exact .locked_error h
    next h => exact .locked_hit h
    next h => exact .locked_miss h
  | loadFromDatabase =>
    simp only [stepOwner, stepLoad]
    cases h : s.loadFromDatabase env call.eventId c with
    | error message => exact .load_error h
    | ok map => exact .load_found h
  | store map load =>
    cases c with
    | fail message => exact .store_error rfl
    | ok id => exact .store_done rfl
  | release outcome =>
    cases c with
    | fail message => exact .release_error (.inl rfl)
    | ok id =>
      simp only [stepOwner, stepRelease, MapStore.releaseMutex, getLuaScriptDigest]
      by_cases hd : env.digests .releaseMutex = true
      · by_cases hc : s.cached .releaseMutex = true
        · simp only [hd, hc, if_true]
          exact .release_done
        · simp only [hd, hc, if_true]
          exact .release_error (.inr (.inr (eq_false_of_ne_true hc)))
      · simp only [hd]
        exact .release_error (.inr (.inl (eq_false_of_ne_true hd)))

theorem stepWaitRead_cases (call : MapCall) (failedAt attempt : Nat) :
    MapStep env s n c (.waitRead call failedAt attempt) s
      (stepWaitRead env s call failedAt attempt c) := by
  unfold stepWaitRead
  split
  next h => exact .wait_error h
  next h => exact .wait_hit h
  next h =>
    split_ifs with hmore
    · exact .wait_miss h hmore
    · exact .wait_over h (Nat.le_of_not_lt hmore)

theorem act_cases {f : MapFrame} (h : f.act env s n c = some (s', f')) :
    MapStep env s n c f s' f' := by
  cases f with
  | idle => cases h
  | getSeatingMapDirect call =>
    cases h
    unfold stepDirect
    split
    next h => exact .direct_error h
    next h => exact .direct_found h
  | readCache call => cases h; exact stepReadCache_cases call
  | acquireMutex call => exact stepAcquireMutex_cases h
  | owner call hold point =>
    have hcase := stepOwner_cases env s n c call hold point
    rwa [Option.some.inj h] at hcase
  | sleep call failedAt attempt wake =>
    simp only [MapFrame.act, stepSleep] at h
    split_ifs at h with hw
    · cases h
      exact .wake hw
    · cases h
  | waitRead call failedAt attempt => cases h; exact stepWaitRead_cases call failedAt attempt
  | ended eventId outcome => cases h

end Act

end TicketEngine
