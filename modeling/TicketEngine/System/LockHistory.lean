import TicketEngine.Framework.Refinement
import TicketEngine.Services.SeatLease
import TicketEngine.System.Course

namespace TicketEngine

/-- The seat locks on their own: each call is one instant. -/
def seatLocks : Machine LockRedis LockCall := lockMachine fun _ => true

def holdCall (request : HoldSeatRequest) (holdId : String) : LockCall :=
  .acquire request.eventId request.seatId request.userId (.finite DEFAULT_HOLD_TTL_SECONDS) holdId
    ⟨0, 0⟩

def releaseCall (request : HoldSeatRequest) (holdId : String) : LockCall :=
  .release request.eventId request.seatId request.userId holdId ⟨0, 0⟩

/-- Redis knows the script and the process its digest. -/
def LockRedis.hasScript (digests : ScriptDigests) (r : LockRedis) (name : LuaScriptName) : Bool :=
  digests name && r.cached name

/-- The call whose script a command runs, if it runs one. -/
def Frame.lockCall (digests : ScriptDigests) (r : LockRedis) : Choice → Frame → Option LockCall
  | .ok _, .evalshaHold _ request holdId =>
    if r.hasScript digests .atomicSeatLock then some (holdCall request holdId) else none
  | .ok _, .evalHold _ request holdId => some (holdCall request holdId)
  | .ok _, .evalshaRelease request holdId =>
    if r.hasScript digests .releaseSeat then some (releaseCall request holdId) else none
  | .ok _, .evalRelease request holdId => some (releaseCall request holdId)
  | _, _ => none

/-- What a step of the engine is to the seat locks. -/
def World.lockCall (digests : ScriptDigests) (world : World) : Label → Option LockCall
  | .act t c => (world.point t).lockCall digests world.shared.redis c
  | .advance ms => some (.advance ms)
  | .flushScripts => some .flushScripts
  | _ => none

/-- The calls of a run in the order in which their scripts run. -/
def lockHistory (digests : ScriptDigests) (world : World) (ls : List Label) : List LockCall :=
  (engine digests).trace (World.lockCall digests) world ls

section Call

variable {digests : ScriptDigests} {r : LockRedis} {request : HoldSeatRequest} {holdId : String}

/-- Where the source is at hand, a script call is one EVAL. -/
theorem runScript_eval {name : LuaScriptName} {key : String} {script : SeatScript}
    (hs : NoNoscript script) :
    runScript (fun _ => true) r name key script 0 = r.eval name key script := by
  rw [runScript_eq hs]
  simp only [if_true, LockRedis.wait, Nat.add_zero, ite_self]

theorem hold_answer : acquireSeatHold (fun _ => true) r request.eventId request.seatId
      request.userId (.finite DEFAULT_HOLD_TTL_SECONDS) holdId ⟨0, 0⟩ =
    ((r.eval .atomicSeatLock (seatLockKey request.eventId request.seatId)
        (holdScript request holdId)).1,
      (r.eval .atomicSeatLock (seatLockKey request.eventId request.seatId)
        (holdScript request holdId)).2.map fun code =>
          ⟨code, holdId, holdTtl, r.now + holdTtl * 1000⟩) := by
  have hs : NoNoscript (holdScript request holdId) :=
    acquire_noNoscript request.userId holdId holdTtl
  have hrun : runScript _ r .atomicSeatLock (seatLockKey request.eventId request.seatId) _ 0 = _ :=
    runScript_eval hs
  unfold holdScript holdTtl at hrun
  unfold acquireSeatHold holdScript holdTtl
  simp only [hrun]
  rcases heval : r.eval .atomicSeatLock (seatLockKey request.eventId request.seatId)
    (fun now cell => atomic_seat_lock now cell request.userId holdId
      (some (effectiveTtl (.finite DEFAULT_HOLD_TTL_SECONDS)))) with ⟨r', e | code⟩
  · rfl
  · obtain ⟨cell, -, -, hnow⟩ := eval_ok heval
    show (r', Except.ok (⟨code, holdId, _, (r'.now : ℚ) + _⟩ : SeatLockExecution)) = _
    rw [hnow]
    rfl

theorem release_answer : releaseSeatHold (fun _ => true) r request.eventId request.seatId
      request.userId holdId ⟨0, 0⟩ =
    ((r.eval .releaseSeat (seatLockKey request.eventId request.seatId)
        (releaseScript request holdId)).1,
      (r.eval .releaseSeat (seatLockKey request.eventId request.seatId)
        (releaseScript request holdId)).2.map fun code => code == 1) := by
  have hs : NoNoscript (releaseScript request holdId) := release_noNoscript request.userId holdId
  have hrun : runScript _ r .releaseSeat (seatLockKey request.eventId request.seatId) _ 0 = _ :=
    runScript_eval hs
  unfold releaseScript at hrun
  unfold releaseSeatHold releaseScript
  simp only [hrun]
  rcases r.eval .releaseSeat (seatLockKey request.eventId request.seatId)
    (fun now cell => .ok (release_seat now cell request.userId holdId)) with ⟨r', e | code⟩
  · rfl
  · rfl

/-- A command whose script has run leaves Redis as EVAL does. -/
theorem evalsha_hasScript {name : LuaScriptName} {key : String} {script : SeatScript} :
    r.evalsha digests name key script =
      if r.hasScript digests name then r.eval name key script
      else (r, .error (if digests name then .noscript else .digestMissing name)) := by
  unfold LockRedis.evalsha LockRedis.hasScript getLuaScriptDigest
  cases digests name with
  | false => rfl
  | true =>
    cases hcached : r.cached name with
    | false => simp [hcached]
    | true => simp [hcached]

end Call

section Command

variable {digests : ScriptDigests} {s s' : Store} {t : Thread} {c : Choice} {f f' : Frame}
  {p : Store × Frame}

theorem unscripted_lockCall {r : LockRedis} (hf : f.scripted = false) :
    f.lockCall digests r c = none := by
  cases f with
  | evalshaHold | evalHold | evalshaRelease | evalRelease => cases hf
  | _ => cases c <;> rfl

/-- The store and the next frame after EVALSHA and after EVAL, by what Redis answers. -/
theorem stepEvalsha_redis {run : LockRedis × Except RedisError Int} {replied : Int → Frame}
    {fallback : Frame} {id : String} :
    (stepEvalsha s run replied fallback (.ok id)).1.redis = run.1 := by
  unfold stepEvalsha scriptReply
  rcases run with ⟨redis, e | code⟩
  · rfl
  · rfl

theorem stepEval_redis {run : LockRedis × Except RedisError Int} {replied : Int → Frame}
    {id : String} : (stepEval s run replied (.ok id)).1.redis = run.1 := by
  unfold stepEval scriptReply
  rcases run with ⟨redis, e | code⟩
  · rfl
  · rfl

theorem hold_exec {r : LockRedis} {request : HoldSeatRequest} {holdId : String} :
    (holdCall request holdId).exec (fun _ => true) r =
      (r.eval .atomicSeatLock (seatLockKey request.eventId request.seatId)
        (holdScript request holdId)).1 := by
  show (acquireSeatHold _ r _ _ _ _ _ _).1 = _
  rw [hold_answer]

theorem release_exec {r : LockRedis} {request : HoldSeatRequest} {holdId : String} :
    (releaseCall request holdId).exec (fun _ => true) r =
      (r.eval .releaseSeat (seatLockKey request.eventId request.seatId)
        (releaseScript request holdId)).1 := by
  show (releaseSeatHold _ r _ _ _ _ _).1 = _
  rw [release_answer]

/-- A command of the engine is one call of the seat locks, or leaves them alone. -/
theorem act_locks (h : f.act digests s t c = some p) :
    seatLocks.run s.redis (f.lockCall digests s.redis c).toList = some p.1.redis := by
  by_cases hf : f.scripted = false
  · rw [unscripted_lockCall hf, (act_spared h).redis hf]
    rfl
  cases c with
  | fail message =>
    have hcall : f.lockCall digests s.redis (.fail message) = none := by
      cases f <;> rfl
    rw [hcall]
    cases f with
    | evalshaHold | evalshaRelease =>
      cases h
      rfl
    | evalHold | evalRelease =>
      cases h
      rfl
    | _ => exact absurd rfl hf
  | ok id =>
    cases f with
    | evalshaHold caller request holdId =>
      cases h
      rw [stepEvalshaHold, stepEvalsha_redis, evalsha_hasScript]
      simp only [Frame.lockCall]
      split_ifs
      · exact congrArg some hold_exec
      · rfl
      · rfl
    | evalHold caller request holdId =>
      cases h
      rw [stepEvalHold, stepEval_redis]
      exact congrArg some hold_exec
    | evalshaRelease request holdId =>
      cases h
      rw [stepEvalshaRelease, stepEvalsha_redis, evalsha_hasScript]
      simp only [Frame.lockCall]
      split_ifs
      · exact congrArg some release_exec
      · rfl
      · rfl
    | evalRelease request holdId =>
      cases h
      rw [stepEvalRelease, stepEval_redis]
      exact congrArg some release_exec
    | _ => exact absurd rfl hf

end Command

section World

variable {digests : ScriptDigests} {world world' : World} {l : Label} {ls : List Label} {w : Nat}
  {c : Choice} {s s' : Store} {t : Thread}

theorem stopWorker_redis {mode : Mode} : (stopWorker s w mode).redis = s.redis := by
  cases mode with
  | startOrderConsumer => rfl
  | processAvailableOrderMessages => rfl

theorem claimed_redis {messages : List RedisStreamMessage}
    (h : claimPendingMessages s w = some (s', messages)) : s'.redis = s.redis := by
  obtain ⟨p, -, hp⟩ := Option.map_eq_some_iff.mp h
  cases hp
  rfl

theorem fetched_redis {messages : List RedisStreamMessage}
    (h : readMessages s w = some (s', messages)) : s'.redis = s.redis := by
  obtain ⟨p, -, hp⟩ := Option.map_eq_some_iff.mp h
  cases hp
  rfl

theorem claim_redis {mode : Mode} : (stepClaim s w mode c).1.redis = s.redis := by
  cases c with
  | fail message => exact stopWorker_redis
  | ok id =>
    simp only [stepClaim]
    split
    · exact stopWorker_redis
    next hclaimed => exact claimed_redis hclaimed

theorem read_redis {mode : Mode} {claimed : List RedisStreamMessage} :
    (stepRead s w mode claimed c).1.redis = s.redis := by
  cases c with
  | fail message => exact stopWorker_redis
  | ok id =>
    simp only [stepRead]
    split
    · exact stopWorker_redis
    next hread =>
      have hredis := fetched_redis hread
      cases mode with
      | startOrderConsumer =>
        simp only
        split
        · exact hredis
        · exact hredis
      | processAvailableOrderMessages => exact hredis

theorem actWorker_redis (h : actWorker world w c = some world') :
    world'.shared.redis = world.shared.redis := by
  unfold actWorker at h
  simp only at h
  split at h
  · cases h
    cases c with
    | fail message => rfl
    | ok id => rfl
  · cases h
    unfold stepPoll
    split
    · rfl
    · rfl
  · cases h
    exact claim_redis
  · cases h
    exact read_redis
  · split at h
    · cases h
      rfl
    · cases h
  · cases h

theorem actWorker_unscripted (h : actWorker world w c = some world') :
    (world.point (.worker w)).scripted = false := by
  unfold actWorker at h
  cases hpoint : world.point (.worker w) with
  | evalshaHold | evalHold | evalshaRelease | evalRelease =>
    simp only [hpoint] at h
    cases h
  | _ => rfl

theorem enter_redis {f : Frame} (h : enter world t f = some world') :
    world'.shared.redis = world.shared.redis := by
  obtain ⟨-, rfl⟩ := enter_some h
  rfl

theorem startWorker_redis {mode : Mode} (h : startWorker world w mode s = some world') :
    world'.shared.redis = s.redis := by
  unfold startWorker at h
  split at h
  · cases h
    rfl
  · cases h
    rfl
  · cases h
    rfl
  · cases h

/-- A step of the engine is at most one call of the seat locks. -/
theorem step_locks (h : step digests world l = some world') :
    seatLocks.run world.shared.redis (world.lockCall digests l).toList =
      some world'.shared.redis := by
  cases l with
  | holdSeat n payload | createOrder n payload | releaseSeat n payload holdId =>
    exact congrArg some (enter_redis h).symm
  | startOrderConsumer v =>
    simp only [step] at h
    split_ifs at h
    · cases h
      rfl
    · exact congrArg some (startWorker_redis h).symm
  | processAvailableOrderMessages v => exact congrArg some (startWorker_redis h).symm
  | act t c =>
    have acted (h : ((world.point t).act digests world.shared t c).map (fun p : Store × Frame =>
        (⟨p.1, Function.update world.point t p.2⟩ : World)) = some world') :
        seatLocks.run world.shared.redis (world.lockCall digests (.act t c)).toList =
          some world'.shared.redis := by
      obtain ⟨p, hp, rfl⟩ := Option.map_eq_some_iff.mp h
      exact act_locks hp
    cases t with
    | call n => exact acted h
    | task v i => exact acted h
    | worker v =>
      have hnone : world.lockCall digests (.act (.worker v) c) = none :=
        unscripted_lockCall (actWorker_unscripted h)
      rw [hnone]
      exact congrArg some (actWorker_redis h).symm
  | stopOrderConsumer _ | crashCall _ | crashWorker _ =>
    cases h
    rfl
  | advance ms =>
    cases h
    rfl
  | flushScripts =>
    cases h
    rfl

/-- The locks after a run are those after its calls, one at a time. -/
theorem run_locks (h : (engine digests).run world ls = some world') :
    seatLocks.run world.shared.redis (lockHistory digests world ls) =
      some world'.shared.redis :=
  Machine.run_trace (I := fun _ => True) (f := fun world : World => world.shared.redis)
    (fun _ _ _ _ _ => trivial) (fun _ _ _ _ hst => step_locks hst) trivial h

end World

section Replies

variable {digests : ScriptDigests} {s s' : Store} {t : Thread} {c : Choice} {f : Frame}
  {request : HoldSeatRequest} {holdId : String} {caller : Caller} {result : Int}

/-- A call gets the code of its script, where the script has run. -/
theorem stepEvalsha_replied {run : LockRedis × Except RedisError Int} {replied : Int → Frame}
    {fallback f' : Frame} (h : (stepEvalsha s run replied fallback c).2 = f')
    (hback : f' ≠ fallback) (hrejected : ∀ e, f' ≠ .rejected e) :
    ∃ id code, c = .ok id ∧ run.2 = .ok code ∧ f' = replied code := by
  unfold stepEvalsha at h
  cases c with
  | fail message =>
    simp only [scriptReply] at h
    split_ifs at h
    · exact absurd h.symm hback
    · exact absurd h.symm (hrejected _)
  | ok id =>
    rcases run with ⟨redis, e | code⟩
    · simp only [scriptReply] at h
      split_ifs at h
      · exact absurd h.symm hback
      · exact absurd h.symm (hrejected _)
    · exact ⟨id, code, rfl, rfl, h.symm⟩

theorem stepEval_replied {run : LockRedis × Except RedisError Int} {replied : Int → Frame}
    {f' : Frame} (h : (stepEval s run replied c).2 = f') (hrejected : ∀ e, f' ≠ .rejected e) :
    ∃ id code, c = .ok id ∧ run.2 = .ok code ∧ f' = replied code := by
  obtain ⟨e, heval⟩ := stepEval_eq s run replied c
  rw [heval] at h
  exact stepEvalsha_replied h (hrejected e) hrejected

/-- The frames from which a call comes to the reply of a hold. -/
theorem holdReply_from
    (h : f.act digests s t c = some (s', .holdReply caller request holdId result)) :
    f = .evalshaHold caller request holdId ∨ f = .evalHold caller request holdId := by
  have hcourse := act_course h
  simp only at hcourse
  cases hcourse with
  | quit hstill hend => cases hend
  | silent hstill hmove =>
    cases hmove with
    | hold_lost hf hcode => exact hf
  | take hf => exact hf
  | announce hf => cases f <;> cases hf
  | unannounced hf => cases f <;> cases hf

theorem releaseReply_from
    (h : f.act digests s t c = some (s', .releaseReply request holdId result)) :
    f = .evalshaRelease request holdId ∨ f = .evalRelease request holdId := by
  have hcourse := act_course h
  simp only at hcourse
  cases hcourse with
  | quit hstill hend => cases hend
  | silent hstill hmove =>
    cases hmove with
    | release_lost hf hcode => exact hf
  | drop hf => exact hf
  | announce hf => cases f <;> cases hf
  | unannounced hf => cases f <;> cases hf

/-- A reply to a hold is the answer of the lock service at this instant. -/
theorem hold_replied
    (h : f.act digests s t c = some (s', .holdReply caller request holdId result)) :
    f.lockCall digests s.redis c = some (holdCall request holdId) ∧
      (acquireSeatHold (fun _ => true) s.redis request.eventId request.seatId request.userId
        (.finite DEFAULT_HOLD_TTL_SECONDS) holdId ⟨0, 0⟩).2 =
        .ok ⟨result, holdId, holdTtl, s.redis.now + holdTtl * 1000⟩ := by
  rw [hold_answer]
  rcases holdReply_from h with rfl | rfl
  · have hpoint := congrArg Prod.snd (Option.some.inj h)
    obtain ⟨id, code, rfl, hcode, hreply⟩ := stepEvalsha_replied hpoint (by nofun) (by nofun)
    cases hreply
    rw [evalsha_hasScript] at hcode
    simp only [Frame.lockCall]
    split_ifs at hcode ⊢
    exact ⟨rfl, by rw [hcode]; rfl⟩
  · have hpoint := congrArg Prod.snd (Option.some.inj h)
    obtain ⟨id, code, rfl, hcode, hreply⟩ := stepEval_replied hpoint (by nofun)
    cases hreply
    exact ⟨rfl, by rw [hcode]; rfl⟩

theorem release_replied
    (h : f.act digests s t c = some (s', .releaseReply request holdId result)) :
    f.lockCall digests s.redis c = some (releaseCall request holdId) ∧
      (releaseSeatHold (fun _ => true) s.redis request.eventId request.seatId request.userId
        holdId ⟨0, 0⟩).2 = .ok (result == 1) := by
  rw [release_answer]
  rcases releaseReply_from h with rfl | rfl
  · have hpoint := congrArg Prod.snd (Option.some.inj h)
    obtain ⟨id, code, rfl, hcode, hreply⟩ := stepEvalsha_replied hpoint (by nofun) (by nofun)
    cases hreply
    rw [evalsha_hasScript] at hcode
    simp only [Frame.lockCall]
    split_ifs at hcode ⊢
    exact ⟨rfl, by rw [hcode]; rfl⟩
  · have hpoint := congrArg Prod.snd (Option.some.inj h)
    obtain ⟨id, code, rfl, hcode, hreply⟩ := stepEval_replied hpoint (by nofun)
    cases hreply
    exact ⟨rfl, by rw [hcode]; rfl⟩

/-- A release that frees its key answers so. -/
theorem release_freed {redis : LockRedis} (hfreed : (releaseSeatHold (fun _ => true) redis
      request.eventId request.seatId request.userId holdId ⟨0, 0⟩).2 = .ok true) :
    (redis.eval .releaseSeat (seatLockKey request.eventId request.seatId)
      (releaseScript request holdId)).2 = .ok 1 := by
  rw [release_answer] at hfreed
  rcases heval : redis.eval .releaseSeat (seatLockKey request.eventId request.seatId)
    (releaseScript request holdId) with ⟨redis', e | code⟩
  · rw [heval] at hfreed
    cases hfreed
  · rw [heval] at hfreed
    have hcode : (code == 1) = true := Except.ok.inj hfreed
    rw [eq_of_beq hcode]

/-- Where the locks are told to free a key and do, a releasing call gets that reply. -/
theorem release_called {eventId seatId userId : String} {d : Delays} {p : Store × Frame}
    (h : f.act digests s t c = some p)
    (hcall : f.lockCall digests s.redis c = some (.release eventId seatId userId holdId d))
    (hfreed : (releaseSeatHold (fun _ => true) s.redis eventId seatId userId holdId d).2 =
      .ok true) :
    ∃ request, request.eventId = eventId ∧ request.seatId = seatId ∧ request.userId = userId ∧
      p.2 = .releaseReply request holdId 1 := by
  cases c with
  | fail message => cases f <;> cases hcall
  | ok id =>
    cases f with
    | evalshaHold caller request hold =>
      simp only [Frame.lockCall] at hcall
      split_ifs at hcall
      cases hcall
    | evalHold caller request hold => cases hcall
    | evalshaRelease request hold =>
      simp only [Frame.lockCall] at hcall
      split_ifs at hcall with hscript
      cases hcall
      have hcode := release_freed hfreed
      cases h
      refine ⟨request, rfl, rfl, rfl, ?_⟩
      rw [stepEvalshaRelease, evalsha_hasScript, if_pos hscript]
      unfold stepEvalsha scriptReply
      rcases heval : s.redis.eval .releaseSeat (seatLockKey request.eventId request.seatId)
        (releaseScript request holdId) with ⟨redis, e | code⟩
      · rw [heval] at hcode
        cases hcode
      · rw [heval] at hcode
        cases hcode
        rfl
    | evalRelease request hold =>
      cases hcall
      have hcode := release_freed hfreed
      cases h
      refine ⟨request, rfl, rfl, rfl, ?_⟩
      unfold stepEvalRelease stepEval scriptReply
      rcases heval : s.redis.eval .releaseSeat (seatLockKey request.eventId request.seatId)
        (releaseScript request holdId) with ⟨redis, e | code⟩
      · rw [heval] at hcode
        cases hcode
      · rw [heval] at hcode
        cases hcode
        rfl
    | _ => cases hcall

end Replies

section Engine

variable {digests : ScriptDigests} {world world' before after : World} {ls : List Label}
  {n m : Nat} {c c' : Choice}

theorem call_act (h : step digests before (.act (.call n) c) = some after) :
    ∃ p, (before.point (.call n)).act digests before.shared (.call n) c = some p ∧
      after = ⟨p.1, Function.update before.point (.call n) p.2⟩ := by
  obtain ⟨p, hp, rfl⟩ := Option.map_eq_some_iff.mp h
  exact ⟨p, hp, rfl⟩

theorem call_held {caller : Caller} {request : HoldSeatRequest} {holdId : String} {result : Int}
    (h : step digests before (.act (.call n) c) = some after)
    (hreply : after.point (.call n) = .holdReply caller request holdId result) :
    before.lockCall digests (.act (.call n) c) = some (holdCall request holdId) ∧
      (acquireSeatHold (fun _ => true) before.shared.redis request.eventId request.seatId
        request.userId (.finite DEFAULT_HOLD_TTL_SECONDS) holdId ⟨0, 0⟩).2 =
        .ok ⟨result, holdId, holdTtl, before.shared.redis.now + holdTtl * 1000⟩ := by
  obtain ⟨⟨s, f⟩, hp, rfl⟩ := call_act h
  simp only [Function.update_self] at hreply
  rw [hreply] at hp
  exact hold_replied hp

theorem call_released {request : HoldSeatRequest} {holdId : String} {result : Int}
    (h : step digests before (.act (.call n) c) = some after)
    (hreply : after.point (.call n) = .releaseReply request holdId result) :
    before.lockCall digests (.act (.call n) c) = some (releaseCall request holdId) ∧
      (releaseSeatHold (fun _ => true) before.shared.redis request.eventId request.seatId
        request.userId holdId ⟨0, 0⟩).2 = .ok (result == 1) := by
  obtain ⟨⟨s, f⟩, hp, rfl⟩ := call_act h
  simp only [Function.update_self] at hreply
  rw [hreply] at hp
  exact release_replied hp

theorem scriptTime_zero (r : LockRedis) (name : LuaScriptName) : scriptTime r name 0 = r.now := by
  unfold scriptTime
  split_ifs
  · rfl
  · rfl

/-- Where a step is a release that frees its key, a call is told so. -/
theorem step_released {l : Label} {eventId seatId userId holdId : String} {d : Delays}
    (h : step digests before l = some after)
    (hshown : before.lockCall digests l = some (.release eventId seatId userId holdId d))
    (hfreed : (releaseSeatHold (fun _ => true) before.shared.redis eventId seatId userId holdId
      d).2 = .ok true) :
    ∃ t c request, l = .act t c ∧ request.eventId = eventId ∧ request.seatId = seatId ∧
      request.userId = userId ∧ after.point t = .releaseReply request holdId 1 := by
  cases l with
  | act t c =>
    have acted (h : ((before.point t).act digests before.shared t c).map (fun p : Store × Frame =>
        (⟨p.1, Function.update before.point t p.2⟩ : World)) = some after) :
        ∃ t' c' request, TicketEngine.Label.act t c = .act t' c' ∧ request.eventId = eventId ∧
          request.seatId = seatId ∧ request.userId = userId ∧
          after.point t' = .releaseReply request holdId 1 := by
      obtain ⟨p, hp, rfl⟩ := Option.map_eq_some_iff.mp h
      obtain ⟨request, he, hs, hu, hreply⟩ := release_called hp hshown hfreed
      refine ⟨t, c, request, rfl, he, hs, hu, ?_⟩
      simp only [Function.update_self]
      exact hreply
    cases t with
    | call n => exact acted h
    | task v i => exact acted h
    | worker v =>
      have hnone : before.lockCall digests (.act (.worker v) c) = none :=
        unscripted_lockCall (actWorker_unscripted h)
      rw [hnone] at hshown
      cases hshown
  | _ => cases hshown

/-- The engine's seat locks are linearizable: a run leaves the locks as the calls whose scripts
it runs leave them when each is one instant, in the order of the scripts, and every reply to a
hold or a release is the answer of that call at that instant. -/
theorem engine_locks_linearizable (hrun : (engine digests).run world ls = some world') :
    seatLocks.run world.shared.redis (lockHistory digests world ls) = some world'.shared.redis ∧
      ∀ as n c bs before after, ls = as ++ .act (.call n) c :: bs →
        (engine digests).run world as = some before →
        (engine digests).step before (.act (.call n) c) = some after →
        seatLocks.run world.shared.redis (lockHistory digests world as) =
          some before.shared.redis ∧
        (∀ caller request holdId result,
          after.point (.call n) = .holdReply caller request holdId result →
          lockHistory digests world ls = lockHistory digests world as ++
            holdCall request holdId :: lockHistory digests after bs ∧
          (acquireSeatHold (fun _ => true) before.shared.redis request.eventId request.seatId
            request.userId (.finite DEFAULT_HOLD_TTL_SECONDS) holdId ⟨0, 0⟩).2 =
            .ok ⟨result, holdId, holdTtl, before.shared.redis.now + holdTtl * 1000⟩) ∧
        ∀ request holdId result,
          after.point (.call n) = .releaseReply request holdId result →
          lockHistory digests world ls = lockHistory digests world as ++
            releaseCall request holdId :: lockHistory digests after bs ∧
          (releaseSeatHold (fun _ => true) before.shared.redis request.eventId request.seatId
            request.userId holdId ⟨0, 0⟩).2 = .ok (result == 1) := by
  refine ⟨run_locks hrun, ?_⟩
  intro as n c bs before after hls has hstep
  have hhistory {k : LockCall} (hk : before.lockCall digests (.act (.call n) c) = some k) :
      lockHistory digests world ls =
        lockHistory digests world as ++ k :: lockHistory digests after bs := by
    unfold lockHistory
    rw [hls, Machine.trace_append has, Machine.trace_cons hstep, hk]
    rfl
  refine ⟨run_locks has, ?_, ?_⟩
  · intro caller request holdId result hreply
    obtain ⟨hcall, hanswer⟩ := call_held hstep hreply
    exact ⟨hhistory hcall, hanswer⟩
  · intro request holdId result hreply
    obtain ⟨hcall, hanswer⟩ := call_released hstep hreply
    exact ⟨hhistory hcall, hanswer⟩

theorem engine_locks_linearizable_purchase :
    ∃ world', (engine fun _ => true).run oneSeat (purchase "u" "h" "o") = some world' ∧
      (lockHistory (fun _ => true) oneSeat (purchase "u" "h" "o")).length = 1 ∧
      seatLocks.run oneSeat.shared.redis
        (lockHistory (fun _ => true) oneSeat (purchase "u" "h" "o")) =
        some world'.shared.redis := by
  have hsome : ((engine fun _ => true).run oneSeat (purchase "u" "h" "o")).isSome = true := by
    decide +kernel
  obtain ⟨world', hrun⟩ := Option.isSome_iff_exists.mp hsome
  obtain ⟨hlocks, -⟩ := engine_locks_linearizable hrun
  refine ⟨world', hrun, ?_, hlocks⟩
  decide +kernel

/-- Holds are exclusive leases in the engine too: two calls that are granted a hold on the same
key are more than 600 s apart, or in between a call released the first hold and was told so. -/
theorem engine_holds_exclusive {w₀ w₁ w₂ w₃ : World} {ms : List Label} {caller₁ caller₂ : Caller}
    {request₁ request₂ : HoldSeatRequest} {hold₁ hold₂ : String}
    (hfirst : (engine digests).step w₀ (.act (.call n) c) = some w₁)
    (hgranted₁ : w₁.point (.call n) = .holdReply caller₁ request₁ hold₁ 1)
    (hrun : (engine digests).run w₁ ms = some w₂)
    (hsecond : (engine digests).step w₂ (.act (.call m) c') = some w₃)
    (hgranted₂ : w₃.point (.call m) = .holdReply caller₂ request₂ hold₂ 1)
    (hkey : seatLockKey request₂.eventId request₂.seatId =
      seatLockKey request₁.eventId request₁.seatId) :
    w₀.shared.redis.now + 600000 < w₂.shared.redis.now ∨
      ∃ as t c'' bs u v request, ms = as ++ .act t c'' :: bs ∧
        (engine digests).run w₁ as = some u ∧ (engine digests).step u (.act t c'') = some v ∧
        v.point t = .releaseReply request hold₁ 1 ∧ request.userId = request₁.userId ∧
        seatLockKey request.eventId request.seatId =
          seatLockKey request₁.eventId request₁.seatId := by
  obtain ⟨hcall₁, hanswer₁⟩ := call_held hfirst hgranted₁
  obtain ⟨-, hanswer₂⟩ := call_held hsecond hgranted₂
  have hstep : step digests w₀ (.act (.call n) c) = some w₁ := hfirst
  have hlocks₁ := step_locks hstep
  rw [hcall₁] at hlocks₁
  have hnext : (acquireSeatHold (fun _ => true) w₀.shared.redis request₁.eventId request₁.seatId
      request₁.userId (.finite DEFAULT_HOLD_TTL_SECONDS) hold₁ ⟨0, 0⟩).1 = w₁.shared.redis :=
    Option.some.inj hlocks₁
  have hacquired₁ : acquireSeatHold (fun _ => true) w₀.shared.redis request₁.eventId
      request₁.seatId request₁.userId (.finite DEFAULT_HOLD_TTL_SECONDS) hold₁ ⟨0, 0⟩ =
      (w₁.shared.redis, .ok ⟨1, hold₁, holdTtl, w₀.shared.redis.now + holdTtl * 1000⟩) :=
    Prod.ext hnext hanswer₁
  have hacquired₂ : acquireSeatHold (fun _ => true) w₂.shared.redis request₂.eventId
      request₂.seatId request₂.userId (.finite DEFAULT_HOLD_TTL_SECONDS) hold₂ ⟨0, 0⟩ =
      (_, .ok ⟨1, hold₂, holdTtl, w₂.shared.redis.now + holdTtl * 1000⟩) :=
    Prod.ext rfl hanswer₂
  have hmiddle := run_locks hrun
  rcases acquisitions_apart hkey hacquired₁ rfl hmiddle hacquired₂ rfl with
    hlate | ⟨before, eventId, seatId, d, after, r, hhistory, hsame, hbefore, hfreed⟩
  · left
    rw [scriptTime_zero, scriptTime_zero, holdTtl_eq] at hlate
    have hlate' : ((w₀.shared.redis.now + 600000 : Nat) : ℚ) < w₂.shared.redis.now := by
      push_cast
      linarith
    exact_mod_cast hlate'
  · right
    obtain ⟨as, l, bs, u, v, hms, has, hstep', -, hshown, htrace⟩ :=
      Machine.trace_split hrun hhistory
    have hu : u.shared.redis = r := by
      have hlocks := run_locks has
      rw [lockHistory, htrace] at hlocks
      exact Option.some.inj (hlocks.symm.trans hbefore)
    rw [← hu] at hfreed
    obtain ⟨t, c'', request, rfl, he, hs, huser, hreply⟩ := step_released hstep' hshown hfreed
    refine ⟨as, t, c'', bs, u, v, request, hms, has, hstep', hreply, huser, ?_⟩
    rw [he, hs]
    exact hsame

end Engine

/-- The reply to a hold that a call is about to look at. -/
def Frame.holdResult : Frame → Option (HoldSeatRequest × String × Int)
  | .holdReply _ request holdId result => some (request, holdId, result)
  | _ => none

theorem holdReply_of_result {f : Frame} {request : HoldSeatRequest} {holdId : String}
    {result : Int} (h : f.holdResult = some (request, holdId, result)) :
    ∃ caller, f = .holdReply caller request holdId result := by
  cases f with
  | holdReply caller request hold code =>
    cases h
    exact ⟨caller, rfl⟩
  | _ => cases h

/-- A user comes to the hold of the one seat. -/
def firstUser : List Label := .holdSeat 0 (requestOf "u") :: acts (.call 0) ["h"]

/-- Another user does after the first hold has expired. -/
def secondUser : List Label :=
  .advance 600001 :: .holdSeat 1 (requestOf "v") :: acts (.call 1) ["k"]

theorem engine_holds_exclusive_expired :
    ∃ w₀ w₁ w₂ : World, (engine fun _ => true).run w₁ secondUser = some w₂ ∧
      (w₁.point (.call 0)).holdResult = some (⟨"e", "s", "u"⟩, "h", 1) ∧
      (w₀.shared.redis.now + 600000 < w₂.shared.redis.now ∨
        ∃ as t c bs u v request, secondUser = as ++ .act t c :: bs ∧
          (engine fun _ => true).run w₁ as = some u ∧
          (engine fun _ => true).step u (.act t c) = some v ∧
          v.point t = .releaseReply request "h" 1 ∧ request.userId = "u" ∧
          seatLockKey request.eventId request.seatId = seatLockKey "e" "s") := by
  have hview : ((engine fun _ => true).run oneSeat firstUser).bind (fun w₀ =>
      ((engine fun _ => true).step w₀ (.act (.call 0) (.ok ""))).bind fun w₁ =>
        ((engine fun _ => true).run w₁ secondUser).bind fun w₂ =>
          ((engine fun _ => true).step w₂ (.act (.call 1) (.ok ""))).map fun w₃ =>
            [(w₁.point (.call 0)).holdResult, (w₃.point (.call 1)).holdResult]) =
      some [some (⟨"e", "s", "u"⟩, "h", 1), some (⟨"e", "s", "v"⟩, "k", 1)] := by
    decide +kernel
  obtain ⟨w₀, -, hview⟩ := Option.bind_eq_some_iff.mp hview
  obtain ⟨w₁, hfirst, hview⟩ := Option.bind_eq_some_iff.mp hview
  obtain ⟨w₂, hrun, hview⟩ := Option.bind_eq_some_iff.mp hview
  obtain ⟨w₃, hsecond, hview⟩ := Option.map_eq_some_iff.mp hview
  obtain ⟨hresult₁, hrest⟩ := List.cons.inj hview
  obtain ⟨hresult₂, -⟩ := List.cons.inj hrest
  obtain ⟨caller₁, hgranted₁⟩ := holdReply_of_result hresult₁
  obtain ⟨caller₂, hgranted₂⟩ := holdReply_of_result hresult₂
  have happart := engine_holds_exclusive hfirst hgranted₁ hrun hsecond hgranted₂ rfl
  exact ⟨w₀, w₁, w₂, hrun, hresult₁, happart⟩

end TicketEngine
