import TicketEngine.System.Change

namespace TicketEngine

section Basic

variable {f : Frame} {mine : Thread → Prop} {s s' : Store} {t : Thread}

theorem Change.refl (f : Frame) (mine : Thread → Prop) (s : Store) : Change f mine s s where
  now := rfl
  locks _ _ _ := Iff.rfl
  drawn _ _ h := h
  rows := .same rfl rfl
  log := .same rfl
  keys := .same rfl

theorem abort_locks (s : Store) {t u : Thread} (hu : ¬ u = t) (id : String) :
    (s.abort t).rowLock id = some u ↔ s.rowLock id = some u := by
  simp only [Store.abort, Store.unlock]
  cases s.rowLock id with
  | none => simp
  | some v =>
    by_cases hv : v = t
    · subst hv
      simp [Ne.symm hu]
    · simp [hv]

theorem Change.abort (f : Frame) (s : Store) (t : Thread) : Change f (· = t) s (s.abort t) where
  now := rfl
  locks id _ hu := abort_locks s hu id
  drawn _ _ h := h
  rows := .same rfl rfl
  log := .same rfl
  keys := .same rfl

theorem draw_eq {id : String} (h : s.draw t id = some s') :
    s.drawn id = none ∧ s' = { s with drawn := Function.update s.drawn id (some t) } := by
  unfold Store.draw at h
  split_ifs at h with hn
  exact ⟨hn, (Option.some.inj h).symm⟩

theorem drawn_kept {id : String} (h : s.draw t id = some s') (k : String) (u : Thread)
    (hk : s.drawn k = some u) : s'.drawn k = some u := by
  obtain ⟨hn, rfl⟩ := draw_eq h
  simp only [Function.update_apply]
  split_ifs with he
  · rw [he, hn] at hk
    cases hk
  · exact hk

theorem Change.draw {id : String} (h : s.draw t id = some s') : Change f mine s s' := by
  have hkept := drawn_kept h
  obtain ⟨-, rfl⟩ := draw_eq h
  exact ⟨rfl, fun _ _ _ => Iff.rfl, hkept, .same rfl rfl, .same rfl, .same rfl⟩

/-- A published or dropped event changes nothing the threads rely on. -/
theorem publishSeatEvent_eq {correlationId : String} {payload : SeatEventPayload} {c : Choice}
    (h : publishSeatEvent s t correlationId payload c = some s') :
    Change f mine s s' ∧ s'.orders = s.orders ∧ s'.stream = s.stream := by
  cases c with
  | fail message =>
    cases h
    exact ⟨Change.refl _ _ _, rfl, rfl⟩
  | ok id =>
    obtain ⟨s₁, hd, rfl⟩ := Option.map_eq_some_iff.mp h
    have hkept := drawn_kept hd
    obtain ⟨-, rfl⟩ := draw_eq hd
    exact ⟨⟨rfl, fun _ _ _ => Iff.rfl, hkept, .same rfl rfl, .same rfl, .same rfl⟩, rfl, rfl⟩

theorem lockRow_cases {eventId seatId : String} {status : SeatState} {count : Nat}
    (h : s.lockRow t eventId seatId status = some (s', count)) :
    (count = 0 ∧ s' = s) ∨
    (count = 1 ∧ s.seats seatId = some ⟨eventId, status⟩ ∧ s.rowLock seatId = none ∧
      s' = { s with rowLock := Function.update s.rowLock seatId (some t) }) := by
  unfold Store.lockRow at h
  split_ifs at h with hrow hfree
  · simp only [Option.some.injEq, Prod.mk.injEq] at h
    exact .inr ⟨h.2.symm, hrow, hfree, h.1.symm⟩
  · simp only [Option.some.injEq, Prod.mk.injEq] at h
    exact .inl ⟨h.2.symm, h.1.symm⟩

theorem Change.lockRow {seatId : String} (hfree : s.rowLock seatId = none) :
    Change f (· = t) s { s with rowLock := Function.update s.rowLock seatId (some t) } where
  now := rfl
  locks id u hu := by
    simp only [Function.update_apply]
    split_ifs with hk
    · rw [hk, hfree]
      simp [Ne.symm hu]
    · exact Iff.rfl
  drawn _ _ h := h
  rows := .same rfl rfl
  log := .same rfl
  keys := .same rfl

end Basic

section Scripts

variable {digests : ScriptDigests} {r r' : LockRedis} {name : LuaScriptName} {key : String}
  {script : SeatScript}

theorem evalsha_loaded (hd : digests name = true) (hc : r.cached name = true) :
    r.evalsha digests name key script = r.eval name key script := by
  simp only [LockRedis.evalsha, getLuaScriptDigest, hd, hc, if_true]

theorem evalsha_ok {code : Int} (h : r.evalsha digests name key script = (r', .ok code)) :
    digests name = true ∧ r.cached name = true ∧ r.eval name key script = (r', .ok code) := by
  by_cases hd : digests name = true
  · by_cases hc : r.cached name = true
    · rw [evalsha_loaded hd hc] at h
      exact ⟨hd, hc, h⟩
    · simp [LockRedis.evalsha, getLuaScriptDigest, hd, hc] at h
  · simp [LockRedis.evalsha, getLuaScriptDigest, hd] at h

theorem evalsha_error {e : RedisError}
    (h : r.evalsha digests name key script = (r', .error e)) :
    r'.keys = r.keys ∧ r'.now = r.now := by
  unfold LockRedis.evalsha getLuaScriptDigest at h
  by_cases hd : digests name = true
  · by_cases hc : r.cached name = true
    · simp only [hd, hc, if_true] at h
      exact (eval_error h).2
    · simp only [hd, hc, if_true, if_false, Bool.false_eq_true, Prod.mk.injEq] at h
      rw [← h.1]
      exact ⟨rfl, rfl⟩
  · simp only [hd, if_false, Bool.false_eq_true, Prod.mk.injEq] at h
    rw [← h.1]
    exact ⟨rfl, rfl⟩

/-- One script command: it fails and leaves the keys alone, or it has run on its key. -/
def Ran (s : Store) (key : String) (script : SeatScript)
    (reply : LockRedis × Except RedisError Int) : Prop :=
  reply.1.now = s.redis.now ∧
    ((∃ e, reply.2 = .error e ∧ reply.1.keys = s.redis.keys) ∨
      ∃ code cell, reply.2 = .ok code ∧
        script s.redis.now (s.redis.keys key) = .ok (cell, code) ∧
        reply.1.keys = Function.update s.redis.keys key cell)

theorem ran_evalsha (s : Store) (digests : ScriptDigests) (name : LuaScriptName) (key : String)
    (script : SeatScript) (c : Choice) :
    Ran s key script (scriptReply s (s.redis.evalsha digests name key script) c) := by
  cases c with
  | fail message => exact ⟨rfl, .inl ⟨_, rfl, rfl⟩⟩
  | ok id =>
    change Ran s key script (s.redis.evalsha digests name key script)
    rcases h : s.redis.evalsha digests name key script with ⟨redis, e | code⟩
    · obtain ⟨hk, hn⟩ := evalsha_error h
      exact ⟨hn, .inl ⟨e, rfl, hk⟩⟩
    · obtain ⟨cell, hc, hk, hn⟩ := eval_ok (evalsha_ok h).2.2
      exact ⟨hn, .inr ⟨code, cell, rfl, hc, hk⟩⟩

theorem ran_eval (s : Store) (name : LuaScriptName) (key : String) (script : SeatScript)
    (c : Choice) : Ran s key script (scriptReply s (s.redis.eval name key script) c) := by
  cases c with
  | fail message => exact ⟨rfl, .inl ⟨_, rfl, rfl⟩⟩
  | ok id =>
    change Ran s key script (s.redis.eval name key script)
    rcases h : s.redis.eval name key script with ⟨redis, e | code⟩
    · obtain ⟨-, hk, hn⟩ := eval_error h
      exact ⟨hn, .inl ⟨e, rfl, hk⟩⟩
    · obtain ⟨cell, hc, hk, hn⟩ := eval_ok h
      exact ⟨hn, .inr ⟨code, cell, rfl, hc, hk⟩⟩

/-- The steps after a script command: `P` of the keys and the next frame. -/
theorem stepEvalsha_cases {s : Store} {run : LockRedis × Except RedisError Int}
    (replied : Int → Frame) (fallback : Frame) {c : Choice} {script : SeatScript}
    (h : Ran s key script (scriptReply s run c)) :
    ∃ redis, (stepEvalsha s run replied fallback c).1 = s.setRedis redis ∧
      redis.now = s.redis.now ∧
      ((redis.keys = s.redis.keys ∧
          ((stepEvalsha s run replied fallback c).2 = fallback ∨
            ∃ e, (stepEvalsha s run replied fallback c).2 = .rejected e)) ∨
        ∃ code cell, (stepEvalsha s run replied fallback c).2 = replied code ∧
          script s.redis.now (s.redis.keys key) = .ok (cell, code) ∧
          redis.keys = Function.update s.redis.keys key cell) := by
  unfold stepEvalsha
  rcases hr : scriptReply s run c with ⟨redis, e | code⟩
  · rw [hr] at h
    obtain ⟨hn, ⟨e', he, hk⟩ | ⟨code, cell, he, -⟩⟩ := h
    · refine ⟨redis, rfl, hn, .inl ⟨hk, ?_⟩⟩
      simp only
      split_ifs
      · exact .inl rfl
      · exact .inr ⟨_, rfl⟩
    · cases he
  · rw [hr] at h
    obtain ⟨hn, ⟨e', he, -⟩ | ⟨code', cell, he, hc, hk⟩⟩ := h
    · cases he
    · cases he
      exact ⟨redis, rfl, hn, .inr ⟨code, cell, rfl, hc, hk⟩⟩

theorem stepEval_eq (s : Store) (run : LockRedis × Except RedisError Int) (replied : Int → Frame)
    (c : Choice) : ∃ e, stepEval s run replied c = stepEvalsha s run replied (.rejected e) c := by
  unfold stepEval stepEvalsha
  rcases scriptReply s run c with ⟨redis, e | code⟩
  · exact ⟨.other e.message, by simp⟩
  · exact ⟨.other "", rfl⟩

theorem holdTtl_eq : holdTtl = 600 := by decide +kernel

theorem holdScript_cases {request : HoldSeatRequest} {holdId : String} {now : Nat}
    {cell cell' : Option (Lease SeatLock)} {code : Int}
    (h : holdScript request holdId now cell = .ok (cell', code)) :
    (code = 0 ∧ cell' = cell) ∨
    (code = 1 ∧ Lease.read now cell = none ∧ ∃ lock : SeatLock, lock.userId = request.userId ∧
      lock.holdId = holdId ∧ cell' = some ⟨lock, now + 600000⟩) := by
  rcases atomic_seat_lock_cases h with ⟨hc, hcell⟩ | ⟨hc, hfree, seconds, n, ht, he, hcell⟩
  · exact .inl ⟨hc, hcell⟩
  · refine .inr ⟨hc, hfree, ⟨.HELD, request.userId, holdId, timeSeconds now,
      timeSeconds now + seconds⟩, rfl, rfl, ?_⟩
    have hn := expireSeconds_eq he
    rw [holdTtl_eq] at ht
    rw [← Option.some.inj ht] at hn
    have : n = 600 := by exact_mod_cast hn.symm
    rw [hcell, this]

theorem releaseScript_cases {request : HoldSeatRequest} {holdId : String} {now : Nat}
    {cell cell' : Option (Lease SeatLock)} {code : Int}
    (h : releaseScript request holdId now cell = .ok (cell', code)) :
    (code ≠ 1 ∧ cell' = cell) ∨
    (code = 1 ∧ cell' = none ∧ ∃ lock, Lease.read now cell = some lock ∧
      lock.userId = request.userId ∧ lock.holdId = holdId) := by
  simp only [releaseScript, Except.ok.injEq] at h
  by_cases hone : code = 1
  · obtain ⟨lock, hread, hu, hh, hnone⟩ := release_seat_one (by rw [h]; exact hone)
    rw [h] at hnone
    exact .inr ⟨hone, hnone, lock, hread, hu, hh⟩
  · have hkept := release_seat_kept (h := by rw [h]; exact hone)
    rw [h] at hkept
    exact .inl ⟨hone, hkept⟩

end Scripts

/-! ## One lemma for each step -/

/-- The step is one of the known changes and establishes what the next frame relies on. -/
def Moves (f : Frame) (s : Store) (t : Thread) (r : Store × Frame) : Prop :=
  Change f (· = t) s r.1 ∧ r.2.Holds t r.1

section Moves

variable {s : Store} {t : Thread} {c : Choice} {r : Store × Frame}

theorem moves_stay (f : Frame) {g : Frame} (hg : g.Holds t s) : Moves f s t (s, g) :=
  ⟨Change.refl f _ s, hg⟩

theorem moves_abort (f : Frame) (s : Store) {g : Frame} (hg : g.Holds t (s.abort t)) :
    Moves f s t (s.abort t, g) :=
  ⟨Change.abort f s t, hg⟩

theorem findEvent_moves {caller : Caller} {request : HoldSeatRequest} (hs : Sound s)
    (h : stepFindEvent s t caller request c = some r) :
    Moves (.findEvent caller request) s t r := by
  cases c with
  | fail message =>
    cases h
    exact moves_stay _ trivial
  | ok holdId =>
    simp only [stepFindEvent] at h
    cases hf : findSeat s request with
    | error e =>
      rw [hf] at h
      cases h
      exact moves_stay _ trivial
    | ok u =>
      rw [hf] at h
      obtain ⟨s', hd, rfl⟩ := Option.map_eq_some_iff.mp h
      refine ⟨Change.draw hd, ?_⟩
      obtain ⟨hn, rfl⟩ := draw_eq hd
      refine ⟨Function.update_self .., ?_⟩
      cases ho : s.orders.row holdId with
      | none => rfl
      | some o =>
        obtain ⟨u, hu⟩ := hs.issued ho
        rw [hn] at hu
        cases hu

theorem holds_setRedis (g : Frame) (redis : LockRedis) :
    g.Holds t (s.setRedis redis) ↔ g.Holds t s := by
  cases g <;> exact Iff.rfl

theorem setRedis_change {f : Frame} {redis : LockRedis} (hnow : redis.now = s.redis.now)
    (hkeys : Keys f s (s.setRedis redis)) : Change f (· = t) s (s.setRedis redis) :=
  ⟨hnow, fun _ _ _ => Iff.rfl, fun _ _ h => h, .same rfl rfl, .same rfl, hkeys⟩

/-- The hold commands, EVALSHA and EVAL alike. -/
theorem hold_moves {caller : Caller} {request : HoldSeatRequest} {holdId : String} {f : Frame}
    {run : LockRedis × Except RedisError Int} {fallback : Frame}
    (hf : f = .evalshaHold caller request holdId ∨ f = .evalHold caller request holdId)
    (hfresh : Fresh s t holdId) (hback : fallback.Holds t s)
    (hran : Ran s (seatLockKey request.eventId request.seatId) (holdScript request holdId)
      (scriptReply s run c)) :
    Moves f s t (stepEvalsha s run (.holdReply caller request holdId) fallback c) := by
  obtain ⟨redis, h₁, hnow, ⟨hkeys, hnext⟩ | ⟨code, cell, hnext, hscript, hkeys⟩⟩ :=
    stepEvalsha_cases (.holdReply caller request holdId) fallback hran
  · rw [Moves, h₁]
    refine ⟨setRedis_change hnow (.same hkeys), ?_⟩
    rcases hnext with hnext | ⟨e, hnext⟩
    · rw [hnext]
      exact (holds_setRedis fallback redis).mpr hback
    · rw [hnext]
      trivial
  · rw [Moves, h₁, hnext]
    refine ⟨setRedis_change hnow ?_, hfresh⟩
    rcases holdScript_cases hscript with ⟨-, hcell⟩ | ⟨-, hfree, lock, hu, hh, hcell⟩
    · exact .same (by rw [Store.setRedis, hkeys, hcell, Function.update_eq_self])
    · exact .take caller request holdId lock hf hfree ⟨hu, hh⟩ (by rw [← hcell]; exact hkeys)

theorem evalshaHold_moves {digests : ScriptDigests} {caller : Caller} {request : HoldSeatRequest}
    {holdId : String} (hfresh : Fresh s t holdId) :
    Moves (.evalshaHold caller request holdId) s t
      (stepEvalshaHold digests s caller request holdId c) :=
  hold_moves (.inl rfl) hfresh hfresh (ran_evalsha ..)

theorem evalHold_moves {caller : Caller} {request : HoldSeatRequest} {holdId : String}
    (hfresh : Fresh s t holdId) :
    Moves (.evalHold caller request holdId) s t (stepEvalHold s caller request holdId c) := by
  unfold stepEvalHold
  obtain ⟨e, he⟩ := stepEval_eq s (s.redis.eval .atomicSeatLock
    (seatLockKey request.eventId request.seatId) (holdScript request holdId))
    (.holdReply caller request holdId) c
  rw [he]
  exact hold_moves (.inr rfl) hfresh trivial (ran_eval ..)

theorem holdReply_moves {caller : Caller} {request : HoldSeatRequest} {holdId : String}
    {result : Int} (hfresh : Fresh s t holdId) :
    Moves (.holdReply caller request holdId result) s t
      (stepHoldReply s caller request holdId result) := by
  unfold stepHoldReply
  cases caller with
  | holdSeat =>
    simp only
    split_ifs <;> exact moves_stay _ trivial
  | createOrder =>
    simp only
    split_ifs
    · exact moves_stay _ trivial
    · exact moves_stay _ hfresh

theorem publishHold_moves {record : SeatHoldRecord} (h : stepPublishHold s t record c = some r) :
    Moves (.publishHold record) s t r := by
  obtain ⟨s', hp, rfl⟩ := Option.map_eq_some_iff.mp h
  exact ⟨(publishSeatEvent_eq hp).1, trivial⟩

theorem lockSeat_moves {request : HoldSeatRequest} {execution : SeatLockExecution}
    (hfresh : Fresh s t execution.holdId)
    (h : stepLockSeat s t request execution c = some r) :
    Moves (.lockSeat request execution) s t r := by
  cases c with
  | fail message => cases h; exact moves_stay _ trivial
  | ok id =>
    obtain ⟨⟨s', count⟩, hl, rfl⟩ := Option.map_eq_some_iff.mp h
    rcases lockRow_cases hl with ⟨rfl, rfl⟩ | ⟨rfl, hrow, hfree, rfl⟩
    · exact moves_abort _ _ trivial
    · exact ⟨Change.lockRow hfree, hfresh, Function.update_self .., hrow⟩

theorem createRow_moves {request : HoldSeatRequest} {execution : SeatLockExecution}
    (hfresh : Fresh s t execution.holdId)
    (howns : Owns s t request.eventId request.seatId .AVAILABLE)
    (h : stepCreateRow s t request execution c = some r) :
    Moves (.createRow request execution) s t r := by
  cases c with
  | fail message => cases h; exact moves_abort _ _ trivial
  | ok id =>
    obtain ⟨s', hd, rfl⟩ := Option.map_eq_some_iff.mp h
    have hdrawn := drawn_kept hd _ _ hfresh.1
    have hchange : Change (.createRow request execution) (· = t) s s' := Change.draw hd
    obtain ⟨-, rfl⟩ := draw_eq hd
    simp only [hfresh.2]
    exact ⟨hchange, ⟨hdrawn, hfresh.2⟩, howns, rfl⟩

theorem commitOrder_moves {order : Order} (hfresh : Fresh s t order.holdId)
    (howns : Owns s t order.eventId order.seatId .AVAILABLE) (hst : order.status = .PROCESSING) :
    Moves (.commitOrder order) s t (stepCommitOrder s t order c) := by
  cases c with
  | fail message => exact moves_abort _ _ trivial
  | ok id =>
    refine ⟨⟨rfl, fun id _ hu => abort_locks s hu id, fun _ _ h => h, ?_, .same rfl, .same rfl⟩, ?_⟩
    · exact .place order t rfl rfl hfresh howns hst rfl rfl
    · exact ⟨order, by simp [stepCommitOrder, Store.placeOrder, Store.abort, Store.unlock,
        insert_row, orderPayload], rfl, rfl, rfl, rfl⟩

theorem publishHeld_moves {order : Order} (hplaced : PlacedAs s (orderPayload order))
    (h : stepPublishHeld s t order c = some r) : Moves (.publishHeld order) s t r := by
  obtain ⟨s', hp, rfl⟩ := Option.map_eq_some_iff.mp h
  obtain ⟨hchange, horders, -⟩ := publishSeatEvent_eq hp
  refine ⟨hchange, ?_⟩
  change PlacedAs s' _
  rw [PlacedAs, horders]
  exact hplaced

theorem appendEvent_moves {order : Order} (hplaced : PlacedAs s (orderPayload order))
    (h : stepAppendEvent s t order c = some r) : Moves (.appendEvent order) s t r := by
  cases c with
  | fail message => cases h; exact moves_stay _ trivial
  | ok id =>
    obtain ⟨s', hd, rfl⟩ := Option.map_eq_some_iff.mp h
    have hkept := drawn_kept hd
    obtain ⟨-, rfl⟩ := draw_eq hd
    refine ⟨⟨rfl, fun _ _ _ => Iff.rfl, hkept, .same rfl rfl, ?_, .same rfl⟩, trivial⟩
    exact .append order _ _ rfl hplaced (fun id => readEvent_fields id rfl rfl) rfl

theorem findOrder_moves {request : HoldSeatRequest} {holdId : String} :
    Moves (.findOrder request holdId) s t (stepFindOrder s request holdId c) := by
  cases c with
  | fail message => exact moves_stay _ trivial
  | ok id =>
    unfold stepFindOrder
    cases s.orders.row holdId <;> exact moves_stay _ trivial

/-- The release commands, EVALSHA and EVAL alike. -/
theorem release_moves {request : HoldSeatRequest} {holdId : String} {f : Frame}
    {run : LockRedis × Except RedisError Int} {fallback : Frame}
    (hf : f = .evalshaRelease request holdId ∨ f = .evalRelease request holdId)
    (hback : fallback.Holds t s)
    (hran : Ran s (seatLockKey request.eventId request.seatId) (releaseScript request holdId)
      (scriptReply s run c)) :
    Moves f s t (stepEvalsha s run (.releaseReply request holdId) fallback c) := by
  obtain ⟨redis, h₁, hnow, ⟨hkeys, hnext⟩ | ⟨code, cell, hnext, hscript, hkeys⟩⟩ :=
    stepEvalsha_cases (.releaseReply request holdId) fallback hran
  · rw [Moves, h₁]
    refine ⟨setRedis_change hnow (.same hkeys), ?_⟩
    rcases hnext with hnext | ⟨e, hnext⟩
    · rw [hnext]
      exact (holds_setRedis fallback redis).mpr hback
    · rw [hnext]
      trivial
  · rw [Moves, h₁, hnext]
    refine ⟨setRedis_change hnow ?_, trivial⟩
    rcases releaseScript_cases hscript with ⟨-, hcell⟩ | ⟨-, hcell, lock, hread, howner⟩
    · exact .same (by rw [Store.setRedis, hkeys, hcell, Function.update_eq_self])
    · exact .drop request holdId lock hf hread howner (by rw [← hcell]; exact hkeys)

theorem evalshaRelease_moves {digests : ScriptDigests} {request : HoldSeatRequest}
    {holdId : String} :
    Moves (.evalshaRelease request holdId) s t
      (stepEvalshaRelease digests s request holdId c) :=
  release_moves (.inl rfl) trivial (ran_evalsha ..)

theorem evalRelease_moves {request : HoldSeatRequest} {holdId : String} :
    Moves (.evalRelease request holdId) s t (stepEvalRelease s request holdId c) := by
  unfold stepEvalRelease
  obtain ⟨e, he⟩ := stepEval_eq s (s.redis.eval .releaseSeat
    (seatLockKey request.eventId request.seatId) (releaseScript request holdId))
    (.releaseReply request holdId) c
  rw [he]
  exact release_moves (.inr rfl) trivial (ran_eval ..)

theorem releaseReply_moves {request : HoldSeatRequest} {holdId : String} {result : Int} :
    Moves (.releaseReply request holdId result) s t (stepReleaseReply s request holdId result) := by
  unfold stepReleaseReply
  split_ifs <;> exact moves_stay _ trivial

theorem freeRow_moves {request : HoldSeatRequest} {holdId : String}
    (h : stepFreeRow s request holdId c = some r) : Moves (.freeRow request holdId) s t r := by
  cases c with
  | fail message => cases h; exact moves_stay _ trivial
  | ok id =>
    obtain ⟨s', hr, rfl⟩ := Option.map_eq_some_iff.mp h
    unfold Store.freeRow at hr
    split_ifs at hr with hrow hlock
    · cases hr
      exact ⟨⟨rfl, fun _ _ _ => Iff.rfl, fun _ _ h => h,
        .free request holdId rfl hrow hlock rfl rfl, .same rfl, .same rfl⟩, trivial⟩
    · cases hr
      exact moves_stay _ trivial

theorem publishReleased_moves {request : HoldSeatRequest} {holdId : String}
    (h : stepPublishReleased s t request holdId c = some r) :
    Moves (.publishReleased request holdId) s t r := by
  obtain ⟨s', hp, rfl⟩ := Option.map_eq_some_iff.mp h
  exact ⟨(publishSeatEvent_eq hp).1, trivial⟩

theorem readMessage_moves {message : RedisStreamMessage} (hm : InStream s message) :
    Moves (.readMessage message) s t (stepReadMessage s message) := by
  unfold stepReadMessage
  cases hp : readEvent message with
  | error e => exact moves_stay _ trivial
  | ok payload => exact moves_stay _ ⟨hm, hp⟩

theorem findBooking_moves {message : RedisStreamMessage} {payload : OrderCreatedEventPayload}
    (hd : Delivered s message payload) :
    Moves (.findBooking message payload) s t (stepFindBooking s message payload c) := by
  cases c with
  | fail e => exact moves_stay _ trivial
  | ok id =>
    unfold stepFindBooking
    cases ho : s.orders.row payload.holdId with
    | none => exact moves_stay _ trivial
    | some o =>
      simp only
      split_ifs with hb
      · exact moves_stay _ ⟨hd, o, ho, hb⟩
      · exact moves_stay _ hd

theorem sellRow_moves {message : RedisStreamMessage} {payload : OrderCreatedEventPayload}
    (hd : Delivered s message payload) (h : stepSellRow s t message payload c = some r) :
    Moves (.sellRow message payload) s t r := by
  cases c with
  | fail e => cases h; exact moves_stay _ trivial
  | ok id =>
    obtain ⟨⟨s', count⟩, hl, rfl⟩ := Option.map_eq_some_iff.mp h
    rcases lockRow_cases hl with ⟨rfl, rfl⟩ | ⟨rfl, hrow, hfree, rfl⟩
    · exact moves_abort _ _ trivial
    · exact ⟨Change.lockRow hfree, hd, Function.update_self .., hrow⟩

theorem bookRow_moves {message : RedisStreamMessage} {payload : OrderCreatedEventPayload}
    (hd : Delivered s message payload)
    (howns : Owns s t payload.eventId payload.seatId .HELD) :
    Moves (.bookRow message payload) s t (stepBookRow s t message payload c) := by
  cases c with
  | fail e => exact moves_abort _ _ trivial
  | ok id =>
    unfold stepBookRow
    cases s.orders.row payload.holdId with
    | none => exact moves_abort _ _ trivial
    | some o => exact moves_stay _ ⟨hd, howns⟩

theorem commitBooking_moves {message : RedisStreamMessage} {payload : OrderCreatedEventPayload}
    (hs : Sound s) (hd : Delivered s message payload)
    (howns : Owns s t payload.eventId payload.seatId .HELD) :
    Moves (.commitBooking message payload) s t (stepCommitBooking s t message payload c) := by
  cases c with
  | fail e => exact moves_abort _ _ trivial
  | ok id =>
    have hplaced := hs.placed hd
    refine ⟨⟨rfl, fun id _ hu => abort_locks s hu id, fun _ _ h => h, ?_, .same rfl, .same rfl⟩,
      hd, ?_⟩
    · exact .book message payload t rfl rfl howns hplaced rfl rfl
    · obtain ⟨o, ho, -⟩ := hplaced
      exact ⟨{ o with status := .BOOKED }, by simp [stepCommitBooking, Store.bookOrder,
        Store.abort, Store.unlock, book_row, ho], rfl⟩

theorem publishBooked_moves {message : RedisStreamMessage} {payload : OrderCreatedEventPayload}
    (hd : Delivered s message payload) (hb : Booked s payload.holdId)
    (h : stepPublishBooked s t message payload c = some r) :
    Moves (.publishBooked message payload) s t r := by
  obtain ⟨s', hp, rfl⟩ := Option.map_eq_some_iff.mp h
  obtain ⟨hchange, horders, -⟩ := publishSeatEvent_eq hp
  refine ⟨hchange, hchange.delivered hd, ?_⟩
  change Booked s' _
  rw [Booked, horders]
  exact hb

theorem acknowledge_moves {message : RedisStreamMessage} {payload : OrderCreatedEventPayload}
    (hd : Delivered s message payload) (hb : Booked s payload.holdId) :
    Moves (.acknowledge message payload) s t (stepAcknowledge s message c) := by
  cases c with
  | fail e => exact moves_stay _ trivial
  | ok id =>
    exact ⟨⟨rfl, fun _ _ _ => Iff.rfl, fun _ _ h => h, .same rfl rfl,
      .ack message payload rfl hd hb rfl, .same rfl⟩, trivial⟩

end Moves

/-- Every step of a call or of a message's processing. -/
theorem act_moves {digests : ScriptDigests} {s : Store} {t : Thread} {c : Choice} {f : Frame}
    {r : Store × Frame} (hs : Sound s) (hf : f.Holds t s) (h : f.act digests s t c = some r) :
    Moves f s t r := by
  cases f with
  | findEvent caller request => exact findEvent_moves hs h
  | evalshaHold caller request holdId => cases h; exact evalshaHold_moves hf
  | evalHold caller request holdId => cases h; exact evalHold_moves hf
  | holdReply caller request holdId result => cases h; exact holdReply_moves hf
  | publishHold record => exact publishHold_moves h
  | lockSeat request execution => exact lockSeat_moves hf h
  | createRow request execution => exact createRow_moves hf.1 hf.2 h
  | commitOrder order => cases h; exact commitOrder_moves hf.1 hf.2.1 hf.2.2
  | publishHeld order => exact publishHeld_moves hf h
  | appendEvent order => exact appendEvent_moves hf h
  | findOrder request holdId => cases h; exact findOrder_moves
  | evalshaRelease request holdId => cases h; exact evalshaRelease_moves
  | evalRelease request holdId => cases h; exact evalRelease_moves
  | releaseReply request holdId result => cases h; exact releaseReply_moves
  | freeRow request holdId => exact freeRow_moves h
  | publishReleased request holdId => exact publishReleased_moves h
  | readMessage message => cases h; exact readMessage_moves hf
  | findBooking message payload => cases h; exact findBooking_moves hf
  | sellRow message payload => exact sellRow_moves hf h
  | bookRow message payload => cases h; exact bookRow_moves hf.1 hf.2
  | commitBooking message payload => cases h; exact commitBooking_moves hs hf.1 hf.2
  | publishBooked message payload => exact publishBooked_moves hf.1 hf.2 h
  | acknowledge message payload => cases h; exact acknowledge_moves hf.1 hf.2
  | _ => cases h

end TicketEngine
