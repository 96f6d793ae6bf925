import TicketEngine.System.UserBlind

namespace TicketEngine

section Shared

variable {zod : Zod} {s s' : Store} {t : Thread}

theorem Store.Alike.draw (h : s.Alike zod s') (t : Thread) (id : String) :
    Option.Rel (fun u u' => u.Alike zod u' ∧ u.redis.now = s.redis.now) (s.draw t id)
      (s'.draw t id) := by
  cases h with
  | mk hstream hchannel horders =>
    unfold Store.draw
    simp only
    split_ifs
    · exact .some ⟨.mk hstream hchannel horders, rfl⟩
    · exact .none

theorem Store.Alike.abort (h : s.Alike zod s') (t : Thread) :
    (s.abort t).Alike zod (s'.abort t) := by
  cases h with
  | mk hstream hchannel horders => exact .mk hstream hchannel horders

theorem Store.Alike.lockRow (h : s.Alike zod s') (t : Thread) (eventId seatId : String)
    (status : SeatState) :
    Option.Rel (fun p q => p.1.Alike zod q.1 ∧ p.2 = q.2) (s.lockRow t eventId seatId status)
      (s'.lockRow t eventId seatId status) := by
  cases h with
  | mk hstream hchannel horders =>
    unfold Store.lockRow
    simp only
    split_ifs
    · exact .some ⟨.mk hstream hchannel horders, rfl⟩
    · exact .none
    · exact .some ⟨.mk hstream hchannel horders, rfl⟩

theorem Store.Alike.freeRow (h : s.Alike zod s') (eventId seatId : String) :
    Option.Rel (Store.Alike zod) (s.freeRow eventId seatId) (s'.freeRow eventId seatId) := by
  cases h with
  | mk hstream hchannel horders =>
    unfold Store.freeRow
    simp only
    split_ifs
    · exact .some (.mk hstream hchannel horders)
    · exact .none
    · exact .some (.mk hstream hchannel horders)

theorem Store.Alike.row (h : s.Alike zod s') (holdId : String) :
    Option.Rel OrderAlike (s.orders.row holdId) (s'.orders.row holdId) := by
  cases h with
  | mk hstream hchannel horders => exact horders holdId

theorem Store.Alike.now (h : s.Alike zod s') : s'.redis.now = s.redis.now := by
  cases h with
  | mk hstream hchannel horders => rfl

theorem Store.Alike.cached (h : s.Alike zod s') : s'.redis.cached = s.redis.cached := by
  cases h with
  | mk hstream hchannel horders => rfl

theorem Store.Alike.running (h : s.Alike zod s') : s'.running = s.running := by
  cases h with
  | mk hstream hchannel horders => rfl

theorem Store.Alike.setRunning (h : s.Alike zod s') (running : Nat → Bool) :
    Store.Alike zod { s with running } { s' with running } := by
  cases h with
  | mk hstream hchannel horders => exact .mk hstream hchannel horders

theorem Store.Alike.placeOrder (h : s.Alike zod s') (t : Thread) {order : Order}
    (userId : String) :
    (s.placeOrder t order).Alike zod (s'.placeOrder t { order with userId }) := by
  cases h with
  | mk hstream hchannel horders =>
    rename_i keys stream channel orders
    have hinsert : ∀ holdId, Option.Rel OrderAlike ((s.orders.insert order).row holdId)
        ((orders.insert { order with userId }).row holdId) := by
      intro holdId
      simp only [OrderTable.insert, Function.update_apply]
      split_ifs
      · exact .some ⟨userId, rfl⟩
      · exact horders holdId
    exact .mk hstream hchannel hinsert

theorem Store.Alike.bookOrder (h : s.Alike zod s') (t : Thread)
    (eventId seatId holdId : String) :
    (s.bookOrder t eventId seatId holdId).Alike zod (s'.bookOrder t eventId seatId holdId) := by
  cases h with
  | mk hstream hchannel horders =>
    rename_i keys stream channel orders
    have hbook : ∀ k, Option.Rel OrderAlike ((s.orders.book holdId).row k)
        ((orders.book holdId).row k) := by
      intro k
      simp only [OrderTable.book, Function.update_apply]
      split_ifs
      · refine rel_map (horders holdId) ?_
        rintro o p ⟨userId, rfl⟩
        exact ⟨userId, rfl⟩
      · exact horders k
    exact .mk hstream hchannel hbook

theorem Store.Alike.publish (h : s.Alike zod s') {e e' : WebSocketSeatEvent}
    (he : EventAlike zod e e') : (s.publish e).Alike zod (s'.publish e') := by
  cases h with
  | mk hstream hchannel horders =>
    exact .mk hstream (List.rel_append hchannel (.cons he .nil)) horders

theorem Store.Alike.stream (h : s.Alike zod s') : Stream.Rel FieldsAlike s.stream s'.stream := by
  cases h with
  | mk hstream hchannel horders => exact hstream

theorem Store.Alike.channel (h : s.Alike zod s') :
    List.Forall₂ (EventAlike zod) s.channel s'.channel := by
  cases h with
  | mk hstream hchannel horders => exact hchannel

theorem Store.Alike.setStream (h : s.Alike zod s') {stream stream' : Stream (List String)}
    (hs : Stream.Rel FieldsAlike stream stream') :
    (s.setStream stream).Alike zod (s'.setStream stream') := by
  cases h with
  | mk hstream hchannel horders => exact .mk hs hchannel horders

end Shared

section Scripts

variable {zod : Zod} {s s' : Store} {digests : ScriptDigests} {name : LuaScriptName} {key : String}
  {script script' : SeatScript} {c : Choice}

/-- Two replies to one script command. The lock decides what a script answers, not whether the
server knows it. -/
structure ReplyAlike (p q : LockRedis × Except RedisError Int) : Prop where
  now : q.1.now = p.1.now
  cached : q.1.cached = p.1.cached
  reply : p.2 = q.2 ∨
    (∀ e, p.2 = .error e → isNoscriptError e = false) ∧
      ∀ e, q.2 = .error e → isNoscriptError e = false

theorem Store.Alike.setRedis {redis redis' : LockRedis} (h : s.Alike zod s')
    (hnow : redis'.now = redis.now) (hcached : redis'.cached = redis.cached) :
    (s.setRedis redis).Alike zod (s'.setRedis redis') := by
  cases h with
  | mk hstream hchannel horders =>
    obtain ⟨now, keys, cached⟩ := redis
    obtain ⟨now', keys', cached'⟩ := redis'
    cases hnow
    cases hcached
    exact .mk hstream hchannel horders

theorem eval_alike (h : s.Alike zod s') (hs : NoNoscript script) (hs' : NoNoscript script') :
    ReplyAlike (s.redis.eval name key script) (s'.redis.eval name key script') := by
  cases h with
  | mk hstream hchannel horders =>
    rename_i keys stream channel orders
    have hfirst : ∀ e, (s.redis.eval name key script).2 = .error e → isNoscriptError e = false :=
      fun e he => hs _ _ e (eval_error (Prod.ext rfl he)).1
    have hsecond : ∀ e, (LockRedis.eval { s.redis with keys } name key script').2 = .error e →
        isNoscriptError e = false :=
      fun e he => hs' _ _ e (eval_error (Prod.ext rfl he)).1
    refine ⟨?_, ?_, .inr ⟨hfirst, hsecond⟩⟩
    · simp only [LockRedis.eval]
      cases script s.redis.now (s.redis.keys key) <;> cases script' s.redis.now (keys key) <;> rfl
    · simp only [LockRedis.eval]
      cases script s.redis.now (s.redis.keys key) <;> cases script' s.redis.now (keys key) <;> rfl

theorem evalsha_alike (h : s.Alike zod s') (hs : NoNoscript script) (hs' : NoNoscript script') :
    ReplyAlike (s.redis.evalsha digests name key script)
      (s'.redis.evalsha digests name key script') := by
  have heval (name : LuaScriptName) : ReplyAlike (s.redis.eval name key script)
      (s'.redis.eval name key script') := eval_alike h hs hs'
  unfold LockRedis.evalsha
  cases getLuaScriptDigest digests name with
  | error e =>
    cases h with
    | mk => exact ⟨rfl, rfl, .inl rfl⟩
  | ok digest =>
    have hdigest := heval digest
    cases h with
    | mk =>
      simp only
      split_ifs
      · exact hdigest
      · exact ⟨rfl, rfl, .inl rfl⟩

theorem scriptReply_alike {p q : LockRedis × Except RedisError Int} (h : s.Alike zod s')
    (hpq : ReplyAlike p q) : ReplyAlike (scriptReply s p c) (scriptReply s' q c) := by
  cases c with
  | ok id => exact hpq
  | fail message =>
    cases h with
    | mk => exact ⟨rfl, rfl, .inl rfl⟩

/-- The commands around a script, EVALSHA and EVAL alike. -/
theorem stepEvalsha_alike {run run' : LockRedis × Except RedisError Int}
    {replied replied' : Int → Frame} {fallback fallback' : Frame}
    (h : s.Alike zod s') (hrun : ReplyAlike run run')
    (hreplied : ∀ code code', (replied code).Parallel zod (replied' code'))
    (hfallback : fallback.Parallel zod fallback') :
    (stepEvalsha s run replied fallback c).1.Alike zod
        (stepEvalsha s' run' replied' fallback' c).1 ∧
      (stepEvalsha s run replied fallback c).2.Parallel zod
        (stepEvalsha s' run' replied' fallback' c).2 := by
  have hreply : ReplyAlike (scriptReply s run c) (scriptReply s' run' c) :=
    scriptReply_alike h hrun
  unfold stepEvalsha
  generalize scriptReply s run c = p at hreply ⊢
  generalize scriptReply s' run' c = q at hreply ⊢
  obtain ⟨redis, reply⟩ := p
  obtain ⟨redis', reply'⟩ := q
  obtain ⟨hnow, hcached, hreply⟩ := hreply
  have hset := h.setRedis hnow hcached
  cases reply with
  | ok code =>
    cases reply' with
    | ok code' => exact ⟨hset, hreplied code code'⟩
    | error e' =>
      refine ⟨hset, .inr (.inr ?_)⟩
      obtain hsame | ⟨-, hknown⟩ := hreply
      · cases hsame
      · simp only [hknown e' rfl]
        rfl
  | error e =>
    obtain hsame | ⟨hknown, -⟩ := hreply
    · cases hsame
      refine ⟨hset, ?_⟩
      simp only
      split_ifs
      · exact hfallback
      · exact .inr (.inl rfl)
    · cases reply' with
      | ok code' | error e' =>
        refine ⟨hset, .inr (.inl ?_)⟩
        simp only [hknown e rfl]
        rfl

theorem stepEval_alike {run run' : LockRedis × Except RedisError Int}
    {replied replied' : Int → Frame} (h : s.Alike zod s') (hrun : ReplyAlike run run')
    (hreplied : ∀ code code', (replied code).Parallel zod (replied' code')) :
    (stepEval s run replied c).1.Alike zod (stepEval s' run' replied' c).1 ∧
      (stepEval s run replied c).2.Parallel zod (stepEval s' run' replied' c).2 := by
  obtain ⟨e, he⟩ := stepEval_eq s run replied c
  obtain ⟨e', he'⟩ := stepEval_eq s' run' replied' c
  rw [he, he']
  exact stepEvalsha_alike h hrun hreplied (.inr (.inl rfl))

theorem holdScript_known (request : HoldSeatRequest) (holdId : String) :
    NoNoscript (holdScript request holdId) :=
  acquire_noNoscript request.userId holdId holdTtl

theorem releaseScript_known (request : HoldSeatRequest) (holdId : String) :
    NoNoscript (releaseScript request holdId) :=
  release_noNoscript request.userId holdId

end Scripts

section Commands

variable {zod : Zod} {s s' : Store} {t : Thread} {c : Choice} {digests : ScriptDigests}

theorem findSeat_alike (h : s.Alike zod s') (request : HoldSeatRequest) (userId : String) :
    findSeat s' { request with userId } = findSeat s request := by
  cases h with
  | mk hstream hchannel horders => rfl

theorem findEvent_alike (h : s.Alike zod s') {caller : Caller} {request : HoldSeatRequest}
    {userId : String} (hr : request.Named) (hc : c.named = true) :
    MoveAlike zod (stepFindEvent s t caller request c)
      (stepFindEvent s' t caller { request with userId } c) := by
  cases c with
  | fail message => exact .some ⟨h, .inr (.inl rfl)⟩
  | ok holdId =>
    have hid : holdId ≠ "" := of_decide_eq_true hc
    simp only [stepFindEvent, findSeat_alike h]
    cases findSeat s request with
    | error e => exact .some ⟨h, .inr (.inl rfl)⟩
    | ok u => exact rel_map (h.draw t holdId) fun _ _ hs => ⟨hs.1, .inl (.evalshaHold hr hid)⟩

theorem evalshaHold_alike (h : s.Alike zod s') {caller : Caller} {request : HoldSeatRequest}
    {holdId userId : String} (hr : request.Named) (hid : holdId ≠ "") :
    MoveAlike zod (some (stepEvalshaHold digests s caller request holdId c))
      (some (stepEvalshaHold digests s' caller { request with userId } holdId c)) :=
  .some (stepEvalsha_alike h
    (evalsha_alike h (holdScript_known _ _) (holdScript_known _ _))
    (fun _ _ => .inl (.holdReply hr hid)) (.inl (.evalHold hr hid)))

theorem evalHold_alike (h : s.Alike zod s') {caller : Caller} {request : HoldSeatRequest}
    {holdId userId : String} (hr : request.Named) (hid : holdId ≠ "") :
    MoveAlike zod (some (stepEvalHold s caller request holdId c))
      (some (stepEvalHold s' caller { request with userId } holdId c)) :=
  .some (stepEval_alike h (eval_alike h (holdScript_known _ _) (holdScript_known _ _))
    fun _ _ => .inl (.holdReply hr hid))

/-- A hold that only one of the two calls gets ends the other one. -/
theorem holdReply_alike (h : s.Alike zod s') {caller : Caller} {request : HoldSeatRequest}
    {holdId userId : String} {result result' : Int} (hr : request.Named) (hid : holdId ≠ "")
    (hw : result = 1 → zod.reads (dateOf (s.redis.now + holdTtl * 1000)) = true) :
    MoveAlike zod (some (stepHoldReply s caller request holdId result))
      (some (stepHoldReply s' caller { request with userId } holdId result')) := by
  refine .some ?_
  by_cases hone : result = 1
  · by_cases hone' : result' = 1
    · subst hone
      subst hone'
      simp only [stepHoldReply, h.now]
      cases caller with
      | holdSeat => exact ⟨h, .inl (.publishHold ⟨hid, hr.eventId, hr.seatId, hw rfl⟩)⟩
      | createOrder => exact ⟨h, .inl (.lockSeat hr ⟨hid, hw rfl⟩)⟩
    · cases caller with
      | holdSeat | createOrder =>
        simp only [stepHoldReply, hone, hone', ne_eq, not_true, not_false_eq_true, if_true,
          if_false]
        exact ⟨h, .inr (.inr rfl)⟩
  · cases caller with
    | holdSeat | createOrder =>
      simp only [stepHoldReply, hone, ne_eq, not_false_eq_true, if_true, if_false]
      exact ⟨by split_ifs <;> exact h, .inr (.inl rfl)⟩

theorem publishSeatEvent_alike (h : s.Alike zod s') {correlationId : String}
    {payload payload' : SeatEventPayload} (hid : correlationId ≠ "")
    (hp : payload.Accepted zod) (hp' : payload'.Accepted zod)
    (hvisible : payload'.visible = payload.visible) (hc : c.stamped zod s = true) :
    Option.Rel (Store.Alike zod) (publishSeatEvent s t correlationId payload c)
      (publishSeatEvent s' t correlationId payload' c) := by
  cases c with
  | fail message => exact .some h
  | ok id =>
    obtain ⟨huuid, hnow⟩ : zod.uuid id = true ∧ zod.reads s.redis.now = true :=
      Bool.and_eq_true_iff.mp hc
    refine rel_map (h.draw t id) ?_
    rintro u u' ⟨hu, hclock⟩
    have hfirst : zod.reads u.redis.now = true := by rw [hclock]; exact hnow
    have hsecond : zod.reads u'.redis.now = true := by rw [hu.now]; exact hfirst
    refine hu.publish ⟨⟨huuid, rfl, hfirst, hid, hp⟩, ⟨huuid, rfl, hsecond, hid, hp'⟩, ?_⟩
    simp only [WebSocketSeatEvent.visible, seatEvent, hu.now, hvisible]

/-- A command whose last act is a publish. -/
theorem published_alike {p p' : Option Store} {f f' : Frame}
    (h : Option.Rel (Store.Alike zod) p p') (hf : f.Parallel zod f') :
    MoveAlike zod (p.map fun s => (s, f)) (p'.map fun s => (s, f')) :=
  rel_map h fun _ _ hs => ⟨hs, hf⟩

theorem publishHold_alike (h : s.Alike zod s') {record : SeatHoldRecord} {userId : String}
    (hr : record.Named zod) (hc : c.stamped zod s = true) :
    MoveAlike zod (stepPublishHold s t record c)
      (stepPublishHold s' t { record with userId } c) := by
  have haccepted (userId : Option String) : SeatEventPayload.Accepted zod
      (.held record.eventId record.seatId record.holdId record.expiresAt userId) :=
    ⟨hr.eventId, hr.seatId, hr.holdId, hr.expiresAt⟩
  exact published_alike
    (publishSeatEvent_alike h hr.holdId (haccepted _) (haccepted _) rfl hc) (.inr (.inl rfl))

theorem lockSeat_alike (h : s.Alike zod s') {request : HoldSeatRequest}
    {execution : SeatLockExecution} {userId : String} (hr : request.Named)
    (he : execution.Named zod) :
    MoveAlike zod (stepLockSeat s t request execution c)
      (stepLockSeat s' t { request with userId } execution c) := by
  cases c with
  | fail message => exact .some ⟨h, .inr (.inl rfl)⟩
  | ok id =>
    refine rel_map (h.lockRow t request.eventId request.seatId .AVAILABLE) ?_
    rintro ⟨u, count⟩ ⟨u', count'⟩ ⟨hu, rfl⟩
    simp only
    split_ifs
    · exact ⟨Store.Alike.abort hu t, .inr (.inl rfl)⟩
    · exact ⟨hu, .inl (.createRow hr he)⟩

theorem createRow_alike (h : s.Alike zod s') {request : HoldSeatRequest}
    {execution : SeatLockExecution} {userId : String} (hr : request.Named)
    (he : execution.Named zod) (hc : c.named = true) :
    MoveAlike zod (stepCreateRow s t request execution c)
      (stepCreateRow s' t { request with userId } execution c) := by
  cases c with
  | fail message => exact .some ⟨h.abort t, .inr (.inl rfl)⟩
  | ok id =>
    have hid : id ≠ "" := of_decide_eq_true hc
    refine rel_map (h.draw t id) ?_
    rintro u u' ⟨hu, -⟩
    have hrow := hu.row execution.holdId
    generalize u.orders.row execution.holdId = o at hrow ⊢
    generalize u'.orders.row execution.holdId = o' at hrow ⊢
    cases hrow with
    | some => exact ⟨hu.abort t, .inr (.inl rfl)⟩
    | none =>
      exact ⟨hu, .inl (.commitOrder ⟨hid, he.holdId, hr.eventId, hr.seatId, he.expiresAt⟩)⟩

theorem commitOrder_alike (h : s.Alike zod s') {order : Order} {userId : String}
    (ho : order.Named zod) :
    MoveAlike zod (some (stepCommitOrder s t order c))
      (some (stepCommitOrder s' t { order with userId } c)) := by
  cases c with
  | fail message => exact .some ⟨h.abort t, .inr (.inl rfl)⟩
  | ok id => exact .some ⟨h.placeOrder t userId, .inl (.publishHeld ho)⟩

theorem publishHeld_alike (h : s.Alike zod s') {order : Order} {userId : String}
    (ho : order.Named zod) (hc : c.stamped zod s = true) :
    MoveAlike zod (stepPublishHeld s t order c) (stepPublishHeld s' t { order with userId } c) := by
  have haccepted : SeatEventPayload.Accepted zod
      (.held order.eventId order.seatId order.holdId (toISOString order.expiresAt) none) :=
    ⟨ho.eventId, ho.seatId, ho.holdId, ho.expiresAt⟩
  exact published_alike (publishSeatEvent_alike h ho.holdId haccepted haccepted rfl hc)
    (.inl (.appendEvent ho))

theorem appendEvent_alike (h : s.Alike zod s') {order : Order} {userId : String}
    (ho : order.Named zod) :
    MoveAlike zod (stepAppendEvent s t order c) (stepAppendEvent s' t { order with userId } c) := by
  cases c with
  | fail message => exact .some ⟨h, .inr (.inl rfl)⟩
  | ok id =>
    refine rel_map (h.draw t id) ?_
    rintro u u' ⟨hu, -⟩
    have hfields : FieldsAlike (orderEvent u id order).fields
        (orderEvent u' id { order with userId }).fields :=
      ⟨orderPayload order, userId, ⟨ho.id, ho.eventId, ho.seatId⟩,
        fun n => readEvent_fields n rfl rfl, fun n => readEvent_fields n rfl rfl⟩
    refine ⟨hu.setStream ?_, .inr (.inl rfl)⟩
    rw [hu.now]
    exact hu.stream.append u.redis.now hfields

theorem findOrder_alike (h : s.Alike zod s') {request : HoldSeatRequest}
    {holdId userId : String} (hr : request.Named) (hid : holdId ≠ "") :
    MoveAlike zod (some (stepFindOrder s request holdId c))
      (some (stepFindOrder s' { request with userId } holdId c)) := by
  refine .some ?_
  cases c with
  | fail message => exact ⟨h, .inr (.inl rfl)⟩
  | ok id =>
    have hrow := h.row holdId
    unfold stepFindOrder
    generalize s.orders.row holdId = o at hrow ⊢
    generalize s'.orders.row holdId = o' at hrow ⊢
    cases hrow with
    | some => exact ⟨h, .inr (.inl rfl)⟩
    | none => exact ⟨h, .inl (.evalshaRelease hr hid)⟩

theorem evalshaRelease_alike (h : s.Alike zod s') {request : HoldSeatRequest}
    {holdId userId : String} (hr : request.Named) (hid : holdId ≠ "") :
    MoveAlike zod (some (stepEvalshaRelease digests s request holdId c))
      (some (stepEvalshaRelease digests s' { request with userId } holdId c)) :=
  .some (stepEvalsha_alike h
    (evalsha_alike h (releaseScript_known _ _) (releaseScript_known _ _))
    (fun _ _ => .inl (.releaseReply hr hid)) (.inl (.evalRelease hr hid)))

theorem evalRelease_alike (h : s.Alike zod s') {request : HoldSeatRequest}
    {holdId userId : String} (hr : request.Named) (hid : holdId ≠ "") :
    MoveAlike zod (some (stepEvalRelease s request holdId c))
      (some (stepEvalRelease s' { request with userId } holdId c)) :=
  .some (stepEval_alike h (eval_alike h (releaseScript_known _ _) (releaseScript_known _ _))
    fun _ _ => .inl (.releaseReply hr hid))

/-- A release that only one of the two calls is granted ends the other one. -/
theorem releaseReply_alike (h : s.Alike zod s') {request : HoldSeatRequest}
    {holdId userId : String} {result result' : Int} (hr : request.Named) (hid : holdId ≠ "") :
    MoveAlike zod (some (stepReleaseReply s request holdId result))
      (some (stepReleaseReply s' { request with userId } holdId result')) := by
  refine .some ?_
  unfold stepReleaseReply
  split_ifs
  · exact ⟨h, .inl (.freeRow hr hid)⟩
  · exact ⟨h, .inr (.inr rfl)⟩
  · exact ⟨h, .inr (.inl rfl)⟩
  · exact ⟨h, .inr (.inl rfl)⟩

theorem freeRow_alike (h : s.Alike zod s') {request : HoldSeatRequest} {holdId userId : String}
    (hr : request.Named) (hid : holdId ≠ "") :
    MoveAlike zod (stepFreeRow s request holdId c)
      (stepFreeRow s' { request with userId } holdId c) := by
  cases c with
  | fail message => exact .some ⟨h, .inr (.inl rfl)⟩
  | ok id =>
    exact published_alike (h.freeRow request.eventId request.seatId)
      (.inl (.publishReleased hr hid))

theorem publishReleased_alike (h : s.Alike zod s') {request : HoldSeatRequest}
    {holdId userId : String} (hr : request.Named) (hid : holdId ≠ "")
    (hc : c.stamped zod s = true) :
    MoveAlike zod (stepPublishReleased s t request holdId c)
      (stepPublishReleased s' t { request with userId } holdId c) := by
  have haccepted : SeatEventPayload.Accepted zod
      (.released request.eventId request.seatId holdId "released") :=
    ⟨hr.eventId, hr.seatId, hid, by decide⟩
  exact published_alike (publishSeatEvent_alike h hid haccepted haccepted rfl hc) (.inr (.inl rfl))

theorem readMessage_alike (h : s.Alike zod s') {m m' : RedisStreamMessage}
    (hm : MessageAlike m m') :
    MoveAlike zod (some (stepReadMessage s m)) (some (stepReadMessage s' m')) := by
  obtain ⟨hid, payload, userId, hp, hread, hread'⟩ := hm
  simp only [stepReadMessage, hread, hread']
  exact .some ⟨h, .inl (.findBooking hid hp)⟩

theorem failed_parallel {id id' : Nat} (hid : id = id') (e : WorkerError) :
    (Frame.failed id e).Parallel zod (.failed id' e) := by
  subst hid
  exact .inl (.same rfl)

variable {m m' : RedisStreamMessage} {payload : OrderCreatedEventPayload} {userId : String}

theorem findBooking_alike (h : s.Alike zod s') (hm : m.id = m'.id) (hp : payload.Named) :
    MoveAlike zod (some (stepFindBooking s m payload c))
      (some (stepFindBooking s' m' { payload with userId } c)) := by
  refine .some ?_
  cases c with
  | fail message => exact ⟨h, failed_parallel hm _⟩
  | ok id =>
    have hrow := h.row payload.holdId
    unfold stepFindBooking
    simp only
    generalize s.orders.row payload.holdId = o at hrow ⊢
    generalize s'.orders.row payload.holdId = o' at hrow ⊢
    cases hrow with
    | none => exact ⟨h, failed_parallel hm _⟩
    | some halike =>
      obtain ⟨user, rfl⟩ := halike
      simp only
      split_ifs
      · exact ⟨h, .inl (.publishBooked hm hp)⟩
      · exact ⟨h, .inl (.sellRow hm hp)⟩

theorem sellRow_alike (h : s.Alike zod s') (hm : m.id = m'.id) (hp : payload.Named) :
    MoveAlike zod (stepSellRow s t m payload c)
      (stepSellRow s' t m' { payload with userId } c) := by
  cases c with
  | fail message => exact .some ⟨h, failed_parallel hm _⟩
  | ok id =>
    refine rel_map (h.lockRow t payload.eventId payload.seatId .HELD) ?_
    rintro ⟨u, count⟩ ⟨u', count'⟩ ⟨hu, rfl⟩
    simp only
    split_ifs
    · exact ⟨Store.Alike.abort hu t, failed_parallel hm _⟩
    · exact ⟨hu, .inl (.bookRow hm hp)⟩

theorem bookRow_alike (h : s.Alike zod s') (hm : m.id = m'.id) (hp : payload.Named) :
    MoveAlike zod (some (stepBookRow s t m payload c))
      (some (stepBookRow s' t m' { payload with userId } c)) := by
  refine .some ?_
  cases c with
  | fail message => exact ⟨h.abort t, failed_parallel hm _⟩
  | ok id =>
    have hrow := h.row payload.holdId
    unfold stepBookRow
    simp only
    generalize s.orders.row payload.holdId = o at hrow ⊢
    generalize s'.orders.row payload.holdId = o' at hrow ⊢
    cases hrow with
    | none => exact ⟨h.abort t, failed_parallel hm _⟩
    | some => exact ⟨h, .inl (.commitBooking hm hp)⟩

theorem commitBooking_alike (h : s.Alike zod s') (hm : m.id = m'.id) (hp : payload.Named) :
    MoveAlike zod (some (stepCommitBooking s t m payload c))
      (some (stepCommitBooking s' t m' { payload with userId } c)) := by
  refine .some ?_
  cases c with
  | fail message => exact ⟨h.abort t, failed_parallel hm _⟩
  | ok id => exact ⟨h.bookOrder t .., .inl (.publishBooked hm hp)⟩

theorem publishBooked_alike (h : s.Alike zod s') (hm : m.id = m'.id) (hp : payload.Named)
    (hc : c.stamped zod s = true) :
    MoveAlike zod (stepPublishBooked s t m payload c)
      (stepPublishBooked s' t m' { payload with userId } c) := by
  have haccepted : SeatEventPayload.Accepted zod
      (.booked payload.eventId payload.seatId payload.orderId) :=
    ⟨hp.eventId, hp.seatId, hp.orderId⟩
  exact published_alike (publishSeatEvent_alike h hp.orderId haccepted haccepted rfl hc)
    (.inl (.acknowledge hm hp))

theorem acknowledge_alike (h : s.Alike zod s') (hm : m.id = m'.id) :
    MoveAlike zod (some (stepAcknowledge s m c)) (some (stepAcknowledge s' m' c)) := by
  refine .some ?_
  cases c with
  | fail message => exact ⟨h, failed_parallel hm _⟩
  | ok id =>
    simp only [stepAcknowledge, hm]
    exact ⟨h.setStream (h.stream.ack m'.id), .inl (.same rfl)⟩

end Commands

theorem act_anonymous {digests : ScriptDigests} {s : Store} {t : Thread} {c : Choice} {f : Frame}
    (h : f.anonymous = true) : f.act digests s t c = none := by
  cases f with
  | idle | createGroup | poll | claim | batch | processed | failed | drained | stopped => rfl
  | _ => cases h

theorem act_answered {digests : ScriptDigests} {s : Store} {t : Thread} {c : Choice} {f : Frame}
    (h : f.answered = true) : f.act digests s t c = none := by
  cases f with
  | held | ordered | released | rejected => rfl
  | _ => cases h

/-- Every command of a service call or of a message's processing. -/
theorem act_alike {zod : Zod} {digests : ScriptDigests} {s s' : Store} {t : Thread} {c : Choice}
    {f f' : Frame} (h : s.Alike zod s') (hf : f.Alike zod f') (hw : f.writes zod s c = true) :
    MoveAlike zod (f.act digests s t c) (f'.act digests s' t c) := by
  cases hf with
  | same hanonymous =>
    rw [act_anonymous hanonymous, act_anonymous hanonymous]
    exact .none
  | findEvent hr => exact findEvent_alike h hr hw
  | evalshaHold hr hid => exact evalshaHold_alike h hr hid
  | evalHold hr hid => exact evalHold_alike h hr hid
  | holdReply hr hid =>
    refine holdReply_alike h hr hid fun hone => ?_
    simpa [Frame.writes, hone] using hw
  | publishHold hr => exact publishHold_alike h hr hw
  | lockSeat hr he => exact lockSeat_alike h hr he
  | createRow hr he => exact createRow_alike h hr he hw
  | commitOrder ho => exact commitOrder_alike h ho
  | publishHeld ho => exact publishHeld_alike h ho hw
  | appendEvent ho => exact appendEvent_alike h ho
  | findOrder hr hid => exact findOrder_alike h hr hid
  | evalshaRelease hr hid => exact evalshaRelease_alike h hr hid
  | evalRelease hr hid => exact evalRelease_alike h hr hid
  | releaseReply hr hid => exact releaseReply_alike h hr hid
  | freeRow hr hid => exact freeRow_alike h hr hid
  | publishReleased hr hid => exact publishReleased_alike h hr hid hw
  | readMessage hm => exact readMessage_alike h hm
  | findBooking hm hp => exact findBooking_alike h hm hp
  | sellRow hm hp => exact sellRow_alike h hm hp
  | bookRow hm hp => exact bookRow_alike h hm hp
  | commitBooking hm hp => exact commitBooking_alike h hm hp
  | publishBooked hm hp => exact publishBooked_alike h hm hp hw
  | acknowledge hm hp => exact acknowledge_alike h hm
  | read _ => exact .none

end TicketEngine
