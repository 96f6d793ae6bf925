import TicketEngine.System.Invariant

namespace TicketEngine

/-! ## The courses of one command -/

/-- Nothing that other threads, clients or nodes can see has changed. -/
structure Still (s s' : Store) : Prop where
  seats : s'.seats = s.seats
  orders : s'.orders = s.orders
  stream : s'.stream = s.stream
  channel : s'.channel = s.channel
  keys : s'.redis.keys = s.redis.keys
  now : s'.redis.now = s.redis.now

/-- The frames of `processMessage`. -/
def Frame.processing : Frame → Bool
  | .readMessage _ | .findBooking _ _ | .sellRow _ _ | .bookRow _ _ => true
  | .commitBooking _ _ | .publishBooked _ _ | .acknowledge _ _ => true
  | _ => false

/-- A call rejects or answers that it failed, or a message is left in the pending list. -/
inductive GivesUp : Frame → Frame → Prop
  | reject {f e} (hf : f.processing = false) : GivesUp f (.rejected e)
  | refuse {request holdId result message} :
      GivesUp (.holdReply .holdSeat request holdId result) (.held (.fail message))
  | leave {f id e} (hf : f.processing = true) : GivesUp f (.failed id e)

/-- The event a frame is about to publish, and the frame after the attempt. -/
def Frame.announces : Frame → Option (SeatEventPayload × Frame)
  | .publishHold record =>
    some (.held record.eventId record.seatId record.holdId record.expiresAt (some record.userId),
      .held (.success record))
  | .publishHeld order =>
    some (.held order.eventId order.seatId order.holdId (toISOString order.expiresAt) none,
      .appendEvent order)
  | .publishReleased request holdId =>
    some (.released request.eventId request.seatId holdId "released",
      .released { eventId := request.eventId, seatId := request.seatId, holdId })
  | .publishBooked message payload =>
    some (.booked payload.eventId payload.seatId payload.orderId, .acknowledge message payload)
  | _ => none

/-- The moves from frame to frame that only carry variables on. -/
inductive Silent (s : Store) : Frame → Frame → Prop
  | find_event {caller request holdId} (hdraw : s.drawn holdId = none) :
      Silent s (.findEvent caller request) (.evalshaHold caller request holdId)
  | hold_fallback {caller request holdId} :
      Silent s (.evalshaHold caller request holdId) (.evalHold caller request holdId)
  | hold_lost {caller request holdId f code}
      (hf : f = .evalshaHold caller request holdId ∨ f = .evalHold caller request holdId)
      (hcode : code ≠ 1) : Silent s f (.holdReply caller request holdId code)
  | hold_seat {request holdId record}
      (hrecord : record.eventId = request.eventId ∧ record.seatId = request.seatId ∧
        record.holdId = holdId) :
      Silent s (.holdReply .holdSeat request holdId 1) (.publishHold record)
  | create_order {request holdId execution} (hexecution : execution.holdId = holdId) :
      Silent s (.holdReply .createOrder request holdId 1) (.lockSeat request execution)
  | lock_seat {request execution} :
      Silent s (.lockSeat request execution) (.createRow request execution)
  | create_row {request execution order}
      (horder : order.eventId = request.eventId ∧ order.seatId = request.seatId ∧
        order.holdId = execution.holdId) :
      Silent s (.createRow request execution) (.commitOrder order)
  | find_order {request holdId} (hrow : s.orders.row holdId = none) :
      Silent s (.findOrder request holdId) (.evalshaRelease request holdId)
  | release_fallback {request holdId} :
      Silent s (.evalshaRelease request holdId) (.evalRelease request holdId)
  | release_lost {request holdId f code}
      (hf : f = .evalshaRelease request holdId ∨ f = .evalRelease request holdId)
      (hcode : code ≠ 1) : Silent s f (.releaseReply request holdId code)
  | release_seat {request holdId} :
      Silent s (.releaseReply request holdId 1) (.freeRow request holdId)
  | read_message {message payload} (hread : readEvent message = .ok payload) :
      Silent s (.readMessage message) (.findBooking message payload)
  | find_booked {message payload} (hbooked : Booked s payload.holdId) :
      Silent s (.findBooking message payload) (.publishBooked message payload)
  | find_unbooked {message payload} :
      Silent s (.findBooking message payload) (.sellRow message payload)
  | sell_row {message payload} : Silent s (.sellRow message payload) (.bookRow message payload)
  | book_row {message payload} :
      Silent s (.bookRow message payload) (.commitBooking message payload)

/-- Every course one command of a call or of a message's processing can take. -/
inductive Course (s : Store) (t : Thread) (c : Choice) : Frame → Store → Frame → Prop
  | quit {f s' f'} (hstill : Still s s') (hend : GivesUp f f') : Course s t c f s' f'
  | silent {f s' f'} (hstill : Still s s') (hmove : Silent s f f') : Course s t c f s' f'
  | take {caller request holdId f redis lock}
      (hf : f = .evalshaHold caller request holdId ∨ f = .evalHold caller request holdId)
      (hfree : Lease.read s.redis.now
        (s.redis.keys (seatLockKey request.eventId request.seatId)) = none)
      (howner : lock.userId = request.userId ∧ lock.holdId = holdId)
      (hnow : redis.now = s.redis.now)
      (hkeys : redis.keys = Function.update s.redis.keys
        (seatLockKey request.eventId request.seatId) (some ⟨lock, s.redis.now + 600000⟩)) :
      Course s t c f (s.setRedis redis) (.holdReply caller request holdId 1)
  | place {order} :
      Course s t c (.commitOrder order) (s.placeOrder t order) (.publishHeld order)
  | announce {f payload f' s' event} (hf : f.announces = some (payload, f'))
      (hevent : event.payload = payload) (hchannel : s'.channel = s.channel ++ [event])
      (hstill : Still { s with channel := s'.channel } s') : Course s t c f s' f'
  | unannounced {f payload f' message} (hf : f.announces = some (payload, f'))
      (hc : c = .fail message) : Course s t c f s f'
  | append {order fields s'} (hstream : s'.stream = s.stream.append s.redis.now fields)
      (hstill : Still { s with stream := s'.stream } s') :
      Course s t c (.appendEvent order) s' (.ordered { orderId := order.id })
  | drop {request holdId f redis lock}
      (hf : f = .evalshaRelease request holdId ∨ f = .evalRelease request holdId)
      (hread : Lease.read s.redis.now
        (s.redis.keys (seatLockKey request.eventId request.seatId)) = some lock)
      (howner : lock.userId = request.userId ∧ lock.holdId = holdId)
      (hnow : redis.now = s.redis.now)
      (hkeys : redis.keys = Function.update s.redis.keys
        (seatLockKey request.eventId request.seatId) none) :
      Course s t c f (s.setRedis redis) (.releaseReply request holdId 1)
  | free {request holdId s'} (hfree : s.freeRow request.eventId request.seatId = some s') :
      Course s t c (.freeRow request holdId) s' (.publishReleased request holdId)
  | book {message payload} :
      Course s t c (.commitBooking message payload)
        (s.bookOrder t payload.eventId payload.seatId payload.holdId)
        (.publishBooked message payload)
  | acknowledge {message payload} :
      Course s t c (.acknowledge message payload) (s.setStream (s.stream.ack message.id))
        (.processed message.id)

theorem Still.refl (s : Store) : Still s s := ⟨rfl, rfl, rfl, rfl, rfl, rfl⟩

theorem Still.abort (s : Store) (t : Thread) : Still s (s.abort t) :=
  ⟨rfl, rfl, rfl, rfl, rfl, rfl⟩

section Act

variable {s : Store} {t : Thread} {c : Choice} {f : Frame} {r : Store × Frame}

theorem Still.draw {s' : Store} {id : String} (h : s.draw t id = some s') : Still s s' := by
  obtain ⟨-, rfl⟩ := draw_eq h
  exact ⟨rfl, rfl, rfl, rfl, rfl, rfl⟩

theorem Still.setRedis {redis : LockRedis} (hkeys : redis.keys = s.redis.keys)
    (hnow : redis.now = s.redis.now) : Still s (s.setRedis redis) :=
  ⟨rfl, rfl, rfl, rfl, hkeys, hnow⟩

theorem quit_here {f' : Frame} (hend : GivesUp f f') : Course s t c f s f' :=
  .quit (Still.refl s) hend

theorem quit_abort {f' : Frame} (hend : GivesUp f f') : Course s t c f (s.abort t) f' :=
  .quit (Still.abort s t) hend

theorem silent_here {f' : Frame} (hmove : Silent s f f') : Course s t c f s f' :=
  .silent (Still.refl s) hmove

theorem hold_course {caller : Caller} {request : HoldSeatRequest} {holdId : String}
    {run : LockRedis × Except RedisError Int} {fallback : Frame}
    (hf : f = .evalshaHold caller request holdId ∨ f = .evalHold caller request holdId)
    (hback : Silent s f fallback ∨ GivesUp f fallback)
    (hran : Ran s (seatLockKey request.eventId request.seatId) (holdScript request holdId)
      (scriptReply s run c)) :
    Course s t c f (stepEvalsha s run (.holdReply caller request holdId) fallback c).1
      (stepEvalsha s run (.holdReply caller request holdId) fallback c).2 := by
  obtain ⟨redis, h₁, hnow, ⟨hkeys, hnext⟩ | ⟨code, cell, hnext, hscript, hkeys⟩⟩ :=
    stepEvalsha_cases (.holdReply caller request holdId) fallback hran
  · rw [h₁]
    have hstill := Still.setRedis hkeys hnow
    cases hnext with
    | inl hnext =>
      rw [hnext]
      cases hback with
      | inl hmove => exact .silent hstill hmove
      | inr hend => exact .quit hstill hend
    | inr hnext =>
      obtain ⟨e, hnext⟩ := hnext
      rw [hnext]
      apply Course.quit hstill
      cases hf with
      | inl hf =>
        subst hf
        exact .reject rfl
      | inr hf =>
        subst hf
        exact .reject rfl
  · rw [h₁, hnext]
    rcases holdScript_cases hscript with ⟨hcode, hcell⟩ | ⟨hcode, hfree, lock, hu, hh, hcell⟩
    · have hsame : redis.keys = s.redis.keys := by
        rw [hkeys, hcell, Function.update_eq_self]
      have hlost : code ≠ 1 := by omega
      exact .silent (Still.setRedis hsame hnow) (.hold_lost hf hlost)
    · subst hcode
      rw [hcell] at hkeys
      exact .take hf hfree ⟨hu, hh⟩ hnow hkeys

theorem release_course {request : HoldSeatRequest} {holdId : String}
    {run : LockRedis × Except RedisError Int} {fallback : Frame}
    (hf : f = .evalshaRelease request holdId ∨ f = .evalRelease request holdId)
    (hback : Silent s f fallback ∨ GivesUp f fallback)
    (hran : Ran s (seatLockKey request.eventId request.seatId) (releaseScript request holdId)
      (scriptReply s run c)) :
    Course s t c f (stepEvalsha s run (.releaseReply request holdId) fallback c).1
      (stepEvalsha s run (.releaseReply request holdId) fallback c).2 := by
  obtain ⟨redis, h₁, hnow, ⟨hkeys, hnext⟩ | ⟨code, cell, hnext, hscript, hkeys⟩⟩ :=
    stepEvalsha_cases (.releaseReply request holdId) fallback hran
  · rw [h₁]
    have hstill := Still.setRedis hkeys hnow
    cases hnext with
    | inl hnext =>
      rw [hnext]
      cases hback with
      | inl hmove => exact .silent hstill hmove
      | inr hend => exact .quit hstill hend
    | inr hnext =>
      obtain ⟨e, hnext⟩ := hnext
      rw [hnext]
      apply Course.quit hstill
      cases hf with
      | inl hf =>
        subst hf
        exact .reject rfl
      | inr hf =>
        subst hf
        exact .reject rfl
  · rw [h₁, hnext]
    rcases releaseScript_cases hscript with ⟨hlost, hcell⟩ | ⟨hcode, hcell, lock, hread, howner⟩
    · have hsame : redis.keys = s.redis.keys := by
        rw [hkeys, hcell, Function.update_eq_self]
      exact .silent (Still.setRedis hsame hnow) (.release_lost hf hlost)
    · subst hcode
      rw [hcell] at hkeys
      exact .drop hf hread howner hnow hkeys

theorem announce_course {correlationId : String} {payload : SeatEventPayload} {f' : Frame}
    (hf : f.announces = some (payload, f'))
    (h : (publishSeatEvent s t correlationId payload c).map (fun s => (s, f')) = some r) :
    Course s t c f r.1 r.2 := by
  obtain ⟨s', hp, rfl⟩ := Option.map_eq_some_iff.mp h
  cases c with
  | fail message =>
    cases hp
    exact .unannounced hf rfl
  | ok id =>
    obtain ⟨s₁, hd, rfl⟩ := Option.map_eq_some_iff.mp hp
    obtain ⟨-, rfl⟩ := draw_eq hd
    exact .announce hf rfl rfl ⟨rfl, rfl, rfl, rfl, rfl, rfl⟩

theorem findEvent_course {caller : Caller} {request : HoldSeatRequest}
    (h : stepFindEvent s t caller request c = some r) :
    Course s t c (.findEvent caller request) r.1 r.2 := by
  cases c with
  | fail message =>
    cases h
    exact quit_here (.reject rfl)
  | ok holdId =>
    simp only [stepFindEvent] at h
    cases hfound : findSeat s request with
    | error e =>
      rw [hfound] at h
      cases h
      exact quit_here (.reject rfl)
    | ok found =>
      rw [hfound] at h
      obtain ⟨s', hd, rfl⟩ := Option.map_eq_some_iff.mp h
      exact .silent (Still.draw hd) (.find_event (draw_eq hd).1)

theorem holdReply_course {caller : Caller} {request : HoldSeatRequest} {holdId : String}
    {result : Int} :
    Course s t c (.holdReply caller request holdId result)
      (stepHoldReply s caller request holdId result).1
      (stepHoldReply s caller request holdId result).2 := by
  unfold stepHoldReply
  by_cases hone : result = 1
  · subst hone
    cases caller with
    | holdSeat => exact silent_here (.hold_seat ⟨rfl, rfl, rfl⟩)
    | createOrder => exact silent_here (.create_order rfl)
  · cases caller with
    | holdSeat =>
      simp only [if_neg hone]
      exact quit_here .refuse
    | createOrder =>
      simp only [ne_eq, hone, not_false_eq_true, if_true]
      exact quit_here (.reject rfl)

theorem lockSeat_course {request : HoldSeatRequest} {execution : SeatLockExecution}
    (h : stepLockSeat s t request execution c = some r) :
    Course s t c (.lockSeat request execution) r.1 r.2 := by
  cases c with
  | fail message =>
    cases h
    exact quit_here (.reject rfl)
  | ok id =>
    obtain ⟨⟨s', count⟩, hl, rfl⟩ := Option.map_eq_some_iff.mp h
    rcases lockRow_cases hl with ⟨rfl, rfl⟩ | ⟨rfl, -, -, rfl⟩
    · exact quit_abort (.reject rfl)
    · exact .silent ⟨rfl, rfl, rfl, rfl, rfl, rfl⟩ .lock_seat

theorem createRow_course {request : HoldSeatRequest} {execution : SeatLockExecution}
    (h : stepCreateRow s t request execution c = some r) :
    Course s t c (.createRow request execution) r.1 r.2 := by
  cases c with
  | fail message =>
    cases h
    exact quit_abort (.reject rfl)
  | ok id =>
    obtain ⟨s', hd, rfl⟩ := Option.map_eq_some_iff.mp h
    obtain ⟨-, rfl⟩ := draw_eq hd
    simp only
    split
    · exact .quit ⟨rfl, rfl, rfl, rfl, rfl, rfl⟩ (.reject rfl)
    · exact .silent ⟨rfl, rfl, rfl, rfl, rfl, rfl⟩ (.create_row ⟨rfl, rfl, rfl⟩)

theorem appendEvent_course {order : Order} (h : stepAppendEvent s t order c = some r) :
    Course s t c (.appendEvent order) r.1 r.2 := by
  cases c with
  | fail message =>
    cases h
    exact quit_here (.reject rfl)
  | ok id =>
    obtain ⟨s', hd, rfl⟩ := Option.map_eq_some_iff.mp h
    obtain ⟨-, rfl⟩ := draw_eq hd
    exact .append rfl ⟨rfl, rfl, rfl, rfl, rfl, rfl⟩

theorem findOrder_course {request : HoldSeatRequest} {holdId : String} :
    Course s t c (.findOrder request holdId) (stepFindOrder s request holdId c).1
      (stepFindOrder s request holdId c).2 := by
  cases c with
  | fail message => exact quit_here (.reject rfl)
  | ok id =>
    unfold stepFindOrder
    cases hrow : s.orders.row holdId with
    | some order => exact quit_here (.reject rfl)
    | none => exact silent_here (.find_order hrow)

theorem releaseReply_course {request : HoldSeatRequest} {holdId : String} {result : Int} :
    Course s t c (.releaseReply request holdId result)
      (stepReleaseReply s request holdId result).1
      (stepReleaseReply s request holdId result).2 := by
  unfold stepReleaseReply
  by_cases hone : result = 1
  · subst hone
    exact silent_here .release_seat
  · simp only [if_neg hone]
    exact quit_here (.reject rfl)

theorem freeRow_course {request : HoldSeatRequest} {holdId : String}
    (h : stepFreeRow s request holdId c = some r) :
    Course s t c (.freeRow request holdId) r.1 r.2 := by
  cases c with
  | fail message =>
    cases h
    exact quit_here (.reject rfl)
  | ok id =>
    obtain ⟨s', hfree, rfl⟩ := Option.map_eq_some_iff.mp h
    exact .free hfree

theorem readMessage_course {message : RedisStreamMessage} :
    Course s t c (.readMessage message) (stepReadMessage s message).1
      (stepReadMessage s message).2 := by
  unfold stepReadMessage
  cases hread : readEvent message with
  | error e => exact quit_here (.leave rfl)
  | ok payload => exact silent_here (.read_message hread)

theorem findBooking_course {message : RedisStreamMessage} {payload : OrderCreatedEventPayload} :
    Course s t c (.findBooking message payload) (stepFindBooking s message payload c).1
      (stepFindBooking s message payload c).2 := by
  cases c with
  | fail e => exact quit_here (.leave rfl)
  | ok id =>
    unfold stepFindBooking
    cases hrow : s.orders.row payload.holdId with
    | none => exact quit_here (.leave rfl)
    | some existing =>
      by_cases hst : existing.status = .BOOKED
      · simp only [if_pos hst]
        exact silent_here (.find_booked ⟨existing, hrow, hst⟩)
      · simp only [if_neg hst]
        exact silent_here .find_unbooked

theorem sellRow_course {message : RedisStreamMessage} {payload : OrderCreatedEventPayload}
    (h : stepSellRow s t message payload c = some r) :
    Course s t c (.sellRow message payload) r.1 r.2 := by
  cases c with
  | fail e =>
    cases h
    exact quit_here (.leave rfl)
  | ok id =>
    obtain ⟨⟨s', count⟩, hl, rfl⟩ := Option.map_eq_some_iff.mp h
    rcases lockRow_cases hl with ⟨rfl, rfl⟩ | ⟨rfl, -, -, rfl⟩
    · exact quit_abort (.leave rfl)
    · exact .silent ⟨rfl, rfl, rfl, rfl, rfl, rfl⟩ .sell_row

theorem bookRow_course {message : RedisStreamMessage} {payload : OrderCreatedEventPayload} :
    Course s t c (.bookRow message payload) (stepBookRow s t message payload c).1
      (stepBookRow s t message payload c).2 := by
  cases c with
  | fail e => exact quit_abort (.leave rfl)
  | ok id =>
    unfold stepBookRow
    cases s.orders.row payload.holdId with
    | none => exact quit_abort (.leave rfl)
    | some existing => exact silent_here .book_row

/-- One command takes one of the courses. -/
theorem act_course {digests : ScriptDigests} (h : f.act digests s t c = some r) :
    Course s t c f r.1 r.2 := by
  cases f with
  | findEvent caller request => exact findEvent_course h
  | evalshaHold caller request holdId =>
    cases h
    exact hold_course (.inl rfl) (.inl .hold_fallback) (ran_evalsha ..)
  | evalHold caller request holdId =>
    cases h
    unfold stepEvalHold
    obtain ⟨e, he⟩ := stepEval_eq s (s.redis.eval .atomicSeatLock
      (seatLockKey request.eventId request.seatId) (holdScript request holdId))
      (.holdReply caller request holdId) c
    rw [he]
    exact hold_course (.inr rfl) (.inr (.reject rfl)) (ran_eval ..)
  | holdReply caller request holdId result =>
    cases h
    exact holdReply_course
  | publishHold record => exact announce_course rfl h
  | lockSeat request execution => exact lockSeat_course h
  | createRow request execution => exact createRow_course h
  | commitOrder order =>
    cases h
    cases c with
    | fail message => exact quit_abort (.reject rfl)
    | ok id => exact .place
  | publishHeld order => exact announce_course rfl h
  | appendEvent order => exact appendEvent_course h
  | findOrder request holdId =>
    cases h
    exact findOrder_course
  | evalshaRelease request holdId =>
    cases h
    exact release_course (.inl rfl) (.inl .release_fallback) (ran_evalsha ..)
  | evalRelease request holdId =>
    cases h
    unfold stepEvalRelease
    obtain ⟨e, he⟩ := stepEval_eq s (s.redis.eval .releaseSeat
      (seatLockKey request.eventId request.seatId) (releaseScript request holdId))
      (.releaseReply request holdId) c
    rw [he]
    exact release_course (.inr rfl) (.inr (.reject rfl)) (ran_eval ..)
  | releaseReply request holdId result =>
    cases h
    exact releaseReply_course
  | freeRow request holdId => exact freeRow_course h
  | publishReleased request holdId => exact announce_course rfl h
  | readMessage message =>
    cases h
    exact readMessage_course
  | findBooking message payload =>
    cases h
    exact findBooking_course
  | sellRow message payload => exact sellRow_course h
  | bookRow message payload =>
    cases h
    exact bookRow_course
  | commitBooking message payload =>
    cases h
    cases c with
    | fail e => exact quit_abort (.leave rfl)
    | ok id => exact .book
  | publishBooked message payload => exact announce_course rfl h
  | acknowledge message payload =>
    cases h
    cases c with
    | fail e => exact quit_here (.leave rfl)
    | ok id => exact .acknowledge
  | _ => cases h

/-- Frames whose command writes nothing that others can see. -/
def Frame.looking : Frame → Bool
  | .findEvent _ _ | .holdReply _ _ _ _ | .lockSeat _ _ | .createRow _ _ => true
  | .findOrder _ _ | .releaseReply _ _ _ => true
  | .readMessage _ | .findBooking _ _ | .sellRow _ _ | .bookRow _ _ => true
  | _ => false

theorem announces_looking {payload : SeatEventPayload} {f' : Frame}
    (h : f.announces = some (payload, f')) : f.looking = false := by
  cases f with
  | publishHold _ | publishHeld _ | publishReleased _ _ | publishBooked _ _ => rfl
  | _ => cases h

theorem announces_processing {payload : SeatEventPayload} {f' : Frame}
    (h : f.announces = some (payload, f')) (hf : f'.processing = true) :
    f.processing = true := by
  cases f with
  | publishBooked message payload => rfl
  | publishHold _ | publishHeld _ | publishReleased _ _ =>
    cases h
    cases hf
  | _ => cases h

theorem announces_next {payload : SeatEventPayload} {f' : Frame}
    (h : f.announces = some (payload, f')) :
    (∃ response, f' = .held response) ∨ (∃ order, f' = .appendEvent order) ∨
      (∃ response, f' = .released response) ∨ ∃ message event, f' = .acknowledge message event := by
  cases f with
  | publishHold _ | publishHeld _ | publishReleased _ _ | publishBooked _ _ =>
    cases h
    simp
  | _ => cases h

theorem Course.of_looking {s' : Store} {f' : Frame} (h : Course s t c f s' f')
    (hf : f.looking = true) : Still s s' ∧ (GivesUp f f' ∨ Silent s f f') := by
  cases h with
  | quit hstill hend => exact ⟨hstill, .inl hend⟩
  | silent hstill hmove => exact ⟨hstill, .inr hmove⟩
  | take hg =>
    rcases hg with rfl | rfl
    · cases hf
    · cases hf
  | drop hg =>
    rcases hg with rfl | rfl
    · cases hf
    · cases hf
  | announce hg =>
    rw [announces_looking hg] at hf
    cases hf
  | unannounced hg =>
    rw [announces_looking hg] at hf
    cases hf
  | place | append | free | book | acknowledge => cases hf

theorem Course.of_hold {caller : Caller} {request : HoldSeatRequest} {holdId : String}
    {s' : Store} {f' : Frame} (h : Course s t c f s' f')
    (hf : f = .evalshaHold caller request holdId ∨ f = .evalHold caller request holdId) :
    Still s s' ∧ (GivesUp f f' ∨ Silent s f f') ∨
      Lease.read s.redis.now (s.redis.keys (seatLockKey request.eventId request.seatId)) =
        none := by
  rcases hf with rfl | rfl
  · cases h with
    | quit hstill hend => exact .inl ⟨hstill, .inl hend⟩
    | silent hstill hmove => exact .inl ⟨hstill, .inr hmove⟩
    | take hg hfree =>
      cases hg with
      | inl hg =>
        cases hg
        exact .inr hfree
      | inr hg => cases hg
    | drop hg => rcases hg with hg | hg <;> cases hg
    | announce hg => cases hg
    | unannounced hg => cases hg
  · cases h with
    | quit hstill hend => exact .inl ⟨hstill, .inl hend⟩
    | silent hstill hmove => exact .inl ⟨hstill, .inr hmove⟩
    | take hg hfree =>
      cases hg with
      | inl hg => cases hg
      | inr hg =>
        cases hg
        exact .inr hfree
    | drop hg => rcases hg with hg | hg <;> cases hg
    | announce hg => cases hg
    | unannounced hg => cases hg

theorem freeRow_channel {eventId seatId : String} {s' : Store}
    (h : s.freeRow eventId seatId = some s') : s'.channel = s.channel := by
  unfold Store.freeRow at h
  split_ifs at h
  · cases h
    rfl
  · cases h
    rfl

/-- A command leaves the channel alone, or publishes the event its frame announces. -/
theorem Course.channel {s' : Store} {f' : Frame} (h : Course s t c f s' f') :
    s'.channel = s.channel ∨ ∃ payload event, f.announces = some (payload, f') ∧
      event.payload = payload ∧ s'.channel = s.channel ++ [event] := by
  cases h with
  | quit hstill hend => exact .inl hstill.channel
  | silent hstill hmove => exact .inl hstill.channel
  | announce hf hevent hchannel hstill => exact .inr ⟨_, _, hf, hevent, hchannel⟩
  | append hstream hstill => exact .inl hstill.channel
  | free hfree => exact .inl (freeRow_channel hfree)
  | take | place | unannounced | drop | book | acknowledge => exact .inl rfl

/-- Only the processing of a message goes on to process it. -/
theorem Course.processing {s' : Store} {f' : Frame} (h : Course s t c f s' f')
    (hf : f'.processing = true) : f.processing = true := by
  cases h with
  | quit hstill hend =>
    cases hend with
    | reject | refuse | leave => cases hf
  | silent hstill hmove =>
    cases hmove with
    | read_message | find_booked | find_unbooked | sell_row | book_row => rfl
    | _ => cases hf
  | announce hg => exact announces_processing hg hf
  | unannounced hg => exact announces_processing hg hf
  | take | place | append | drop | free => cases hf
  | book | acknowledge => rfl

end Act

/-! ## The courses of a step of the engine -/

/-- Rows, holds and events are as they were; the stream may have moved and time may have
passed. -/
structure Calm (s s' : Store) : Prop where
  seats : s'.seats = s.seats
  orders : s'.orders = s.orders
  channel : s'.channel = s.channel
  keys : s'.redis.keys = s.redis.keys
  drawn : s'.drawn = s.drawn
  now : s.redis.now ≤ s'.redis.now

theorem Calm.refl (s : Store) : Calm s s := ⟨rfl, rfl, rfl, rfl, rfl, le_refl _⟩

/-- Frames at which threads begin, wait for the next batch, or no longer are. A release begins
with the hold its client has named. -/
def Frame.Entering (l : Label) : Frame → Prop
  | .idle | .findEvent _ _ | .rejected _ => True
  | .findOrder _ holdId => ∃ n payload, l = .releaseSeat n payload holdId
  | .readMessage _ | .createGroup _ | .poll | .claim _ | .read _ _ | .batch _ _ => True
  | .drained _ | .stopped => True
  | _ => False

section Step

variable {digests : ScriptDigests} {world world' : World} {l : Label}

theorem holdSeat_entering (payload : PartialHoldSeatRequest) :
    (holdSeat payload).Entering l := by
  unfold holdSeat
  cases normalizeHoldRequest payload with
  | error e => trivial
  | ok request => trivial

theorem createOrder_entering (payload : PartialHoldSeatRequest) :
    (createOrder payload).Entering l := by
  unfold createOrder
  cases normalizeHoldRequest payload with
  | error e => trivial
  | ok request => trivial

theorem releaseSeat_entering (n : Nat) (payload : PartialHoldSeatRequest) (holdId : String) :
    (releaseSeat payload holdId).Entering (.releaseSeat n payload holdId) := by
  unfold releaseSeat
  cases normalizeHoldRequest payload with
  | error e => trivial
  | ok request =>
    simp only
    split_ifs
    · trivial
    · exact ⟨n, payload, rfl⟩

/-- A step that only lets threads begin, wait or end. -/
def Enters (l : Label) (world world' : World) : Prop :=
  Calm world.shared world'.shared ∧
    ∀ t, world'.point t = world.point t ∨ (world'.point t).Entering l

theorem enters_update {t : Thread} {s : Store} {f : Frame} (hcalm : Calm world.shared s)
    (hf : f.Entering l) : Enters l world ⟨s, Function.update world.point t f⟩ := by
  refine ⟨hcalm, fun u => ?_⟩
  by_cases hu : u = t
  · subst hu
    right
    simpa only [Function.update_self] using hf
  · left
    simp only [Function.update_of_ne hu]

theorem enter_enters {t : Thread} {f : Frame} (hf : f.Entering l)
    (h : enter world t f = some world') : Enters l world world' := by
  obtain ⟨-, rfl⟩ := enter_some h
  exact enters_update (Calm.refl _) hf

theorem startWorker_enters {w : Nat} {mode : Mode} {s : Store} (hcalm : Calm world.shared s)
    (h : startWorker world w mode s = some world') : Enters l world world' := by
  rw [startWorker_some h]
  exact enters_update hcalm trivial

theorem kill_enters {s : Store} (hcalm : Calm world.shared s) (dead : Thread → Bool) :
    Enters l world (kill ⟨s, world.point⟩ dead) := by
  refine ⟨⟨hcalm.seats, hcalm.orders, hcalm.channel, hcalm.keys, hcalm.drawn, hcalm.now⟩,
    fun u => ?_⟩
  by_cases hu : dead u = true
  · right
    simp only [kill, hu, if_true]
    trivial
  · left
    simp only [kill, hu]
    rfl

theorem stopWorker_calm (s : Store) (w : Nat) (mode : Mode) : Calm s (stopWorker s w mode) := by
  cases mode with
  | startOrderConsumer => exact ⟨rfl, rfl, rfl, rfl, rfl, le_refl _⟩
  | processAvailableOrderMessages => exact Calm.refl s

theorem running_calm (s : Store) (running : Nat → Bool) : Calm s { s with running } :=
  ⟨rfl, rfl, rfl, rfl, rfl, le_refl _⟩

theorem setStream_calm (s : Store) (stream : Stream (List String)) :
    Calm s (s.setStream stream) := ⟨rfl, rfl, rfl, rfl, rfl, le_refl _⟩

theorem read_enters (s : Store) (w : Nat) (mode : Mode) (claimed : List RedisStreamMessage)
    (c : Choice) :
    Calm s (stepRead s w mode claimed c).1 ∧ (stepRead s w mode claimed c).2.1.Entering l := by
  cases c with
  | fail message => exact ⟨stopWorker_calm _ _ _, trivial⟩
  | ok id =>
    unfold stepRead
    cases hmessages : readMessages s w with
    | none => exact ⟨stopWorker_calm _ _ _, trivial⟩
    | some p =>
      obtain ⟨⟨stream, entries⟩, -, rfl⟩ := Option.map_eq_some_iff.mp hmessages
      cases mode with
      | startOrderConsumer =>
        simp only
        split_ifs
        · exact ⟨setStream_calm _ _, trivial⟩
        · exact ⟨setStream_calm _ _, trivial⟩
      | processAvailableOrderMessages => exact ⟨setStream_calm _ _, trivial⟩

theorem actWorker_enters {w : Nat} {c : Choice} (h : actWorker world w c = some world') :
    Enters l world world' := by
  unfold actWorker at h
  cases hp : world.point (.worker w) with
  | createGroup mode =>
    rw [hp] at h
    cases h
    cases c with
    | fail message => exact enters_update (Calm.refl _) trivial
    | ok id =>
      apply enters_update (setStream_calm _ _)
      cases mode with
      | startOrderConsumer => trivial
      | processAvailableOrderMessages => trivial
  | poll =>
    rw [hp] at h
    cases h
    unfold stepPoll
    split_ifs
    · exact enters_update (Calm.refl _) trivial
    · exact enters_update (Calm.refl _) trivial
  | claim mode =>
    rw [hp] at h
    cases h
    cases c with
    | fail message => exact enters_update (stopWorker_calm _ _ _) trivial
    | ok id =>
      unfold stepClaim
      cases hclaim : claimPendingMessages world.shared w with
      | none => exact enters_update (stopWorker_calm _ _ _) trivial
      | some p =>
        obtain ⟨⟨stream, entries⟩, -, rfl⟩ := Option.map_eq_some_iff.mp hclaim
        exact enters_update (setStream_calm _ _) trivial
  | read mode claimed =>
    rw [hp] at h
    simp only at h
    have hread := read_enters (l := l) world.shared w mode claimed c
    generalize stepRead world.shared w mode claimed c = q at h hread
    obtain ⟨s', f, messages⟩ := q
    cases h
    refine ⟨hread.1, fun u => ?_⟩
    rcases spawn_point (Function.update world.point (.worker w) f) w messages u with
      hs | ⟨message, -, hs⟩
    · simp only [hs]
      exact (enters_update hread.1 hread.2).2 u
    · right
      simp only [hs]
      trivial
  | batch mode count =>
    rw [hp] at h
    simp only at h
    split_ifs at h
    cases h
    apply enters_update (Calm.refl _)
    cases mode with
    | startOrderConsumer => trivial
    | processAvailableOrderMessages => trivial
  | _ =>
    rw [hp] at h
    cases h

/-- A step is a command of one call or task, or lets threads begin, wait or end. -/
theorem step_act (h : step digests world l = some world') :
    (∃ t c p, l = .act t c ∧ (world.point t).act digests world.shared t c = some p ∧
        world' = ⟨p.1, Function.update world.point t p.2⟩) ∨
      Enters l world world' ∧ ∀ n c, l ≠ .act (.call n) c := by
  have acted {t : Thread} {c : Choice} (hl : l = .act t c)
      (h : ((world.point t).act digests world.shared t c).map (fun p : Store × Frame =>
        (⟨p.1, Function.update world.point t p.2⟩ : World)) = some world') :
      ∃ t c p, l = .act t c ∧ (world.point t).act digests world.shared t c = some p ∧
        world' = ⟨p.1, Function.update world.point t p.2⟩ := by
    obtain ⟨p, hp, rfl⟩ := Option.map_eq_some_iff.mp h
    exact ⟨t, c, p, hl, hp, rfl⟩
  cases l with
  | holdSeat n payload => exact .inr ⟨enter_enters (holdSeat_entering payload) h, by simp⟩
  | createOrder n payload => exact .inr ⟨enter_enters (createOrder_entering payload) h, by simp⟩
  | releaseSeat n payload holdId =>
    exact .inr ⟨enter_enters (releaseSeat_entering n payload holdId) h, by simp⟩
  | startOrderConsumer w =>
    refine .inr ⟨?_, by simp⟩
    simp only [step] at h
    split_ifs at h
    · cases h
      exact ⟨Calm.refl _, fun _ => .inl rfl⟩
    · exact startWorker_enters (running_calm _ _) h
  | processAvailableOrderMessages w =>
    exact .inr ⟨startWorker_enters (Calm.refl _) h, by simp⟩
  | stopOrderConsumer w =>
    cases h
    exact .inr ⟨⟨running_calm _ _, fun _ => .inl rfl⟩, by simp⟩
  | act t c =>
    cases t with
    | worker w => exact .inr ⟨actWorker_enters h, by simp⟩
    | call n => exact .inl (acted rfl h)
    | task w i => exact .inl (acted rfl h)
  | crashCall n =>
    cases h
    exact .inr ⟨kill_enters (Calm.refl _) _, by simp⟩
  | crashWorker w =>
    cases h
    exact .inr ⟨kill_enters (running_calm _ _) _, by simp⟩
  | advance ms =>
    cases h
    exact .inr ⟨⟨⟨rfl, rfl, rfl, rfl, rfl, Nat.le_add_right _ _⟩, fun _ => .inl rfl⟩, by simp⟩
  | flushScripts =>
    cases h
    exact .inr ⟨⟨⟨rfl, rfl, rfl, rfl, rfl, le_refl _⟩, fun _ => .inl rfl⟩, by simp⟩

/-- A step is a course of one call or task, or lets threads begin, wait or end. -/
theorem step_course (h : step digests world l = some world') :
    (∃ t c f', l = .act t c ∧ Course world.shared t c (world.point t) world'.shared f' ∧
        world'.point = Function.update world.point t f') ∨
      Enters l world world' ∧ ∀ n c, l ≠ .act (.call n) c := by
  rcases step_act h with ⟨t, c, p, hl, hp, rfl⟩ | henters
  · exact .inl ⟨t, c, p.2, hl, act_course hp, rfl⟩
  · exact .inr henters

theorem step_drawn (hv : outline.Valid world) (h : step digests world l = some world')
    {id : String} {t : Thread} (hd : world.shared.drawn id = some t) :
    world'.shared.drawn id = some t := by
  rcases step_course h with ⟨u, c, f', rfl, -, -⟩ | ⟨⟨hcalm, -⟩, -⟩
  · obtain ⟨-, ⟨u', c', -, hchange⟩ | ⟨hne, -⟩⟩ := step_cases hv h
    · exact hchange.drawn id t hd
    · exact absurd rfl (hne u c)
  · rw [hcalm.drawn]
    exact hd

theorem enter_point {t u : Thread} {f : Frame} (h : enter world t f = some world') :
    world'.point u = world.point u ∨
      u = t ∧ world.point u = .idle ∧ world'.point u = f := by
  obtain ⟨hidle, rfl⟩ := enter_some h
  by_cases hu : u = t
  · subst hu
    exact .inr ⟨rfl, hidle, Function.update_self ..⟩
  · exact .inl (Function.update_of_ne hu ..)

theorem startWorker_call {w n : Nat} {mode : Mode} {s : Store}
    (h : startWorker world w mode s = some world') :
    world'.point (.call n) = world.point (.call n) := by
  rw [startWorker_some h]
  rfl

theorem actWorker_call {w n : Nat} {c : Choice} (h : actWorker world w c = some world') :
    world'.point (.call n) = world.point (.call n) := by
  unfold actWorker at h
  cases hp : world.point (.worker w) with
  | batch mode count =>
    rw [hp] at h
    simp only at h
    split_ifs at h
    cases h
    rfl
  | createGroup _ | poll | claim _ | read _ _ =>
    rw [hp] at h
    cases h
    rfl
  | _ =>
    rw [hp] at h
    cases h

/-- The first frames of the calls. -/
inductive Frame.Requested : Frame → Prop
  | holdSeat (payload) : Requested (holdSeat payload)
  | createOrder (payload) : Requested (createOrder payload)
  | releaseSeat (payload holdId) : Requested (releaseSeat payload holdId)

/-- What a step does to a call that does not act: it stays, dies, or begins. -/
theorem call_cases (h : step digests world l = some world') (n : Nat)
    (hown : ∀ c, l ≠ .act (.call n) c) :
    world'.point (.call n) = world.point (.call n) ∨
      l = .crashCall n ∧ world'.point (.call n) = .idle ∨
      world.point (.call n) = .idle ∧ (world'.point (.call n)).Requested := by
  have entered {t : Thread} {f : Frame} (hf : f.Requested)
      (h : enter world t f = some world') :
      world'.point (.call n) = world.point (.call n) ∨
        l = .crashCall n ∧ world'.point (.call n) = .idle ∨
        world.point (.call n) = .idle ∧ (world'.point (.call n)).Requested := by
    rcases enter_point (u := .call n) h with hsame | ⟨-, hidle, hnew⟩
    · exact .inl hsame
    · rw [hnew]
      exact .inr (.inr ⟨hidle, hf⟩)
  cases l with
  | holdSeat m payload => exact entered (.holdSeat payload) h
  | createOrder m payload => exact entered (.createOrder payload) h
  | releaseSeat m payload holdId => exact entered (.releaseSeat payload holdId) h
  | startOrderConsumer w =>
    left
    simp only [step] at h
    split_ifs at h
    · cases h
      rfl
    · exact startWorker_call h
  | processAvailableOrderMessages w => exact .inl (startWorker_call h)
  | act t c =>
    left
    cases t with
    | worker w => exact actWorker_call h
    | call m =>
      obtain ⟨p, -, rfl⟩ := Option.map_eq_some_iff.mp h
      have hne : Thread.call n ≠ .call m := by
        intro heq
        cases heq
        exact hown c rfl
      simp only [Function.update_of_ne hne]
    | task w i =>
      obtain ⟨p, -, rfl⟩ := Option.map_eq_some_iff.mp h
      rfl
  | crashCall m =>
    cases h
    by_cases hm : n = m
    · subst hm
      exact .inr (.inl ⟨rfl, by simp [kill]⟩)
    · left
      simp [kill, hm]
  | crashWorker w =>
    cases h
    exact .inl rfl
  | stopOrderConsumer w | advance ms | flushScripts =>
    cases h
    exact .inl rfl

theorem enter_task {n w i : Nat} {f : Frame} (h : enter world (.call n) f = some world') :
    world'.point (.task w i) = world.point (.task w i) := by
  obtain ⟨-, rfl⟩ := enter_some h
  rfl

theorem startWorker_task {v w i : Nat} {mode : Mode} {s : Store}
    (h : startWorker world v mode s = some world') :
    world'.point (.task w i) = world.point (.task w i) := by
  rw [startWorker_some h]
  rfl

/-- A worker moves its tasks only when it hands a batch to them. -/
theorem actWorker_task {v w i : Nat} {c : Choice} (h : actWorker world v c = some world') :
    world'.point (.task w i) = world.point (.task w i) ∨
      v = w ∧ (∃ mode claimed, world.point (.worker w) = .read mode claimed) ∧
        ∃ message, world'.point (.task w i) = .readMessage message := by
  unfold actWorker at h
  cases hp : world.point (.worker v) with
  | read mode claimed =>
    rw [hp] at h
    simp only at h
    generalize stepRead world.shared v mode claimed c = q at h
    obtain ⟨s', f, messages⟩ := q
    cases h
    simp only [spawn]
    split_ifs with hw
    · subst hw
      cases hm : messages[i]? with
      | none => exact .inl rfl
      | some message => exact .inr ⟨rfl, ⟨mode, claimed, hp⟩, message, rfl⟩
    · exact .inl rfl
  | batch mode count =>
    rw [hp] at h
    simp only at h
    split_ifs at h
    cases h
    exact .inl rfl
  | createGroup _ | poll | claim _ =>
    rw [hp] at h
    cases h
    exact .inl rfl
  | _ =>
    rw [hp] at h
    cases h

/-- What a step does to a task: it stays, takes its next command, is given a message, or dies with
its worker. -/
theorem task_cases (h : step digests world l = some world') (w i : Nat) :
    world'.point (.task w i) = world.point (.task w i) ∨
      (∃ c p, l = .act (.task w i) c ∧
        (world.point (.task w i)).act digests world.shared (.task w i) c = some p ∧
        world' = ⟨p.1, Function.update world.point (.task w i) p.2⟩) ∨
      (∃ c, l = .act (.worker w) c ∧
        (∃ mode claimed, world.point (.worker w) = .read mode claimed) ∧
        ∃ message, world'.point (.task w i) = .readMessage message) ∨
      l = .crashWorker w := by
  cases l with
  | holdSeat n payload => exact .inl (enter_task h)
  | createOrder n payload => exact .inl (enter_task h)
  | releaseSeat n payload holdId => exact .inl (enter_task h)
  | startOrderConsumer v =>
    left
    simp only [step] at h
    split_ifs at h
    · cases h
      rfl
    · exact startWorker_task h
  | processAvailableOrderMessages v => exact .inl (startWorker_task h)
  | act t c =>
    cases t with
    | worker v =>
      rcases actWorker_task (w := w) (i := i) h with hsame | ⟨rfl, hread, hmessage⟩
      · exact .inl hsame
      · exact .inr (.inr (.inl ⟨c, rfl, hread, hmessage⟩))
    | call n =>
      obtain ⟨p, -, rfl⟩ := Option.map_eq_some_iff.mp h
      exact .inl rfl
    | task v j =>
      obtain ⟨p, hp, rfl⟩ := Option.map_eq_some_iff.mp h
      by_cases ht : Thread.task w i = .task v j
      · cases ht
        exact .inr (.inl ⟨c, p, rfl, hp, rfl⟩)
      · exact .inl (Function.update_of_ne ht ..)
  | crashCall n =>
    cases h
    exact .inl rfl
  | crashWorker v =>
    by_cases hw : w = v
    · subst hw
      exact .inr (.inr (.inr rfl))
    · cases h
      left
      simp [kill, workerThreads, hw]
  | stopOrderConsumer v | advance ms | flushScripts =>
    cases h
    exact .inl rfl

/-- A call that has begun stays where it is while others run. -/
theorem call_kept (h : step digests world l = some world') {n : Nat}
    (hbegun : world.point (.call n) ≠ .idle) (hown : ∀ c, l ≠ .act (.call n) c)
    (halive : l ≠ .crashCall n) : world'.point (.call n) = world.point (.call n) := by
  rcases call_cases h n hown with hsame | ⟨hcrash, -⟩ | ⟨hidle, -⟩
  · exact hsame
  · exact absurd hcrash halive
  · exact absurd hidle hbegun

end Step

/-! ## What a command spares -/

/-- The frames whose command is a script call. -/
def Frame.scripted : Frame → Bool
  | .evalshaHold _ _ _ | .evalHold _ _ _ | .evalshaRelease _ _ | .evalRelease _ _ => true
  | _ => false

/-- The flags of the workers stand, and so does Redis unless the command is a script call. -/
structure Spared (scripted : Bool) (s s' : Store) : Prop where
  running : s'.running = s.running
  redis : scripted = false → s'.redis = s.redis

section Spared

variable {digests : ScriptDigests} {s s' : Store} {t : Thread} {c : Choice} {f f' : Frame}
  {r : Store × Frame} {scripted : Bool}

theorem Spared.refl (s : Store) : Spared scripted s s := ⟨rfl, fun _ => rfl⟩

theorem Spared.abort (s : Store) (t : Thread) : Spared scripted s (s.abort t) :=
  ⟨rfl, fun _ => rfl⟩

theorem Spared.trans {s'' : Store} (h : Spared scripted s s') (h' : Spared scripted s' s'') :
    Spared scripted s s'' :=
  ⟨h'.running.trans h.running, fun hs => (h'.redis hs).trans (h.redis hs)⟩

theorem Spared.draw {id : String} (h : s.draw t id = some s') : Spared scripted s s' := by
  obtain ⟨-, rfl⟩ := draw_eq h
  exact ⟨rfl, fun _ => rfl⟩

theorem Spared.draw_next {id : String} {next : Store → Store × Frame}
    (hnext : ∀ s, Spared scripted s (next s).1) (h : (s.draw t id).map next = some r) :
    Spared scripted s r.1 := by
  obtain ⟨s', hd, rfl⟩ := Option.map_eq_some_iff.mp h
  exact (Spared.draw hd).trans (hnext s')

theorem Spared.lockRow_next {eventId seatId : String} {status : SeatState}
    {next : Store × Nat → Store × Frame} (hnext : ∀ p, Spared scripted p.1 (next p).1)
    (h : (s.lockRow t eventId seatId status).map next = some r) : Spared scripted s r.1 := by
  obtain ⟨⟨s', count⟩, hl, rfl⟩ := Option.map_eq_some_iff.mp h
  refine Spared.trans ?_ (hnext (s', count))
  rcases lockRow_cases hl with ⟨-, rfl⟩ | ⟨-, -, -, rfl⟩
  · exact .refl _
  · exact ⟨rfl, fun _ => rfl⟩

theorem Spared.freeRow {eventId seatId : String} (h : s.freeRow eventId seatId = some s') :
    Spared scripted s s' := by
  unfold Store.freeRow at h
  split_ifs at h
  · cases h
    exact ⟨rfl, fun _ => rfl⟩
  · cases h
    exact .refl _

theorem Spared.publish {correlationId : String} {payload : SeatEventPayload}
    (h : (publishSeatEvent s t correlationId payload c).map (fun s => (s, f')) = some r) :
    Spared scripted s r.1 := by
  obtain ⟨s', hp, rfl⟩ := Option.map_eq_some_iff.mp h
  cases c with
  | fail message =>
    cases hp
    exact .refl _
  | ok id =>
    obtain ⟨s₁, hd, rfl⟩ := Option.map_eq_some_iff.mp hp
    have hdraw : Spared scripted s s₁ := .draw hd
    exact ⟨hdraw.running, hdraw.redis⟩

theorem Spared.evalsha (run : LockRedis × Except RedisError Int) (replied : Int → Frame)
    (fallback : Frame) : Spared true s (stepEvalsha s run replied fallback c).1 := by
  unfold stepEvalsha
  split
  · exact ⟨rfl, fun h => nomatch h⟩
  · exact ⟨rfl, fun h => nomatch h⟩

theorem Spared.eval (run : LockRedis × Except RedisError Int) (replied : Int → Frame) :
    Spared true s (stepEval s run replied c).1 := by
  unfold stepEval
  split
  · exact ⟨rfl, fun h => nomatch h⟩
  · exact ⟨rfl, fun h => nomatch h⟩

/-- What every command of a call or of a task spares. -/
theorem act_spared (h : f.act digests s t c = some r) : Spared f.scripted s r.1 := by
  cases f with
  | findEvent caller request =>
    cases c with
    | fail message =>
      cases h
      exact .refl _
    | ok holdId =>
      simp only [Frame.act, stepFindEvent] at h
      split at h
      · cases h
        exact .refl _
      · exact .draw_next Spared.refl h
  | evalshaHold caller request holdId | evalshaRelease request holdId =>
    cases h
    exact .evalsha ..
  | evalHold caller request holdId | evalRelease request holdId =>
    cases h
    exact .eval ..
  | holdReply caller request holdId result =>
    cases h
    unfold stepHoldReply
    cases caller with
    | holdSeat | createOrder =>
      simp only
      split
      · exact .refl _
      · exact .refl _
  | publishHold record | publishHeld order | publishReleased request holdId => exact .publish h
  | publishBooked message payload => exact .publish h
  | lockSeat request execution =>
    cases c with
    | fail message =>
      cases h
      exact .refl _
    | ok id =>
      refine .lockRow_next (fun p => ?_) h
      simp only
      split
      · exact .abort _ _
      · exact .refl _
  | createRow request execution =>
    cases c with
    | fail message =>
      cases h
      exact .abort _ _
    | ok id =>
      refine .draw_next (fun s => ?_) h
      split
      · exact .abort _ _
      · exact .refl _
  | appendEvent order =>
    cases c with
    | fail message =>
      cases h
      exact .refl _
    | ok id => exact .draw_next (fun _ => ⟨rfl, fun _ => rfl⟩) h
  | findOrder request holdId =>
    cases h
    cases c with
    | fail message => exact .refl _
    | ok id =>
      simp only [stepFindOrder]
      split
      · exact .refl _
      · exact .refl _
  | releaseReply request holdId result =>
    cases h
    unfold stepReleaseReply
    split
    · exact .refl _
    · exact .refl _
  | freeRow request holdId =>
    cases c with
    | fail message =>
      cases h
      exact .refl _
    | ok id =>
      obtain ⟨s', hfree, rfl⟩ := Option.map_eq_some_iff.mp h
      exact .freeRow hfree
  | readMessage message =>
    cases h
    unfold stepReadMessage
    split
    · exact .refl _
    · exact .refl _
  | findBooking message payload =>
    cases h
    cases c with
    | fail e => exact .refl _
    | ok id =>
      simp only [stepFindBooking]
      split
      · exact .refl _
      · split
        · exact .refl _
        · exact .refl _
  | sellRow message payload =>
    cases c with
    | fail e =>
      cases h
      exact .refl _
    | ok id =>
      refine .lockRow_next (fun p => ?_) h
      simp only
      split
      · exact .abort _ _
      · exact .refl _
  | bookRow message payload =>
    cases h
    cases c with
    | fail e => exact .abort _ _
    | ok id =>
      simp only [stepBookRow]
      split
      · exact .abort _ _
      · exact .refl _
  | commitOrder order | commitBooking message payload | acknowledge message payload =>
    cases h
    cases c with
    | fail message => exact ⟨rfl, fun _ => rfl⟩
    | ok id => exact ⟨rfl, fun _ => rfl⟩
  | _ => cases h

end Spared

end TicketEngine
