import TicketEngine.System.Frame

namespace TicketEngine

def DEFAULT_HOLD_TTL_SECONDS : ℚ := 600

/-! ## The seat hold, as holdSeat and createOrder begin -/

/-- The event and seat rows both calls look at before they ask for the hold. -/
def findSeat (s : Store) (request : HoldSeatRequest) : Except ServiceError Unit :=
  if s.events request.eventId = false then .error (.notFound "Event not found")
  else
    match s.seats request.seatId with
    | none => .error (.notFound "Seat not found for the event")
    | some seat =>
      if seat.eventId ≠ request.eventId then .error (.notFound "Seat not found for the event")
      else if seat.status = .SOLD then .error (.conflict "Seat already sold")
      else .ok ()

def holdTtl : ℚ := effectiveTtl (.finite DEFAULT_HOLD_TTL_SECONDS)

def holdScript (request : HoldSeatRequest) (holdId : String) : SeatScript :=
  fun now cell => atomic_seat_lock now cell request.userId holdId (some holdTtl)

def stepFindEvent (s : Store) (t : Thread) (caller : Caller) (request : HoldSeatRequest) :
    Choice → Option (Store × Frame)
  | .fail message => some (s, .rejected (.other message))
  | .ok holdId =>
    match findSeat s request with
    | .error e => some (s, .rejected e)
    | .ok () => (s.draw t holdId).map fun s => (s, .evalshaHold caller request holdId)

/-- The outcome of one script command. -/
def scriptReply (s : Store) (run : LockRedis × Except RedisError Int) :
    Choice → LockRedis × Except RedisError Int
  | .fail message => (s.redis, .error (.connection message))
  | .ok _ => run

/-- EVALSHA in its `try`, and the way into the `catch`. -/
def stepEvalsha (s : Store) (run : LockRedis × Except RedisError Int) (replied : Int → Frame)
    (fallback : Frame) (c : Choice) : Store × Frame :=
  match scriptReply s run c with
  | (redis, .ok result) => (s.setRedis redis, replied result)
  | (redis, .error e) =>
    (s.setRedis redis, if isNoscriptError e then fallback else .rejected (.other e.message))

/-- EVAL with the script's source, inside the `catch`. -/
def stepEval (s : Store) (run : LockRedis × Except RedisError Int) (replied : Int → Frame)
    (c : Choice) : Store × Frame :=
  match scriptReply s run c with
  | (redis, .ok result) => (s.setRedis redis, replied result)
  | (redis, .error e) => (s.setRedis redis, .rejected (.other e.message))

def stepEvalshaHold (digests : ScriptDigests) (s : Store) (caller : Caller)
    (request : HoldSeatRequest) (holdId : String) (c : Choice) : Store × Frame :=
  stepEvalsha s
    (s.redis.evalsha digests .atomicSeatLock (seatLockKey request.eventId request.seatId)
      (holdScript request holdId))
    (.holdReply caller request holdId) (.evalHold caller request holdId) c

def stepEvalHold (s : Store) (caller : Caller) (request : HoldSeatRequest) (holdId : String)
    (c : Choice) : Store × Frame :=
  stepEval s
    (s.redis.eval .atomicSeatLock (seatLockKey request.eventId request.seatId)
      (holdScript request holdId))
    (.holdReply caller request holdId) c

/-- A `Date` keeps whole milliseconds. -/
def dateOf (ms : ℚ) : Int := ms.floor

/-- What follows the reply; `expiresAt` is computed from the clock of this moment. -/
def stepHoldReply (s : Store) (caller : Caller) (request : HoldSeatRequest) (holdId : String)
    (result : Int) : Store × Frame :=
  let execution : SeatLockExecution :=
    { result, holdId, ttlSeconds := holdTtl, expiresAt := s.redis.now + holdTtl * 1000 }
  match caller with
  | .holdSeat =>
    if execution.result = 1 then
      (s, .publishHold
        { holdId := execution.holdId, eventId := request.eventId, seatId := request.seatId,
          userId := request.userId, status := .HELD,
          expiresAt := toISOString (dateOf execution.expiresAt) })
    else (s, .held (.fail "Seat is currently unavailable or already held"))
  | .createOrder =>
    if execution.result ≠ 1 then
      (s, .rejected (.conflict "Seat is currently unavailable or already held"))
    else (s, .lockSeat request execution)

def seatEvent (s : Store) (eventId correlationId : String) (payload : SeatEventPayload) :
    WebSocketSeatEvent :=
  { eventId, schemaVersion := WEBSOCKET_SEAT_EVENT_SCHEMA_VERSION,
    occurredAt := toISOString s.redis.now, correlationId, payload }

/-- `publishSeatEvent` with its catch: an event that cannot be sent is dropped. -/
def publishSeatEvent (s : Store) (t : Thread) (correlationId : String)
    (payload : SeatEventPayload) : Choice → Option Store
  | .fail _ => some s
  | .ok id => (s.draw t id).map fun s => s.publish (seatEvent s id correlationId payload)

def stepPublishHold (s : Store) (t : Thread) (record : SeatHoldRecord) (c : Choice) :
    Option (Store × Frame) :=
  let payload := SeatEventPayload.held record.eventId record.seatId record.holdId record.expiresAt
    (some record.userId)
  (publishSeatEvent s t record.holdId payload c).map fun s => (s, .held (.success record))

/-! ## createOrder -/

def stepLockSeat (s : Store) (t : Thread) (request : HoldSeatRequest)
    (execution : SeatLockExecution) : Choice → Option (Store × Frame)
  | .fail message => some (s, .rejected (.other message))
  | .ok _ =>
    (s.lockRow t request.eventId request.seatId .AVAILABLE).map fun (s, count) =>
      if count ≠ 1 then
        (s.abort t, .rejected (.conflict "Seat state changed before order creation"))
      else (s, .createRow request execution)

/-- `order.create` in the transaction: the row is checked now and visible after the commit. -/
def stepCreateRow (s : Store) (t : Thread) (request : HoldSeatRequest)
    (execution : SeatLockExecution) : Choice → Option (Store × Frame)
  | .fail message => some (s.abort t, .rejected (.other message))
  | .ok id =>
    (s.draw t id).map fun s =>
      match s.orders.row execution.holdId with
      | some _ => (s.abort t, .rejected (.other "Unique constraint failed on holdId"))
      | none =>
        (s, .commitOrder
          { id, holdId := execution.holdId, eventId := request.eventId,
            seatId := request.seatId, userId := request.userId,
            expiresAt := dateOf execution.expiresAt, status := .PROCESSING })

def stepCommitOrder (s : Store) (t : Thread) (order : Order) : Choice → Store × Frame
  | .fail message => (s.abort t, .rejected (.other message))
  | .ok _ => (s.placeOrder t order, .publishHeld order)

def stepPublishHeld (s : Store) (t : Thread) (order : Order) (c : Choice) :
    Option (Store × Frame) :=
  let payload := SeatEventPayload.held order.eventId order.seatId order.holdId
    (toISOString order.expiresAt) none
  (publishSeatEvent s t order.holdId payload c).map fun s => (s, .appendEvent order)

def orderPayload (order : Order) : OrderCreatedEventPayload :=
  { holdId := order.holdId, orderId := order.id, eventId := order.eventId,
    seatId := order.seatId, userId := order.userId, expiresAt := toISOString order.expiresAt }

/-- The event `createOrder` writes to `stream:orders`. -/
def orderEvent (s : Store) (eventId : String) (order : Order) : OrderCreatedEvent :=
  { eventId, eventType := ORDER_EVENT_TYPE, schemaVersion := ORDER_EVENT_SCHEMA_VERSION,
    occurredAt := toISOString s.redis.now, payload := orderPayload order }

def stepAppendEvent (s : Store) (t : Thread) (order : Order) : Choice → Option (Store × Frame)
  | .fail message => some (s, .rejected (.other message))
  | .ok id =>
    (s.draw t id).map fun s =>
      (s.setStream (s.stream.append s.redis.now (orderEvent s id order).fields),
        .ordered { orderId := order.id })

/-! ## releaseSeat -/

def stepFindOrder (s : Store) (request : HoldSeatRequest) (holdId : String) :
    Choice → Store × Frame
  | .fail message => (s, .rejected (.other message))
  | .ok _ =>
    match s.orders.row holdId with
    | some _ => (s, .rejected (.conflict "Seat hold is already associated with an order"))
    | none => (s, .evalshaRelease request holdId)

def releaseScript (request : HoldSeatRequest) (holdId : String) : SeatScript :=
  fun now cell => .ok (release_seat now cell request.userId holdId)

def stepEvalshaRelease (digests : ScriptDigests) (s : Store) (request : HoldSeatRequest)
    (holdId : String) (c : Choice) : Store × Frame :=
  stepEvalsha s
    (s.redis.evalsha digests .releaseSeat (seatLockKey request.eventId request.seatId)
      (releaseScript request holdId))
    (.releaseReply request holdId) (.evalRelease request holdId) c

def stepEvalRelease (s : Store) (request : HoldSeatRequest) (holdId : String) (c : Choice) :
    Store × Frame :=
  stepEval s
    (s.redis.eval .releaseSeat (seatLockKey request.eventId request.seatId)
      (releaseScript request holdId))
    (.releaseReply request holdId) c

def stepReleaseReply (s : Store) (request : HoldSeatRequest) (holdId : String) (result : Int) :
    Store × Frame :=
  if result = 1 then (s, .freeRow request holdId)
  else (s, .rejected (.conflict "Seat hold is unavailable or owned by another user"))

def stepFreeRow (s : Store) (request : HoldSeatRequest) (holdId : String) :
    Choice → Option (Store × Frame)
  | .fail message => some (s, .rejected (.other message))
  | .ok _ =>
    (s.freeRow request.eventId request.seatId).map fun s => (s, .publishReleased request holdId)

def stepPublishReleased (s : Store) (t : Thread) (request : HoldSeatRequest) (holdId : String)
    (c : Choice) : Option (Store × Frame) :=
  let payload := SeatEventPayload.released request.eventId request.seatId holdId "released"
  (publishSeatEvent s t holdId payload c).map fun s =>
    (s, .released { eventId := request.eventId, seatId := request.seatId, holdId })

/-- The first frame of each call, after its own checks. -/
def holdSeat (payload : PartialHoldSeatRequest) : Frame :=
  match normalizeHoldRequest payload with
  | .error e => .rejected e
  | .ok request => .findEvent .holdSeat request

def createOrder (payload : PartialHoldSeatRequest) : Frame :=
  match normalizeHoldRequest payload with
  | .error e => .rejected e
  | .ok request => .findEvent .createOrder request

def releaseSeat (payload : PartialHoldSeatRequest) (holdId : String) : Frame :=
  match normalizeHoldRequest payload with
  | .error e => .rejected e
  | .ok request =>
    if trim holdId = "" then .rejected (.badRequest "holdId is required")
    else .findOrder request holdId

end TicketEngine
