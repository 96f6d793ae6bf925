import TicketEngine.Framework.RelatedRuns
import TicketEngine.Framework.StreamRelation
import TicketEngine.System.Invariant
import TicketEngine.Websocket.SeatEventCodec

namespace TicketEngine

/-! ## The same state under other users -/

/-- The validator reads a time as `toISOString` prints it. -/
def Zod.reads (zod : Zod) (ms : Int) : Bool := zod.datetime (toISOString ms)

structure HoldSeatRequest.Named (request : HoldSeatRequest) : Prop where
  eventId : request.eventId ≠ ""
  seatId : request.seatId ≠ ""

structure OrderCreatedEventPayload.Named (payload : OrderCreatedEventPayload) : Prop where
  orderId : payload.orderId ≠ ""
  eventId : payload.eventId ≠ ""
  seatId : payload.seatId ≠ ""

structure SeatHoldRecord.Named (zod : Zod) (record : SeatHoldRecord) : Prop where
  holdId : record.holdId ≠ ""
  eventId : record.eventId ≠ ""
  seatId : record.seatId ≠ ""
  expiresAt : zod.datetime record.expiresAt = true

structure SeatLockExecution.Named (zod : Zod) (execution : SeatLockExecution) : Prop where
  holdId : execution.holdId ≠ ""
  expiresAt : zod.reads (dateOf execution.expiresAt) = true

structure Order.Named (zod : Zod) (order : Order) : Prop where
  id : order.id ≠ ""
  holdId : order.holdId ≠ ""
  eventId : order.eventId ≠ ""
  seatId : order.seatId ≠ ""
  expiresAt : zod.reads order.expiresAt = true

def OrderAlike (o p : Order) : Prop := ∃ userId, p = { o with userId }

/-- Two entries of `stream:orders` that carry one payload up to its user. -/
def FieldsAlike (fields fields' : List String) : Prop :=
  ∃ payload : OrderCreatedEventPayload, ∃ userId, payload.Named ∧
    (∀ id, readEvent (toMessage (id, fields)) = .ok payload) ∧
    ∀ id, readEvent (toMessage (id, fields')) = .ok { payload with userId }

def MessageAlike (m m' : RedisStreamMessage) : Prop :=
  m.id = m'.id ∧ ∃ payload : OrderCreatedEventPayload, ∃ userId, payload.Named ∧
    readEvent m = .ok payload ∧ readEvent m' = .ok { payload with userId }

/-- Two events the schema accepts, and a subscriber sees as one. -/
structure EventAlike (zod : Zod) (e e' : WebSocketSeatEvent) : Prop where
  first : e.Accepted zod
  second : e'.Accepted zod
  visible : e'.visible = e.visible

/-- Two stores that differ in user ids, and in who holds what in Redis. -/
inductive Store.Alike (zod : Zod) (s : Store) : Store → Prop
  | mk {keys stream channel orders} (hstream : Stream.Rel FieldsAlike s.stream stream)
      (hchannel : List.Forall₂ (EventAlike zod) s.channel channel)
      (horders : ∀ holdId, Option.Rel OrderAlike (s.orders.row holdId) (orders.row holdId)) :
      Store.Alike zod s { s with redis := { s.redis with keys }, stream, channel, orders }

/-- Frames of the workers and ends of tasks: they carry no user. -/
def Frame.anonymous : Frame → Bool
  | .idle | .createGroup _ | .poll | .claim _ | .batch _ _ => true
  | .processed _ | .failed _ _ | .drained _ | .stopped => true
  | _ => false

/-- The ends of a service call. -/
def Frame.answered : Frame → Bool
  | .held _ | .ordered _ | .released _ | .rejected _ => true
  | _ => false

/-- Two frames that differ in user ids and script replies, and name what they speak of. -/
inductive Frame.Alike (zod : Zod) : Frame → Frame → Prop
  | same {f} (h : f.anonymous = true) : Alike zod f f
  | findEvent {caller request userId} (h : request.Named) :
      Alike zod (.findEvent caller request) (.findEvent caller { request with userId })
  | evalshaHold {caller request holdId userId} (h : request.Named) (hid : holdId ≠ "") :
      Alike zod (.evalshaHold caller request holdId)
        (.evalshaHold caller { request with userId } holdId)
  | evalHold {caller request holdId userId} (h : request.Named) (hid : holdId ≠ "") :
      Alike zod (.evalHold caller request holdId) (.evalHold caller { request with userId } holdId)
  | holdReply {caller request holdId result result' userId} (h : request.Named)
      (hid : holdId ≠ "") :
      Alike zod (.holdReply caller request holdId result)
        (.holdReply caller { request with userId } holdId result')
  | publishHold {record userId} (h : record.Named zod) :
      Alike zod (.publishHold record) (.publishHold { record with userId })
  | lockSeat {request execution userId} (h : request.Named) (he : execution.Named zod) :
      Alike zod (.lockSeat request execution) (.lockSeat { request with userId } execution)
  | createRow {request execution userId} (h : request.Named) (he : execution.Named zod) :
      Alike zod (.createRow request execution) (.createRow { request with userId } execution)
  | commitOrder {order userId} (h : order.Named zod) :
      Alike zod (.commitOrder order) (.commitOrder { order with userId })
  | publishHeld {order userId} (h : order.Named zod) :
      Alike zod (.publishHeld order) (.publishHeld { order with userId })
  | appendEvent {order userId} (h : order.Named zod) :
      Alike zod (.appendEvent order) (.appendEvent { order with userId })
  | findOrder {request holdId userId} (h : request.Named) (hid : holdId ≠ "") :
      Alike zod (.findOrder request holdId) (.findOrder { request with userId } holdId)
  | evalshaRelease {request holdId userId} (h : request.Named) (hid : holdId ≠ "") :
      Alike zod (.evalshaRelease request holdId) (.evalshaRelease { request with userId } holdId)
  | evalRelease {request holdId userId} (h : request.Named) (hid : holdId ≠ "") :
      Alike zod (.evalRelease request holdId) (.evalRelease { request with userId } holdId)
  | releaseReply {request holdId result result' userId} (h : request.Named) (hid : holdId ≠ "") :
      Alike zod (.releaseReply request holdId result)
        (.releaseReply { request with userId } holdId result')
  | freeRow {request holdId userId} (h : request.Named) (hid : holdId ≠ "") :
      Alike zod (.freeRow request holdId) (.freeRow { request with userId } holdId)
  | publishReleased {request holdId userId} (h : request.Named) (hid : holdId ≠ "") :
      Alike zod (.publishReleased request holdId) (.publishReleased { request with userId } holdId)
  | readMessage {m m'} (h : MessageAlike m m') : Alike zod (.readMessage m) (.readMessage m')
  | findBooking {m m' payload userId} (hm : m.id = m'.id) (h : payload.Named) :
      Alike zod (.findBooking m payload) (.findBooking m' { payload with userId })
  | sellRow {m m' payload userId} (hm : m.id = m'.id) (h : payload.Named) :
      Alike zod (.sellRow m payload) (.sellRow m' { payload with userId })
  | bookRow {m m' payload userId} (hm : m.id = m'.id) (h : payload.Named) :
      Alike zod (.bookRow m payload) (.bookRow m' { payload with userId })
  | commitBooking {m m' payload userId} (hm : m.id = m'.id) (h : payload.Named) :
      Alike zod (.commitBooking m payload) (.commitBooking m' { payload with userId })
  | publishBooked {m m' payload userId} (hm : m.id = m'.id) (h : payload.Named) :
      Alike zod (.publishBooked m payload) (.publishBooked m' { payload with userId })
  | acknowledge {m m' payload userId} (hm : m.id = m'.id) (h : payload.Named) :
      Alike zod (.acknowledge m payload) (.acknowledge m' { payload with userId })
  | read {mode claimed claimed'} (h : List.Forall₂ MessageAlike claimed claimed') :
      Alike zod (.read mode claimed) (.read mode claimed')

/-- Two frames alike, unless one of the two calls is over: then no command of the thread is in
both runs. -/
def Frame.Parallel (zod : Zod) (f f' : Frame) : Prop :=
  f.Alike zod f' ∨ f.answered = true ∨ f'.answered = true

abbrev World.Alike (zod : Zod) : World → World → Prop :=
  Threaded.Related (Store.Alike zod) (Frame.Parallel zod)

/-- What a command comes to on both sides: stores alike and frames in parallel, or nothing. -/
abbrev MoveAlike (zod : Zod) : Option (Store × Frame) → Option (Store × Frame) → Prop :=
  Option.Rel fun p q => p.1.Alike zod q.1 ∧ p.2.Parallel zod q.2

def Choice.named : Choice → Bool
  | .ok id => id ≠ ""
  | .fail _ => true

/-- The event of a publish: its fresh identifier and the time of the clock. -/
def Choice.stamped (zod : Zod) (s : Store) : Choice → Bool
  | .ok id => zod.uuid id && zod.reads s.redis.now
  | .fail _ => true

/-- The identifiers a command draws and the times it prints pass the checks. -/
def Frame.writes (zod : Zod) (s : Store) (c : Choice) : Frame → Bool
  | .findEvent _ _ | .createRow _ _ => c.named
  | .holdReply _ _ _ result =>
    result ≠ 1 || zod.reads (dateOf (s.redis.now + holdTtl * 1000))
  | .publishHold _ | .publishHeld _ | .publishReleased _ _ | .publishBooked _ _ => c.stamped zod s
  | _ => true

def Label.writes (zod : Zod) (world : World) : Label → Bool
  | .act t c => (world.point t).writes zod world.shared c
  | _ => true

end TicketEngine
