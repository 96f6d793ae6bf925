import TicketEngine.Services.Ticket

namespace TicketEngine

def CLAIM_IDLE_MS : Nat := 30000
def BATCH_SIZE : Nat := 10

/-! ## processMessage -/

def stepReadMessage (s : Store) (message : RedisStreamMessage) : Store × Frame :=
  match readEvent message with
  | .error e => (s, .failed message.id e)
  | .ok payload => (s, .findBooking message payload)

/-- The transaction of `settleOrder` begins with a look at the order. -/
def stepFindBooking (s : Store) (message : RedisStreamMessage)
    (payload : OrderCreatedEventPayload) : Choice → Store × Frame
  | .fail e => (s, .failed message.id (.service e))
  | .ok _ =>
    match s.orders.row payload.holdId with
    | none => (s, .failed message.id (.orderNotFound payload.holdId))
    | some existing =>
      if existing.status = .BOOKED then (s, .publishBooked message payload)
      else (s, .sellRow message payload)

def stepSellRow (s : Store) (t : Thread) (message : RedisStreamMessage)
    (payload : OrderCreatedEventPayload) : Choice → Option (Store × Frame)
  | .fail e => some (s, .failed message.id (.service e))
  | .ok _ =>
    (s.lockRow t payload.eventId payload.seatId .HELD).map fun (s, count) =>
      if count ≠ 1 then (s.abort t, .failed message.id (.seatNotHeld payload.orderId))
      else (s, .bookRow message payload)

/-- `order.update` in the transaction; the new status is visible after the commit. -/
def stepBookRow (s : Store) (t : Thread) (message : RedisStreamMessage)
    (payload : OrderCreatedEventPayload) : Choice → Store × Frame
  | .fail e => (s.abort t, .failed message.id (.service e))
  | .ok _ =>
    match s.orders.row payload.holdId with
    | none => (s.abort t, .failed message.id (.service "Record to update not found"))
    | some _ => (s, .commitBooking message payload)

def stepCommitBooking (s : Store) (t : Thread) (message : RedisStreamMessage)
    (payload : OrderCreatedEventPayload) : Choice → Store × Frame
  | .fail e => (s.abort t, .failed message.id (.service e))
  | .ok _ =>
    (s.bookOrder t payload.eventId payload.seatId payload.holdId, .publishBooked message payload)

def stepPublishBooked (s : Store) (t : Thread) (message : RedisStreamMessage)
    (payload : OrderCreatedEventPayload) (c : Choice) : Option (Store × Frame) :=
  let event := SeatEventPayload.booked payload.eventId payload.seatId payload.orderId
  (publishSeatEvent s t payload.orderId event c).map fun s => (s, .acknowledge message payload)

def stepAcknowledge (s : Store) (message : RedisStreamMessage) : Choice → Store × Frame
  | .fail e => (s, .failed message.id (.service e))
  | .ok _ => (s.setStream (s.stream.ack message.id), .processed message.id)

/-! ## The worker loop -/

/-- `initializeOrderConsumerGroup`: BUSYGROUP is no error. -/
def stepCreateGroup (s : Store) (mode : Mode) : Choice → Store × Frame
  | .fail _ => (s, .stopped)
  | .ok _ =>
    (s.setStream s.stream.createGroup,
      match mode with
      | .startOrderConsumer => .poll
      | .processAvailableOrderMessages => .claim mode)

def stepPoll (s : Store) (w : Nat) : Store × Frame :=
  if s.running w then (s, .claim .startOrderConsumer) else (s, .stopped)

def claimPendingMessages (s : Store) (w : Nat) : Option (Store × List RedisStreamMessage) :=
  (s.stream.autoclaim s.redis.now w CLAIM_IDLE_MS BATCH_SIZE).map fun (stream, entries) =>
    (s.setStream stream, entries.map toMessage)

def readMessages (s : Store) (w : Nat) : Option (Store × List RedisStreamMessage) :=
  (s.stream.read s.redis.now w BATCH_SIZE).map fun (stream, entries) =>
    (s.setStream stream, entries.map toMessage)

/-- A poll that fails ends the loop and clears its flag; NOGROUP is one such failure. -/
def stopWorker (s : Store) (w : Nat) (mode : Mode) : Store :=
  match mode with
  | .startOrderConsumer => { s with running := Function.update s.running w false }
  | .processAvailableOrderMessages => s

def stepClaim (s : Store) (w : Nat) (mode : Mode) : Choice → Store × Frame
  | .fail _ => (stopWorker s w mode, .stopped)
  | .ok _ =>
    match claimPendingMessages s w with
    | none => (stopWorker s w mode, .stopped)
    | some (s, messages) => (s, .read mode messages)

/-- The next batch: one task for each message, all started together. -/
def stepRead (s : Store) (w : Nat) (mode : Mode) (claimed : List RedisStreamMessage) :
    Choice → Store × Frame × List RedisStreamMessage
  | .fail _ => (stopWorker s w mode, .stopped, [])
  | .ok _ =>
    match readMessages s w with
    | none => (stopWorker s w mode, .stopped, [])
    | some (s, messages) =>
      let messages := claimed ++ messages
      match mode with
      | .startOrderConsumer =>
        if messages.isEmpty then (s, .poll, []) else (s, .batch mode messages.length, messages)
      | .processAvailableOrderMessages => (s, .batch mode messages.length, messages)

def Frame.ended : Frame → Bool
  | .processed _ => true
  | .failed _ _ => true
  | _ => false

def stepBatch (mode : Mode) (count : Nat) : Frame :=
  match mode with
  | .startOrderConsumer => .poll
  | .processAvailableOrderMessages => .drained count

end TicketEngine
