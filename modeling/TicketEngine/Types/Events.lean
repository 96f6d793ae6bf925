import TicketEngine.Framework.JsonRoundTrip

namespace TicketEngine

def padded (width n : Nat) : List Char :=
  let ds := Nat.toDigits 10 n
  List.replicate (width - ds.length) '0' ++ ds

/-- Year, month and day of a day number, day 0 being 1970-01-01. -/
def civilDate (days : Int) : Int × Nat × Nat :=
  let z := days + 719468
  let era := z / 146097
  let doe := (z % 146097).toNat
  let yoe := (doe - doe / 1460 + doe / 36524 - doe / 146096) / 365
  let doy := doe - (365 * yoe + yoe / 4 - yoe / 100)
  let mp := (5 * doy + 2) / 153
  let day := doy - (153 * mp + 2) / 5 + 1
  let month := if mp < 10 then mp + 3 else mp - 9
  let year := era * 400 + yoe
  (if month ≤ 2 then year + 1 else year, month, day)

def yearText (year : Int) : List Char :=
  if 0 ≤ year ∧ year ≤ 9999 then padded 4 year.toNat
  else (if year < 0 then '-' else '+') :: padded 6 year.natAbs

/-- `Date.prototype.toISOString` of a time in milliseconds. -/
def toISOString (ms : Int) : String :=
  let (year, month, day) := civilDate (ms / 86400000)
  let rest := (ms % 86400000).toNat
  String.ofList (yearText year ++ '-' :: padded 2 month ++ '-' :: padded 2 day ++
    'T' :: padded 2 (rest / 3600000) ++ ':' :: padded 2 (rest / 60000 % 60) ++
    ':' :: padded 2 (rest / 1000 % 60) ++ '.' :: padded 3 (rest % 1000) ++ ['Z'])

example : toISOString 951825599999 = "2000-02-29T11:59:59.999Z" := by decide +kernel

/-! ## Order events -/

def ORDER_EVENT_TYPE : String := "order.created"
def ORDER_EVENT_SCHEMA_VERSION : Nat := 1

structure OrderCreatedEventPayload where
  holdId : String
  orderId : String
  eventId : String
  seatId : String
  userId : String
  expiresAt : String
  deriving DecidableEq

def OrderCreatedEventPayload.toJson (p : OrderCreatedEventPayload) : Json :=
  .obj [("holdId", .str p.holdId), ("orderId", .str p.orderId), ("eventId", .str p.eventId),
    ("seatId", .str p.seatId), ("userId", .str p.userId), ("expiresAt", .str p.expiresAt)]

structure OrderCreatedEvent where
  eventId : String
  eventType : String
  schemaVersion : Nat
  occurredAt : String
  payload : OrderCreatedEventPayload

/-- The field list `createOrder` passes to XADD. -/
def OrderCreatedEvent.fields (event : OrderCreatedEvent) : List String :=
  ["eventId", event.eventId, "eventType", event.eventType,
    "schemaVersion", String.ofList (Nat.toDigits 10 event.schemaVersion),
    "occurredAt", event.occurredAt, "payload", Json.stringify event.payload.toJson]

def WEBSOCKET_SEAT_EVENT_SCHEMA_VERSION : Nat := 1

inductive SeatEventPayload
  | held (eventId seatId holdId expiresAt : String) (userId : Option String)
  | booked (eventId seatId orderId : String)
  | released (eventId seatId holdId reason : String)
  deriving DecidableEq

def SeatEventPayload.eventType : SeatEventPayload → String
  | .held .. => "seat.held"
  | .booked .. => "seat.booked"
  | .released .. => "seat.released"

structure WebSocketSeatEvent where
  eventId : String
  schemaVersion : Nat
  occurredAt : String
  correlationId : String
  payload : SeatEventPayload
  deriving DecidableEq

end TicketEngine
