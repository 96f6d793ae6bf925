import TicketEngine.Types.Events
import Mathlib.Algebra.Group.Nat.Defs

namespace TicketEngine

/-- A stream entry as the worker sees it; `fields` keeps the pairs in text order. -/
structure RedisStreamMessage where
  id : Nat
  fields : List (String × String)

/-- An id as Redis prints it. -/
def idText (id : Nat) : String :=
  String.ofList (Nat.toDigits 10 (id / 2 ^ 64) ++ '-' :: Nat.toDigits 10 (id % 2 ^ 64))

/-- What makes `processMessage` throw. -/
inductive WorkerError
  | unsupported (id : Nat)
  | missingPayload (id : Nat)
  | syntaxError
  | nullPayload
  | invalidPayload (id : Nat)
  | orderNotFound (holdId : String)
  | seatNotHeld (orderId : String)
  | service (message : String)
  deriving DecidableEq

def WorkerError.message : WorkerError → String
  | .unsupported id => "Unsupported order event: " ++ idText id
  | .missingPayload id => "Missing order event payload: " ++ idText id
  | .syntaxError => "SyntaxError"
  | .nullPayload => "TypeError"
  | .invalidPayload id => "Invalid order event payload: " ++ idText id
  | .orderNotFound holdId => "Order not found for hold: " ++ holdId
  | .seatNotHeld orderId => "Held seat was not available for order: " ++ orderId
  | .service message => message

def pairUp : List String → List (String × String)
  | key :: value :: rest => (key, value) :: pairUp rest
  | _ => []

def toMessage (raw : Nat × List String) : RedisStreamMessage := ⟨raw.1, pairUp raw.2⟩

/-- A later pair of the same name overwrites an earlier one. -/
def fieldOf (key : String) : List (String × String) → Option String
  | [] => none
  | (k, v) :: rest =>
    match fieldOf key rest with
    | some w => some w
    | none => if k = key then some v else none

def RedisStreamMessage.field (message : RedisStreamMessage) (key : String) : Option String :=
  fieldOf key message.fields

def parsePayload (message : RedisStreamMessage) : Except WorkerError OrderCreatedEventPayload :=
  match message.field "payload" with
  | none => .error (.missingPayload message.id)
  | some rawPayload =>
    match Json.parse rawPayload with
    | none => .error .syntaxError
    | some .null => .error .nullPayload
    | some payload =>
      match Json.string? (payload.get? "holdId"), Json.string? (payload.get? "orderId"),
        Json.string? (payload.get? "eventId"), Json.string? (payload.get? "seatId"),
        Json.string? (payload.get? "userId"), Json.string? (payload.get? "expiresAt") with
      | some holdId, some orderId, some eventId, some seatId, some userId, some expiresAt =>
        .ok { holdId, orderId, eventId, seatId, userId, expiresAt }
      | _, _, _, _, _, _ => .error (.invalidPayload message.id)

/-- The checks of `processMessage` before it settles the order. -/
def readEvent (message : RedisStreamMessage) : Except WorkerError OrderCreatedEventPayload :=
  if message.field "eventType" ≠ some ORDER_EVENT_TYPE ∨ message.field "schemaVersion" ≠ some "1"
  then .error (.unsupported message.id)
  else parsePayload message

theorem parsePayload_stringify {message : RedisStreamMessage} {p : OrderCreatedEventPayload}
    (h : message.field "payload" = some (Json.stringify p.toJson)) :
    parsePayload message = .ok p := by
  simp only [parsePayload, h, Json.parse_stringify, OrderCreatedEventPayload.toJson]
  rfl

/-- A worker reads back the payload that `createOrder` appended. -/
theorem readEvent_fields (id : Nat) {event : OrderCreatedEvent}
    (htype : event.eventType = ORDER_EVENT_TYPE)
    (hversion : event.schemaVersion = ORDER_EVENT_SCHEMA_VERSION) :
    readEvent (toMessage (id, event.fields)) = .ok event.payload := by
  have hpairs : (toMessage (id, event.fields)).fields =
      [("eventId", event.eventId), ("eventType", event.eventType),
        ("schemaVersion", String.ofList (Nat.toDigits 10 event.schemaVersion)),
        ("occurredAt", event.occurredAt), ("payload", Json.stringify event.payload.toJson)] := rfl
  have hfield (key : String) : (toMessage (id, event.fields)).field key = fieldOf key _ :=
    congrArg (fieldOf key) hpairs
  have hv : String.ofList (Nat.toDigits 10 ORDER_EVENT_SCHEMA_VERSION) = "1" := by decide +kernel
  rw [readEvent, if_neg, parsePayload_stringify]
  · rw [hfield]; simp [fieldOf]
  · rw [hfield, hfield, htype, hversion, hv]
    simp [fieldOf]

end TicketEngine
