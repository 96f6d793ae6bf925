import TicketEngine.Controllers.Event
import TicketEngine.System.Engine

namespace TicketEngine

/-! ## Request bodies -/

/-- A `z.object` of strings: each member with the message of its `min(1)`. -/
abbrev TextShape := List (String × String)

/-- The messages of the validator that the schemas leave to it: for a body that is not an object,
and for a member that is not a string. -/
structure ZodTexts where
  body : Option Json → String
  member : String → Option Json → String

def TextShape.member (texts : ZodTexts) (fields : List (String × Json)) (key message : String) :
    Except String String :=
  match Json.lookup key fields with
  | some (.str text) => if text = "" then .error message else .ok text
  | value => .error (texts.member key value)

/-- The members of an object, up to the first that fails; a failed parse is given by the message
of its first issue. -/
def TextShape.members (texts : ZodTexts) (fields : List (String × Json)) :
    TextShape → Except String (List (String × String))
  | [] => .ok []
  | (key, message) :: shape =>
    match TextShape.member texts fields key message with
    | .error issue => .error issue
    | .ok text => (TextShape.members texts fields shape).map ((key, text) :: ·)

def TextShape.safeParse (texts : ZodTexts) (shape : TextShape) :
    Option Json → Except String (List (String × String))
  | some (.obj fields) => TextShape.members texts fields shape
  | body => .error (texts.body body)

/-- The routes under `/api/v1/tickets`. -/
inductive TicketRoute
  | hold
  | orders
  | release
  deriving DecidableEq

structure HttpResponse where
  status : Nat
  body : Json

def SeatHoldRecord.toJson (record : SeatHoldRecord) : Json :=
  .obj [("holdId", .str record.holdId), ("eventId", .str record.eventId),
    ("seatId", .str record.seatId), ("userId", .str record.userId), ("status", .str "HELD"),
    ("expiresAt", .str record.expiresAt)]

def HoldSeatResponse.statusCode : HoldSeatResponse → Nat
  | .success _ => 200
  | .fail _ => 409

def HoldSeatResponse.toJson (response : HoldSeatResponse) : Json :=
  let statusCode : String × Json := ("statusCode", .num response.statusCode 0)
  match response with
  | .success data => .obj [("status", .str "success"), statusCode, ("data", data.toJson)]
  | .fail message => .obj [("status", .str "fail"), statusCode, ("message", .str message)]

def CreateOrderResponse.toJson (response : CreateOrderResponse) : Json :=
  .obj [("orderId", .str response.orderId), ("status", .str "PROCESSING")]

def ReleaseSeatResponse.toJson (response : ReleaseSeatResponse) : Json :=
  .obj [("status", .str "released"), ("eventId", .str response.eventId),
    ("seatId", .str response.seatId), ("holdId", .str response.holdId)]

def ErrorBody.toJson (error : ErrorBody) : Json :=
  .obj [("status", .str error.status), ("statusCode", .num error.statusCode 0),
    ("message", .str error.message)]

def ErrorBody.response (error : ErrorBody) : HttpResponse := ⟨error.statusCode, error.toJson⟩

/-- The answer of a call that has ended. -/
def Frame.response (production : Bool) : Frame → Option HttpResponse
  | .held response => some ⟨response.statusCode, response.toJson⟩
  | .ordered response => some ⟨202, response.toJson⟩
  | .released response => some ⟨200, response.toJson⟩
  | .rejected error => some (errorHandler production error).response
  | _ => none

end TicketEngine
