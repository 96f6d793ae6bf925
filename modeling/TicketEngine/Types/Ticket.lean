import Mathlib.Data.List.Basic

namespace TicketEngine

inductive SeatState
  | AVAILABLE
  | HELD
  | SOLD
  deriving DecidableEq

/-- A client body: a member that is missing or not a string is `none`. -/
structure PartialHoldSeatRequest where
  eventId : Option String
  seatId : Option String
  userId : Option String

structure HoldSeatRequest where
  eventId : String
  seatId : String
  userId : String
  deriving DecidableEq

structure SeatHoldRecord where
  holdId : String
  eventId : String
  seatId : String
  userId : String
  status : SeatState
  expiresAt : String
  deriving DecidableEq

inductive HoldSeatResponse
  | success (data : SeatHoldRecord)
  | fail (message : String)
  deriving DecidableEq

structure CreateOrderResponse where
  orderId : String
  deriving DecidableEq

structure ReleaseSeatResponse where
  eventId : String
  seatId : String
  holdId : String
  deriving DecidableEq

/-- The errors a service call rejects with: three domain errors and whatever else a client or
driver throws. -/
inductive ServiceError
  | badRequest (message : String)
  | notFound (message : String)
  | conflict (message : String)
  | other (message : String)
  deriving DecidableEq

/-- The characters `String.prototype.trim` removes. -/
def isTrimmable (c : Char) : Bool :=
  c.toNat ∈ [9, 10, 11, 12, 13, 32, 160, 5760, 8192, 8193, 8194, 8195, 8196, 8197, 8198, 8199,
    8200, 8201, 8202, 8232, 8233, 8239, 8287, 12288, 65279]

def trim (text : String) : String :=
  String.ofList (((text.toList.dropWhile isTrimmable).reverse.dropWhile isTrimmable).reverse)

def normalizeHoldRequest (payload : PartialHoldSeatRequest) : Except ServiceError HoldSeatRequest :=
  let eventId := (payload.eventId.map trim).getD ""
  let seatId := (payload.seatId.map trim).getD ""
  let userId := (payload.userId.map trim).getD ""
  if eventId = "" ∨ seatId = "" ∨ userId = "" then
    .error (.badRequest "eventId, seatId, and userId are required")
  else .ok { eventId, seatId, userId }

end TicketEngine
