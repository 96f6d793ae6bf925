import TicketEngine.Controllers.Ticket
import TicketEngine.Framework.Refinement
import TicketEngine.System.OrderEvents
import TicketEngine.System.Rejection

namespace TicketEngine

/-! ## What a call writes -/

/-- What a command of a service call leaves in the stores. -/
inductive CallWrite
  | grant (request : HoldSeatRequest) (holdId : String)
  | ungrant (request : HoldSeatRequest) (holdId : String)
  | place (order : Order)
  | free (eventId seatId : String)
  | announce (payload : SeatEventPayload)
  | append (order : Order)
  deriving DecidableEq

/-- The write that a script's reply reports. -/
def Frame.reported : Frame → Option CallWrite
  | .holdReply _ request holdId result =>
    if result = 1 then some (.grant request holdId) else none
  | .releaseReply request holdId result =>
    if result = 1 then some (.ungrant request holdId) else none
  | _ => none

/-- The write of a command that is answered without a report. -/
def Frame.written : Frame → Option CallWrite
  | .commitOrder order => some (.place order)
  | .freeRow request _ => some (.free request.eventId request.seatId)
  | .appendEvent order => some (.append order)
  | f => f.announces.map fun announced => .announce announced.1

section Made

variable {digests : ScriptDigests} {s : Store} {t : Thread} {c : Choice} {f : Frame}
  {r : Store × Frame}

end Made

/-! ## What an answer says -/

/-- The record that answers the request. -/
def RecordFor (request : HoldSeatRequest) (record : SeatHoldRecord) : Prop :=
  record.eventId = request.eventId ∧ record.seatId = request.seatId ∧
    record.userId = request.userId ∧ record.status = .HELD

/-- The announcement of a write, which may be lost. -/
def announcement (announced : Bool) (payload : SeatEventPayload) : List CallWrite :=
  if announced then [.announce payload] else []

def holdWrites (request : HoldSeatRequest) (record : SeatHoldRecord) (announced : Bool) :
    List CallWrite :=
  [.grant request record.holdId] ++
    announcement announced (.held record.eventId record.seatId record.holdId record.expiresAt
      (some record.userId))

def orderWrites (request : HoldSeatRequest) (order : Order) (announced : Bool) :
    List CallWrite :=
  [.grant request order.holdId, .place order] ++
    announcement announced (.held order.eventId order.seatId order.holdId
      (toISOString order.expiresAt) none)

def releaseWrites (request : HoldSeatRequest) (holdId : String) (announced : Bool) :
    List CallWrite :=
  [.ungrant request holdId, .free request.eventId request.seatId] ++
    announcement announced (.released request.eventId request.seatId holdId "released")

/-- A failure with one of the given statuses. -/
def Failed (statuses : List Nat) (response : HttpResponse) : Prop :=
  ∃ error : ErrorBody, error.statusCode ∈ statuses ∧ response = error.response

/-- What the answer of a route says of the writes of its request. -/
inductive Outcome (request : HoldSeatRequest) (holdId : String) :
    TicketRoute → HttpResponse → List CallWrite → Prop
  | held {record} (announced : Bool) (hrecord : RecordFor request record) :
      Outcome request holdId .hold ⟨200, (HoldSeatResponse.success record).toJson⟩
        (holdWrites request record announced)
  | not_held {response} (hfailed : Failed [400, 404, 409, 500] response) :
      Outcome request holdId .hold response []
  | ordered {order announced} (horder : OrderFor request order.holdId order) :
      Outcome request holdId .orders ⟨202, (CreateOrderResponse.mk order.id).toJson⟩
        (orderWrites request order announced ++ [.append order])
  | not_ordered {response} (hfailed : Failed [400, 404, 409, 500] response) :
      Outcome request holdId .orders response []
  | hold_left {response id} (hfailed : Failed [409, 500] response) :
      Outcome request holdId .orders response [.grant request id]
  | order_left {response order announced} (horder : OrderFor request order.holdId order)
      (hfailed : Failed [500] response) :
      Outcome request holdId .orders response (orderWrites request order announced)
  | released (announced : Bool) :
      Outcome request holdId .release
        ⟨200, (ReleaseSeatResponse.mk request.eventId request.seatId holdId).toJson⟩
        (releaseWrites request holdId announced)
  | not_released {response} (hfailed : Failed [400, 409, 500] response) :
      Outcome request holdId .release response []
  | row_left {response} (hfailed : Failed [500] response) :
      Outcome request holdId .release response [.ungrant request holdId]

/-! ## How far a request has come -/

def Caller.route : Caller → TicketRoute
  | .holdSeat => .hold
  | .createOrder => .orders

/-- A call from its request to its answer, with what it has written so far. -/
def Frame.Told (request : HoldSeatRequest) (holdId : String) (route : TicketRoute)
    (writes : List CallWrite) : Frame → Prop
  | .findEvent caller r | .evalshaHold caller r _ | .evalHold caller r _ =>
    caller.route = route ∧ r = request ∧ writes = []
  | .holdReply caller r id result =>
    caller.route = route ∧ r = request ∧
      writes = if result = 1 then [.grant request id] else []
  | .publishHold record =>
    route = .hold ∧ RecordFor request record ∧ writes = holdWrites request record false
  | .lockSeat r execution | .createRow r execution =>
    route = .orders ∧ r = request ∧ writes = [.grant request execution.holdId]
  | .commitOrder order =>
    route = .orders ∧ OrderFor request order.holdId order ∧
      writes = [.grant request order.holdId]
  | .publishHeld order =>
    route = .orders ∧ OrderFor request order.holdId order ∧
      writes = orderWrites request order false
  | .appendEvent order =>
    route = .orders ∧ OrderFor request order.holdId order ∧
      ∃ announced, writes = orderWrites request order announced
  | .findOrder r id | .evalshaRelease r id | .evalRelease r id =>
    route = .release ∧ r = request ∧ id = holdId ∧ writes = []
  | .releaseReply r id result =>
    route = .release ∧ r = request ∧ id = holdId ∧
      writes = if result = 1 then [.ungrant request holdId] else []
  | .freeRow r id =>
    route = .release ∧ r = request ∧ id = holdId ∧ writes = [.ungrant request holdId]
  | .publishReleased r id =>
    route = .release ∧ r = request ∧ id = holdId ∧
      writes = releaseWrites request holdId false
  | .held response =>
    Outcome request holdId route ⟨response.statusCode, response.toJson⟩ writes
  | .ordered response => Outcome request holdId route ⟨202, response.toJson⟩ writes
  | .released response => Outcome request holdId route ⟨200, response.toJson⟩ writes
  | .rejected error =>
    ∀ production, Outcome request holdId route (errorHandler production error).response writes
  | _ => False

section Told

variable {digests : ScriptDigests} {s : Store} {t : Thread} {c : Choice} {f : Frame}
  {r : Store × Frame} {request : HoldSeatRequest} {holdId : String} {route : TicketRoute}
  {writes : List CallWrite}

theorem Failed.mono {statuses more : List Nat} {response : HttpResponse}
    (h : Failed statuses response) (hmore : ∀ status ∈ statuses, status ∈ more) :
    Failed more response := by
  obtain ⟨error, hstatus, hresponse⟩ := h
  exact ⟨error, hmore _ hstatus, hresponse⟩

end Told

section Handler

variable {texts : ZodTexts} {digests : ScriptDigests} {world called : World} {n : Nat}
  {body : Option Json} {data : List (String × String)}

end Handler

section Exchange

variable {digests : ScriptDigests} {world world' : World} {l : Label} {n : Nat}
  {request : HoldSeatRequest} {holdId : String} {route : TicketRoute} {writes : List CallWrite}

end Exchange

end TicketEngine
