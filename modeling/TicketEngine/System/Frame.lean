import TicketEngine.System.Store
import TicketEngine.Workers.OrderMessage

namespace TicketEngine

inductive Caller
  | holdSeat
  | createOrder
  deriving DecidableEq

/-- The worker's loop, or one drain. -/
inductive Mode
  | startOrderConsumer
  | processAvailableOrderMessages
  deriving DecidableEq

/-- Where a thread stands: the command it sends next, with the variables that are still needed,
or the way its function has ended. -/
inductive Frame
  | idle
  -- holdSeat and createOrder up to the seat hold
  | findEvent (caller : Caller) (request : HoldSeatRequest)
  | evalshaHold (caller : Caller) (request : HoldSeatRequest) (holdId : String)
  | evalHold (caller : Caller) (request : HoldSeatRequest) (holdId : String)
  | holdReply (caller : Caller) (request : HoldSeatRequest) (holdId : String) (result : Int)
  -- holdSeat
  | publishHold (record : SeatHoldRecord)
  -- createOrder
  | lockSeat (request : HoldSeatRequest) (execution : SeatLockExecution)
  | createRow (request : HoldSeatRequest) (execution : SeatLockExecution)
  | commitOrder (order : Order)
  | publishHeld (order : Order)
  | appendEvent (order : Order)
  -- releaseSeat
  | findOrder (request : HoldSeatRequest) (holdId : String)
  | evalshaRelease (request : HoldSeatRequest) (holdId : String)
  | evalRelease (request : HoldSeatRequest) (holdId : String)
  | releaseReply (request : HoldSeatRequest) (holdId : String) (result : Int)
  | freeRow (request : HoldSeatRequest) (holdId : String)
  | publishReleased (request : HoldSeatRequest) (holdId : String)
  -- processMessage and settleOrder
  | readMessage (message : RedisStreamMessage)
  | findBooking (message : RedisStreamMessage) (payload : OrderCreatedEventPayload)
  | sellRow (message : RedisStreamMessage) (payload : OrderCreatedEventPayload)
  | bookRow (message : RedisStreamMessage) (payload : OrderCreatedEventPayload)
  | commitBooking (message : RedisStreamMessage) (payload : OrderCreatedEventPayload)
  | publishBooked (message : RedisStreamMessage) (payload : OrderCreatedEventPayload)
  | acknowledge (message : RedisStreamMessage) (payload : OrderCreatedEventPayload)
  -- the worker
  | createGroup (mode : Mode)
  | poll
  | claim (mode : Mode)
  | read (mode : Mode) (claimed : List RedisStreamMessage)
  | batch (mode : Mode) (count : Nat)
  -- ends
  | held (response : HoldSeatResponse)
  | ordered (response : CreateOrderResponse)
  | released (response : ReleaseSeatResponse)
  | rejected (error : ServiceError)
  | processed (id : Nat)
  | failed (id : Nat) (error : WorkerError)
  | drained (count : Nat)
  | stopped

end TicketEngine
