import TicketEngine.Framework.ConsumerGroup
import TicketEngine.Services.RedisLock
import TicketEngine.Types.Events
import TicketEngine.Types.Ticket

namespace TicketEngine

/-- Who runs: a service call on an API node, the loop of a worker process, or one of the
messages a worker processes at the same time. -/
inductive Thread
  | call (n : Nat)
  | worker (w : Nat)
  | task (w i : Nat)
  deriving DecidableEq

inductive OrderStatus
  | PROCESSING
  | BOOKED
  | FAILED
  deriving DecidableEq

structure Order where
  id : String
  holdId : String
  eventId : String
  seatId : String
  userId : String
  expiresAt : Int
  status : OrderStatus
  deriving DecidableEq

structure Seat where
  eventId : String
  status : SeatState
  deriving DecidableEq

/-- The order table under its unique column `holdId`. -/
structure OrderTable where
  row : String → Option Order
  keyed : ∀ {holdId : String} {o : Order}, row holdId = some o → o.holdId = holdId

namespace OrderTable

def empty : OrderTable := ⟨fun _ => none, fun h => nomatch h⟩

def insert (T : OrderTable) (o : Order) : OrderTable where
  row := Function.update T.row o.holdId (some o)
  keyed {holdId p} h := by
    by_cases hk : holdId = o.holdId
    · subst hk
      rw [Function.update_self] at h
      cases h
      rfl
    · rw [Function.update_of_ne hk] at h
      exact T.keyed h

def book (T : OrderTable) (holdId : String) : OrderTable where
  row := Function.update T.row holdId
    ((T.row holdId).map fun o => { o with status := .BOOKED })
  keyed {key p} h := by
    by_cases hk : key = holdId
    · subst hk
      rw [Function.update_self] at h
      obtain ⟨o, ho, rfl⟩ := Option.map_eq_some_iff.mp h
      exact (T.keyed ho : o.holdId = key)
    · rw [Function.update_of_ne hk] at h
      exact T.keyed h

end OrderTable

/-- Redis and PostgreSQL as the ticket services share them. `rowLock` is the open transaction
that has written a seat row; `drawn` records who drew each random identifier. -/
structure Store where
  redis : LockRedis
  stream : Stream (List String)
  channel : List WebSocketSeatEvent
  events : String → Bool
  seats : String → Option Seat
  orders : OrderTable
  rowLock : String → Option Thread
  drawn : String → Option Thread
  running : Nat → Bool

namespace Store

/-- A fresh random identifier. -/
def draw (s : Store) (t : Thread) (id : String) : Option Store :=
  if s.drawn id = none then some { s with drawn := Function.update s.drawn id (some t) } else none

/-- `seat.updateMany` inside a transaction, on the latest committed row. The count is 0 when the
filter does not match; a row that another transaction has written blocks the statement. -/
def lockRow (s : Store) (t : Thread) (eventId seatId : String) (status : SeatState) :
    Option (Store × Nat) :=
  if s.seats seatId = some ⟨eventId, status⟩ then
    if s.rowLock seatId = none then
      some ({ s with rowLock := Function.update s.rowLock seatId (some t) }, 1)
    else none
  else some (s, 0)

/-- The end of the transactions of some threads. -/
def unlock (s : Store) (ended : Thread → Bool) : Store :=
  { s with
    rowLock := fun seatId =>
      match s.rowLock seatId with
      | some t => if ended t then none else some t
      | none => none }

def abort (s : Store) (t : Thread) : Store := s.unlock (· = t)

/-- `seat.updateMany` as a statement of its own. -/
def freeRow (s : Store) (eventId seatId : String) : Option Store :=
  if s.seats seatId = some ⟨eventId, .HELD⟩ then
    if s.rowLock seatId = none then
      some { s with seats := Function.update s.seats seatId (some ⟨eventId, .AVAILABLE⟩) }
    else none
  else some s

/-- The commit of `createOrder`. -/
def placeOrder (s : Store) (t : Thread) (o : Order) : Store :=
  { s with
    seats := Function.update s.seats o.seatId (some ⟨o.eventId, .HELD⟩)
    orders := s.orders.insert o }.abort t

/-- The commit of `settleOrder`. -/
def bookOrder (s : Store) (t : Thread) (eventId seatId holdId : String) : Store :=
  { s with
    seats := Function.update s.seats seatId (some ⟨eventId, .SOLD⟩)
    orders := s.orders.book holdId }.abort t

def publish (s : Store) (event : WebSocketSeatEvent) : Store :=
  { s with channel := s.channel ++ [event] }

def setRedis (s : Store) (redis : LockRedis) : Store := { s with redis }

def setStream (s : Store) (stream : Stream (List String)) : Store := { s with stream }

end Store

end TicketEngine
