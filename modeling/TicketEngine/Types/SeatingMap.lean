import TicketEngine.Types.Events
import TicketEngine.Types.Ticket
import Mathlib.Data.List.Sort

namespace TicketEngine

def SeatState.text : SeatState → String
  | .AVAILABLE => "AVAILABLE"
  | .HELD => "HELD"
  | .SOLD => "SOLD"

structure SeatingMapSeat where
  id : String
  section_ : String
  row : String
  number : String
  status : SeatState
  deriving DecidableEq

def SeatingMapSeat.toJson (seat : SeatingMapSeat) : Json :=
  .obj [("id", .str seat.id), ("section", .str seat.section_), ("row", .str seat.row),
    ("number", .str seat.number), ("status", .str seat.status.text)]

structure SeatingMap where
  eventId : String
  eventName : String
  startsAt : String
  seats : List SeatingMapSeat
  deriving DecidableEq

def SeatingMap.toJson (map : SeatingMap) : Json :=
  .obj [("eventId", .str map.eventId), ("eventName", .str map.eventName),
    ("startsAt", .str map.startsAt), ("seats", .arr (map.seats.map SeatingMapSeat.toJson))]

inductive SeatingMapMode
  | direct
  | redisProtected
  deriving DecidableEq

structure SeatingMapExecutionMeta where
  mode : SeatingMapMode
  cacheHit : Bool
  lockAcquired : Bool
  waitedForLock : Bool
  databaseLoaded : Bool
  durationMs : Nat
  deriving DecidableEq

/-- A map read from Redis is whatever JSON its key holds: the type is asserted, not checked. -/
structure SeatingMapResult where
  map : Json
  execution : SeatingMapExecutionMeta

/-- An event row with its seat rows, in no particular order. -/
structure EventRow where
  name : String
  startsAt : Int
  seats : List SeatingMapSeat
  deriving DecidableEq

/-- `orderBy: [{ section }, { row }, { number }]` under the collation of the database. -/
def SeatingMapSeat.before (collation : String → String → Bool) (a b : SeatingMapSeat) : Bool :=
  if a.section_ ≠ b.section_ then collation a.section_ b.section_
  else if a.row ≠ b.row then collation a.row b.row
  else collation a.number b.number

def EventRow.toMap (collation : String → String → Bool) (eventId : String) (event : EventRow) :
    SeatingMap where
  eventId := eventId
  eventName := event.name
  startsAt := toISOString event.startsAt
  seats := event.seats.insertionSort fun a b => SeatingMapSeat.before collation a b

end TicketEngine
