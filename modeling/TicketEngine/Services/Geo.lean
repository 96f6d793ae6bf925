import TicketEngine.Framework.Json
import TicketEngine.Scripts.Lua
import TicketEngine.Types.Ticket

namespace TicketEngine

/-! ## Numbers from text -/

/-- The exponent part at the end of a decimal literal. -/
def exponentPart : List Char → Option Int
  | [] => some 0
  | c :: rest =>
    if c = 'e' ∨ c = 'E' then
      match Json.parseExponent rest with
      | some (exponent, []) => some exponent
      | _ => none
    else none

/-- Digits, with or without a fraction and an exponent. -/
def decimalLiteral (cs : List Char) : Option ℚ :=
  let (ints, rest) := Json.spanDigits cs
  let (fracs, rest) := match rest with
    | '.' :: tail => Json.spanDigits tail
    | _ => ([], rest)
  if ints = [] ∧ fracs = [] then none
  else
    (exponentPart rest).map fun exponent =>
      (Json.digitsValue (ints ++ fracs) : ℚ) * (10 : ℚ) ^ (exponent - (fracs.length : Int))

def radixDigit (radix : Nat) (c : Char) : Option Nat :=
  (Json.hexValue c).filter (· < radix)

def radixLiteral (radix : Nat) (cs : List Char) : Option ℚ :=
  if cs = [] then none
  else
    (cs.mapM (radixDigit radix)).map fun ds =>
      ((ds.foldl (fun value d => value * radix + d) 0 : Nat) : ℚ)

def unsignedLiteral (cs : List Char) : JsNumber :=
  if cs = "Infinity".toList then .notFinite
  else
    match decimalLiteral cs with
    | some q => toDouble q
    | none => .notFinite

def negate : JsNumber → JsNumber
  | .notFinite => .notFinite
  | .finite q => .finite (-q)

def literalOr (q : Option ℚ) : JsNumber :=
  match q with
  | some q => toDouble q
  | none => .notFinite

/-- `Number(text)`: NaN and the infinities are not finite. -/
def Number (text : String) : JsNumber :=
  match (trim text).toList with
  | [] => .finite 0
  | '0' :: c :: rest =>
    if c = 'x' ∨ c = 'X' then literalOr (radixLiteral 16 rest)
    else if c = 'o' ∨ c = 'O' then literalOr (radixLiteral 8 rest)
    else if c = 'b' ∨ c = 'B' then literalOr (radixLiteral 2 rest)
    else unsignedLiteral ('0' :: c :: rest)
  | '-' :: rest => negate (unsignedLiteral rest)
  | '+' :: rest => unsignedLiteral rest
  | cs => unsignedLiteral cs

example : Number " 0x1F " = .finite 31 ∧ Number "-2.5e1" = .finite (-25) ∧
    Number "" = .finite 0 ∧ Number "1e400" = .notFinite ∧ Number "12km" = .notFinite := by
  decide +kernel

/-! ## Venues and events -/

/-- A venue row; DECIMAL(9,6) degrees are whole millionths. -/
structure Venue where
  id : String
  name : String
  latitude : Int
  longitude : Int
  latitude_bound : |latitude| ≤ 90000000
  longitude_bound : |longitude| ≤ 180000000
  deriving DecidableEq

/-- The venue table under its primary key. -/
structure VenueTable where
  rows : List Venue
  keyed : (rows.map Venue.id).Nodup

def VenueTable.find (table : VenueTable) (id : String) : Option Venue :=
  table.rows.find? fun venue => venue.id = id

structure Event where
  id : String
  name : String
  startsAt : Int
  venueId : Option String
  isActive : Bool
  deriving DecidableEq

/-- The event table under its primary key. `findMany` asks for no order, so the rows stand in
whatever order the database returns them. -/
structure EventTable where
  rows : List Event
  keyed : (rows.map Event.id).Nodup

/-- `Number(value)` of a DECIMAL(9,6). -/
def degrees (millionths : Int) : JsNumber := toDouble (millionths / 1000000)

/-! ## The index `venues:geo` -/

/-- The members of the sorted set, each at its geohash. -/
abbrev GeoIndex (Cell : Type) := String → Option Cell

/-- The latitudes that GEOADD takes: at most 85.05112878 degrees either way. -/
def Venue.Indexable (venue : Venue) : Prop := |venue.latitude| * 100 ≤ 8505112878

instance (venue : Venue) : Decidable venue.Indexable := inferInstanceAs (Decidable (_ ≤ _))

section Sync

variable {Cell : Type} (geohash : Int → Int → Cell)

/-- The cell of a venue's coordinates; none beyond the latitudes that have one. -/
def cellOf (venue : Venue) : Option Cell :=
  if venue.Indexable then some (geohash venue.longitude venue.latitude) else none

/-- `GEOADD venues:geo longitude latitude id`, with its reply. -/
def geoadd (index : GeoIndex Cell) (venue : Venue) : GeoIndex Cell × Except String Nat :=
  match cellOf geohash venue with
  | none => (index, .error "ERR invalid longitude,latitude pair")
  | some cell =>
    (Function.update index venue.id (some cell), .ok (if (index venue.id).isNone then 1 else 0))

/-- `pipeline.exec`: one reply for each command, and no error of its own. -/
def execGeoadds (index : GeoIndex Cell) : List Venue → GeoIndex Cell × List (Except String Nat)
  | [] => (index, [])
  | venue :: venues =>
    let (index, reply) := geoadd geohash index venue
    let (index, replies) := execGeoadds index venues
    (index, reply :: replies)

/-- The index after the call, and the number it resolves to. -/
def syncVenuesToGeoIndex (table : VenueTable) (index : GeoIndex Cell) : GeoIndex Cell × Nat :=
  let venues := table.rows
  if venues.length = 0 then (index, 0)
  else ((execGeoadds geohash index venues).1, venues.length)

end Sync

/-! ## The search -/

def MAX_SEARCH_LIMIT : Nat := 100
def MAX_RADIUS_KM : Nat := 500

structure NearbyEventSearchQuery where
  lat : JsNumber
  lng : JsNumber
  radiusKm : JsNumber
  limit : JsNumber
  deriving DecidableEq

/-- `Number.isFinite(n)`, and the number lies in the interval. -/
def JsNumber.within (n : JsNumber) (allowed : ℚ → Bool) : Bool :=
  match n with
  | .notFinite => false
  | .finite value => allowed value

def validateSearchQuery (query : NearbyEventSearchQuery) : Except ServiceError Unit :=
  if query.lat.within (fun lat => -90 ≤ lat ∧ lat ≤ 90) = false then
    .error (.badRequest "lat must be between -90 and 90")
  else if query.lng.within (fun lng => -180 ≤ lng ∧ lng ≤ 180) = false then
    .error (.badRequest "lng must be between -180 and 180")
  else if query.radiusKm.within (fun km => 0 < km ∧ km ≤ MAX_RADIUS_KM) = false then
    .error (.badRequest "radiusKm must be greater than 0 and no more than 500")
  else if query.limit.within (fun limit => limit.den = 1 ∧ 1 ≤ limit ∧ limit ≤ MAX_SEARCH_LIMIT)
      = false then
    .error (.badRequest "limit must be an integer between 1 and 100")
  else .ok ()

/-- A reply of Redis as ioredis returns it. -/
inductive RedisReply
  | nil
  | integer (n : Int)
  | bulk (text : String)
  | array (elems : List RedisReply)

namespace RedisReply

def elems? : RedisReply → Option (List RedisReply)
  | .array elems => some elems
  | _ => none

end RedisReply

structure GeoVenueDistance where
  venueId : String
  distanceKm : ℚ
  deriving DecidableEq

/-- A member and its distance, when both are strings and the distance is a finite number. -/
def geoEntry : Option RedisReply → Option RedisReply → Option GeoVenueDistance
  | some (.bulk venueId), some (.bulk distance) =>
    match Number distance with
    | .finite distanceKm => some { venueId, distanceKm }
    | .notFinite => none
  | _, _ => none

/-- One element of the nested reply. -/
def nestedEntry : RedisReply → Option GeoVenueDistance
  | .array result => geoEntry result[0]? result[1]?
  | _ => none

/-- The flat reply, two elements at a time. -/
def flatEntries : List RedisReply → List GeoVenueDistance
  | venueId :: distance :: rest =>
    (geoEntry (some venueId) (some distance)).toList ++ flatEntries rest
  | _ => []

def parseGeoResults : RedisReply → List GeoVenueDistance
  | .array rawResults =>
    if rawResults.all fun result => result.elems?.isSome then rawResults.filterMap nestedEntry
    else flatEntries rawResults
  | _ => []

/-- `new Map(entries).get(key)`: a later entry of the same key has replaced an earlier one. -/
def mapGet (key : String) : List GeoVenueDistance → Option ℚ
  | [] => none
  | entry :: entries =>
    match mapGet key entries with
    | some distance => some distance
    | none => if entry.venueId = key then some entry.distanceKm else none

structure NearbyVenue where
  id : String
  name : String
  latitude : JsNumber
  longitude : JsNumber
  deriving DecidableEq

structure NearbyEventResult where
  eventId : String
  name : String
  startsAt : Int
  venue : NearbyVenue
  distanceKm : ℚ
  deriving DecidableEq

/-- The `where` of the query: an active event at one of the venues, not in the past. -/
def Event.selected (event : Event) (venueIds : List String) (now : Int) : Bool :=
  (match event.venueId with
    | some venueId => decide (venueId ∈ venueIds)
    | none => false) && event.isActive && decide (now ≤ event.startsAt)

/-- `findMany` over the events, with the venue of each. -/
def findEvents (venues : VenueTable) (events : EventTable) (venueIds : List String) (now : Int) :
    List (Event × Option Venue) :=
  (events.rows.filter fun event => event.selected venueIds now).map fun event =>
    (event, event.venueId.bind venues.find)

/-- `left - right <= 0`; a missing distance is Infinity, and NaN counts as zero. -/
def distanceLe : Option ℚ → Option ℚ → Bool
  | some left, some right => left - right ≤ 0
  | some _, none => true
  | none, some _ => false
  | none, none => true

/-- The events of a `findMany` reply as results: filtered, sorted and cut. -/
def nearbyResults (nearbyVenues : List GeoVenueDistance) (limit : Nat)
    (events : List (Event × Option Venue)) : List NearbyEventResult :=
  let distanceOf (event : Event) : Option ℚ := mapGet (event.venueId.getD "") nearbyVenues
  let found := events.filterMap fun (event, venue) => venue.map fun venue => (event, venue)
  let sorted := found.mergeSort fun left right =>
    distanceLe (distanceOf left.1) (distanceOf right.1)
  (sorted.take limit).map fun (event, venue) =>
    { eventId := event.id, name := event.name, startsAt := event.startsAt,
      venue :=
        { id := venue.id, name := venue.name, latitude := degrees venue.latitude,
          longitude := degrees venue.longitude },
      distanceKm := (distanceOf event).getD 0 }

/-- The value of a number that `validateSearchQuery` has let through as a limit. -/
def JsNumber.toNat : JsNumber → Nat
  | .notFinite => 0
  | .finite value => value.num.toNat

/-- The arguments of GEOSEARCH that depend on the query. -/
structure GeoSearchArgs where
  longitude : JsNumber
  latitude : JsNumber
  radiusKm : JsNumber
  count : Nat
  deriving DecidableEq

def geoSearchArgs (query : NearbyEventSearchQuery) : GeoSearchArgs where
  longitude := query.lng
  latitude := query.lat
  radiusKm := query.radiusKm
  count := min (query.limit.toNat * 4) MAX_SEARCH_LIMIT

/-- `geosearch` answers the command to Redis, `database` the query; either may fail. -/
def searchNearbyEvents (geosearch : GeoSearchArgs → Except String RedisReply)
    (database : Except String (VenueTable × EventTable)) (now : Int)
    (query : NearbyEventSearchQuery) : Except ServiceError (List NearbyEventResult) :=
  match validateSearchQuery query with
  | .error e => .error e
  | .ok () =>
    match geosearch (geoSearchArgs query) with
    | .error message => .error (.other message)
    | .ok rawResults =>
      let nearbyVenues := parseGeoResults rawResults
      if nearbyVenues.length = 0 then .ok []
      else
        match database with
        | .error message => .error (.other message)
        | .ok (venues, events) =>
          let found := findEvents venues events (nearbyVenues.map (·.venueId)) now
          .ok (nearbyResults nearbyVenues query.limit.toNat found)

end TicketEngine
