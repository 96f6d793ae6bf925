import TicketEngine.Framework.Outline
import TicketEngine.Scripts.Lua
import TicketEngine.Types.SeatingMap

namespace TicketEngine

def CACHE_TTL_SECONDS : Nat := 60
def LOCK_TTL_MS : Nat := 5000
def WAIT_ATTEMPTS : Nat := 8
def WAIT_DELAY_MS : Nat := 25

def seatingMapCacheKey (eventId : String) : String := "event:seating-map:" ++ eventId
def lockKey (eventId : String) : String := "lock:event:seating-map:" ++ eventId

/-- What every API node has at hand: the registered script digests, the collation under which the
database sorts text, and the message of the `SyntaxError` that `JSON.parse` throws at a text, which
is no error of Redis. -/
structure MapEnv where
  digests : ScriptDigests
  collation : String → String → Bool
  syntaxError : String → String
  syntaxError_ne : ∀ text, syntaxError text ≠ RedisError.noscript.message

/-- Redis and the event table as the seating map service sees them. The last four fields record
the run: who drew each token, how often protected calls have loaded an event, which of these
loads each cache SET wrote (newest first), and which call took an event's mutex last. -/
structure MapStore where
  now : Nat
  keys : String → Option (Lease String)
  cached : LuaScriptName → Bool
  events : String → Option EventRow
  drawn : String → Option Nat
  loads : String → Nat
  writes : String → List Nat
  acquirer : String → Option Nat

/-- One call: its event and the time it started. -/
structure MapCall where
  eventId : String
  startedAt : Nat
  deriving DecidableEq

/-- The token a call holds the mutex with, and the time it took it. -/
structure MutexHold where
  token : String
  since : Nat
  deriving DecidableEq

/-- The value a call resolves with, or the message of the error it rejects with. -/
abbrev MapOutcome := Except String SeatingMapResult

/-- Where the owner of the mutex stands inside its `try`; `release` is the `finally`. A loaded
map carries the number of the load. -/
inductive OwnerPoint
  | readCache
  | loadFromDatabase
  | store (map : SeatingMap) (load : Nat)
  | release (outcome : MapOutcome)

/-- Where a call stands: the command it sends next, or its end. A waiting call carries the time
at which it failed to take the mutex. -/
inductive MapFrame
  | idle
  | getSeatingMapDirect (call : MapCall)
  | readCache (call : MapCall)
  | acquireMutex (call : MapCall)
  | owner (call : MapCall) (hold : MutexHold) (point : OwnerPoint)
  | sleep (call : MapCall) (failedAt attempt wake : Nat)
  | waitRead (call : MapCall) (failedAt attempt : Nat)
  | ended (eventId : String) (outcome : MapOutcome)

/-- The stores and the frame of every call. -/
abbrev MapWorld := Threaded MapStore Nat MapFrame

/-- SET NX PX on the mutex key: the token when it was taken. -/
def acquireMutex (now : Nat) (cell : Option (Lease String)) (token : String) :
    Option (Lease String) × Option String :=
  match Lease.read now cell with
  | none => (some ⟨token, now + LOCK_TTL_MS⟩, some token)
  | some _ => (cell, none)

namespace MapStore

def setKey (s : MapStore) (key : String) (cell : Option (Lease String)) : MapStore :=
  { s with keys := Function.update s.keys key cell }

/-- A fresh random token. -/
def draw (s : MapStore) (n : Nat) (token : String) : Option MapStore :=
  if s.drawn token = none then
    some { s with drawn := Function.update s.drawn token (some n) }
  else none

/-- The effect of a SET NX PX that takes the mutex. -/
def takeMutex (s : MapStore) (n : Nat) (eventId : String) (cell : Option (Lease String)) :
    MapStore :=
  { s.setKey (lockKey eventId) cell with
    acquirer := Function.update s.acquirer eventId (some n) }

def countLoad (s : MapStore) (eventId : String) : MapStore :=
  { s with loads := Function.update s.loads eventId (s.loads eventId + 1) }

/-- SET EX of a loaded map. -/
def cacheMap (s : MapStore) (eventId : String) (map : SeatingMap) (load : Nat) : MapStore :=
  { s.setKey (seatingMapCacheKey eventId)
      (some ⟨Json.stringify map.toJson, s.now + CACHE_TTL_SECONDS * 1000⟩) with
    writes := Function.update s.writes eventId (load :: s.writes eventId) }

/-- EVALSHA of the release script; there is no way back from NOSCRIPT. -/
def releaseMutex (env : MapEnv) (s : MapStore) (key token : String) :
    Except RedisError MapStore :=
  match getLuaScriptDigest env.digests .releaseMutex with
  | .error e => .error e
  | .ok script =>
    if s.cached script then .ok (s.setKey key (release_mutex s.now (s.keys key) token).1)
    else .error .noscript

/-- GET and `JSON.parse`. The text `null` parses to null and reads as a miss. -/
def readCachedMap (env : MapEnv) (s : MapStore) (key : String) : Except String (Option Json) :=
  match Lease.read s.now (s.keys key) with
  | none => .ok none
  | some value =>
    match Json.parse value with
    | none => .error (env.syntaxError value)
    | some .null => .ok none
    | some map => .ok (some map)

/-- `readCachedMap` as one command of a call. -/
def look (env : MapEnv) (s : MapStore) (call : MapCall) : Choice → Except String (Option Json)
  | .fail message => .error message
  | .ok _ => s.readCachedMap env (seatingMapCacheKey call.eventId)

def loadFromDatabase (env : MapEnv) (s : MapStore) (eventId : String) :
    Choice → Except String SeatingMap
  | .fail message => .error message
  | .ok _ =>
    match s.events eventId with
    | none => .error ("Event not found: " ++ eventId)
    | some event => .ok (event.toMap env.collation eventId)

end MapStore

/-- A result of the protected path. -/
def MapCall.result (call : MapCall) (now : Nat) (map : Json)
    (cacheHit lockAcquired waitedForLock databaseLoaded : Bool) : SeatingMapResult where
  map := map
  execution :=
    { mode := .redisProtected, cacheHit, lockAcquired, waitedForLock, databaseLoaded,
      durationMs := now - call.startedAt }

section Steps

variable (env : MapEnv) (s : MapStore) (n : Nat) (call : MapCall)

def stepDirect (c : Choice) : MapFrame :=
  match s.loadFromDatabase env call.eventId c with
  | .error message => .ended call.eventId (.error message)
  | .ok map =>
    let execution :=
      { mode := .direct, cacheHit := false, lockAcquired := false, waitedForLock := false,
        databaseLoaded := true, durationMs := s.now - call.startedAt }
    .ended call.eventId (.ok ⟨map.toJson, execution⟩)

def stepReadCache (c : Choice) : MapFrame :=
  match s.look env call c with
  | .error message => .ended call.eventId (.error message)
  | .ok (some map) => .ended call.eventId (.ok (call.result s.now map true false false false))
  | .ok none => .acquireMutex call

def stepAcquireMutex : Choice → Option (MapStore × MapFrame)
  | .fail message => some (s, .ended call.eventId (.error message))
  | .ok id => do
    let s ← s.draw n id
    match acquireMutex s.now (s.keys (lockKey call.eventId)) id with
    | (cell, some token) =>
      return (s.takeMutex n call.eventId cell, .owner call ⟨token, s.now⟩ .readCache)
    | (_, none) => return (s, .sleep call s.now 0 (s.now + WAIT_DELAY_MS))

def stepLockedRead (c : Choice) : OwnerPoint :=
  match s.look env call c with
  | .error message => .release (.error message)
  | .ok (some map) => .release (.ok (call.result s.now map true true false false))
  | .ok none => .loadFromDatabase

def stepLoad (c : Choice) : MapStore × OwnerPoint :=
  match s.loadFromDatabase env call.eventId c with
  | .error message => (s.countLoad call.eventId, .release (.error message))
  | .ok map => (s.countLoad call.eventId, .store map (s.loads call.eventId))

def stepStore (map : SeatingMap) (load : Nat) : Choice → MapStore × OwnerPoint
  | .fail message => (s, .release (.error message))
  | .ok _ =>
    (s.cacheMap call.eventId map load,
      .release (.ok (call.result s.now map.toJson false true false true)))

def stepRelease (hold : MutexHold) (outcome : MapOutcome) : Choice → MapStore × MapFrame
  | .fail message => (s, .ended call.eventId (.error message))
  | .ok _ =>
    match s.releaseMutex env (lockKey call.eventId) hold.token with
    | .error e => (s, .ended call.eventId (.error e.message))
    | .ok s => (s, .ended call.eventId outcome)

/-- The timer of a waiting call fires at its time or later. -/
def stepSleep (failedAt attempt wake : Nat) : Option MapFrame :=
  if wake ≤ s.now then some (.waitRead call failedAt attempt) else none

def stepWaitRead (failedAt attempt : Nat) (c : Choice) : MapFrame :=
  match s.look env call c with
  | .error message => .ended call.eventId (.error message)
  | .ok (some map) => .ended call.eventId (.ok (call.result s.now map true false true false))
  | .ok none =>
    if attempt + 1 < WAIT_ATTEMPTS then
      .sleep call failedAt (attempt + 1) (s.now + WAIT_DELAY_MS)
    else
      .ended call.eventId
        (.error ("Seating map hydration timed out for event: " ++ call.eventId))

end Steps

def stepOwner (env : MapEnv) (s : MapStore) (call : MapCall) (hold : MutexHold) (c : Choice) :
    OwnerPoint → MapStore × MapFrame
  | .readCache => (s, .owner call hold (stepLockedRead env s call c))
  | .loadFromDatabase =>
    let (s, point) := stepLoad env s call c
    (s, .owner call hold point)
  | .store map load =>
    let (s, point) := stepStore s call map load c
    (s, .owner call hold point)
  | .release outcome => stepRelease env s call hold outcome c

/-- One command of a call. -/
def MapFrame.act (env : MapEnv) (s : MapStore) (n : Nat) (c : Choice) :
    MapFrame → Option (MapStore × MapFrame)
  | .getSeatingMapDirect call => some (s, stepDirect env s call c)
  | .readCache call => some (s, stepReadCache env s call c)
  | .acquireMutex call => stepAcquireMutex s n call c
  | .owner call hold point => some (stepOwner env s call hold c point)
  | .sleep call failedAt attempt wake =>
    (stepSleep s call failedAt attempt wake).map fun f => (s, f)
  | .waitRead call failedAt attempt => some (s, stepWaitRead env s call failedAt attempt c)
  | .idle => none
  | .ended _ _ => none

/-- The first frame of a call in either mode. -/
def getSeatingMapForMode (eventId : String) (useRedis : Bool) (now : Nat) : MapFrame :=
  if useRedis then .readCache ⟨eventId, now⟩ else .getSeatingMapDirect ⟨eventId, now⟩

inductive MapLabel
  | getSeatingMapForMode (n : Nat) (eventId : String) (useRedis : Bool)
  | act (n : Nat) (c : Choice)
  | clearSeatingMapCache (eventId : String)
  | changeEvent (eventId : String) (event : Option EventRow)
  | advance (ms : Nat)
  | flushScripts

def MapWorld.step (env : MapEnv) (world : MapWorld) : MapLabel → Option MapWorld
  | .getSeatingMapForMode n eventId useRedis =>
    match world.point n with
    | .idle =>
      let f := getSeatingMapForMode eventId useRedis world.shared.now
      some ⟨world.shared, Function.update world.point n f⟩
    | _ => none
  | .act n c =>
    ((world.point n).act env world.shared n c).map fun (s, f) =>
      ⟨s, Function.update world.point n f⟩
  | .clearSeatingMapCache eventId =>
    some ⟨world.shared.setKey (seatingMapCacheKey eventId) none, world.point⟩
  | .changeEvent eventId event =>
    let events := Function.update world.shared.events eventId event
    some ⟨{ world.shared with events }, world.point⟩
  | .advance ms => some ⟨{ world.shared with now := world.shared.now + ms }, world.point⟩
  | .flushScripts => some ⟨{ world.shared with cached := fun _ => false }, world.point⟩

/-- The seating map service: any number of calls on any number of events, with the cache, the
mutexes and the database they share. A call that is never scheduled again has crashed. -/
def seatingMaps (env : MapEnv) : Machine MapWorld MapLabel where
  step := MapWorld.step env

/-- Before the first call. What Redis and the database hold is arbitrary. -/
structure MapWorld.Initial (world : MapWorld) : Prop where
  idle : ∀ n, world.point n = .idle
  drawn : ∀ token, world.shared.drawn token = none
  writes : ∀ eventId, world.shared.writes eventId = []
  acquirer : ∀ eventId, world.shared.acquirer eventId = none

/-- The text of an event's map that the cache shows. -/
def MapStore.visible (s : MapStore) (eventId : String) : Option String :=
  Lease.read s.now (s.keys (seatingMapCacheKey eventId))

def plainEnv : MapEnv where
  digests _ := true
  collation a b := decide (a ≤ b)
  syntaxError _ := "Unexpected end of JSON input"
  syntaxError_ne _ := by decide +kernel

def oneSeatEvent (status : SeatState) : EventRow := ⟨"Event", 0, [⟨"s", "A", "1", "1", status⟩]⟩

/-- One event with one free seat, nothing in Redis, and the release script loaded. -/
def coldCache : MapWorld where
  shared :=
    { now := 0
      keys := fun _ => none
      cached := fun _ => true
      events := fun id => if id = "e" then some (oneSeatEvent .AVAILABLE) else none
      drawn := fun _ => none
      loads := fun _ => 0
      writes := fun _ => []
      acquirer := fun _ => none }
  point := fun _ => .idle

theorem coldCache_initial : coldCache.Initial :=
  ⟨fun _ => rfl, fun _ => rfl, fun _ => rfl, fun _ => rfl⟩

/-- A call taking some steps, each drawing the token given for it. -/
def mapActs (n : Nat) (ids : List String) : List MapLabel := ids.map fun id => .act n (.ok id)

end TicketEngine
