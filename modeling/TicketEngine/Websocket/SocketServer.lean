import TicketEngine.Framework.InsertionSet
import TicketEngine.Framework.Machine
import TicketEngine.Types.Events

namespace TicketEngine

/-! ## Frames -/

inductive WebSocketClientFrame
  | subscribe (eventId : String)
  | unsubscribe (eventId : String)
  deriving DecidableEq

def WebSocketClientFrame.eventId : WebSocketClientFrame → String
  | .subscribe eventId => eventId
  | .unsubscribe eventId => eventId

/-- `webSocketClientFrameSchema.safeParse`. -/
def webSocketClientFrameSchema (frame : Json) : Option WebSocketClientFrame :=
  match Json.string? (frame.get? "type"), Json.string? (frame.get? "eventId") with
  | some type, some eventId =>
    if eventId = "" then none
    else if type = "subscribe" then some (.subscribe eventId)
    else if type = "unsubscribe" then some (.unsubscribe eventId)
    else none
  | _, _ => none

def parseFrame (data : String) : Option WebSocketClientFrame :=
  (Json.parse data).bind webSocketClientFrameSchema

/-- A payload as its schema returns it: the known keys in the order of the schema. -/
def SeatEventPayload.toJson : SeatEventPayload → Json
  | .held eventId seatId holdId expiresAt _ =>
    .obj [("eventId", .str eventId), ("seatId", .str seatId), ("holdId", .str holdId),
      ("status", .str "HELD"), ("expiresAt", .str expiresAt)]
  | .booked eventId seatId orderId =>
    .obj [("eventId", .str eventId), ("seatId", .str seatId), ("orderId", .str orderId),
      ("status", .str "SOLD")]
  | .released eventId seatId holdId reason =>
    .obj [("eventId", .str eventId), ("seatId", .str seatId), ("holdId", .str holdId),
      ("status", .str "AVAILABLE"), ("reason", .str reason)]

def SeatEventPayload.eventId : SeatEventPayload → String
  | .held eventId _ _ _ _ => eventId
  | .booked eventId _ _ => eventId
  | .released eventId _ _ _ => eventId

def WebSocketSeatEvent.toJson (event : WebSocketSeatEvent) : Json :=
  .obj [("eventId", .str event.eventId), ("eventType", .str event.payload.eventType),
    ("schemaVersion", .num event.schemaVersion 0), ("occurredAt", .str event.occurredAt),
    ("correlationId", .str event.correlationId), ("payload", event.payload.toJson)]

/-! ## The server of one node -/

inductive ReadyState
  | OPEN
  | CLOSING
  | CLOSED
  deriving DecidableEq

structure SocketState where
  isAlive : Bool
  eventIds : InsertionSet String

/-- Sockets are named by numbers. `sent` records every text handed to a socket. -/
structure Node where
  rooms : String → Option (InsertionSet Nat)
  states : Nat → Option SocketState
  clients : InsertionSet Nat
  readyState : Nat → ReadyState
  listening : Bool
  sent : List (Nat × String)

namespace Node

/-- After `startWebSocketServer`. -/
def start : Node := ⟨fun _ => none, fun _ => none, .empty, fun _ => .CLOSED, true, []⟩

def send (node : Node) (socket : Nat) (message : String) : Node :=
  { node with sent := node.sent ++ [(socket, message)] }

def setState (node : Node) (socket : Nat) (state : SocketState) : Node :=
  { node with states := Function.update node.states socket (some state) }

/-- A room without one of its sockets; an empty room is no room. -/
def vacate (socket : Nat) (room : Option (InsertionSet Nat)) : Option (InsertionSet Nat) :=
  match room with
  | none => none
  | some room => if (room.delete socket).size = 0 then none else some (room.delete socket)

def leaveRoom (socket : Nat) (rooms : String → Option (InsertionSet Nat)) (eventId : String) :
    String → Option (InsertionSet Nat) :=
  Function.update rooms eventId (vacate socket (rooms eventId))

def removeFromRooms (node : Node) (socket : Nat) : Node :=
  match node.states socket with
  | none => node
  | some state =>
    { node with
      rooms := InsertionSet.forOf (fun _ => some state.eventIds) (leaveRoom socket) node.rooms }
      |>.setState socket { state with eventIds := .empty }

/-- `socket.close()` and `socket.terminate()`, as far as the code looks at the socket. -/
def startClosing (node : Node) (socket : Nat) : Node :=
  match node.readyState socket with
  | .OPEN => { node with readyState := Function.update node.readyState socket .CLOSING }
  | _ => node

def onConnection (node : Node) (socket : Nat) : Node :=
  { node with
    clients := node.clients.add socket
    readyState := Function.update node.readyState socket .OPEN }
    |>.setState socket { isAlive := true, eventIds := .empty }

def onPong (node : Node) (socket : Nat) : Node :=
  match node.states socket with
  | none => node
  | some state => node.setState socket { state with isAlive := true }

def invalidCommand : String :=
  Json.stringify (.obj [("type", .str "error"), ("message", .str "Invalid WebSocket command")])

def confirmation (type eventId : String) : String :=
  Json.stringify (.obj [("type", .str type), ("eventId", .str eventId)])

def onMessage (node : Node) (socket : Nat) (data : String) : Node :=
  match parseFrame data with
  | none => node.send socket invalidCommand
  | some frame =>
    match node.states socket with
    | none => node
    | some state =>
      match frame with
      | .subscribe eventId =>
        let room := (node.rooms eventId).getD .empty
        { node with rooms := Function.update node.rooms eventId (some (room.add socket)) }
          |>.setState socket { state with eventIds := state.eventIds.add eventId }
          |>.send socket (confirmation "subscription.confirmed" eventId)
      | .unsubscribe eventId =>
        { node with rooms := leaveRoom socket node.rooms eventId }
          |>.setState socket { state with eventIds := state.eventIds.delete eventId }
          |>.send socket (confirmation "unsubscription.confirmed" eventId)

/-- The socket has left `clients` by the time its listener runs. -/
def onClose (node : Node) (socket : Nat) : Node :=
  { node with
    clients := node.clients.delete socket
    readyState := Function.update node.readyState socket .CLOSED }
    |>.removeFromRooms socket

def deliver (message : String) (node : Node) (socket : Nat) : Node :=
  if node.readyState socket = .OPEN then node.send socket message
  else node.removeFromRooms socket

def onSeatEvent (node : Node) (event : WebSocketSeatEvent) : Node :=
  InsertionSet.forOf (fun node => node.rooms event.payload.eventId)
    (deliver (Json.stringify event.toJson)) node

/-- One socket of a heartbeat; the ping itself is not recorded. -/
def beat (node : Node) (socket : Nat) : Node :=
  match node.states socket with
  | some ⟨true, eventIds⟩ => node.setState socket ⟨false, eventIds⟩
  | _ => (node.removeFromRooms socket).startClosing socket

def heartbeat (node : Node) : Node :=
  InsertionSet.forOf (fun node => some node.clients) beat node

/-- The synchronous part of `close`: the timer, the sockets, and the listener of the adapter. -/
def close (node : Node) : Node :=
  let node := InsertionSet.forOf (fun node => some node.clients)
    (fun node socket => (node.removeFromRooms socket).startClosing socket) node
  { node with listening := false }

inductive Label
  | connection (socket : Nat)
  | pong (socket : Nat)
  | message (socket : Nat) (data : String)
  | closing (socket : Nat)
  | closed (socket : Nat)
  | heartbeat
  | seatEvent (event : WebSocketSeatEvent)
  | close

/-- A socket is new when it connects, and after its `close` event it fires no other. -/
def step (node : Node) : Label → Option Node
  | .connection socket =>
    match node.states socket with
    | none => some (node.onConnection socket)
    | some _ => none
  | .pong socket => if node.readyState socket = .CLOSED then none else some (node.onPong socket)
  | .message socket data =>
    if node.readyState socket = .CLOSED then none else some (node.onMessage socket data)
  | .closing socket =>
    if node.readyState socket = .CLOSED then none else some (node.startClosing socket)
  | .closed socket =>
    if node.readyState socket = .CLOSED then none else some (node.onClose socket)
  | .heartbeat => if node.listening then some node.heartbeat else none
  | .seatEvent event => if node.listening then some (node.onSeatEvent event) else none
  | .close => some node.close

end Node

end TicketEngine
