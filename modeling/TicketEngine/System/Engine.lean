import TicketEngine.Framework.Outline
import TicketEngine.Workers.StreamConsumer

namespace TicketEngine

/-- The whole system: the stores and every thread's frame. -/
abbrev World := Threaded Store Thread Frame

/-- One command of a service call or of a message's processing. -/
def Frame.act (digests : ScriptDigests) (s : Store) (t : Thread) (c : Choice) :
    Frame → Option (Store × Frame)
  | .findEvent caller request => stepFindEvent s t caller request c
  | .evalshaHold caller request holdId => stepEvalshaHold digests s caller request holdId c
  | .evalHold caller request holdId => stepEvalHold s caller request holdId c
  | .holdReply caller request holdId result => stepHoldReply s caller request holdId result
  | .publishHold record => stepPublishHold s t record c
  | .lockSeat request execution => stepLockSeat s t request execution c
  | .createRow request execution => stepCreateRow s t request execution c
  | .commitOrder order => stepCommitOrder s t order c
  | .publishHeld order => stepPublishHeld s t order c
  | .appendEvent order => stepAppendEvent s t order c
  | .findOrder request holdId => stepFindOrder s request holdId c
  | .evalshaRelease request holdId => stepEvalshaRelease digests s request holdId c
  | .evalRelease request holdId => stepEvalRelease s request holdId c
  | .releaseReply request holdId result => stepReleaseReply s request holdId result
  | .freeRow request holdId => stepFreeRow s request holdId c
  | .publishReleased request holdId => stepPublishReleased s t request holdId c
  | .readMessage message => stepReadMessage s message
  | .findBooking message payload => stepFindBooking s message payload c
  | .sellRow message payload => stepSellRow s t message payload c
  | .bookRow message payload => stepBookRow s t message payload c
  | .commitBooking message payload => stepCommitBooking s t message payload c
  | .publishBooked message payload => stepPublishBooked s t message payload c
  | .acknowledge message _ => stepAcknowledge s message c
  | _ => none

/-- The threads after a batch of messages has been handed to the tasks of a worker. -/
def spawn (point : Thread → Frame) (w : Nat) (messages : List RedisStreamMessage) :
    Thread → Frame
  | .task v i =>
    if v = w then
      match messages[i]? with
      | some message => .readMessage message
      | none => point (.task v i)
    else point (.task v i)
  | t => point t

/-- One command of a worker's loop. -/
def actWorker (world : World) (w : Nat) (c : Choice) : Option World :=
  let s := world.shared
  let goto (p : Store × Frame) : World :=
    ⟨p.1, Function.update world.point (.worker w) p.2⟩
  match world.point (.worker w) with
  | .createGroup mode => some (goto (stepCreateGroup s mode c))
  | .poll => some (goto (stepPoll s w))
  | .claim mode => some (goto (stepClaim s w mode c))
  | .read mode claimed =>
    let (s, f, messages) := stepRead s w mode claimed c
    some ⟨s, spawn (Function.update world.point (.worker w) f) w messages⟩
  | .batch mode count =>
    if ∀ i < count, (world.point (.task w i)).ended then some (goto (s, stepBatch mode count))
    else none
  | _ => none

/-- A process dies: its transactions end without effect and its threads are gone. -/
def kill (world : World) (dead : Thread → Bool) : World :=
  ⟨world.shared.unlock dead, fun t => if dead t then .idle else world.point t⟩

def workerThreads (w : Nat) : Thread → Bool
  | .call _ => false
  | .worker v => v = w
  | .task v _ => v = w

inductive Label
  | holdSeat (n : Nat) (payload : PartialHoldSeatRequest)
  | createOrder (n : Nat) (payload : PartialHoldSeatRequest)
  | releaseSeat (n : Nat) (payload : PartialHoldSeatRequest) (holdId : String)
  | startOrderConsumer (w : Nat)
  | processAvailableOrderMessages (w : Nat)
  | stopOrderConsumer (w : Nat)
  | act (t : Thread) (c : Choice)
  | crashCall (n : Nat)
  | crashWorker (w : Nat)
  | advance (ms : Nat)
  | flushScripts

/-- A call comes in on a thread that is free. -/
def enter (world : World) (t : Thread) (f : Frame) : Option World :=
  match world.point t with
  | .idle => some ⟨world.shared, Function.update world.point t f⟩
  | _ => none

/-- A worker process starts, or starts again after its function has returned. -/
def startWorker (world : World) (w : Nat) (mode : Mode) (s : Store) : Option World :=
  match world.point (.worker w) with
  | .idle | .stopped | .drained _ =>
    some ⟨s, Function.update world.point (.worker w) (.createGroup mode)⟩
  | _ => none

def step (digests : ScriptDigests) (world : World) : Label → Option World
  | .holdSeat n payload => enter world (.call n) (holdSeat payload)
  | .createOrder n payload => enter world (.call n) (createOrder payload)
  | .releaseSeat n payload holdId => enter world (.call n) (releaseSeat payload holdId)
  | .startOrderConsumer w =>
    if world.shared.running w then some world
    else
      startWorker world w .startOrderConsumer
        { world.shared with running := Function.update world.shared.running w true }
  | .processAvailableOrderMessages w =>
    startWorker world w .processAvailableOrderMessages world.shared
  | .stopOrderConsumer w =>
    some { world with
      shared := { world.shared with running := Function.update world.shared.running w false } }
  | .act (.worker w) c => actWorker world w c
  | .act t c =>
    (Frame.act digests world.shared t c (world.point t)).map fun (s, f) =>
      ⟨s, Function.update world.point t f⟩
  | .crashCall n => some (kill world fun t => t = .call n)
  | .crashWorker w =>
    let s := { world.shared with running := Function.update world.shared.running w false }
    some (kill ⟨s, world.point⟩ (workerThreads w))
  | .advance ms =>
    some { world with shared := world.shared.setRedis (world.shared.redis.wait ms) }
  | .flushScripts =>
    let redis := { world.shared.redis with cached := fun _ => false }
    some { world with shared := world.shared.setRedis redis }

/-- The ticket engine under a registry of script digests. -/
def engine (digests : ScriptDigests) : Machine World Label where
  step := step digests

/-- Before the first call: no orders, an empty stream, no open transaction, no thread. The seat
rows, the holds in Redis and the clock are arbitrary. -/
structure Initial (world : World) : Prop where
  orders : ∀ holdId, world.shared.orders.row holdId = none
  stream : world.shared.stream = Stream.empty
  unlocked : ∀ seatId, world.shared.rowLock seatId = none
  idle : ∀ t, world.point t = .idle

/-- One event with one free seat, and every script loaded. -/
def oneSeat : World where
  shared :=
    { redis := ⟨0, fun _ => none, fun _ => true⟩
      stream := Stream.empty
      channel := []
      events := fun id => id = "e"
      seats := fun id => if id = "s" then some ⟨"e", .AVAILABLE⟩ else none
      orders := OrderTable.empty
      rowLock := fun _ => none
      drawn := fun _ => none
      running := fun _ => false }
  point := fun _ => .idle

theorem oneSeat_initial : Initial oneSeat :=
  ⟨fun _ => rfl, rfl, fun _ => rfl, fun _ => rfl⟩

/-- A thread taking some steps, each drawing the identifier given for it. -/
def acts (t : Thread) (ids : List String) : List Label := ids.map fun id => .act t (.ok id)

def requestOf (userId : String) : PartialHoldSeatRequest := ⟨some "e", some "s", some userId⟩

def Frame.rejection : Frame → Option ServiceError
  | .rejected e => some e
  | _ => none

theorem rejection_eq {f : Frame} {e : ServiceError} (h : f.rejection = some e) :
    f = .rejected e := by
  cases f with
  | rejected e' =>
    cases h
    rfl
  | _ => cases h

/-- A purchase from the request to the acknowledged entry, with the worker already waiting. -/
def purchase (userId holdId orderId : String) : List Label :=
  [.startOrderConsumer 0] ++ acts (.worker 0) ["", ""] ++ [.createOrder 0 (requestOf userId)] ++
    acts (.call 0) [holdId, "", "", "", orderId, "", "held-event", "order-event"] ++
    acts (.worker 0) ["", ""] ++ acts (.task 0 0) ["", "", "", "", "", "booked-event", ""]

end TicketEngine
