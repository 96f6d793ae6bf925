import TicketEngine.Framework.Machine
import TicketEngine.Websocket.PubSubAdapter
import TicketEngine.Websocket.SeatEventCodec

namespace TicketEngine

namespace RedisPubSubAdapter

/-- One registered handler on a message: the listener it calls, with the parsed data. -/
def onMessage (adapter : RedisPubSubAdapter) (zod : Zod) (channel rawMessage : String) :
    List (Nat × WebSocketSeatEvent) :=
  if channel ≠ WS_SEAT_EVENTS_CHANNEL then []
  else
    match adapter.listener, decodeSeatEvent zod rawMessage with
    | some listener, some event => [(listener, event)]
    | _, _ => []

/-- The subscriber emits a message to every handler registered on it. -/
def emitMessage (adapter : RedisPubSubAdapter) (zod : Zod) (channel rawMessage : String) :
    List (Nat × WebSocketSeatEvent) :=
  (List.replicate adapter.handlers (adapter.onMessage zod channel rawMessage)).flatten

/-- While the adapter is connected, every valid message calls the current listener once. -/
def DispatchesOnce (zod : Zod) (adapter : RedisPubSubAdapter) : Prop :=
  adapter.connected = true →
    ∀ rawMessage event, decodeSeatEvent zod rawMessage = some event →
      ∃ listener, adapter.listener = some listener ∧
        adapter.emitMessage zod WS_SEAT_EVENTS_CHANNEL rawMessage = [(listener, event)]

end RedisPubSubAdapter

/-! ## The calls of one adapter -/

/-- The command a call of `connect` or `disconnect` awaits, or how its promise has settled. -/
inductive AdapterCall
  | connectingPublisher
  | connectingSubscriber
  | subscribing
  | quittingSubscriber
  | quittingPublisher
  | resolved
  | rejected (error : String)
  deriving DecidableEq

structure AdapterProcess where
  adapter : RedisPubSubAdapter
  calls : List AdapterCall
  deriving DecidableEq

/-- A call from outside, or the reply to the command that call `n` awaits. -/
inductive AdapterLabel
  | connect (listener : Nat)
  | disconnect
  | reply (n : Nat) (c : Choice)

namespace RedisPubSubAdapter

/-- The handler is registered before the subscription is confirmed. -/
def register (adapter : RedisPubSubAdapter) : RedisPubSubAdapter × AdapterCall :=
  ({ adapter with handlers := adapter.handlers + 1 }, .subscribing)

def connectSubscriber (adapter : RedisPubSubAdapter) : RedisPubSubAdapter × AdapterCall :=
  if adapter.subscriber = .wait then ({ adapter with subscriber := .active }, .connectingSubscriber)
  else adapter.register

def connectPublisher (adapter : RedisPubSubAdapter) : RedisPubSubAdapter × AdapterCall :=
  if adapter.publisher = .wait then ({ adapter with publisher := .active }, .connectingPublisher)
  else adapter.connectSubscriber

/-- `connect` up to the first command it awaits. -/
def startConnect (adapter : RedisPubSubAdapter) (listener : Nat) :
    RedisPubSubAdapter × AdapterCall :=
  if adapter.connected then ({ adapter with listener := some listener }, .resolved)
  else { adapter with listener := some listener }.connectPublisher

def quitPublisher (adapter : RedisPubSubAdapter) : RedisPubSubAdapter × AdapterCall :=
  if adapter.publisher = .end_ then (adapter, .resolved) else (adapter, .quittingPublisher)

/-- `disconnect` up to the first command it awaits; the handlers stay. -/
def startDisconnect (adapter : RedisPubSubAdapter) : RedisPubSubAdapter × AdapterCall :=
  let adapter := { adapter with listener := none, connected := false }
  if adapter.subscriber = .end_ then adapter.quitPublisher else (adapter, .quittingSubscriber)

/-- What follows the reply to an awaited command. -/
def resume (adapter : RedisPubSubAdapter) :
    AdapterCall → Choice → Option (RedisPubSubAdapter × AdapterCall)
  | .resolved, _ => none
  | .rejected _, _ => none
  | _, .fail message => some (adapter, .rejected message)
  | .connectingPublisher, .ok _ => some adapter.connectSubscriber
  | .connectingSubscriber, .ok _ => some adapter.register
  | .subscribing, .ok _ => some ({ adapter with connected := true }, .resolved)
  | .quittingSubscriber, .ok _ => some { adapter with subscriber := .end_ }.quitPublisher
  | .quittingPublisher, .ok _ => some ({ adapter with publisher := .end_ }, .resolved)

end RedisPubSubAdapter

namespace AdapterProcess

def initial : AdapterProcess := ⟨.constructor, []⟩

def step (s : AdapterProcess) : AdapterLabel → Option AdapterProcess
  | .connect listener =>
    let p := s.adapter.startConnect listener
    some ⟨p.1, s.calls ++ [p.2]⟩
  | .disconnect =>
    let p := s.adapter.startDisconnect
    some ⟨p.1, s.calls ++ [p.2]⟩
  | .reply n c =>
    (s.calls[n]?).bind fun call =>
      (s.adapter.resume call c).map fun p => ⟨p.1, s.calls.set n p.2⟩

end AdapterProcess

/-- Calls on one adapter, in every order in which their commands can be answered. -/
def adapterCalls : Machine AdapterProcess AdapterLabel where
  step := AdapterProcess.step

/-! ## Calls one after another -/

namespace AdapterCall

/-- How a call that has run to its end has settled. -/
def ofResult : Except String Unit → AdapterCall
  | .ok () => .resolved
  | .error message => .rejected message

end AdapterCall

section Sequential

variable {calls : List AdapterCall} {adapter : RedisPubSubAdapter}

theorem step_reply {call : AdapterCall} (c : Choice) :
    adapterCalls.step ⟨adapter, calls ++ [call]⟩ (.reply calls.length c) =
      (adapter.resume call c).map fun p => ⟨p.1, calls ++ [p.2]⟩ := by
  simp [adapterCalls, AdapterProcess.step]

/-- The replies a call awaits from its present command on, and its end. -/
def Settles (calls : List AdapterCall) (p : RedisPubSubAdapter × AdapterCall)
    (q : RedisPubSubAdapter × Except String Unit) : Prop :=
  ∃ ls, adapterCalls.run ⟨p.1, calls ++ [p.2]⟩ ls = some ⟨q.1, calls ++ [.ofResult q.2]⟩

theorem settles_reply {call : AdapterCall} {c : Choice} {p : RedisPubSubAdapter × AdapterCall}
    {q : RedisPubSubAdapter × Except String Unit} (h : adapter.resume call c = some p)
    (hq : Settles calls p q) : Settles calls (adapter, call) q := by
  obtain ⟨ls, hls⟩ := hq
  refine ⟨.reply calls.length c :: ls, ?_⟩
  rw [Machine.run_cons, step_reply, h]
  exact hls

theorem settles_end (calls : List AdapterCall) (adapter : RedisPubSubAdapter)
    (result : Except String Unit) : Settles calls (adapter, .ofResult result) (adapter, result) :=
  ⟨[], rfl⟩

theorem settles_fail {call : AdapterCall} {message : String}
    (h : adapter.resume call (.fail message) = some (adapter, .rejected message)) :
    Settles calls (adapter, call) (adapter, .error message) :=
  settles_reply h (settles_end calls adapter (.error message))

/-- The last part of `connect` as a whole, from the registration on. -/
def registerWith (adapter : RedisPubSubAdapter) :
    Choice → RedisPubSubAdapter × Except String Unit
  | .fail message => ({ adapter with handlers := adapter.handlers + 1 }, .error message)
  | .ok _ => ({ adapter with handlers := adapter.handlers + 1, connected := true }, .ok ())

def connectSubscriberWith (adapter : RedisPubSubAdapter) (subscriberConnect subscribe : Choice) :
    RedisPubSubAdapter × Except String Unit :=
  match RedisPubSubAdapter.connectClient adapter.subscriber subscriberConnect with
  | (subscriber, .error message) => ({ adapter with subscriber }, .error message)
  | (subscriber, .ok ()) => registerWith { adapter with subscriber } subscribe

theorem connectClient_connected {status : ClientStatus} (h : status ≠ .wait) (c : Choice) :
    RedisPubSubAdapter.connectClient status c = (status, .ok ()) := by
  cases status with
  | wait => exact absurd rfl h
  | active | end_ => rfl

theorem register_settles (calls : List AdapterCall) (adapter : RedisPubSubAdapter) (c : Choice) :
    Settles calls adapter.register (registerWith adapter c) := by
  cases c with
  | fail message => exact settles_fail rfl
  | ok id => exact settles_reply (c := .ok id) rfl (settles_end _ _ (.ok ()))

theorem connectSubscriber_settles (calls : List AdapterCall) (adapter : RedisPubSubAdapter)
    (subscriberConnect subscribe : Choice) :
    Settles calls adapter.connectSubscriber
      (connectSubscriberWith adapter subscriberConnect subscribe) := by
  unfold RedisPubSubAdapter.connectSubscriber connectSubscriberWith
  split
  next hwait =>
    rw [hwait]
    cases subscriberConnect with
    | fail message => exact settles_fail rfl
    | ok id => exact settles_reply (c := .ok id) rfl (register_settles _ _ subscribe)
  next hwait =>
    rw [connectClient_connected hwait]
    exact register_settles calls adapter subscribe

/-- A `connect` whose commands are answered in turn does what the function as a whole does. -/
theorem connect_settles (calls : List AdapterCall) (adapter : RedisPubSubAdapter) (listener : Nat)
    (replies : RedisPubSubAdapter.ConnectReplies) :
    Settles calls (adapter.startConnect listener) (adapter.connect listener replies) := by
  unfold RedisPubSubAdapter.startConnect RedisPubSubAdapter.connect
  split
  next => exact settles_end _ _ (.ok ())
  next =>
    unfold RedisPubSubAdapter.connectPublisher
    split
    next hwait =>
      have hpublisher : adapter.publisher = .wait := hwait
      simp only [hpublisher]
      cases replies.publisherConnect with
      | fail message => exact settles_fail rfl
      | ok id =>
        exact settles_reply (c := .ok id) rfl (connectSubscriber_settles _ _ _ replies.subscribe)
    next hwait =>
      have hpublisher : adapter.publisher ≠ .wait := hwait
      simp only [connectClient_connected hpublisher]
      exact connectSubscriber_settles _ _ _ replies.subscribe

end Sequential

/-! ## Dispatch -/

namespace AdapterProcess

/-- A connected adapter has one handler and a listener. -/
def Registered (adapter : RedisPubSubAdapter) : Prop :=
  adapter.connected = true → adapter.handlers = 1 ∧ adapter.listener ≠ none

/-- What the reply to a command finds: no handler is added to a connected adapter, and a
confirmed subscription finds one handler, its own, and a listener. -/
def RegistersAlone (s : AdapterProcess) : AdapterLabel → Prop
  | .reply n (.ok _) =>
    match s.calls[n]? with
    | some .connectingPublisher => s.adapter.subscriber ≠ .wait → s.adapter.connected = false
    | some .connectingSubscriber => s.adapter.connected = false
    | some .subscribing => s.adapter.handlers = 1 ∧ s.adapter.listener ≠ none
    | _ => True
  | _ => True

theorem emitMessage_eq {zod : Zod} {adapter : RedisPubSubAdapter} {listener : Nat}
    {rawMessage : String} {event : WebSocketSeatEvent} (hl : adapter.listener = some listener)
    (hevent : decodeSeatEvent zod rawMessage = some event) :
    adapter.emitMessage zod WS_SEAT_EVENTS_CHANNEL rawMessage =
      List.replicate adapter.handlers (listener, event) := by
  have honce : adapter.onMessage zod WS_SEAT_EVENTS_CHANNEL rawMessage = [(listener, event)] := by
    simp [RedisPubSubAdapter.onMessage, hl, hevent]
  rw [RedisPubSubAdapter.emitMessage, honce, List.flatten_replicate_singleton]

/-- A message that the schema accepts, built from any two strings that its checks accept. -/
theorem exists_valid {zod : Zod} (huuid : ∃ id, zod.uuid id = true)
    (hdatetime : ∃ time, zod.datetime time = true) :
    ∃ rawMessage event, decodeSeatEvent zod rawMessage = some event := by
  obtain ⟨id, hid⟩ := huuid
  obtain ⟨time, htime⟩ := hdatetime
  let event : WebSocketSeatEvent :=
    { eventId := id, schemaVersion := WEBSOCKET_SEAT_EVENT_SCHEMA_VERSION, occurredAt := time,
      correlationId := "o", payload := .booked "e" "s" "o" }
  have haccepted : event.Accepted zod :=
    ⟨hid, rfl, htime, by simp [event], by simp [event, SeatEventPayload.Accepted]⟩
  exact ⟨event.rawMessage, event.visible, decode_rawMessage haccepted⟩

theorem dispatchesOnce_iff {zod : Zod} (huuid : ∃ id, zod.uuid id = true)
    (hdatetime : ∃ time, zod.datetime time = true) (adapter : RedisPubSubAdapter) :
    adapter.DispatchesOnce zod ↔ Registered adapter := by
  constructor
  · intro honce hconnected
    obtain ⟨rawMessage, event, hevent⟩ := exists_valid huuid hdatetime
    obtain ⟨listener, hl, hemit⟩ := honce hconnected rawMessage event hevent
    rw [emitMessage_eq hl hevent] at hemit
    have hlength := congrArg List.length hemit
    rw [List.length_replicate] at hlength
    exact ⟨hlength, by rw [hl]; exact Option.some_ne_none listener⟩
  · intro hregistered hconnected rawMessage event hevent
    obtain ⟨hone, hlistener⟩ := hregistered hconnected
    obtain ⟨listener, hl⟩ := Option.ne_none_iff_exists'.mp hlistener
    refine ⟨listener, hl, ?_⟩
    rw [emitMessage_eq hl hevent, hone]
    rfl

theorem registered_of_unconnected {adapter : RedisPubSubAdapter} (h : adapter.connected = false) :
    Registered adapter := by
  intro hconnected
  rw [h] at hconnected
  cases hconnected

theorem registered_register_iff {adapter : RedisPubSubAdapter} (h : Registered adapter) :
    Registered adapter.register.1 ↔ adapter.connected = false := by
  constructor
  · intro hregister
    cases hconnected : adapter.connected with
    | false => rfl
    | true =>
      have hone := (h hconnected).1
      have htwo : adapter.handlers + 1 = 1 := (hregister hconnected).1
      omega
  · intro hconnected
    exact registered_of_unconnected hconnected

theorem registered_connectSubscriber_iff {adapter : RedisPubSubAdapter} (h : Registered adapter) :
    Registered adapter.connectSubscriber.1 ↔
      (adapter.subscriber ≠ .wait → adapter.connected = false) := by
  unfold RedisPubSubAdapter.connectSubscriber
  split
  next hwait => exact iff_of_true h fun hne => absurd hwait hne
  next hwait =>
    rw [registered_register_iff h]
    exact ⟨fun hconnected _ => hconnected, fun himp => himp hwait⟩

theorem connectPublisher_connected (adapter : RedisPubSubAdapter) :
    adapter.connectPublisher.1.connected = adapter.connected := by
  unfold RedisPubSubAdapter.connectPublisher RedisPubSubAdapter.connectSubscriber
  split
  next => rfl
  next =>
    split
    next => rfl
    next => rfl

theorem registered_startConnect {adapter : RedisPubSubAdapter} (h : Registered adapter)
    (listener : Nat) : Registered (adapter.startConnect listener).1 := by
  unfold RedisPubSubAdapter.startConnect
  split
  next hconnected =>
    intro _
    exact ⟨(h hconnected).1, Option.some_ne_none listener⟩
  next hconnected =>
    apply registered_of_unconnected
    rw [connectPublisher_connected]
    exact Bool.not_eq_true _ ▸ hconnected

theorem quitPublisher_fst (adapter : RedisPubSubAdapter) : adapter.quitPublisher.1 = adapter := by
  unfold RedisPubSubAdapter.quitPublisher
  split
  next => rfl
  next => rfl

theorem registered_startDisconnect (adapter : RedisPubSubAdapter) :
    Registered adapter.startDisconnect.1 := by
  apply registered_of_unconnected
  simp only [RedisPubSubAdapter.startDisconnect]
  split
  next => rw [quitPublisher_fst]
  next => rfl

/-- What follows one reply keeps the one handler exactly when it registers alone. -/
theorem registered_resume_iff {s : AdapterProcess} {n : Nat} {call : AdapterCall} {c : Choice}
    {p : RedisPubSubAdapter × AdapterCall} (hs : Registered s.adapter)
    (hcall : s.calls[n]? = some call) (h : s.adapter.resume call c = some p) :
    Registered p.1 ↔ s.RegistersAlone (.reply n c) := by
  cases c with
  | fail message =>
    have hsame : p.1 = s.adapter := by
      cases call with
      | resolved | rejected => cases h
      | _ =>
        cases h
        rfl
    rw [hsame]
    exact iff_of_true hs trivial
  | ok id =>
    simp only [RegistersAlone, hcall]
    cases call with
    | resolved | rejected => cases h
    | connectingPublisher =>
      cases h
      exact registered_connectSubscriber_iff hs
    | connectingSubscriber =>
      cases h
      exact registered_register_iff hs
    | subscribing =>
      cases h
      exact ⟨fun hregistered => hregistered rfl, fun halone _ => halone⟩
    | quittingSubscriber =>
      cases h
      rw [quitPublisher_fst]
      exact iff_of_true hs trivial
    | quittingPublisher =>
      cases h
      exact iff_of_true hs trivial

theorem registered_step_iff {s t : AdapterProcess} {l : AdapterLabel}
    (hs : Registered s.adapter) (ht : s.step l = some t) :
    Registered t.adapter ↔ s.RegistersAlone l := by
  cases l with
  | connect listener =>
    cases ht
    exact iff_of_true (registered_startConnect hs listener) trivial
  | disconnect =>
    cases ht
    exact iff_of_true (registered_startDisconnect s.adapter) trivial
  | reply n c =>
    obtain ⟨call, hcall, ht⟩ := Option.bind_eq_some_iff.mp ht
    obtain ⟨p, hp, rfl⟩ := Option.map_eq_some_iff.mp ht
    exact registered_resume_iff hs hcall hp

/-- Each message is dispatched once all along a run exactly when every handler is registered
alone. -/
theorem dispatched_once_iff {zod : Zod} (huuid : ∃ id, zod.uuid id = true)
    (hdatetime : ∃ time, zod.datetime time = true) (ls : List AdapterLabel) :
    adapterCalls.Every (fun s => s.adapter.DispatchesOnce zod) initial ls ↔
      adapterCalls.Along (fun s l _ => s.RegistersAlone l) initial ls := by
  have hstep : ∀ s l t, True → s.adapter.DispatchesOnce zod → adapterCalls.step s l = some t →
      (t.adapter.DispatchesOnce zod ↔ s.RegistersAlone l) := by
    intro s l t _ hs ht
    rw [dispatchesOnce_iff huuid hdatetime] at hs ⊢
    exact registered_step_iff hs ht
  have hinitial : initial.adapter.DispatchesOnce zod :=
    (dispatchesOnce_iff huuid hdatetime _).mpr (registered_of_unconnected rfl)
  exact adapterCalls.every_iff_along (fun _ _ _ _ _ => trivial) hstep ls trivial hinitial

/-- Checks that accept one identifier and one time. -/
def oneZod : Zod where
  uuid id := id = "7d444840-9dc0-4d1e-8f2b-3a5c1e9b6f01"
  datetime time := time = "2026-01-01T00:00:00.000Z"

/-- The first subscription fails, and a second `connect` succeeds. -/
def retriedConnect : List AdapterLabel :=
  [.connect 0, .reply 0 (.ok ""), .reply 0 (.ok ""), .reply 0 (.fail "Connection is closed."),
    .connect 1, .reply 1 (.ok "")]

theorem dispatched_once_retried :
    adapterCalls.Every (fun s => s.adapter.DispatchesOnce oneZod) initial retriedConnect ↔
      adapterCalls.Along (fun s l _ => s.RegistersAlone l) initial retriedConnect :=
  dispatched_once_iff ⟨"7d444840-9dc0-4d1e-8f2b-3a5c1e9b6f01", by decide⟩
    ⟨"2026-01-01T00:00:00.000Z", by decide⟩ retriedConnect

/-- The handler of the failed `connect` is still there after the one that succeeded. -/
theorem dispatched_twice :
    ¬ adapterCalls.Every (fun s => s.adapter.DispatchesOnce oneZod) initial retriedConnect := by
  intro h
  have hrun : adapterCalls.run initial retriedConnect =
      some ⟨⟨.active, .active, 2, some 1, true⟩,
        [.rejected "Connection is closed.", .resolved]⟩ := by
    decide
  have honce := h.last _ hrun
  rw [dispatchesOnce_iff ⟨"7d444840-9dc0-4d1e-8f2b-3a5c1e9b6f01", by decide⟩
    ⟨"2026-01-01T00:00:00.000Z", by decide⟩] at honce
  have hone : 2 = 1 := (honce rfl).1
  omega

end AdapterProcess

end TicketEngine
