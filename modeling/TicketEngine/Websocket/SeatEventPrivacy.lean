import TicketEngine.System.BlindRuns
import TicketEngine.Websocket.AdapterCalls
import TicketEngine.Websocket.RoomHistory

namespace TicketEngine

/-! ## From the channel to the sockets -/

/-- The text a node sends on for a message of the channel, if it decodes. -/
def forwardedFrame (zod : Zod) (rawMessage : String) : Option String :=
  (decodeSeatEvent zod rawMessage).map fun event => Json.stringify event.toJson

/-- What reaches the server of a node: something of its own, or one message of the channel
through the adapter as it then is. -/
inductive NodeInput
  | own (l : Node.Label)
  | message (adapter : RedisPubSubAdapter) (i : Nat)

def NodeInput.labels (zod : Zod) (channel : List WebSocketSeatEvent) :
    NodeInput → List Node.Label
  | .own l => [l]
  | .message adapter i =>
    match channel[i]? with
    | none => []
    | some event =>
      (adapter.emitMessage zod WS_SEAT_EVENTS_CHANNEL event.rawMessage).map fun call =>
        .seatEvent call.2

/-- A node that has just started, after some inputs. -/
def serve (zod : Zod) (channel : List WebSocketSeatEvent) (inputs : List NodeInput) :
    Option Session :=
  webSocketServer.run Session.start (inputs.flatMap (NodeInput.labels zod channel))

section Events

variable {zod : Zod} {event event' : WebSocketSeatEvent}

theorem forwardedFrame_accepted (h : event.Accepted zod) :
    forwardedFrame zod event.rawMessage =
      some (Json.stringify ((webSocketSeatEventSchema zod).restrict event.published)) := by
  rw [forwardedFrame, decode_rawMessage h, restrict_published h]
  rfl

theorem EventAlike.decode (h : EventAlike zod event event') :
    decodeSeatEvent zod event'.rawMessage = decodeSeatEvent zod event.rawMessage := by
  rw [decode_rawMessage h.second, decode_rawMessage h.first, h.visible]

/-- The adapter calls its listener alike on two events that are seen as one. -/
theorem EventAlike.emitMessage (h : EventAlike zod event event') (adapter : RedisPubSubAdapter) :
    adapter.emitMessage zod WS_SEAT_EVENTS_CHANNEL event'.rawMessage =
      adapter.emitMessage zod WS_SEAT_EVENTS_CHANNEL event.rawMessage := by
  simp only [RedisPubSubAdapter.emitMessage, RedisPubSubAdapter.onMessage, h.decode]

theorem labels_alike {channel channel' : List WebSocketSeatEvent}
    (h : List.Forall₂ (EventAlike zod) channel channel') (input : NodeInput) :
    input.labels zod channel' = input.labels zod channel := by
  cases input with
  | own l => rfl
  | message adapter i =>
    have hentry := rel_getElem? h i
    simp only [NodeInput.labels]
    generalize channel[i]? = a at hentry ⊢
    generalize channel'[i]? = b at hentry ⊢
    cases hentry with
    | none => rfl
    | some halike => simp only [halike.emitMessage]

theorem serve_alike {channel channel' : List WebSocketSeatEvent}
    (h : List.Forall₂ (EventAlike zod) channel channel') (inputs : List NodeInput) :
    serve zod channel' inputs = serve zod channel inputs := by
  have hlabels : NodeInput.labels zod channel' = NodeInput.labels zod channel :=
    funext (labels_alike h)
  rw [serve, serve, hlabels]

theorem channel_accepted {channel : List WebSocketSeatEvent}
    (h : List.Forall₂ (EventAlike zod) channel channel) : ∀ event ∈ channel, event.Accepted zod :=
  fun event hmem => (List.forall₂_same.mp h event hmem).first

end Events

/-- In every run whose identifiers and times pass their checks, a node decodes each published
event and sends on what the schema keeps of it; and runs that differ in user ids give the sockets
of a node the same frames. -/
theorem seat_events_hide_users {zod : Zod} {digests : ScriptDigests} {start world : World}
    {ls : List Label} (hi : Initial start) (hchannel : start.shared.channel = [])
    (hw : (engine digests).Along (fun world l _ => l.writes zod world = true) start ls)
    (hr : (engine digests).run start ls = some world) :
    (∀ event ∈ world.shared.channel, forwardedFrame zod event.rawMessage =
      some (Json.stringify ((webSocketSeatEventSchema zod).restrict event.published))) ∧
    ∀ ls' world', List.Forall₂ Label.Alike ls ls' → (engine digests).run start ls' = some world' →
      ∀ inputs, serve zod world'.shared.channel inputs = serve zod world.shared.channel inputs := by
  constructor
  · have hsame : List.Forall₂ Label.Alike ls ls := List.forall₂_same.mpr fun _ _ => .same
    have hself := runs_alike hi hchannel hsame hw hr hr
    intro event hmem
    exact forwardedFrame_accepted (channel_accepted hself.shared.channel event hmem)
  · intro ls' world' hls hr' inputs
    exact serve_alike (runs_alike hi hchannel hls hw hr hr').shared.channel inputs

def holdUuid : String := "0d0f3f5c-8a44-4e52-9d7e-2f6b1c0a9e11"
def heldUuid : String := "5b1c7f9e-3c2d-4a6b-8e0f-7d9a1b2c3d4e"
def freedUuid : String := "c9a7e6d5-4b3a-4c2d-9e1f-0a1b2c3d4e5f"

/-- Checks that accept three identifiers and two times. -/
def plainZod : Zod where
  uuid id := id ∈ [holdUuid, heldUuid, freedUuid]
  datetime time := time ∈ ["1970-01-01T00:00:00.000Z", "1970-01-01T00:10:00.000Z"]

/-- A hold and its release. -/
def heldAndFreed (userId : String) : List Label :=
  [.holdSeat 0 (requestOf userId)] ++ acts (.call 0) [holdUuid, "", "", heldUuid] ++
    [.releaseSeat 1 (requestOf userId) holdUuid] ++
    acts (.call 1) ["", "", "", "", freedUuid]

theorem heldAndFreed_alike (userId userId' : String) :
    List.Forall₂ Label.Alike (heldAndFreed userId) (heldAndFreed userId') := by
  have hacts (ls : List Label) : List.Forall₂ Label.Alike ls ls :=
    List.forall₂_same.mpr fun _ _ => .same
  exact .cons .holdSeat (List.rel_append (hacts (acts (.call 0) [holdUuid, "", "", heldUuid]))
    (.cons .releaseSeat (hacts _)))

theorem seat_events_hide_users_heldAndFreed :
    ∃ world world', (engine fun _ => true).run oneSeat (heldAndFreed "alice") = some world ∧
      (engine fun _ => true).run oneSeat (heldAndFreed "bob") = some world' ∧
      world.shared.channel.length = 2 ∧
      (∀ event ∈ world.shared.channel, forwardedFrame plainZod event.rawMessage =
        some (Json.stringify ((webSocketSeatEventSchema plainZod).restrict event.published))) ∧
      ∀ inputs, serve plainZod world'.shared.channel inputs =
        serve plainZod world.shared.channel inputs := by
  have hlength : ((engine fun _ => true).run oneSeat (heldAndFreed "alice")).map
      (fun world => world.shared.channel.length) = some 2 := by
    decide +kernel
  have hother : ((engine fun _ => true).run oneSeat (heldAndFreed "bob")).isSome = true := by
    decide +kernel
  have hwrites : (engine fun _ => true).Along (fun world l _ => l.writes plainZod world = true)
      oneSeat (heldAndFreed "alice") := by
    decide +kernel
  obtain ⟨world, hr, htwo⟩ := Option.map_eq_some_iff.mp hlength
  obtain ⟨world', hr'⟩ := Option.isSome_iff_exists.mp hother
  obtain ⟨hframes, hblind⟩ := seat_events_hide_users oneSeat_initial rfl hwrites hr
  exact ⟨world, world', hr, hr', htwo, hframes,
    hblind _ _ (heldAndFreed_alike "alice" "bob") hr'⟩

end TicketEngine
