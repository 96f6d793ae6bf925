import TicketEngine.Websocket.AdapterCalls
import TicketEngine.Websocket.RoomHistory

namespace TicketEngine

/-! ## Several nodes on one channel -/

/-- One API process: its socket server, its adapter, and how many messages of the channel its
subscriber has passed. -/
structure ClusterNode where
  node : Node
  adapter : RedisPubSubAdapter
  cursor : Nat

/-- The texts published on the channel so far, and the API processes. -/
structure Cluster where
  channel : List String
  nodes : Nat → ClusterNode

namespace ClusterNode

/-- After `startWebSocketServer`, whose `connect` has gone through. -/
def start (cursor : Nat) : ClusterNode := ⟨Node.start, ⟨.active, .active, 1, some 0, true⟩, cursor⟩

theorem start_connected (cursor : Nat) :
    RedisPubSubAdapter.constructor.connect 0 ⟨.ok "", .ok "", .ok ""⟩ =
      ((start cursor).adapter, .ok ()) := rfl

/-- A step of the server itself. `close` also disconnects the adapter. -/
def own (p : ClusterNode) : Node.Label → Option ClusterNode
  | .seatEvent _ => none
  | .close => some { p with node := p.node.close, adapter := p.adapter.startDisconnect.1 }
  | l => (p.node.step l).map fun node => { p with node }

/-- The subscriber emits a message to the handlers of the adapter. -/
def receive (zod : Zod) (p : ClusterNode) (rawMessage : String) : ClusterNode :=
  { p with
    node := (p.adapter.emitMessage zod WS_SEAT_EVENTS_CHANNEL rawMessage).foldl
      (fun node call => node.onSeatEvent call.2) p.node
    cursor := p.cursor + 1 }

end ClusterNode

namespace Cluster

inductive Label
  | publish (rawMessage : String)
  | own (n : Nat) (l : Node.Label)
  | receive (n : Nat)
  | reconnect (n : Nat)

def setNode (c : Cluster) (n : Nat) (p : ClusterNode) : Cluster :=
  { c with nodes := Function.update c.nodes n p }

/-- Redis pushes the messages of the channel to each subscriber in the order of publication. What
is published while a subscriber has no connection never reaches it. -/
def step (zod : Zod) (c : Cluster) : Label → Option Cluster
  | .publish rawMessage => some { c with channel := c.channel ++ [rawMessage] }
  | .own n l => ((c.nodes n).own l).map (c.setNode n)
  | .receive n =>
    (c.channel[(c.nodes n).cursor]?).map fun rawMessage =>
      c.setNode n ((c.nodes n).receive zod rawMessage)
  | .reconnect n => some (c.setNode n { c.nodes n with cursor := c.channel.length })

end Cluster

/-- The WebSocket servers of all API processes, on the channel they share. -/
def webSocketCluster (zod : Zod) : Machine Cluster Cluster.Label where
  step := Cluster.step zod

/-- Before the first connection; what the channel has carried so far reaches nobody. -/
structure Cluster.Initial (c : Cluster) : Prop where
  nodes : ∀ n, c.nodes n = ClusterNode.start c.channel.length

/-! ## What a client receives -/

/-- The event that a frame speaks of, as a client finds it in the payload. -/
def frameEventId (message : String) : Option String :=
  (Json.parse message).bind fun frame =>
    (frame.get? "payload").bind fun payload => Json.string? (payload.get? "eventId")

/-- The seat events of one event that a socket has been sent. -/
def Node.eventFrames (node : Node) (socket : Nat) (eventId : String) : List String :=
  (node.sent.filter fun p => p.1 = socket ∧ frameEventId p.2 = some eventId).map Prod.snd

/-- The frame that a text on the channel becomes for the sockets of an event. -/
def seatFrame (zod : Zod) (eventId rawMessage : String) : Option String :=
  (decodeSeatEvent zod rawMessage).bind fun event =>
    if event.payload.eventId = eventId then some (Json.stringify event.toJson) else none

/-- The socket is open and follows the event, and the server listens. -/
def ClusterNode.Attends (p : ClusterNode) (socket : Nat) (eventId : String) : Prop :=
  p.adapter.listener ≠ none ∧ p.node.Follows socket eventId ∧ p.node.readyState socket = .OPEN

section Frames

variable {node : Node} {socket : Nat} {eventId : String}

theorem frameEventId_event (event : WebSocketSeatEvent) :
    frameEventId (Json.stringify event.toJson) = some event.payload.eventId := by
  rw [frameEventId, Json.parse_stringify]
  obtain ⟨id, version, occurredAt, correlationId, payload⟩ := event
  cases payload with
  | held | booked | released => rfl

theorem frameEventId_confirmation (type id : String) :
    frameEventId (Node.confirmation type id) = none := by
  rw [frameEventId, Node.confirmation, Json.parse_stringify]
  rfl

theorem frameEventId_invalidCommand : frameEventId Node.invalidCommand = none := by
  rw [frameEventId, Node.invalidCommand, Json.parse_stringify]
  rfl

theorem eventFrames_send {other : Nat} {message : String} (h : frameEventId message = none) :
    (node.send other message).eventFrames socket eventId = node.eventFrames socket eventId := by
  unfold Node.eventFrames Node.send
  rw [List.filter_append, List.filter_cons_of_neg (by simp [h])]
  simp

theorem eventFrames_sent {node' : Node} (h : node'.sent = node.sent) :
    node'.eventFrames socket eventId = node.eventFrames socket eventId := by
  unfold Node.eventFrames
  rw [h]

theorem eventFrames_message (node : Node) (other : Nat) (data : String) :
    (node.onMessage other data).eventFrames socket eventId =
      node.eventFrames socket eventId := by
  unfold Node.onMessage
  cases parseFrame data with
  | none => exact eventFrames_send frameEventId_invalidCommand
  | some frame =>
    cases node.states other with
    | none => rfl
    | some state =>
      cases frame with
      | subscribe id => exact eventFrames_send (frameEventId_confirmation _ _)
      | unsubscribe id => exact eventFrames_send (frameEventId_confirmation _ _)

theorem startClosing_sent (node : Node) (other : Nat) :
    (node.startClosing other).sent = node.sent := by
  unfold Node.startClosing
  split
  · rfl
  · rfl

theorem removed_sent (node : Node) (other : Nat) :
    ((node.removeFromRooms other).startClosing other).sent = node.sent := by
  rw [startClosing_sent, (Node.removeFromRooms_kept node other).2.2.2.1]

theorem beat_sent (node : Node) (other : Nat) : (node.beat other).sent = node.sent := by
  unfold Node.beat
  split
  · rfl
  · exact removed_sent node other

/-- Only dispatching a seat event sends a seat event. -/
theorem eventFrames_step {node' : Node} {l : Node.Label} (h : node.step l = some node')
    (hl : ∀ event, l ≠ .seatEvent event) :
    node'.eventFrames socket eventId = node.eventFrames socket eventId := by
  cases l with
  | connection other =>
    simp only [Node.step] at h
    split at h
    · cases h
      rfl
    · cases h
  | pong other =>
    simp only [Node.step] at h
    split_ifs at h
    cases h
    unfold Node.onPong
    split
    · rfl
    · rfl
  | message other data =>
    simp only [Node.step] at h
    split_ifs at h
    cases h
    exact eventFrames_message node other data
  | closing other =>
    simp only [Node.step] at h
    split_ifs at h
    cases h
    exact eventFrames_sent (startClosing_sent node other)
  | closed other =>
    simp only [Node.step] at h
    split_ifs at h
    cases h
    apply eventFrames_sent
    exact (Node.removeFromRooms_kept _ other).2.2.2.1
  | heartbeat =>
    simp only [Node.step] at h
    split_ifs at h
    cases h
    apply eventFrames_sent
    exact InsertionSet.forOf_keeps (fun node' : Node => node'.sent = node.sent)
      (fun node' other hsent => (beat_sent node' other).trans hsent) rfl
  | seatEvent event => exact absurd rfl (hl event)
  | close =>
    cases h
    apply eventFrames_sent
    exact InsertionSet.forOf_keeps (fun node' : Node => node'.sent = node.sent)
      (fun node' other hsent => (removed_sent node' other).trans hsent) rfl

/-- A filter that only one element can pass. -/
theorem filter_only {α : Type*} {xs : List α} {keep : α → Bool} {a : α} (hnodup : xs.Nodup)
    (honly : ∀ b ∈ xs, keep b = true → b = a) (hmem : a ∈ xs) (hkeep : keep a = true) :
    xs.filter keep = [a] := by
  have hall : ∀ b ∈ xs.filter keep, b = a := by
    intro b hb
    obtain ⟨hb, hkept⟩ := List.mem_filter.mp hb
    exact honly b hb hkept
  have hin : a ∈ xs.filter keep := List.mem_filter.mpr ⟨hmem, hkeep⟩
  have hdistinct := hnodup.filter keep
  cases hxs : xs.filter keep with
  | nil =>
    rw [hxs] at hin
    cases hin
  | cons b rest =>
    rw [hxs] at hall hdistinct
    obtain rfl : b = a := hall b List.mem_cons_self
    have hrest : rest = [] := by
      rw [List.eq_nil_iff_forall_not_mem]
      intro d hd
      obtain rfl : d = b := hall d (List.mem_cons_of_mem _ hd)
      exact (List.nodup_cons.mp hdistinct).1 hd
    rw [hrest]

/-- A dispatch sends the event to the socket once, if it is open and in the room of the event. -/
theorem eventFrames_onSeatEvent (node : Node) (event : WebSocketSeatEvent) (socket : Nat)
    (eventId : String) :
    (node.InRoom socket event.payload.eventId ∧ node.readyState socket = .OPEN ∧
        event.payload.eventId = eventId →
      (node.onSeatEvent event).eventFrames socket eventId =
        node.eventFrames socket eventId ++ [Json.stringify event.toJson]) ∧
    (¬ (node.InRoom socket event.payload.eventId ∧ node.readyState socket = .OPEN ∧
        event.payload.eventId = eventId) →
      (node.onSeatEvent event).eventFrames socket eventId =
        node.eventFrames socket eventId) := by
  obtain ⟨delivered, hsent, hnodup, hmem⟩ := Node.onSeatEvent_sent node event
  have honly : ∀ p ∈ delivered, (decide (p.1 = socket ∧ frameEventId p.2 = some eventId)) = true →
      p = (socket, Json.stringify event.toJson) := by
    rintro ⟨other, message⟩ hp hkeep
    obtain ⟨rfl, -⟩ := of_decide_eq_true hkeep
    obtain ⟨-, -, rfl⟩ := (hmem other message).mp hp
    rfl
  have hframes : (node.onSeatEvent event).eventFrames socket eventId =
      node.eventFrames socket eventId ++ (delivered.filter fun p =>
        p.1 = socket ∧ frameEventId p.2 = some eventId).map Prod.snd := by
    unfold Node.eventFrames
    rw [hsent, List.filter_append, List.map_append]
  rw [hframes]
  constructor
  · rintro ⟨hroom, hopen, rfl⟩
    have hin : (socket, Json.stringify event.toJson) ∈ delivered :=
      (hmem _ _).mpr ⟨hroom, hopen, rfl⟩
    rw [filter_only hnodup honly hin (by simp [frameEventId_event])]
    rfl
  · intro hnot
    rw [List.filter_eq_nil_iff.mpr]
    · simp
    · rintro ⟨other, message⟩ hp hkeep
      obtain ⟨rfl, hevent⟩ := of_decide_eq_true hkeep
      obtain ⟨hroom, hopen, rfl⟩ := (hmem other message).mp hp
      rw [frameEventId_event] at hevent
      exact hnot ⟨hroom, hopen, Option.some.inj hevent⟩

end Frames

section Receive

variable {zod : Zod} {p : ClusterNode} {rawMessage : String}

theorem emitMessage_single (hhandlers : p.adapter.handlers = 1) :
    p.adapter.emitMessage zod WS_SEAT_EVENTS_CHANNEL rawMessage =
      p.adapter.onMessage zod WS_SEAT_EVENTS_CHANNEL rawMessage := by
  simp [RedisPubSubAdapter.emitMessage, hhandlers]

/-- A message of the channel becomes at most one frame, and becomes that frame for every socket
that attends. -/
theorem receive_frames (zod : Zod) (socket : Nat) (eventId rawMessage : String)
    (hhandlers : p.adapter.handlers = 1) (hm : p.node.Mirrored) :
    (p.Attends socket eventId →
      (p.receive zod rawMessage).node.eventFrames socket eventId =
        p.node.eventFrames socket eventId ++ (seatFrame zod eventId rawMessage).toList) ∧
    ((p.receive zod rawMessage).node.eventFrames socket eventId =
        p.node.eventFrames socket eventId ∨
      ∃ message, seatFrame zod eventId rawMessage = some message ∧
        (p.receive zod rawMessage).node.eventFrames socket eventId =
          p.node.eventFrames socket eventId ++ [message]) := by
  unfold ClusterNode.receive
  simp only [emitMessage_single hhandlers, RedisPubSubAdapter.onMessage, ne_eq, not_true_eq_false,
    if_false]
  cases hlistener : p.adapter.listener with
  | none => exact ⟨fun hattends => absurd hlistener hattends.1, .inl rfl⟩
  | some listener =>
    cases hevent : decodeSeatEvent zod rawMessage with
    | none => exact ⟨fun _ => by simp [seatFrame, hevent], .inl rfl⟩
    | some event =>
      obtain ⟨hsent, hunsent⟩ := eventFrames_onSeatEvent p.node event socket eventId
      simp only [List.foldl_cons, List.foldl_nil]
      by_cases hid : event.payload.eventId = eventId
      · have hframe : seatFrame zod eventId rawMessage = some (Json.stringify event.toJson) := by
          simp [seatFrame, hevent, hid]
        rw [hframe]
        constructor
        · rintro ⟨-, hfollows, hopen⟩
          apply hsent
          rw [hid]
          exact ⟨(hm.mirror socket eventId).mpr hfollows, hopen, rfl⟩
        · by_cases hroom : p.node.InRoom socket event.payload.eventId ∧
              p.node.readyState socket = .OPEN ∧ event.payload.eventId = eventId
          · exact .inr ⟨_, rfl, hsent hroom⟩
          · exact .inl (hunsent hroom)
      · have hframe : seatFrame zod eventId rawMessage = none := by
          simp [seatFrame, hevent, hid]
        have hsame := hunsent fun h => hid h.2.2
        rw [hframe]
        exact ⟨fun _ => by rw [hsame]; simp, .inl hsame⟩

theorem receive_mirrored (hm : p.node.Mirrored) : (p.receive zod rawMessage).node.Mirrored := by
  unfold ClusterNode.receive
  simp only
  generalize p.adapter.emitMessage zod WS_SEAT_EVENTS_CHANNEL rawMessage = calls
  induction calls generalizing p with
  | nil => exact hm
  | cons call calls ih =>
    rw [List.foldl_cons]
    exact ih (p := { p with node := p.node.onSeatEvent call.2 })
      (Node.onSeatEvent_drops hm call.2).mirrored

theorem message_mirrored {node : Node} (hm : node.Mirrored) (other : Nat) (data : String) :
    (node.onMessage other data).Mirrored := by
  unfold Node.onMessage
  cases parseFrame data with
  | none => exact ⟨hm.mirror, hm.occupied⟩
  | some frame =>
    cases hstate : node.states other with
    | none => exact hm
    | some state =>
      cases frame with
      | subscribe id => exact (Node.subscribe_mirrored hm hstate id _).1
      | unsubscribe id => exact (Node.unsubscribe_mirrored hm hstate id _).1

theorem step_mirrored {node node' : Node} {l : Node.Label} (hm : node.Mirrored)
    (h : node.step l = some node') : node'.Mirrored := by
  cases l with
  | connection other =>
    simp only [Node.step] at h
    split at h
    next hnew =>
      cases h
      exact (Node.onConnection_drops hm hnew).mirrored
    next => cases h
  | pong other =>
    simp only [Node.step] at h
    split_ifs at h
    cases h
    exact (Node.onPong_drops hm other).mirrored
  | message other data =>
    simp only [Node.step] at h
    split_ifs at h
    cases h
    exact message_mirrored hm other data
  | closing other =>
    simp only [Node.step] at h
    split_ifs at h
    cases h
    have hsame : Node.Drops (fun _ => False) node node :=
      Node.drops_nothing hm rfl (fun _ _ => Iff.rfl) fun _ => id
    exact (Node.drops_startClosing hsame other).mirrored
  | closed other =>
    simp only [Node.step] at h
    split_ifs at h
    cases h
    exact (Node.onClose_drops hm other).mirrored
  | heartbeat =>
    simp only [Node.step] at h
    split_ifs at h
    cases h
    exact (Node.heartbeat_drops hm).mirrored
  | seatEvent event =>
    simp only [Node.step] at h
    split_ifs at h
    cases h
    exact (Node.onSeatEvent_drops hm event).mirrored
  | close =>
    cases h
    exact (Node.close_drops hm).mirrored

/-- A step of the server itself sends no seat event and keeps its place on the channel. -/
theorem own_frames {p' : ClusterNode} {l : Node.Label} (socket : Nat) (eventId : String)
    (hm : p.node.Mirrored) (h : p.own l = some p') :
    p'.node.Mirrored ∧ p'.adapter.handlers = p.adapter.handlers ∧ p'.cursor = p.cursor ∧
      p'.node.eventFrames socket eventId = p.node.eventFrames socket eventId := by
  have stepped {l : Node.Label} (hl : ∀ event, l ≠ .seatEvent event)
      (h : (p.node.step l).map (fun node => { p with node }) = some p') :
      p'.node.Mirrored ∧ p'.adapter.handlers = p.adapter.handlers ∧ p'.cursor = p.cursor ∧
        p'.node.eventFrames socket eventId = p.node.eventFrames socket eventId := by
    obtain ⟨node, hstep, rfl⟩ := Option.map_eq_some_iff.mp h
    exact ⟨step_mirrored hm hstep, rfl, rfl, eventFrames_step hstep hl⟩
  cases l with
  | seatEvent event => cases h
  | close =>
    cases h
    have hclose : p.node.step .close = some p.node.close := rfl
    refine ⟨step_mirrored hm hclose, ?_, rfl, eventFrames_step hclose (by simp)⟩
    unfold RedisPubSubAdapter.startDisconnect RedisPubSubAdapter.quitPublisher
    simp only
    split_ifs
    · rfl
    · rfl
    · rfl
  | connection | pong | message | closing | closed | heartbeat => exact stepped (by simp) h

end Receive

/-! ## Runs of the cluster -/

/-- The texts of the channel from one place to another. -/
def Cluster.span (c : Cluster) (i j : Nat) : List String := (c.channel.take j).drop i

/-- Every adapter has one handler, every subscriber is somewhere on the channel, and rooms and
subscriptions mirror each other. -/
structure Cluster.Wired (c : Cluster) : Prop where
  handlers : ∀ n, (c.nodes n).adapter.handlers = 1
  mirrored : ∀ n, (c.nodes n).node.Mirrored
  cursor : ∀ n, (c.nodes n).cursor ≤ c.channel.length

/-- What a step does to one socket and one event of a node. -/
inductive Cluster.Hears (zod : Zod) (n socket : Nat) (eventId : String) (c c' : Cluster)
    (l : Cluster.Label) : Prop
  | elsewhere (hcursor : (c'.nodes n).cursor = (c.nodes n).cursor)
      (hframes : (c'.nodes n).node.eventFrames socket eventId =
        (c.nodes n).node.eventFrames socket eventId)
  | receive (rawMessage : String) (hnext : c.channel[(c.nodes n).cursor]? = some rawMessage)
      (hcursor : (c'.nodes n).cursor = (c.nodes n).cursor + 1)
      (hframes : (c'.nodes n).node.eventFrames socket eventId =
          (c.nodes n).node.eventFrames socket eventId ∧
            ¬ (c.nodes n).Attends socket eventId ∨
        (c'.nodes n).node.eventFrames socket eventId =
          (c.nodes n).node.eventFrames socket eventId ++
            (seatFrame zod eventId rawMessage).toList)
  | reconnect (hl : l = .reconnect n) (hcursor : (c'.nodes n).cursor = c.channel.length)
      (hframes : (c'.nodes n).node.eventFrames socket eventId =
        (c.nodes n).node.eventFrames socket eventId)

section Step

variable {zod : Zod} {c c' : Cluster} {l : Cluster.Label}

theorem setNode_other {n m : Nat} (p : ClusterNode) (h : m ≠ n) :
    (c.setNode n p).nodes m = c.nodes m := Function.update_of_ne h ..

theorem setNode_self (n : Nat) (p : ClusterNode) : (c.setNode n p).nodes n = p :=
  Function.update_self ..

theorem Cluster.Wired.setNode (hw : c.Wired) (n : Nat) {p : ClusterNode}
    (hhandlers : p.adapter.handlers = 1) (hmirrored : p.node.Mirrored)
    (hcursor : p.cursor ≤ c.channel.length) : (c.setNode n p).Wired := by
  constructor
  · intro m
    by_cases hm : m = n
    · subst hm
      rw [setNode_self]
      exact hhandlers
    · rw [setNode_other p hm]
      exact hw.handlers m
  · intro m
    by_cases hm : m = n
    · subst hm
      rw [setNode_self]
      exact hmirrored
    · rw [setNode_other p hm]
      exact hw.mirrored m
  · intro m
    by_cases hm : m = n
    · subst hm
      rw [setNode_self]
      exact hcursor
    · rw [setNode_other p hm]
      exact hw.cursor m

/-- A step keeps the wiring, only lengthens the channel, and does one of three things to what a
socket has heard of an event. -/
theorem cluster_step (hw : c.Wired) (h : (webSocketCluster zod).step c l = some c') :
    c'.Wired ∧ c.channel <+: c'.channel ∧
      ∀ n socket eventId, Cluster.Hears zod n socket eventId c c' l := by
  cases l with
  | publish rawMessage =>
    cases h
    refine ⟨⟨hw.handlers, hw.mirrored, fun n => ?_⟩, List.prefix_append _ _, fun n s e => ?_⟩
    · have hcursor := hw.cursor n
      simp only [List.length_append, List.length_singleton]
      omega
    · exact .elsewhere rfl rfl
  | own m nodeLabel =>
    obtain ⟨p, hp, rfl⟩ := Option.map_eq_some_iff.mp h
    obtain ⟨hmirrored, hhandlers, hcursor, -⟩ :=
      own_frames 0 "" (hw.mirrored m) hp
    refine ⟨hw.setNode m (hhandlers.trans (hw.handlers m)) hmirrored (hcursor ▸ hw.cursor m),
      List.prefix_refl _, fun n s e => ?_⟩
    by_cases hn : n = m
    · subst hn
      obtain ⟨-, -, hcursor, hframes⟩ := own_frames s e (hw.mirrored n) hp
      refine .elsewhere ?_ ?_
      · rw [setNode_self]
        exact hcursor
      · rw [setNode_self]
        exact hframes
    · exact .elsewhere (by rw [setNode_other p hn]) (by rw [setNode_other p hn])
  | receive m =>
    obtain ⟨rawMessage, hnext, rfl⟩ := Option.map_eq_some_iff.mp h
    have hmirrored : ((c.nodes m).receive zod rawMessage).node.Mirrored :=
      receive_mirrored (hw.mirrored m)
    have hlt : (c.nodes m).cursor < c.channel.length := (List.getElem?_eq_some_iff.mp hnext).1
    refine ⟨hw.setNode m (hw.handlers m) hmirrored hlt, List.prefix_refl _, fun n s e => ?_⟩
    by_cases hn : n = m
    · subst hn
      obtain ⟨hattends, hany⟩ :=
        receive_frames zod s e rawMessage (hw.handlers n) (hw.mirrored n)
      refine .receive rawMessage hnext (by rw [setNode_self]; rfl) ?_
      rw [setNode_self]
      by_cases hatt : (c.nodes n).Attends s e
      · exact .inr (hattends hatt)
      · rcases hany with hsame | ⟨message, hmessage, hsent⟩
        · exact .inl ⟨hsame, hatt⟩
        · right
          rw [hmessage]
          exact hsent
    · refine .elsewhere (by rw [setNode_other _ hn]) (by rw [setNode_other _ hn])
  | reconnect m =>
    cases h
    refine ⟨hw.setNode m (hw.handlers m) (hw.mirrored m) (le_refl _), List.prefix_refl _,
      fun n s e => ?_⟩
    by_cases hn : n = m
    · subst hn
      refine .reconnect rfl ?_ ?_
      · rw [setNode_self]
      · rw [setNode_self]
    · refine .elsewhere (by rw [setNode_other _ hn]) (by rw [setNode_other _ hn])

theorem initial_wired (h : c.Initial) : c.Wired := by
  constructor
  · intro n
    rw [h.nodes n]
    rfl
  · intro n
    rw [h.nodes n]
    exact Session.start_exact.mirrored
  · intro n
    rw [h.nodes n]
    exact le_refl _

theorem reach_wired (hinit : c.Initial) (h : (webSocketCluster zod).Reach c c') : c'.Wired :=
  Machine.Reach.invariant (webSocketCluster zod) (I := Cluster.Wired)
    (fun _ _ _ hw hst => (cluster_step hw hst).1) (initial_wired hinit) h

end Step

section Span

variable {c c' : Cluster} {i j k : Nat}

theorem span_self (c : Cluster) (i : Nat) : c.span i i = [] := by
  rw [Cluster.span, List.drop_eq_nil_iff]
  exact List.length_take_le i c.channel

theorem span_succ {rawMessage : String} (hij : i ≤ j) (h : c.channel[j]? = some rawMessage) :
    c.span i (j + 1) = c.span i j ++ [rawMessage] := by
  obtain ⟨hj, rfl⟩ := List.getElem?_eq_some_iff.mp h
  have hlength : (c.channel.take j).length = j := List.length_take_of_le hj.le
  rw [Cluster.span, Cluster.span, List.take_succ_eq_append_getElem hj,
    List.drop_append_of_le_length (by omega)]

theorem span_append (hij : i ≤ j) (hjk : j ≤ k) (hk : k ≤ c.channel.length) :
    c.span i k = c.span i j ++ c.span j k := by
  have hsplit : c.channel.take k = c.channel.take j ++ (c.channel.take k).drop j := by
    have htake : (c.channel.take k).take j = c.channel.take j := by
      rw [List.take_take, min_eq_left hjk]
    rw [← htake, List.take_append_drop]
  have hlength : (c.channel.take j).length = j := List.length_take_of_le (hjk.trans hk)
  rw [Cluster.span, hsplit, List.drop_append_of_le_length (by omega)]
  rfl

/-- What the channel has carried does not change. -/
theorem span_prefix (h : c.channel <+: c'.channel) (hj : j ≤ c.channel.length) :
    c'.span i j = c.span i j := by
  obtain ⟨more, hmore⟩ := h
  rw [Cluster.span, Cluster.span, ← hmore, List.take_append_of_le_length hj]

theorem span_mono (c : Cluster) (i : Nat) (h : j ≤ k) : c.span i j <+: c.span i k := by
  obtain ⟨more, hmore⟩ : c.channel.take j <+: c.channel.take k := List.take_prefix_take_left h
  rw [Cluster.span, Cluster.span, ← hmore, List.drop_append]
  exact List.prefix_append _ _

/-- Of two stretches of the channel from one place, one begins with the other. -/
theorem span_comparable (c : Cluster) (i j k : Nat) :
    c.span i j <+: c.span i k ∨ c.span i k <+: c.span i j := by
  rcases Nat.le_total j k with hle | hle
  · exact .inl (span_mono c i hle)
  · exact .inr (span_mono c i hle)

end Span

section Run

variable {zod : Zod} {start c c' : Cluster} {ls : List Cluster.Label}

/-- So far, a socket has been sent some of the events that the channel has carried since the
start, in their order, each once at most. -/
def Cluster.InOrder (zod : Zod) (from_ : Nat) (c : Cluster) : Prop :=
  ∀ n socket eventId, from_ ≤ (c.nodes n).cursor ∧
    ((c.nodes n).node.eventFrames socket eventId).Sublist
      ((c.span from_ (c.nodes n).cursor).filterMap (seatFrame zod eventId))

theorem inOrder_step {i : Nat} {l : Cluster.Label} (hw : c.Wired) (ho : c.InOrder zod i)
    (h : (webSocketCluster zod).step c l = some c') : c'.InOrder zod i := by
  obtain ⟨hw', hprefix, hhears⟩ := cluster_step hw h
  intro n socket eventId
  obtain ⟨hi, hsub⟩ := ho n socket eventId
  cases hhears n socket eventId with
  | elsewhere hcursor hframes =>
    rw [hcursor, hframes, span_prefix hprefix (hw.cursor n)]
    exact ⟨hi, hsub⟩
  | receive rawMessage hnext hcursor hframes =>
    have hlt : (c.nodes n).cursor + 1 ≤ c.channel.length :=
      (List.getElem?_eq_some_iff.mp hnext).1
    rw [hcursor, span_prefix hprefix hlt, span_succ hi hnext, List.filterMap_append]
    refine ⟨by omega, ?_⟩
    rcases hframes with ⟨hframes, -⟩ | hframes
    · rw [hframes]
      exact hsub.trans (List.sublist_append_left _ _)
    · rw [hframes]
      apply hsub.append
      cases hframe : seatFrame zod eventId rawMessage with
      | none => simp
      | some message => simp [hframe]
  | reconnect hl hcursor hframes =>
    have hle := hw.cursor n
    rw [hcursor, hframes, span_prefix hprefix (le_refl _), span_append hi hle (le_refl _),
      List.filterMap_append]
    exact ⟨by omega, hsub.trans (List.sublist_append_left _ _)⟩

/-- On every node, whatever connects, leaves or fails, a socket is sent of the events of a room
only what the channel has carried since the start, in the order of the channel, each message once
at most. -/
theorem cluster_delivers_in_order (hinit : start.Initial)
    (hrun : (webSocketCluster zod).run start ls = some c) (n socket : Nat) (eventId : String) :
    ((c.nodes n).node.eventFrames socket eventId).Sublist
      ((c.span start.channel.length (c.nodes n).cursor).filterMap (seatFrame zod eventId)) := by
  have hstart : start.InOrder zod start.channel.length := by
    intro m other id
    rw [hinit.nodes m, ClusterNode.start]
    exact ⟨le_refl _, List.nil_sublist _⟩
  have hboth : c.Wired ∧ c.InOrder zod start.channel.length :=
    Machine.run_invariant (webSocketCluster zod)
      (I := fun c => c.Wired ∧ c.InOrder zod start.channel.length)
      (fun _ _ _ hs hst => ⟨(cluster_step hs.1 hst).1, inOrder_step hs.1 hs.2 hst⟩)
      ⟨initial_wired hinit, hstart⟩ hrun
  exact (hboth.2 n socket eventId).2

/-- While a socket attends and its subscriber keeps its connection, it is sent the stretch of the
channel that its node has passed. -/
theorem attends_run {n socket : Nat} {eventId : String} (hw : c.Wired)
    (hattends : (webSocketCluster zod).Every (fun c => (c.nodes n).Attends socket eventId) c ls)
    (hstays : ∀ l ∈ ls, l ≠ .reconnect n)
    (hrun : (webSocketCluster zod).run c ls = some c') :
    (c.nodes n).cursor ≤ (c'.nodes n).cursor ∧ c'.Wired ∧ c.channel <+: c'.channel ∧
      (c'.nodes n).node.eventFrames socket eventId =
        (c.nodes n).node.eventFrames socket eventId ++
          (c'.span (c.nodes n).cursor (c'.nodes n).cursor).filterMap (seatFrame zod eventId) := by
  induction ls generalizing c with
  | nil =>
    cases hrun
    refine ⟨le_refl _, hw, List.prefix_refl _, ?_⟩
    rw [span_self]
    simp
  | cons l ls ih =>
    obtain ⟨d, hstep, hrun⟩ := Machine.run_cons_some _ hrun
    obtain ⟨hnow, hlater⟩ := (Machine.every_cons _ hstep).mp hattends
    obtain ⟨hwd, hprefix, hhears⟩ := cluster_step hw hstep
    obtain ⟨hcursor', hw', hprefix', hframes'⟩ :=
      ih hwd hlater (fun k hk => hstays k (List.mem_cons_of_mem _ hk)) hrun
    refine ⟨?_, hw', hprefix.trans hprefix', ?_⟩
    · cases hhears n socket eventId with
      | elsewhere hcursor hframes => omega
      | receive rawMessage hnext hcursor hframes => omega
      | reconnect hl hcursor hframes => exact absurd hl (hstays l List.mem_cons_self)
    · cases hhears n socket eventId with
      | elsewhere hcursor hframes => rw [hframes', hframes, hcursor]
      | receive rawMessage hnext hcursor hframes =>
        have hlast := hw'.cursor n
        have hnext' : c'.channel[(c.nodes n).cursor]? = some rawMessage := by
          obtain ⟨more, hmore⟩ := hprefix.trans hprefix'
          have hlt := (List.getElem?_eq_some_iff.mp hnext).1
          rw [← hmore, List.getElem?_append_left hlt]
          exact hnext
        rcases hframes with ⟨-, hnot⟩ | hframes
        · exact absurd hnow hnot
        · have hspan : c'.span (c.nodes n).cursor (c'.nodes n).cursor =
              [rawMessage] ++ c'.span (d.nodes n).cursor (c'.nodes n).cursor := by
            rw [span_append (by omega) hcursor' hlast, hcursor, span_succ (le_refl _) hnext',
              span_self, List.nil_append]
          have hone : [rawMessage].filterMap (seatFrame zod eventId) =
              (seatFrame zod eventId rawMessage).toList := by
            cases hframe : seatFrame zod eventId rawMessage with
            | none => simp [hframe]
            | some message => simp [hframe]
          rw [hframes', hframes, hspan, List.filterMap_append, hone, List.append_assoc]
      | reconnect hl hcursor hframes => exact absurd hl (hstays l List.mem_cons_self)

/-- Between two reachable states, a client that stays subscribed on a node whose subscriber stays
connected is sent exactly the events of its room among the messages that its node has passed, in
their order. -/
theorem cluster_delivers_exactly {ms : List Cluster.Label} {n socket : Nat} {eventId : String}
    (hinit : start.Initial) (hreach : (webSocketCluster zod).run start ls = some c)
    (hrun : (webSocketCluster zod).run c ms = some c')
    (hattends : (webSocketCluster zod).Every (fun c => (c.nodes n).Attends socket eventId) c ms)
    (hstays : ∀ l ∈ ms, l ≠ .reconnect n) :
    (c'.nodes n).node.eventFrames socket eventId =
      (c.nodes n).node.eventFrames socket eventId ++
        (c'.span (c.nodes n).cursor (c'.nodes n).cursor).filterMap (seatFrame zod eventId) :=
  (attends_run (reach_wired hinit ⟨ls, hreach⟩) hattends hstays hrun).2.2.2

/-- Two clients of one event, on whichever nodes, that are at the same place of the channel and
stay subscribed from then on, are sent the same events in the same order: what the one has been
sent begins what the other has been sent, and they agree once their nodes have passed the same
messages. -/
theorem clients_agree {ms : List Cluster.Label} {n m socket other : Nat} {eventId : String}
    (hinit : start.Initial) (hreach : (webSocketCluster zod).run start ls = some c)
    (hrun : (webSocketCluster zod).run c ms = some c')
    (hsame : (c.nodes n).cursor = (c.nodes m).cursor)
    (hattends : (webSocketCluster zod).Every (fun c => (c.nodes n).Attends socket eventId ∧
      (c.nodes m).Attends other eventId) c ms)
    (hstays : ∀ l ∈ ms, l ≠ .reconnect n ∧ l ≠ .reconnect m) :
    ∃ got got' : List String,
      (c'.nodes n).node.eventFrames socket eventId =
          (c.nodes n).node.eventFrames socket eventId ++ got ∧
        (c'.nodes m).node.eventFrames other eventId =
          (c.nodes m).node.eventFrames other eventId ++ got' ∧
        (got <+: got' ∨ got' <+: got) ∧
        ((c'.nodes n).cursor = (c'.nodes m).cursor → got = got') := by
  have hw := reach_wired hinit ⟨ls, hreach⟩
  obtain ⟨-, -, -, hframes⟩ := attends_run hw (hattends.mono _ fun _ h => h.1)
    (fun l hl => (hstays l hl).1) hrun
  obtain ⟨-, -, -, hframes'⟩ := attends_run hw (hattends.mono _ fun _ h => h.2)
    (fun l hl => (hstays l hl).2) hrun
  refine ⟨_, _, hframes, hframes', ?_, ?_⟩
  · rw [hsame]
    rcases span_comparable c' (c.nodes m).cursor (c'.nodes n).cursor (c'.nodes m).cursor with
      hle | hle
    · exact .inl (hle.filterMap _)
    · exact .inr (hle.filterMap _)
  · intro hend
    rw [hsame, hend]

end Run

/-! ## Two nodes with a client each -/

instance (node : Node) (socket : Nat) (eventId : String) :
    Decidable (node.Follows socket eventId) :=
  decidable_of_iff ((node.states socket).any fun state => eventId ∈ state.eventIds.elements) (by
    simp [Node.Follows, Option.any_eq_true, InsertionSet.mem_elements])

instance (p : ClusterNode) (socket : Nat) (eventId : String) :
    Decidable (p.Attends socket eventId) :=
  inferInstanceAs (Decidable (_ ∧ _))

def quietCluster : Cluster := ⟨[], fun _ => ClusterNode.start 0⟩

theorem quietCluster_initial : quietCluster.Initial := ⟨fun _ => rfl⟩

/-- Checks that accept every identifier and every time. -/
def everyZod : Zod := ⟨fun _ => true, fun _ => true⟩

def subscribeFrame (eventId : String) : String :=
  Json.stringify (.obj [("type", .str "subscribe"), ("eventId", .str eventId)])

/-- Socket 3 of node 0 and socket 7 of node 1 follow one event. -/
def twoSubscribers : List Cluster.Label :=
  [.own 0 (.connection 3), .own 0 (.message 3 (subscribeFrame "e")), .own 1 (.connection 7),
    .own 1 (.message 7 (subscribeFrame "e"))]

def soldSeat : WebSocketSeatEvent := ⟨"id", 1, "now", "o", .booked "e" "s" "o"⟩

/-- A sale and a text that is no event; node 1 has not come to the second yet. -/
def oneSale : List Cluster.Label :=
  [.publish soldSeat.rawMessage, .receive 0, .publish "no event", .receive 1, .receive 0]

theorem twoSubscribers_run :
    ∃ c c', (webSocketCluster everyZod).run quietCluster twoSubscribers = some c ∧
      (webSocketCluster everyZod).run c oneSale = some c' ∧
      (webSocketCluster everyZod).Every (fun c => (c.nodes 0).Attends 3 "e" ∧
        (c.nodes 1).Attends 7 "e") c oneSale ∧
      (c.nodes 0).cursor = (c.nodes 1).cursor ∧ (c'.nodes 0).cursor = 2 ∧
      (c'.nodes 1).node.eventFrames 7 "e" = [Json.stringify soldSeat.toJson] := by
  have hview : ((webSocketCluster everyZod).run quietCluster twoSubscribers).bind (fun c =>
      ((webSocketCluster everyZod).run c oneSale).map fun c' =>
        (decide ((webSocketCluster everyZod).Every (fun c => (c.nodes 0).Attends 3 "e" ∧
          (c.nodes 1).Attends 7 "e") c oneSale), (c.nodes 0).cursor, (c.nodes 1).cursor,
          (c'.nodes 0).cursor, (c'.nodes 1).node.eventFrames 7 "e")) =
      some (true, 0, 0, 2, [Json.stringify soldSeat.toJson]) := by
    decide +kernel
  obtain ⟨c, hrun, hview⟩ := Option.bind_eq_some_iff.mp hview
  obtain ⟨c', hrun', hview⟩ := Option.map_eq_some_iff.mp hview
  simp only [Prod.mk.injEq, decide_eq_true_eq] at hview
  obtain ⟨hattends, hfirst, hsecond, hcursor, hframes⟩ := hview
  exact ⟨c, c', hrun, hrun', hattends, hfirst.trans hsecond.symm, hcursor, hframes⟩

theorem cluster_delivers_in_order_twoSubscribers :
    ∃ c, (webSocketCluster everyZod).run quietCluster twoSubscribers = some c ∧
      ((c.nodes 0).node.eventFrames 3 "e").Sublist
        ((c.span 0 (c.nodes 0).cursor).filterMap (seatFrame everyZod "e")) := by
  obtain ⟨c, -, hrun, -⟩ := twoSubscribers_run
  exact ⟨c, hrun, cluster_delivers_in_order quietCluster_initial hrun 0 3 "e"⟩

theorem cluster_delivers_exactly_twoSubscribers :
    ∃ c c', (webSocketCluster everyZod).run c oneSale = some c' ∧
      (c'.nodes 0).node.eventFrames 3 "e" = (c.nodes 0).node.eventFrames 3 "e" ++
        (c'.span (c.nodes 0).cursor (c'.nodes 0).cursor).filterMap (seatFrame everyZod "e") := by
  obtain ⟨c, c', hrun, hrun', hattends, -⟩ := twoSubscribers_run
  exact ⟨c, c', hrun', cluster_delivers_exactly quietCluster_initial hrun hrun'
    (hattends.mono _ fun _ h => h.1) (by simp [oneSale])⟩

theorem clients_agree_twoSubscribers :
    ∃ c c', (webSocketCluster everyZod).run c oneSale = some c' ∧
      (c'.nodes 1).node.eventFrames 7 "e" = [Json.stringify soldSeat.toJson] ∧
      ∃ got got' : List String,
        (c'.nodes 0).node.eventFrames 3 "e" = (c.nodes 0).node.eventFrames 3 "e" ++ got ∧
          (c'.nodes 1).node.eventFrames 7 "e" = (c.nodes 1).node.eventFrames 7 "e" ++ got' ∧
          (got <+: got' ∨ got' <+: got) ∧
          ((c'.nodes 0).cursor = (c'.nodes 1).cursor → got = got') := by
  obtain ⟨c, c', hrun, hrun', hattends, hsame, -, hframes⟩ := twoSubscribers_run
  exact ⟨c, c', hrun', hframes, clients_agree quietCluster_initial hrun hrun' hsame hattends
    (by simp [oneSale])⟩

end TicketEngine
