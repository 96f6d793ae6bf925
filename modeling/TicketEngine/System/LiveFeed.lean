import TicketEngine.Framework.Pipeline
import TicketEngine.System.BroadcastOrder
import TicketEngine.System.Evidence
import TicketEngine.Websocket.Cluster
import TicketEngine.Websocket.SeatEventPrivacy

namespace TicketEngine

/-! ## The whole platform -/

/-- The ticket engine and the WebSocket servers of its API processes. -/
abbrev Platform := Piped World Cluster

/-- What a step of the engine publishes. -/
def publication (world world' : World) : Option Cluster.Label :=
  (world'.shared.channel[world.shared.channel.length]?).map fun event => .publish event.rawMessage

/-- Nobody else publishes on the channel. -/
def Cluster.Label.local : Cluster.Label → Bool
  | .publish _ => false
  | _ => true

/-- Everything that runs: what the services and workers publish, the servers' subscribers get. -/
def platform (digests : ScriptDigests) (zod : Zod) : Machine Platform (Label ⊕ Cluster.Label) :=
  (engine digests).pipeline (webSocketCluster zod) publication Cluster.Label.local

/-- The steps of the engine in a run of the platform. -/
def engineLabels (ls : List (Label ⊕ Cluster.Label)) : List Label := ls.filterMap Sum.getLeft?

/-- The channel that the engine writes is the one that the subscribers read. -/
def Platform.Relayed (p : Platform) : Prop :=
  p.sink.channel = p.source.shared.channel.map WebSocketSeatEvent.rawMessage

structure Platform.Initial (p : Platform) : Prop where
  world : TicketEngine.Initial p.source
  cluster : p.sink.Initial
  relayed : p.Relayed

/-- The events of the channel from one place to another. -/
def Platform.span (p : Platform) (i j : Nat) : List WebSocketSeatEvent :=
  (p.source.shared.channel.take j).drop i

/-- The events of a room that a socket has been sent. -/
def Platform.frames (p : Platform) (n socket : Nat) (eventId : String) : List String :=
  (p.sink.nodes n).node.eventFrames socket eventId

/-! ## What a client reads -/

/-- The frame of a published event. -/
def WebSocketSeatEvent.frame (event : WebSocketSeatEvent) : String :=
  Json.stringify event.visible.toJson

/-- The payload that a client finds in a frame. -/
def framePayload (message : String) : Option SeatEventPayload :=
  (Json.parse message).bind fun frame =>
    (Json.string? (frame.get? "eventType")).bind fun eventType =>
      (frame.get? "payload").bind (SeatEventPayload.ofJson eventType)

/-- What a client takes a seat for after some frames. -/
def lastSeen (frames : List String) (seat : SeatName) : Option Showing :=
  (frames.filterMap fun message => (framePayload message).bind fun payload =>
    if payload.seat = seat then some payload.showing else none).getLast?

section Frames

variable {zod : Zod} {event : WebSocketSeatEvent} {eventId message : String}

theorem framePayload_frame (event : WebSocketSeatEvent) :
    framePayload event.frame = some event.payload.visible := by
  rw [framePayload, WebSocketSeatEvent.frame, Json.parse_stringify]
  obtain ⟨id, version, occurredAt, correlationId, payload⟩ := event
  cases payload with
  | held | booked | released => rfl

theorem visible_eventId (payload : SeatEventPayload) :
    payload.visible.eventId = payload.eventId := by
  cases payload with
  | held | booked | released => rfl

theorem visible_seat (payload : SeatEventPayload) : payload.visible.seat = payload.seat := by
  cases payload with
  | held | booked | released => rfl

theorem visible_showing (payload : SeatEventPayload) :
    payload.visible.showing = payload.showing := by
  cases payload with
  | held | booked | released => rfl

theorem seat_eventId (payload : SeatEventPayload) : payload.seat.1 = payload.eventId := by
  cases payload with
  | held | booked | released => rfl

/-- The schema keeps everything of a published event but the user id. -/
theorem restrict_visible (zod : Zod) (event : WebSocketSeatEvent) :
    (webSocketSeatEventSchema zod).restrict event.published = event.visible.toJson := by
  obtain ⟨id, version, occurredAt, correlationId, payload⟩ := event
  have hversion : Schema.double version 0 = .finite WEBSOCKET_SEAT_EVENT_SCHEMA_VERSION →
      WEBSOCKET_SEAT_EVENT_SCHEMA_VERSION = version := fun h => by
    exact_mod_cast (Schema.double_odd (v := WEBSOCKET_SEAT_EVENT_SCHEMA_VERSION) (by decide) h).symm
  cases payload with
  | held eventId seatId holdId expiresAt userId =>
    cases userId with
    | none | some => simpa [webSocketSeatEventSchema, seatEventOption, seatHeldEventSchema,
        WebSocketSeatEvent.published, SeatEventPayload.published, WebSocketSeatEvent.toJson,
        WebSocketSeatEvent.visible, SeatEventPayload.visible, SeatEventPayload.toJson,
        SeatEventPayload.eventType, Schema.restrict, Schema.restrictOption, Schema.restrictShape,
        Schema.nonempty, Json.lookup] using hversion
  | booked | released =>
    simpa [webSocketSeatEventSchema, seatEventOption, seatBookedEventSchema,
      seatReleasedEventSchema, WebSocketSeatEvent.published, SeatEventPayload.published,
      WebSocketSeatEvent.toJson, WebSocketSeatEvent.visible, SeatEventPayload.visible,
      SeatEventPayload.toJson, SeatEventPayload.eventType, Schema.restrict,
      Schema.restrictOption, Schema.restrictShape, Schema.nonempty, Json.lookup] using hversion

/-- The frame of a published event, if a node sends one, is the event without the user id. -/
theorem seatFrame_published (h : seatFrame zod eventId event.rawMessage = some message) :
    message = event.frame ∧ event.payload.eventId = eventId := by
  obtain ⟨decoded, hdecoded, hframe⟩ := Option.bind_eq_some_iff.mp h
  split_ifs at hframe with hid
  cases hframe
  rw [decodeSeatEvent, WebSocketSeatEvent.rawMessage, Json.parse_stringify,
    Option.bind_some] at hdecoded
  obtain ⟨data, hdata, hofJson⟩ := Option.bind_eq_some_iff.mp hdecoded
  obtain ⟨same, hsame, htoJson⟩ := safeParse_ofJson hdata
  rw [hofJson] at hsame
  cases hsame
  have hdecodes : decoded.toJson = event.visible.toJson := by
    rw [htoJson, ← restrict_visible zod event]
    exact (Schema.restrict_eq _ _ _ hdata).symm
  have htext : Json.stringify decoded.toJson = event.frame := by
    rw [hdecodes, WebSocketSeatEvent.frame]
  refine ⟨htext, ?_⟩
  have hread : frameEventId event.frame = some decoded.payload.eventId := by
    rw [← htext]
    exact frameEventId_event decoded
  have hread' : frameEventId event.frame = some event.visible.payload.eventId :=
    frameEventId_event event.visible
  rw [hread] at hread'
  have hvisible : decoded.payload.eventId = event.payload.visible.eventId := Option.some.inj hread'
  rw [← visible_eventId, ← hvisible, hid]

/-- Where the checks accept an event, its frame is sent to the sockets of its room. -/
theorem seatFrame_accepted (h : event.Accepted zod) :
    seatFrame zod eventId event.rawMessage =
      if event.payload.eventId = eventId then some event.frame else none := by
  rw [seatFrame, decode_rawMessage h, Option.bind_some]
  show (if event.payload.visible.eventId = eventId then _ else none) = _
  rw [visible_eventId]
  rfl

/-- The frames of a room among those of some events. -/
def roomFrames (events : List WebSocketSeatEvent) (eventId : String) : List String :=
  (events.filter fun event => event.payload.eventId = eventId).map WebSocketSeatEvent.frame

theorem roomFrames_cons (event : WebSocketSeatEvent) (events : List WebSocketSeatEvent)
    (eventId : String) : roomFrames (event :: events) eventId =
      (if event.payload.eventId = eventId then [event.frame] else []) ++
        roomFrames events eventId := by
  unfold roomFrames
  by_cases hid : event.payload.eventId = eventId
  · rw [List.filter_cons_of_pos (by simpa using hid), if_pos hid]
    rfl
  · rw [List.filter_cons_of_neg (by simpa using hid), if_neg hid]
    rfl

/-- What a client finds in the frames of a room. -/
theorem roomFrames_payloads (events : List WebSocketSeatEvent) (eventId : String) :
    (roomFrames events eventId).map framePayload =
      ((events.map WebSocketSeatEvent.payload).filter fun payload => payload.eventId = eventId).map
        fun payload => some payload.visible := by
  induction events with
  | nil => rfl
  | cons event events ih =>
    rw [roomFrames_cons, List.map_append, ih, List.map_cons]
    by_cases hid : event.payload.eventId = eventId
    · rw [if_pos hid, List.filter_cons_of_pos (by simpa using hid), List.map_cons, List.map_cons,
        framePayload_frame]
      rfl
    · rw [if_neg hid, List.filter_cons_of_neg (by simpa using hid)]
      rfl

theorem frames_sublist (zod : Zod) (events : List WebSocketSeatEvent) (eventId : String) :
    ((events.map WebSocketSeatEvent.rawMessage).filterMap (seatFrame zod eventId)).Sublist
      (roomFrames events eventId) := by
  induction events with
  | nil => exact List.nil_sublist _
  | cons event events ih =>
    rw [List.map_cons, roomFrames_cons]
    cases hframe : seatFrame zod eventId event.rawMessage with
    | none =>
      rw [List.filterMap_cons_none hframe]
      exact ih.trans (List.sublist_append_right _ _)
    | some message =>
      obtain ⟨rfl, hid⟩ := seatFrame_published hframe
      rw [List.filterMap_cons_some hframe, if_pos hid]
      exact ih.cons_cons _

theorem frames_accepted {events : List WebSocketSeatEvent} (eventId : String)
    (h : ∀ event ∈ events, event.Accepted zod) :
    (events.map WebSocketSeatEvent.rawMessage).filterMap (seatFrame zod eventId) =
      roomFrames events eventId := by
  induction events with
  | nil => rfl
  | cons event events ih =>
    have hframe : seatFrame zod eventId event.rawMessage =
        if event.payload.eventId = eventId then some event.frame else none :=
      seatFrame_accepted (h event List.mem_cons_self)
    have hrest := ih fun other hother => h other (List.mem_cons_of_mem _ hother)
    rw [List.map_cons, roomFrames_cons, ← hrest]
    by_cases hid : event.payload.eventId = eventId
    · rw [if_pos hid] at hframe
      rw [List.filterMap_cons_some hframe, if_pos hid]
      rfl
    · rw [if_neg hid] at hframe
      rw [List.filterMap_cons_none hframe, if_neg hid]
      rfl

end Frames

section Relay

variable {digests : ScriptDigests} {zod : Zod} {start p q : Platform}
  {ls ms : List (Label ⊕ Cluster.Label)} {n socket : Nat} {eventId : String}

theorem local_channel {c c' : Cluster} {l : Cluster.Label} (hl : l.local = true)
    (h : (webSocketCluster zod).step c l = some c') : c'.channel = c.channel := by
  cases l with
  | publish rawMessage => cases hl
  | own m label =>
    obtain ⟨node, -, rfl⟩ := Option.map_eq_some_iff.mp h
    rfl
  | receive m =>
    obtain ⟨rawMessage, -, rfl⟩ := Option.map_eq_some_iff.mp h
    rfl
  | reconnect m =>
    cases h
    rfl

/-- A step hands on what it publishes. -/
theorem relayed_step {l : Label ⊕ Cluster.Label} (hp : p.Relayed)
    (h : (platform digests zod).step p l = some q) : q.Relayed := by
  cases l with
  | inl l =>
    obtain ⟨hstep, hfeed⟩ := Machine.pipeline_source h
    have hengine : step digests p.source l = some q.source := hstep
    rcases channel_step hengine with hsame | ⟨t, event, f', -, hnew⟩
    · have hnone : publication p.source q.source = none := by
        rw [publication, hsame, List.getElem?_eq_none (le_refl _)]
        rfl
      rw [hnone] at hfeed
      have hsink : p.sink = q.sink := Option.some.inj hfeed
      rw [Platform.Relayed, ← hsink, hsame]
      exact hp
    · have hsome : publication p.source q.source = some (.publish event.rawMessage) := by
        rw [publication, hnew, List.getElem?_concat_length]
        rfl
      rw [hsome] at hfeed
      have hsink : { p.sink with channel := p.sink.channel ++ [event.rawMessage] } = q.sink :=
        Option.some.inj hfeed
      rw [Platform.Relayed, ← hsink, hnew, List.map_append, ← hp]
      rfl
  | inr k =>
    obtain ⟨hlocal, hstep, hsource⟩ := Machine.pipeline_sink h
    rw [Platform.Relayed, hsource, local_channel hlocal hstep]
    exact hp

theorem relayed_run (hp : p.Relayed) (h : (platform digests zod).run p ls = some q) :
    q.Relayed :=
  Machine.run_invariant _ (fun _ _ _ hp hstep => relayed_step hp hstep) hp h

theorem relayed_span (hp : p.Relayed) (i j : Nat) :
    p.sink.span i j = (p.span i j).map WebSocketSeatEvent.rawMessage := by
  rw [Cluster.span, Platform.span, hp, List.map_drop, List.map_take]

theorem engine_run (h : (platform digests zod).run p ls = some q) :
    (engine digests).run p.source (engineLabels ls) = some q.source :=
  Machine.pipeline_run_source h

/-- A run of the platform leaves the servers as a run of theirs does. -/
theorem cluster_run (h : (platform digests zod).run p ls = some q) :
    ∃ ks, (webSocketCluster zod).run p.sink ks = some q.sink ∧
      (∀ {P : Cluster → Prop}, (platform digests zod).Every (fun p => P p.sink) p ls →
        (webSocketCluster zod).Every P p.sink ks) ∧
      ∀ n, (∀ k, Sum.inr k ∈ ls → k ≠ .reconnect n) → ∀ k ∈ ks, k ≠ .reconnect n := by
  refine ⟨_, Machine.pipeline_run_sink h, Machine.pipeline_every_sink, fun n hown => ?_⟩
  refine Machine.pipeline_fed_forall (fun a b k hk => ?_) hown
  obtain ⟨event, -, rfl⟩ := Option.map_eq_some_iff.mp hk
  simp

/-- Whatever a socket has been sent of a room was published since the start, in that order. -/
theorem frames_published (hinit : start.Initial)
    (h : (platform digests zod).run start ls = some p) (n socket : Nat) (eventId : String) :
    (p.frames n socket eventId).Sublist
      (roomFrames (p.source.shared.channel.drop start.source.shared.channel.length)
        eventId) := by
  obtain ⟨ks, hks, -, -⟩ := cluster_run h
  have hstart : start.sink.InOrder zod start.sink.channel.length := by
    intro m other id
    rw [hinit.cluster.nodes m, ClusterNode.start]
    exact ⟨le_refl _, List.nil_sublist _⟩
  have hboth : p.sink.Wired ∧ p.sink.InOrder zod start.sink.channel.length :=
    Machine.run_invariant (webSocketCluster zod)
      (I := fun c => c.Wired ∧ c.InOrder zod start.sink.channel.length)
      (fun _ _ _ hs hst => ⟨(cluster_step hs.1 hst).1, inOrder_step hs.1 hs.2 hst⟩)
      ⟨initial_wired hinit.cluster, hstart⟩ hks
  have hrelayed := relayed_run hinit.relayed h
  have hsent := (hboth.2 n socket eventId).2
  have hlength : start.sink.channel.length = start.source.shared.channel.length := by
    rw [hinit.relayed, List.length_map]
  rw [relayed_span hrelayed, hlength] at hsent
  have hspan : (p.span start.source.shared.channel.length (p.sink.nodes n).cursor).Sublist
      (p.source.shared.channel.drop start.source.shared.channel.length) :=
    (List.take_sublist _ _).drop _
  exact (hsent.trans (frames_sublist zod _ eventId)).trans
    ((hspan.filter _).map WebSocketSeatEvent.frame)

/-! ## What clients are told is true -/

/-- The client does not learn of the booking of an order before it learns of its hold. -/
def HoldFirst (s : Store) (earlier later : String) : Prop :=
  ∀ order, s.orders.row order.holdId = some order →
    (framePayload earlier).bind SeatEventPayload.bookedOrder = some order.id →
    (framePayload later).bind SeatEventPayload.heldHold ≠ some order.holdId

theorem visible_booked (payload : SeatEventPayload) :
    payload.visible.bookedOrder = payload.bookedOrder := by
  cases payload with
  | held | booked | released => rfl

theorem visible_held (payload : SeatEventPayload) :
    payload.visible.heldHold = payload.heldHold := by
  cases payload with
  | held | booked | released => rfl

theorem visible_truthful {s : Store} {replies : List LockReply} {payload : SeatEventPayload}
    (h : Truthful s replies payload) : Truthful s replies payload.visible := by
  cases payload with
  | held | booked | released => exact h

theorem reach_heldFirst {world₀ world : World} (hinit : Initial world₀)
    (hreach : (engine digests).Reach world₀ world) :
    HeldFirst (world.shared.channel.drop world₀.shared.channel.length) world := by
  have hall := Machine.Reach.invariant _
    (I := fun w => outline.Valid w ∧ RowIds w ∧ ∃ published,
      w.shared.channel = world₀.shared.channel ++ published ∧ HeldFirst published w)
    (fun w l w' hw hstep => by
      obtain ⟨hv, hi, published, hchannel, ha⟩ := hw
      exact ⟨valid_step digests w l w' hv hstep, rowIds_step hv hi hstep,
        heldFirst_step hv hi ha hchannel hstep⟩)
    ⟨initial_valid hinit, initial_rowIds hinit, [], (List.append_nil _).symm,
      initial_heldFirst hinit⟩ hreach
  obtain ⟨-, -, published, hchannel, ha⟩ := hall
  rw [hchannel, List.drop_left]
  exact ha

/-- Every seat event that any client of any node has been sent, at any time and through whatever
connections, crashes and reconnections, is true: its hold was granted or freed by Redis, its seat
is sold to its order; and no client is told of a booking before it is told of the hold. -/
theorem frames_truthful (hinit : start.Initial)
    (h : (platform digests zod).run start ls = some p) (n socket : Nat) (eventId : String) :
    (∀ message ∈ p.frames n socket eventId, ∃ payload, framePayload message = some payload ∧
      payload.eventId = eventId ∧
      Truthful p.source.shared (lockReplies digests start.source (engineLabels ls)) payload) ∧
    (p.frames n socket eventId).Pairwise (HoldFirst p.source.shared) := by
  have hsub := frames_published hinit h n socket eventId
  have hengine := engine_run h
  obtain ⟨published, hchannel, htruthful⟩ := (run_evidence hinit.world hengine).truthful
  have hdrop : p.source.shared.channel.drop start.source.shared.channel.length = published := by
    rw [hchannel, List.drop_left]
  have hfirst := reach_heldFirst hinit.world ⟨_, hengine⟩
  rw [hdrop] at hsub hfirst
  constructor
  · intro message hmessage
    obtain ⟨event, hevent, rfl⟩ := List.mem_map.mp (hsub.subset hmessage)
    obtain ⟨hmem, hid⟩ := List.mem_filter.mp hevent
    refine ⟨event.payload.visible, framePayload_frame event, ?_, ?_⟩
    · rw [visible_eventId]
      exact of_decide_eq_true hid
    · exact visible_truthful (htruthful event hmem)
  · apply List.Pairwise.sublist hsub
    refine List.pairwise_map.mpr ((hfirst.ordered.filter _).imp ?_)
    intro earlier later hordered order hrow hbooked hheld
    rw [framePayload_frame, Option.bind_some, visible_booked] at hbooked
    rw [framePayload_frame, Option.bind_some, visible_held] at hheld
    exact hordered ⟨order, hrow, hbooked, hheld⟩

/-! ## Clients that stay -/

theorem run_accepted {world world' : World} {els : List Label} (hinit : Initial world)
    (hchannel : world.shared.channel = [])
    (hw : (engine digests).Along (fun world l _ => l.writes zod world = true) world els)
    (hr : (engine digests).run world els = some world') :
    ∀ event ∈ world'.shared.channel, event.Accepted zod := by
  have hsame : List.Forall₂ Label.Alike els els := List.forall₂_same.mpr fun _ _ => .same
  exact channel_accepted (runs_alike hinit hchannel hsame hw hr hr).shared.channel

theorem mem_span {event : WebSocketSeatEvent} {i j : Nat} (h : event ∈ p.span i j) :
    event ∈ p.source.shared.channel :=
  List.mem_of_mem_take (List.mem_of_mem_drop h)

/-- While a socket stays open and subscribed on a node that keeps its connection to Redis, it is
sent what its node makes of the events that the node passes. -/
theorem attended_frames (hinit : start.Initial)
    (hstart : (platform digests zod).run start ls = some p)
    (hrun : (platform digests zod).run p ms = some q)
    (hattends : (platform digests zod).Every
      (fun p => (p.sink.nodes n).Attends socket eventId) p ms)
    (hstays : ∀ k, Sum.inr k ∈ ms → k ≠ .reconnect n) :
    q.frames n socket eventId = p.frames n socket eventId ++
      ((q.span (p.sink.nodes n).cursor (q.sink.nodes n).cursor).map
        WebSocketSeatEvent.rawMessage).filterMap (seatFrame zod eventId) := by
  obtain ⟨as, has, -, -⟩ := cluster_run hstart
  obtain ⟨ks, hks, hevery, hown⟩ := cluster_run hrun
  have hwired : p.sink.Wired := reach_wired hinit.cluster ⟨as, has⟩
  obtain ⟨-, -, -, hframes⟩ := attends_run hwired (hevery hattends) (hown n hstays) hks
  have hrelayed : q.Relayed := relayed_run (relayed_run hinit.relayed hstart) hrun
  rw [relayed_span hrelayed] at hframes
  exact hframes

theorem whole_run (hstart : (platform digests zod).run start ls = some p)
    (hrun : (platform digests zod).run p ms = some q) :
    (platform digests zod).run start (ls ++ ms) = some q := by
  rw [Machine.run_append, hstart]
  exact hrun

/-- A client that stays is sent exactly the events of its room that the services and workers
published among those its node has passed, in their order and without the user ids. -/
theorem clients_sent_exactly (hinit : start.Initial)
    (hchannel : start.source.shared.channel = [])
    (hstart : (platform digests zod).run start ls = some p)
    (hrun : (platform digests zod).run p ms = some q)
    (hwrites : (engine digests).Along (fun world l _ => l.writes zod world = true) start.source
      (engineLabels (ls ++ ms)))
    (hattends : (platform digests zod).Every
      (fun p => (p.sink.nodes n).Attends socket eventId) p ms)
    (hstays : ∀ k, Sum.inr k ∈ ms → k ≠ .reconnect n) :
    q.frames n socket eventId = p.frames n socket eventId ++
      roomFrames (q.span (p.sink.nodes n).cursor (q.sink.nodes n).cursor) eventId := by
  have haccepted := run_accepted hinit.world hchannel hwrites (engine_run (whole_run hstart hrun))
  rw [attended_frames hinit hstart hrun hattends hstays,
    frames_accepted eventId fun event hevent => haccepted event (mem_span hevent)]

theorem onSeatEvent_readyState (node : Node) (event : WebSocketSeatEvent) :
    (node.onSeatEvent event).readyState = node.readyState := by
  refine InsertionSet.forOf_keeps (fun node' : Node => node'.readyState = node.readyState) ?_ rfl
  intro node' other hsame
  unfold Node.deliver
  split_ifs
  · exact hsame
  · rw [(Node.removeFromRooms_kept node' other).2.1]
    exact hsame

/-- Receiving a message costs no open socket its subscription. -/
theorem receive_attends {c : ClusterNode} {rawMessage : String} (hm : c.node.Mirrored)
    (h : c.Attends socket eventId) : (c.receive zod rawMessage).Attends socket eventId := by
  obtain ⟨hlistener, hfollows, hopen⟩ := h
  have hkept : (c.receive zod rawMessage).node.Follows socket eventId ∧
      (c.receive zod rawMessage).node.readyState socket = .OPEN := by
    unfold ClusterNode.receive
    simp only
    generalize c.adapter.emitMessage zod WS_SEAT_EVENTS_CHANNEL rawMessage = calls
    generalize c.node = node at hm hfollows hopen
    induction calls generalizing node with
    | nil => exact ⟨hfollows, hopen⟩
    | cons call calls ih =>
      have hdrops := Node.onSeatEvent_drops hm call.2
      have hready := onSeatEvent_readyState node call.2
      rw [List.foldl_cons]
      apply ih
      · exact hdrops.mirrored
      · exact (hdrops.follows socket eventId).mpr ⟨hfollows, fun hgone => hgone.2 hopen⟩
      · rw [hready]
        exact hopen
  exact ⟨hlistener, hkept⟩

/-- A socket attends as long as nothing happens at its own node but messages coming in. -/
theorem attends_step {l : Label ⊕ Cluster.Label} (hw : p.sink.Wired)
    (hl : ∀ k, l ≠ .inr (.own n k)) (hattends : (p.sink.nodes n).Attends socket eventId)
    (h : (platform digests zod).step p l = some q) :
    q.sink.Wired ∧ (q.sink.nodes n).Attends socket eventId := by
  have taken {k : Cluster.Label} (hk : ∀ label, k ≠ .own n label)
      (hstep : (webSocketCluster zod).step p.sink k = some q.sink) :
      q.sink.Wired ∧ (q.sink.nodes n).Attends socket eventId := by
    refine ⟨(cluster_step hw hstep).1, ?_⟩
    generalize q.sink = c at hstep ⊢
    cases k with
    | publish rawMessage =>
      cases hstep
      exact hattends
    | own m label =>
      obtain ⟨node, -, rfl⟩ := Option.map_eq_some_iff.mp hstep
      have hne : n ≠ m := fun heq => hk label (by rw [heq])
      rw [setNode_other node hne]
      exact hattends
    | receive m =>
      obtain ⟨rawMessage, -, rfl⟩ := Option.map_eq_some_iff.mp hstep
      by_cases hn : n = m
      · subst hn
        rw [setNode_self]
        exact receive_attends (hw.mirrored n) hattends
      · rw [setNode_other _ hn]
        exact hattends
    | reconnect m =>
      cases hstep
      by_cases hn : n = m
      · subst hn
        rw [setNode_self]
        exact hattends
      · rw [setNode_other _ hn]
        exact hattends
  cases l with
  | inl l =>
    obtain ⟨-, hfeed⟩ := Machine.pipeline_source h
    cases hnew : publication p.source q.source with
    | none =>
      rw [hnew] at hfeed
      have hsink : p.sink = q.sink := Option.some.inj hfeed
      rw [← hsink]
      exact ⟨hw, hattends⟩
    | some k =>
      rw [hnew] at hfeed
      obtain ⟨c, hstep, hnil⟩ := Machine.run_cons_some _ hfeed
      cases hnil
      obtain ⟨event, -, rfl⟩ := Option.map_eq_some_iff.mp hnew
      exact taken (by simp) hstep
  | inr k =>
    obtain ⟨-, hstep, -⟩ := Machine.pipeline_sink h
    exact taken (fun label heq => hl label (by rw [heq])) hstep

theorem attends_every (hw : p.sink.Wired) (hms : ∀ l ∈ ms, ∀ k, l ≠ .inr (.own n k))
    (hattends : (p.sink.nodes n).Attends socket eventId) :
    (platform digests zod).Every (fun p => (p.sink.nodes n).Attends socket eventId) p ms := by
  induction ms generalizing p with
  | nil => exact hattends
  | cons l ms ih =>
    refine ⟨hattends, fun q hstep => ?_⟩
    obtain ⟨hw', hattends'⟩ := attends_step hw (hms l List.mem_cons_self) hattends hstep
    exact ih hw' (fun k hk => hms k (List.mem_cons_of_mem _ hk)) hattends'

theorem span_end (hq : q.Relayed) (i : Nat) :
    q.span i q.sink.channel.length = q.source.shared.channel.drop i := by
  have hlength : q.sink.channel.length = q.source.shared.channel.length := by
    rw [hq, List.length_map]
  rw [Platform.span, hlength, List.take_length]

/-- What a client of an event sees of a seat is what the events say of it. -/
theorem lastSeen_roomFrames (events : List WebSocketSeatEvent) (seat : SeatName) :
    lastSeen (roomFrames events seat.1) seat = lastShown events seat := by
  unfold lastSeen lastShown
  congr 1
  induction events with
  | nil => rfl
  | cons event events ih =>
    rw [roomFrames_cons, List.filterMap_append, ih, List.filterMap_cons]
    by_cases hseat : event.payload.seat = seat
    · have hid : event.payload.eventId = seat.1 := by rw [← hseat, seat_eventId]
      simp [hid, hseat, framePayload_frame, visible_seat, visible_showing]
    · by_cases hid : event.payload.eventId = seat.1
      · simp [hid, hseat, framePayload_frame, visible_seat]
      · simp [hid, hseat]

theorem lastShown_drop {channel : List WebSocketSeatEvent} {seat : SeatName} {shown : Showing}
    (i : Nat) (h : lastShown (channel.drop i) seat = some shown) :
    lastShown channel seat = some shown := by
  have hsplit : lastShown (channel.take i ++ channel.drop i) seat = some shown := by
    unfold lastShown at h ⊢
    rw [List.filterMap_append, List.getLast?_append, h]
    rfl
  rw [List.take_append_drop] at hsplit
  exact hsplit

/-- A run keeps every seat up to date exactly when its events come in order. -/
theorem upToDate_along {world : World} {els : List Label} (hinit : Initial world)
    (hchannel : world.shared.channel = []) (hu : (engine digests).Along Steady world els)
    (hk : (engine digests).Along OwnKey world els) :
    (engine digests).Every UpToDate world els ↔ (engine digests).Along InOrder world els := by
  have hstart : UpToDate world := by
    intro seat _
    left
    rw [hchannel]
    rfl
  exact Machine.every_iff_along_within _
    (fun world l world' hv h _ => valid_step digests world l world' hv h)
    (fun world l world' hv hc h hd => upToDate_step hv hc h hd.1 hd.2)
    (initial_valid hinit) hstart (hu.and _ hk)

/-- Clients converge: where what is drawn and printed passes the schema, no publish fails, no hold
reaches its TTL, no two seats share a lock and no event is overtaken, a client that has stayed
sees, whenever no operation is in flight and its node has passed the whole channel, every seat it
has been told about as the table and Redis have it; and it has been told about every seat with an
event since it began to attend. -/
theorem clients_converge (hinit : start.Initial)
    (hchannel : start.source.shared.channel = [])
    (hstart : (platform digests zod).run start ls = some p)
    (hrun : (platform digests zod).run p ms = some q)
    (hwrites : (engine digests).Along (fun world l _ => l.writes zod world = true) start.source
      (engineLabels (ls ++ ms)))
    (hattends : (platform digests zod).Every
      (fun p => (p.sink.nodes n).Attends socket eventId) p ms)
    (hstays : ∀ k, Sum.inr k ∈ ms → k ≠ .reconnect n)
    (hsteady : (engine digests).Along Steady start.source (engineLabels (ls ++ ms)))
    (hownKey : (engine digests).Along OwnKey start.source (engineLabels (ls ++ ms)))
    (hinOrder : (engine digests).Along InOrder start.source (engineLabels (ls ++ ms)))
    (hquiescent : Quiescent q.source)
    (hpassed : (q.sink.nodes n).cursor = q.sink.channel.length) :
    ∃ got, q.frames n socket eventId = p.frames n socket eventId ++ got ∧
      ∀ seatId, lastSeen got (eventId, seatId) =
          lastShown (q.source.shared.channel.drop (p.sink.nodes n).cursor) (eventId, seatId) ∧
        (Listed q.source.shared (eventId, seatId) →
          ∀ shown, lastSeen got (eventId, seatId) = some shown →
            shown = showing q.source.shared (eventId, seatId)) := by
  have hall := whole_run hstart hrun
  have haccepted := run_accepted hinit.world hchannel hwrites (engine_run hall)
  have hframes := attended_frames hinit hstart hrun hattends hstays
  rw [frames_accepted eventId fun event hevent => haccepted event (mem_span hevent), hpassed,
    span_end (relayed_run hinit.relayed hall)] at hframes
  have hupToDate : UpToDate q.source :=
    ((upToDate_along hinit.world hchannel hsteady hownKey).mpr hinOrder).last _ (engine_run hall)
  have hconverged := upToDate_converged hupToDate hquiescent
  refine ⟨_, hframes, fun seatId => ?_⟩
  have hseen := lastSeen_roomFrames (q.source.shared.channel.drop (p.sink.nodes n).cursor)
    (eventId, seatId)
  refine ⟨hseen, fun hlisted shown hshown => ?_⟩
  rw [hseen] at hshown
  exact hconverged _ shown hlisted (lastShown_drop _ hshown)

end Relay

/-! ## A client that watches a seat -/

def quietPlatform : Platform := ⟨oneSeat, quietCluster⟩

theorem quietPlatform_initial : quietPlatform.Initial :=
  ⟨oneSeat_initial, quietCluster_initial, rfl⟩

/-- Socket 3 of node 0 follows the event. -/
def watching : List (Label ⊕ Cluster.Label) :=
  [.inr (.own 0 (.connection 3)), .inr (.own 0 (.message 3 (subscribeFrame "e")))]

theorem watching_run :
    ∃ p, (platform (fun _ => true) everyZod).run quietPlatform watching = some p ∧
      (p.sink.nodes 0).Attends 3 "e" ∧ p.frames 0 3 "e" = [] ∧ (p.sink.nodes 0).cursor = 0 := by
  have hview : ((platform (fun _ => true) everyZod).run quietPlatform watching).map (fun p =>
      (decide ((p.sink.nodes 0).Attends 3 "e"), p.frames 0 3 "e", (p.sink.nodes 0).cursor)) =
      some (true, [], 0) := by
    decide +kernel
  obtain ⟨p, hrun, hview⟩ := Option.map_eq_some_iff.mp hview
  simp only [Prod.mk.injEq, decide_eq_true_eq] at hview
  exact ⟨p, hrun, hview⟩

/-- Some steps of the engine, and the two events that they publish reach the node. -/
def watched (els : List Label) : List (Label ⊕ Cluster.Label) :=
  els.map .inl ++ [.inr (.receive 0), .inr (.receive 0)]

theorem watched_stays (els : List Label) : ∀ k, Sum.inr k ∈ watched els → k ≠ .reconnect 0 := by
  simp [watched]

theorem watched_engine (els : List Label) : engineLabels (watching ++ watched els) = els := by
  have hleft : engineLabels (els.map .inl) = els := by
    unfold engineLabels
    rw [List.filterMap_map]
    exact List.filterMap_some
  have hsplit : engineLabels (watching ++ watched els) =
      engineLabels watching ++ (engineLabels (els.map .inl) ++ []) := by
    unfold watched engineLabels
    rw [List.filterMap_append, List.filterMap_append]
    rfl
  rw [hsplit, hleft, List.append_nil]
  rfl

theorem watched_attends {p : Platform} {els : List Label}
    (hrun : (platform (fun _ => true) everyZod).run quietPlatform watching = some p)
    (hattends : (p.sink.nodes 0).Attends 3 "e") :
    (platform (fun _ => true) everyZod).Every
      (fun p => (p.sink.nodes 0).Attends 3 "e") p (watched els) := by
  obtain ⟨as, has, -, -⟩ := cluster_run hrun
  exact attends_every (reach_wired quietCluster_initial ⟨as, has⟩) (by simp [watched]) hattends

/-- The place of node 0 and of the channel, and what the channel has carried. -/
def feedReport (q : Platform) : (Nat × Nat) × List SeatEventPayload :=
  (((q.sink.nodes 0).cursor, q.sink.channel.length),
    q.source.shared.channel.map WebSocketSeatEvent.payload)

/-- Some steps of the engine bring the client the two events that they publish. -/
theorem watched_run {p : Platform} {els : List Label} {payloads : List SeatEventPayload}
    (hstart : (platform (fun _ => true) everyZod).run quietPlatform watching = some p)
    (hview : ((platform (fun _ => true) everyZod).run quietPlatform
      (watching ++ watched els)).map feedReport = some ((2, 2), payloads)) :
    ∃ q, (platform (fun _ => true) everyZod).run p (watched els) = some q ∧
      (engine fun _ => true).run oneSeat els = some q.source ∧
      (q.sink.nodes 0).cursor = q.sink.channel.length ∧ (q.sink.nodes 0).cursor = 2 ∧
      q.source.shared.channel.map WebSocketSeatEvent.payload = payloads := by
  obtain ⟨q, hall, hview⟩ := Option.map_eq_some_iff.mp hview
  obtain ⟨hpassed, hpayloads⟩ := Prod.mk.inj hview
  obtain ⟨hcursor, hlength⟩ := Prod.mk.inj hpassed
  have hengine := engine_run hall
  rw [watched_engine] at hengine
  rw [Machine.run_append, hstart, Option.bind_some] at hall
  exact ⟨q, hall, hengine, hcursor.trans hlength.symm, hcursor, hpayloads⟩

/-- What the two events of the seat's room tell the client. -/
theorem watched_payloads {q : Platform} {payloads : List SeatEventPayload}
    (h : q.source.shared.channel.map WebSocketSeatEvent.payload = payloads) :
    (roomFrames (q.span 0 2) "e").map framePayload =
      (((payloads.take 2).drop 0).filter fun payload => payload.eventId = "e").map
        fun payload => some payload.visible := by
  rw [roomFrames_payloads, Platform.span, List.map_drop, List.map_take, h]

theorem frames_truthful_purchase :
    ∃ q : Platform, (q.frames 0 3 "e").map framePayload =
        [some (.held "e" "s" "h" "1970-01-01T00:10:00.000Z" none), some (.booked "e" "s" "o")] ∧
      (∀ message ∈ q.frames 0 3 "e", ∃ payload, framePayload message = some payload ∧
        payload.eventId = "e" ∧
        Truthful q.source.shared (lockReplies (fun _ => true) oneSeat
          (engineLabels (watching ++ watched (purchase "u" "h" "o")))) payload) ∧
      (q.frames 0 3 "e").Pairwise (HoldFirst q.source.shared) := by
  obtain ⟨p, hstart, hattends, hnone, hfrom⟩ := watching_run
  have hview : ((platform (fun _ => true) everyZod).run quietPlatform
      (watching ++ watched (purchase "u" "h" "o"))).map feedReport =
      some ((2, 2),
        [.held "e" "s" "h" "1970-01-01T00:10:00.000Z" none, .booked "e" "s" "o"]) := by
    decide +kernel
  have hwrites : (engine fun _ => true).Along
      (fun world l _ => l.writes everyZod world = true) oneSeat (purchase "u" "h" "o") := by
    decide +kernel
  obtain ⟨q, hrun, hengine, -, hcursor, hpayloads⟩ := watched_run hstart hview
  have haccepted := run_accepted oneSeat_initial rfl hwrites hengine
  have hframes := attended_frames quietPlatform_initial hstart hrun
    (watched_attends hstart hattends) (watched_stays _)
  rw [frames_accepted "e" fun event hevent => haccepted event (mem_span hevent), hnone, hfrom,
    hcursor, List.nil_append] at hframes
  obtain ⟨htruthful, hfirst⟩ :=
    frames_truthful quietPlatform_initial (whole_run hstart hrun) 0 3 "e"
  refine ⟨q, ?_, htruthful, hfirst⟩
  rw [hframes, watched_payloads hpayloads]
  rfl

/-- The client is sent a hold and its release. -/
theorem release_run {p : Platform}
    (hstart : (platform (fun _ => true) everyZod).run quietPlatform watching = some p) :
    ∃ q, (platform (fun _ => true) everyZod).run p (watched (heldAndFreed "alice")) = some q ∧
      (engine fun _ => true).run oneSeat (heldAndFreed "alice") = some q.source ∧
      (q.sink.nodes 0).cursor = q.sink.channel.length ∧ (q.sink.nodes 0).cursor = 2 ∧
      q.source.shared.channel.map WebSocketSeatEvent.payload =
        [.held "e" "s" holdUuid "1970-01-01T00:10:00.000Z" (some "alice"),
          .released "e" "s" holdUuid "released"] := by
  apply watched_run hstart
  decide +kernel

theorem release_writes : (engine fun _ => true).Along
    (fun world l _ => l.writes everyZod world = true) oneSeat
    (engineLabels (watching ++ watched (heldAndFreed "alice"))) := by
  rw [watched_engine]
  decide +kernel

theorem clients_sent_exactly_release :
    ∃ q : Platform, (q.frames 0 3 "e").map framePayload =
        [some (.held "e" "s" holdUuid "1970-01-01T00:10:00.000Z" none),
          some (.released "e" "s" holdUuid "released")] ∧
      q.frames 0 3 "e" = roomFrames (q.span 0 2) "e" := by
  obtain ⟨p, hstart, hattends, hnone, hfrom⟩ := watching_run
  obtain ⟨q, hrun, -, -, hcursor, hpayloads⟩ := release_run hstart
  have hframes := clients_sent_exactly quietPlatform_initial rfl hstart hrun release_writes
    (watched_attends hstart hattends) (watched_stays _)
  rw [hnone, hfrom, hcursor, List.nil_append] at hframes
  refine ⟨q, ?_, hframes⟩
  rw [hframes, watched_payloads hpayloads]
  rfl

theorem clients_converge_release :
    ∃ (q : Platform) (got : List String), q.frames 0 3 "e" = got ∧
      ∀ seatId, lastSeen got ("e", seatId) =
          lastShown (q.source.shared.channel.drop 0) ("e", seatId) ∧
        (Listed q.source.shared ("e", seatId) →
          ∀ shown, lastSeen got ("e", seatId) = some shown →
            shown = showing q.source.shared ("e", seatId)) := by
  obtain ⟨p, hstart, hattends, hnone, hfrom⟩ := watching_run
  obtain ⟨q, hrun, hengine, hpassed, -, -⟩ := release_run hstart
  have hsteady : (engine fun _ => true).Along Steady oneSeat (heldAndFreed "alice") :=
    smooth_steady (by decide)
  have hlocks : (engine fun _ => true).Along (LocksOnly ("e", "s")) oneSeat
      (heldAndFreed "alice") := by
    decide +kernel
  obtain ⟨honly, hownKey⟩ := locksOnly_ownKey oneSeat_initial (fun _ => oneSeat_only) hlocks
  have hupToDateBy : (engine fun _ => true).Every (UpToDateBy [0, 1]) oneSeat
      (heldAndFreed "alice") := by
    decide +kernel
  have hupToDate : (engine fun _ => true).Every UpToDate oneSeat (heldAndFreed "alice") := by
    refine (honly.and _ hupToDateBy).mono _ fun world hworld seat hseat => ?_
    obtain ⟨honly, hupToDate⟩ := hworld
    rw [honly seat hseat]
    rcases hupToDate with hnone | hright | ⟨n, -, hn⟩
    · exact .inl hnone
    · exact .inr (.inl hright)
    · exact .inr (.inr ⟨.call n, hn⟩)
  have hinOrder := (upToDate_along oneSeat_initial rfl hsteady hownKey).mp hupToDate
  have hended : ((engine fun _ => true).run oneSeat (heldAndFreed "alice")).map (fun world =>
      [0, 1].map fun n => (world.point (.call n)).inFlight) = some [false, false] := by
    decide +kernel
  have hquiescent : Quiescent q.source := by
    apply callers_quiescent oneSeat_initial [0, 1] (by decide) hengine
    rw [hengine] at hended
    simpa using hended
  rw [← watched_engine (heldAndFreed "alice")] at hsteady hownKey hinOrder
  obtain ⟨got, hgot, hseats⟩ := clients_converge quietPlatform_initial rfl hstart hrun
    release_writes (watched_attends hstart hattends) (watched_stays _) hsteady hownKey hinOrder
    hquiescent hpassed
  rw [hnone, List.nil_append] at hgot
  rw [hfrom] at hseats
  exact ⟨q, got, hgot, hseats⟩

end TicketEngine
