import TicketEngine.Websocket.Rooms

namespace TicketEngine

/-! ## What has been accepted and removed -/

inductive Note
  | accepted (socket : Nat) (frame : WebSocketClientFrame)
  | removed (socket : Nat)
  deriving DecidableEq

def Note.concerns (socket : Nat) (eventId : String) : Note → Bool
  | .accepted other frame => other = socket ∧ frame.eventId = eventId
  | .removed other => other = socket

/-- The last accepted frame of the socket for the event is a subscribe, and the socket has not
been removed since. -/
def LastSubscribed (notes : List Note) (socket : Nat) (eventId : String) : Prop :=
  (notes.filter (Note.concerns socket eventId)).getLast? =
    some (.accepted socket (.subscribe eventId))

instance (notes : List Note) (socket : Nat) (eventId : String) :
    Decidable (LastSubscribed notes socket eventId) :=
  inferInstanceAs (Decidable (_ = _))

/-- What a step accepts, and whom it removes: a socket that closes, that a heartbeat terminates,
that is not open when an event is dispatched to its room, or that the closing server disconnects. -/
def Node.notes (node : Node) : Node.Label → List Note
  | .message socket data =>
    match parseFrame data, node.states socket with
    | some frame, some _ => [.accepted socket frame]
    | _, _ => []
  | .closed socket => [.removed socket]
  | .heartbeat =>
    (node.clients.elements.filter fun socket =>
      ((node.states socket).map SocketState.isAlive) ≠ some true).map .removed
  | .seatEvent event =>
    match node.rooms event.payload.eventId with
    | none => []
    | some room => (room.elements.filter (node.readyState · ≠ .OPEN)).map .removed
  | .close => node.clients.elements.map .removed
  | _ => []

/-- A node with its history. -/
structure Session where
  node : Node
  notes : List Note

/-- The WebSocket server of one node. -/
def webSocketServer : Machine Session Node.Label where
  step session l :=
    (session.node.step l).map fun node => ⟨node, session.notes ++ session.node.notes l⟩

section Notes

variable {notes : List Note} {socket : Nat} {eventId : String}

theorem lastSubscribed_nil : ¬ LastSubscribed [] socket eventId := by
  intro h
  cases h

theorem lastSubscribed_removed (sockets : List Nat) :
    LastSubscribed (notes ++ sockets.map .removed) socket eventId ↔
      LastSubscribed notes socket eventId ∧ ¬ socket ∈ sockets := by
  have hfilter : (sockets.map Note.removed).filter (Note.concerns socket eventId) =
      (sockets.filter (· = socket)).map .removed := by
    rw [List.filter_map]
    rfl
  unfold LastSubscribed
  rw [List.filter_append, hfilter]
  by_cases hmem : socket ∈ sockets
  · have hne : sockets.filter (· = socket) ≠ [] := by
      intro hnil
      have hin : socket ∈ sockets.filter (· = socket) := List.mem_filter.mpr ⟨hmem, by simp⟩
      rw [hnil] at hin
      exact absurd hin List.not_mem_nil
    constructor
    · intro h
      rw [List.getLast?_append_of_ne_nil _ (by simpa using hne)] at h
      obtain ⟨other, -, hother⟩ := List.mem_map.mp (List.mem_of_getLast? h)
      cases hother
    · intro h
      exact absurd hmem h.2
  · have hnil : sockets.filter (· = socket) = [] := by
      rw [List.filter_eq_nil_iff]
      intro other hother
      simp only [decide_eq_true_eq]
      rintro rfl
      exact hmem hother
    rw [hnil, List.map_nil, List.append_nil]
    exact (and_iff_left hmem).symm

theorem lastSubscribed_accepted (other : Nat) (frame : WebSocketClientFrame) :
    LastSubscribed (notes ++ [.accepted other frame]) socket eventId ↔
      if other = socket ∧ frame.eventId = eventId then frame = .subscribe eventId
      else LastSubscribed notes socket eventId := by
  unfold LastSubscribed
  rw [List.filter_append]
  split_ifs with hconcerns
  · obtain ⟨rfl, rfl⟩ := hconcerns
    rw [List.filter_cons_of_pos (by simp [Note.concerns])]
    simp
  · rw [List.filter_cons_of_neg (by simpa [Note.concerns] using hconcerns)]
    simp

end Notes

/-- Rooms, subscriptions and history agree. -/
structure Session.Exact (session : Session) : Prop where
  mirrored : session.node.Mirrored
  history : ∀ socket eventId, session.node.Follows socket eventId ↔
    LastSubscribed session.notes socket eventId

namespace Session

section Step

variable {session session' : Session} {l : Node.Label}

/-- A step that drops exactly the sockets it notes as removed. -/
theorem Exact.drops (he : session.Exact) {node : Node} {gone : Nat → Prop} {sockets : List Nat}
    (hdrops : Node.Drops gone session.node node)
    (hgone : ∀ socket, gone socket ↔ socket ∈ sockets) :
    Exact ⟨node, session.notes ++ sockets.map .removed⟩ := by
  refine ⟨hdrops.mirrored, fun socket eventId => ?_⟩
  rw [hdrops.follows, lastSubscribed_removed, he.history, hgone]

/-- A step that changes no membership and notes nothing. -/
theorem Exact.keeps (he : session.Exact) {node : Node}
    (hdrops : Node.Drops (fun _ => False) session.node node) :
    Exact ⟨node, session.notes ++ []⟩ := by
  have hnobody : ∀ socket, False ↔ socket ∈ ([] : List Nat) := by simp
  exact he.drops hdrops hnobody

theorem silent_iff (node : Node) (socket : Nat) :
    ((node.states socket).map SocketState.isAlive) ≠ some true ↔ node.Silent socket := by
  unfold Node.Silent
  cases h : node.states socket with
  | none => simp
  | some state =>
    obtain ⟨isAlive, eventIds⟩ := state
    simp

theorem exact_message (he : session.Exact) (socket : Nat) (data : String) :
    Exact ⟨session.node.onMessage socket data,
      session.notes ++ session.node.notes (.message socket data)⟩ := by
  simp only [Node.onMessage, Node.notes]
  cases hframe : parseFrame data with
  | none =>
    apply he.keeps
    exact Node.drops_nothing he.mirrored rfl (fun _ _ => Iff.rfl) fun _ => id
  | some frame =>
    cases hstate : session.node.states socket with
    | none =>
      apply he.keeps
      exact Node.drops_nothing he.mirrored rfl (fun _ _ => Iff.rfl) fun _ => id
    | some state =>
      cases frame with
      | subscribe eventId =>
        obtain ⟨hmirrored, hfollows⟩ := Node.subscribe_mirrored he.mirrored hstate
          eventId (Node.confirmation "subscription.confirmed" eventId)
        refine ⟨hmirrored, fun other id => ?_⟩
        rw [lastSubscribed_accepted, ← he.history]
        refine (hfollows other id).trans ?_
        by_cases hsame : socket = other ∧ (WebSocketClientFrame.subscribe eventId).eventId = id
        · rw [if_pos hsame]
          obtain ⟨rfl, rfl⟩ := hsame
          simp [WebSocketClientFrame.eventId]
        · rw [if_neg hsame]
          constructor
          · rintro (hold | ⟨rfl, rfl⟩)
            · exact hold
            · exact absurd ⟨rfl, rfl⟩ hsame
          · exact Or.inl
      | unsubscribe eventId =>
        obtain ⟨hmirrored, hfollows⟩ := Node.unsubscribe_mirrored he.mirrored hstate
          eventId (Node.confirmation "unsubscription.confirmed" eventId)
        refine ⟨hmirrored, fun other id => ?_⟩
        rw [lastSubscribed_accepted, ← he.history]
        refine (hfollows other id).trans ?_
        by_cases hsame : socket = other ∧ (WebSocketClientFrame.unsubscribe eventId).eventId = id
        · rw [if_pos hsame]
          obtain ⟨rfl, rfl⟩ := hsame
          simp [WebSocketClientFrame.eventId]
        · rw [if_neg hsame]
          apply and_iff_left
          rintro ⟨rfl, rfl⟩
          exact hsame ⟨rfl, rfl⟩

/-- The step lemma. -/
theorem exact_step (he : session.Exact) (h : webSocketServer.step session l = some session') :
    session'.Exact := by
  obtain ⟨node, hstep, rfl⟩ := Option.map_eq_some_iff.mp h
  cases l with
  | connection socket =>
    simp only [Node.step] at hstep
    split at hstep
    next hnew =>
      cases hstep
      exact he.keeps (Node.onConnection_drops he.mirrored hnew)
    · cases hstep
  | pong socket =>
    simp only [Node.step] at hstep
    split_ifs at hstep
    cases hstep
    exact he.keeps (Node.onPong_drops he.mirrored socket)
  | message socket data =>
    simp only [Node.step] at hstep
    split_ifs at hstep
    cases hstep
    exact exact_message he socket data
  | closing socket =>
    simp only [Node.step] at hstep
    split_ifs at hstep
    cases hstep
    apply he.keeps
    apply Node.drops_startClosing
    exact Node.drops_nothing he.mirrored rfl (fun _ _ => Iff.rfl) fun _ => id
  | closed socket =>
    simp only [Node.step] at hstep
    split_ifs at hstep
    cases hstep
    exact he.drops (Node.onClose_drops he.mirrored socket) fun other => List.mem_singleton.symm
  | heartbeat =>
    simp only [Node.step] at hstep
    split_ifs at hstep
    cases hstep
    apply he.drops (Node.heartbeat_drops he.mirrored)
    intro socket
    rw [List.mem_filter, decide_eq_true_eq, silent_iff]
    exact Iff.rfl
  | seatEvent event =>
    simp only [Node.step] at hstep
    split_ifs at hstep
    cases hstep
    simp only [Node.notes]
    have hdrops := Node.onSeatEvent_drops he.mirrored event
    cases hroom : session.node.rooms event.payload.eventId with
    | none =>
      apply he.keeps
      apply hdrops.congr
      simp [Node.InRoom, hroom]
    | some room =>
      apply he.drops hdrops
      intro socket
      simp only [Node.InRoom, hroom, Option.some.injEq, exists_eq_left', List.mem_filter,
        decide_eq_true_eq]
      exact Iff.rfl
  | close =>
    cases hstep
    exact he.drops (Node.close_drops he.mirrored) fun socket => Iff.rfl

end Step

/-- After `startWebSocketServer`. -/
def start : Session := ⟨Node.start, []⟩

theorem start_exact : start.Exact := by
  refine ⟨⟨fun socket eventId => ?_, fun eventId room h => nomatch h⟩, fun socket eventId => ?_⟩
  · constructor
    · rintro ⟨room, hroom, -⟩
      cases hroom
    · rintro ⟨state, hstate, -⟩
      cases hstate
  · constructor
    · rintro ⟨state, hstate, -⟩
      cases hstate
    · intro h
      exact absurd h lastSubscribed_nil

end Session

/-- Room membership and delivery are exact: in every reachable state rooms, subscriptions and
history agree and no room is empty, and the next seat event goes once to every open socket of its
room and to no other. -/
theorem room_delivery_exact {ls : List Node.Label} {session : Session}
    (hr : webSocketServer.run Session.start ls = some session) :
    (∀ socket eventId,
      (session.node.InRoom socket eventId ↔ session.node.Follows socket eventId) ∧
        (session.node.Follows socket eventId ↔
          LastSubscribed session.notes socket eventId)) ∧
      (∀ eventId room, session.node.rooms eventId = some room → room.size ≠ 0) ∧
      ∀ event session', webSocketServer.step session (.seatEvent event) = some session' →
        ∃ delivered : List (Nat × String),
          session'.node.sent = session.node.sent ++ delivered ∧ delivered.Nodup ∧
            ∀ socket message, (socket, message) ∈ delivered ↔
              session.node.InRoom socket event.payload.eventId ∧
                session.node.readyState socket = .OPEN ∧
                message = Json.stringify event.toJson := by
  have he : session.Exact := webSocketServer.run_invariant
    (fun _ _ _ hs hst => Session.exact_step hs hst) Session.start_exact hr
  refine ⟨fun socket eventId => ⟨he.mirrored.mirror socket eventId, he.history socket eventId⟩,
    ?_, ?_⟩
  · intro eventId room hroom hempty
    obtain ⟨socket, hsocket⟩ := he.mirrored.occupied eventId room hroom
    exact InsertionSet.size_eq_zero.mp hempty socket hsocket
  · intro event session' h
    obtain ⟨node, hstep, rfl⟩ := Option.map_eq_some_iff.mp h
    simp only [Node.step] at hstep
    split_ifs at hstep
    cases hstep
    exact Node.onSeatEvent_sent session.node event

/-- Two clients follow one event, and the second begins to close. -/
def twoFollowers : List Node.Label :=
  [.connection 0, .connection 1,
    .message 0 (Json.stringify (.obj [("type", .str "subscribe"), ("eventId", .str "a")])),
    .message 1 (Json.stringify (.obj [("type", .str "subscribe"), ("eventId", .str "a")])),
    .message 1 "no frame", .closing 1]

theorem room_delivery_exact_twoFollowers :
    ∃ session, webSocketServer.run Session.start twoFollowers = some session ∧
      session.node.InRoom 0 "a" ∧ session.node.InRoom 1 "a" := by
  have hnotes : (webSocketServer.run Session.start twoFollowers).map Session.notes =
      some [.accepted 0 (.subscribe "a"), .accepted 1 (.subscribe "a")] := by decide +kernel
  obtain ⟨session, hrun, hnotes⟩ := Option.map_eq_some_iff.mp hnotes
  have hsubscribed : ∀ socket, socket = 0 ∨ socket = 1 →
      LastSubscribed session.notes socket "a" := by
    rw [hnotes]
    rintro socket (rfl | rfl)
    · decide +kernel
    · decide +kernel
  obtain ⟨hrooms, -, -⟩ := room_delivery_exact hrun
  have hin (socket : Nat) (hsocket : socket = 0 ∨ socket = 1) :
      session.node.InRoom socket "a" := by
    obtain ⟨hmirror, hhistory⟩ := hrooms socket "a"
    exact hmirror.mpr (hhistory.mpr (hsubscribed socket hsocket))
  exact ⟨session, hrun, hin 0 (.inl rfl), hin 1 (.inr rfl)⟩

end TicketEngine
