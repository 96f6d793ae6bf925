import TicketEngine.Websocket.SocketServer

namespace TicketEngine

namespace Node

def InRoom (node : Node) (socket : Nat) (eventId : String) : Prop :=
  ∃ room, node.rooms eventId = some room ∧ socket ∈ room

def Follows (node : Node) (socket : Nat) (eventId : String) : Prop :=
  ∃ state, node.states socket = some state ∧ eventId ∈ state.eventIds

/-- The two structures mirror each other, and every room has somebody in it. -/
structure Mirrored (node : Node) : Prop where
  mirror : ∀ socket eventId, node.InRoom socket eventId ↔ node.Follows socket eventId
  occupied : ∀ eventId room, node.rooms eventId = some room → ∃ socket, socket ∈ room

section Rooms

variable {node : Node} {socket : Nat}

/-! ## Leaving rooms -/

theorem vacate_some {room : Option (InsertionSet Nat)} {left : InsertionSet Nat}
    (h : vacate socket room = some left) :
    ∃ full, room = some full ∧ left = full.delete socket ∧ ∃ other, other ∈ left := by
  unfold vacate at h
  cases room with
  | none => cases h
  | some full =>
    simp only at h
    split_ifs at h with hempty
    cases h
    refine ⟨full, rfl, rfl, ?_⟩
    by_contra hnobody
    exact hempty (InsertionSet.size_eq_zero.mpr (not_exists.mp hnobody))

theorem mem_vacate {room : Option (InsertionSet Nat)} {other : Nat} :
    (∃ left, vacate socket room = some left ∧ other ∈ left) ↔
      (∃ full, room = some full ∧ other ∈ full) ∧ other ≠ socket := by
  constructor
  · rintro ⟨left, hleft, hmem⟩
    obtain ⟨full, hfull, rfl, -⟩ := vacate_some hleft
    obtain ⟨hother, hne⟩ := InsertionSet.mem_delete.mp hmem
    exact ⟨⟨full, hfull, hother⟩, hne⟩
  · rintro ⟨⟨full, rfl, hother⟩, hne⟩
    have hmem : other ∈ full.delete socket := InsertionSet.mem_delete.mpr ⟨hother, hne⟩
    refine ⟨full.delete socket, ?_, hmem⟩
    apply if_neg
    intro hempty
    exact InsertionSet.size_eq_zero.mp hempty other hmem

theorem leaveRooms {ids : List String} (hdistinct : ids.Nodup)
    (rooms : String → Option (InsertionSet Nat)) (eventId : String) :
    ids.foldl (leaveRoom socket) rooms eventId =
      if eventId ∈ ids then vacate socket (rooms eventId) else rooms eventId := by
  induction ids generalizing rooms with
  | nil => simp
  | cons id ids ih =>
    obtain ⟨hfresh, hdistinct⟩ := List.nodup_cons.mp hdistinct
    rw [List.foldl_cons, ih hdistinct]
    by_cases hid : eventId = id
    · subst hid
      rw [if_neg hfresh, if_pos List.mem_cons_self]
      exact Function.update_self ..
    · have hsame : leaveRoom socket rooms id eventId = rooms eventId :=
        Function.update_of_ne hid ..
      simp only [hsame, List.mem_cons, hid, false_or]

theorem removeFromRooms_none (h : node.states socket = none) :
    node.removeFromRooms socket = node := by
  unfold removeFromRooms
  rw [h]

/-- A socket with a state leaves the rooms of its events and follows no event any more. -/
theorem removeFromRooms_some {state : SocketState} (h : node.states socket = some state) :
    node.removeFromRooms socket =
      { node with
        rooms := fun eventId =>
          if eventId ∈ state.eventIds then vacate socket (node.rooms eventId)
          else node.rooms eventId
        states := Function.update node.states socket
          (some { state with eventIds := .empty }) } := by
  have hloop : InsertionSet.forOf (fun _ => some state.eventIds) (leaveRoom socket) node.rooms =
      state.eventIds.elements.foldl (leaveRoom socket) node.rooms := by
    apply InsertionSet.forOf_eq_foldl
    · exact .of_fixed fun _ _ => rfl
    · rfl
  have hrooms : state.eventIds.elements.foldl (leaveRoom socket) node.rooms = fun eventId =>
      if eventId ∈ state.eventIds then vacate socket (node.rooms eventId)
      else node.rooms eventId := by
    funext eventId
    exact leaveRooms state.eventIds.distinct node.rooms eventId
  unfold removeFromRooms
  simp only [h, hloop, hrooms]
  rfl

/-- What `removeFromRooms` keeps. -/
theorem removeFromRooms_kept (node : Node) (socket : Nat) :
    (node.removeFromRooms socket).clients = node.clients ∧
      (node.removeFromRooms socket).readyState = node.readyState ∧
      (node.removeFromRooms socket).listening = node.listening ∧
      (node.removeFromRooms socket).sent = node.sent ∧
      ∀ other, other ≠ socket →
        (node.removeFromRooms socket).states other = node.states other := by
  cases h : node.states socket with
  | none =>
    rw [removeFromRooms_none h]
    exact ⟨rfl, rfl, rfl, rfl, fun _ _ => rfl⟩
  | some state =>
    rw [removeFromRooms_some h]
    exact ⟨rfl, rfl, rfl, rfl, fun other hother => Function.update_of_ne hother ..⟩

theorem follows_removed (node : Node) (socket other : Nat) (eventId : String) :
    (node.removeFromRooms socket).Follows other eventId ↔
      node.Follows other eventId ∧ other ≠ socket := by
  by_cases hother : other = socket
  · subst hother
    cases h : node.states other with
    | none =>
      rw [removeFromRooms_none h]
      simp [Follows, h]
    | some state =>
      rw [removeFromRooms_some h]
      simp [Follows]
  · have hsame := (removeFromRooms_kept node socket).2.2.2.2 other hother
    simp only [Follows, hsame, hother, ne_eq, not_false_eq_true, and_true]

theorem inRoom_removed (hm : node.Mirrored) (socket other : Nat) (eventId : String) :
    (node.removeFromRooms socket).InRoom other eventId ↔
      node.InRoom other eventId ∧ other ≠ socket := by
  cases h : node.states socket with
  | none =>
    rw [removeFromRooms_none h]
    constructor
    · intro hin
      refine ⟨hin, ?_⟩
      rintro rfl
      obtain ⟨state, hstate, -⟩ := (hm.mirror other eventId).mp hin
      rw [h] at hstate
      cases hstate
    · exact And.left
  | some state =>
    rw [removeFromRooms_some h]
    by_cases hfollowed : eventId ∈ state.eventIds
    · simp only [InRoom, hfollowed, if_true]
      exact mem_vacate
    · simp only [InRoom, hfollowed, if_false]
      constructor
      · intro hin
        refine ⟨hin, ?_⟩
        rintro rfl
        obtain ⟨state', hstate', hmem⟩ := (hm.mirror other eventId).mp hin
        rw [h] at hstate'
        cases hstate'
        exact hfollowed hmem
      · exact And.left

theorem Mirrored.removeFromRooms (hm : node.Mirrored) (socket : Nat) :
    (node.removeFromRooms socket).Mirrored := by
  constructor
  · intro other eventId
    rw [inRoom_removed hm, follows_removed, hm.mirror]
  · intro eventId room hroom
    cases h : node.states socket with
    | none =>
      rw [removeFromRooms_none h] at hroom
      exact hm.occupied eventId room hroom
    | some state =>
      rw [removeFromRooms_some h] at hroom
      simp only at hroom
      split_ifs at hroom
      · obtain ⟨-, -, -, hother⟩ := vacate_some hroom
        exact hother
      · exact hm.occupied eventId room hroom

/-! ## Sweeping over sockets -/

/-- Some sockets have left all their rooms, and nothing else has changed. -/
structure Drops (gone : Nat → Prop) (node node' : Node) : Prop where
  mirrored : node'.Mirrored
  follows : ∀ socket eventId,
    node'.Follows socket eventId ↔ node.Follows socket eventId ∧ ¬ gone socket

/-- The body of a loop drops the socket it is at if this is bad, and changes no other. -/
structure Sweep (bad : Node → Nat → Prop) (body : Node → Nat → Node) : Prop where
  drops : ∀ node socket, node.Mirrored →
    Drops (fun other => other = socket ∧ bad node socket) node (body node socket)
  steady : ∀ node socket other, other ≠ socket → (bad (body node socket) other ↔ bad node other)

/-- A sweep over distinct sockets drops the bad ones. -/
theorem Sweep.foldl {bad : Node → Nat → Prop} {body : Node → Nat → Node} (h : Sweep bad body)
    {sockets : List Nat} (hdistinct : sockets.Nodup) (hm : node.Mirrored) :
    Drops (fun socket => socket ∈ sockets ∧ bad node socket) node (sockets.foldl body node) := by
  induction sockets generalizing node with
  | nil => exact ⟨hm, fun socket eventId => by simp⟩
  | cons first sockets ih =>
    obtain ⟨hfresh, hdistinct⟩ := List.nodup_cons.mp hdistinct
    have hfirst := h.drops node first hm
    have hrest := ih hdistinct hfirst.mirrored
    refine ⟨hrest.mirrored, fun socket eventId => ?_⟩
    rw [List.foldl_cons, hrest.follows, hfirst.follows, and_assoc]
    apply and_congr_right
    intro _
    by_cases hsocket : socket = first
    · subst hsocket
      simp [hfresh]
    · simp [hsocket, h.steady node first socket hsocket]

theorem drops_removed (hm : node.Mirrored) (socket : Nat) :
    Drops (· = socket) node (node.removeFromRooms socket) :=
  ⟨hm.removeFromRooms socket, follows_removed node socket⟩

theorem drops_nothing {gone : Nat → Prop} {node' : Node} (hm : node.Mirrored)
    (hrooms : node'.rooms = node.rooms)
    (hfollows : ∀ socket eventId, node'.Follows socket eventId ↔ node.Follows socket eventId)
    (hgone : ∀ socket, ¬ gone socket) : Drops gone node node' := by
  refine ⟨⟨fun socket eventId => ?_, ?_⟩, fun socket eventId => ?_⟩
  · rw [hfollows, ← hm.mirror]
    simp only [InRoom, hrooms]
  · rw [hrooms]
    exact hm.occupied
  · simp [hfollows, hgone]

theorem startClosing_kept (node : Node) (socket : Nat) :
    (node.startClosing socket).rooms = node.rooms ∧
      (node.startClosing socket).states = node.states ∧
      (node.startClosing socket).clients = node.clients := by
  unfold startClosing
  split
  · exact ⟨rfl, rfl, rfl⟩
  · exact ⟨rfl, rfl, rfl⟩

theorem drops_startClosing {gone : Nat → Prop} {node' : Node} (h : Drops gone node node')
    (socket : Nat) : Drops gone node (node'.startClosing socket) := by
  obtain ⟨hrooms, hstates, -⟩ := startClosing_kept node' socket
  refine ⟨⟨fun other eventId => ?_, ?_⟩, fun other eventId => ?_⟩
  · simp only [InRoom, Follows, hrooms, hstates]
    exact h.mirrored.mirror other eventId
  · rw [hrooms]
    exact h.mirrored.occupied
  · rw [← h.follows]
    simp only [Follows, hstates]

theorem Drops.congr {gone gone' : Nat → Prop} {node' : Node} (h : Drops gone node node')
    (heq : ∀ socket, gone socket ↔ gone' socket) : Drops gone' node node' :=
  ⟨h.mirrored, fun socket eventId => by rw [h.follows, heq]⟩

theorem deliver_sweep (message : String) :
    Sweep (fun node socket => node.readyState socket ≠ .OPEN) (deliver message) := by
  constructor
  · intro node socket hm
    unfold deliver
    split_ifs with hopen
    · exact drops_nothing hm rfl (fun _ _ => Iff.rfl) fun other hother => hother.2 hopen
    · exact (drops_removed hm socket).congr fun other => by simp [hopen]
  · intro node socket other hother
    unfold deliver
    split_ifs
    · exact Iff.rfl
    · rw [(removeFromRooms_kept node socket).2.1]

/-- A client that has not answered the last ping. -/
def Silent (node : Node) (socket : Nat) : Prop :=
  ¬ ∃ eventIds, node.states socket = some ⟨true, eventIds⟩

theorem beat_alive {eventIds : InsertionSet String}
    (h : node.states socket = some ⟨true, eventIds⟩) :
    node.beat socket = node.setState socket ⟨false, eventIds⟩ := by
  unfold beat
  rw [h]

theorem beat_silent (h : node.Silent socket) :
    node.beat socket = (node.removeFromRooms socket).startClosing socket := by
  unfold beat
  split
  next eventIds hstate => exact absurd ⟨eventIds, hstate⟩ h
  · rfl

theorem beat_sweep : Sweep Silent beat := by
  constructor
  · intro node socket hm
    by_cases hsilent : node.Silent socket
    · rw [beat_silent hsilent]
      apply drops_startClosing
      exact (drops_removed hm socket).congr fun other => by simp [hsilent]
    · obtain ⟨eventIds, hstate⟩ := not_not.mp hsilent
      rw [beat_alive hstate]
      have hrooms : (node.setState socket ⟨false, eventIds⟩).rooms = node.rooms := rfl
      apply drops_nothing hm hrooms
      · intro other eventId
        by_cases hother : other = socket
        · subst hother
          simp [Follows, setState, hstate]
        · simp [Follows, setState, hother]
      · exact fun other hother => hsilent hother.2
  · intro node socket other hother
    by_cases hsilent : node.Silent socket
    · rw [beat_silent hsilent]
      simp only [Silent, (startClosing_kept _ _).2.1,
        (removeFromRooms_kept node socket).2.2.2.2 other hother]
    · obtain ⟨eventIds, hstate⟩ := not_not.mp hsilent
      rw [beat_alive hstate]
      simp [Silent, setState, hother]

theorem close_sweep :
    Sweep (fun _ _ => True) fun node socket =>
      (node.removeFromRooms socket).startClosing socket := by
  constructor
  · intro node socket hm
    apply drops_startClosing
    exact (drops_removed hm socket).congr fun other => by simp
  · exact fun _ _ _ _ => Iff.rfl

/-! ## The loops of the handlers -/

theorem heartbeat_drops (hm : node.Mirrored) :
    Drops (fun socket => socket ∈ node.clients ∧ node.Silent socket) node node.heartbeat := by
  have hloop : node.heartbeat = node.clients.elements.foldl beat node := by
    apply InsertionSet.forOf_eq_foldl
    · apply InsertionSet.DeletesCurrent.of_fixed
      intro node socket
      unfold beat
      split
      · rfl
      · rw [(startClosing_kept _ _).2.2, (removeFromRooms_kept node socket).1]
    · rfl
  rw [hloop]
  exact beat_sweep.foldl node.clients.distinct hm

theorem close_drops (hm : node.Mirrored) : Drops (· ∈ node.clients) node node.close := by
  have hloop : InsertionSet.forOf (fun node : Node => some node.clients)
      (fun node socket => (node.removeFromRooms socket).startClosing socket) node =
      node.clients.elements.foldl
        (fun node socket => (node.removeFromRooms socket).startClosing socket) node := by
    apply InsertionSet.forOf_eq_foldl
    · apply InsertionSet.DeletesCurrent.of_fixed
      intro node socket
      rw [(startClosing_kept _ _).2.2, (removeFromRooms_kept node socket).1]
    · rfl
  have hdrops := (close_sweep.foldl node.clients.distinct hm).congr
    (fun socket => and_iff_left (b := True) trivial)
  unfold close
  rw [hloop]
  exact ⟨⟨hdrops.mirrored.mirror, hdrops.mirrored.occupied⟩, hdrops.follows⟩

/-- Dispatching to a room deletes from it only the member the loop is at. -/
theorem deliver_deletes (eventId message : String) :
    InsertionSet.DeletesCurrent (fun node : Node => node.rooms eventId) (deliver message) := by
  intro node room socket hroom
  unfold deliver
  split_ifs
  · exact .inl hroom
  · cases hstate : node.states socket with
    | none =>
      rw [removeFromRooms_none hstate]
      exact .inl hroom
    | some state =>
      rw [removeFromRooms_some hstate]
      simp only [hroom]
      split_ifs
      · unfold vacate
        simp only
        split_ifs with hempty
        · exact .inr (.inr ⟨rfl, hempty⟩)
        · exact .inr (.inl rfl)
      · exact .inl rfl

theorem onSeatEvent_room {event : WebSocketSeatEvent} {room : InsertionSet Nat}
    (h : node.rooms event.payload.eventId = some room) :
    node.onSeatEvent event =
      room.elements.foldl (deliver (Json.stringify event.toJson)) node :=
  InsertionSet.forOf_eq_foldl (deliver_deletes _ _) h

theorem onSeatEvent_none {event : WebSocketSeatEvent}
    (h : node.rooms event.payload.eventId = none) : node.onSeatEvent event = node :=
  InsertionSet.forOf_none h

theorem onSeatEvent_drops (hm : node.Mirrored) (event : WebSocketSeatEvent) :
    Drops (fun socket => node.InRoom socket event.payload.eventId ∧
      node.readyState socket ≠ .OPEN) node (node.onSeatEvent event) := by
  cases h : node.rooms event.payload.eventId with
  | none =>
    rw [onSeatEvent_none h]
    exact drops_nothing hm rfl (fun _ _ => Iff.rfl) (by simp [InRoom, h])
  | some room =>
    rw [onSeatEvent_room h]
    apply ((deliver_sweep (Json.stringify event.toJson)).foldl room.distinct hm).congr
    intro socket
    simp only [InRoom, h, Option.some.injEq, exists_eq_left']
    exact Iff.rfl

/-- The texts a dispatch hands out: one for each open socket it visits. -/
theorem deliver_sent (message : String) (sockets : List Nat) (node : Node) :
    (sockets.foldl (deliver message) node).sent =
      node.sent ++ (sockets.filter (node.readyState · = .OPEN)).map (·, message) := by
  induction sockets generalizing node with
  | nil => simp
  | cons socket sockets ih =>
    rw [List.foldl_cons, ih]
    by_cases hopen : node.readyState socket = .OPEN
    · have hbody : deliver message node socket = node.send socket message := if_pos hopen
      have hready : (node.send socket message).readyState = node.readyState := rfl
      have hsent : (node.send socket message).sent = node.sent ++ [(socket, message)] := rfl
      rw [hbody, hready, hsent, List.filter_cons_of_pos (by simpa using hopen), List.map_cons,
        List.append_assoc, List.singleton_append]
    · have hbody : deliver message node socket = node.removeFromRooms socket := if_neg hopen
      obtain ⟨-, hready, -, hsent, -⟩ := removeFromRooms_kept node socket
      rw [hbody, hready, hsent, List.filter_cons_of_neg (by simpa using hopen)]

/-- Exactly the open sockets of the room are sent the event, each once. -/
theorem onSeatEvent_sent (node : Node) (event : WebSocketSeatEvent) :
    ∃ delivered : List (Nat × String), (node.onSeatEvent event).sent = node.sent ++ delivered ∧
      delivered.Nodup ∧ ∀ socket message, (socket, message) ∈ delivered ↔
        node.InRoom socket event.payload.eventId ∧ node.readyState socket = .OPEN ∧
          message = Json.stringify event.toJson := by
  cases h : node.rooms event.payload.eventId with
  | none =>
    rw [onSeatEvent_none h]
    exact ⟨[], (List.append_nil _).symm, List.nodup_nil, by simp [InRoom, h]⟩
  | some room =>
    rw [onSeatEvent_room h]
    refine ⟨_, deliver_sent _ _ _, ?_, ?_⟩
    · apply List.Nodup.map
      · intro a b hab
        exact congrArg Prod.fst hab
      · exact room.distinct.filter _
    · intro socket message
      simp only [InRoom, h, Option.some.injEq, exists_eq_left', List.mem_map, List.mem_filter,
        decide_eq_true_eq, Prod.mk.injEq, InsertionSet.mem_elements]
      constructor
      · rintro ⟨other, ⟨hroom, hopen⟩, rfl, rfl⟩
        exact ⟨hroom, hopen, rfl⟩
      · rintro ⟨hroom, hopen, rfl⟩
        exact ⟨socket, ⟨hroom, hopen⟩, rfl, rfl⟩

theorem onConnection_drops (hm : node.Mirrored) (hnew : node.states socket = none) :
    Drops (fun _ => False) node (node.onConnection socket) := by
  have hrooms : (node.onConnection socket).rooms = node.rooms := rfl
  apply drops_nothing hm hrooms
  · intro other eventId
    by_cases hother : other = socket
    · subst hother
      simp [Follows, onConnection, setState, hnew]
    · simp [Follows, onConnection, setState, hother]
  · exact fun _ => id

theorem onPong_drops (hm : node.Mirrored) (socket : Nat) :
    Drops (fun _ => False) node (node.onPong socket) := by
  unfold onPong
  cases hstate : node.states socket with
  | none => exact drops_nothing hm rfl (fun _ _ => Iff.rfl) fun _ => id
  | some state =>
    have hrooms : (node.setState socket { state with isAlive := true }).rooms = node.rooms := rfl
    apply drops_nothing hm hrooms
    · intro other eventId
      by_cases hother : other = socket
      · subst hother
        simp [Follows, setState, hstate]
      · simp [Follows, setState, hother]
    · exact fun _ => id

theorem onClose_drops (hm : node.Mirrored) (socket : Nat) :
    Drops (· = socket) node (node.onClose socket) := by
  unfold onClose
  have hm' : Mirrored { node with
      clients := node.clients.delete socket
      readyState := Function.update node.readyState socket .CLOSED } :=
    ⟨hm.mirror, hm.occupied⟩
  exact ⟨hm'.removeFromRooms socket, follows_removed _ socket⟩

theorem subscribe_mirrored {state : SocketState} (hm : node.Mirrored)
    (hstate : node.states socket = some state) (eventId message : String) :
    let node' := (({ node with
      rooms := Function.update node.rooms eventId
        (some (((node.rooms eventId).getD .empty).add socket)) } : Node).setState socket
          { state with eventIds := state.eventIds.add eventId }).send socket message
    node'.Mirrored ∧ ∀ other id,
      node'.Follows other id ↔ node.Follows other id ∨ other = socket ∧ id = eventId := by
  intro node'
  have hfollows : ∀ other id,
      node'.Follows other id ↔ node.Follows other id ∨ other = socket ∧ id = eventId := by
    intro other id
    by_cases hother : other = socket
    · subst hother
      simp [node', Follows, send, setState, hstate]
    · simp [node', Follows, send, setState, hother]
  have hroom : ∀ other, other ∈ (node.rooms eventId).getD .empty ↔ node.InRoom other eventId := by
    intro other
    cases h : node.rooms eventId with
    | none => simp [InRoom, h]
    | some room => simp [InRoom, h]
  refine ⟨⟨fun other id => ?_, fun id room hid => ?_⟩, hfollows⟩
  · rw [hfollows, ← hm.mirror]
    by_cases hid : id = eventId
    · subst hid
      simp only [node', InRoom, send, setState, Function.update_self, Option.some.injEq,
        exists_eq_left', InsertionSet.mem_add, hroom, and_true]
    · simp [node', InRoom, send, setState, hid]
  · by_cases heq : id = eventId
    · subst heq
      simp only [node', send, setState, Function.update_self, Option.some.injEq] at hid
      exact ⟨socket, hid ▸ InsertionSet.mem_add.mpr (.inr rfl)⟩
    · simp only [node', send, setState, Function.update_of_ne heq] at hid
      exact hm.occupied id room hid

theorem unsubscribe_mirrored {state : SocketState} (hm : node.Mirrored)
    (hstate : node.states socket = some state) (eventId message : String) :
    let node' := (({ node with rooms := leaveRoom socket node.rooms eventId } : Node).setState
      socket { state with eventIds := state.eventIds.delete eventId }).send socket message
    node'.Mirrored ∧ ∀ other id,
      node'.Follows other id ↔ node.Follows other id ∧ ¬ (other = socket ∧ id = eventId) := by
  intro node'
  have hfollows : ∀ other id,
      node'.Follows other id ↔ node.Follows other id ∧ ¬ (other = socket ∧ id = eventId) := by
    intro other id
    by_cases hother : other = socket
    · subst hother
      simp [node', Follows, send, setState, hstate]
    · simp [node', Follows, send, setState, hother]
  refine ⟨⟨fun other id => ?_, fun id room hid => ?_⟩, hfollows⟩
  · rw [hfollows, ← hm.mirror]
    by_cases hid : id = eventId
    · subst hid
      simp only [node', InRoom, send, setState, leaveRoom, Function.update_self, and_true]
      exact mem_vacate
    · simp [node', InRoom, send, setState, leaveRoom, hid]
  · by_cases heq : id = eventId
    · subst heq
      simp only [node', send, setState, leaveRoom, Function.update_self] at hid
      obtain ⟨-, -, -, hother⟩ := vacate_some hid
      exact hother
    · simp only [node', send, setState, leaveRoom, Function.update_of_ne heq] at hid
      exact hm.occupied id room hid

end Rooms

end Node

end TicketEngine
