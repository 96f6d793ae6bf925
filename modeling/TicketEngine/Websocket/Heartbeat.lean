import Mathlib.Data.List.Induction
import TicketEngine.Websocket.RoomHistory

namespace TicketEngine

/-! ## Who has answered -/

/-- What a step says about whether a client is there: it connects or answers, or the heartbeat
asks it again. -/
def Node.Label.signOfLife (socket : Nat) : Node.Label → Option Bool
  | .connection other | .pong other => if other = socket then some true else none
  | .heartbeat => some false
  | _ => none

/-- The client has connected or answered since the last heartbeat. -/
def Answered (ls : List Node.Label) (socket : Nat) : Prop :=
  (ls.filterMap (Node.Label.signOfLife socket)).getLast? = some true

instance (ls : List Node.Label) (socket : Nat) : Decidable (Answered ls socket) :=
  inferInstanceAs (Decidable (_ = _))

namespace Node

/-- The flag that the heartbeat looks at. -/
def aliveFlag (node : Node) (socket : Nat) : Option Bool :=
  (node.states socket).map SocketState.isAlive

/-- The steps that leave all flags and the set of clients alone. -/
structure Unmoved (node node' : Node) : Prop where
  clients : node'.clients = node.clients
  flags : ∀ socket, node'.aliveFlag socket = node.aliveFlag socket

section Flags

variable {node node' : Node}

theorem Unmoved.refl (node : Node) : Unmoved node node := ⟨rfl, fun _ => rfl⟩

theorem Unmoved.trans {node'' : Node} (h : Unmoved node node') (k : Unmoved node' node'') :
    Unmoved node node'' :=
  ⟨k.clients.trans h.clients, fun socket => (k.flags socket).trans (h.flags socket)⟩

theorem aliveFlag_setState (node : Node) (socket other : Nat) (state : SocketState) :
    (node.setState socket state).aliveFlag other =
      if other = socket then some state.isAlive else node.aliveFlag other := by
  unfold aliveFlag setState
  simp only [Function.update_apply]
  split_ifs
  · rfl
  · rfl

theorem setState_unmoved {socket : Nat} {state state' : SocketState}
    (h : node.states socket = some state) (hflag : state'.isAlive = state.isAlive) :
    Unmoved node (node.setState socket state') := by
  refine ⟨rfl, fun other => ?_⟩
  rw [aliveFlag_setState]
  split_ifs with hother
  · subst hother
    rw [hflag, aliveFlag, h]
    rfl
  · rfl

theorem removeFromRooms_unmoved (node : Node) (socket : Nat) :
    Unmoved node (node.removeFromRooms socket) := by
  cases h : node.states socket with
  | none =>
    rw [removeFromRooms_none h]
    exact Unmoved.refl node
  | some state =>
    refine ⟨(removeFromRooms_kept node socket).1, fun other => ?_⟩
    rw [removeFromRooms_some h]
    simp only [aliveFlag, Function.update_apply]
    split_ifs with hother
    · subst hother
      rw [h]
      rfl
    · rfl

theorem startClosing_unmoved (node : Node) (socket : Nat) :
    Unmoved node (node.startClosing socket) := by
  obtain ⟨-, hstates, hclients⟩ := startClosing_kept node socket
  refine ⟨hclients, fun other => ?_⟩
  rw [aliveFlag, aliveFlag, hstates]

theorem onMessage_unmoved (node : Node) (socket : Nat) (data : String) :
    Unmoved node (node.onMessage socket data) := by
  unfold onMessage
  cases parseFrame data with
  | none => exact ⟨rfl, fun _ => rfl⟩
  | some frame =>
    cases hstate : node.states socket with
    | none => exact Unmoved.refl node
    | some state =>
      cases frame with
      | subscribe eventId =>
        have hset : Unmoved node (node.setState socket
            { state with eventIds := state.eventIds.add eventId }) :=
          setState_unmoved hstate rfl
        exact ⟨rfl, hset.flags⟩
      | unsubscribe eventId =>
        have hset : Unmoved node (node.setState socket
            { state with eventIds := state.eventIds.delete eventId }) :=
          setState_unmoved hstate rfl
        exact ⟨rfl, hset.flags⟩

theorem deliver_unmoved (message : String) (node : Node) (socket : Nat) :
    Unmoved node (deliver message node socket) := by
  unfold deliver
  split_ifs
  · exact ⟨rfl, fun _ => rfl⟩
  · exact removeFromRooms_unmoved node socket

theorem onSeatEvent_unmoved (node : Node) (event : WebSocketSeatEvent) :
    Unmoved node (node.onSeatEvent event) :=
  InsertionSet.forOf_keeps (Unmoved node)
    (fun _ socket h => h.trans (deliver_unmoved _ _ socket)) (Unmoved.refl node)

theorem close_unmoved (node : Node) : Unmoved node node.close := by
  have hloop : Unmoved node (InsertionSet.forOf (fun node : Node => some node.clients)
      (fun node socket => (node.removeFromRooms socket).startClosing socket) node) :=
    InsertionSet.forOf_keeps (Unmoved node)
      (fun _ socket h => (h.trans (removeFromRooms_unmoved _ socket)).trans
        (startClosing_unmoved _ socket)) (Unmoved.refl node)
  exact ⟨hloop.clients, hloop.flags⟩

/-! ## The heartbeat, socket by socket -/

/-- What a heartbeat does to a client: it asks one that has answered again, and drops one that
has not. -/
def pulse : Option SocketState × ReadyState → Option SocketState × ReadyState
  | (some ⟨true, eventIds⟩, ready) => (some ⟨false, eventIds⟩, ready)
  | (state, ready) =>
    (state.map fun s => { s with eventIds := .empty },
      if ready = .OPEN then .CLOSING else ready)

theorem startClosing_ready (node : Node) (socket : Nat) :
    (node.startClosing socket).readyState socket =
        (if node.readyState socket = .OPEN then .CLOSING else node.readyState socket) ∧
      ∀ other, other ≠ socket →
        (node.startClosing socket).readyState other = node.readyState other := by
  unfold startClosing
  cases hready : node.readyState socket with
  | OPEN =>
    refine ⟨Function.update_self .., fun other hother => Function.update_of_ne hother ..⟩
  | CLOSING => exact ⟨hready, fun _ _ => rfl⟩
  | CLOSED => exact ⟨hready, fun _ _ => rfl⟩

theorem removed_self (node : Node) (socket : Nat) :
    (node.removeFromRooms socket).states socket =
      (node.states socket).map fun s => { s with eventIds := .empty } := by
  cases h : node.states socket with
  | none =>
    rw [removeFromRooms_none h, h]
    rfl
  | some state =>
    rw [removeFromRooms_some h]
    exact Function.update_self ..

theorem beat_self (node : Node) (socket : Nat) :
    ((node.beat socket).states socket, (node.beat socket).readyState socket) =
      pulse (node.states socket, node.readyState socket) := by
  have dropped : (((node.removeFromRooms socket).startClosing socket).states socket,
      ((node.removeFromRooms socket).startClosing socket).readyState socket) =
      ((node.states socket).map (fun s => { s with eventIds := .empty }),
        if node.readyState socket = .OPEN then .CLOSING else node.readyState socket) := by
    rw [(startClosing_kept _ socket).2.1, (startClosing_ready _ socket).1, removed_self,
      (removeFromRooms_kept node socket).2.1]
  unfold beat
  cases h : node.states socket with
  | none =>
    rw [h] at dropped
    exact dropped
  | some state =>
    obtain ⟨isAlive, eventIds⟩ := state
    rw [h] at dropped
    cases isAlive with
    | false => exact dropped
    | true => simp [setState, pulse]

theorem beat_other (node : Node) (socket other : Nat) (hother : other ≠ socket) :
    ((node.beat socket).states other, (node.beat socket).readyState other) =
      (node.states other, node.readyState other) := by
  have hkept := removeFromRooms_kept node socket
  unfold beat
  split
  · simp [setState, hother]
  · rw [(startClosing_kept _ socket).2.1, (startClosing_ready _ socket).2 other hother,
      hkept.2.2.2.2 other hother, hkept.2.1]

/-- Every client is asked or dropped by what is known of it alone. -/
theorem heartbeat_pulse (node : Node) (socket : Nat) :
    (node.heartbeat.states socket, node.heartbeat.readyState socket) =
      if socket ∈ node.clients then pulse (node.states socket, node.readyState socket)
      else (node.states socket, node.readyState socket) := by
  have hloop : node.heartbeat = node.clients.elements.foldl beat node := by
    apply InsertionSet.forOf_eq_foldl
    · apply InsertionSet.DeletesCurrent.of_fixed
      intro node socket
      unfold beat
      split
      · rfl
      · rw [(startClosing_kept _ _).2.2, (removeFromRooms_kept node socket).1]
    · rfl
  rw [hloop]
  exact InsertionSet.foldl_local (fun node socket => (node.states socket, node.readyState socket))
    beat_self beat_other node.clients.distinct node socket

theorem heartbeat_clients (node : Node) : node.heartbeat.clients = node.clients := by
  refine InsertionSet.forOf_keeps (fun node' : Node => node'.clients = node.clients)
    (fun node' socket h => ?_) rfl
  unfold beat
  split
  · exact h
  · rw [(startClosing_kept _ _).2.2, (removeFromRooms_kept node' socket).1]
    exact h

end Flags

section Run

variable {ls : List Label} {l : Label} {node node' : Node} {socket : Nat}

theorem answered_append (ls : List Label) (l : Label) (socket : Nat) :
    Answered (ls ++ [l]) socket ↔
      l.signOfLife socket = some true ∨ l.signOfLife socket = none ∧ Answered ls socket := by
  unfold Answered
  rw [List.filterMap_append]
  cases hsign : l.signOfLife socket with
  | none => simp [hsign]
  | some sign => simp [hsign]

/-- The flag of every client says whether it has answered since the last heartbeat. -/
def Tracked (ls : List Label) (node : Node) : Prop :=
  ∀ socket, socket ∈ node.clients → node.aliveFlag socket = some (decide (Answered ls socket))

theorem Tracked.unmoved (ht : Tracked ls node) (hl : ∀ socket, l.signOfLife socket = none)
    (h : Unmoved node node') : Tracked (ls ++ [l]) node' := by
  intro socket hsocket
  rw [h.clients] at hsocket
  rw [h.flags, ht socket hsocket]
  simp [answered_append, hl]

theorem tracked_connection (ht : Tracked ls node) (socket : Nat) :
    Tracked (ls ++ [.connection socket]) (node.onConnection socket) := by
  intro other hother
  have hclient : other ∈ node.clients ∨ other = socket := InsertionSet.mem_add.mp hother
  rw [onConnection, aliveFlag_setState]
  split_ifs with hsame
  · subst hsame
    simp [answered_append, Label.signOfLife]
  · have hold := ht other (hclient.resolve_right hsame)
    simpa [answered_append, Label.signOfLife, Ne.symm hsame, aliveFlag] using hold

theorem tracked_pong (ht : Tracked ls node) (socket : Nat) :
    Tracked (ls ++ [.pong socket]) (node.onPong socket) := by
  unfold onPong
  cases hstate : node.states socket with
  | none =>
    intro other hother
    have hold := ht other hother
    have hne : other ≠ socket := by
      rintro rfl
      rw [aliveFlag, hstate] at hold
      cases hold
    simpa [answered_append, Label.signOfLife, Ne.symm hne] using hold
  | some state =>
    intro other hother
    have hold := ht other hother
    simp only [aliveFlag_setState]
    split_ifs with hsame
    · subst hsame
      simp [answered_append, Label.signOfLife]
    · simpa [answered_append, Label.signOfLife, Ne.symm hsame] using hold

theorem tracked_closed (ht : Tracked ls node) (socket : Nat) :
    Tracked (ls ++ [.closed socket]) (node.onClose socket) := by
  intro other hother
  unfold onClose at hother ⊢
  have hunmoved := removeFromRooms_unmoved { node with
    clients := node.clients.delete socket
    readyState := Function.update node.readyState socket .CLOSED } socket
  rw [hunmoved.clients] at hother
  rw [hunmoved.flags]
  have hold := ht other (InsertionSet.mem_delete.mp hother).1
  simpa [answered_append, Label.signOfLife, aliveFlag] using hold

theorem tracked_heartbeat (ht : Tracked ls node) :
    Tracked (ls ++ [.heartbeat]) node.heartbeat := by
  intro socket hsocket
  rw [heartbeat_clients] at hsocket
  have hpulse := heartbeat_pulse node socket
  rw [if_pos hsocket] at hpulse
  have hold := ht socket hsocket
  have hstates := congrArg Prod.fst hpulse
  unfold aliveFlag at hold ⊢
  cases hstate : node.states socket with
  | none =>
    rw [hstate] at hold
    cases hold
  | some state =>
    obtain ⟨isAlive, eventIds⟩ := state
    simp only [hstate] at hstates
    rw [hstates]
    cases isAlive with
    | false => simp [pulse, answered_append, Label.signOfLife]
    | true => simp [pulse, answered_append, Label.signOfLife]

theorem tracked_step (ht : Tracked ls node) (h : node.step l = some node') :
    Tracked (ls ++ [l]) node' := by
  cases l with
  | connection other =>
    simp only [step] at h
    split at h
    · cases h
      exact tracked_connection ht other
    · cases h
  | pong other =>
    simp only [step] at h
    split_ifs at h
    cases h
    exact tracked_pong ht other
  | message other data =>
    simp only [step] at h
    split_ifs at h
    cases h
    exact ht.unmoved (fun _ => rfl) (onMessage_unmoved node other data)
  | closing other =>
    simp only [step] at h
    split_ifs at h
    cases h
    exact ht.unmoved (fun _ => rfl) (startClosing_unmoved node other)
  | closed other =>
    simp only [step] at h
    split_ifs at h
    cases h
    exact tracked_closed ht other
  | heartbeat =>
    simp only [step] at h
    split_ifs at h
    cases h
    exact tracked_heartbeat ht
  | seatEvent event =>
    simp only [step] at h
    split_ifs at h
    cases h
    exact ht.unmoved (fun _ => rfl) (onSeatEvent_unmoved node event)
  | close =>
    cases h
    exact ht.unmoved (fun _ => rfl) (close_unmoved node)

theorem tracked_run {session : Session} (hr : webSocketServer.run Session.start ls = some session) :
    Tracked ls session.node := by
  induction ls using List.reverseRecOn generalizing session with
  | nil =>
    cases hr
    intro socket hsocket
    exact absurd hsocket (InsertionSet.mem_empty socket)
  | append_singleton ls l ih =>
    rw [Machine.run_append] at hr
    obtain ⟨before, hbefore, hlast⟩ := Option.bind_eq_some_iff.mp hr
    obtain ⟨after, hstep, hend⟩ := Machine.run_cons_some _ hlast
    cases hend
    obtain ⟨node, hnode, rfl⟩ := Option.map_eq_some_iff.mp hstep
    exact tracked_step (ih hbefore) hnode

end Run

end Node

/-- The heartbeat is exact: in every run it keeps the clients that have connected or answered
since the heartbeat before, with all their rooms, and it takes every other one out of all rooms
and closes it. -/
theorem heartbeat_exact {ls : List Node.Label} {session session' : Session} {socket : Nat}
    (hr : webSocketServer.run Session.start ls = some session)
    (h : webSocketServer.step session .heartbeat = some session')
    (hclient : socket ∈ session.node.clients) :
    (Answered ls socket →
      session'.node.readyState socket = session.node.readyState socket ∧
        ∀ eventId, session'.node.InRoom socket eventId ↔ session.node.InRoom socket eventId) ∧
    (¬ Answered ls socket →
      session'.node.readyState socket ≠ .OPEN ∧
        ∀ eventId, ¬ session'.node.InRoom socket eventId) := by
  have he : session.Exact := webSocketServer.run_invariant
    (fun _ _ _ hs hst => Session.exact_step hs hst) Session.start_exact hr
  have hflag := Node.tracked_run hr socket hclient
  obtain ⟨node, hstep, rfl⟩ := Option.map_eq_some_iff.mp h
  simp only [Node.step] at hstep
  split_ifs at hstep
  cases hstep
  have hdrops := Node.heartbeat_drops he.mirrored
  have hpulse := Node.heartbeat_pulse session.node socket
  rw [if_pos hclient] at hpulse
  have hready := congrArg Prod.snd hpulse
  have hrooms (eventId : String) : session.node.heartbeat.InRoom socket eventId ↔
      session.node.InRoom socket eventId ∧
        ¬ (socket ∈ session.node.clients ∧ session.node.Silent socket) := by
    rw [hdrops.mirrored.mirror, he.mirrored.mirror]
    exact hdrops.follows socket eventId
  unfold Node.aliveFlag at hflag
  cases hstate : session.node.states socket with
  | none =>
    rw [hstate] at hflag
    cases hflag
  | some state =>
    obtain ⟨isAlive, eventIds⟩ := state
    simp only [hstate, Option.map_some, Option.some.injEq] at hflag hready
    constructor
    · intro hanswered
      have halive : isAlive = true := by rw [hflag]; exact decide_eq_true hanswered
      subst halive
      have hsilent : ¬ session.node.Silent socket := not_not.mpr ⟨eventIds, hstate⟩
      refine ⟨hready, fun eventId => ?_⟩
      rw [hrooms]
      simp [hsilent]
    · intro hanswered
      have hdead : isAlive = false := by rw [hflag]; exact decide_eq_false hanswered
      subst hdead
      have hsilent : session.node.Silent socket := by
        rintro ⟨ids, hids⟩
        rw [hstate] at hids
        cases hids
      constructor
      · rw [hready]
        simp only [Node.pulse]
        split_ifs with hopen
        · simp
        · exact hopen
      · intro eventId hin
        exact ((hrooms eventId).mp hin).2 ⟨hclient, hsilent⟩

/-- Two clients follow one event; after the first heartbeat only the first answers. -/
def oneAnswers : List Node.Label :=
  [.connection 0, .connection 1,
    .message 0 (Json.stringify (.obj [("type", .str "subscribe"), ("eventId", .str "a")])),
    .message 1 (Json.stringify (.obj [("type", .str "subscribe"), ("eventId", .str "a")])),
    .heartbeat, .pong 0]

theorem heartbeat_exact_oneAnswers :
    ∃ session session', webSocketServer.run Session.start oneAnswers = some session ∧
      webSocketServer.step session .heartbeat = some session' ∧
      (session'.node.InRoom 0 "a" ↔ session.node.InRoom 0 "a") ∧
      session'.node.readyState 1 ≠ .OPEN ∧ ¬ session'.node.InRoom 1 "a" := by
  have hview : ((webSocketServer.run Session.start oneAnswers).bind fun session =>
      (webSocketServer.step session .heartbeat).map fun _ => session.node.clients.elements) =
      some [0, 1] := by
    decide +kernel
  obtain ⟨session, hrun, hview⟩ := Option.bind_eq_some_iff.mp hview
  obtain ⟨session', hstep, hclients⟩ := Option.map_eq_some_iff.mp hview
  have hclient (socket : Nat) (h : socket ∈ [0, 1]) : socket ∈ session.node.clients := by
    rw [← InsertionSet.mem_elements, hclients]
    exact h
  have hfirst := (heartbeat_exact hrun hstep (hclient 0 (by simp))).1 (by decide)
  have hsecond := (heartbeat_exact hrun hstep (hclient 1 (by simp))).2 (by decide)
  exact ⟨session, session', hrun, hstep, hfirst.2 "a", hsecond.1, hsecond.2 "a"⟩

end TicketEngine
