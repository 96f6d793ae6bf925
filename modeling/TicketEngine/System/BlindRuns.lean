import TicketEngine.System.BlindSteps

namespace TicketEngine

section Worker

variable {zod : Zod} {s s' : Store} {c : Choice}

theorem messages_alike {es es' : List (Nat × List String)}
    (h : List.Forall₂ (Stream.EntryRel FieldsAlike) es es') :
    List.Forall₂ MessageAlike (es.map toMessage) (es'.map toMessage) := by
  induction h with
  | nil => exact .nil
  | cons hentry _ ih =>
    rename_i e e' _ _ _
    obtain ⟨id, fields⟩ := e
    obtain ⟨id', fields'⟩ := e'
    obtain ⟨rfl, payload, userId, hp, hread, hread'⟩ := hentry
    exact .cons ⟨rfl, payload, userId, hp, hread id, hread' id⟩ ih

theorem Store.Alike.stopWorker (h : s.Alike zod s') (w : Nat) (mode : Mode) :
    (stopWorker s w mode).Alike zod (stopWorker s' w mode) := by
  cases h with
  | mk hstream hchannel horders =>
    cases mode with
    | startOrderConsumer | processAvailableOrderMessages => exact .mk hstream hchannel horders

theorem createGroup_alike (h : s.Alike zod s') (mode : Mode) :
    (stepCreateGroup s mode c).1.Alike zod (stepCreateGroup s' mode c).1 ∧
      (stepCreateGroup s mode c).2.Parallel zod (stepCreateGroup s' mode c).2 := by
  cases c with
  | fail message => exact ⟨h, .inl (.same rfl)⟩
  | ok id =>
    refine ⟨h.setStream h.stream.createGroup, ?_⟩
    cases mode with
    | startOrderConsumer | processAvailableOrderMessages => exact .inl (.same rfl)

theorem poll_alike (h : s.Alike zod s') (w : Nat) :
    (stepPoll s w).1.Alike zod (stepPoll s' w).1 ∧
      (stepPoll s w).2.Parallel zod (stepPoll s' w).2 := by
  unfold stepPoll
  rw [h.running]
  split_ifs
  · exact ⟨h, .inl (.same rfl)⟩
  · exact ⟨h, .inl (.same rfl)⟩

/-- Two polls of the stream come to messages alike. -/
abbrev BatchAlike (zod : Zod) : Option (Store × List RedisStreamMessage) →
    Option (Store × List RedisStreamMessage) → Prop :=
  Option.Rel fun p q => p.1.Alike zod q.1 ∧ List.Forall₂ MessageAlike p.2 q.2

theorem claimPendingMessages_alike (h : s.Alike zod s') (w : Nat) :
    BatchAlike zod (claimPendingMessages s w) (claimPendingMessages s' w) := by
  unfold claimPendingMessages
  rw [h.now]
  exact rel_map (h.stream.autoclaim s.redis.now w CLAIM_IDLE_MS BATCH_SIZE) fun _ _ hpair =>
    ⟨h.setStream hpair.1, messages_alike hpair.2⟩

theorem readMessages_alike (h : s.Alike zod s') (w : Nat) :
    BatchAlike zod (readMessages s w) (readMessages s' w) := by
  unfold readMessages
  rw [h.now]
  exact rel_map (h.stream.read s.redis.now w BATCH_SIZE) fun _ _ hpair =>
    ⟨h.setStream hpair.1, messages_alike hpair.2⟩

theorem claim_alike (h : s.Alike zod s') (w : Nat) (mode : Mode) :
    (stepClaim s w mode c).1.Alike zod (stepClaim s' w mode c).1 ∧
      (stepClaim s w mode c).2.Parallel zod (stepClaim s' w mode c).2 := by
  cases c with
  | fail message => exact ⟨h.stopWorker w mode, .inl (.same rfl)⟩
  | ok id =>
    have hclaimed := claimPendingMessages_alike h w
    unfold stepClaim
    generalize claimPendingMessages s w = a at hclaimed ⊢
    generalize claimPendingMessages s' w = b at hclaimed ⊢
    cases hclaimed with
    | none => exact ⟨h.stopWorker w mode, .inl (.same rfl)⟩
    | some hpair => exact ⟨hpair.1, .inl (.read hpair.2)⟩

theorem read_alike (h : s.Alike zod s') (w : Nat) (mode : Mode)
    {claimed claimed' : List RedisStreamMessage}
    (hclaimed : List.Forall₂ MessageAlike claimed claimed') :
    (stepRead s w mode claimed c).1.Alike zod (stepRead s' w mode claimed' c).1 ∧
      (stepRead s w mode claimed c).2.1.Parallel zod (stepRead s' w mode claimed' c).2.1 ∧
      List.Forall₂ MessageAlike (stepRead s w mode claimed c).2.2
        (stepRead s' w mode claimed' c).2.2 := by
  cases c with
  | fail message => exact ⟨h.stopWorker w mode, .inl (.same rfl), .nil⟩
  | ok id =>
    have hmessages := readMessages_alike h w
    unfold stepRead
    generalize readMessages s w = a at hmessages ⊢
    generalize readMessages s' w = b at hmessages ⊢
    cases hmessages with
    | none => exact ⟨h.stopWorker w mode, .inl (.same rfl), .nil⟩
    | some hpair =>
      rename_i p q
      obtain ⟨u, messages⟩ := p
      obtain ⟨u', messages'⟩ := q
      obtain ⟨hu, hread⟩ := hpair
      have hbatch : List.Forall₂ MessageAlike (claimed ++ messages) (claimed' ++ messages') :=
        List.rel_append hclaimed hread
      have hlength := hbatch.length_eq
      have hempty : (claimed ++ messages).isEmpty = (claimed' ++ messages').isEmpty := by
        rw [Bool.eq_iff_iff, List.isEmpty_iff_length_eq_zero, List.isEmpty_iff_length_eq_zero,
          hlength]
      cases mode with
      | startOrderConsumer =>
        simp only [hempty, hlength]
        split_ifs
        · exact ⟨hu, .inl (.same rfl), .nil⟩
        · exact ⟨hu, .inl (.same rfl), hbatch⟩
      | processAvailableOrderMessages =>
        simp only [hlength]
        exact ⟨hu, .inl (.same rfl), hbatch⟩

theorem spawn_alike {point point' : Thread → Frame}
    (h : ∀ t, (point t).Parallel zod (point' t)) (w : Nat) {messages messages'}
    (hm : List.Forall₂ MessageAlike messages messages') (t : Thread) :
    (spawn point w messages t).Parallel zod (spawn point' w messages' t) := by
  cases t with
  | call n => exact h (.call n)
  | worker v => exact h (.worker v)
  | task v i =>
    simp only [spawn]
    split_ifs
    · have hentry := rel_getElem? hm i
      generalize messages[i]? = a at hentry ⊢
      generalize messages'[i]? = b at hentry ⊢
      cases hentry with
      | none => exact h (.task v i)
      | some hmessage => exact .inl (.readMessage hmessage)
    · exact h (.task v i)

theorem actWorker_answered {world : World} {w : Nat}
    (h : (world.point (.worker w)).answered = true) : actWorker world w c = none := by
  unfold actWorker
  cases hp : world.point (.worker w) with
  | held | ordered | released | rejected => rfl
  | _ => simp only [hp, Frame.answered, Bool.false_eq_true] at h

/-- One command of a worker's loop, in both runs. -/
theorem actWorker_alike {world world' u u' : World} {w : Nat} (h : world.Alike zod world')
    (hu : actWorker world w c = some u) (hu' : actWorker world' w c = some u') :
    u.Alike zod u' := by
  rcases h.point (.worker w) with hf | hanswered | hanswered
  · unfold actWorker at hu hu'
    generalize world.point (.worker w) = f at hf hu
    generalize world'.point (.worker w) = f' at hf hu'
    cases hf with
    | same hanonymous =>
      cases f with
      | createGroup mode =>
        cases hu
        cases hu'
        obtain ⟨hs, hnext⟩ := createGroup_alike (c := c) h.shared mode
        exact h.move (.worker w) hs hnext
      | poll =>
        cases hu
        cases hu'
        obtain ⟨hs, hnext⟩ := poll_alike h.shared w
        exact h.move (.worker w) hs hnext
      | claim mode =>
        cases hu
        cases hu'
        obtain ⟨hs, hnext⟩ := claim_alike (c := c) h.shared w mode
        exact h.move (.worker w) hs hnext
      | batch mode count =>
        simp only at hu hu'
        split_ifs at hu hu'
        cases hu
        cases hu'
        refine h.move (.worker w) h.shared (.inl (.same ?_))
        cases mode with
        | startOrderConsumer | processAvailableOrderMessages => rfl
      | read mode claimed => cases hanonymous
      | _ => cases hu
    | read hclaimed =>
      rename_i mode claimed claimed'
      simp only [Option.some.injEq] at hu hu'
      obtain ⟨hs, hnext, hmessages⟩ := read_alike (c := c) h.shared w mode hclaimed
      subst hu
      subst hu'
      exact ⟨hs, spawn_alike (h.move (.worker w) hs hnext).point w hmessages⟩
    | _ => cases hu
  · rw [actWorker_answered hanswered] at hu
    cases hu
  · rw [actWorker_answered hanswered] at hu'
    cases hu'

end Worker

/-! ## Every step of the engine -/

/-- Two labels that differ in the user id of a client's request. -/
inductive Label.Alike : Label → Label → Prop
  | same {l} : Alike l l
  | holdSeat {n payload userId} :
      Alike (.holdSeat n payload) (.holdSeat n { payload with userId })
  | createOrder {n payload userId} :
      Alike (.createOrder n payload) (.createOrder n { payload with userId })
  | releaseSeat {n payload userId holdId} :
      Alike (.releaseSeat n payload holdId) (.releaseSeat n { payload with userId } holdId)

section Calls

variable {zod : Zod} {payload : PartialHoldSeatRequest} {request request' : HoldSeatRequest}
  {userId : Option String}

theorem normalize_named (h : normalizeHoldRequest payload = .ok request) : request.Named := by
  simp only [normalizeHoldRequest] at h
  split_ifs at h with hblank
  cases h
  simp only [not_or] at hblank
  exact ⟨hblank.1, hblank.2.1⟩

theorem normalize_alike (h : normalizeHoldRequest payload = .ok request)
    (h' : normalizeHoldRequest { payload with userId } = .ok request') :
    request' = { request with userId := request'.userId } := by
  simp only [normalizeHoldRequest] at h h'
  split_ifs at h
  split_ifs at h'
  cases h
  cases h'
  rfl

/-- A call under two users begins alike, unless one of them is turned away. -/
theorem call_parallel (next : HoldSeatRequest → Frame)
    (hnext : ∀ {request : HoldSeatRequest} {userId}, request.Named →
      (next request).Parallel zod (next { request with userId }))
    (payload : PartialHoldSeatRequest) (userId : Option String) :
    (match normalizeHoldRequest payload with
      | .error e => .rejected e
      | .ok request => next request : Frame).Parallel zod
      (match normalizeHoldRequest { payload with userId } with
      | .error e => .rejected e
      | .ok request => next request) := by
  cases h : normalizeHoldRequest payload with
  | error e => exact .inr (.inl rfl)
  | ok request =>
    cases h' : normalizeHoldRequest { payload with userId } with
    | error e => exact .inr (.inr rfl)
    | ok request' =>
      rw [normalize_alike h h']
      exact hnext (normalize_named h)

theorem holdSeat_parallel (payload : PartialHoldSeatRequest) (userId : Option String) :
    (holdSeat payload).Parallel zod (holdSeat { payload with userId }) :=
  call_parallel (.findEvent .holdSeat) (fun hr => .inl (.findEvent hr)) payload userId

theorem createOrder_parallel (payload : PartialHoldSeatRequest) (userId : Option String) :
    (createOrder payload).Parallel zod (createOrder { payload with userId }) :=
  call_parallel (.findEvent .createOrder) (fun hr => .inl (.findEvent hr)) payload userId

theorem trim_empty : trim "" = "" := by decide

theorem releaseSeat_parallel (payload : PartialHoldSeatRequest) (userId : Option String)
    (holdId : String) :
    (releaseSeat payload holdId).Parallel zod (releaseSeat { payload with userId } holdId) := by
  apply call_parallel
    (fun request => if trim holdId = "" then .rejected (.badRequest "holdId is required")
      else .findOrder request holdId)
  intro request userId hr
  split_ifs with hblank
  · exact .inr (.inl rfl)
  · refine .inl (.findOrder hr fun hempty => hblank ?_)
    rw [hempty, trim_empty]

end Calls

section Step

variable {zod : Zod} {digests : ScriptDigests} {world world' u u' : World} {l l' : Label}

theorem enter_alike (h : world.Alike zod world') {t : Thread} {f f' : Frame}
    (hf : f.Parallel zod f') (hu : enter world t f = some u) (hu' : enter world' t f' = some u') :
    u.Alike zod u' := by
  obtain ⟨-, rfl⟩ := enter_some hu
  obtain ⟨-, rfl⟩ := enter_some hu'
  exact h.move t h.shared hf

theorem startWorker_alike (h : world.Alike zod world') {w : Nat} {mode : Mode} {s s' : Store}
    (hs : s.Alike zod s') (hu : startWorker world w mode s = some u)
    (hu' : startWorker world' w mode s' = some u') : u.Alike zod u' := by
  rw [startWorker_some hu, startWorker_some hu']
  exact h.move (.worker w) hs (.inl (.same rfl))

theorem kill_alike (h : world.Alike zod world') {s s' : Store} (hs : s.Alike zod s')
    (dead : Thread → Bool) :
    (kill ⟨s, world.point⟩ dead).Alike zod (kill ⟨s', world'.point⟩ dead) := by
  refine ⟨?_, fun t => ?_⟩
  · cases hs with
    | mk hstream hchannel horders => exact .mk hstream hchannel horders
  · simp only [kill]
    split_ifs
    · exact .inl (.same rfl)
    · exact h.point t

/-- One command of a thread that is no worker, in both runs. -/
theorem act_step_alike (h : world.Alike zod world') {t : Thread} {c : Choice}
    (hw : (world.point t).writes zod world.shared c = true)
    (hu : ((world.point t).act digests world.shared t c).map
      (fun p => (⟨p.1, Function.update world.point t p.2⟩ : World)) = some u)
    (hu' : ((world'.point t).act digests world'.shared t c).map
      (fun p => (⟨p.1, Function.update world'.point t p.2⟩ : World)) = some u') :
    u.Alike zod u' := by
  obtain ⟨p, hp, rfl⟩ := Option.map_eq_some_iff.mp hu
  obtain ⟨p', hp', rfl⟩ := Option.map_eq_some_iff.mp hu'
  rcases h.point t with hf | hanswered | hanswered
  · have hmove : MoveAlike zod ((world.point t).act digests world.shared t c)
        ((world'.point t).act digests world'.shared t c) := act_alike h.shared hf hw
    rw [hp, hp'] at hmove
    cases hmove with
    | some hpair => exact h.move t hpair.1 hpair.2
  · rw [act_answered hanswered] at hp
    cases hp
  · rw [act_answered hanswered] at hp'
    cases hp'

theorem same_step_alike (h : world.Alike zod world') (hw : l.writes zod world = true)
    (hu : step digests world l = some u) (hu' : step digests world' l = some u') :
    u.Alike zod u' := by
  have hsame : world'.shared.running = world.shared.running := h.shared.running
  cases l with
  | holdSeat n payload => exact enter_alike h (holdSeat_parallel payload payload.userId) hu hu'
  | createOrder n payload =>
    exact enter_alike h (createOrder_parallel payload payload.userId) hu hu'
  | releaseSeat n payload holdId =>
    exact enter_alike h (releaseSeat_parallel payload payload.userId holdId) hu hu'
  | startOrderConsumer w =>
    simp only [step, hsame] at hu hu'
    split_ifs at hu hu'
    · cases hu
      cases hu'
      exact h
    · exact startWorker_alike h (h.shared.setRunning _) hu hu'
  | processAvailableOrderMessages w => exact startWorker_alike h h.shared hu hu'
  | stopOrderConsumer w =>
    simp only [step, hsame] at hu hu'
    cases hu
    cases hu'
    exact h.environment (h.shared.setRunning _)
  | act t c =>
    cases t with
    | worker w => exact actWorker_alike h hu hu'
    | call n => exact act_step_alike h hw hu hu'
    | task w i => exact act_step_alike h hw hu hu'
  | crashCall n =>
    cases hu
    cases hu'
    exact kill_alike h h.shared _
  | crashWorker w =>
    simp only [step, hsame] at hu hu'
    cases hu
    cases hu'
    exact kill_alike h (h.shared.setRunning _) _
  | advance ms =>
    cases hu
    cases hu'
    refine h.environment (h.shared.setRedis ?_ ?_)
    · simp only [LockRedis.wait, h.shared.now]
    · exact h.shared.cached
  | flushScripts =>
    cases hu
    cases hu'
    exact h.environment (h.shared.setRedis h.shared.now rfl)

theorem step_alike (h : world.Alike zod world') (hl : l.Alike l') (hw : l.writes zod world = true)
    (hu : step digests world l = some u) (hu' : step digests world' l' = some u') :
    u.Alike zod u' := by
  cases hl with
  | same => exact same_step_alike h hw hu hu'
  | holdSeat => exact enter_alike h (holdSeat_parallel _ _) hu hu'
  | createOrder => exact enter_alike h (createOrder_parallel _ _) hu hu'
  | releaseSeat => exact enter_alike h (releaseSeat_parallel _ _ _) hu hu'

end Step

theorem initial_alike (zod : Zod) {start : World} (hi : Initial start)
    (hchannel : start.shared.channel = []) : start.Alike zod start := by
  refine ⟨?_, fun t => ?_⟩
  · have hstream : Stream.Rel FieldsAlike start.shared.stream start.shared.stream := by
      rw [hi.stream]
      exact Stream.rel_empty
    have hempty : List.Forall₂ (EventAlike zod) start.shared.channel start.shared.channel := by
      rw [hchannel]
      exact .nil
    have horders (holdId : String) : Option.Rel OrderAlike (start.shared.orders.row holdId)
        (start.shared.orders.row holdId) := by
      rw [hi.orders holdId]
      exact .none
    exact .mk hstream hempty horders
  · rw [hi.idle t]
    exact .inl (.same rfl)

/-- Two runs from one start that differ in user ids end alike. -/
theorem runs_alike {zod : Zod} {digests : ScriptDigests} {start world world' : World}
    {ls ls' : List Label} (hi : Initial start) (hchannel : start.shared.channel = [])
    (hls : List.Forall₂ Label.Alike ls ls')
    (hw : (engine digests).Along (fun world l _ => l.writes zod world = true) start ls)
    (hr : (engine digests).run start ls = some world)
    (hr' : (engine digests).run start ls' = some world') : world.Alike zod world' :=
  Machine.run_related (R := World.Alike zod) (C := fun world l _ => l.writes zod world = true)
    (fun _ _ _ _ _ _ h hl hc hstep hstep' => step_alike h hl hc hstep hstep')
    (initial_alike zod hi hchannel) hls hw hr hr'

end TicketEngine
