import TicketEngine.System.DrainCount
import TicketEngine.System.MessageBatch
import TicketEngine.System.WorkerThreads
import Mathlib.Data.Set.Finite.Basic

namespace TicketEngine

/-! ## What a call or a task has ahead of it -/

/-- The commands `createOrder` sends after its seat hold and `holdSeat` does not. -/
def Caller.commandsAfterHold : Caller → Nat
  | .holdSeat => 0
  | .createOrder => 4

/-- A bound on the commands a call or a task still sends. -/
def Frame.commandsLeft : Frame → Nat
  | .findEvent caller _ => 5 + caller.commandsAfterHold
  | .evalshaHold caller _ _ => 4 + caller.commandsAfterHold
  | .evalHold caller _ _ => 3 + caller.commandsAfterHold
  | .holdReply caller _ _ _ => 2 + caller.commandsAfterHold
  | .publishHold _ => 1
  | .lockSeat _ _ => 5
  | .createRow _ _ => 4
  | .commitOrder _ => 3
  | .publishHeld _ => 2
  | .appendEvent _ => 1
  | .findOrder _ _ => 6
  | .evalshaRelease _ _ => 5
  | .evalRelease _ _ => 4
  | .releaseReply _ _ _ => 3
  | .freeRow _ _ => 2
  | .publishReleased _ _ => 1
  | f => f.rank

/-- The seat row that an open transaction at this frame has written. -/
def Frame.wroteRow : Frame → Option String
  | .createRow request _ => some request.seatId
  | .commitOrder order => some order.seatId
  | .bookRow _ payload | .commitBooking _ payload => some payload.seatId
  | _ => none

/-- The seat row that the next command has to write, once no other transaction holds it. -/
def Frame.awaitsRow : Frame → Option String
  | .lockSeat request _ | .freeRow request _ => some request.seatId
  | .sellRow _ payload => some payload.seatId
  | _ => none

section Act

variable {digests : ScriptDigests} {s : Store} {t : Thread} {c : Choice} {f : Frame}
  {r : Store × Frame}

theorem act_inFlight (h : f.act digests s t c = some r) : 0 < f.commandsLeft := by
  cases f with
  | findEvent caller _ | evalshaHold caller _ _ | evalHold caller _ _ | holdReply caller _ _ _ =>
    simp only [Frame.commandsLeft]
    omega
  | idle | held | ordered | released | rejected | processed | failed | drained | stopped => cases h
  | createGroup | poll | claim | read | batch => cases h
  | _ => simp [Frame.commandsLeft, Frame.rank]

theorem givesUp_commandsLeft {f' : Frame} (h : GivesUp f f') : f'.commandsLeft = 0 := by
  cases h with
  | reject hf => rfl
  | refuse => rfl
  | leave hf => rfl

theorem announces_commandsLeft {payload : SeatEventPayload} {f' : Frame}
    (h : f.announces = some (payload, f')) : f'.commandsLeft < f.commandsLeft := by
  cases f with
  | publishHold | publishHeld | publishReleased | publishBooked =>
    cases h
    simp [Frame.commandsLeft, Frame.rank]
  | _ => cases h

theorem silent_commandsLeft {f' : Frame} (h : Silent s f f') :
    f'.commandsLeft < f.commandsLeft := by
  cases h with
  | hold_lost hf hcode =>
    rcases hf with rfl | rfl <;> simp only [Frame.commandsLeft] <;> omega
  | release_lost hf hcode =>
    rcases hf with rfl | rfl <;> simp only [Frame.commandsLeft] <;> omega
  | hold_seat | create_order => simp [Frame.commandsLeft, Caller.commandsAfterHold]
  | _ => simp [Frame.commandsLeft, Frame.rank]

/-- Every command of a call or a task brings it nearer to its end. -/
theorem act_commandsLeft (h : f.act digests s t c = some r) :
    r.2.commandsLeft < f.commandsLeft := by
  have hflight := act_inFlight h
  obtain ⟨s', f'⟩ := r
  have hcourse : Course s t c f s' f' := act_course h
  cases hcourse with
  | quit hstill hend =>
    rw [givesUp_commandsLeft hend]
    exact hflight
  | silent hstill hmove => exact silent_commandsLeft hmove
  | take hf hfree howner hnow hkeys =>
    rcases hf with rfl | rfl <;> simp only [Frame.commandsLeft] <;> omega
  | drop hf hread howner hnow hkeys =>
    rcases hf with rfl | rfl <;> simp only [Frame.commandsLeft] <;> omega
  | announce hf hevent hchannel hstill => exact announces_commandsLeft hf
  | unannounced hf hc => exact announces_commandsLeft hf
  | place => simp [Frame.commandsLeft]
  | append hstream hstill => simp [Frame.commandsLeft, Frame.rank]
  | free hfree => simp [Frame.commandsLeft]
  | book => simp [Frame.commandsLeft, Frame.rank]
  | acknowledge => simp [Frame.commandsLeft, Frame.rank]

/-! ## Open transactions -/

/-- The row locks are as they were, and at most one identifier has been drawn. -/
structure Draws (s s' : Store) : Prop where
  locks : s'.rowLock = s.rowLock
  drawn : ∃ new, ∀ id, id ≠ new → s'.drawn id = s.drawn id

theorem Draws.of_eq {s' : Store} (hlocks : s'.rowLock = s.rowLock) (hdrawn : s'.drawn = s.drawn) :
    Draws s s' :=
  ⟨hlocks, "", fun id _ => congrFun hdrawn id⟩

theorem Draws.draw {id : String} {s' : Store} (h : s.draw t id = some s') : Draws s s' := by
  obtain ⟨-, rfl⟩ := draw_eq h
  exact ⟨rfl, id, fun other hne => Function.update_of_ne hne ..⟩

/-- What a command leaves behind: every row lock is an old one of another thread, or the lock on
the row that this thread's transaction has written; at most one identifier is new. -/
structure Leaves (s : Store) (t : Thread) (r : Store × Frame) : Prop where
  locks : ∀ id u, r.1.rowLock id = some u →
    u ≠ t ∧ s.rowLock id = some u ∨ u = t ∧ r.2.wroteRow = some id
  drawn : ∃ new, ∀ id, id ≠ new → r.1.drawn id = s.drawn id

theorem leaves_same (howns : ∀ id, s.rowLock id = some t → r.2.wroteRow = some id)
    (h : Draws s r.1) : Leaves s t r := by
  refine ⟨fun id u hu => ?_, h.drawn⟩
  rw [h.locks] at hu
  by_cases ht : u = t
  · subst ht
    exact .inr ⟨rfl, howns id hu⟩
  · exact .inl ⟨ht, hu⟩

theorem leaves_abort {s' : Store} (h : Draws s s') (f' : Frame) :
    Leaves s t (s'.abort t, f') := by
  refine ⟨fun id u hu => ?_, h.drawn⟩
  obtain ⟨hne, hold⟩ := abort_lock hu
  rw [h.locks] at hold
  exact .inl ⟨hne, hold⟩

/-- A row update takes the lock of its row, and the frame after it remembers the row. -/
theorem leaves_lockRow {eventId seatId : String} {status : SeatState} {s' : Store} {f' : Frame}
    (hnone : ∀ id, s.rowLock id ≠ some t) (hwrites : f'.wroteRow = some seatId)
    (h : s.lockRow t eventId seatId status = some (s', 1)) : Leaves s t (s', f') := by
  rcases lockRow_cases h with ⟨hcount, -⟩ | ⟨-, -, -, rfl⟩
  · cases hcount
  · refine ⟨fun id u hu => ?_, (Draws.of_eq (s := s) rfl rfl).drawn⟩
    simp only [Function.update_apply] at hu
    split_ifs at hu with hid
    · cases hu
      rw [hid]
      exact .inr ⟨rfl, hwrites⟩
    · refine .inl ⟨?_, hu⟩
      rintro rfl
      exact hnone id hu

theorem lockRow_missed {eventId seatId : String} {status : SeatState} {s' : Store} {count : Nat}
    (h : s.lockRow t eventId seatId status = some (s', count)) (hcount : count ≠ 1) : s' = s := by
  rcases lockRow_cases h with ⟨-, hsame⟩ | ⟨hone, -⟩
  · exact hsame
  · exact absurd hone hcount

/-- Frames between transactions own no row lock. -/
theorem owns_none (howns : ∀ id, s.rowLock id = some t → f.wroteRow = some id)
    (hf : f.wroteRow = none) (id : String) : s.rowLock id ≠ some t := by
  intro hlock
  have hwrites := howns id hlock
  rw [hf] at hwrites
  cases hwrites

theorem publish_draws {correlationId : String} {payload : SeatEventPayload} {f' : Frame}
    (h : (publishSeatEvent s t correlationId payload c).map (fun s => (s, f')) = some r) :
    Draws s r.1 := by
  obtain ⟨s', hp, rfl⟩ := Option.map_eq_some_iff.mp h
  cases c with
  | fail message =>
    cases hp
    exact .of_eq rfl rfl
  | ok id =>
    obtain ⟨s₁, hd, rfl⟩ := Option.map_eq_some_iff.mp hp
    have hdraws := Draws.draw hd
    exact ⟨hdraws.locks, hdraws.drawn⟩

theorem stepEvalsha_draws (run : LockRedis × Except RedisError Int) (replied : Int → Frame)
    (fallback : Frame) : Draws s (stepEvalsha s run replied fallback c).1 := by
  unfold stepEvalsha
  split
  · exact .of_eq rfl rfl
  · exact .of_eq rfl rfl

theorem stepEval_draws (run : LockRedis × Except RedisError Int) (replied : Int → Frame) :
    Draws s (stepEval s run replied c).1 := by
  unfold stepEval
  split
  · exact .of_eq rfl rfl
  · exact .of_eq rfl rfl

theorem findEvent_draws {caller : Caller} {request : HoldSeatRequest}
    (h : stepFindEvent s t caller request c = some r) : Draws s r.1 := by
  cases c with
  | fail message =>
    cases h
    exact .of_eq rfl rfl
  | ok id =>
    simp only [stepFindEvent] at h
    split at h
    · cases h
      exact .of_eq rfl rfl
    · obtain ⟨s', hd, rfl⟩ := Option.map_eq_some_iff.mp h
      exact .draw hd

theorem appendEvent_draws {order : Order} (h : stepAppendEvent s t order c = some r) :
    Draws s r.1 := by
  cases c with
  | fail message =>
    cases h
    exact .of_eq rfl rfl
  | ok id =>
    obtain ⟨s', hd, rfl⟩ := Option.map_eq_some_iff.mp h
    have hdraws := Draws.draw hd
    exact ⟨hdraws.locks, hdraws.drawn⟩

theorem freeRow_draws {request : HoldSeatRequest} {holdId : String}
    (h : stepFreeRow s request holdId c = some r) : Draws s r.1 := by
  cases c with
  | fail message =>
    cases h
    exact .of_eq rfl rfl
  | ok id =>
    obtain ⟨s', hfree, rfl⟩ := Option.map_eq_some_iff.mp h
    unfold Store.freeRow at hfree
    split_ifs at hfree
    · cases hfree
      exact .of_eq rfl rfl
    · cases hfree
      exact .of_eq rfl rfl

theorem createRow_leaves {request : HoldSeatRequest} {execution : SeatLockExecution}
    (howns : ∀ id, s.rowLock id = some t → some request.seatId = some id)
    (h : stepCreateRow s t request execution c = some r) : Leaves s t r := by
  cases c with
  | fail message =>
    cases h
    exact leaves_abort (.of_eq rfl rfl) _
  | ok id =>
    obtain ⟨s', hd, rfl⟩ := Option.map_eq_some_iff.mp h
    cases hrow : s'.orders.row execution.holdId with
    | some order =>
      simp only
      exact leaves_abort (.draw hd) _
    | none =>
      simp only
      exact leaves_same howns (.draw hd)

/-- A command leaves its thread no row lock but that of a transaction it goes on with. -/
theorem act_leaves (howns : ∀ id, s.rowLock id = some t → f.wroteRow = some id)
    (h : f.act digests s t c = some r) : Leaves s t r := by
  have kept (hf : f.wroteRow = none) (hdraws : Draws s r.1) : Leaves s t r :=
    leaves_same (fun id hid => absurd hid (owns_none howns hf id)) hdraws
  cases f with
  | findEvent caller request => exact kept rfl (findEvent_draws h)
  | evalshaHold caller request holdId =>
    cases h
    exact kept rfl (stepEvalsha_draws ..)
  | evalHold caller request holdId =>
    cases h
    exact kept rfl (stepEval_draws ..)
  | holdReply caller request holdId result =>
    cases h
    apply kept rfl
    unfold stepHoldReply
    cases caller with
    | holdSeat => simp only; split <;> exact .of_eq rfl rfl
    | createOrder => simp only; split <;> exact .of_eq rfl rfl
  | publishHold record => exact kept rfl (publish_draws h)
  | lockSeat request execution =>
    cases c with
    | fail message =>
      cases h
      exact kept rfl (.of_eq rfl rfl)
    | ok id =>
      obtain ⟨⟨s', count⟩, hl, rfl⟩ := Option.map_eq_some_iff.mp h
      by_cases hone : count = 1
      · subst hone
        exact leaves_lockRow (owns_none howns rfl) rfl hl
      · simp only [if_pos hone]
        exact leaves_abort (by rw [lockRow_missed hl hone]; exact .of_eq rfl rfl) _
  | createRow request execution => exact createRow_leaves howns h
  | commitOrder order =>
    cases h
    cases c with
    | fail message => exact leaves_abort (.of_eq rfl rfl) _
    | ok id =>
      refine leaves_abort ?_ _
      exact .of_eq rfl rfl
  | publishHeld order => exact kept rfl (publish_draws h)
  | appendEvent order => exact kept rfl (appendEvent_draws h)
  | findOrder request holdId =>
    cases h
    apply kept rfl
    cases c with
    | fail message => exact .of_eq rfl rfl
    | ok id =>
      unfold stepFindOrder
      cases s.orders.row holdId <;> exact .of_eq rfl rfl
  | evalshaRelease request holdId =>
    cases h
    exact kept rfl (stepEvalsha_draws ..)
  | evalRelease request holdId =>
    cases h
    exact kept rfl (stepEval_draws ..)
  | releaseReply request holdId result =>
    cases h
    apply kept rfl
    unfold stepReleaseReply
    split <;> exact .of_eq rfl rfl
  | freeRow request holdId => exact kept rfl (freeRow_draws h)
  | publishReleased request holdId => exact kept rfl (publish_draws h)
  | readMessage message =>
    cases h
    apply kept rfl
    unfold stepReadMessage
    cases readEvent message <;> exact .of_eq rfl rfl
  | findBooking message payload =>
    cases h
    apply kept rfl
    cases c with
    | fail e => exact .of_eq rfl rfl
    | ok id =>
      unfold stepFindBooking
      cases s.orders.row payload.holdId with
      | none => exact .of_eq rfl rfl
      | some existing => simp only; split <;> exact .of_eq rfl rfl
  | sellRow message payload =>
    cases c with
    | fail e =>
      cases h
      exact kept rfl (.of_eq rfl rfl)
    | ok id =>
      obtain ⟨⟨s', count⟩, hl, rfl⟩ := Option.map_eq_some_iff.mp h
      by_cases hone : count = 1
      · subst hone
        exact leaves_lockRow (owns_none howns rfl) rfl hl
      · simp only [ne_eq, hone, not_false_eq_true, if_true]
        exact leaves_abort (by rw [lockRow_missed hl hone]; exact .of_eq rfl rfl) _
  | bookRow message payload =>
    cases h
    cases c with
    | fail e => exact leaves_abort (.of_eq rfl rfl) _
    | ok id =>
      unfold stepBookRow
      cases s.orders.row payload.holdId with
      | none => exact leaves_abort (.of_eq rfl rfl) _
      | some existing => exact leaves_same howns (.of_eq rfl rfl)
  | commitBooking message payload =>
    cases h
    cases c with
    | fail e => exact leaves_abort (.of_eq rfl rfl) _
    | ok id =>
      refine leaves_abort ?_ _
      exact .of_eq rfl rfl
  | publishBooked message payload => exact kept rfl (publish_draws h)
  | acknowledge message payload =>
    cases h
    cases c with
    | fail e => exact kept rfl (.of_eq rfl rfl)
    | ok id => exact kept rfl (.of_eq rfl rfl)
  | _ => cases h

end Act

/-! ## The workers and their tasks -/

/-- A worker is in its loop, and the messages in progress are those of the batch it waits for. -/
structure Crew (w : Nat) (world : World) : Prop where
  worker : (world.point (.worker w)).commandsLeft = 0
  tasks : ∀ i, world.point (.task w i) = .idle ∨ (world.point (.task w i)).processing = true ∨
    (world.point (.task w i)).ended = true
  within : ∀ i, (world.point (.task w i)).processing = true → .task w i ∈ batchTasks world w
  attended : ∀ t ∈ batchTasks world w, world.point t ≠ .idle

section Crew

variable {digests : ScriptDigests} {world world' : World} {l : Label} {w : Nat} {c : Choice}

theorem batchTasks_eq (h : world'.point (.worker w) = world.point (.worker w)) :
    batchTasks world' w = batchTasks world w := by
  unfold batchTasks
  rw [h]

theorem batchTasks_nil (h : ∀ mode count, world.point (.worker w) ≠ .batch mode count) :
    batchTasks world w = [] := by
  unfold batchTasks
  split
  next mode count hp => exact absurd hp (h mode count)
  next => rfl

theorem LeftAlone.crew (hsame : LeftAlone w world world') (hc : Crew w world) : Crew w world' := by
  have hworker := hsame.points _ (own_worker w)
  have hbatch := batchTasks_eq hworker
  constructor
  · rw [hworker]
    exact hc.worker
  · intro i
    rw [hsame.points _ (own_task w i)]
    exact hc.tasks i
  · intro i hi
    rw [hsame.points _ (own_task w i)] at hi
    rw [hbatch]
    exact hc.within i hi
  · intro t ht
    rw [hbatch] at ht
    have hown : workerThreads w t = true := by
      unfold batchTasks at ht
      split at ht
      · obtain ⟨i, -, rfl⟩ := List.mem_map.mp ht
        exact own_task w i
      · cases ht
    rw [hsame.points t hown]
    exact hc.attended t ht

/-- A worker that waits for no batch moves to another frame at which it waits for none. -/
theorem Crew.moved (hc : Crew w world)
    (hp : ∀ i, (world.point (.task w i)).processing = false) {s : Store} {f : Frame}
    (hf : f.commandsLeft = 0) (hbatch : ∀ mode count, f ≠ .batch mode count) :
    Crew w ⟨s, Function.update world.point (.worker w) f⟩ := by
  have hnil : batchTasks ⟨s, Function.update world.point (.worker w) f⟩ w = [] := by
    apply batchTasks_nil
    intro mode count
    simp only [Function.update_self]
    exact hbatch mode count
  constructor
  · simp only [Function.update_self]
    exact hf
  · exact fun i => hc.tasks i
  · intro i hi
    have hnot : (world.point (.task w i)).processing = true := hi
    rw [hp i] at hnot
    cases hnot
  · intro t ht
    rw [hnil] at ht
    cases ht

theorem Crew.tasks_rest (hc : Crew w world)
    (hp : ∀ mode count, world.point (.worker w) ≠ .batch mode count) (i : Nat) :
    (world.point (.task w i)).processing = false := by
  by_contra hne
  have hmem := hc.within i (Bool.of_not_eq_false hne)
  rw [batchTasks_nil hp] at hmem
  cases hmem

/-- What a read hands to the tasks is the batch the worker then waits for. -/
theorem stepRead_batch (s : Store) (w : Nat) (mode : Mode) (claimed : List RedisStreamMessage)
    (c : Choice) :
    (stepRead s w mode claimed c).2.1 =
        .batch mode (stepRead s w mode claimed c).2.2.length ∨
      (stepRead s w mode claimed c).2.2 = [] ∧
        (∀ next count, (stepRead s w mode claimed c).2.1 ≠ .batch next count) ∧
        (stepRead s w mode claimed c).2.1.commandsLeft = 0 := by
  cases c with
  | fail message => exact .inr ⟨rfl, by simp [stepRead], rfl⟩
  | ok id =>
    unfold stepRead
    cases readMessages s w with
    | none => exact .inr ⟨rfl, by simp, rfl⟩
    | some p =>
      cases mode with
      | startOrderConsumer =>
        simp only
        split_ifs
        · exact .inr ⟨rfl, by simp, rfl⟩
        · exact .inl rfl
      | processAvailableOrderMessages => exact .inl rfl

theorem crew_read (hc : Crew w world) {mode : Mode} {claimed : List RedisStreamMessage}
    (hp : world.point (.worker w) = .read mode claimed)
    (h : actWorker world w c = some world') : Crew w world' := by
  have hrest : ∀ i, (world.point (.task w i)).processing = false :=
    hc.tasks_rest (by simp [hp])
  unfold actWorker at h
  rw [hp] at h
  have hread := stepRead_batch world.shared w mode claimed c
  simp only at h
  generalize stepRead world.shared w mode claimed c = q at h hread
  obtain ⟨s', f, messages⟩ := q
  cases h
  simp only at hread
  rcases hread with rfl | ⟨rfl, hbatch, hf⟩
  · have hspawn (i : Nat) (hi : i < messages.length) : ∃ message,
        spawn (Function.update world.point (.worker w) (.batch mode messages.length)) w messages
          (.task w i) = .readMessage message := by
      simp only [spawn, if_true, List.getElem?_eq_getElem hi]
      exact ⟨_, rfl⟩
    have hworker : spawn (Function.update world.point (.worker w)
        (.batch mode messages.length)) w messages (.worker w) = .batch mode messages.length :=
      Function.update_self ..
    have hmem (t : Thread) : t ∈ batchTasks ⟨s', spawn (Function.update world.point (.worker w)
        (.batch mode messages.length)) w messages⟩ w ↔ ∃ i < messages.length, t = .task w i :=
      mem_batchTasks hworker
    have hlate (i : Nat) (hi : ¬ i < messages.length) : spawn (Function.update world.point
        (.worker w) (.batch mode messages.length)) w messages (.task w i) =
          world.point (.task w i) := by
      have hnone : messages[i]? = none := List.getElem?_eq_none (Nat.le_of_not_lt hi)
      simp only [spawn, if_true, hnone]
      exact Function.update_of_ne (by simp) ..
    constructor
    · simp only [hworker]
      rfl
    · intro i
      by_cases hi : i < messages.length
      · obtain ⟨message, hm⟩ := hspawn i hi
        simp only [hm]
        exact .inr (.inl rfl)
      · simp only [hlate i hi]
        exact hc.tasks i
    · intro i hi
      refine (hmem _).mpr ⟨i, ?_, rfl⟩
      by_contra hlt
      simp only [hlate i hlt, hrest i] at hi
      cases hi
    · intro t ht
      obtain ⟨i, hi, rfl⟩ := (hmem t).mp ht
      obtain ⟨message, hm⟩ := hspawn i hi
      simp only [hm]
      simp
  · rw [spawn_nil]
    exact hc.moved hrest hf hbatch

theorem crew_loop (hc : Crew w world) (h : actWorker world w c = some world') :
    Crew w world' := by
  have moved (hp : ∀ mode count, world.point (.worker w) ≠ .batch mode count) {s : Store}
      {f : Frame} (hf : f.commandsLeft = 0) (hbatch : ∀ mode count, f ≠ .batch mode count) :
      Crew w ⟨s, Function.update world.point (.worker w) f⟩ :=
    hc.moved (hc.tasks_rest hp) hf hbatch
  cases hp : world.point (.worker w) with
  | createGroup mode =>
    unfold actWorker at h
    rw [hp] at h
    cases h
    apply moved (by simp [hp])
    · cases c with
      | fail message => rfl
      | ok id => cases mode <;> rfl
    · cases c with
      | fail message => simp [stepCreateGroup]
      | ok id => cases mode <;> simp [stepCreateGroup]
  | poll =>
    unfold actWorker at h
    rw [hp] at h
    cases h
    unfold stepPoll
    split
    · exact moved (by simp [hp]) rfl (by simp)
    · exact moved (by simp [hp]) rfl (by simp)
  | claim mode =>
    unfold actWorker at h
    rw [hp] at h
    cases h
    cases c with
    | fail message => exact moved (by simp [hp]) rfl (by simp [stepClaim])
    | ok id =>
      simp only [stepClaim]
      cases claimPendingMessages world.shared w with
      | none => exact moved (by simp [hp]) rfl (by simp)
      | some p => exact moved (by simp [hp]) rfl (by simp)
  | read mode claimed => exact crew_read hc hp h
  | batch mode count =>
    unfold actWorker at h
    rw [hp] at h
    simp only at h
    split_ifs at h with hall
    cases h
    refine hc.moved (fun i => ?_) (by cases mode <;> rfl) (by cases mode <;> simp [stepBatch])
    by_contra hne
    have hi := Bool.of_not_eq_false hne
    obtain ⟨j, hj, heq⟩ := (mem_batchTasks hp).mp (hc.within i hi)
    cases heq
    rw [ended_processing (hall i hj)] at hi
    cases hi
  | _ =>
    unfold actWorker at h
    rw [hp] at h
    cases h

theorem crew_started (hc : Crew w world) {mode : Mode} {s : Store}
    (h : startWorker world w mode s = some world') : Crew w world' := by
  unfold startWorker at h
  split at h
  next hp =>
    cases h
    exact hc.moved (hc.tasks_rest (by simp [hp])) rfl (by simp)
  next hp =>
    cases h
    exact hc.moved (hc.tasks_rest (by simp [hp])) rfl (by simp)
  next count hp =>
    cases h
    exact hc.moved (hc.tasks_rest (by simp [hp])) rfl (by simp)
  next => cases h

theorem crew_task (hc : Crew w world) {i : Nat} {p : Store × Frame}
    (hp : (world.point (.task w i)).act digests world.shared (.task w i) c = some p) :
    Crew w ⟨p.1, Function.update world.point (.task w i) p.2⟩ := by
  have hprocessing : (world.point (.task w i)).processing = true := by
    rcases hc.tasks i with hidle | hgoing | hended
    · rw [hidle] at hp
      cases hp
    · exact hgoing
    · rw [ended_act hended] at hp
      cases hp
  have hnext := (act_lost hp hprocessing).2
  have hbatch : batchTasks ⟨p.1, Function.update world.point (.task w i) p.2⟩ w =
      batchTasks world w := batchTasks_eq rfl
  constructor
  · exact hc.worker
  · intro j
    by_cases hj : j = i
    · subst hj
      simp only [Function.update_self]
      exact .inr hnext
    · have hother : Thread.task w j ≠ .task w i := by simp [hj]
      simp only [Function.update_of_ne hother]
      exact hc.tasks j
  · intro j hj
    rw [hbatch]
    by_cases hji : j = i
    · subst hji
      exact hc.within j hprocessing
    · have hother : Thread.task w j ≠ .task w i := by simp [hji]
      simp only [Function.update_of_ne hother] at hj
      exact hc.within j hj
  · intro t ht
    rw [hbatch] at ht
    by_cases hti : t = .task w i
    · subst hti
      simp only [Function.update_self]
      intro hidle
      rw [hidle] at hnext
      rcases hnext with hfalse | hfalse <;> cases hfalse
    · simp only [Function.update_of_ne hti]
      exact hc.attended t ht

theorem crew_step (hc : Crew w world) (h : step digests world l = some world') :
    Crew w world' := by
  cases hl : ownLabel w l with
  | false => exact (foreign_kept h hl).crew hc
  | true =>
    cases l with
    | startOrderConsumer v =>
      obtain rfl : v = w := of_decide_eq_true hl
      simp only [step] at h
      split at h
      · cases h
        exact hc
      · exact crew_started hc h
    | processAvailableOrderMessages v =>
      obtain rfl : v = w := of_decide_eq_true hl
      exact crew_started hc h
    | stopOrderConsumer v =>
      cases h
      exact ⟨hc.worker, hc.tasks, hc.within, hc.attended⟩
    | act t c =>
      obtain rfl | ⟨i, rfl⟩ := own_cases hl
      · exact crew_loop hc h
      · obtain ⟨p, hp, rfl⟩ := Option.map_eq_some_iff.mp h
        exact crew_task hc hp
    | crashWorker v =>
      obtain rfl : v = w := of_decide_eq_true hl
      cases h
      have hworker : (kill ⟨{ world.shared with
          running := Function.update world.shared.running v false }, world.point⟩
            (workerThreads v)).point (.worker v) = .idle := by simp [kill, own_worker]
      have htask (i : Nat) : (kill ⟨{ world.shared with
          running := Function.update world.shared.running v false }, world.point⟩
            (workerThreads v)).point (.task v i) = .idle := by simp [kill, own_task]
      constructor
      · rw [hworker]
        rfl
      · exact fun i => .inl (htask i)
      · intro i hi
        rw [htask i] at hi
        cases hi
      · intro t ht
        rw [batchTasks_nil (by simp [hworker])] at ht
        cases ht
    | _ => cases hl

end Crew

/-! ## No transaction outlives its thread -/

/-- Every open transaction belongs to a call or a task between its row update and its commit. -/
structure Live (world : World) : Prop where
  crew : ∀ w, Crew w world
  locks : ∀ id t, world.shared.rowLock id = some t → (world.point t).wroteRow = some id

/-- Only finitely many identifiers have been drawn. -/
def FinitelyDrawn (s : Store) : Prop := {id | s.drawn id ≠ none}.Finite

section Live

variable {digests : ScriptDigests} {world world' : World} {l : Label}

theorem initial_live (hinit : Initial world) : Live world := by
  refine ⟨fun w => ⟨?_, ?_, ?_, ?_⟩, ?_⟩
  · rw [hinit.idle]
    rfl
  · intro i
    exact .inl (hinit.idle _)
  · intro i hi
    rw [hinit.idle] at hi
    cases hi
  · intro t ht
    rw [batchTasks_nil (by simp [hinit.idle])] at ht
    cases ht
  · intro id t ht
    rw [hinit.unlocked] at ht
    cases ht

theorem wroteRow_inFlight {f : Frame} {id : String} (h : f.wroteRow = some id) :
    0 < f.commandsLeft := by
  cases f with
  | createRow | commitOrder | bookRow | commitBooking => simp [Frame.commandsLeft, Frame.rank]
  | _ => cases h

/-- A task with an open transaction is in the middle of its message. -/
theorem Crew.wroteRow_processing {w i : Nat} (hc : Crew w world) {id : String}
    (h : (world.point (.task w i)).wroteRow = some id) :
    (world.point (.task w i)).processing = true := by
  rcases hc.tasks i with hidle | hgoing | hended
  · rw [hidle] at h
    cases h
  · exact hgoing
  · cases hf : world.point (.task w i) with
    | processed | failed =>
      rw [hf] at h
      cases h
    | _ =>
      rw [hf] at hended
      cases hended

theorem actWorker_leaves {w : Nat} {c : Choice} (h : actWorker world w c = some world') :
    world'.shared.rowLock = world.shared.rowLock ∧
      world'.shared.drawn = world.shared.drawn := by
  have stopped (mode : Mode) : (stopWorker world.shared w mode).rowLock = world.shared.rowLock ∧
      (stopWorker world.shared w mode).drawn = world.shared.drawn := by
    cases mode <;> exact ⟨rfl, rfl⟩
  unfold actWorker at h
  cases hp : world.point (.worker w) with
  | createGroup mode =>
    rw [hp] at h
    cases h
    cases c <;> exact ⟨rfl, rfl⟩
  | poll =>
    rw [hp] at h
    cases h
    unfold stepPoll
    split <;> exact ⟨rfl, rfl⟩
  | claim mode =>
    rw [hp] at h
    cases h
    cases c with
    | fail message => exact stopped mode
    | ok id =>
      simp only [stepClaim]
      cases hclaim : claimPendingMessages world.shared w with
      | none => exact stopped mode
      | some p =>
        obtain ⟨⟨stream, entries⟩, -, rfl⟩ := Option.map_eq_some_iff.mp hclaim
        exact ⟨rfl, rfl⟩
  | read mode claimed =>
    rw [hp] at h
    simp only at h
    have hsame : (stepRead world.shared w mode claimed c).1.rowLock = world.shared.rowLock ∧
        (stepRead world.shared w mode claimed c).1.drawn = world.shared.drawn := by
      cases c with
      | fail message => exact stopped mode
      | ok id =>
        simp only [stepRead]
        cases hread : readMessages world.shared w with
        | none => exact stopped mode
        | some p =>
          obtain ⟨⟨stream, entries⟩, -, rfl⟩ := Option.map_eq_some_iff.mp hread
          cases mode with
          | startOrderConsumer => simp only; split <;> exact ⟨rfl, rfl⟩
          | processAvailableOrderMessages => exact ⟨rfl, rfl⟩
    cases h
    exact hsame
  | batch mode count =>
    rw [hp] at h
    simp only at h
    split_ifs at h
    cases h
    exact ⟨rfl, rfl⟩
  | _ =>
    rw [hp] at h
    cases h

theorem unlock_some {s : Store} {ended : Thread → Bool} {id : String} {t : Thread}
    (h : (s.unlock ended).rowLock id = some t) :
    ended t = false ∧ s.rowLock id = some t := by
  have hended : ended t = false := by
    by_contra hdead
    simp only [Store.unlock] at h
    split at h
    · split_ifs at h with hu
      cases h
      exact hdead (Bool.not_eq_true _ ▸ hu)
    · cases h
  exact ⟨hended, (unlock_locks s hended id).mp h⟩

theorem kill_live_locks (hlive : Live world) (running : Nat → Bool) (dead : Thread → Bool)
    {id : String} {t : Thread}
    (h : (kill ⟨{ world.shared with running }, world.point⟩ dead).shared.rowLock id = some t) :
    ((kill ⟨{ world.shared with running }, world.point⟩ dead).point t).wroteRow = some id := by
  obtain ⟨halive, hlock⟩ := unlock_some h
  simp only [kill, halive]
  exact hlive.locks id t hlock

/-- A thread that begins anew had no open transaction. -/
theorem live_locks_begin (hlive : Live world) {t : Thread} {f : Frame} {s : Store}
    (hf : (world.point t).wroteRow = none) (hlocks : s.rowLock = world.shared.rowLock) {id : String}
    {u : Thread} (h : s.rowLock id = some u) :
    ((⟨s, Function.update world.point t f⟩ : World).point u).wroteRow = some id := by
  rw [hlocks] at h
  have hwrites := hlive.locks id u h
  have hne : u ≠ t := by
    rintro rfl
    rw [hf] at hwrites
    cases hwrites
  simp only [Function.update_of_ne hne]
  exact hwrites

theorem actWorker_locks (hlive : Live world) {w : Nat} {c : Choice}
    (h : actWorker world w c = some world') {id : String} {t : Thread}
    (hlock : world'.shared.rowLock id = some t) : (world'.point t).wroteRow = some id := by
  rw [(actWorker_leaves h).1] at hlock
  have hwrites := hlive.locks id t hlock
  cases t with
  | call n =>
    rw [actWorker_call h]
    exact hwrites
  | worker v =>
    have hflight := wroteRow_inFlight hwrites
    rw [(hlive.crew v).worker] at hflight
    cases hflight
  | task v i =>
    rcases actWorker_task (w := v) (i := i) h with hsame | ⟨rfl, ⟨mode, claimed, hp⟩, -⟩
    · rw [hsame]
      exact hwrites
    · have hrest := (hlive.crew w).tasks_rest (by simp [hp]) i
      rw [(hlive.crew w).wroteRow_processing hwrites] at hrest
      cases hrest

theorem live_step (hlive : Live world) (h : step digests world l = some world') :
    Live world' ∧ (FinitelyDrawn world.shared → FinitelyDrawn world'.shared) := by
  suffices hrest : (∀ id u, world'.shared.rowLock id = some u →
      (world'.point u).wroteRow = some id) ∧
        (FinitelyDrawn world.shared → FinitelyDrawn world'.shared) from
    ⟨⟨fun w => crew_step (hlive.crew w) h, hrest.1⟩, hrest.2⟩
  have same (hlocks : ∀ id u, world'.shared.rowLock id = some u →
      (world'.point u).wroteRow = some id) (hdrawn : world'.shared.drawn = world.shared.drawn) :
      (∀ id u, world'.shared.rowLock id = some u → (world'.point u).wroteRow = some id) ∧
        (FinitelyDrawn world.shared → FinitelyDrawn world'.shared) := by
    refine ⟨hlocks, fun hfinite => ?_⟩
    unfold FinitelyDrawn
    rw [hdrawn]
    exact hfinite
  have entered {t : Thread} {f : Frame} (h : enter world t f = some world') :
      (∀ id u, world'.shared.rowLock id = some u → (world'.point u).wroteRow = some id) ∧
        (FinitelyDrawn world.shared → FinitelyDrawn world'.shared) := by
    obtain ⟨hidle, rfl⟩ := enter_some h
    exact same (fun id u hu => live_locks_begin hlive (by rw [hidle]; rfl) rfl hu) rfl
  have started {w : Nat} {mode : Mode} {s : Store} (hlocks : s.rowLock = world.shared.rowLock)
      (hdrawn : s.drawn = world.shared.drawn) (h : startWorker world w mode s = some world') :
      (∀ id u, world'.shared.rowLock id = some u → (world'.point u).wroteRow = some id) ∧
        (FinitelyDrawn world.shared → FinitelyDrawn world'.shared) := by
    have hnone : (world.point (.worker w)).wroteRow = none := by
      by_contra hsome
      obtain ⟨id, hid⟩ := Option.ne_none_iff_exists'.mp hsome
      have hflight := wroteRow_inFlight hid
      rw [(hlive.crew w).worker] at hflight
      cases hflight
    obtain rfl := startWorker_some h
    exact same (fun id u hu => live_locks_begin hlive hnone hlocks hu) hdrawn
  have acted {t : Thread} {c : Choice}
      (h : ((world.point t).act digests world.shared t c).map (fun p : Store × Frame =>
        (⟨p.1, Function.update world.point t p.2⟩ : World)) = some world') :
      (∀ id u, world'.shared.rowLock id = some u → (world'.point u).wroteRow = some id) ∧
        (FinitelyDrawn world.shared → FinitelyDrawn world'.shared) := by
    obtain ⟨p, hp, rfl⟩ := Option.map_eq_some_iff.mp h
    have hleaves := act_leaves (fun id => hlive.locks id t) hp
    constructor
    · intro id u hu
      rcases hleaves.locks id u hu with ⟨hne, hold⟩ | ⟨rfl, hwrites⟩
      · simp only [Function.update_of_ne hne]
        exact hlive.locks id u hold
      · simp only [Function.update_self]
        exact hwrites
    · intro hfinite
      obtain ⟨new, hnew⟩ := hleaves.drawn
      apply (hfinite.insert new).subset
      intro id hid
      by_cases hne : id = new
      · exact .inl hne
      · right
        intro hnone
        exact hid ((hnew id hne).trans hnone)
  cases l with
  | holdSeat n payload => exact entered h
  | createOrder n payload => exact entered h
  | releaseSeat n payload holdId => exact entered h
  | startOrderConsumer w =>
    simp only [step] at h
    split_ifs at h
    · cases h
      exact same hlive.locks rfl
    · refine started ?_ ?_ h
      · rfl
      · rfl
  | processAvailableOrderMessages w => exact started rfl rfl h
  | stopOrderConsumer w =>
    cases h
    exact same hlive.locks rfl
  | act t c =>
    cases t with
    | worker w =>
      exact same (fun id u hu => actWorker_locks hlive h hu) (actWorker_leaves h).2
    | call n => exact acted h
    | task w i => exact acted h
  | crashCall n =>
    cases h
    exact same (fun id u hu => kill_live_locks hlive world.shared.running _ hu) rfl
  | crashWorker w =>
    cases h
    exact same (fun id u hu => kill_live_locks hlive _ _ hu) rfl
  | advance ms | flushScripts =>
    cases h
    exact same hlive.locks rfl

/-- Invariant over whole runs: a seat row is locked only by a call or a task that stands between
its row update and its commit on that row. -/
theorem reach_live (hinit : Initial world) (h : (engine digests).Reach world world') :
    Live world' :=
  Machine.Reach.invariant (engine digests) (I := Live)
    (fun _ _ _ hs hst => (live_step hs hst).1) (initial_live hinit) h

/-- No open transaction is left behind: a locked seat row belongs to a call or a task that goes on
to its commit, and the committed row is still the one its update has matched. -/
theorem open_transactions_owned {seatId : String} {t : Thread} (hinit : Initial world)
    (hreach : (engine digests).Reach world world')
    (hlock : world'.shared.rowLock seatId = some t) :
    (∃ request execution, world'.point t = .createRow request execution ∧
        request.seatId = seatId ∧
        world'.shared.seats seatId = some ⟨request.eventId, .AVAILABLE⟩) ∨
      (∃ order, world'.point t = .commitOrder order ∧ order.seatId = seatId ∧
        world'.shared.seats seatId = some ⟨order.eventId, .AVAILABLE⟩) ∨
      ∃ message payload, (world'.point t = .bookRow message payload ∨
          world'.point t = .commitBooking message payload) ∧
        payload.seatId = seatId ∧
        world'.shared.seats seatId = some ⟨payload.eventId, .HELD⟩ := by
  have hwrites := (reach_live hinit hreach).locks seatId t hlock
  have hholds := (reach_valid hinit hreach).2 t
  cases hf : world'.point t with
  | createRow request execution =>
    rw [hf] at hwrites hholds
    cases hwrites
    exact .inl ⟨request, execution, rfl, rfl, hholds.2.2⟩
  | commitOrder order =>
    rw [hf] at hwrites hholds
    cases hwrites
    exact .inr (.inl ⟨order, rfl, rfl, hholds.2.1.2⟩)
  | bookRow message payload =>
    rw [hf] at hwrites hholds
    cases hwrites
    exact .inr (.inr ⟨message, payload, .inl rfl, rfl, hholds.2.2⟩)
  | commitBooking message payload =>
    rw [hf] at hwrites hholds
    cases hwrites
    exact .inr (.inr ⟨message, payload, .inr rfl, rfl, hholds.2.2⟩)
  | _ =>
    rw [hf] at hwrites
    cases hwrites

/-- A purchase up to its open transaction. -/
def orderInTransaction : List Label :=
  [.createOrder 0 (requestOf "u")] ++ acts (.call 0) ["h", "", "", ""]

theorem open_transactions_owned_order :
    ∃ world', (engine fun _ => true).run oneSeat orderInTransaction = some world' ∧
      world'.shared.rowLock "s" = some (.call 0) ∧
      ((∃ request execution, world'.point (.call 0) = .createRow request execution ∧
          request.seatId = "s" ∧
          world'.shared.seats "s" = some ⟨request.eventId, .AVAILABLE⟩) ∨
        (∃ order, world'.point (.call 0) = .commitOrder order ∧ order.seatId = "s" ∧
          world'.shared.seats "s" = some ⟨order.eventId, .AVAILABLE⟩) ∨
        ∃ message payload, (world'.point (.call 0) = .bookRow message payload ∨
            world'.point (.call 0) = .commitBooking message payload) ∧
          payload.seatId = "s" ∧
          world'.shared.seats "s" = some ⟨payload.eventId, .HELD⟩) := by
  have hview : ((engine fun _ => true).run oneSeat orderInTransaction).map
      (fun world' => world'.shared.rowLock "s") = some (some (.call 0)) := by
    decide +kernel
  obtain ⟨world', hrun, hlock⟩ := Option.map_eq_some_iff.mp hview
  exact ⟨world', hrun, hlock, open_transactions_owned oneSeat_initial ⟨_, hrun⟩ hlock⟩

theorem reach_finitelyDrawn (hinit : Initial world) (hfinite : FinitelyDrawn world.shared)
    (h : (engine digests).Reach world world') : FinitelyDrawn world'.shared := by
  have hboth : Live world' ∧ FinitelyDrawn world'.shared :=
    Machine.Reach.invariant (engine digests) (I := fun w => Live w ∧ FinitelyDrawn w.shared)
      (fun _ _ _ hs hst => ⟨(live_step hs.1 hst).1, (live_step hs.1 hst).2 hs.2⟩)
      ⟨initial_live hinit, hfinite⟩ h
  exact hboth.2

end Live

end TicketEngine
