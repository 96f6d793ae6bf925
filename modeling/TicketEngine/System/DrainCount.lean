import TicketEngine.System.Course
import TicketEngine.System.Settlement

namespace TicketEngine

/-! ## One drain -/

/-- The next statement of a message's processing goes wrong: the message is no order event, its
order is unknown or has no HELD seat, or the command fails. A failed publish is caught. -/
def Frame.wrong (s : Store) (c : Choice) : Frame → Bool
  | .readMessage message =>
    match readEvent message with
    | .ok _ => false
    | .error _ => true
  | .findBooking _ payload => c.failed || (s.orders.row payload.holdId).isNone
  | .sellRow _ payload =>
    c.failed || decide (s.seats payload.seatId ≠ some ⟨payload.eventId, .HELD⟩)
  | .bookRow _ payload => c.failed || (s.orders.row payload.holdId).isNone
  | .commitBooking _ _ | .acknowledge _ _ => c.failed
  | _ => false

/-- `processMessage` has settled the order, or found it BOOKED, and acknowledged the message. -/
def Frame.handled : Frame → Bool
  | .processed _ => true
  | _ => false

/-- `processMessage` has swallowed an error. -/
def Frame.lost : Frame → Bool
  | .failed _ _ => true
  | _ => false

/-- The messages of its batch that a worker has handled. -/
def handledBy (world : World) (w count : Nat) : Nat :=
  (List.range count).countP fun i => (world.point (.task w i)).handled

/-- A call of `processAvailableOrderMessages` on worker `w`, from its first command until it has
returned, with any other steps between. The process neither dies nor begins another call. -/
structure Drain (digests : ScriptDigests) (w : Nat) (world : World) (ls : List Label)
    (world' : World) (count : Nat) : Prop where
  called : world.point (.worker w) = .createGroup .processAvailableOrderMessages
  run : (engine digests).run world ls = some world'
  alive : (engine digests).Along (Undisturbed (.worker w)) world ls
  returned : world'.point (.worker w) = .drained count

/-- No statement of a message of the drain's batch goes wrong. -/
def Faultless (w : Nat) (world : World) (l : Label) (_ : World) : Prop :=
  ∀ i c count, l = .act (.task w i) c →
    world.point (.worker w) = .batch .processAvailableOrderMessages count → i < count →
    (world.point (.task w i)).wrong world.shared c = false

/-! ## The loop of the benchmark -/

/-- One drain of the loop: where it was called, its run, the number it returned and the number of
messages it handled. -/
structure DrainRecord where
  world : World
  labels : List Label
  returned : Nat
  handled : Nat

/-- The rest of the loop of `runOrderStreamBenchmark`, and the drains it makes. -/
inductive DrainLoop (digests : ScriptDigests) (w orders : Nat) :
    World → Nat → Nat → List DrainRecord → Prop
  | stop {world attempt processed} (hstop : ¬ (attempt < 20 ∧ processed < orders)) :
      DrainLoop digests w orders world attempt processed []
  | drain {world called ls world' attempt processed batchSize drains}
      (hattempt : attempt < 20) (hprocessed : processed < orders)
      (hcall : step digests world (.processAvailableOrderMessages w) = some called)
      (hdrain : Drain digests w called ls world' batchSize)
      (hrest : DrainLoop digests w orders world' (attempt + 1) (processed + batchSize) drains) :
      DrainLoop digests w orders world attempt processed
        (⟨called, ls, batchSize, handledBy world' w batchSize⟩ :: drains)

section Task

variable {s : Store} {t : Thread} {c : Choice} {f : Frame} {r : Store × Frame}

/-- A statement fails the message exactly when it goes wrong; otherwise the message goes on. -/
theorem act_lost {digests : ScriptDigests} (h : f.act digests s t c = some r)
    (hf : f.processing = true) :
    r.2.lost = f.wrong s c ∧ (r.2.processing = true ∨ r.2.ended = true) := by
  cases f with
  | readMessage message =>
    cases h
    simp only [stepReadMessage, Frame.wrong]
    cases readEvent message with
    | error e => exact ⟨rfl, .inr rfl⟩
    | ok payload => exact ⟨rfl, .inl rfl⟩
  | findBooking message payload =>
    cases h
    cases c with
    | fail e => exact ⟨rfl, .inr rfl⟩
    | ok id =>
      simp only [stepFindBooking, Frame.wrong]
      cases s.orders.row payload.holdId with
      | none => exact ⟨rfl, .inr rfl⟩
      | some existing =>
        simp only
        split_ifs
        · exact ⟨rfl, .inl rfl⟩
        · exact ⟨rfl, .inl rfl⟩
  | sellRow message payload =>
    cases c with
    | fail e =>
      cases h
      exact ⟨rfl, .inr rfl⟩
    | ok id =>
      obtain ⟨⟨s', count⟩, hl, rfl⟩ := Option.map_eq_some_iff.mp h
      unfold Store.lockRow at hl
      split_ifs at hl with hrow hfree
      · cases hl
        exact ⟨by simp [Frame.wrong, Choice.failed, Frame.lost, hrow], .inl rfl⟩
      · cases hl
        exact ⟨by simp [Frame.wrong, Choice.failed, Frame.lost, hrow], .inr rfl⟩
  | bookRow message payload =>
    cases h
    cases c with
    | fail e => exact ⟨rfl, .inr rfl⟩
    | ok id =>
      simp only [stepBookRow, Frame.wrong]
      cases s.orders.row payload.holdId with
      | none => exact ⟨rfl, .inr rfl⟩
      | some existing => exact ⟨rfl, .inl rfl⟩
  | commitBooking message payload =>
    cases h
    cases c with
    | fail e => exact ⟨rfl, .inr rfl⟩
    | ok id => exact ⟨rfl, .inl rfl⟩
  | publishBooked message payload =>
    obtain ⟨s', -, rfl⟩ := Option.map_eq_some_iff.mp h
    exact ⟨rfl, .inl rfl⟩
  | acknowledge message payload =>
    cases h
    cases c with
    | fail e => exact ⟨rfl, .inr rfl⟩
    | ok id => exact ⟨rfl, .inr rfl⟩
  | _ => cases hf

theorem handled_iff (hf : f.ended = true) : f.handled = true ↔ f.lost = false := by
  cases f with
  | processed id => exact iff_of_true rfl rfl
  | failed id e => exact iff_of_false (by simp [Frame.handled]) (by simp [Frame.lost])
  | _ => cases hf

theorem processing_lost (hf : f.processing = true) : f.lost = false := by
  cases f with
  | failed id e => cases hf
  | _ => rfl

theorem ended_act {digests : ScriptDigests} (hf : f.ended = true) :
    f.act digests s t c = none := by
  cases f with
  | processed id => rfl
  | failed id e => rfl
  | _ => cases hf

end Task

section Step

variable {digests : ScriptDigests} {world world' : World} {l : Label} {w n : Nat}

theorem alive_worker (h : step digests world l = some world')
    (halive : Undisturbed (.worker w) world l world') :
    world'.point (.worker w) = world.point (.worker w) ∨
      ∃ c, l = .act (.worker w) c ∧ actWorker world w c = some world' := by
  by_cases hl : ∃ c, l = .act (.worker w) c
  · obtain ⟨c, rfl⟩ := hl
    exact .inr ⟨c, rfl, h⟩
  · exact .inl (halive fun c hc => hl ⟨c, hc⟩)

/-- A task of a live worker that reads no batch stays, or takes its own next command. -/
theorem alive_task (h : step digests world l = some world')
    (halive : Undisturbed (.worker w) world l world')
    (hidle : world.point (.worker w) ≠ .idle)
    (hread : ∀ mode claimed, world.point (.worker w) ≠ .read mode claimed) (i : Nat) :
    world'.point (.task w i) = world.point (.task w i) ∨
      ∃ c p, l = .act (.task w i) c ∧
        (world.point (.task w i)).act digests world.shared (.task w i) c = some p ∧
        world' = ⟨p.1, Function.update world.point (.task w i) p.2⟩ := by
  rcases task_cases h w i with hsame | hown | ⟨c, rfl, ⟨mode, claimed, hp⟩, -⟩ | rfl
  · exact .inl hsame
  · exact .inr hown
  · exact absurd hp (hread mode claimed)
  · have hkept := halive (by simp)
    have hdead : world'.point (.worker w) = .idle := by
      cases h
      simp [kill, workerThreads]
    exact absurd (hkept.symm.trans hdead) hidle

theorem drained_step (h : step digests world l = some world')
    (halive : Undisturbed (.worker w) world l world')
    (hp : world.point (.worker w) = .drained n)
    (hended : ∀ i < n, (world.point (.task w i)).ended = true) :
    world'.point (.worker w) = .drained n ∧
      ∀ i < n, world'.point (.task w i) = world.point (.task w i) := by
  constructor
  · rcases alive_worker h halive with hsame | ⟨c, rfl, hact⟩
    · exact hsame.trans hp
    · unfold actWorker at hact
      rw [hp] at hact
      cases hact
  · intro i hi
    rcases alive_task h halive (by rw [hp]; simp) (by rw [hp]; simp) i with
      hsame | ⟨c, p, -, hact, -⟩
    · exact hsame
    · rw [ended_act (hended i hi)] at hact
      cases hact

theorem faultless_elsewhere
    (hp : ∀ count, world.point (.worker w) ≠ .batch .processAvailableOrderMessages count) :
    Faultless w world l world' :=
  fun _ _ count _ hbatch _ => absurd hbatch (hp count)

theorem drained_run {ls : List Label} (hrun : (engine digests).run world ls = some world')
    (halive : (engine digests).Along (Undisturbed (.worker w)) world ls)
    (hp : world.point (.worker w) = .drained n)
    (hended : ∀ i < n, (world.point (.task w i)).ended = true) :
    world'.point (.worker w) = .drained n ∧
      (∀ i < n, world'.point (.task w i) = world.point (.task w i)) ∧
      (engine digests).Along (Faultless w) world ls := by
  induction ls generalizing world with
  | nil =>
    cases hrun
    exact ⟨hp, fun _ _ => rfl, trivial⟩
  | cons l ls ih =>
    obtain ⟨next, hstep, hrun⟩ := Machine.run_cons_some _ hrun
    obtain ⟨hfirst, hrest⟩ := halive next hstep
    obtain ⟨hp', hsame⟩ := drained_step hstep hfirst hp hended
    have hended' : ∀ i < n, (next.point (.task w i)).ended = true := by
      intro i hi
      rw [hsame i hi]
      exact hended i hi
    obtain ⟨hlast, hkept, halong⟩ := ih hrun hrest hp' hended'
    refine ⟨hlast, fun i hi => (hkept i hi).trans (hsame i hi), ?_⟩
    exact (Machine.along_cons _ hstep).mpr ⟨faultless_elsewhere (by rw [hp]; simp), halong⟩

structure InBatch (w n : Nat) (world : World) : Prop where
  worker : world.point (.worker w) = .batch .processAvailableOrderMessages n
  tasks : ∀ i < n, (world.point (.task w i)).processing = true ∨
    (world.point (.task w i)).ended = true

/-- No message of the batch has failed so far. -/
def NoneLost (w n : Nat) (world : World) : Prop :=
  ∀ i < n, (world.point (.task w i)).lost = false

theorem inBatch_task {i : Nat} {c : Choice} {p : Store × Frame} (hb : InBatch w n world)
    (hi : i < n)
    (hact : (world.point (.task w i)).act digests world.shared (.task w i) c = some p)
    (hworld : world' = ⟨p.1, Function.update world.point (.task w i) p.2⟩) :
    InBatch w n world' ∧
      (NoneLost w n world' ↔
        NoneLost w n world ∧ Faultless w world (.act (.task w i) c) world') := by
  have hprocessing : (world.point (.task w i)).processing = true := by
    rcases hb.tasks i hi with hgoing | hended
    · exact hgoing
    · rw [ended_act hended] at hact
      cases hact
  obtain ⟨hlost, hnext⟩ := act_lost hact hprocessing
  have hother (j : Nat) (hj : j ≠ i) : world'.point (.task w j) = world.point (.task w j) := by
    subst hworld
    exact Function.update_of_ne (by simpa using hj) ..
  have hown : world'.point (.task w i) = p.2 := by
    subst hworld
    exact Function.update_self ..
  have hfaultless : Faultless w world (.act (.task w i) c) world' ↔
      (world.point (.task w i)).wrong world.shared c = false := by
    constructor
    · intro h
      exact h i c n rfl hb.worker hi
    · intro h j d count hl _ _
      cases hl
      exact h
  refine ⟨⟨?_, fun j hj => ?_⟩, ?_⟩
  · subst hworld
    exact hb.worker
  · by_cases hji : j = i
    · subst hji
      rw [hown]
      exact hnext
    · rw [hother j hji]
      exact hb.tasks j hj
  · rw [hfaultless, ← hlost]
    constructor
    · intro h
      refine ⟨fun j hj => ?_, ?_⟩
      · by_cases hji : j = i
        · subst hji
          exact processing_lost hprocessing
        · rw [← hother j hji]
          exact h j hj
      · rw [← hown]
        exact h i hi
    · rintro ⟨h, hp⟩ j hj
      by_cases hji : j = i
      · subst hji
        rw [hown]
        exact hp
      · rw [hother j hji]
        exact h j hj

/-- A step while the batch runs: the worker returns once all its messages have ended; any other
step keeps the batch, and none of its messages is lost exactly as long as no statement goes
wrong. -/
theorem inBatch_step (h : step digests world l = some world')
    (halive : Undisturbed (.worker w) world l world') (hb : InBatch w n world) :
    (InBatch w n world' ∧
        (NoneLost w n world' ↔ NoneLost w n world ∧ Faultless w world l world')) ∨
      world'.point (.worker w) = .drained n ∧ Faultless w world l world' ∧
        ∀ i < n, (world.point (.task w i)).ended = true ∧
          world'.point (.task w i) = world.point (.task w i) := by
  rcases alive_worker h halive with hsame | ⟨c, rfl, hact⟩
  · left
    by_cases hl : ∃ i c, l = .act (.task w i) c ∧ i < n
    · obtain ⟨i, c, rfl, hi⟩ := hl
      obtain ⟨p, hp, hworld⟩ := Option.map_eq_some_iff.mp h
      exact inBatch_task hb hi hp hworld.symm
    · have hkept : ∀ i < n, world'.point (.task w i) = world.point (.task w i) := by
        intro i hi
        rcases alive_task h halive (by rw [hb.worker]; simp) (by rw [hb.worker]; simp) i with
          hsame | ⟨c, p, hown, -, -⟩
        · exact hsame
        · exact absurd ⟨i, c, hown, hi⟩ hl
      have hfaultless : Faultless w world l world' := by
        intro i c count hown hbatch hi
        rw [hb.worker] at hbatch
        cases hbatch
        exact absurd ⟨i, c, hown, hi⟩ hl
      refine ⟨⟨hsame.trans hb.worker, fun i hi => ?_⟩, ?_⟩
      · rw [hkept i hi]
        exact hb.tasks i hi
      · constructor
        · intro hnone
          refine ⟨fun i hi => ?_, hfaultless⟩
          rw [← hkept i hi]
          exact hnone i hi
        · rintro ⟨hnone, -⟩ i hi
          rw [hkept i hi]
          exact hnone i hi
  · right
    unfold actWorker at hact
    rw [hb.worker] at hact
    simp only at hact
    split_ifs at hact with hall
    cases hact
    refine ⟨Function.update_self .., ?_, fun i hi => ⟨hall i hi, rfl⟩⟩
    intro i c count hown
    cases hown

theorem inBatch_run {ls : List Label} {count : Nat}
    (hrun : (engine digests).run world ls = some world')
    (halive : (engine digests).Along (Undisturbed (.worker w)) world ls)
    (hb : InBatch w n world) (hreturned : world'.point (.worker w) = .drained count) :
    count = n ∧ (∀ i < n, (world'.point (.task w i)).ended = true) ∧
      (NoneLost w n world' ↔
        NoneLost w n world ∧ (engine digests).Along (Faultless w) world ls) := by
  induction ls generalizing world with
  | nil =>
    cases hrun
    rw [hb.worker] at hreturned
    cases hreturned
  | cons l ls ih =>
    obtain ⟨next, hstep, hrun⟩ := Machine.run_cons_some _ hrun
    obtain ⟨hfirst, hrest⟩ := halive next hstep
    have along : (engine digests).Along (Faultless w) world (l :: ls) ↔
        Faultless w world l next ∧ (engine digests).Along (Faultless w) next ls :=
      Machine.along_cons _ hstep
    rcases inBatch_step hstep hfirst hb with ⟨hb', hnone⟩ | ⟨hp, hfaultless, hkept⟩
    · obtain ⟨hcount, hended, hiff⟩ := ih hrun hrest hb'
      refine ⟨hcount, hended, ?_⟩
      rw [hiff, hnone, along, and_assoc]
    · have hended : ∀ i < n, (next.point (.task w i)).ended = true := by
        intro i hi
        rw [(hkept i hi).2]
        exact (hkept i hi).1
      obtain ⟨hlast, hsame, halong⟩ := drained_run hrun hrest hp hended
      rw [hreturned] at hlast
      cases hlast
      refine ⟨rfl, fun i hi => ?_, ?_⟩
      · rw [hsame i hi]
        exact hended i hi
      · constructor
        · intro h
          refine ⟨fun i hi => ?_, along.mpr ⟨hfaultless, halong⟩⟩
          rw [← (hkept i hi).2, ← hsame i hi]
          exact h i hi
        · rintro ⟨h, -⟩ i hi
          rw [hsame i hi, (hkept i hi).2]
          exact h i hi

/-! ## Before the batch -/

/-- The commands of a drain before it has its batch. -/
def Frame.draining : Frame → Bool
  | .createGroup .processAvailableOrderMessages | .claim .processAvailableOrderMessages => true
  | .read .processAvailableOrderMessages _ => true
  | _ => false

theorem stepRead_drain (s : Store) (w : Nat) (claimed : List RedisStreamMessage) (c : Choice) :
    ∃ s', stepRead s w .processAvailableOrderMessages claimed c = (s', .stopped, []) ∨
      ∃ messages, stepRead s w .processAvailableOrderMessages claimed c =
        (s', .batch .processAvailableOrderMessages messages.length, messages) := by
  cases c with
  | fail message => exact ⟨_, .inl rfl⟩
  | ok id =>
    unfold stepRead
    cases readMessages s w with
    | none => exact ⟨_, .inl rfl⟩
    | some q => exact ⟨_, .inr ⟨_, rfl⟩⟩

theorem draining_read {claimed : List RedisStreamMessage} {c : Choice}
    (hp : world.point (.worker w) = .read .processAvailableOrderMessages claimed)
    (hact : actWorker world w c = some world') :
    world'.point (.worker w) = .stopped ∨ ∃ n, InBatch w n world' ∧ NoneLost w n world' := by
  unfold actWorker at hact
  rw [hp] at hact
  simp only at hact
  obtain ⟨s', hread | ⟨messages, hread⟩⟩ := stepRead_drain world.shared w claimed c
  · rw [hread] at hact
    cases hact
    exact .inl (Function.update_self ..)
  · rw [hread] at hact
    cases hact
    right
    have htask (i : Nat) (hi : i < messages.length) : spawn (Function.update world.point
        (.worker w) (.batch .processAvailableOrderMessages messages.length)) w messages
          (.task w i) = .readMessage messages[i] := by
      simp only [spawn, List.getElem?_eq_getElem hi, if_true]
    refine ⟨messages.length, ⟨Function.update_self .., ?_⟩, ?_⟩
    · intro i hi
      left
      simp only [htask i hi]
      rfl
    · intro i hi
      simp only [htask i hi]
      rfl

/-- A drain gives up, goes on to its next command, or hands its batch to the tasks. -/
theorem draining_act {c : Choice} (hp : (world.point (.worker w)).draining = true)
    (hact : actWorker world w c = some world') :
    world'.point (.worker w) = .stopped ∨ (world'.point (.worker w)).draining = true ∨
      ∃ n, InBatch w n world' ∧ NoneLost w n world' := by
  cases hf : world.point (.worker w) with
  | createGroup mode =>
    cases mode with
    | startOrderConsumer =>
      rw [hf] at hp
      cases hp
    | processAvailableOrderMessages =>
      unfold actWorker at hact
      rw [hf] at hact
      cases hact
      simp only [Function.update_self]
      cases c with
      | fail message => exact .inl rfl
      | ok id => exact .inr (.inl rfl)
  | claim mode =>
    cases mode with
    | startOrderConsumer =>
      rw [hf] at hp
      cases hp
    | processAvailableOrderMessages =>
      unfold actWorker at hact
      rw [hf] at hact
      cases hact
      simp only [Function.update_self]
      cases c with
      | fail message => exact .inl rfl
      | ok id =>
        unfold stepClaim
        cases claimPendingMessages world.shared w with
        | none => exact .inl rfl
        | some q => exact .inr (.inl rfl)
  | read mode claimed =>
    cases mode with
    | startOrderConsumer =>
      rw [hf] at hp
      cases hp
    | processAvailableOrderMessages =>
      rcases draining_read hf hact with hstopped | hbatch
      · exact .inl hstopped
      · exact .inr (.inr hbatch)
  | _ =>
    rw [hf] at hp
    cases hp

theorem stopped_run {ls : List Label} (hrun : (engine digests).run world ls = some world')
    (halive : (engine digests).Along (Undisturbed (.worker w)) world ls)
    (hp : world.point (.worker w) = .stopped) : world'.point (.worker w) = .stopped := by
  induction ls generalizing world with
  | nil =>
    cases hrun
    exact hp
  | cons l ls ih =>
    obtain ⟨next, hstep, hrun⟩ := Machine.run_cons_some _ hrun
    obtain ⟨hfirst, hrest⟩ := halive next hstep
    apply ih hrun hrest
    rcases alive_worker hstep hfirst with hsame | ⟨c, rfl, hact⟩
    · exact hsame.trans hp
    · unfold actWorker at hact
      rw [hp] at hact
      cases hact

theorem draining_run {ls : List Label} {count : Nat}
    (hrun : (engine digests).run world ls = some world')
    (halive : (engine digests).Along (Undisturbed (.worker w)) world ls)
    (hp : (world.point (.worker w)).draining = true)
    (hreturned : world'.point (.worker w) = .drained count) :
    (∀ i < count, (world'.point (.task w i)).ended = true) ∧
      (NoneLost w count world' ↔ (engine digests).Along (Faultless w) world ls) := by
  induction ls generalizing world with
  | nil =>
    cases hrun
    rw [hreturned] at hp
    cases hp
  | cons l ls ih =>
    obtain ⟨next, hstep, htail⟩ := Machine.run_cons_some _ hrun
    obtain ⟨hfirst, hrest⟩ := halive next hstep
    have hfaultless : Faultless w world l next := by
      apply faultless_elsewhere
      intro count hbatch
      rw [hbatch] at hp
      cases hp
    rw [Machine.along_cons _ hstep, and_iff_right hfaultless]
    rcases alive_worker hstep hfirst with hsame | ⟨c, rfl, hact⟩
    · exact ih htail hrest (hsame ▸ hp)
    · rcases draining_act hp hact with hstopped | hgoing | ⟨n, hb, hnone⟩
      · rw [stopped_run htail hrest hstopped] at hreturned
        cases hreturned
      · exact ih htail hrest hgoing
      · obtain ⟨rfl, hended, hiff⟩ := inBatch_run htail hrest hb hreturned
        exact ⟨hended, hiff.trans (and_iff_right hnone)⟩

theorem handledBy_eq_iff (world : World) (w n : Nat) :
    n = handledBy world w n ↔ ∀ i < n, (world.point (.task w i)).handled = true := by
  have hlength := List.countP_eq_length (p := fun i => (world.point (.task w i)).handled)
    (l := List.range n)
  rw [List.length_range] at hlength
  rw [handledBy, eq_comm, hlength]
  simp only [List.mem_range]

theorem drain_iff {ls : List Label} {count : Nat} (h : Drain digests w world ls world' count) :
    count = handledBy world' w count ↔ (engine digests).Along (Faultless w) world ls := by
  have hp : (world.point (.worker w)).draining = true := by rw [h.called]; rfl
  obtain ⟨hended, hiff⟩ := draining_run h.run h.alive hp h.returned
  rw [handledBy_eq_iff, ← hiff]
  constructor
  · intro hall i hi
    exact (handled_iff (hended i hi)).mp (hall i hi)
  · intro hnone i hi
    exact (handled_iff (hended i hi)).mpr (hnone i hi)

theorem loop_handled {orders attempt processed : Nat} {drains : List DrainRecord}
    (h : DrainLoop digests w orders world attempt processed drains)
    (hfaultless : ∀ d ∈ drains, (engine digests).Along (Faultless w) d.world d.labels) :
    orders ≤ processed + (drains.map DrainRecord.handled).sum ∨
      20 ≤ attempt + drains.length := by
  induction h with
  | stop hstop => omega
  | drain _ _ _ hdrain _ ih =>
    have hcount := (drain_iff hdrain).mpr (hfaultless _ List.mem_cons_self)
    have hrest := ih fun d hd => hfaultless d (List.mem_cons_of_mem _ hd)
    simp only [List.map_cons, List.sum_cons, List.length_cons]
    omega

/-- Commands of a worker and of its tasks leave it alive. -/
theorem alive_of_own {ls : List Label}
    (h : ∀ l ∈ ls, ∃ c, l = .act (.worker w) c ∨ ∃ i, l = .act (.task w i) c) :
    (engine digests).Along (Undisturbed (.worker w)) world ls := by
  induction ls generalizing world with
  | nil => trivial
  | cons l ls ih =>
    intro next hstep
    refine ⟨fun hother => ?_, ih fun k hk => h k (List.mem_cons_of_mem _ hk)⟩
    obtain ⟨c, rfl | ⟨i, rfl⟩⟩ := h l List.mem_cons_self
    · exact absurd rfl (hother c)
    · obtain ⟨p, -, rfl⟩ := Option.map_eq_some_iff.mp hstep
      rfl

end Step

/-- What a drain returns is the number of messages it has handled exactly when no statement of its
messages goes wrong; and while that is so, the benchmark stops before its last attempt only when
as many messages are handled as it has orders. -/
theorem drain_count_iff (digests : ScriptDigests) (w : Nat) :
    (∀ world ls world' count, Drain digests w world ls world' count →
      (count = handledBy world' w count ↔ (engine digests).Along (Faultless w) world ls)) ∧
    ∀ orders world drains, DrainLoop digests w orders world 0 0 drains →
      (∀ d ∈ drains, (engine digests).Along (Faultless w) d.world d.labels) →
      orders ≤ (drains.map DrainRecord.handled).sum ∨ 20 ≤ drains.length := by
  refine ⟨fun world ls world' count h => drain_iff h, fun orders world drains h hfaultless => ?_⟩
  have hloop := loop_handled h hfaultless
  omega

def Frame.returned : Frame → Option Nat
  | .drained count => some count
  | _ => none

theorem returned_eq {f : Frame} {count : Nat} (h : f.returned = some count) :
    f = .drained count := by
  cases f with
  | drained n =>
    cases h
    rfl
  | _ => cases h

/-- The consumer group, and then one order on the stream. -/
def benchmarkOrder : List Label :=
  [.processAvailableOrderMessages 0] ++ acts (.worker 0) ["", "", "", ""] ++
    [.createOrder 0 (requestOf "u")] ++
    acts (.call 0) ["h", "", "", "", "o", "", "held-event", "order-event"]

/-- A drain of one message, whose task then makes these statements. -/
def drainOne (task : List Choice) : List Label :=
  acts (.worker 0) ["", "", ""] ++ task.map (.act (.task 0 0)) ++ acts (.worker 0) [""]

theorem drainOne_own (task : List Choice) :
    ∀ l ∈ drainOne task, ∃ c, l = .act (.worker 0) c ∨ ∃ i, l = .act (.task 0 i) c := by
  intro l hl
  simp only [drainOne, acts, List.mem_append, List.mem_map] at hl
  rcases hl with (⟨id, -, rfl⟩ | ⟨c, -, rfl⟩) | ⟨id, -, rfl⟩
  · exact ⟨_, .inl rfl⟩
  · exact ⟨c, .inr ⟨0, rfl⟩⟩
  · exact ⟨_, .inl rfl⟩

/-- The database fails when the order is looked up. -/
def lostConnection : List Choice := [.ok "", .fail "connection lost"]

def wholeSettlement : List Choice := List.replicate 7 (.ok "booked-event")

theorem drainOne_returns (task : List Choice) (handled : Nat)
    (hview : ((engine fun _ => true).run oneSeat
        (benchmarkOrder ++ .processAvailableOrderMessages 0 :: drainOne task)).map
      (fun world => ((world.point (.worker 0)).returned, handledBy world 0 1)) =
        some (some 1, handled)) :
    ∃ world called world', (engine fun _ => true).run oneSeat benchmarkOrder = some world ∧
      step (fun _ => true) world (.processAvailableOrderMessages 0) = some called ∧
      Drain (fun _ => true) 0 called (drainOne task) world' 1 ∧
      handledBy world' 0 1 = handled := by
  obtain ⟨world', hrun, hworld⟩ := Option.map_eq_some_iff.mp hview
  obtain ⟨hreturned, hhandled⟩ := Prod.mk.inj hworld
  rw [Machine.run_append] at hrun
  obtain ⟨world, hstart, hrun⟩ := Option.bind_eq_some_iff.mp hrun
  obtain ⟨called, hcall, hrun⟩ := Machine.run_cons_some _ hrun
  refine ⟨world, called, world', hstart, hcall, ?_, hhandled⟩
  refine ⟨?_, hrun, alive_of_own (drainOne_own task), returned_eq hreturned⟩
  rw [startWorker_some hcall]
  simp only [Function.update_self]

theorem drain_count_iff_wholeSettlement :
    ∃ world world', Drain (fun _ => true) 0 world (drainOne wholeSettlement) world' 1 ∧
      handledBy world' 0 1 = 1 ∧
      (engine fun _ => true).Along (Faultless 0) world (drainOne wholeSettlement) := by
  obtain ⟨-, called, world', -, -, hdrain, hhandled⟩ :=
    drainOne_returns wholeSettlement 1 (by decide +kernel)
  exact ⟨called, world', hdrain, hhandled,
    ((drain_count_iff (fun _ => true) 0).1 _ _ _ _ hdrain).mp hhandled.symm⟩

/-- The message of the only order fails and stays pending; the drain returns 1 all the same, and
the loop stops after it. -/
theorem drain_counts_failed :
    (¬ ∀ world ls world' count, Drain (fun _ => true) 0 world ls world' count →
      count = handledBy world' 0 count) ∧
    ∃ world drains, (engine fun _ => true).run oneSeat benchmarkOrder = some world ∧
      DrainLoop (fun _ => true) 0 1 world 0 0 drains ∧ drains.length = 1 ∧
      (drains.map DrainRecord.handled).sum = 0 := by
  obtain ⟨world, called, world', hstart, hcall, hdrain, hhandled⟩ :=
    drainOne_returns lostConnection 0 (by decide +kernel)
  constructor
  · intro hall
    have hcount := hall _ _ _ _ hdrain
    rw [hhandled] at hcount
    cases hcount
  · refine ⟨world, _, hstart, .drain (by decide) Nat.zero_lt_one hcall hdrain (.stop ?_), rfl, ?_⟩
    · omega
    · simp [hhandled]

end TicketEngine
