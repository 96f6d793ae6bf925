import TicketEngine.System.Course

namespace TicketEngine

/-! ## What others leave alone -/

/-- The threads of worker `w` stay where they are, and its flag as it is. -/
structure LeftAlone (w : Nat) (world world' : World) : Prop where
  points : ∀ t, workerThreads w t = true → world'.point t = world.point t
  running : world'.shared.running w = world.shared.running w

/-- The steps that worker `w` takes itself. -/
def ownLabel (w : Nat) : TicketEngine.Label → Bool
  | .startOrderConsumer v | .processAvailableOrderMessages v => v = w
  | .stopOrderConsumer v | .crashWorker v => v = w
  | .act t _ => workerThreads w t
  | _ => false

section Others

variable {digests : ScriptDigests} {v w : Nat} {world world' : World} {c : Choice}

theorem leftAlone_update {t : Thread} (f : Frame) {s : Store} (ht : workerThreads w t = false)
    (hrunning : s.running w = world.shared.running w) :
    LeftAlone w world ⟨s, Function.update world.point t f⟩ := by
  refine ⟨fun u hu => Function.update_of_ne ?_ .., hrunning⟩
  rintro rfl
  rw [ht] at hu
  cases hu

theorem foreign_worker (hv : v ≠ w) : workerThreads w (.worker v) = false := decide_eq_false hv

theorem stopWorker_running {s : Store} {mode : Mode} (hv : v ≠ w) :
    (stopWorker s v mode).running w = s.running w := by
  cases mode with
  | startOrderConsumer => exact Function.update_of_ne hv.symm ..
  | processAvailableOrderMessages => rfl

theorem stepClaim_running {s : Store} {mode : Mode} (hv : v ≠ w) :
    (stepClaim s v mode c).1.running w = s.running w := by
  cases c with
  | fail message => exact stopWorker_running hv
  | ok id =>
    simp only [stepClaim]
    cases hclaim : claimPendingMessages s v with
    | none => exact stopWorker_running hv
    | some p =>
      obtain ⟨⟨stream, entries⟩, -, rfl⟩ := Option.map_eq_some_iff.mp hclaim
      rfl

theorem stepRead_running {s : Store} {mode : Mode} {claimed : List RedisStreamMessage}
    (hv : v ≠ w) : (stepRead s v mode claimed c).1.running w = s.running w := by
  cases c with
  | fail message => exact stopWorker_running hv
  | ok id =>
    simp only [stepRead]
    cases hread : readMessages s v with
    | none => exact stopWorker_running hv
    | some p =>
      obtain ⟨⟨stream, entries⟩, -, rfl⟩ := Option.map_eq_some_iff.mp hread
      cases mode with
      | startOrderConsumer =>
        simp only
        split
        · rfl
        · rfl
      | processAvailableOrderMessages => rfl

theorem spawn_others {point : Thread → Frame} {messages : List RedisStreamMessage} (hv : v ≠ w)
    {t : Thread} (ht : workerThreads w t = true) : spawn point v messages t = point t := by
  cases t with
  | call n => rfl
  | worker u => rfl
  | task u i =>
    obtain rfl : u = w := of_decide_eq_true ht
    simp only [spawn, if_neg hv.symm]

/-- A worker moves no thread of another, and leaves its flag alone. -/
theorem actWorker_others (h : actWorker world v c = some world') (hv : v ≠ w) :
    LeftAlone w world world' := by
  have updated (f : Frame) {s : Store} (hrunning : s.running w = world.shared.running w) :
      LeftAlone w world ⟨s, Function.update world.point (.worker v) f⟩ :=
    leftAlone_update f (foreign_worker hv) hrunning
  unfold actWorker at h
  cases hp : world.point (.worker v) with
  | createGroup mode =>
    rw [hp] at h
    cases h
    apply updated
    cases c with
    | fail message => rfl
    | ok id => rfl
  | poll =>
    rw [hp] at h
    cases h
    apply updated
    unfold stepPoll
    split
    · rfl
    · rfl
  | claim mode =>
    rw [hp] at h
    cases h
    exact updated _ (stepClaim_running hv)
  | read mode claimed =>
    rw [hp] at h
    cases h
    obtain ⟨hpoints, hrunning⟩ := updated (stepRead world.shared v mode claimed c).2.1
      (stepRead_running hv)
    exact ⟨fun t ht => (spawn_others hv ht).trans (hpoints t ht), hrunning⟩
  | batch mode count =>
    rw [hp] at h
    simp only at h
    split at h
    · cases h
      exact updated _ rfl
    · cases h
  | _ =>
    rw [hp] at h
    cases h

theorem act_others {t : Thread} (ht : workerThreads w t = false)
    (h : ((world.point t).act digests world.shared t c).map (fun p : Store × Frame =>
      (⟨p.1, Function.update world.point t p.2⟩ : World)) = some world') :
    LeftAlone w world world' := by
  obtain ⟨p, hp, rfl⟩ := Option.map_eq_some_iff.mp h
  exact leftAlone_update p.2 ht (congrFun (act_spared hp).running w)

theorem enter_others {n : Nat} {f : Frame} (h : enter world (.call n) f = some world') :
    LeftAlone w world world' := by
  obtain ⟨-, rfl⟩ := enter_some h
  exact leftAlone_update f rfl rfl

theorem startWorker_others {mode : Mode} {s : Store} (hv : v ≠ w)
    (hs : s.running w = world.shared.running w) (h : startWorker world v mode s = some world') :
    LeftAlone w world world' := by
  rw [startWorker_some h]
  exact leftAlone_update _ (foreign_worker hv) hs

theorem kill_others {dead : Thread → Bool} {s : Store}
    (hdead : ∀ t, workerThreads w t = true → dead t = false)
    (hs : s.running w = world.shared.running w) :
    LeftAlone w world (kill ⟨s, world.point⟩ dead) := by
  refine ⟨fun t ht => ?_, hs⟩
  simp [kill, hdead t ht]

/-- What others do leaves the threads of a worker and its flag alone. -/
theorem foreign_kept {l : TicketEngine.Label} (h : step digests world l = some world')
    (hl : ownLabel w l = false) : LeftAlone w world world' := by
  have flagged {v : Nat} (hv : v ≠ w) (value : Bool) :
      Function.update world.shared.running v value w = world.shared.running w :=
    Function.update_of_ne hv.symm ..
  cases l with
  | holdSeat n payload => exact enter_others h
  | createOrder n payload => exact enter_others h
  | releaseSeat n payload holdId => exact enter_others h
  | startOrderConsumer v =>
    have hv : v ≠ w := of_decide_eq_false hl
    simp only [step] at h
    split at h
    · cases h
      exact ⟨fun _ _ => rfl, rfl⟩
    · exact startWorker_others hv (flagged hv true) h
  | processAvailableOrderMessages v => exact startWorker_others (of_decide_eq_false hl) rfl h
  | stopOrderConsumer v =>
    cases h
    exact ⟨fun _ _ => rfl, flagged (of_decide_eq_false hl) false⟩
  | act t c =>
    cases t with
    | call n => exact act_others rfl h
    | task v i =>
      have ht : workerThreads w (.task v i) = false := hl
      exact act_others ht h
    | worker v => exact actWorker_others h (of_decide_eq_false hl)
  | crashCall n =>
    cases h
    apply kill_others
    · intro t ht
      cases t with
      | call m => cases ht
      | worker u => rfl
      | task u i => rfl
    · rfl
  | crashWorker v =>
    have hv : v ≠ w := of_decide_eq_false hl
    cases h
    apply kill_others
    · intro t ht
      cases t with
      | call m => cases ht
      | worker u =>
        obtain rfl : u = w := of_decide_eq_true ht
        exact decide_eq_false hv.symm
      | task u i =>
        obtain rfl : u = w := of_decide_eq_true ht
        exact decide_eq_false hv.symm
    · exact flagged hv false
  | advance ms | flushScripts =>
    cases h
    exact ⟨fun _ _ => rfl, rfl⟩

end Others

/-! ## The loop and its tasks -/

/-- The tasks of the batch that a worker waits for. -/
def batchTasks (world : World) (w : Nat) : List Thread :=
  match world.point (.worker w) with
  | .batch _ count => (List.range count).map (Thread.task w)
  | _ => []

/-- The frames of `startOrderConsumer`. -/
def Frame.inLoop : Frame → Bool
  | .idle | .poll | .stopped => true
  | .createGroup mode | .claim mode => mode = .startOrderConsumer
  | .read mode _ | .batch mode _ => mode = .startOrderConsumer
  | _ => false

/-- The loop runs `startOrderConsumer`, and the messages in progress are those of its batch. -/
structure Batched (w : Nat) (world : World) : Prop where
  loop : (world.point (.worker w)).inLoop = true
  tasks : ∀ i, (world.point (.task w i)).processing = true → .task w i ∈ batchTasks world w

section Loop

variable {digests : ScriptDigests} {w : Nat} {world world' : World} {c : Choice}

theorem own_worker (w : Nat) : workerThreads w (.worker w) = true := decide_eq_true rfl

theorem own_task (w i : Nat) : workerThreads w (.task w i) = true := decide_eq_true rfl

theorem mem_batchTasks {mode : Mode} {count : Nat} {t : Thread}
    (hp : world.point (.worker w) = .batch mode count) :
    t ∈ batchTasks world w ↔ ∃ i < count, t = .task w i := by
  unfold batchTasks
  rw [hp]
  simp only [List.mem_map, List.mem_range, eq_comm]

/-- While the loop waits for no batch, no message is in progress. -/
theorem Batched.tasks_idle (hb : Batched w world)
    (hp : ∀ mode count, world.point (.worker w) ≠ .batch mode count) (i : Nat) :
    (world.point (.task w i)).processing = false := by
  by_contra hne
  have hmem := hb.tasks i (Bool.of_not_eq_false hne)
  unfold batchTasks at hmem
  split at hmem
  next mode count hbatch => exact hp mode count hbatch
  next => cases hmem

theorem batched_of_idle {point : Thread → Frame} {s : Store}
    (hloop : (point (.worker w)).inLoop = true)
    (htasks : ∀ i, (point (.task w i)).processing = false) : Batched w ⟨s, point⟩ := by
  refine ⟨hloop, fun i hi => ?_⟩
  rw [htasks i] at hi
  cases hi

theorem LeftAlone.batched (hsame : LeftAlone w world world') (hb : Batched w world) :
    Batched w world' := by
  have hworker : world'.point (.worker w) = world.point (.worker w) :=
    hsame.points _ (own_worker w)
  have htasks : batchTasks world' w = batchTasks world w := by
    unfold batchTasks
    rw [hworker]
  refine ⟨hworker ▸ hb.loop, fun i hi => ?_⟩
  rw [hsame.points _ (own_task w i)] at hi
  rw [htasks]
  exact hb.tasks i hi

/-- While the loop waits for no batch, its next frame leaves no message in progress. -/
theorem Batched.moved (hb : Batched w world)
    (hp : ∀ mode count, world.point (.worker w) ≠ .batch mode count) {s : Store} {f : Frame}
    (hf : f.inLoop = true) : Batched w ⟨s, Function.update world.point (.worker w) f⟩ := by
  refine batched_of_idle ?_ fun i => hb.tasks_idle hp i
  rw [Function.update_self]
  exact hf

theorem ended_processing {f : Frame} (hf : f.ended = true) : f.processing = false := by
  cases f with
  | processed id => rfl
  | failed id e => rfl
  | _ => cases hf

theorem spawn_nil (point : Thread → Frame) (w : Nat) : spawn point w [] = point := by
  funext t
  cases t with
  | call n => rfl
  | worker v => rfl
  | task v i =>
    simp only [spawn, List.getElem?_nil]
    split
    · rfl
    · rfl

theorem stepRead_loop (s : Store) (w : Nat) (claimed : List RedisStreamMessage) (c : Choice) :
    ∃ s', stepRead s w .startOrderConsumer claimed c = (s', .stopped, []) ∨
      stepRead s w .startOrderConsumer claimed c = (s', .poll, []) ∨
      ∃ messages, stepRead s w .startOrderConsumer claimed c =
        (s', .batch .startOrderConsumer messages.length, messages) := by
  cases c with
  | fail message => exact ⟨_, .inl rfl⟩
  | ok id =>
    simp only [stepRead]
    cases readMessages s w with
    | none => exact ⟨_, .inl rfl⟩
    | some p =>
      obtain ⟨s', messages⟩ := p
      simp only
      split
      · exact ⟨s', .inr (.inl rfl)⟩
      · exact ⟨s', .inr (.inr ⟨_, rfl⟩)⟩

/-- The loop reads a batch, and its messages are those that start. -/
theorem batched_read (hb : Batched w world) {claimed : List RedisStreamMessage}
    (hp : world.point (.worker w) = .read .startOrderConsumer claimed)
    (h : actWorker world w c = some world') : Batched w world' := by
  unfold actWorker at h
  rw [hp] at h
  obtain ⟨s', hread | hread | ⟨messages, hread⟩⟩ := stepRead_loop world.shared w claimed c
  · simp only [hread] at h
    cases h
    rw [spawn_nil]
    exact hb.moved (by simp [hp]) rfl
  · simp only [hread] at h
    cases h
    rw [spawn_nil]
    exact hb.moved (by simp [hp]) rfl
  · simp only [hread] at h
    cases h
    have hbatch : spawn (Function.update world.point (.worker w)
        (.batch .startOrderConsumer messages.length)) w messages (.worker w) =
          .batch .startOrderConsumer messages.length := Function.update_self ..
    refine ⟨by simp only [hbatch]; rfl, fun i hi => (mem_batchTasks hbatch).mpr ⟨i, ?_, rfl⟩⟩
    by_contra hle
    have hnone : messages[i]? = none := List.getElem?_eq_none (Nat.le_of_not_lt hle)
    simp only [spawn, if_true, hnone] at hi
    have hidle : (world.point (.task w i)).processing = false :=
      hb.tasks_idle (by simp [hp]) i
    have hkept : (world.point (.task w i)).processing = true := hi
    rw [hidle] at hkept
    cases hkept

/-- The loop goes on when every message of its batch has ended. -/
theorem batched_settled (hb : Batched w world) {count : Nat}
    (hp : world.point (.worker w) = .batch .startOrderConsumer count)
    (h : actWorker world w c = some world') : Batched w world' := by
  unfold actWorker at h
  rw [hp] at h
  simp only at h
  split at h
  next hall =>
    cases h
    refine batched_of_idle (by rw [Function.update_self]; rfl) fun i => ?_
    change (world.point (.task w i)).processing = false
    by_contra hne
    have hi := Bool.of_not_eq_false hne
    obtain ⟨j, hj, heq⟩ := (mem_batchTasks hp).mp (hb.tasks i hi)
    cases heq
    rw [ended_processing (hall i hj)] at hi
    cases hi
  next => cases h

/-- One command of the loop keeps the messages in progress within its batch. -/
theorem batched_loop (hb : Batched w world) (h : actWorker world w c = some world') :
    Batched w world' := by
  have hloop := hb.loop
  cases hp : world.point (.worker w) with
  | createGroup mode =>
    rw [hp] at hloop
    obtain rfl : mode = .startOrderConsumer := of_decide_eq_true hloop
    unfold actWorker at h
    rw [hp] at h
    cases h
    refine hb.moved (by simp [hp]) ?_
    cases c with
    | fail message => rfl
    | ok id => rfl
  | poll =>
    unfold actWorker at h
    rw [hp] at h
    cases h
    refine hb.moved (by simp [hp]) ?_
    unfold stepPoll
    split
    · rfl
    · rfl
  | claim mode =>
    rw [hp] at hloop
    obtain rfl : mode = .startOrderConsumer := of_decide_eq_true hloop
    unfold actWorker at h
    rw [hp] at h
    cases h
    refine hb.moved (by simp [hp]) ?_
    cases c with
    | fail message => rfl
    | ok id =>
      simp only [stepClaim]
      cases claimPendingMessages world.shared w with
      | none => rfl
      | some p => rfl
  | read mode claimed =>
    rw [hp] at hloop
    obtain rfl : mode = .startOrderConsumer := of_decide_eq_true hloop
    exact batched_read hb hp h
  | batch mode count =>
    rw [hp] at hloop
    obtain rfl : mode = .startOrderConsumer := of_decide_eq_true hloop
    exact batched_settled hb hp h
  | _ =>
    unfold actWorker at h
    rw [hp] at h
    cases h

/-- The threads of a worker are its loop and its tasks. -/
theorem own_cases (ht : workerThreads w t = true) : t = .worker w ∨ ∃ i, t = .task w i := by
  cases t with
  | call n => cases ht
  | worker v =>
    obtain rfl : v = w := of_decide_eq_true ht
    exact .inl rfl
  | task v i =>
    obtain rfl : v = w := of_decide_eq_true ht
    exact .inr ⟨i, rfl⟩

theorem batched_act (hb : Batched w world) (ht : workerThreads w t = true)
    (h : step digests world (.act t c) = some world') : Batched w world' := by
  obtain rfl | ⟨i, rfl⟩ := own_cases ht
  · exact batched_loop hb h
  · obtain ⟨p, hp, rfl⟩ := Option.map_eq_some_iff.mp h
    refine ⟨hb.loop, fun j hj => hb.tasks j ?_⟩
    by_cases hji : j = i
    · subst hji
      simp only [Function.update_self] at hj
      exact (act_course hp).processing hj
    · have hne : Thread.task w j ≠ .task w i := by simp [hji]
      simp only [Function.update_of_ne hne] at hj
      exact hj

end Loop

end TicketEngine
