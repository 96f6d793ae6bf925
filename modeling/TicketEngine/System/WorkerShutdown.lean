import TicketEngine.System.WorkerThreads

namespace TicketEngine

/-! ## The end of one worker process -/

inductive Resource
  | redis
  | database
  deriving DecidableEq

/-- The connection that has to answer before a frame of the worker goes on. Events are published
through a connection of the adapter. -/
def Frame.awaits : Frame → Option Resource
  | .createGroup _ | .claim _ | .read _ _ | .acknowledge _ _ => some .redis
  | .findBooking _ _ | .sellRow _ _ | .bookRow _ _ | .commitBooking _ _ => some .database
  | _ => none

/-- How far the process is with its end: `gracefulShutdown` and the `catch` of `startWorker` both
disconnect Redis, disconnect the database and exit. `pending` are the threads whose commands were
sent before QUIT and are not answered yet. -/
inductive ShutdownPhase
  | serving
  | disconnectRedis (pending : List Thread)
  | disconnectDatabase
  | exited

/-- Redis is disconnected. -/
def ShutdownPhase.closed : ShutdownPhase → Bool
  | .disconnectDatabase | .exited => true
  | _ => false

/-- A worker process in the engine. `cut` are its threads that were in progress when the shutdown
took away the connection they needed, or the process. -/
structure WorkerEntrypoint where
  world : World
  phase : ShutdownPhase
  cut : List Thread

/-- SIGTERM or SIGINT arrives, `ready` telling the status of the Redis client; Redis answers QUIT;
`disconnectDatabase` ends; or a step of the engine. -/
inductive WorkerEntrypoint.Label
  | signal (ready : Bool)
  | quitReply
  | databaseReply
  | engine (l : TicketEngine.Label)

def Frame.polling : Frame → Bool
  | .claim _ | .read _ _ => true
  | _ => false

/-- The thread is a loop in its poll, or a task whose message has started and not ended. -/
def World.inProgress (world : World) : Thread → Bool
  | .call _ => false
  | .worker w => (world.point (.worker w)).polling
  | .task w i => (world.point (.task w i)).processing

/-- The loop of `startOrderConsumer` has been rejected. -/
def Frame.rejects : Frame → Frame → Bool
  | .createGroup _, .stopped | .claim _, .stopped | .read _ _, .stopped => true
  | _, _ => false

/-- ioredis refuses a command over a connection that has ended. -/
def Choice.refusal : Choice → Bool
  | .ok _ => false
  | .fail message => message = "Connection is closed."

namespace WorkerEntrypoint

variable (digests : ScriptDigests) (w : Nat)

/-- `stopOrderConsumer` only records the request, so no reply comes in before `disconnectRedis`
sends QUIT, or closes a client that is not ready. -/
def gracefulShutdown (s : WorkerEntrypoint) (ready : Bool) : Option WorkerEntrypoint :=
  match s.phase with
  | .serving =>
    (TicketEngine.step digests s.world (.stopOrderConsumer w)).map fun world =>
      let sent := (.worker w :: batchTasks world w).filter fun t =>
        (world.point t).awaits = some .redis
      { s with world, phase := if ready then .disconnectRedis sent else .disconnectDatabase }
  | _ => some s

/-- One command of the loop or of a task. A command that is sent after QUIT stays unanswered until
the connection has ended, and is refused then; the transactions fail with the database. -/
def act (s : WorkerEntrypoint) (t : Thread) (c : Choice) : Option WorkerEntrypoint :=
  let next (phase : World → ShutdownPhase) (refused : Bool) : Option WorkerEntrypoint :=
    (TicketEngine.step digests s.world (.act t c)).map fun world =>
      { world, phase := phase world,
        cut := if refused && s.world.inProgress t then t :: s.cut else s.cut }
  match s.phase, (s.world.point t).awaits with
  | .serving, _ =>
    next (fun world =>
      if (s.world.point t).rejects (world.point t) then .disconnectRedis [] else .serving) false
  | .disconnectRedis pending, some .redis =>
    if t ∈ pending then next (fun _ => .disconnectRedis (pending.erase t)) false else none
  | .disconnectRedis pending, _ => next (fun _ => .disconnectRedis pending) false
  | .disconnectDatabase, some .redis =>
    if c.refusal then next (fun _ => .disconnectDatabase) true else none
  | .disconnectDatabase, some .database => next (fun _ => .disconnectDatabase) c.failed
  | .disconnectDatabase, none => next (fun _ => .disconnectDatabase) false
  | .exited, _ => none

/-- A step of the engine. The process starts its loop once, and dies of nothing but its exit. -/
def engineStep (s : WorkerEntrypoint) (l : TicketEngine.Label) : Option WorkerEntrypoint :=
  if ownLabel w l then
    match l, s.phase with
    | .startOrderConsumer _, .serving =>
      (TicketEngine.step digests s.world l).map fun world => { s with world }
    | .act t c, _ => s.act digests t c
    | _, _ => none
  else (TicketEngine.step digests s.world l).map fun world => { s with world }

def step (s : WorkerEntrypoint) : Label → Option WorkerEntrypoint
  | .signal ready =>
    -- The handlers are registered right before the loop is started.
    match s.world.point (.worker w) with
    | .idle => none
    | _ => s.gracefulShutdown digests w ready
  | .quitReply =>
    match s.phase with
    | .disconnectRedis [] => some { s with phase := .disconnectDatabase }
    | _ => none
  | .databaseReply =>
    match s.phase with
    | .disconnectDatabase =>
      (TicketEngine.step digests s.world (.crashWorker w)).map fun world =>
        { world, phase := .exited,
          cut := (batchTasks s.world w).filter s.world.inProgress ++ s.cut }
    | _ => none
  | .engine l => s.engineStep digests w l

end WorkerEntrypoint

/-- Worker process `w` in the engine, under a registry of script digests. -/
def workerEntrypoint (digests : ScriptDigests) (w : Nat) :
    Machine WorkerEntrypoint WorkerEntrypoint.Label where
  step := WorkerEntrypoint.step digests w

namespace WorkerEntrypoint

/-- Before the loop is started. -/
structure Launched (w : Nat) (s : WorkerEntrypoint) : Prop where
  phase : s.phase = .serving
  cut : s.cut = []
  idle : ∀ t, workerThreads w t = true → s.world.point t = .idle

/-- The poll and the batch in progress have finished: no poll waits for a reply, every message
that had started has been processed or has failed, and the shutdown has cut off none of them. -/
structure Finished (w : Nat) (s : WorkerEntrypoint) : Prop where
  ended : ∀ t, workerThreads w t = true → s.world.inProgress t = false
  uncut : s.cut = []

/-- Redis and the database are disconnected, and the process exits, only when all that was in
progress has finished. -/
def Graceful (w : Nat) (s : WorkerEntrypoint) : Prop := s.phase.closed = true → s.Finished w

/-- A reply to the poll fails, or ends it without a message. -/
def pollsNothing (s : Store) (w : Nat) (c : Choice) : Frame → Bool
  | .claim _ => c.failed || (claimPendingMessages s w).isNone
  | .read _ claimed =>
    c.failed || match readMessages s w with
      | none => true
      | some (_, messages) => (claimed ++ messages).isEmpty
  | _ => true

/-- When the signal arrives, all that is in progress waits for a reply of Redis over a connection
that is ready; after it, no reply to the poll brings a message or another command. -/
def orderly (w : Nat) (s : WorkerEntrypoint) : Label → Bool
  | .signal ready =>
    match s.phase with
    | .serving => (Thread.worker w :: batchTasks s.world w).all fun t =>
        !s.world.inProgress t || (ready && (s.world.point t).awaits = some .redis)
    | _ => true
  | .engine (.act (.worker v) c) =>
    match s.phase with
    | .disconnectRedis _ => v ≠ w || pollsNothing s.world.shared w c (s.world.point (.worker w))
    | _ => true
  | _ => true

def Orderly (w : Nat) (s : WorkerEntrypoint) (l : Label) (_ : WorkerEntrypoint) : Prop :=
  s.orderly w l = true

instance (w : Nat) (s : WorkerEntrypoint) (l : Label) (s' : WorkerEntrypoint) :
    Decidable (s.Orderly w l s') := inferInstanceAs (Decidable (_ = true))

end WorkerEntrypoint

section Loop

variable {w : Nat} {world world' : World} {c : Choice}

/-- A command of the loop leads out of the poll and gives the tasks nothing to do. -/
structure Winds (w : Nat) (world world' : World) : Prop where
  polling : (world'.point (.worker w)).polling = false
  tasks : ∀ i, world'.point (.task w i) = world.point (.task w i)
  running : world'.shared.running w = false

theorem winds_moved {s : Store} {f : Frame} (hf : f.polling = false)
    (hrunning : s.running w = false) :
    Winds w world ⟨s, Function.update world.point (.worker w) f⟩ := by
  refine ⟨?_, fun _ => rfl, hrunning⟩
  simp only [Function.update_self]
  exact hf

/-- A read that brings no message ends the poll. -/
theorem read_winds {claimed : List RedisStreamMessage}
    (hp : world.point (.worker w) = .read .startOrderConsumer claimed)
    (hrunning : world.shared.running w = false)
    (hnothing : WorkerEntrypoint.pollsNothing world.shared w c
      (.read .startOrderConsumer claimed) = true)
    (h : actWorker world w c = some world') : Winds w world world' := by
  unfold actWorker at h
  rw [hp] at h
  cases c with
  | fail message =>
    cases h
    rw [spawn_nil]
    exact winds_moved rfl (Function.update_self ..)
  | ok id =>
    simp only [stepRead, WorkerEntrypoint.pollsNothing, Choice.failed, Bool.false_or]
      at h hnothing
    cases hread : readMessages world.shared w with
    | none =>
      rw [hread] at h
      cases h
      rw [spawn_nil]
      exact winds_moved rfl (Function.update_self ..)
    | some p =>
      obtain ⟨s', messages⟩ := p
      rw [hread] at h hnothing
      simp only at h hnothing
      rw [if_pos hnothing] at h
      cases h
      obtain ⟨⟨stream, entries⟩, -, heq⟩ := Option.map_eq_some_iff.mp hread
      cases heq
      rw [spawn_nil]
      exact winds_moved rfl hrunning

/-- Once the flag is cleared, a command of the loop that brings no message leads out of it. -/
theorem loop_winds (hloop : (world.point (.worker w)).inLoop = true)
    (hrunning : world.shared.running w = false)
    (hnothing : WorkerEntrypoint.pollsNothing world.shared w c (world.point (.worker w)) = true)
    (h : actWorker world w c = some world') : Winds w world world' := by
  cases hp : world.point (.worker w) with
  | createGroup mode =>
    rw [hp] at hloop
    obtain rfl : mode = .startOrderConsumer := of_decide_eq_true hloop
    unfold actWorker at h
    rw [hp] at h
    cases h
    cases c with
    | fail message => exact winds_moved rfl hrunning
    | ok id => exact winds_moved rfl hrunning
  | poll =>
    unfold actWorker at h
    rw [hp] at h
    cases h
    simp only [stepPoll, hrunning]
    exact winds_moved rfl hrunning
  | claim mode =>
    rw [hp] at hloop hnothing
    obtain rfl : mode = .startOrderConsumer := of_decide_eq_true hloop
    unfold actWorker at h
    rw [hp] at h
    cases h
    cases c with
    | fail message => exact winds_moved rfl (Function.update_self ..)
    | ok id =>
      simp only [WorkerEntrypoint.pollsNothing, Choice.failed, Bool.false_or,
        Option.isNone_iff_eq_none] at hnothing
      simp only [stepClaim, hnothing]
      exact winds_moved rfl (Function.update_self ..)
  | read mode claimed =>
    rw [hp] at hloop hnothing
    obtain rfl : mode = .startOrderConsumer := of_decide_eq_true hloop
    exact read_winds hp hrunning hnothing h
  | batch mode count =>
    rw [hp] at hloop
    obtain rfl : mode = .startOrderConsumer := of_decide_eq_true hloop
    unfold actWorker at h
    rw [hp] at h
    simp only at h
    split at h
    · cases h
      exact winds_moved rfl hrunning
    · cases h
  | _ =>
    unfold actWorker at h
    rw [hp] at h
    cases h

end Loop

/-! ## The invariant of orderly runs -/

/-- The threads whose earlier commands Redis still has to answer, once the shutdown has begun. -/
def ShutdownPhase.pending : ShutdownPhase → Option (List Thread)
  | .serving => none
  | .disconnectRedis pending => some pending
  | .disconnectDatabase | .exited => some []

/-- The loop is about to end, and all that is in progress waits for a reply that will come. -/
structure Winding (w : Nat) (pending : List Thread) (world : World) : Prop where
  stopping : world.shared.running w = false ∨ world.point (.worker w) = .stopped
  waiting : ∀ t, workerThreads w t = true → world.inProgress t = true →
    t ∈ pending ∧ (world.point t).awaits = some .redis

section Threads

variable {digests : ScriptDigests} {w : Nat} {world world' : World} {c : Choice} {t : Thread}
  {pending : List Thread}

/-- The reply to XACK ends the processing of a message. -/
theorem act_acknowledged {s : Store} {f : Frame} {r : Store × Frame}
    (h : f.act digests s t c = some r) (hf : f.processing = true)
    (hawaits : f.awaits = some .redis) : r.2.processing = false := by
  cases f with
  | acknowledge message payload =>
    cases h
    cases c with
    | fail e => rfl
    | ok id => rfl
  | createGroup _ | claim _ | read _ _ => cases hf
  | _ => cases hawaits

theorem winding_loop (hw : Winding w pending world) (hb : Batched w world)
    (hnothing : WorkerEntrypoint.pollsNothing world.shared w c (world.point (.worker w)) = true)
    (h : actWorker world w c = some world') : Winding w (pending.erase (.worker w)) world' := by
  have hrunning : world.shared.running w = false := by
    rcases hw.stopping with hrunning | hstopped
    · exact hrunning
    · unfold actWorker at h
      rw [hstopped] at h
      cases h
  obtain ⟨hpolling, htasks, hstill⟩ := loop_winds hb.loop hrunning hnothing h
  refine ⟨.inl hstill, fun t ht hprogress => ?_⟩
  obtain rfl | ⟨i, rfl⟩ := own_cases ht
  · rw [World.inProgress, hpolling] at hprogress
    cases hprogress
  · rw [World.inProgress, htasks i] at hprogress
    obtain ⟨hmem, hawaits⟩ := hw.waiting (.task w i) (own_task w i) hprogress
    refine ⟨(List.mem_erase_of_ne (by simp)).mpr hmem, ?_⟩
    rw [htasks i]
    exact hawaits

theorem winding_task {i : Nat} (hw : Winding w pending world)
    (h : step digests world (.act (.task w i) c) = some world') :
    Winding w (pending.erase (.task w i)) world' := by
  obtain ⟨p, hp, hnext⟩ := Option.map_eq_some_iff.mp h
  have hshared : world'.shared = p.1 := by rw [← hnext]
  have hself : world'.point (.task w i) = p.2 := by
    rw [← hnext]
    exact Function.update_self ..
  have hother {t : Thread} (hne : t ≠ .task w i) : world'.point t = world.point t := by
    rw [← hnext]
    exact Function.update_of_ne hne ..
  refine ⟨?_, fun t ht hprogress => ?_⟩
  · have hne : Thread.worker w ≠ .task w i := by simp
    rw [hshared, (act_spared hp).running, hother hne]
    exact hw.stopping
  · by_cases hne : t = .task w i
    · subst hne
      rw [World.inProgress, hself] at hprogress
      have hbefore : (world.point (.task w i)).processing = true :=
        (act_course hp).processing hprogress
      obtain ⟨-, hawaits⟩ := hw.waiting _ ht hbefore
      rw [act_acknowledged hp hbefore hawaits] at hprogress
      cases hprogress
    · have hbefore : world.inProgress t = true := by
        cases t with
        | call n => cases hprogress
        | worker v =>
          rw [World.inProgress, hother hne] at hprogress
          exact hprogress
        | task v j =>
          rw [World.inProgress, hother hne] at hprogress
          exact hprogress
      obtain ⟨hmem, hawaits⟩ := hw.waiting t ht hbefore
      refine ⟨(List.mem_erase_of_ne hne).mpr hmem, ?_⟩
      rw [hother hne]
      exact hawaits

/-- A command of the loop that brings no message, or of a task, leaves only others waiting. -/
theorem winding_act (hw : Winding w pending world) (hb : Batched w world)
    (ht : workerThreads w t = true)
    (hnothing : t = .worker w →
      WorkerEntrypoint.pollsNothing world.shared w c (world.point (.worker w)) = true)
    (h : step digests world (.act t c) = some world') : Winding w (pending.erase t) world' := by
  obtain rfl | ⟨i, rfl⟩ := own_cases ht
  · exact winding_loop hw hb (hnothing rfl) h
  · exact winding_task hw h

theorem Winding.mono {more : List Thread} (hw : Winding w pending world) (hsub : pending ⊆ more) :
    Winding w more world :=
  ⟨hw.stopping, fun t ht hprogress =>
    ⟨hsub (hw.waiting t ht hprogress).1, (hw.waiting t ht hprogress).2⟩⟩

/-- With no reply outstanding nothing is in progress. -/
theorem Winding.ended (hw : Winding w [] world) (ht : workerThreads w t = true) :
    world.inProgress t = false := by
  by_contra hne
  exact absurd (hw.waiting t ht (Bool.of_not_eq_false hne)).1 List.not_mem_nil

theorem LeftAlone.winding (hsame : LeftAlone w world world') (hw : Winding w pending world) :
    Winding w pending world' := by
  refine ⟨?_, fun t ht hprogress => ?_⟩
  · rw [hsame.running, hsame.points _ (own_worker w)]
    exact hw.stopping
  · have hbefore : world.inProgress t = true := by
      obtain rfl | ⟨i, rfl⟩ := own_cases ht
      · rw [World.inProgress, hsame.points _ (own_worker w)] at hprogress
        exact hprogress
      · rw [World.inProgress, hsame.points _ (own_task w i)] at hprogress
        exact hprogress
    rw [hsame.points t ht]
    exact hw.waiting t ht hbefore

theorem rejects_stopped {f f' : Frame} (h : f.rejects f' = true) :
    f' = .stopped ∧ (f.polling = true ∨ ∃ mode, f = .createGroup mode) := by
  cases f' with
  | stopped =>
    cases f with
    | createGroup mode => exact ⟨rfl, .inr ⟨mode, rfl⟩⟩
    | claim _ | read _ _ => exact ⟨rfl, .inl rfl⟩
    | _ => cases h
  | _ => cases f <;> cases h

/-- A loop that has stopped leaves nothing in progress. -/
theorem winding_stopped (hb : Batched w world) (hp : world.point (.worker w) = .stopped) :
    Winding w [] world := by
  refine ⟨.inr hp, fun t ht hprogress => ?_⟩
  obtain rfl | ⟨i, rfl⟩ := own_cases ht
  · rw [World.inProgress, hp] at hprogress
    cases hprogress
  · rw [World.inProgress, hb.tasks_idle (by simp [hp]) i] at hprogress
    cases hprogress

end Threads

namespace WorkerEntrypoint

/-- What every orderly run keeps. -/
structure Steady (w : Nat) (s : WorkerEntrypoint) : Prop where
  batched : Batched w s.world
  uncut : s.cut = []
  winding : ∀ pending, s.phase.pending = some pending → Winding w pending s.world

section Step

variable {digests : ScriptDigests} {w : Nat} {s s' : WorkerEntrypoint}

theorem Launched.steady (h : s.Launched w) : s.Steady w := by
  refine ⟨⟨?_, fun i hi => ?_⟩, h.cut, fun pending hpending => ?_⟩
  · rw [h.idle _ (own_worker w)]
    rfl
  · rw [h.idle _ (own_task w i)] at hi
    cases hi
  · rw [h.phase] at hpending
    cases hpending

theorem Steady.graceful (hs : s.Steady w) : s.Graceful w := by
  intro hclosed
  have hpending : s.phase.pending = some [] := by
    cases hphase : s.phase with
    | serving | disconnectRedis pending =>
      rw [hphase] at hclosed
      cases hclosed
    | disconnectDatabase | exited => rfl
  exact ⟨fun t ht => (hs.winding [] hpending).ended ht, hs.uncut⟩

/-- A step of the engine that changes neither the phase nor the cut threads. -/
theorem steady_foreign {l : TicketEngine.Label} {world : World} (hs : s.Steady w)
    (h : TicketEngine.step digests s.world l = some world) (hl : ownLabel w l = false) :
    Steady w { s with world } := by
  have hsame : LeftAlone w s.world world := foreign_kept h hl
  exact ⟨hsame.batched hs.batched, hs.uncut,
    fun pending hpending => hsame.winding (hs.winding pending hpending)⟩

theorem steady_started {world : World} (hs : s.Steady w) (hphase : s.phase = .serving)
    (h : TicketEngine.step digests s.world (.startOrderConsumer w) = some world) :
    Steady w { s with world } := by
  refine ⟨?_, hs.uncut, fun pending hpending => ?_⟩
  · simp only [TicketEngine.step] at h
    split at h
    · cases h
      exact hs.batched
    · have hidle : ∀ mode count, s.world.point (.worker w) ≠ .batch mode count := by
        intro mode count hbatch
        simp only [startWorker, hbatch] at h
        cases h
      rw [startWorker_some h]
      refine batched_of_idle ?_ fun i => hs.batched.tasks_idle hidle i
      rw [Function.update_self]
      rfl
  · rw [hphase] at hpending
    cases hpending

theorem signal_steady {ready : Bool} (hs : s.Steady w) (ho : s.Orderly w (.signal ready) s')
    (h : s.gracefulShutdown digests w ready = some s') : s'.Steady w := by
  unfold gracefulShutdown at h
  cases hphase : s.phase with
  | serving =>
    rw [hphase] at h
    cases h
    simp only [Orderly, orderly, hphase] at ho
    have hwaits : ∀ t, workerThreads w t = true → s.world.inProgress t = true →
        t ∈ Thread.worker w :: batchTasks s.world w ∧ ready = true ∧
          (s.world.point t).awaits = some .redis := by
      intro t ht hprogress
      have hmem : t ∈ Thread.worker w :: batchTasks s.world w := by
        obtain rfl | ⟨i, rfl⟩ := own_cases ht
        · exact List.mem_cons_self
        · exact List.mem_cons_of_mem _ (hs.batched.tasks i hprogress)
      have hwaiting := List.all_eq_true.mp ho t hmem
      rw [hprogress] at hwaiting
      exact ⟨hmem, by simpa using hwaiting⟩
    refine ⟨⟨hs.batched.loop, hs.batched.tasks⟩, hs.uncut, fun pending hpending =>
      ⟨.inl (Function.update_self ..), fun t ht hprogress => ?_⟩⟩
    obtain ⟨hmem, hready, hawaits⟩ := hwaits t ht hprogress
    refine ⟨?_, hawaits⟩
    subst hready
    cases hpending
    exact List.mem_filter.mpr ⟨hmem, decide_eq_true hawaits⟩
  | disconnectRedis pending | disconnectDatabase | exited =>
    rw [hphase] at h
    cases h
    exact hs

theorem databaseReply_steady {world : World} (hs : s.Steady w)
    (hphase : s.phase = .disconnectDatabase)
    (h : TicketEngine.step digests s.world (.crashWorker w) = some world) :
    Steady w ⟨world, .exited, (batchTasks s.world w).filter s.world.inProgress ++ s.cut⟩ := by
  have hw : Winding w [] s.world := hs.winding [] (by rw [hphase]; rfl)
  have hidle : ∀ t, workerThreads w t = true → world.point t = .idle := by
    intro t ht
    cases h
    exact if_pos ht
  refine ⟨⟨?_, fun i hi => ?_⟩, ?_, fun pending _ => ⟨.inl ?_, fun t ht hprogress => ?_⟩⟩
  · rw [hidle _ (own_worker w)]
    rfl
  · rw [hidle _ (own_task w i)] at hi
    cases hi
  · rw [hs.uncut, List.append_nil, List.filter_eq_nil_iff]
    intro t ht
    have hown : workerThreads w t = true := by
      unfold batchTasks at ht
      split at ht
      · obtain ⟨i, -, rfl⟩ := List.mem_map.mp ht
        exact own_task w i
      · cases ht
    simp [hw.ended hown]
  · cases h
    exact Function.update_self ..
  · obtain rfl | ⟨i, rfl⟩ := own_cases ht
    · rw [World.inProgress, hidle _ ht] at hprogress
      cases hprogress
    · rw [World.inProgress, hidle _ ht] at hprogress
      cases hprogress

/-- What a command of the loop or of a task does to the phase and to the cut threads. -/
theorem act_cases {t : Thread} {c : Choice} (h : s.act digests t c = some s') :
    ∃ world, TicketEngine.step digests s.world (.act t c) = some world ∧
      ((s.phase = .serving ∧ s' = { s with
          world
          phase := if (s.world.point t).rejects (world.point t) then .disconnectRedis []
            else .serving }) ∨
        (∃ pending rest, s.phase = .disconnectRedis pending ∧
          (rest = pending.erase t ∧ t ∈ pending ∧ (s.world.point t).awaits = some .redis ∨
            rest = pending ∧ (s.world.point t).awaits ≠ some .redis) ∧
          s' = { s with world, phase := .disconnectRedis rest }) ∨
        (s.phase = .disconnectDatabase ∧ ∃ refused, s' = {
          world, phase := .disconnectDatabase
          cut := if refused && s.world.inProgress t then t :: s.cut else s.cut })) := by
  unfold act at h
  cases hphase : s.phase with
  | serving =>
    simp only [hphase, Bool.false_and] at h
    obtain ⟨world, hstep, rfl⟩ := Option.map_eq_some_iff.mp h
    exact ⟨world, hstep, .inl ⟨rfl, rfl⟩⟩
  | disconnectRedis pending =>
    cases hawaits : (s.world.point t).awaits with
    | none =>
      simp only [hphase, hawaits, Bool.false_and] at h
      obtain ⟨world, hstep, rfl⟩ := Option.map_eq_some_iff.mp h
      exact ⟨world, hstep, .inr (.inl ⟨pending, pending, rfl, .inr ⟨rfl, by simp⟩, rfl⟩)⟩
    | some resource =>
      cases resource with
      | database =>
        simp only [hphase, hawaits, Bool.false_and] at h
        obtain ⟨world, hstep, rfl⟩ := Option.map_eq_some_iff.mp h
        exact ⟨world, hstep, .inr (.inl ⟨pending, pending, rfl, .inr ⟨rfl, by simp⟩, rfl⟩)⟩
      | redis =>
        simp only [hphase, hawaits, Bool.false_and] at h
        split at h
        next hmem =>
          obtain ⟨world, hstep, rfl⟩ := Option.map_eq_some_iff.mp h
          exact ⟨world, hstep, .inr (.inl ⟨pending, _, rfl, .inl ⟨rfl, hmem, rfl⟩, rfl⟩)⟩
        next => cases h
  | disconnectDatabase =>
    cases hawaits : (s.world.point t).awaits with
    | none =>
      simp only [hphase, hawaits] at h
      obtain ⟨world, hstep, rfl⟩ := Option.map_eq_some_iff.mp h
      exact ⟨world, hstep, .inr (.inr ⟨rfl, false, rfl⟩)⟩
    | some resource =>
      cases resource with
      | database =>
        simp only [hphase, hawaits] at h
        obtain ⟨world, hstep, rfl⟩ := Option.map_eq_some_iff.mp h
        exact ⟨world, hstep, .inr (.inr ⟨rfl, c.failed, rfl⟩)⟩
      | redis =>
        simp only [hphase, hawaits] at h
        split at h
        next =>
          obtain ⟨world, hstep, rfl⟩ := Option.map_eq_some_iff.mp h
          exact ⟨world, hstep, .inr (.inr ⟨rfl, true, rfl⟩)⟩
        next => cases h
  | exited =>
    simp only [hphase] at h
    cases h

/-- Only the loop rejects. -/
theorem rejecting_loop {t : Thread} {c : Choice} {world : World}
    (ht : workerThreads w t = true)
    (hstep : TicketEngine.step digests s.world (.act t c) = some world)
    (hrejects : (s.world.point t).rejects (world.point t) = true) :
    world.point (.worker w) = .stopped := by
  obtain ⟨hstopped, hbefore⟩ := rejects_stopped hrejects
  obtain rfl | ⟨i, rfl⟩ := own_cases ht
  · exact hstopped
  · obtain ⟨p, hp, -⟩ := Option.map_eq_some_iff.mp hstep
    cases hbefore with
    | inl hpolling =>
      cases hf : s.world.point (.task w i) with
      | claim _ | read _ _ =>
        rw [hf] at hp
        cases hp
      | _ =>
        rw [hf] at hpolling
        cases hpolling
    | inr hgroup =>
      obtain ⟨mode, hgroup⟩ := hgroup
      rw [hgroup] at hp
      cases hp

/-- One command of the loop or of a task. -/
theorem act_steady {t : Thread} {c : Choice} (hs : s.Steady w) (ht : workerThreads w t = true)
    (ho : s.Orderly w (.engine (.act t c)) s') (h : s.act digests t c = some s') :
    s'.Steady w := by
  obtain ⟨world, hstep, hserving | hredis | hdatabase⟩ := act_cases h
  · obtain ⟨-, rfl⟩ := hserving
    have hbatched : Batched w world := batched_act hs.batched ht hstep
    refine ⟨hbatched, hs.uncut, fun pending hpending => ?_⟩
    dsimp only at hpending
    split at hpending
    next hrejects =>
      cases hpending
      exact winding_stopped hbatched (rejecting_loop ht hstep hrejects)
    next => cases hpending
  · obtain ⟨pending, rest, hphase, hrest, rfl⟩ := hredis
    have hw : Winding w pending s.world := hs.winding pending (by rw [hphase]; rfl)
    have hnothing : t = .worker w →
        pollsNothing s.world.shared w c (s.world.point (.worker w)) = true := by
      rintro rfl
      simpa [Orderly, orderly, hphase] using ho
    have hwound : Winding w (pending.erase t) world :=
      winding_act hw hs.batched ht hnothing hstep
    refine ⟨batched_act hs.batched ht hstep, hs.uncut, fun pending' hpending => ?_⟩
    cases hpending
    cases hrest with
    | inl hanswered =>
      rw [hanswered.1]
      exact hwound
    | inr hwaiting =>
      rw [hwaiting.1]
      exact hwound.mono List.erase_subset
  · -- Nothing is in progress here, so no poll is answered and no thread is cut off.
    obtain ⟨hphase, refused, rfl⟩ := hdatabase
    have hw : Winding w [] s.world := hs.winding [] (by rw [hphase]; rfl)
    have hended : s.world.inProgress t = false := hw.ended ht
    have hnothing : t = .worker w →
        pollsNothing s.world.shared w c (s.world.point (.worker w)) = true := by
      rintro rfl
      rw [World.inProgress] at hended
      cases hf : s.world.point (.worker w) with
      | claim _ | read _ _ =>
        rw [hf] at hended
        cases hended
      | _ => rfl
    refine ⟨batched_act hs.batched ht hstep, ?_, fun pending hpending => ?_⟩
    · rw [hended, Bool.and_false]
      exact hs.uncut
    · cases hpending
      exact winding_act hw hs.batched ht hnothing hstep

/-- The step lemma. -/
theorem steady_step {l : Label} (hs : s.Steady w)
    (h : (workerEntrypoint digests w).step s l = some s') (ho : s.Orderly w l s') :
    s'.Steady w := by
  simp only [workerEntrypoint, step] at h
  cases l with
  | signal ready =>
    simp only at h
    split at h
    · cases h
    · exact signal_steady hs ho h
  | quitReply =>
    simp only at h
    split at h
    next hphase =>
      cases h
      refine ⟨hs.batched, hs.uncut, fun pending hpending => ?_⟩
      cases hpending
      exact hs.winding [] (by rw [hphase]; rfl)
    next => cases h
  | databaseReply =>
    simp only at h
    split at h
    next hphase =>
      obtain ⟨world, hworld, rfl⟩ := Option.map_eq_some_iff.mp h
      exact databaseReply_steady hs hphase hworld
    next => cases h
  | engine l =>
    simp only [engineStep] at h
    split at h
    next hown =>
      split at h
      next v hphase =>
        obtain rfl : v = w := of_decide_eq_true hown
        obtain ⟨world, hworld, rfl⟩ := Option.map_eq_some_iff.mp h
        exact steady_started hs hphase hworld
      next t c => exact act_steady hs hown ho h
      next => cases h
    next hforeign =>
      obtain ⟨world, hworld, rfl⟩ := Option.map_eq_some_iff.mp h
      exact steady_foreign hs hworld (Bool.of_not_eq_true hforeign)

end Step

/-- In every state of an orderly run, what was in progress has finished when Redis is
disconnected. -/
theorem shutdown_graceful {digests : ScriptDigests} {w : Nat} {start : WorkerEntrypoint}
    {ls : List Label} (hstart : start.Launched w)
    (horderly : (workerEntrypoint digests w).Along (Orderly w) start ls) :
    (workerEntrypoint digests w).Every (Graceful w) start ls :=
  Machine.Every.mono _ (fun _ hs => hs.graceful)
    ((workerEntrypoint digests w).every_of_along (fun _ _ _ hs hst ho => steady_step hs hst ho)
      hstart.steady horderly)

/-- The worker is about to start in the engine with one free seat. -/
def launchedWorker : WorkerEntrypoint := ⟨oneSeat, .serving, []⟩

theorem launchedWorker_launched : launchedWorker.Launched 0 := ⟨rfl, rfl, fun _ _ => rfl⟩

/-- The signal arrives while the loop waits for messages, and none comes. -/
def idleShutdown : List Label :=
  (.startOrderConsumer 0 :: acts (.worker 0) ["", "", ""]).map .engine ++ [.signal true] ++
    (acts (.worker 0) ["", ""]).map .engine ++ [.quitReply, .databaseReply]

theorem idleShutdown_closes :
    ∃ s, (workerEntrypoint (fun _ => true) 0).run launchedWorker idleShutdown = some s ∧
      s.phase.closed = true := by
  have hrun : ((workerEntrypoint (fun _ => true) 0).run launchedWorker idleShutdown).map
      (fun s => s.phase.closed) = some true := by decide +kernel
  exact Option.map_eq_some_iff.mp hrun

theorem shutdown_graceful_idleShutdown :
    (workerEntrypoint (fun _ => true) 0).Every (Graceful 0) launchedWorker idleShutdown ∧
      ∃ s, (workerEntrypoint (fun _ => true) 0).run launchedWorker idleShutdown = some s ∧
        s.phase.closed = true :=
  ⟨shutdown_graceful launchedWorker_launched (by decide +kernel), idleShutdown_closes⟩

/-- The signal arrives when the order of a message has just been looked up. -/
def hastyShutdown : List Label :=
  ((purchase "u" "h" "o").take 14 ++ acts (.task 0 0) ["", ""]).map .engine ++
    [.signal true, .quitReply, .databaseReply]

/-- The process exits while the message is still to be settled: the order stays PROCESSING. -/
theorem hastyShutdown_cuts :
    ¬ (workerEntrypoint (fun _ => true) 0).Every (Graceful 0) launchedWorker hastyShutdown ∧
      ∃ s, (workerEntrypoint (fun _ => true) 0).run launchedWorker hastyShutdown = some s ∧
        s.cut = [.task 0 0] ∧
        (s.world.shared.orders.row "h").map Order.status = some .PROCESSING := by
  have hrun : ((workerEntrypoint (fun _ => true) 0).run launchedWorker hastyShutdown).map
      (fun s => (s.phase.closed, s.cut, (s.world.shared.orders.row "h").map Order.status)) =
        some (true, [.task 0 0], some .PROCESSING) := by decide +kernel
  obtain ⟨s, hs, hview⟩ := Option.map_eq_some_iff.mp hrun
  obtain ⟨hclosed, hrest⟩ := Prod.mk.inj hview
  obtain ⟨hcut, hstatus⟩ := Prod.mk.inj hrest
  refine ⟨fun hevery => ?_, s, hs, hcut, hstatus⟩
  have huncut := ((Machine.Every.last _ hevery hs) hclosed).uncut
  rw [hcut] at huncut
  cases huncut

end WorkerEntrypoint

end TicketEngine
