import TicketEngine.System.Steps

namespace TicketEngine

/-- The proof outline of the engine. -/
def outline : Outline Store Thread Frame where
  inv := Sound
  holds t f s := f.Holds t s

theorem initial_valid {world : World} (h : Initial world) : outline.Valid world := by
  refine ⟨⟨?_, ?_, ?_, ?_, ?_, ?_, ?_, ?_⟩, fun t => ?_⟩
  · intro holdId o ho; rw [h.orders] at ho; cases ho
  · intro holdId o ho; rw [h.orders] at ho; cases ho
  · intro holdId o ho; rw [h.orders] at ho; cases ho
  · intro holdId o ho; rw [h.orders] at ho; cases ho
  · intro h₁ h₂ o₁ o₂ ho; rw [h.orders] at ho; cases ho
  · rw [h.stream]; exact Stream.ordered_empty
  · rw [h.stream]; exact fun e he => absurd he List.not_mem_nil
  · rw [h.stream]; exact fun e he => absurd he List.not_mem_nil
  · rw [h.idle t]; trivial

section Worker

variable {s : Store} {w : Nat} {t : Thread} {c : Choice}

theorem setStream_change {f : Frame} {mine : Thread → Prop} {stream : Stream (List String)}
    (hlog : Log f s (s.setStream stream)) : Change f mine s (s.setStream stream) :=
  ⟨rfl, fun _ _ _ => Iff.rfl, fun _ _ h => h, .same rfl rfl, hlog, .same rfl⟩

theorem stopWorker_change (f : Frame) (mine : Thread → Prop) (s : Store) (w : Nat) (mode : Mode) :
    Change f mine s (stopWorker s w mode) := by
  cases mode <;>
    exact ⟨rfl, fun _ _ _ => Iff.rfl, fun _ _ h => h, .same rfl rfl, .same rfl, .same rfl⟩

theorem createGroup_moves {mode : Mode} :
    Moves (.createGroup mode) s t (stepCreateGroup s mode c) := by
  cases c with
  | fail e => exact moves_stay _ trivial
  | ok id =>
    refine ⟨setStream_change (.create mode rfl rfl), ?_⟩
    cases mode <;> trivial

theorem poll_moves : Moves .poll s t (stepPoll s w) := by
  unfold stepPoll
  split_ifs <;> exact moves_stay _ trivial

theorem claim_moves {mode : Mode} : Moves (.claim mode) s t (stepClaim s w mode c) := by
  cases c with
  | fail e => exact ⟨stopWorker_change _ _ s w mode, trivial⟩
  | ok id =>
    unfold stepClaim
    cases h : claimPendingMessages s w with
    | none => exact ⟨stopWorker_change _ _ s w mode, trivial⟩
    | some p =>
      obtain ⟨⟨stream, entries⟩, hc, rfl⟩ := Option.map_eq_some_iff.mp h
      refine ⟨setStream_change (.claim _ _ _ _ entries hc), fun m hm => ?_⟩
      obtain ⟨he, hmem⟩ := Stream.autoclaim_entries hc
      obtain ⟨e, hem, rfl⟩ := List.mem_map.mp hm
      exact ⟨e, by change e ∈ stream.entries; rw [he]; exact hmem e hem, rfl⟩

theorem read_moves {mode : Mode} {claimed : List RedisStreamMessage}
    (hclaimed : ∀ m ∈ claimed, InStream s m) :
    Change (.read mode claimed) (· = t) s (stepRead s w mode claimed c).1 ∧
      (stepRead s w mode claimed c).2.1.Holds t (stepRead s w mode claimed c).1 ∧
      ∀ m ∈ (stepRead s w mode claimed c).2.2, InStream (stepRead s w mode claimed c).1 m := by
  have hstop : ∀ m ∈ ([] : List RedisStreamMessage), InStream (stopWorker s w mode) m :=
    fun m hm => absurd hm List.not_mem_nil
  cases c with
  | fail e => exact ⟨stopWorker_change _ _ s w mode, trivial, hstop⟩
  | ok id =>
    unfold stepRead
    cases h : readMessages s w with
    | none => exact ⟨stopWorker_change _ _ s w mode, trivial, hstop⟩
    | some p =>
      obtain ⟨⟨stream, entries⟩, hr, rfl⟩ := Option.map_eq_some_iff.mp h
      obtain ⟨he, hmem⟩ := Stream.read_entries hr
      have hchange : Change (.read mode claimed) (· = t) s (s.setStream stream) :=
        setStream_change (.read _ _ _ entries hr)
      have hall : ∀ m ∈ claimed ++ entries.map toMessage, InStream (s.setStream stream) m := by
        intro m hm
        rcases List.mem_append.mp hm with hm | hm
        · exact hchange.log.inStream (hclaimed m hm)
        · obtain ⟨e, hem, rfl⟩ := List.mem_map.mp hm
          exact ⟨e, by change e ∈ stream.entries; rw [he]; exact hmem e hem, rfl⟩
      cases mode with
      | startOrderConsumer =>
        simp only
        split_ifs
        · exact ⟨hchange, trivial, fun m hm => absurd hm List.not_mem_nil⟩
        · exact ⟨hchange, trivial, hall⟩
      | processAvailableOrderMessages => exact ⟨hchange, trivial, hall⟩

theorem spawn_point (point : Thread → Frame) (w : Nat) (messages : List RedisStreamMessage)
    (t : Thread) : spawn point w messages t = point t ∨
      ∃ message ∈ messages, spawn point w messages t = .readMessage message := by
  cases t with
  | call n => exact .inl rfl
  | worker v => exact .inl rfl
  | task v i =>
    simp only [spawn]
    split_ifs with hv
    · cases hm : messages[i]? with
      | none => exact .inl rfl
      | some message => exact .inr ⟨message, List.mem_of_getElem? hm, rfl⟩
    · exact .inl rfl

end Worker

/-! ## Every step of the engine -/

/-- What calls coming in, crashes, time and signals leave alone. -/
structure Quiet (s s' : Store) : Prop where
  seats : s'.seats = s.seats
  orders : s'.orders = s.orders
  stream : s'.stream = s.stream
  keys : s'.redis.keys = s.redis.keys
  now : s.redis.now ≤ s'.redis.now

theorem Quiet.rows {s s' : Store} (h : Quiet s s') : Rows .idle (fun _ => False) s s' :=
  .same h.seats h.orders

theorem Quiet.refl (s : Store) : Quiet s s := ⟨rfl, rfl, rfl, rfl, le_refl _⟩

variable {digests : ScriptDigests} {world world' : World} {l : Label}

theorem valid_goto (hv : outline.Valid world) {t : Thread} {p : Store × Frame}
    (h : Moves (world.point t) world.shared t p) :
    outline.Valid ⟨p.1, Function.update world.point t p.2⟩ :=
  hv.move (hv.1.change h.1) h.2 fun _ hu => h.1.holds hu

theorem actWorker_step (hv : outline.Valid world) {w : Nat} {c : Choice}
    (h : actWorker world w c = some world') :
    outline.Valid world' ∧
      Change (world.point (.worker w)) (· = .worker w) world.shared world'.shared := by
  have hf := hv.2 (.worker w)
  unfold actWorker at h
  have go {p : Store × Frame} (hm : Moves (world.point (.worker w)) world.shared (.worker w) p)
      (h : some (⟨p.1, Function.update world.point (.worker w) p.2⟩ : World) = some world') :
      outline.Valid world' ∧
        Change (world.point (.worker w)) (· = .worker w) world.shared world'.shared := by
    cases h
    exact ⟨valid_goto hv hm, hm.1⟩
  cases hp : world.point (.worker w) with
  | createGroup mode =>
    rw [hp] at h go
    exact go createGroup_moves h
  | poll =>
    rw [hp] at h go
    exact go poll_moves h
  | claim mode =>
    rw [hp] at h go
    exact go claim_moves h
  | read mode claimed =>
    rw [hp] at h hf
    obtain ⟨hchange, hnext, hall⟩ := read_moves (w := w) (t := .worker w) (c := c) hf
    simp only at h
    generalize stepRead world.shared w mode claimed c = q at h hchange hnext hall
    obtain ⟨s', f, messages⟩ := q
    cases h
    refine ⟨hv.assign (hv.1.change hchange) fun t => ?_, hchange⟩
    rcases spawn_point (Function.update world.point (.worker w) f) w messages t with
      hs | ⟨m, hm, hs⟩
    · by_cases ht : t = .worker w
      · subst ht
        left
        rw [hs, Function.update_self]
        exact hnext
      · right
        rw [Function.update_of_ne ht] at hs
        exact ⟨hs, hchange.holds ht⟩
    · left
      rw [hs]
      exact hall m hm
  | batch mode count =>
    rw [hp] at h go
    simp only at h
    split_ifs at h
    have hm : Moves (.batch mode count) world.shared (.worker w)
        (world.shared, stepBatch mode count) := moves_stay _ (by cases mode <;> trivial)
    exact go hm h
  | _ =>
    rw [hp] at h
    cases h

theorem unlock_locks (s : Store) {ended : Thread → Bool} {u : Thread} (hu : ended u = false)
    (id : String) : (s.unlock ended).rowLock id = some u ↔ s.rowLock id = some u := by
  simp only [Store.unlock]
  cases s.rowLock id with
  | none => simp
  | some v =>
    by_cases hv : ended v = true
    · have hne : v ≠ u := by
        intro heq
        subst heq
        rw [hu] at hv
        cases hv
      simp [hv, hne]
    · simp [hv]

theorem Change.unlock (s : Store) (ended : Thread → Bool) :
    Change .idle (fun t => ended t = true) s (s.unlock ended) where
  now := rfl
  locks id _ hu := unlock_locks s (Bool.not_eq_true _ ▸ hu) id
  drawn _ _ h := h
  rows := .same rfl rfl
  log := .same rfl
  keys := .same rfl

theorem kill_valid (hv : outline.Valid world) (dead : Thread → Bool) :
    outline.Valid (kill world dead) := by
  have hchange := Change.unlock world.shared dead
  refine hv.assign (hv.1.change hchange) fun t => ?_
  by_cases ht : dead t = true
  · left
    simp only [ht, if_true]
    trivial
  · right
    simp only [ht]
    exact ⟨rfl, hchange.holds ht⟩

theorem valid_running (hv : outline.Valid world) (running : Nat → Bool) :
    outline.Valid ⟨{ world.shared with running }, world.point⟩ := by
  have hchange : Change .idle (fun _ => False) world.shared { world.shared with running } :=
    ⟨rfl, fun _ _ _ => Iff.rfl, fun _ _ h => h, .same rfl rfl, .same rfl, .same rfl⟩
  exact hv.environment (hv.1.change hchange) fun t => hchange.holds id

theorem valid_redis (hv : outline.Valid world) (redis : LockRedis) :
    outline.Valid ⟨world.shared.setRedis redis, world.point⟩ := by
  obtain ⟨h₀, h₁, h₂, h₃, h₄, h₅, h₆, h₇⟩ := hv.1
  exact ⟨⟨h₀, h₁, h₂, h₃, h₄, h₅, h₆, h₇⟩, fun t => (holds_setRedis _ redis).mpr (hv.2 t)⟩

theorem enter_some {t : Thread} {f : Frame} (h : enter world t f = some world') :
    world.point t = .idle ∧ world' = ⟨world.shared, Function.update world.point t f⟩ := by
  unfold enter at h
  split at h
  next hidle => exact ⟨hidle, (Option.some.inj h).symm⟩
  · cases h

theorem enter_step (hv : outline.Valid world) {t : Thread} {f : Frame}
    (hf : f.Holds t world.shared) (h : enter world t f = some world') :
    outline.Valid world' ∧ world'.shared = world.shared := by
  obtain ⟨-, rfl⟩ := enter_some h
  exact ⟨hv.move hv.1 hf fun _ _ hu => hu, rfl⟩

theorem startWorker_some {w : Nat} {mode : Mode} {s : Store}
    (h : startWorker world w mode s = some world') :
    world' = ⟨s, Function.update world.point (.worker w) (.createGroup mode)⟩ := by
  unfold startWorker at h
  split at h
  · exact (Option.some.inj h).symm
  · exact (Option.some.inj h).symm
  · exact (Option.some.inj h).symm
  · cases h

theorem startWorker_step {w : Nat} {mode : Mode} {s : Store}
    (hv : outline.Valid ⟨s, world.point⟩) (h : startWorker world w mode s = some world') :
    outline.Valid world' ∧ world'.shared = s := by
  have hnext := startWorker_some h
  subst hnext
  exact ⟨hv.move (w := ⟨s, world.point⟩) hv.1 trivial fun _ _ hu => hu, rfl⟩

theorem holdSeat_holds (t : Thread) (payload : PartialHoldSeatRequest) (s : Store) :
    (holdSeat payload).Holds t s := by
  unfold holdSeat
  cases normalizeHoldRequest payload <;> trivial

theorem createOrder_holds (t : Thread) (payload : PartialHoldSeatRequest) (s : Store) :
    (createOrder payload).Holds t s := by
  unfold createOrder
  cases normalizeHoldRequest payload <;> trivial

theorem releaseSeat_holds (t : Thread) (payload : PartialHoldSeatRequest) (holdId : String)
    (s : Store) : (releaseSeat payload holdId).Holds t s := by
  unfold releaseSeat
  cases normalizeHoldRequest payload with
  | error e => trivial
  | ok request =>
    simp only
    split_ifs <;> trivial

/-- A step of the engine keeps the outline valid, and it is either a step of one thread at its
frame or leaves the tables, the stream and the holds alone. -/
theorem step_cases (hv : outline.Valid world) (h : step digests world l = some world') :
    outline.Valid world' ∧
      ((∃ t c, l = .act t c ∧ Change (world.point t) (· = t) world.shared world'.shared) ∨
        (∀ t c, l ≠ .act t c) ∧ Quiet world.shared world'.shared) := by
  have entered {t : Thread} {f : Frame} (hl : ∀ t c, l ≠ .act t c)
      (hf : f.Holds t world.shared) (h : enter world t f = some world') :
      outline.Valid world' ∧
        ((∃ t c, l = .act t c ∧ Change (world.point t) (· = t) world.shared world'.shared) ∨
          (∀ t c, l ≠ .act t c) ∧ Quiet world.shared world'.shared) := by
    obtain ⟨hv', hs⟩ := enter_step hv hf h
    exact ⟨hv', .inr ⟨hl, by rw [hs]; exact Quiet.refl _⟩⟩
  have acted {t : Thread} {c : Choice} (hl : l = .act t c)
      (h : ((world.point t).act digests world.shared t c).map (fun p : Store × Frame =>
        (⟨p.1, Function.update world.point t p.2⟩ : World)) = some world') :
      outline.Valid world' ∧
        ((∃ t c, l = .act t c ∧ Change (world.point t) (· = t) world.shared world'.shared) ∨
          (∀ t c, l ≠ .act t c) ∧ Quiet world.shared world'.shared) := by
    obtain ⟨p, hp, rfl⟩ := Option.map_eq_some_iff.mp h
    have hm := act_moves hv.1 (hv.2 t) hp
    exact ⟨valid_goto hv hm, .inl ⟨t, c, hl, hm.1⟩⟩
  cases l with
  | holdSeat n payload => exact entered (by simp) (holdSeat_holds _ _ _) h
  | createOrder n payload => exact entered (by simp) (createOrder_holds _ _ _) h
  | releaseSeat n payload holdId => exact entered (by simp) (releaseSeat_holds _ _ _ _) h
  | startOrderConsumer w =>
    simp only [step] at h
    split_ifs at h
    · cases h
      exact ⟨hv, .inr ⟨by simp, Quiet.refl _⟩⟩
    · obtain ⟨hv', hs⟩ := startWorker_step (valid_running hv _) h
      exact ⟨hv', .inr ⟨by simp, by rw [hs]; exact ⟨rfl, rfl, rfl, rfl, le_refl _⟩⟩⟩
  | processAvailableOrderMessages w =>
    obtain ⟨hv', hs⟩ := startWorker_step hv h
    exact ⟨hv', .inr ⟨by simp, by rw [hs]; exact Quiet.refl _⟩⟩
  | stopOrderConsumer w =>
    cases h
    exact ⟨valid_running hv _, .inr ⟨by simp, ⟨rfl, rfl, rfl, rfl, le_refl _⟩⟩⟩
  | act t c =>
    cases t with
    | worker w =>
      obtain ⟨hv', hchange⟩ := actWorker_step hv h
      exact ⟨hv', .inl ⟨.worker w, c, rfl, hchange⟩⟩
    | call n => exact acted rfl h
    | task w i => exact acted rfl h
  | crashCall n =>
    cases h
    exact ⟨kill_valid hv _, .inr ⟨by simp, ⟨rfl, rfl, rfl, rfl, le_refl _⟩⟩⟩
  | crashWorker w =>
    cases h
    exact ⟨kill_valid (valid_running hv _) _, .inr ⟨by simp, ⟨rfl, rfl, rfl, rfl, le_refl _⟩⟩⟩
  | advance ms =>
    cases h
    exact ⟨valid_redis hv _, .inr ⟨by simp, ⟨rfl, rfl, rfl, rfl, Nat.le_add_right _ _⟩⟩⟩
  | flushScripts =>
    cases h
    exact ⟨valid_redis hv _, .inr ⟨by simp, ⟨rfl, rfl, rfl, rfl, le_refl _⟩⟩⟩

/-- The frames that a worker's loop goes through. -/
def Frame.looping : Frame → Bool
  | .createGroup _ | .poll | .claim _ | .read _ _ | .batch _ _ => true
  | _ => false

/-- A step at any other frame is the one `Frame.act` describes. -/
theorem act_step {t : Thread} {c : Choice} {f : Frame}
    (h : step digests world (.act t c) = some world') (hf : world.point t = f)
    (hloop : f.looping = false) :
    ∃ p, f.act digests world.shared t c = some p ∧
      world' = ⟨p.1, Function.update world.point t p.2⟩ := by
  have acted (h : ((world.point t).act digests world.shared t c).map (fun p : Store × Frame =>
      (⟨p.1, Function.update world.point t p.2⟩ : World)) = some world') :
      ∃ p, f.act digests world.shared t c = some p ∧
        world' = ⟨p.1, Function.update world.point t p.2⟩ := by
    obtain ⟨p, hp, rfl⟩ := Option.map_eq_some_iff.mp h
    rw [hf] at hp
    exact ⟨p, hp, rfl⟩
  cases t with
  | worker w =>
    simp only [step, actWorker, hf] at h
    cases f <;> first | (simp [Frame.looping] at hloop; done) | cases h
  | call n => exact acted h
  | task w i => exact acted h

theorem valid_step (digests : ScriptDigests) (world : World) (l : Label) (world' : World)
    (hv : outline.Valid world) (h : (engine digests).step world l = some world') :
    outline.Valid world' :=
  (step_cases hv h).1

/-- In every reachable world the stores are sound and every thread's assertion holds. -/
theorem reach_valid (hinit : Initial world) (h : (engine digests).Reach world world') :
    outline.Valid world' :=
  Machine.Reach.invariant _ (valid_step digests) (initial_valid hinit) h

end TicketEngine
