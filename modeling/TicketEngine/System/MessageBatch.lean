import Mathlib.Algebra.Order.BigOperators.Group.Finset
import TicketEngine.System.Course

namespace TicketEngine

/-! ## What the rows hold for a message -/

inductive Verdict
  | leave
  | repeated (payload : OrderCreatedEventPayload)
  | sell (payload : OrderCreatedEventPayload)

/-- What processing a message alone comes to. -/
def verdict (s : Store) (message : RedisStreamMessage) : Verdict :=
  match readEvent message with
  | .error _ => .leave
  | .ok payload =>
    match s.orders.row payload.holdId with
    | none => .leave
    | some o =>
      if o.status = .BOOKED then .repeated payload
      else if s.seats payload.seatId = some ⟨payload.eventId, .HELD⟩ then .sell payload
      else .leave

/-- A message whose order is PROCESSING on a HELD seat, or already BOOKED. -/
def Settleable (s : Store) (message : RedisStreamMessage) : Prop :=
  ∃ payload o, readEvent message = .ok payload ∧ s.orders.row payload.holdId = some o ∧
    (o.status = .BOOKED ∨
      o.status = .PROCESSING ∧ s.seats payload.seatId = some ⟨payload.eventId, .HELD⟩)

section Verdict

variable {s : Store} {message : RedisStreamMessage} {payload : OrderCreatedEventPayload}

theorem verdict_read (hread : readEvent message = .ok payload) {o : Order}
    (hrow : s.orders.row payload.holdId = some o) :
    verdict s message =
      if o.status = .BOOKED then .repeated payload
      else if s.seats payload.seatId = some ⟨payload.eventId, .HELD⟩ then .sell payload
      else .leave := by
  simp only [verdict, hread, hrow]

theorem verdict_sell (h : verdict s message = .sell payload) :
    readEvent message = .ok payload ∧
      s.seats payload.seatId = some ⟨payload.eventId, .HELD⟩ ∧
      ∃ o, s.orders.row payload.holdId = some o ∧ o.status ≠ .BOOKED := by
  unfold verdict at h
  cases hread : readEvent message with
  | error e =>
    rw [hread] at h
    cases h
  | ok p =>
    simp only [hread] at h
    cases hrow : s.orders.row p.holdId with
    | none =>
      rw [hrow] at h
      cases h
    | some o =>
      simp only [hrow] at h
      split_ifs at h with hbooked hheld
      cases h
      exact ⟨rfl, hheld, o, hrow, hbooked⟩

theorem Settleable.verdict_ne (h : Settleable s message) : verdict s message ≠ .leave := by
  obtain ⟨payload, o, hread, hrow, hstatus⟩ := h
  rw [verdict_read hread hrow]
  cases hstatus with
  | inl hbooked =>
    rw [if_pos hbooked]
    intro hleave
    cases hleave
  | inr hheld =>
    rw [if_pos hheld.2]
    split_ifs
    · intro hleave
      cases hleave
    · intro hleave
      cases hleave

end Verdict

/-! ## Batches -/

/-- Members that have order rows name their seats, and have orders and seats of their own. -/
structure Apart (s : Store) (messages : List RedisStreamMessage) : Prop where
  agree : ∀ message ∈ messages, ∀ payload o, readEvent message = .ok payload →
    s.orders.row payload.holdId = some o →
      o.eventId = payload.eventId ∧ o.seatId = payload.seatId
  distinct : ∀ (i j : Nat) message message' payload payload' o o', i ≠ j →
    messages[i]? = some message → messages[j]? = some message' →
    readEvent message = .ok payload → readEvent message' = .ok payload' →
    s.orders.row payload.holdId = some o → s.orders.row payload'.holdId = some o' →
      o ≠ o' ∧ o.seatId ≠ o'.seatId

/-- A worker has just handed a batch to its tasks: the messages are pending and no transaction
is open. -/
structure Batch (world : World) (w : Nat) (messages : List RedisStreamMessage) : Prop where
  tasks : ∀ (i : Nat) message, messages[i]? = some message →
    world.point (.task w i) = .readMessage message
  pending : ∀ message ∈ messages, world.shared.stream.Pending message.id
  unlocked : ∀ seatId, world.shared.rowLock seatId = none
  apart : Apart world.shared messages

def Frame.publishing : Frame → Bool
  | .publishBooked _ _ => true
  | _ => false

/-- A statement of one of the first `n` tasks of a worker; only a publish may fail. -/
def BatchStep (w n : Nat) (world : World) : Label → World → Prop
  | .act (.task v i) c, _ =>
    v = w ∧ i < n ∧ (c.failed = true → (world.point (.task v i)).publishing = true)
  | _, _ => False

instance BatchStep.decidable (w n : Nat) (world : World) (l : Label) (world' : World) :
    Decidable (BatchStep w n world l world') :=
  match l with
  | .act (.task v i) c => inferInstanceAs (Decidable (v = w ∧ i < n ∧
      (c.failed = true → (world.point (.task v i)).publishing = true)))
  | .act (.call _) _ => isFalse id
  | .act (.worker _) _ => isFalse id
  | .holdSeat _ _ => isFalse id
  | .createOrder _ _ => isFalse id
  | .releaseSeat _ _ _ => isFalse id
  | .startOrderConsumer _ => isFalse id
  | .processAvailableOrderMessages _ => isFalse id
  | .stopOrderConsumer _ => isFalse id
  | .crashCall _ => isFalse id
  | .crashWorker _ => isFalse id
  | .advance _ => isFalse id
  | .flushScripts => isFalse id

/-- Every task of the batch has ended. -/
def Complete (world : World) (w n : Nat) : Prop := ∀ i < n, (world.point (.task w i)).ended = true

/-- The tasks of a worker run one after another, in this order. -/
inductive InTurn (digests : ScriptDigests) (w : Nat) :
    World → List Nat → List Label → World → Prop
  | done {world} : InTurn digests w world [] [] world
  | next {world mid world' i order ls ls'} (hown : ∀ l ∈ ls, ∃ c, l = .act (.task w i) c)
      (hrun : (engine digests).run world ls = some mid)
      (hended : (mid.point (.task w i)).ended = true)
      (hrest : InTurn digests w mid order ls' world') :
      InTurn digests w world (i :: order) (ls ++ ls') world'

/-- The same seats, orders and acknowledged entries. -/
structure SameBooks (s s' : Store) : Prop where
  seats : s.seats = s'.seats
  orders : s.orders.row = s'.orders.row
  acked : ∀ id, s.stream.Acked id ↔ s'.stream.Acked id

/-! ## Stages -/

/-- Where a task stands, measured against the rows at the start of the batch. -/
inductive Stage (start : Store) (message : RedisStreamMessage) : Frame → Prop
  | readMessage : Stage start message (.readMessage message)
  | findBooking {payload} (hread : readEvent message = .ok payload) :
      Stage start message (.findBooking message payload)
  | sellRow {payload o} (hread : readEvent message = .ok payload)
      (hrow : start.orders.row payload.holdId = some o) (hopen : o.status ≠ .BOOKED) :
      Stage start message (.sellRow message payload)
  | bookRow {payload} (hsell : verdict start message = .sell payload) :
      Stage start message (.bookRow message payload)
  | commitBooking {payload} (hsell : verdict start message = .sell payload) :
      Stage start message (.commitBooking message payload)
  | publishBooked {payload} (hsettled : verdict start message ≠ .leave) :
      Stage start message (.publishBooked message payload)
  | acknowledge {payload} (hsettled : verdict start message ≠ .leave) :
      Stage start message (.acknowledge message payload)
  | processed (hsettled : verdict start message ≠ .leave) :
      Stage start message (.processed message.id)
  | failed {e} (hleave : verdict start message = .leave) :
      Stage start message (.failed message.id e)

/-- Past the transaction of `settleOrder`. -/
def Frame.settled : Frame → Bool
  | .publishBooked _ _ | .acknowledge _ _ | .processed _ => true
  | _ => false

/-- Inside the transaction, with the seat row written. -/
def Frame.selling : Frame → Bool
  | .bookRow _ _ | .commitBooking _ _ => true
  | _ => false

/-- The statements a task still has ahead of it. -/
def Frame.rank : Frame → Nat
  | .readMessage _ => 7
  | .findBooking _ _ => 6
  | .sellRow _ _ => 5
  | .bookRow _ _ => 4
  | .commitBooking _ _ => 3
  | .publishBooked _ _ => 2
  | .acknowledge _ _ => 1
  | _ => 0

section Midway

variable (start : Store) (w : Nat) (messages : List RedisStreamMessage)

/-- A task of the batch has sold the seat of this payload. -/
def Sold (point : Thread → Frame) (payload : OrderCreatedEventPayload) : Prop :=
  ∃ (i : Nat) (message : RedisStreamMessage), messages[i]? = some message ∧
    verdict start message = .sell payload ∧ (point (.task w i)).settled = true

/-- A task of the batch has acknowledged this id. -/
def Processed (point : Thread → Frame) (id : Nat) : Prop :=
  ∃ i < messages.length, point (.task w i) = .processed id

/-- The store, as the frames of the batch determine it from the store at the start. -/
structure Midway (world : World) : Prop where
  stage : ∀ (i : Nat) message, messages[i]? = some message →
    Stage start message (world.point (.task w i))
  sold : ∀ payload, Sold start w messages world.point payload →
    world.shared.seats payload.seatId = some ⟨payload.eventId, .SOLD⟩ ∧
      world.shared.orders.row payload.holdId = (start.orders.book payload.holdId).row payload.holdId
  seats : ∀ seatId, (∃ payload, Sold start w messages world.point payload ∧
    payload.seatId = seatId) ∨ world.shared.seats seatId = start.seats seatId
  orders : ∀ holdId, (∃ payload, Sold start w messages world.point payload ∧
    payload.holdId = holdId) ∨ world.shared.orders.row holdId = start.orders.row holdId
  acked : ∀ id, world.shared.stream.Acked id ↔
    start.stream.Acked id ∨ Processed w messages world.point id
  pending : ∀ message ∈ messages, world.shared.stream.Pending message.id ∨
    world.shared.stream.Acked message.id
  locks : ∀ seatId t, world.shared.rowLock seatId = some t →
    ∃ (i : Nat) (message : RedisStreamMessage) (payload : OrderCreatedEventPayload),
      t = .task w i ∧ messages[i]? = some message ∧ verdict start message = .sell payload ∧
        payload.seatId = seatId ∧ (world.point (.task w i)).selling = true

end Midway

section Step

variable {digests : ScriptDigests} {start : Store} {w i : Nat} {messages : List RedisStreamMessage}
  {message : RedisStreamMessage} {payload : OrderCreatedEventPayload} {world : World}
  {s' : Store} {c : Choice} {f' : Frame}

/-- A message with an order row shares neither hold nor seat with a sale of another member. -/
theorem Apart.other (ha : Apart start messages) {j : Nat} {message' : RedisStreamMessage}
    {payload' : OrderCreatedEventPayload} {o : Order} (hij : i ≠ j)
    (hi : messages[i]? = some message) (hj : messages[j]? = some message')
    (hread : readEvent message = .ok payload)
    (hrow : start.orders.row payload.holdId = some o)
    (hsell : verdict start message' = .sell payload') :
    payload'.holdId ≠ payload.holdId ∧ payload'.seatId ≠ payload.seatId := by
  obtain ⟨hread', -, o', hrow', -⟩ := verdict_sell hsell
  obtain ⟨horders, hseats⟩ :=
    ha.distinct i j message message' payload payload' o o' hij hi hj hread hread' hrow hrow'
  have hseat := (ha.agree message (List.mem_of_getElem? hi) payload o hread hrow).2
  have hseat' := (ha.agree message' (List.mem_of_getElem? hj) payload' o' hread' hrow').2
  constructor
  · intro heq
    rw [heq, hrow] at hrow'
    exact horders (Option.some.inj hrow')
  · intro heq
    rw [hseat, hseat'] at hseats
    exact hseats heq.symm

theorem update_task {point : Thread → Frame} {j : Nat} (hj : j ≠ i) :
    Function.update point (.task w i) f' (.task w j) = point (.task w j) := by
  apply Function.update_of_ne
  intro heq
  cases heq
  exact hj rfl

/-- Sales after one task has moved: its own, and those of the others. -/
theorem sold_update {point : Thread → Frame} (hi : messages[i]? = some message)
    (hsettled : verdict start message = .sell payload →
      f'.settled = (point (.task w i)).settled) :
    Sold start w messages (Function.update point (.task w i) f') payload ↔
      Sold start w messages point payload := by
  have own (j : Nat) (message' : RedisStreamMessage) (hj : messages[j]? = some message')
      (hsell : verdict start message' = .sell payload) :
      (Function.update point (.task w i) f' (.task w j)).settled =
        (point (.task w j)).settled := by
    by_cases hij : j = i
    · subst hij
      cases hi.symm.trans hj
      rw [Function.update_self]
      exact hsettled hsell
    · rw [update_task hij]
  constructor
  · rintro ⟨j, message', hj, hsell, hend⟩
    rw [own j message' hj hsell] at hend
    exact ⟨j, message', hj, hsell, hend⟩
  · rintro ⟨j, message', hj, hsell, hend⟩
    rw [← own j message' hj hsell] at hend
    exact ⟨j, message', hj, hsell, hend⟩

theorem processed_update {point : Thread → Frame}
    (hprocessed : ∀ id, f' = .processed id ↔ point (.task w i) = .processed id) (id : Nat) :
    Processed w messages (Function.update point (.task w i) f') id ↔
      Processed w messages point id := by
  have own (j : Nat) : Function.update point (.task w i) f' (.task w j) = .processed id ↔
      point (.task w j) = .processed id := by
    by_cases hij : j = i
    · subst hij
      rw [Function.update_self]
      exact hprocessed id
    · rw [update_task hij]
  constructor
  · rintro ⟨j, hj, hend⟩
    exact ⟨j, hj, (own j).mp hend⟩
  · rintro ⟨j, hj, hend⟩
    exact ⟨j, hj, (own j).mpr hend⟩

theorem stage_update (h : Midway start w messages world) (hi : messages[i]? = some message)
    (hstage : Stage start message f') (j : Nat) (message' : RedisStreamMessage)
    (hj : messages[j]? = some message') :
    Stage start message' (Function.update world.point (.task w i) f' (.task w j)) := by
  by_cases hij : j = i
  · subst hij
    cases hi.symm.trans hj
    rw [Function.update_self]
    exact hstage
  · rw [update_task hij]
    exact h.stage j message' hj

/-- The locks after a task has moved: those of the others, and its own on the seat it sells. -/
def Locked (start : Store) (w i : Nat) (message : RedisStreamMessage) (s s' : Store)
    (f' : Frame) : Prop :=
  ∀ seatId t, s'.rowLock seatId = some t →
    t ≠ .task w i ∧ s.rowLock seatId = some t ∨
      t = .task w i ∧ f'.selling = true ∧
        ∃ payload, verdict start message = .sell payload ∧ payload.seatId = seatId

theorem locks_update (h : Midway start w messages world) (hi : messages[i]? = some message)
    (hlocks : Locked start w i message world.shared s' f') (seatId : String) (t : Thread)
    (ht : s'.rowLock seatId = some t) :
    ∃ (j : Nat) (message' : RedisStreamMessage) (payload : OrderCreatedEventPayload),
      t = .task w j ∧ messages[j]? = some message' ∧ verdict start message' = .sell payload ∧
        payload.seatId = seatId ∧
        (Function.update world.point (.task w i) f' (.task w j)).selling = true := by
  rcases hlocks seatId t ht with ⟨hne, hold⟩ | ⟨rfl, hselling, payload, hsell, hseat⟩
  · obtain ⟨j, message', payload, rfl, hj, hsell, hseat, hselling⟩ := h.locks seatId t hold
    have hij : j ≠ i := by
      intro heq
      subst heq
      exact hne rfl
    refine ⟨j, message', payload, rfl, hj, hsell, hseat, ?_⟩
    rw [update_task hij]
    exact hselling
  · refine ⟨i, message, payload, rfl, hi, hsell, hseat, ?_⟩
    rw [Function.update_self]
    exact hselling

/-- A task that holds a row lock is inside its transaction. -/
theorem Midway.keep_locks (h : Midway start w messages world)
    (hi : messages[i]? = some message) (hlocks : s'.rowLock = world.shared.rowLock)
    (hselling : (world.point (.task w i)).selling = true → f'.selling = true) :
    Locked start w i message world.shared s' f' := by
  intro seatId t ht
  rw [hlocks] at ht
  by_cases hown : t = .task w i
  · right
    obtain ⟨j, message', payload, hj, hmessage, hsell, hseat, hin⟩ := h.locks seatId t ht
    rw [hown] at hj
    cases hj
    cases hi.symm.trans hmessage
    exact ⟨hown, hselling hin, payload, hsell, hseat⟩
  · exact .inl ⟨hown, ht⟩

/-- A task locks the row of the seat it sells. -/
theorem Midway.lock (h : Midway start w messages world) (hi : messages[i]? = some message)
    (hsell : verdict start message = .sell payload)
    (hbefore : (world.point (.task w i)).selling = false) (hafter : f'.selling = true)
    (hlock : s'.rowLock =
      Function.update world.shared.rowLock payload.seatId (some (.task w i))) :
    Locked start w i message world.shared s' f' := by
  intro seatId t ht
  rw [hlock] at ht
  by_cases hseat : seatId = payload.seatId
  · subst hseat
    rw [Function.update_self] at ht
    cases ht
    exact .inr ⟨rfl, hafter, payload, hsell, rfl⟩
  · rw [Function.update_of_ne hseat] at ht
    have hkept : Locked start w i message world.shared world.shared .idle :=
      h.keep_locks hi rfl (by simp [hbefore])
    rcases hkept seatId t ht with hold | ⟨-, hfalse, -⟩
    · exact .inl hold
    · cases hfalse

/-- A move that touches no row. -/
theorem Midway.advance (h : Midway start w messages world) (hi : messages[i]? = some message)
    (hseats : s'.seats = world.shared.seats) (horders : s'.orders = world.shared.orders)
    (hstage : Stage start message f')
    (hsettled : ∀ payload, verdict start message = .sell payload →
      f'.settled = (world.point (.task w i)).settled)
    (hacked : ∀ id, s'.stream.Acked id ↔ start.stream.Acked id ∨
      Processed w messages (Function.update world.point (.task w i) f') id)
    (hpending : ∀ message ∈ messages,
      s'.stream.Pending message.id ∨ s'.stream.Acked message.id)
    (hlocks : Locked start w i message world.shared s' f') :
    Midway start w messages ⟨s', Function.update world.point (.task w i) f'⟩ := by
  have hsold (payload : OrderCreatedEventPayload) :
      Sold start w messages (Function.update world.point (.task w i) f') payload ↔
        Sold start w messages world.point payload := sold_update hi (hsettled payload)
  constructor
  · exact stage_update h hi hstage
  · intro payload hsale
    simp only [hseats, horders]
    exact h.sold payload ((hsold payload).mp hsale)
  · intro seatId
    simp only [hseats]
    rcases h.seats seatId with ⟨payload, hsale, hseat⟩ | hsame
    · exact .inl ⟨payload, (hsold payload).mpr hsale, hseat⟩
    · exact .inr hsame
  · intro holdId
    simp only [horders]
    rcases h.orders holdId with ⟨payload, hsale, hhold⟩ | hsame
    · exact .inl ⟨payload, (hsold payload).mpr hsale, hhold⟩
    · exact .inr hsame
  · exact hacked
  · exact hpending
  · exact locks_update h hi hlocks

/-- A move that touches no row and no entry. -/
theorem Midway.move (h : Midway start w messages world) (hi : messages[i]? = some message)
    (hseats : s'.seats = world.shared.seats) (horders : s'.orders = world.shared.orders)
    (hstream : s'.stream = world.shared.stream) (hstage : Stage start message f')
    (hsettled : ∀ payload, verdict start message = .sell payload →
      f'.settled = (world.point (.task w i)).settled)
    (hprocessed : ∀ id, f' = .processed id ↔ world.point (.task w i) = .processed id)
    (hlocks : Locked start w i message world.shared s' f') :
    Midway start w messages ⟨s', Function.update world.point (.task w i) f'⟩ := by
  apply h.advance hi hseats horders hstage hsettled
  · intro id
    rw [hstream, h.acked id, processed_update hprocessed id]
  · rw [hstream]
    exact h.pending
  · exact hlocks

/-! ## The statements of one task -/

/-- Before its transaction ends, a task finds the order row of its message, and the seat of that
order, as they were at the start. -/
theorem Midway.rows_eq (h : Midway start w messages world) (ha : Apart start messages)
    (hi : messages[i]? = some message) (hread : readEvent message = .ok payload)
    (hunsettled : (world.point (.task w i)).settled = false) :
    world.shared.orders.row payload.holdId = start.orders.row payload.holdId ∧
      ∀ o, start.orders.row payload.holdId = some o →
        world.shared.seats payload.seatId = start.seats payload.seatId := by
  have foreign {payload' : OrderCreatedEventPayload} {o : Order}
      (hsale : Sold start w messages world.point payload')
      (hrow : start.orders.row payload.holdId = some o) :
      payload'.holdId ≠ payload.holdId ∧ payload'.seatId ≠ payload.seatId := by
    obtain ⟨j, message', hj, hsell, hsettled⟩ := hsale
    have hij : i ≠ j := by
      intro heq
      subst heq
      rw [hunsettled] at hsettled
      cases hsettled
    exact ha.other hij hi hj hread hrow hsell
  constructor
  · rcases h.orders payload.holdId with ⟨payload', hsale, hhold⟩ | hsame
    · have hrow : ∃ o, start.orders.row payload'.holdId = some o := by
        obtain ⟨j, message', -, hsell, -⟩ := hsale
        obtain ⟨-, -, o, hrow, -⟩ := verdict_sell hsell
        exact ⟨o, hrow⟩
      obtain ⟨o, hrow⟩ := hrow
      rw [hhold] at hrow
      exact absurd hhold (foreign hsale hrow).1
    · exact hsame
  · intro o hrow
    rcases h.seats payload.seatId with ⟨payload', hsale, hseat⟩ | hsame
    · exact absurd hseat (foreign hsale hrow).2
    · exact hsame

theorem not_processed {f : Frame} (hf : f.processing = true) (id : Nat) : f ≠ .processed id := by
  rintro rfl
  cases hf

theorem processed_iff {f : Frame} (hf : f.processing = true) (hf' : ∀ id, f' ≠ .processed id)
    (id : Nat) : f' = .processed id ↔ f = .processed id :=
  ⟨fun h => absurd h (hf' id), fun h => absurd h (not_processed hf id)⟩

/-- A move of a task before its transaction that leaves the store alone. -/
theorem Midway.look (h : Midway start w messages world) (hi : messages[i]? = some message)
    (hf : (world.point (.task w i)).processing = true ∧
      (world.point (.task w i)).settled = false ∧ (world.point (.task w i)).selling = false)
    (hstage : Stage start message f') (hf' : ∀ id, f' ≠ .processed id)
    (hsettled : f'.settled = true → ∀ payload, verdict start message ≠ .sell payload) :
    Midway start w messages ⟨world.shared, Function.update world.point (.task w i) f'⟩ := by
  apply h.move hi rfl rfl rfl hstage
  · intro payload hsell
    rw [hf.2.1]
    by_contra hne
    exact hsettled (Bool.of_not_eq_false hne) payload hsell
  · exact processed_iff hf.1 hf'
  · apply h.keep_locks hi rfl
    intro hselling
    rw [hf.2.2] at hselling
    cases hselling

theorem readMessage_midway (h : Midway start w messages world)
    (hi : messages[i]? = some message) (hpoint : world.point (.task w i) = .readMessage message)
    (hact : stepReadMessage world.shared message = (s', f')) :
    Midway start w messages ⟨s', Function.update world.point (.task w i) f'⟩ := by
  unfold stepReadMessage at hact
  cases hread : readEvent message with
  | error e =>
    rw [hread] at hact
    cases hact
    have hleave : verdict start message = .leave := by
      simp only [verdict, hread]
    apply h.look hi (by rw [hpoint]; exact ⟨rfl, rfl, rfl⟩) (.failed hleave)
    · simp
    · intro hfalse
      cases hfalse
  | ok payload =>
    rw [hread] at hact
    cases hact
    apply h.look hi (by rw [hpoint]; exact ⟨rfl, rfl, rfl⟩) (.findBooking hread)
    · simp
    · intro hfalse
      cases hfalse

theorem findBooking_midway (h : Midway start w messages world) (ha : Apart start messages)
    (hi : messages[i]? = some message)
    (hpoint : world.point (.task w i) = .findBooking message payload)
    (hread : readEvent message = .ok payload) (hc : c.failed = false)
    (hact : stepFindBooking world.shared message payload c = (s', f')) :
    Midway start w messages ⟨s', Function.update world.point (.task w i) f'⟩ := by
  have hf : (world.point (.task w i)).processing = true ∧
      (world.point (.task w i)).settled = false ∧ (world.point (.task w i)).selling = false := by
    rw [hpoint]
    exact ⟨rfl, rfl, rfl⟩
  have hrows := (h.rows_eq ha hi hread hf.2.1).1
  cases c with
  | fail e => cases hc
  | ok id =>
    unfold stepFindBooking at hact
    simp only [hrows] at hact
    cases hrow : start.orders.row payload.holdId with
    | none =>
      rw [hrow] at hact
      cases hact
      have hleave : verdict start message = .leave := by
        simp only [verdict, hread, hrow]
      apply h.look hi hf (.failed hleave)
      · simp
      · intro hfalse
        cases hfalse
    | some existing =>
      simp only [hrow] at hact
      split_ifs at hact with hbooked
      · cases hact
        have hrepeated : verdict start message = .repeated payload := by
          rw [verdict_read hread hrow, if_pos hbooked]
        apply h.look hi hf (.publishBooked (by simp [hrepeated]))
        · simp
        · simp [hrepeated]
      · cases hact
        apply h.look hi hf (.sellRow hread hrow hbooked)
        · simp
        · intro hfalse
          cases hfalse

theorem abort_lock {s : Store} {t u : Thread} {seatId : String}
    (h : (s.abort t).rowLock seatId = some u) : u ≠ t ∧ s.rowLock seatId = some u := by
  have hne : u ≠ t := by
    rintro rfl
    simp only [Store.abort, Store.unlock] at h
    split at h
    · split_ifs at h with heq
      cases h
      simp at heq
    · cases h
  exact ⟨hne, (abort_locks s hne seatId).mp h⟩

theorem sellRow_midway (h : Midway start w messages world) (ha : Apart start messages)
    (hi : messages[i]? = some message)
    (hpoint : world.point (.task w i) = .sellRow message payload)
    (hread : readEvent message = .ok payload) {o : Order}
    (hrow : start.orders.row payload.holdId = some o) (hopen : o.status ≠ .BOOKED)
    (hc : c.failed = false)
    (hact : stepSellRow world.shared (.task w i) message payload c = some (s', f')) :
    Midway start w messages ⟨s', Function.update world.point (.task w i) f'⟩ := by
  have hf : (world.point (.task w i)).processing = true ∧
      (world.point (.task w i)).settled = false ∧ (world.point (.task w i)).selling = false := by
    rw [hpoint]
    exact ⟨rfl, rfl, rfl⟩
  have hseats := (h.rows_eq ha hi hread hf.2.1).2 o hrow
  cases c with
  | fail e => cases hc
  | ok id =>
    simp only [stepSellRow, Store.lockRow] at hact
    by_cases hheld : world.shared.seats payload.seatId = some ⟨payload.eventId, .HELD⟩
    · rw [if_pos hheld] at hact
      have hfree : world.shared.rowLock payload.seatId = none := by
        by_contra hlocked
        rw [if_neg hlocked] at hact
        cases hact
      rw [if_pos hfree] at hact
      cases hact
      rw [hseats] at hheld
      have hsell : verdict start message = .sell payload := by
        rw [verdict_read hread hrow, if_neg hopen, if_pos hheld]
      refine h.move hi ?_ ?_ ?_ (.bookRow hsell) ?_ ?_ ?_
      · rfl
      · rfl
      · rfl
      · intro payload' hsell'
        rw [hf.2.1]
        rfl
      · exact processed_iff hf.1 (by simp)
      · exact h.lock hi hsell hf.2.2 rfl rfl
    · rw [if_neg hheld] at hact
      cases hact
      rw [hseats] at hheld
      have hleave : verdict start message = .leave := by
        rw [verdict_read hread hrow, if_neg hopen, if_neg hheld]
      refine h.move hi ?_ ?_ ?_ (.failed hleave) ?_ ?_ ?_
      · rfl
      · rfl
      · rfl
      · intro payload' hsell
        rw [hf.2.1]
        rfl
      · exact processed_iff hf.1 (by simp)
      · intro seatId t ht
        exact .inl (abort_lock ht)

theorem bookRow_midway (h : Midway start w messages world) (ha : Apart start messages)
    (hi : messages[i]? = some message)
    (hpoint : world.point (.task w i) = .bookRow message payload)
    (hsell : verdict start message = .sell payload) (hc : c.failed = false)
    (hact : stepBookRow world.shared (.task w i) message payload c = (s', f')) :
    Midway start w messages ⟨s', Function.update world.point (.task w i) f'⟩ := by
  have hunsettled : (world.point (.task w i)).settled = false := by rw [hpoint]; rfl
  obtain ⟨hread, -, o, hrow, -⟩ := verdict_sell hsell
  have hrows := (h.rows_eq ha hi hread hunsettled).1
  cases c with
  | fail e => cases hc
  | ok id =>
    simp only [stepBookRow, hrows, hrow] at hact
    cases hact
    apply h.move hi rfl rfl rfl (.commitBooking hsell)
    · intro payload' hsell'
      rw [hunsettled]
      rfl
    · exact processed_iff (by rw [hpoint]; rfl) (by simp)
    · exact h.keep_locks hi rfl fun _ => rfl

theorem publishBooked_midway (h : Midway start w messages world)
    (hi : messages[i]? = some message)
    (hpoint : world.point (.task w i) = .publishBooked message payload)
    (hsettled : verdict start message ≠ .leave)
    (hact : stepPublishBooked world.shared (.task w i) message payload c = some (s', f')) :
    Midway start w messages ⟨s', Function.update world.point (.task w i) f'⟩ := by
  have hsame : f' = .acknowledge message payload ∧ s'.seats = world.shared.seats ∧
      s'.orders = world.shared.orders ∧ s'.stream = world.shared.stream ∧
      s'.rowLock = world.shared.rowLock := by
    obtain ⟨s₁, hp, heq⟩ := Option.map_eq_some_iff.mp hact
    cases heq
    cases c with
    | fail e =>
      cases hp
      exact ⟨rfl, rfl, rfl, rfl, rfl⟩
    | ok id =>
      obtain ⟨s₂, hd, rfl⟩ := Option.map_eq_some_iff.mp hp
      obtain ⟨-, rfl⟩ := draw_eq hd
      exact ⟨rfl, rfl, rfl, rfl, rfl⟩
  obtain ⟨rfl, hseats, horders, hstream, hlocks⟩ := hsame
  apply h.move hi hseats horders hstream (.acknowledge hsettled)
  · intro payload' hsell
    rw [hpoint]
    rfl
  · exact processed_iff (by rw [hpoint]; rfl) (by simp)
  · apply h.keep_locks hi hlocks
    rw [hpoint]
    intro hfalse
    cases hfalse

/-- After the commit of one task the sales are those of before and its own. -/
theorem sold_commit {point : Thread → Frame} (hi : messages[i]? = some message)
    (hsell : verdict start message = .sell payload)
    (hunsettled : (point (.task w i)).settled = false) (hf' : f'.settled = true)
    (payload' : OrderCreatedEventPayload) :
    Sold start w messages (Function.update point (.task w i) f') payload' ↔
      payload' = payload ∨ ∃ (j : Nat) (message' : RedisStreamMessage), j ≠ i ∧
        messages[j]? = some message' ∧ verdict start message' = .sell payload' ∧
        (point (.task w j)).settled = true := by
  constructor
  · rintro ⟨j, message', hj, hsell', hend⟩
    by_cases hij : j = i
    · subst hij
      cases hi.symm.trans hj
      cases hsell.symm.trans hsell'
      exact .inl rfl
    · rw [update_task hij] at hend
      exact .inr ⟨j, message', hij, hj, hsell', hend⟩
  · rintro (rfl | ⟨j, message', hij, hj, hsell', hend⟩)
    · refine ⟨i, message, hi, hsell, ?_⟩
      rw [Function.update_self]
      exact hf'
    · refine ⟨j, message', hj, hsell', ?_⟩
      rw [update_task hij]
      exact hend

/-- A task that commits takes no sale away. -/
theorem sold_kept {point : Thread → Frame} (hunsettled : (point (.task w i)).settled = false)
    {payload' : OrderCreatedEventPayload} (hsale : Sold start w messages point payload') :
    Sold start w messages (Function.update point (.task w i) f') payload' := by
  obtain ⟨j, message', hj, hsell, hend⟩ := hsale
  have hij : j ≠ i := by
    rintro rfl
    rw [hunsettled] at hend
    cases hend
  refine ⟨j, message', hj, hsell, ?_⟩
  rw [update_task hij]
  exact hend

theorem commitBooking_midway (h : Midway start w messages world) (ha : Apart start messages)
    (hi : messages[i]? = some message)
    (hpoint : world.point (.task w i) = .commitBooking message payload)
    (hsell : verdict start message = .sell payload) (hc : c.failed = false)
    (hact : stepCommitBooking world.shared (.task w i) message payload c = (s', f')) :
    Midway start w messages ⟨s', Function.update world.point (.task w i) f'⟩ := by
  have hunsettled : (world.point (.task w i)).settled = false := by rw [hpoint]; rfl
  obtain ⟨hread, -, o, hrow, -⟩ := verdict_sell hsell
  have hrows := (h.rows_eq ha hi hread hunsettled).1
  have hne : verdict start message ≠ .leave := by
    rw [hsell]
    intro hleave
    cases hleave
  cases c with
  | fail e => cases hc
  | ok id =>
    cases hact
    have hpublish : (Frame.publishBooked message payload).settled = true := rfl
    have hsold := sold_commit hi hsell hunsettled hpublish
    have hprocessed (id : Nat) : Frame.publishBooked message payload = .processed id ↔
        world.point (.task w i) = .processed id := by
      simp [hpoint]
    constructor
    · exact stage_update h hi (.publishBooked hne)
    · intro payload' hsale
      rcases (hsold payload').mp hsale with rfl | ⟨j, message', hij, hj, hsell', hend⟩
      · constructor
        · exact Function.update_self ..
        · simp only [Store.bookOrder, Store.abort, Store.unlock, book_row, if_true, hrows]
      · have hother := ha.other hij.symm hi hj hread hrow hsell'
        obtain ⟨hseat, horder⟩ := h.sold payload' ⟨j, message', hj, hsell', hend⟩
        constructor
        · simp only [Store.bookOrder, Store.abort, Store.unlock]
          rw [Function.update_of_ne hother.2]
          exact hseat
        · simp only [Store.bookOrder, Store.abort, Store.unlock]
          rw [book_row, if_neg hother.1]
          exact horder
    · intro seatId
      by_cases hown : seatId = payload.seatId
      · exact .inl ⟨payload, (hsold payload).mpr (.inl rfl), hown.symm⟩
      · simp only [Store.bookOrder, Store.abort, Store.unlock]
        rw [Function.update_of_ne hown]
        rcases h.seats seatId with ⟨payload', hsale, hseat⟩ | hsame
        · exact .inl ⟨payload', sold_kept hunsettled hsale, hseat⟩
        · exact .inr hsame
    · intro holdId
      by_cases hown : holdId = payload.holdId
      · exact .inl ⟨payload, (hsold payload).mpr (.inl rfl), hown.symm⟩
      · simp only [Store.bookOrder, Store.abort, Store.unlock, book_row]
        rw [if_neg hown]
        rcases h.orders holdId with ⟨payload', hsale, hhold⟩ | hsame
        · exact .inl ⟨payload', sold_kept hunsettled hsale, hhold⟩
        · exact .inr hsame
    · intro id
      rw [processed_update hprocessed id]
      exact h.acked id
    · exact h.pending
    · apply locks_update h hi
      intro seatId t ht
      exact .inl (abort_lock ht)

/-- After the XACK of one task the processed messages are those of before and its own. -/
theorem processed_acknowledge {point : Thread → Frame} (hi : messages[i]? = some message)
    (hpoint : point (.task w i) = .acknowledge message payload) (id : Nat) :
    Processed w messages (Function.update point (.task w i) (.processed message.id)) id ↔
      Processed w messages point id ∨ id = message.id := by
  constructor
  · rintro ⟨j, hj, hend⟩
    by_cases hij : j = i
    · subst hij
      rw [Function.update_self] at hend
      cases hend
      exact .inr rfl
    · rw [update_task hij] at hend
      exact .inl ⟨j, hj, hend⟩
  · rintro (⟨j, hj, hend⟩ | rfl)
    · refine ⟨j, hj, ?_⟩
      have hij : j ≠ i := by
        rintro rfl
        rw [hpoint] at hend
        cases hend
      rw [update_task hij]
      exact hend
    · exact ⟨i, (List.getElem?_eq_some_iff.mp hi).1, Function.update_self ..⟩

theorem acknowledge_midway (h : Midway start w messages world)
    (hi : messages[i]? = some message)
    (hpoint : world.point (.task w i) = .acknowledge message payload)
    (hsettled : verdict start message ≠ .leave) (hc : c.failed = false)
    (hact : stepAcknowledge world.shared message c = (s', f')) :
    Midway start w messages ⟨s', Function.update world.point (.task w i) f'⟩ := by
  cases c with
  | fail e => cases hc
  | ok id =>
    cases hact
    have hacked := Stream.acked_ack_iff (h.pending message (List.mem_of_getElem? hi))
    refine h.advance hi ?_ ?_ (.processed hsettled) ?_ ?_ ?_ ?_
    · rfl
    · rfl
    · intro payload' hsell
      rw [hpoint]
      rfl
    · intro id
      simp only [Store.setStream]
      rw [hacked id, h.acked id, processed_acknowledge hi hpoint id, or_assoc]
    · intro message' hmem
      simp only [Store.setStream]
      rcases h.pending message' hmem with hpending | hdone
      · rcases Stream.pending_ack hpending message.id with heq | hkept
        · exact .inr ((hacked message'.id).mpr (.inr heq))
        · exact .inl hkept
      · exact .inr ((hacked message'.id).mpr (.inl hdone))
    · apply h.keep_locks hi rfl
      rw [hpoint]
      intro hfalse
      cases hfalse

end Step

end TicketEngine
