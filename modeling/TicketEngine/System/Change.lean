import TicketEngine.System.Engine

namespace TicketEngine

/-! ## What threads know about the stores -/

/-- The thread drew this identifier and no order has it yet. -/
def Fresh (s : Store) (t : Thread) (holdId : String) : Prop :=
  s.drawn holdId = some t ∧ s.orders.row holdId = none

/-- The thread's transaction has written the row, whose committed status is still `status`. -/
def Owns (s : Store) (t : Thread) (eventId seatId : String) (status : SeatState) : Prop :=
  s.rowLock seatId = some t ∧ s.seats seatId = some ⟨eventId, status⟩

/-- The order the payload speaks of exists, on the payload's seat. -/
def PlacedAs (s : Store) (p : OrderCreatedEventPayload) : Prop :=
  ∃ o, s.orders.row p.holdId = some o ∧ o.id = p.orderId ∧ o.eventId = p.eventId ∧
    o.seatId = p.seatId ∧ o.userId = p.userId

def Booked (s : Store) (holdId : String) : Prop :=
  ∃ o, s.orders.row holdId = some o ∧ o.status = .BOOKED

/-- The order has this status and is for this seat. -/
def OrderOn (status : OrderStatus) (s : Store) (seatId : String) (o : Order) : Prop :=
  s.orders.row o.holdId = some o ∧ o.seatId = seatId ∧ o.status = status

abbrev BookedOn := OrderOn .BOOKED

abbrev ProcessingOn := OrderOn .PROCESSING

def InStream (s : Store) (message : RedisStreamMessage) : Prop :=
  ∃ e ∈ s.stream.entries, toMessage e = message

def Delivered (s : Store) (message : RedisStreamMessage) (p : OrderCreatedEventPayload) : Prop :=
  InStream s message ∧ readEvent message = .ok p

/-- What a thread relies on at each frame. -/
def Frame.Holds (t : Thread) (f : Frame) (s : Store) : Prop :=
  match f with
  | .evalshaHold _ _ holdId | .evalHold _ _ holdId | .holdReply _ _ holdId _ => Fresh s t holdId
  | .lockSeat _ execution => Fresh s t execution.holdId
  | .createRow request execution =>
    Fresh s t execution.holdId ∧ Owns s t request.eventId request.seatId .AVAILABLE
  | .commitOrder order =>
    Fresh s t order.holdId ∧ Owns s t order.eventId order.seatId .AVAILABLE ∧
      order.status = .PROCESSING
  | .publishHeld order | .appendEvent order => PlacedAs s (orderPayload order)
  | .readMessage message => InStream s message
  | .findBooking message payload | .sellRow message payload => Delivered s message payload
  | .bookRow message payload | .commitBooking message payload =>
    Delivered s message payload ∧ Owns s t payload.eventId payload.seatId .HELD
  | .publishBooked message payload | .acknowledge message payload =>
    Delivered s message payload ∧ Booked s payload.holdId
  | .read _ claimed => ∀ message ∈ claimed, InStream s message
  | _ => True

/-- The seat and order rows: three kinds of commit change them. -/
inductive Rows (f : Frame) (mine : Thread → Prop) (s s' : Store) : Prop
  | same (hseats : s'.seats = s.seats) (horders : s'.orders = s.orders)
  | place (order : Order) (t : Thread) (hf : f = .commitOrder order) (ht : mine t)
      (hfresh : Fresh s t order.holdId) (howns : Owns s t order.eventId order.seatId .AVAILABLE)
      (hstatus : order.status = .PROCESSING)
      (hseats : s'.seats = Function.update s.seats order.seatId (some ⟨order.eventId, .HELD⟩))
      (horders : s'.orders = s.orders.insert order)
  | book (message : RedisStreamMessage) (payload : OrderCreatedEventPayload) (t : Thread)
      (hf : f = .commitBooking message payload) (ht : mine t)
      (howns : Owns s t payload.eventId payload.seatId .HELD) (hplaced : PlacedAs s payload)
      (hseats : s'.seats = Function.update s.seats payload.seatId (some ⟨payload.eventId, .SOLD⟩))
      (horders : s'.orders = s.orders.book payload.holdId)
  | free (request : HoldSeatRequest) (holdId : String) (hf : f = .freeRow request holdId)
      (hrow : s.seats request.seatId = some ⟨request.eventId, .HELD⟩)
      (hlock : s.rowLock request.seatId = none)
      (hseats : s'.seats =
        Function.update s.seats request.seatId (some ⟨request.eventId, .AVAILABLE⟩))
      (horders : s'.orders = s.orders)

/-- `stream:orders` and its group. -/
inductive Log (f : Frame) (s s' : Store) : Prop
  | same (hstream : s'.stream = s.stream)
  | append (order : Order) (now : Nat) (fields : List String) (hf : f = .appendEvent order)
      (hplaced : PlacedAs s (orderPayload order))
      (hread : ∀ id, readEvent (toMessage (id, fields)) = .ok (orderPayload order))
      (hstream : s'.stream = s.stream.append now fields)
  | create (mode : Mode) (hf : f = .createGroup mode) (hstream : s'.stream = s.stream.createGroup)
  | claim (now w minIdle count : Nat) (entries : List (Nat × List String))
      (hstream : s.stream.autoclaim now w minIdle count = some (s'.stream, entries))
  | read (now w count : Nat) (entries : List (Nat × List String))
      (hstream : s.stream.read now w count = some (s'.stream, entries))
  | ack (message : RedisStreamMessage) (payload : OrderCreatedEventPayload)
      (hf : f = .acknowledge message payload) (hdelivered : Delivered s message payload)
      (hbooked : Booked s payload.holdId) (hstream : s'.stream = s.stream.ack message.id)

/-- The seat keys in Redis. -/
inductive Keys (f : Frame) (s s' : Store) : Prop
  | same (hkeys : s'.redis.keys = s.redis.keys)
  | take (caller : Caller) (request : HoldSeatRequest) (holdId : String) (lock : SeatLock)
      (hf : f = .evalshaHold caller request holdId ∨ f = .evalHold caller request holdId)
      (hfree : Lease.read s.redis.now
        (s.redis.keys (seatLockKey request.eventId request.seatId)) = none)
      (howner : lock.userId = request.userId ∧ lock.holdId = holdId)
      (hkeys : s'.redis.keys = Function.update s.redis.keys
        (seatLockKey request.eventId request.seatId) (some ⟨lock, s.redis.now + 600000⟩))
  | drop (request : HoldSeatRequest) (holdId : String) (lock : SeatLock)
      (hf : f = .evalshaRelease request holdId ∨ f = .evalRelease request holdId)
      (hread : Lease.read s.redis.now
        (s.redis.keys (seatLockKey request.eventId request.seatId)) = some lock)
      (howner : lock.userId = request.userId ∧ lock.holdId = holdId)
      (hkeys : s'.redis.keys = Function.update s.redis.keys
        (seatLockKey request.eventId request.seatId) none)

/-- Everything a step taken at frame `f` by the threads `mine` can do to the stores. -/
structure Change (f : Frame) (mine : Thread → Prop) (s s' : Store) : Prop where
  now : s'.redis.now = s.redis.now
  locks : ∀ id t, ¬ mine t → (s'.rowLock id = some t ↔ s.rowLock id = some t)
  drawn : ∀ id t, s.drawn id = some t → s'.drawn id = some t
  rows : Rows f mine s s'
  log : Log f s s'
  keys : Keys f s s'

structure Sound (s : Store) : Prop where
  issued : ∀ {holdId o}, s.orders.row holdId = some o → ∃ t, s.drawn holdId = some t
  seated : ∀ {holdId o}, s.orders.row holdId = some o →
    ∃ status, s.seats o.seatId = some ⟨o.eventId, status⟩
  status : ∀ {holdId o}, s.orders.row holdId = some o →
    o.status = .PROCESSING ∨ o.status = .BOOKED
  sold : ∀ {holdId o}, s.orders.row holdId = some o → o.status = .BOOKED →
    s.seats o.seatId = some ⟨o.eventId, .SOLD⟩
  single : ∀ {h₁ h₂ o₁ o₂}, s.orders.row h₁ = some o₁ → s.orders.row h₂ = some o₂ →
    o₁.status = .BOOKED → o₂.status = .BOOKED → o₁.seatId = o₂.seatId → h₁ = h₂
  ordered : s.stream.Ordered
  carried : ∀ e ∈ s.stream.entries, ∃ p, readEvent (toMessage e) = .ok p ∧ PlacedAs s p
  settled : ∀ e ∈ s.stream.entries, s.stream.Acked e.1 →
    ∃ p, readEvent (toMessage e) = .ok p ∧ Booked s p.holdId

theorem Sound.placed {s : Store} (h : Sound s) {message : RedisStreamMessage}
    {p : OrderCreatedEventPayload} (hd : Delivered s message p) : PlacedAs s p := by
  obtain ⟨⟨e, he, rfl⟩, hp⟩ := hd
  obtain ⟨q, hq, hplaced⟩ := h.carried e he
  rw [hp] at hq
  cases hq
  exact hplaced

section Kept

variable {f : Frame} {mine : Thread → Prop} {s s' : Store}

theorem insert_row (T : OrderTable) (o : Order) (holdId : String) :
    (T.insert o).row holdId = if holdId = o.holdId then some o else T.row holdId := by
  simp only [OrderTable.insert, Function.update_apply]

theorem book_row (T : OrderTable) (booked holdId : String) :
    (T.book booked).row holdId =
      if holdId = booked then (T.row booked).map fun o => { o with status := .BOOKED }
      else T.row holdId := by
  simp only [OrderTable.book, Function.update_apply]

/-- An order row survives; its status may become BOOKED. -/
theorem Rows.kept (h : Rows f mine s s') {holdId : String} {o : Order}
    (ho : s.orders.row holdId = some o) :
    s'.orders.row holdId = some o ∨ s'.orders.row holdId = some { o with status := .BOOKED } := by
  cases h with
  | same _ horders => rw [horders]; exact .inl ho
  | free _ _ _ _ _ _ horders => rw [horders]; exact .inl ho
  | place order t _ _ hfresh _ _ _ horders =>
    left
    rw [horders, insert_row, if_neg]
    · exact ho
    · intro heq
      subst heq
      rw [hfresh.2] at ho
      cases ho
  | book _ payload _ _ _ _ _ _ horders =>
    rw [horders, book_row]
    split_ifs with hk
    · subst hk
      exact .inr (by rw [ho]; rfl)
    · exact .inl ho

theorem Rows.booked (h : Rows f mine s s') {holdId : String} (hb : Booked s holdId) :
    Booked s' holdId := by
  obtain ⟨o, ho, hst⟩ := hb
  rcases h.kept ho with ho' | ho'
  · exact ⟨o, ho', hst⟩
  · exact ⟨_, ho', rfl⟩

theorem Rows.placedAs (h : Rows f mine s s') {p : OrderCreatedEventPayload} (hp : PlacedAs s p) :
    PlacedAs s' p := by
  obtain ⟨o, ho, rest⟩ := hp
  rcases h.kept ho with ho' | ho'
  · exact ⟨o, ho', rest⟩
  · exact ⟨_, ho', rest⟩

theorem Change.fresh (h : Change f mine s s') {t : Thread} (ht : ¬ mine t) {holdId : String}
    (hfresh : Fresh s t holdId) : Fresh s' t holdId := by
  refine ⟨h.drawn holdId t hfresh.1, ?_⟩
  cases h.rows with
  | same _ horders => rw [horders]; exact hfresh.2
  | free _ _ _ _ _ _ horders => rw [horders]; exact hfresh.2
  | place order u _ hu hnew _ _ _ horders =>
    rw [horders, insert_row, if_neg]
    · exact hfresh.2
    · intro heq
      subst heq
      have hsame := hfresh.1.symm.trans hnew.1
      cases hsame
      exact ht hu
  | book _ payload _ _ _ _ _ _ horders =>
    rw [horders, book_row]
    split_ifs with hk
    · subst hk
      rw [hfresh.2]
      rfl
    · exact hfresh.2

/-- A row that another thread's transaction has written is not committed over. -/
theorem Change.owns (h : Change f mine s s') {t : Thread} (ht : ¬ mine t)
    {eventId seatId : String} {status : SeatState} (ho : Owns s t eventId seatId status) :
    Owns s' t eventId seatId status := by
  refine ⟨(h.locks seatId t ht).mpr ho.1, ?_⟩
  have other {u : Thread} {id : String} (hu : mine u) (hlock : s.rowLock id = some u) :
      seatId ≠ id := by
    intro heq
    subst heq
    rw [ho.1] at hlock
    cases hlock
    exact ht hu
  cases h.rows with
  | same hseats _ => rw [hseats]; exact ho.2
  | place order u _ hu _ howns _ hseats _ =>
    rw [hseats, Function.update_of_ne (other hu howns.1)]; exact ho.2
  | book _ payload u _ hu howns _ hseats _ =>
    rw [hseats, Function.update_of_ne (other hu howns.1)]; exact ho.2
  | free request _ _ _ hlock hseats _ =>
    have hne : seatId ≠ request.seatId := by
      intro heq
      subst heq
      rw [ho.1] at hlock
      cases hlock
    rw [hseats, Function.update_of_ne hne]; exact ho.2

theorem Log.entry_kept (h : Log f s s') {e : Nat × List String} (he : e ∈ s.stream.entries) :
    e ∈ s'.stream.entries := by
  cases h with
  | same hstream => rw [hstream]; exact he
  | append _ _ _ _ _ _ hstream => rw [hstream]; exact List.mem_append_left _ he
  | create _ _ hstream => rw [hstream, Stream.createGroup_entries]; exact he
  | claim _ _ _ _ _ hstream => rw [(Stream.autoclaim_entries hstream).1]; exact he
  | read _ _ _ _ hstream => rw [(Stream.read_entries hstream).1]; exact he
  | ack _ _ _ _ _ hstream => rw [hstream, Stream.ack_entries]; exact he

theorem Log.inStream (h : Log f s s') {message : RedisStreamMessage} (hm : InStream s message) :
    InStream s' message := by
  obtain ⟨e, he, hmessage⟩ := hm
  exact ⟨e, h.entry_kept he, hmessage⟩

theorem Change.delivered (h : Change f mine s s') {message : RedisStreamMessage}
    {p : OrderCreatedEventPayload} (hd : Delivered s message p) : Delivered s' message p :=
  ⟨h.log.inStream hd.1, hd.2⟩

/-- Steps of other threads do not interfere with what a thread relies on. -/
theorem Change.holds (h : Change f mine s s') {t : Thread} (ht : ¬ mine t) {g : Frame}
    (hg : g.Holds t s) : g.Holds t s' := by
  cases g with
  | evalshaHold _ _ _ => exact h.fresh ht hg
  | evalHold _ _ _ => exact h.fresh ht hg
  | holdReply _ _ _ _ => exact h.fresh ht hg
  | lockSeat _ _ => exact h.fresh ht hg
  | createRow _ _ => exact ⟨h.fresh ht hg.1, h.owns ht hg.2⟩
  | commitOrder _ => exact ⟨h.fresh ht hg.1, h.owns ht hg.2.1, hg.2.2⟩
  | publishHeld _ => exact h.rows.placedAs hg
  | appendEvent _ => exact h.rows.placedAs hg
  | readMessage _ => exact h.log.inStream hg
  | findBooking _ _ => exact h.delivered hg
  | sellRow _ _ => exact h.delivered hg
  | bookRow _ _ => exact ⟨h.delivered hg.1, h.owns ht hg.2⟩
  | commitBooking _ _ => exact ⟨h.delivered hg.1, h.owns ht hg.2⟩
  | publishBooked _ _ => exact ⟨h.delivered hg.1, h.rows.booked hg.2⟩
  | acknowledge _ _ => exact ⟨h.delivered hg.1, h.rows.booked hg.2⟩
  | read _ _ => exact fun m hm => h.log.inStream (hg m hm)
  | _ => trivial

/-- Where a row of the new order table comes from. -/
theorem Rows.origin (h : Rows f mine s s') {holdId : String} {o : Order}
    (ho : s'.orders.row holdId = some o) :
    s.orders.row holdId = some o ∨
      (o.status = .PROCESSING ∧ s.orders.row holdId = none ∧
        s.seats o.seatId = some ⟨o.eventId, .AVAILABLE⟩ ∧
        s'.seats = Function.update s.seats o.seatId (some ⟨o.eventId, .HELD⟩)) ∨
      (o.status = .BOOKED ∧ (∃ o', s.orders.row holdId = some o' ∧ o'.seatId = o.seatId) ∧
        s.seats o.seatId = some ⟨o.eventId, .HELD⟩ ∧
        s'.seats = Function.update s.seats o.seatId (some ⟨o.eventId, .SOLD⟩)) := by
  cases h with
  | same _ horders => rw [horders] at ho; exact .inl ho
  | free _ _ _ _ _ _ horders => rw [horders] at ho; exact .inl ho
  | place order t _ _ hfresh howns hstatus hseats horders =>
    rw [horders, insert_row] at ho
    split_ifs at ho with hk
    · cases ho
      exact .inr (.inl ⟨hstatus, by rw [hk]; exact hfresh.2, howns.2, hseats⟩)
    · exact .inl ho
  | book _ payload t _ _ howns hplaced hseats horders =>
    rw [horders, book_row] at ho
    split_ifs at ho with hk
    · obtain ⟨o', ho', rfl⟩ := Option.map_eq_some_iff.mp ho
      obtain ⟨q, hq, -, hqe, hqs, -⟩ := hplaced
      rw [ho'] at hq
      cases hq
      refine .inr (.inr ⟨rfl, ⟨o', by rw [hk]; exact ho', rfl⟩, ?_, ?_⟩)
      · simp only [hqe, hqs]; exact howns.2
      · simp only [hqe, hqs]; exact hseats
    · exact .inl ho

/-- A seat row keeps its event, and only a HELD row can become anything but HELD; a SOLD row
stays SOLD. -/
theorem Rows.seat (h : Rows f mine s s') {seatId eventId : String} {status : SeatState}
    (hs : s.seats seatId = some ⟨eventId, status⟩) :
    s'.seats seatId = some ⟨eventId, status⟩ ∨
      status ≠ .SOLD ∧ ∃ status', s'.seats seatId = some ⟨eventId, status'⟩ := by
  have changed {id e : String} {old new : SeatState} (hne : old ≠ .SOLD)
      (hrow : s.seats id = some ⟨e, old⟩)
      (hseats : s'.seats = Function.update s.seats id (some ⟨e, new⟩)) :
      s'.seats seatId = some ⟨eventId, status⟩ ∨
        status ≠ .SOLD ∧ ∃ status', s'.seats seatId = some ⟨eventId, status'⟩ := by
    by_cases hk : seatId = id
    · subst hk
      rw [hs] at hrow
      cases hrow
      exact .inr ⟨hne, new, by rw [hseats, Function.update_self]⟩
    · left
      rw [hseats, Function.update_of_ne hk]
      exact hs
  cases h with
  | same hseats _ => rw [hseats]; exact .inl hs
  | place order _ _ _ _ howns _ hseats _ => exact changed (by decide) howns.2 hseats
  | book _ payload _ _ _ howns _ hseats _ => exact changed (by decide) howns.2 hseats
  | free request _ _ hrow _ hseats _ => exact changed (by decide) hrow hseats

/-- A step changes at most one seat row. -/
theorem Rows.one_seat (h : Rows f mine s s') {seatId id : String}
    (hchanged : s'.seats seatId ≠ s.seats seatId) (hid : id ≠ seatId) :
    s'.seats id = s.seats id := by
  have single {key : String} {seat : Option Seat}
      (hseats : s'.seats = Function.update s.seats key seat) : s'.seats id = s.seats id := by
    rw [hseats, Function.update_apply, if_neg]
    intro heq
    subst heq
    rw [hseats, Function.update_of_ne hid.symm] at hchanged
    exact hchanged rfl
  cases h with
  | same hseats _ => rw [hseats]
  | place _ _ _ _ _ _ _ hseats _ => exact single hseats
  | book _ _ _ _ _ _ _ hseats _ => exact single hseats
  | free _ _ _ _ _ hseats _ => exact single hseats

theorem Log.ordered (h : Log f s s') (ho : s.stream.Ordered) : s'.stream.Ordered := by
  cases h with
  | same hstream => rw [hstream]; exact ho
  | append _ now fields _ _ _ hstream => rw [hstream]; exact ho.append now fields
  | create _ _ hstream => rw [hstream]; exact ho.createGroup
  | claim _ _ _ _ _ hstream => exact ho.autoclaim hstream
  | read _ _ _ _ hstream => exact ho.read hstream
  | ack message _ _ _ _ hstream => rw [hstream]; exact ho.ack message.id

/-- Every entry is an old one, or the event of an order that has just been placed. -/
theorem Log.entry (h : Log f s s') {e : Nat × List String} (he : e ∈ s'.stream.entries) :
    e ∈ s.stream.entries ∨ s.stream.lastId < e.1 ∧ s'.stream.group = s.stream.group ∧
      ∃ p, readEvent (toMessage e) = .ok p ∧ PlacedAs s p := by
  cases h with
  | same hstream => rw [hstream] at he; exact .inl he
  | append order now fields _ hplaced hread hstream =>
    rw [hstream] at he ⊢
    rcases List.mem_append.mp he with he | he
    · exact .inl he
    · rw [List.mem_singleton.mp he]
      exact .inr ⟨Stream.lastId_lt_nextId _ _, rfl, _, hread _, hplaced⟩
  | create _ _ hstream => rw [hstream, Stream.createGroup_entries] at he; exact .inl he
  | claim _ _ _ _ _ hstream => rw [(Stream.autoclaim_entries hstream).1] at he; exact .inl he
  | read _ _ _ _ hstream => rw [(Stream.read_entries hstream).1] at he; exact .inl he
  | ack _ _ _ _ _ hstream => rw [hstream, Stream.ack_entries] at he; exact .inl he

/-- An acknowledged id was so before, or its message has just been settled. -/
theorem Log.acked (h : Log f s s') {id : Nat} (ha : s'.stream.Acked id) :
    s.stream.Acked id ∨ ∃ message payload, message.id = id ∧ Delivered s message payload ∧
      Booked s payload.holdId := by
  cases h with
  | same hstream => rw [hstream] at ha; exact .inl ha
  | append _ _ _ _ _ _ hstream => rw [hstream] at ha; exact .inl ha
  | create _ _ hstream => rw [hstream] at ha; exact .inl (Stream.acked_createGroup.mp ha)
  | claim _ _ _ _ _ hstream => exact .inl ((Stream.acked_autoclaim hstream).mp ha)
  | read _ _ _ _ hstream => exact .inl ((Stream.acked_read hstream).mp ha)
  | ack message payload _ hdelivered hbooked hstream =>
    rw [hstream] at ha
    rcases Stream.acked_ack ha with ha | rfl
    · exact .inl ha
    · exact .inr ⟨message, payload, rfl, hdelivered, hbooked⟩

theorem Sound.issued_change (hs : Sound s) (h : Change f mine s s') {holdId : String} {o : Order}
    (ho : s'.orders.row holdId = some o) : ∃ t, s'.drawn holdId = some t := by
  have old {p : Order} (hp : s.orders.row holdId = some p) : ∃ t, s'.drawn holdId = some t := by
    obtain ⟨t, ht⟩ := hs.issued hp
    exact ⟨t, h.drawn holdId t ht⟩
  cases h.rows with
  | same _ horders => rw [horders] at ho; exact old ho
  | free _ _ _ _ _ _ horders => rw [horders] at ho; exact old ho
  | place order t _ _ hfresh _ _ _ horders =>
    rw [horders, insert_row] at ho
    split_ifs at ho with hk
    · rw [hk]
      exact ⟨t, h.drawn _ t hfresh.1⟩
    · exact old ho
  | book _ payload _ _ _ _ _ _ horders =>
    rw [horders, book_row] at ho
    split_ifs at ho with hk
    · obtain ⟨p, hp, -⟩ := Option.map_eq_some_iff.mp ho
      rw [← hk] at hp
      exact old hp
    · exact old ho

/-- One order at most is BOOKED on a seat, whatever becomes of the rows. -/
theorem Sound.single_change (hs : Sound s) (h : Rows f mine s s') {h₁ h₂ : String} {o₁ o₂ : Order}
    (ho₁ : s'.orders.row h₁ = some o₁) (ho₂ : s'.orders.row h₂ = some o₂)
    (hst₁ : o₁.status = .BOOKED) (hst₂ : o₂.status = .BOOKED) (hseat : o₁.seatId = o₂.seatId) :
    h₁ = h₂ := by
  rcases h with ⟨-, horders⟩ | ⟨order, t, -, -, hfresh, -, hstatus, -, horders⟩ |
    ⟨message, payload, t, -, -, howns, ⟨o, ho, -, -, hos, -⟩, -, horders⟩ |
    ⟨request, holdId, -, -, -, -, horders⟩
  · rw [horders] at ho₁ ho₂
    exact hs.single ho₁ ho₂ hst₁ hst₂ hseat
  · rw [horders, insert_row] at ho₁ ho₂
    have old {key : String} {o : Order} (ho : (if key = order.holdId then some order
        else s.orders.row key) = some o) (hst : o.status = .BOOKED) :
        s.orders.row key = some o := by
      split_ifs at ho
      · cases ho
        rw [hst] at hstatus
        cases hstatus
      · exact ho
    exact hs.single (old ho₁ hst₁) (old ho₂ hst₂) hst₁ hst₂ hseat
  · -- the row being booked is HELD, so no order on its seat was BOOKED before
    have hnone {key : String} {q : Order} (hq : s.orders.row key = some q)
        (hst : q.status = .BOOKED) : q.seatId ≠ payload.seatId := by
      intro hk
      have hsold := hs.sold hq hst
      rw [hk, howns.2] at hsold
      simp at hsold
    have split {key : String} {q : Order} (hq : s'.orders.row key = some q)
        (hst : q.status = .BOOKED) :
        key = payload.holdId ∧ q.seatId = payload.seatId ∨
          s.orders.row key = some q ∧ q.seatId ≠ payload.seatId := by
      rw [horders, book_row, ho] at hq
      split_ifs at hq with hk
      · cases hq
        exact .inl ⟨hk, hos⟩
      · exact .inr ⟨hq, hnone hq hst⟩
    rcases split ho₁ hst₁ with ⟨hk₁, hs₁⟩ | ⟨hq₁, hn₁⟩ <;>
      rcases split ho₂ hst₂ with ⟨hk₂, hs₂⟩ | ⟨hq₂, hn₂⟩
    · exact hk₁.trans hk₂.symm
    · exact absurd (hseat.symm.trans hs₁) hn₂
    · exact absurd (hseat.trans hs₂) hn₁
    · exact hs.single hq₁ hq₂ hst₁ hst₂ hseat
  · rw [horders] at ho₁ ho₂
    exact hs.single ho₁ ho₂ hst₁ hst₂ hseat

/-- An entry that is acknowledged belongs to an order that is BOOKED. -/
theorem Sound.settled_change (hs : Sound s) (h : Change f mine s s') {e : Nat × List String}
    (he : e ∈ s'.stream.entries) (ha : s'.stream.Acked e.1) :
    ∃ p, readEvent (toMessage e) = .ok p ∧ Booked s' p.holdId := by
  rcases h.log.entry he with he | ⟨hlt, hgroup, -⟩
  · rcases h.log.acked ha with ha | ⟨message, payload, hid, ⟨⟨d, hd, rfl⟩, hp⟩, hbooked⟩
    · obtain ⟨p, hp, hbooked⟩ := hs.settled e he ha
      exact ⟨p, hp, h.rows.booked hbooked⟩
    · rw [hs.ordered.unique he hd hid.symm]
      exact ⟨payload, hp, h.rows.booked hbooked⟩
  · have hold : s.stream.Acked e.1 := by
      obtain ⟨g, hg, hid⟩ := ha
      exact ⟨g, by rw [← hgroup]; exact hg, hid⟩
    exact absurd (hs.ordered.acked_le hold) (Nat.not_le_of_lt hlt)

/-- Every step keeps the invariant of the stores. -/
theorem Sound.change (hs : Sound s) (h : Change f mine s s') : Sound s' where
  issued ho := hs.issued_change h ho
  seated {holdId o} ho := by
    rcases h.rows.origin ho with ho | ⟨-, -, -, hseats⟩ | ⟨-, -, -, hseats⟩
    · obtain ⟨status, hrow⟩ := hs.seated ho
      rcases h.rows.seat hrow with hrow | ⟨-, hrow⟩
      · exact ⟨status, hrow⟩
      · exact hrow
    · exact ⟨.HELD, by rw [hseats, Function.update_self]⟩
    · exact ⟨.SOLD, by rw [hseats, Function.update_self]⟩
  status {holdId o} ho := by
    rcases h.rows.origin ho with ho | ⟨hst, -⟩ | ⟨hst, -⟩
    · exact hs.status ho
    · exact .inl hst
    · exact .inr hst
  sold {holdId o} ho hst := by
    rcases h.rows.origin ho with ho | ⟨hp, -⟩ | ⟨-, -, -, hseats⟩
    · rcases h.rows.seat (hs.sold ho hst) with hrow | ⟨hne, -⟩
      · exact hrow
      · exact absurd rfl hne
    · rw [hst] at hp
      cases hp
    · rw [hseats, Function.update_self]
  single ho₁ ho₂ hst₁ hst₂ hseat := hs.single_change h.rows ho₁ ho₂ hst₁ hst₂ hseat
  ordered := h.log.ordered hs.ordered
  carried e he := by
    rcases h.log.entry he with he | ⟨-, -, p, hp, hplaced⟩
    · obtain ⟨p, hp, hplaced⟩ := hs.carried e he
      exact ⟨p, hp, h.rows.placedAs hplaced⟩
    · exact ⟨p, hp, h.rows.placedAs hplaced⟩
  settled _ he ha := hs.settled_change h he ha

end Kept

end TicketEngine
