import TicketEngine.System.Course
import TicketEngine.System.Settlement

namespace TicketEngine

/-! ## Messages that only a stranger could have written -/

/-- The errors of a message that `createOrder` did not append, or whose order does not exist. -/
def WorkerError.foreign : WorkerError → Bool
  | .seatNotHeld _ | .service _ => false
  | _ => true

def Frame.astray : Frame → Bool
  | .failed _ e => e.foreign
  | _ => false

section Act

variable {s : Store} {t : Thread} {c : Choice} {f : Frame} {r : Store × Frame}

/-- The event `createOrder` appends is read back as the payload it was made from. -/
theorem read_orderEvent (s : Store) (id : Nat) (eventId : String) (order : Order) :
    parsePayload (toMessage (id, (orderEvent s eventId order).fields)) =
        .ok (orderPayload order) ∧
      readEvent (toMessage (id, (orderEvent s eventId order).fields)) =
        .ok (orderPayload order) := by
  have hread : readEvent (toMessage (id, (orderEvent s eventId order).fields)) =
      .ok (orderPayload order) := readEvent_fields id rfl rfl
  refine ⟨?_, hread⟩
  unfold readEvent at hread
  split_ifs at hread
  exact hread

theorem appendEvent_entries {order : Order} {eventId : String}
    (h : stepAppendEvent s t order (.ok eventId) = some r) :
    ∃ id fields, r.1.stream.entries = s.stream.entries ++ [(id, fields)] ∧
      parsePayload (toMessage (id, fields)) = .ok (orderPayload order) ∧
      readEvent (toMessage (id, fields)) = .ok (orderPayload order) := by
  obtain ⟨s', hd, rfl⟩ := Option.map_eq_some_iff.mp h
  obtain ⟨-, rfl⟩ := draw_eq hd
  exact ⟨_, _, rfl, read_orderEvent _ _ eventId order⟩

theorem readMessage_known (hs : Sound s) {message : RedisStreamMessage} (hm : InStream s message) :
    (stepReadMessage s message).2.astray = false := by
  obtain ⟨e, he, rfl⟩ := hm
  obtain ⟨payload, hread, -⟩ := hs.carried e he
  rw [stepReadMessage, hread]
  rfl

theorem findBooking_known (hs : Sound s) {message : RedisStreamMessage}
    {payload : OrderCreatedEventPayload} (hd : Delivered s message payload) :
    (stepFindBooking s message payload c).2.astray = false := by
  obtain ⟨order, hrow, -⟩ := hs.placed hd
  cases c with
  | fail e => rfl
  | ok id =>
    simp only [stepFindBooking, hrow]
    split_ifs <;> rfl

theorem Course.failed {s' : Store} {f' : Frame} {id : Nat} {e : WorkerError}
    (h : Course s t c f s' f') (hf' : f' = .failed id e) : f.processing = true := by
  cases h with
  | quit hstill hend =>
    cases hend with
    | leave hf => exact hf
    | reject | refuse => cases hf'
  | silent hstill hmove =>
    subst hf'
    cases hmove
  | announce hf =>
    subst hf'
    simpa using announces_next hf
  | unannounced hf =>
    subst hf'
    simpa using announces_next hf
  | take | place | append | drop | free | book | acknowledge => cases hf'

/-- No message of the stream fails for want of a payload or of its order. -/
theorem act_known {digests : ScriptDigests} (hs : Sound s) (hf : f.Holds t s)
    (h : f.act digests s t c = some r) : r.2.astray = false := by
  cases hr : r.2 with
  | failed id e =>
    have hprocessing := (act_course h).failed hr
    rw [← hr]
    cases f with
    | readMessage message =>
      cases h
      exact readMessage_known hs hf
    | findBooking message payload =>
      cases h
      exact findBooking_known hs hf
    | sellRow message payload =>
      cases c with
      | fail e =>
        cases h
        rfl
      | ok id =>
        obtain ⟨⟨s', count⟩, -, rfl⟩ := Option.map_eq_some_iff.mp h
        simp only
        split_ifs <;> rfl
    | bookRow message payload =>
      cases h
      cases c with
      | fail e => rfl
      | ok id =>
        unfold stepBookRow
        cases s.orders.row payload.holdId <;> rfl
    | commitBooking message payload =>
      cases h
      cases c <;> rfl
    | publishBooked message payload =>
      obtain ⟨s', -, rfl⟩ := Option.map_eq_some_iff.mp h
      rfl
    | acknowledge message payload =>
      cases h
      cases c <;> rfl
    | _ => cases hprocessing
  | _ => rfl

/-! ## The seat rows that a settlement writes -/

/-- The thread has written no further seat row, neither committed nor in its transaction. -/
structure Unwritten (t : Thread) (s s' : Store) : Prop where
  seats : s'.seats = s.seats
  locks : ∀ id, s'.rowLock id = some t → s.rowLock id = some t

theorem Unwritten.refl (t : Thread) (s : Store) : Unwritten t s s := ⟨rfl, fun _ h => h⟩

theorem abort_rowLock (s : Store) (t : Thread) (id : String) :
    (s.abort t).rowLock id ≠ some t := by
  intro h
  simp only [Store.abort, Store.unlock] at h
  cases hlock : s.rowLock id with
  | none =>
    rw [hlock] at h
    cases h
  | some u =>
    rw [hlock] at h
    by_cases hu : u = t
    · simp [hu] at h
    · simp [hu] at h

theorem Unwritten.abort (t : Thread) (s : Store) : Unwritten t s (s.abort t) :=
  ⟨rfl, fun id h => absurd h (abort_rowLock s t id)⟩

/-- The two commands of a settlement that write a seat row. -/
inductive SeatWrite (t : Thread) (s s' : Store) (payload : OrderCreatedEventPayload) : Prop
  | lock (hrow : s.seats payload.seatId = some ⟨payload.eventId, .HELD⟩)
      (hs : s' = { s with rowLock := Function.update s.rowLock payload.seatId (some t) })
  | commit (hrow : s.seats payload.seatId = some ⟨payload.eventId, .HELD⟩)
      (hs : s' = s.bookOrder t payload.eventId payload.seatId payload.holdId)

theorem SeatWrite.at_seat {s' : Store} {payload : OrderCreatedEventPayload}
    (h : SeatWrite t s s' payload) {id : String}
    (hwrite : s'.seats id ≠ s.seats id ∨ s'.rowLock id = some t ∧ s.rowLock id ≠ some t) :
    id = payload.seatId := by
  by_contra hne
  cases h with
  | lock hrow hs =>
    subst hs
    simp only [Function.update_of_ne hne, ne_eq, not_true_eq_false, false_or] at hwrite
    exact hwrite.2 hwrite.1
  | commit hrow hs =>
    subst hs
    rcases hwrite with hwrite | ⟨hlock, -⟩
    · exact hwrite (Function.update_of_ne hne ..)
    · exact abort_rowLock _ t id hlock

theorem publishBooked_unwritten {message : RedisStreamMessage}
    {payload : OrderCreatedEventPayload} (h : stepPublishBooked s t message payload c = some r) :
    Unwritten t s r.1 := by
  obtain ⟨s', hp, rfl⟩ := Option.map_eq_some_iff.mp h
  cases c with
  | fail message =>
    cases hp
    exact Unwritten.refl t s
  | ok id =>
    obtain ⟨s₁, hd, rfl⟩ := Option.map_eq_some_iff.mp hp
    obtain ⟨-, rfl⟩ := draw_eq hd
    exact ⟨rfl, fun _ h => h⟩

/-- A command of `processMessage` writes at most the seat row its payload names. -/
theorem settle_writes {digests : ScriptDigests} (hf : f.Holds t s)
    (h : f.act digests s t c = some r) (hprocessing : f.processing = true) :
    Unwritten t s r.1 ∨
      ∃ message payload, Delivered s message payload ∧ f.settles = some payload.holdId ∧
        SeatWrite t s r.1 payload := by
  cases f with
  | readMessage message =>
    cases h
    left
    unfold stepReadMessage
    cases readEvent message <;> exact Unwritten.refl t s
  | findBooking message payload =>
    cases h
    left
    cases c with
    | fail e => exact Unwritten.refl t s
    | ok id =>
      unfold stepFindBooking
      cases s.orders.row payload.holdId with
      | none => exact Unwritten.refl t s
      | some existing =>
        simp only
        split_ifs <;> exact Unwritten.refl t s
  | sellRow message payload =>
    cases c with
    | fail e =>
      cases h
      exact .inl (Unwritten.refl t s)
    | ok id =>
      obtain ⟨⟨s', count⟩, hl, rfl⟩ := Option.map_eq_some_iff.mp h
      rcases lockRow_cases hl with ⟨rfl, rfl⟩ | ⟨rfl, hrow, -, hs⟩
      · exact .inl (Unwritten.abort t s')
      · exact .inr ⟨message, payload, hf, rfl, .lock hrow hs⟩
  | bookRow message payload =>
    cases h
    left
    cases c with
    | fail e => exact Unwritten.abort t s
    | ok id =>
      unfold stepBookRow
      cases s.orders.row payload.holdId with
      | none => exact Unwritten.abort t s
      | some existing => exact Unwritten.refl t s
  | commitBooking message payload =>
    cases h
    cases c with
    | fail e => exact .inl (Unwritten.abort t s)
    | ok id => exact .inr ⟨message, payload, hf.1, rfl, .commit hf.2.2 rfl⟩
  | publishBooked message payload => exact .inl (publishBooked_unwritten h)
  | acknowledge message payload =>
    cases h
    left
    cases c with
    | fail e => exact Unwritten.refl t s
    | ok id => exact ⟨rfl, fun _ h => h⟩
  | _ => cases hprocessing

theorem settles_processing {holdId : String} (h : f.settles = some holdId) :
    f.processing = true := by
  cases f with
  | readMessage _ | findBooking _ _ | sellRow _ _ | bookRow _ _ => rfl
  | commitBooking _ _ | publishBooked _ _ | acknowledge _ _ => rfl
  | _ => cases h

theorem processing_looping (h : f.processing = true) : f.looping = false := by
  cases f with
  | createGroup _ | poll | claim _ | read _ _ | batch _ _ => cases h
  | _ => rfl

end Act

section Step

variable {digests : ScriptDigests} {world world' : World} {l : Label}

theorem entering_known {f : Frame} (h : f.Entering l) : f.astray = false := by
  cases f with
  | failed id e => cases h
  | _ => rfl

theorem known_step (hv : outline.Valid world) (hk : ∀ t, (world.point t).astray = false)
    (h : step digests world l = some world') (t : Thread) :
    (world'.point t).astray = false := by
  rcases step_act h with ⟨u, c, p, rfl, hact, rfl⟩ | ⟨⟨-, henters⟩, -⟩
  · by_cases hu : t = u
    · subst hu
      simp only [Function.update_self]
      exact act_known hv.1 (hv.2 t) hact
    · simp only [Function.update_of_ne hu]
      exact hk t
  · rcases henters t with hsame | hentering
    · rw [hsame]
      exact hk t
    · exact entering_known hentering

theorem reach_known {world₀ : World} (hinit : Initial world₀)
    (h : (engine digests).Reach world₀ world) (t : Thread) :
    (world.point t).astray = false := by
  have hstart : ∀ t, (world₀.point t).astray = false := by
    intro t
    rw [hinit.idle t]
    rfl
  refine (Machine.Reach.invariant _
    (I := fun w => outline.Valid w ∧ ∀ t, (w.point t).astray = false) ?_
    ⟨initial_valid hinit, hstart⟩ h).2 t
  intro w l w' hw hstep
  obtain ⟨hv, hk⟩ := hw
  exact ⟨valid_step digests w l w' hv hstep, known_step hv hk hstep⟩

/-- A settlement writes no seat row but that of the order it settles. -/
theorem settle_step (hv : outline.Valid world) {t : Thread} {c : Choice} {holdId id : String}
    (h : step digests world (.act t c) = some world')
    (hf : (world.point t).settles = some holdId)
    (hwrite : world'.shared.seats id ≠ world.shared.seats id ∨
      world'.shared.rowLock id = some t ∧ world.shared.rowLock id ≠ some t) :
    ∃ order, world.shared.orders.row holdId = some order ∧ order.seatId = id ∧
      world.shared.seats id = some ⟨order.eventId, .HELD⟩ := by
  have hprocessing := settles_processing hf
  obtain ⟨r, hact, rfl⟩ := act_step h rfl (processing_looping hprocessing)
  rcases settle_writes (hv.2 t) hact hprocessing with
    hsame | ⟨message, payload, hdelivered, hsettles, hseat⟩
  · rcases hwrite with hwrite | ⟨hlock, hfree⟩
    · exact absurd (congrFun hsame.seats id) hwrite
    · exact absurd (hsame.locks id hlock) hfree
  · have hid : id = payload.seatId := hseat.at_seat hwrite
    rw [hf] at hsettles
    cases hsettles
    obtain ⟨order, hrow, -, hevent, hseatId, -⟩ := hv.1.placed hdelivered
    refine ⟨order, hrow, hseatId.trans hid.symm, ?_⟩
    rw [hid, hevent]
    cases hseat with
    | lock hrow _ => exact hrow
    | commit hrow _ => exact hrow

/-- The order events: what a call appends is read back as it was written; so every entry of the
stream names an order row that agrees with it, no message fails for want of a payload or of its
order, and a settlement writes the seat of that row only. -/
theorem order_events_decode {world₀ : World} (hinit : Initial world₀) :
    (∀ world t order eventId world', world.point t = .appendEvent order →
      step digests world (.act t (.ok eventId)) = some world' →
      ∃ id fields,
        world'.shared.stream.entries = world.shared.stream.entries ++ [(id, fields)] ∧
        parsePayload (toMessage (id, fields)) = .ok (orderPayload order) ∧
        readEvent (toMessage (id, fields)) = .ok (orderPayload order)) ∧
    (∀ world, (engine digests).Reach world₀ world →
      (∀ e ∈ world.shared.stream.entries,
        ∃ payload order, readEvent (toMessage e) = .ok payload ∧
          world.shared.orders.row payload.holdId = some order ∧ order.id = payload.orderId ∧
          order.eventId = payload.eventId ∧ order.seatId = payload.seatId ∧
          order.userId = payload.userId) ∧
      (∀ t id e, world.point t = .failed id e →
        (∃ orderId, e = .seatNotHeld orderId) ∨ ∃ message, e = .service message) ∧
      (∀ t c holdId world' id, step digests world (.act t c) = some world' →
        (world.point t).settles = some holdId →
        world'.shared.seats id ≠ world.shared.seats id ∨
          world'.shared.rowLock id = some t ∧ world.shared.rowLock id ≠ some t →
        ∃ order, world.shared.orders.row holdId = some order ∧ order.seatId = id ∧
          world.shared.seats id = some ⟨order.eventId, .HELD⟩)) := by
  refine ⟨?_, fun world hreach => ⟨?_, ?_, ?_⟩⟩
  · intro world t order eventId world' hpoint h
    obtain ⟨r, hact, rfl⟩ := act_step h hpoint rfl
    exact appendEvent_entries hact
  · intro e he
    obtain ⟨payload, hread, order, hrow, hid, hevent, hseat, huser⟩ :=
      (reach_valid hinit hreach).1.carried e he
    exact ⟨payload, order, hread, hrow, hid, hevent, hseat, huser⟩
  · intro t id e hpoint
    have hknown := reach_known hinit hreach t
    rw [hpoint] at hknown
    cases e with
    | seatNotHeld orderId => exact .inl ⟨orderId, rfl⟩
    | service message => exact .inr ⟨message, rfl⟩
    | _ => cases hknown
  · intro t c holdId world' id h hf hwrite
    exact settle_step (reach_valid hinit hreach) h hf hwrite

theorem order_events_decode_purchase :
    ∃ world e payload order,
      (engine fun _ => true).run oneSeat (purchase "u" "h" "o") = some world ∧
      e ∈ world.shared.stream.entries ∧ readEvent (toMessage e) = .ok payload ∧
      world.shared.orders.row payload.holdId = some order ∧ order.seatId = payload.seatId := by
  have hsome : ((engine fun _ => true).run oneSeat (purchase "u" "h" "o")).isSome = true := by
    decide +kernel
  obtain ⟨world, hrun⟩ := Option.isSome_iff_exists.mp hsome
  have hlength : ((engine fun _ => true).run oneSeat (purchase "u" "h" "o")).map
      (fun world => world.shared.stream.entries.length) = some 1 := by decide +kernel
  rw [hrun] at hlength
  obtain ⟨e, he⟩ := List.exists_mem_of_length_pos
    (Nat.lt_of_lt_of_eq Nat.zero_lt_one (Option.some.inj hlength).symm)
  obtain ⟨payload, order, hread, hrow, -, -, hseat, -⟩ :=
    ((order_events_decode oneSeat_initial).2 world ⟨_, hrun⟩).1 e he
  exact ⟨world, e, payload, order, hrun, he, hread, hrow, hseat⟩

end Step

end TicketEngine
