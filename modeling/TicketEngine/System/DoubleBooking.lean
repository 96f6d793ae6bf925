import TicketEngine.Framework.Refinement
import TicketEngine.System.Invariant

namespace TicketEngine

theorem bookedOn_unique {s : Store} (hs : Sound s) {seatId : String} {o p : Order}
    (ho : BookedOn s seatId o) (hp : BookedOn s seatId p) : o = p := by
  have hkey := hs.single ho.1 hp.1 ho.2.2 hp.2.2 (ho.2.1.trans hp.2.1.symm)
  have hrow := ho.1
  rw [hkey, hp.1] at hrow
  exact (Option.some.inj hrow).symm

theorem bookedOn_sold {s : Store} (hs : Sound s) {seatId : String} {o : Order}
    (ho : BookedOn s seatId o) : s.seats seatId = some ⟨o.eventId, .SOLD⟩ := by
  rw [← ho.2.1]
  exact hs.sold ho.1 ho.2.2

theorem bookedOn_kept {f : Frame} {mine : Thread → Prop} {s s' : Store} (h : Rows f mine s s')
    {seatId : String} {o : Order} (ho : BookedOn s seatId o) : BookedOn s' seatId o := by
  have hsame : ({ o with status := .BOOKED } : Order) = o := by rw [← ho.2.2]
  rcases h.kept ho.1 with hrow | hrow
  · exact ⟨hrow, ho.2⟩
  · rw [hsame] at hrow
    exact ⟨hrow, ho.2⟩

/-! ## The book of sales -/

open Classical in
/-- Which hold each seat is sold to. -/
noncomputable def sales (s : Store) (seatId : String) : Option String :=
  if h : ∃ o, BookedOn s seatId o then some h.choose.holdId else none

theorem sales_of_booked {s : Store} (hs : Sound s) {seatId : String} {o : Order}
    (ho : BookedOn s seatId o) : sales s seatId = some o.holdId := by
  have h : ∃ o, BookedOn s seatId o := ⟨o, ho⟩
  rw [sales, dif_pos h, bookedOn_unique hs h.choose_spec ho]

theorem sales_eq_none {s : Store} {seatId : String} (h : ∀ o, ¬ BookedOn s seatId o) :
    sales s seatId = none := by
  rw [sales, dif_neg fun ⟨o, ho⟩ => h o ho]

/-- A booked order is an old one, or its seat was HELD before. -/
theorem bookedOn_origin {f : Frame} {mine : Thread → Prop} {s s' : Store}
    (h : Rows f mine s s') {seatId : String} {o : Order} (ho : BookedOn s' seatId o) :
    BookedOn s seatId o ∨ s.seats seatId = some ⟨o.eventId, .HELD⟩ := by
  rcases h.origin ho.1 with hrow | ⟨hst, -⟩ | ⟨-, -, hheld, -⟩
  · exact .inl ⟨hrow, ho.2⟩
  · rw [ho.2.2] at hst
    cases hst
  · rw [ho.2.1] at hheld
    exact .inr hheld

/-- A step writes at most one line of the book, at a seat that has none. -/
theorem sales_step {f : Frame} {mine : Thread → Prop} {s s' : Store} (hs : Sound s)
    (hs' : Sound s') (h : Rows f mine s s') :
    (writeOnce String String).Reach (sales s) (sales s') := by
  have same (hsame : ∀ seatId o, BookedOn s' seatId o → BookedOn s seatId o) :
      (writeOnce String String).Reach (sales s) (sales s') := by
    have heq : sales s' = sales s := by
      funext seatId
      by_cases hb : ∃ o, BookedOn s seatId o
      · obtain ⟨o, ho⟩ := hb
        rw [sales_of_booked hs ho, sales_of_booked hs' (bookedOn_kept h ho)]
      · rw [sales_eq_none fun o ho => hb ⟨o, ho⟩,
          sales_eq_none fun o ho => hb ⟨o, hsame seatId o ho⟩]
    rw [heq]
    exact Machine.Reach.refl _ _
  by_cases hnew : ∃ seatId o, BookedOn s' seatId o ∧ ¬ BookedOn s seatId o
  · obtain ⟨seatId, o, ho, hno⟩ := hnew
    have hheld : s.seats seatId = some ⟨o.eventId, .HELD⟩ :=
      (bookedOn_origin h ho).resolve_left hno
    have hfree : sales s seatId = none := by
      refine sales_eq_none fun p hp => ?_
      have hsold := bookedOn_sold hs hp
      rw [hheld] at hsold
      simp at hsold
    have hsold := bookedOn_sold hs' ho
    have heq : sales s' = Function.update (sales s) seatId (some o.holdId) := by
      funext id
      by_cases hid : id = seatId
      · subst hid
        rw [Function.update_self, sales_of_booked hs' ho]
      · rw [Function.update_of_ne hid]
        by_cases hb : ∃ p, BookedOn s id p
        · obtain ⟨p, hp⟩ := hb
          rw [sales_of_booked hs hp, sales_of_booked hs' (bookedOn_kept h hp)]
        · rw [sales_eq_none fun p hp => hb ⟨p, hp⟩]
          refine sales_eq_none fun p hp => ?_
          -- one commit changes one seat row
          have hother : s.seats id = some ⟨p.eventId, .HELD⟩ :=
            (bookedOn_origin h hp).resolve_left fun hp' => hb ⟨p, hp'⟩
          have hkept := h.one_seat (by rw [hheld, hsold]; simp) hid
          rw [bookedOn_sold hs' hp, hother] at hkept
          simp at hkept
    rw [heq]
    exact writeOnce_write hfree
  · exact same fun seatId o ho => by
      by_contra hno
      exact hnew ⟨seatId, o, ho, hno⟩

/-- The engine writes its sales into a write-once book. -/
noncomputable def saleBook (digests : ScriptDigests) :
    (engine digests).Refinement (writeOnce String String) where
  inv := outline.Valid
  abs world := sales world.shared
  keeps := valid_step digests
  simulates world l world' hv h := by
    obtain ⟨hv', ⟨t, c, -, hchange⟩ | ⟨-, hquiet⟩⟩ := step_cases hv h
    · exact sales_step hv.1 hv'.1 hchange.rows
    · exact sales_step hv.1 hv'.1 hquiet.rows

variable {digests : ScriptDigests} {world₀ world world' : World}

/-- A sale stands in every later state. -/
theorem sale_stands (hv : outline.Valid world) {seatId holdId : String}
    (hsale : sales world.shared seatId = some holdId)
    (h : (engine digests).Reach world world') : sales world'.shared seatId = some holdId :=
  writeOnce_kept ((saleBook digests).reach hv h) hsale

/-! ## No double booking -/

/-- Every SOLD row has its order. -/
def SoldHasOrder (s : Store) : Prop :=
  ∀ seatId eventId, s.seats seatId = some ⟨eventId, .SOLD⟩ → ∃ o, BookedOn s seatId o

theorem soldHasOrder_rows {f : Frame} {mine : Thread → Prop} {s s' : Store}
    (h : Rows f mine s s') (hsold : SoldHasOrder s) : SoldHasOrder s' := by
  intro seatId eventId hrow
  have old (hrow : s.seats seatId = some ⟨eventId, .SOLD⟩) : ∃ o, BookedOn s' seatId o := by
    obtain ⟨o, ho⟩ := hsold seatId eventId hrow
    exact ⟨o, bookedOn_kept h ho⟩
  have other {id e : String} {status : SeatState} (hne : status ≠ .SOLD)
      (hseats : s'.seats = Function.update s.seats id (some ⟨e, status⟩)) :
      ∃ o, BookedOn s' seatId o := by
    rw [hseats, Function.update_apply] at hrow
    split_ifs at hrow
    · simp only [Option.some.injEq, Seat.mk.injEq] at hrow
      exact absurd hrow.2 hne
    · exact old hrow
  cases h with
  | same hseats _ => rw [hseats] at hrow; exact old hrow
  | place _ _ _ _ _ _ _ hseats _ => exact other (by decide) hseats
  | free _ _ _ _ _ hseats _ => exact other (by decide) hseats
  | book _ payload _ _ _ _ hplaced hseats horders =>
    rw [hseats, Function.update_apply] at hrow
    split_ifs at hrow with hk
    · obtain ⟨o, ho, -, -, hos, -⟩ := hplaced
      have hrow' : s'.orders.row payload.holdId = some { o with status := .BOOKED } := by
        rw [horders, book_row, if_pos rfl, ho]
        rfl
      have hkey := s'.orders.keyed hrow'
      rw [← hkey] at hrow'
      exact ⟨{ o with status := .BOOKED }, hrow', hos.trans hk.symm, rfl⟩
    · exact old hrow

theorem reach_soldHasOrder (hv : outline.Valid world) (hsold : SoldHasOrder world.shared)
    (h : (engine digests).Reach world world') : SoldHasOrder world'.shared := by
  refine (Machine.Reach.invariant _ (I := fun w => outline.Valid w ∧ SoldHasOrder w.shared)
    ?_ ⟨hv, hsold⟩ h).2
  intro w l w' hall hstep
  obtain ⟨hv, hsold⟩ := hall
  obtain ⟨hv', ⟨t, c, -, hchange⟩ | ⟨-, hquiet⟩⟩ := step_cases hv hstep
  · exact ⟨hv', soldHasOrder_rows hchange.rows hsold⟩
  · exact ⟨hv', soldHasOrder_rows hquiet.rows hsold⟩

theorem reach_bookedOn (hv : outline.Valid world) {seatId : String} {o : Order}
    (ho : BookedOn world.shared seatId o) (h : (engine digests).Reach world world') :
    BookedOn world'.shared seatId o := by
  refine (Machine.Reach.invariant _
    (I := fun w => outline.Valid w ∧ BookedOn w.shared seatId o) ?_ ⟨hv, ho⟩ h).2
  intro w l w' hall hstep
  obtain ⟨hv, ho⟩ := hall
  obtain ⟨hv', ⟨t, c, -, hchange⟩ | ⟨-, hquiet⟩⟩ := step_cases hv hstep
  · exact ⟨hv', bookedOn_kept hchange.rows ho⟩
  · exact ⟨hv', bookedOn_kept hquiet.rows ho⟩

/-- No double booking: at most one order is BOOKED on a seat, its seat is SOLD, and a SOLD seat
stays SOLD to the same single order for ever. -/
theorem no_double_booking (hinit : Initial world₀)
    (hunsold : ∀ seatId eventId, world₀.shared.seats seatId ≠ some ⟨eventId, .SOLD⟩)
    (h : (engine digests).Reach world₀ world) (seatId : String) :
    (∀ o p, BookedOn world.shared seatId o → BookedOn world.shared seatId p → o = p) ∧
    (∀ o, BookedOn world.shared seatId o →
      world.shared.seats seatId = some ⟨o.eventId, .SOLD⟩) ∧
    (∀ eventId, world.shared.seats seatId = some ⟨eventId, .SOLD⟩ →
      ∃ o, BookedOn world.shared seatId o ∧
        ∀ world', (engine digests).Reach world world' →
          world'.shared.seats seatId = some ⟨eventId, .SOLD⟩ ∧
          ∀ p, BookedOn world'.shared seatId p ↔ p = o) := by
  have hv := reach_valid hinit h
  have hsold : SoldHasOrder world.shared :=
    reach_soldHasOrder (initial_valid hinit) (fun s e hrow => absurd hrow (hunsold s e)) h
  refine ⟨fun o p => bookedOn_unique hv.1, fun o => bookedOn_sold hv.1, fun eventId hrow => ?_⟩
  obtain ⟨o, ho⟩ := hsold seatId eventId hrow
  refine ⟨o, ho, fun world' h' => ?_⟩
  have hv' := reach_valid hinit (Machine.Reach.trans _ h h')
  have ho' := reach_bookedOn hv ho h'
  constructor
  · have hevent := bookedOn_sold hv.1 ho
    rw [hrow] at hevent
    rw [bookedOn_sold hv'.1 ho', Option.some.inj hevent]
  · exact fun p => ⟨fun hp => bookedOn_unique hv'.1 hp ho', fun hp => hp ▸ ho'⟩

theorem no_double_booking_purchase :
    ∃ world, (engine fun _ => true).run oneSeat (purchase "u" "h" "o") = some world ∧
      world.shared.seats "s" = some ⟨"e", .SOLD⟩ ∧
      ∃ o, ∀ world', (engine fun _ => true).Reach world world' →
        ∀ p, BookedOn world'.shared "s" p ↔ p = o := by
  have hsome : ((engine fun _ => true).run oneSeat (purchase "u" "h" "o")).isSome = true := by
    decide +kernel
  obtain ⟨world, hrun⟩ := Option.isSome_iff_exists.mp hsome
  have hrow : ((engine fun _ => true).run oneSeat (purchase "u" "h" "o")).map
      (fun world => world.shared.seats "s") = some (some ⟨"e", .SOLD⟩) := by decide +kernel
  rw [hrun] at hrow
  have hsold : world.shared.seats "s" = some ⟨"e", .SOLD⟩ := Option.some.inj hrow
  have hunsold : ∀ seatId eventId, oneSeat.shared.seats seatId ≠ some ⟨eventId, .SOLD⟩ := by
    intro seatId eventId
    simp only [oneSeat]
    split_ifs <;> simp
  obtain ⟨-, -, h⟩ := no_double_booking oneSeat_initial hunsold ⟨_, hrun⟩ "s"
  obtain ⟨o, -, ho⟩ := h "e" hsold
  exact ⟨world, hrun, hsold, o, fun world' h' => (ho world' h').2⟩

end TicketEngine
