import TicketEngine.System.Invariant

namespace TicketEngine

/-- What a seat's status says about its orders. -/
def LedgerAt (s : Store) (seatId : String) : SeatState → Prop
  | .AVAILABLE => (∀ o, ¬ ProcessingOn s seatId o) ∧ ∀ o, ¬ BookedOn s seatId o
  | .HELD => (∃! o, ProcessingOn s seatId o) ∧ ∀ o, ¬ BookedOn s seatId o
  | .SOLD => (∃! o, BookedOn s seatId o) ∧ ∀ o, ¬ ProcessingOn s seatId o

/-- The seat rows and the orders agree. -/
def Ledger (s : Store) : Prop :=
  ∀ seatId eventId status, s.seats seatId = some ⟨eventId, status⟩ → LedgerAt s seatId status

/-- The step is the last statement of a `releaseSeat` call. -/
def FreesRow (world : World) (l : Label) (request : HoldSeatRequest) (holdId : String) : Prop :=
  ∃ t id, l = .act t (.ok id) ∧ world.point t = .freeRow request holdId

/-- When `releaseSeat` updates the seat row, no order on it is PROCESSING. -/
def FreesNoOrder (world : World) (l : Label) (_ : World) : Prop :=
  ∀ request holdId, FreesRow world l request holdId →
    ∀ o, ProcessingOn world.shared request.seatId o → o.eventId ≠ request.eventId

/-- `releaseSeat` does not make a seat AVAILABLE that an order of another hold has marked. -/
def FreesOwnMark (world : World) (l : Label) (world' : World) : Prop :=
  ∀ request holdId, FreesRow world l request holdId →
    world.shared.seats request.seatId = some ⟨request.eventId, .HELD⟩ →
    world'.shared.seats request.seatId = some ⟨request.eventId, .AVAILABLE⟩ →
    ∀ o, ProcessingOn world.shared request.seatId o → o.eventId = request.eventId →
      o.holdId = holdId

section Orders

variable {s s' : Store} {status : OrderStatus} {seatId : String} {o : Order}

theorem orderOn_congr (h : s'.orders = s.orders) :
    OrderOn status s' seatId o ↔ OrderOn status s seatId o := by
  unfold OrderOn
  rw [h]

theorem orderOn_insert {order : Order} (h : s'.orders = s.orders.insert order)
    (hfresh : s.orders.row order.holdId = none) :
    OrderOn status s' seatId o ↔
      (o = order ∧ order.seatId = seatId ∧ order.status = status) ∨
        OrderOn status s seatId o := by
  unfold OrderOn
  rw [h, insert_row]
  constructor
  · intro hall
    obtain ⟨hrow, hseat, hst⟩ := hall
    split_ifs at hrow with hk
    · cases hrow
      exact .inl ⟨rfl, hseat, hst⟩
    · exact .inr ⟨hrow, hseat, hst⟩
  · intro hall
    rcases hall with ⟨rfl, hseat, hst⟩ | ⟨hrow, hseat, hst⟩
    · exact ⟨if_pos rfl, hseat, hst⟩
    · refine ⟨?_, hseat, hst⟩
      rw [if_neg, hrow]
      intro hk
      rw [hk, hfresh] at hrow
      cases hrow

theorem orderOn_book {holdId : String} {p : Order} (h : s'.orders = s.orders.book holdId)
    (hp : s.orders.row holdId = some p) :
    OrderOn status s' seatId o ↔
      (o = { p with status := .BOOKED } ∧ p.seatId = seatId ∧ status = .BOOKED) ∨
        (OrderOn status s seatId o ∧ o.holdId ≠ holdId) := by
  have hkey : p.holdId = holdId := s.orders.keyed hp
  unfold OrderOn
  rw [h, book_row, hp]
  constructor
  · intro hall
    obtain ⟨hrow, hseat, hst⟩ := hall
    split_ifs at hrow with hk
    · cases hrow
      exact .inl ⟨rfl, hseat, hst.symm⟩
    · exact .inr ⟨⟨hrow, hseat, hst⟩, hk⟩
  · intro hall
    rcases hall with ⟨rfl, hseat, rfl⟩ | ⟨⟨hrow, hseat, hst⟩, hk⟩
    · exact ⟨if_pos hkey, hseat, rfl⟩
    · exact ⟨by rw [if_neg hk, hrow], hseat, hst⟩

theorem orderOn_seated (hs : Sound s) (ho : OrderOn status s seatId o) :
    ∃ seat, s.seats seatId = some ⟨o.eventId, seat⟩ := by
  rw [← ho.2.1]
  exact hs.seated ho.1

end Orders

section Step

variable {digests : ScriptDigests} {world world' : World} {s s' : Store}

theorem ledgerAt_congr (h : s'.orders = s.orders) {seatId : String} {status : SeatState} :
    LedgerAt s' seatId status ↔ LedgerAt s seatId status := by
  cases status <;> simp only [LedgerAt, orderOn_congr h]

theorem Ledger.congr (hl : Ledger s) (hseats : s'.seats = s.seats)
    (horders : s'.orders = s.orders) : Ledger s' := by
  intro seatId eventId status hrow
  rw [hseats] at hrow
  exact (ledgerAt_congr horders).mpr (hl seatId eventId status hrow)

/-- A commit of `createOrder` turns an empty AVAILABLE seat into a HELD one with one order. -/
theorem Ledger.place (hl : Ledger s) {order : Order} (hst : order.status = .PROCESSING)
    (hfresh : s.orders.row order.holdId = none)
    (hrow : s.seats order.seatId = some ⟨order.eventId, .AVAILABLE⟩)
    (hseats : s'.seats = Function.update s.seats order.seatId (some ⟨order.eventId, .HELD⟩))
    (horders : s'.orders = s.orders.insert order) : Ledger s' := by
  intro seatId eventId status hrow'
  rw [hseats, Function.update_apply] at hrow'
  split_ifs at hrow' with hk
  · subst hk
    obtain ⟨hp, hb⟩ := hl _ _ _ hrow
    cases hrow'
    refine ⟨⟨order, (orderOn_insert horders hfresh).mpr (.inl ⟨rfl, rfl, hst⟩), ?_⟩, ?_⟩
    · intro o ho
      rcases (orderOn_insert horders hfresh).mp ho with ⟨rfl, -⟩ | ho
      · rfl
      · exact absurd ho (hp o)
    · intro o ho
      rcases (orderOn_insert horders hfresh).mp ho with ⟨-, -, hb'⟩ | ho
      · rw [hst] at hb'
        cases hb'
      · exact hb o ho
  · have same {st : OrderStatus} {o : Order} : OrderOn st s' seatId o ↔ OrderOn st s seatId o := by
      rw [orderOn_insert horders hfresh]
      exact ⟨fun h => h.resolve_left fun h => hk h.2.1.symm, .inr⟩
    have hat := hl _ _ _ hrow'
    cases status <;> simpa only [LedgerAt, same] using hat

/-- A commit of `settleOrder` turns the one order of a HELD seat into its BOOKED one. -/
theorem Ledger.book (hs : Sound s) (hl : Ledger s) {holdId seatId eventId : String} {p : Order}
    (hp : s.orders.row holdId = some p) (hseat : p.seatId = seatId)
    (hrow : s.seats seatId = some ⟨eventId, .HELD⟩)
    (hseats : s'.seats = Function.update s.seats seatId (some ⟨eventId, .SOLD⟩))
    (horders : s'.orders = s.orders.book holdId) : Ledger s' := by
  have hkey : p.holdId = holdId := s.orders.keyed hp
  obtain ⟨⟨q, hq, honly⟩, hb⟩ := hl _ _ _ hrow
  have hon (st : OrderStatus) (hst : p.status = st) : OrderOn st s seatId p :=
    ⟨by rw [hkey]; exact hp, hseat, hst⟩
  have hpq : p = q := by
    rcases hs.status hp with hst | hst
    · exact honly p (hon _ hst)
    · exact absurd (hon _ hst) (hb p)
  intro id e status hrow'
  rw [hseats, Function.update_apply] at hrow'
  split_ifs at hrow' with hk
  · subst hk
    cases hrow'
    refine ⟨⟨{ p with status := .BOOKED },
      (orderOn_book horders hp).mpr (.inl ⟨rfl, hseat, rfl⟩), ?_⟩, ?_⟩
    · intro o ho
      rcases (orderOn_book horders hp).mp ho with ⟨rfl, -⟩ | ⟨ho, -⟩
      · rfl
      · exact absurd ho (hb o)
    · intro o ho
      rcases (orderOn_book horders hp).mp ho with ⟨-, -, hst⟩ | ⟨ho, hne⟩
      · cases hst
      · rw [honly o ho, ← hpq] at hne
        exact hne hkey
  · have same {st : OrderStatus} {o : Order} : OrderOn st s' id o ↔ OrderOn st s id o := by
      rw [orderOn_book horders hp]
      constructor
      · intro h
        rcases h with ⟨-, hid, -⟩ | ⟨ho, -⟩
        · exact absurd (hid.symm.trans hseat) hk
        · exact ho
      · intro ho
        refine .inr ⟨ho, fun heq => hk ?_⟩
        have hrow₁ := ho.1
        rw [heq, hp] at hrow₁
        cases hrow₁
        exact ho.2.1.symm.trans hseat
    have hat := hl _ _ _ hrow'
    cases status <;> simpa only [LedgerAt, same] using hat

/-- The last statement of `releaseSeat`, if it is executed at all. -/
theorem freeRow_act {t : Thread} {c : Choice} {request : HoldSeatRequest} {holdId : String}
    (h : step digests world (.act t c) = some world')
    (hf : world.point t = .freeRow request holdId) :
    (∃ id, c = .ok id ∧
      world.shared.freeRow request.eventId request.seatId = some world'.shared) ∨
    (∃ message, c = .fail message) ∧ world'.shared = world.shared := by
  obtain ⟨p, hp, rfl⟩ := act_step h hf rfl
  cases c with
  | fail message => cases hp; exact .inr ⟨⟨message, rfl⟩, rfl⟩
  | ok id =>
    obtain ⟨s', hs', rfl⟩ := Option.map_eq_some_iff.mp hp
    exact .inl ⟨id, rfl, hs'⟩

theorem processing_held (hs : Sound s) (hl : Ledger s) {seatId : String} {o : Order}
    (ho : ProcessingOn s seatId o) : s.seats seatId = some ⟨o.eventId, .HELD⟩ := by
  obtain ⟨seat, hrow⟩ := orderOn_seated hs ho
  have hat := hl _ _ _ hrow
  cases seat with
  | AVAILABLE => exact absurd ho (hat.1 o)
  | HELD => exact hrow
  | SOLD => exact absurd ho (hat.2 o)

/-- A step keeps the ledger exactly when it frees no seat with a PROCESSING order. -/
theorem ledger_step {l : Label} (hv : outline.Valid world) (hl : Ledger world.shared)
    (h : step digests world l = some world') :
    Ledger world'.shared ↔ FreesNoOrder world l world' := by
  obtain ⟨-, ⟨t, c, rfl, hchange⟩ | ⟨hne, hquiet⟩⟩ := step_cases hv h
  · constructor
    · intro hl' request holdId hall o ho hevent
      obtain ⟨u, id, heq, hf⟩ := hall
      cases heq
      have hheld := processing_held hv.1 hl ho
      rw [hevent] at hheld
      obtain ⟨id', -, hfree⟩ | ⟨⟨message, hfail⟩, -⟩ := freeRow_act h hf
      · unfold Store.freeRow at hfree
        rw [if_pos hheld] at hfree
        split_ifs at hfree
        have heq := Option.some.inj hfree
        have hat := hl' request.seatId request.eventId .AVAILABLE
          (by rw [← heq]; exact Function.update_self ..)
        exact hat.1 o ((orderOn_congr (by rw [← heq])).mpr ho)
      · cases hfail
    · intro hc
      cases hchange.rows with
      | same hseats horders => exact hl.congr hseats horders
      | place order u _ _ hfresh howns hst hseats horders =>
        exact hl.place hst hfresh.2 howns.2 hseats horders
      | book _ payload u _ _ howns hplaced hseats horders =>
        obtain ⟨p, hp, -, -, hseat, -⟩ := hplaced
        exact hl.book hv.1 hp hseat howns.2 hseats horders
      | free request holdId hf hrow hlock hseats horders =>
        obtain ⟨id, rfl, -⟩ | ⟨-, hsame⟩ := freeRow_act h hf
        · obtain ⟨⟨o, ho, -⟩, -⟩ := hl _ _ _ hrow
          have hevent := processing_held hv.1 hl ho
          rw [hrow] at hevent
          simp only [Option.some.injEq, Seat.mk.injEq] at hevent
          exact absurd hevent.1.symm (hc request holdId ⟨t, id, rfl, hf⟩ o ho)
        · rw [hsame]
          exact hl
  · constructor
    · intro _ request holdId hall
      obtain ⟨t, id, rfl, -⟩ := hall
      exact absurd rfl (hne t _)
    · intro _
      exact hl.congr hquiet.seats hquiet.orders

end Step

theorem initial_ledger {world : World} (hinit : Initial world)
    (havailable : ∀ seatId seat, world.shared.seats seatId = some seat → seat.status = .AVAILABLE) :
    Ledger world.shared := by
  intro seatId eventId status hrow
  have hnone (st : OrderStatus) (o : Order) : ¬ OrderOn st world.shared seatId o := by
    intro ho
    have hrow := ho.1
    rw [hinit.orders] at hrow
    cases hrow
  have hst : status = .AVAILABLE := havailable seatId _ hrow
  subst hst
  exact ⟨hnone _, hnone _⟩

/-- The ledger is right in every state of a run, and no release takes another order's mark,
exactly when no release updates the row of a seat with a PROCESSING order. -/
theorem seat_ledger_iff {digests : ScriptDigests} {world₀ : World} (hinit : Initial world₀)
    (havailable : ∀ seatId seat, world₀.shared.seats seatId = some seat →
      seat.status = .AVAILABLE) (ls : List Label) :
    ((engine digests).Every (fun world => Ledger world.shared) world₀ ls ∧
        (engine digests).Along FreesOwnMark world₀ ls) ↔
      (engine digests).Along FreesNoOrder world₀ ls := by
  have hiff := Machine.every_iff_along (engine digests) (J := outline.Valid)
    (P := fun world => Ledger world.shared) (C := FreesNoOrder) (valid_step digests)
    (fun _ _ _ hv hl h => ledger_step hv hl h) ls (initial_valid hinit)
    (initial_ledger hinit havailable)
  rw [hiff]
  refine ⟨And.left, fun hc => ⟨hc, Machine.Along.mono _ ?_ hc⟩⟩
  intro world l world' hc request holdId hfrees _ _ o ho hevent
  exact absurd hevent (hc request holdId hfrees o ho)

/-- Between the release of hold `h1` in Redis and the update of the row, another user orders
the seat. -/
def releaseRace : List Label :=
  [.holdSeat 0 (requestOf "u1")] ++ acts (.call 0) ["h1", "", "", "held-event"] ++
    [.releaseSeat 1 (requestOf "u1") "h1"] ++ acts (.call 1) ["", "", ""] ++
    [.createOrder 2 (requestOf "u2")] ++ acts (.call 2) ["h2", "", "", "", "o2", ""] ++
    acts (.call 1) [""]

theorem seat_ledger_fails_releaseRace :
    ∃ world, (engine fun _ => true).run oneSeat releaseRace = some world ∧
      world.shared.seats "s" = some ⟨"e", .AVAILABLE⟩ ∧
      (∃ o, ProcessingOn world.shared "s" o ∧ o.holdId = "h2") ∧ ¬ Ledger world.shared := by
  have hsome : ((engine fun _ => true).run oneSeat releaseRace).isSome = true := by decide +kernel
  obtain ⟨world, hrun⟩ := Option.isSome_iff_exists.mp hsome
  have hview : ((engine fun _ => true).run oneSeat releaseRace).map
      (fun world => (world.shared.seats "s", world.shared.orders.row "h2")) =
      some (some ⟨"e", .AVAILABLE⟩,
        some ⟨"o2", "h2", "e", "s", "u2", 600000, .PROCESSING⟩) := by decide +kernel
  rw [hrun] at hview
  obtain ⟨hseat, hrow⟩ := Prod.mk.inj (Option.some.inj hview)
  have ho : ProcessingOn world.shared "s" ⟨"o2", "h2", "e", "s", "u2", 600000, .PROCESSING⟩ :=
    ⟨hrow, rfl, rfl⟩
  exact ⟨world, hrun, hseat, ⟨_, ho, rfl⟩, fun hl => (hl "s" "e" .AVAILABLE hseat).1 _ ho⟩

theorem seat_ledger_iff_oneSeat :
    ((engine fun _ => true).Every (fun world => Ledger world.shared) oneSeat releaseRace ∧
        (engine fun _ => true).Along FreesOwnMark oneSeat releaseRace) ↔
      (engine fun _ => true).Along FreesNoOrder oneSeat releaseRace := by
  refine seat_ledger_iff oneSeat_initial (fun seatId seat h => ?_) releaseRace
  simp only [oneSeat] at h
  split_ifs at h
  rw [← Option.some.inj h]

end TicketEngine
