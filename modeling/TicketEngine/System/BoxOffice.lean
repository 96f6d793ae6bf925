import TicketEngine.Framework.Refinement
import TicketEngine.System.Invariant
import Mathlib.Data.Set.Card

namespace TicketEngine

/-- The seat and the order table, as one transaction after the other finds them. -/
structure BoxOffice where
  seats : String → Option Seat
  orders : OrderTable

inductive Transaction
  | place (order : Order)
  | book (holdId : String)
  | free (eventId seatId : String)
  deriving DecidableEq

namespace BoxOffice

/-- A transaction at once: a free seat is given to a new order, the seat of an order in progress
is sold, a seat that is held is given back. -/
def perform (b : BoxOffice) : Transaction → Option BoxOffice
  | .place order =>
    if b.seats order.seatId = some ⟨order.eventId, .AVAILABLE⟩ ∧
        b.orders.row order.holdId = none ∧ order.status = .PROCESSING then
      some ⟨Function.update b.seats order.seatId (some ⟨order.eventId, .HELD⟩),
        b.orders.insert order⟩
    else none
  | .book holdId =>
    match b.orders.row holdId with
    | none => none
    | some order =>
      if b.seats order.seatId = some ⟨order.eventId, .HELD⟩ ∧ order.status = .PROCESSING then
        some ⟨Function.update b.seats order.seatId (some ⟨order.eventId, .SOLD⟩),
          b.orders.book holdId⟩
      else none
  | .free eventId seatId =>
    if b.seats seatId = some ⟨eventId, .HELD⟩ then
      some ⟨Function.update b.seats seatId (some ⟨eventId, .AVAILABLE⟩), b.orders⟩
    else none

end BoxOffice

def boxOffice : Machine BoxOffice Transaction where
  step := BoxOffice.perform

theorem boxOffice_single (b : BoxOffice) (transaction : Transaction) :
    boxOffice.run b [transaction] = b.perform transaction := by
  rw [Machine.run_cons]
  exact Option.bind_fun_some _

/-! ## The engine as a box office -/

def Store.rows (s : Store) : BoxOffice := ⟨s.seats, s.orders⟩

/-- The transaction that a command commits. -/
def Frame.commits (s : Store) : Frame → Choice → Option Transaction
  | .commitOrder order, .ok _ => some (.place order)
  | .commitBooking _ payload, .ok _ => some (.book payload.holdId)
  | .freeRow request _, .ok _ =>
    if s.seats request.seatId = some ⟨request.eventId, .HELD⟩ then
      some (.free request.eventId request.seatId)
    else none
  | _, _ => none

def World.commits (world : World) : Label → Option Transaction
  | .act t c => (world.point t).commits world.shared c
  | _ => none

/-- The transactions of a run in the order of their commits. -/
def history (digests : ScriptDigests) (world : World) (ls : List Label) : List Transaction :=
  (engine digests).trace World.commits world ls

section Commit

variable {digests : ScriptDigests} {world world' : World} {t : Thread} {c : Choice}

/-- Frames that commit nothing leave the rows alone. -/
theorem Rows.rows_same {f : Frame} {mine : Thread → Prop} {s s' : Store} (h : Rows f mine s s')
    (hplace : ∀ order, f ≠ .commitOrder order)
    (hbook : ∀ message payload, f ≠ .commitBooking message payload)
    (hfree : ∀ request holdId, f ≠ .freeRow request holdId) : s'.rows = s.rows := by
  cases h with
  | same hseats horders =>
    show (⟨s'.seats, s'.orders⟩ : BoxOffice) = ⟨s.seats, s.orders⟩
    rw [hseats, horders]
  | place order _ hf => exact absurd hf (hplace order)
  | book message payload _ hf => exact absurd hf (hbook message payload)
  | free request holdId hf => exact absurd hf (hfree request holdId)

/-- The row that `createOrder` has locked is AVAILABLE up to the commit. -/
theorem commitOrder_performs {order : Order} (hv : outline.Valid world)
    (hf : world.point t = .commitOrder order)
    (h : step digests world (.act t c) = some world') :
    boxOffice.run world.shared.rows (World.commits world (.act t c)).toList =
      some world'.shared.rows := by
  obtain ⟨p, hp, rfl⟩ := act_step h hf rfl
  have hholds := hv.2 t
  rw [hf] at hholds
  obtain ⟨hfresh, howns, hstatus⟩ := hholds
  have hrow : world.shared.rows.orders.row order.holdId = none := hfresh.2
  have hseat : world.shared.rows.seats order.seatId = some ⟨order.eventId, .AVAILABLE⟩ := howns.2
  cases c with
  | fail message =>
    cases hp
    simp only [World.commits, Frame.commits, hf, Option.toList_none]
    rfl
  | ok id =>
    cases hp
    simp only [World.commits, Frame.commits, hf, Option.toList_some]
    rw [boxOffice_single, BoxOffice.perform, if_pos ⟨hseat, hrow, hstatus⟩]
    rfl

/-- The row that `settleOrder` has locked is HELD up to the commit, and the order that it books is
on that seat. -/
theorem commitBooking_performs {message : RedisStreamMessage} {payload : OrderCreatedEventPayload}
    (hv : outline.Valid world) (hf : world.point t = .commitBooking message payload)
    (h : step digests world (.act t c) = some world') :
    boxOffice.run world.shared.rows (World.commits world (.act t c)).toList =
      some world'.shared.rows := by
  obtain ⟨p, hp, rfl⟩ := act_step h hf rfl
  have hholds := hv.2 t
  rw [hf] at hholds
  obtain ⟨hdelivered, howns⟩ := hholds
  have hsound : Sound world.shared := hv.1
  obtain ⟨order, hrow, -, hevent, hseat, -⟩ := hsound.placed hdelivered
  have hheld : world.shared.rows.seats order.seatId = some ⟨order.eventId, .HELD⟩ := by
    rw [hevent, hseat]
    exact howns.2
  have hprocessing : order.status = .PROCESSING := by
    apply (hsound.status hrow).resolve_right
    intro hbooked
    have hsold := hsound.sold hrow hbooked
    rw [show world.shared.seats order.seatId = _ from hheld] at hsold
    simp at hsold
  have hfound : world.shared.rows.orders.row payload.holdId = some order := hrow
  cases c with
  | fail message =>
    cases hp
    simp only [World.commits, Frame.commits, hf, Option.toList_none]
    rfl
  | ok id =>
    cases hp
    simp only [World.commits, Frame.commits, hf, Option.toList_some]
    rw [boxOffice_single, BoxOffice.perform, hfound]
    simp only
    rw [if_pos ⟨hheld, hprocessing⟩, hevent, hseat]
    rfl

theorem freeRow_performs {request : HoldSeatRequest} {holdId : String}
    (hf : world.point t = .freeRow request holdId)
    (h : step digests world (.act t c) = some world') :
    boxOffice.run world.shared.rows (World.commits world (.act t c)).toList =
      some world'.shared.rows := by
  obtain ⟨p, hp, rfl⟩ := act_step h hf rfl
  cases c with
  | fail message =>
    cases hp
    simp only [World.commits, Frame.commits, hf, Option.toList_none]
    rfl
  | ok id =>
    obtain ⟨s', hfree, rfl⟩ := Option.map_eq_some_iff.mp hp
    unfold Store.freeRow at hfree
    simp only [World.commits, Frame.commits, hf]
    split_ifs at hfree with hrow hlock
    · cases hfree
      have hheld : world.shared.rows.seats request.seatId = some ⟨request.eventId, .HELD⟩ := hrow
      rw [if_pos hrow, Option.toList_some, boxOffice_single, BoxOffice.perform, if_pos hheld]
      rfl
    · cases hfree
      rw [if_neg hrow]
      rfl

/-- Each step of the engine is the transaction that it commits, or none. -/
theorem step_performs {l : Label} (hv : outline.Valid world)
    (h : step digests world l = some world') :
    boxOffice.run world.shared.rows (world.commits l).toList = some world'.shared.rows := by
  have idle {l : Label} (hcommits : world.commits l = none)
      (hsame : world'.shared.rows = world.shared.rows) :
      boxOffice.run world.shared.rows (world.commits l).toList = some world'.shared.rows := by
    rw [hcommits, hsame]
    rfl
  obtain ⟨-, ⟨t, c, rfl, hchange⟩ | ⟨hother, hquiet⟩⟩ := step_cases hv h
  · cases hf : world.point t with
    | commitOrder order => exact commitOrder_performs hv hf h
    | commitBooking message payload => exact commitBooking_performs hv hf h
    | freeRow request holdId => exact freeRow_performs hf h
    | _ =>
      rw [hf] at hchange
      apply idle
      · simp only [World.commits, hf, Frame.commits]
      · exact hchange.rows.rows_same (by simp) (by simp) (by simp)
  · apply idle
    · cases l with
      | act t c => exact absurd rfl (hother t c)
      | _ => rfl
    · exact hquiet.rows.rows_same (by simp) (by simp) (by simp)

theorem run_performs {ls : List Label} (hv : outline.Valid world)
    (hrun : (engine digests).run world ls = some world') :
    boxOffice.run world.shared.rows (history digests world ls) = some world'.shared.rows :=
  Machine.run_trace (I := outline.Valid) (f := fun world => world.shared.rows)
    (valid_step digests) (fun _ _ _ hv hst => step_performs hv hst) hv hrun

/-- The interleaved statements are serializable: the rows at the end of a run are those that its
committed transactions leave when each is performed at once, in the order of the commits. -/
theorem engine_serializable {ls : List Label} (hinit : Initial world)
    (hrun : (engine digests).run world ls = some world') :
    boxOffice.run world.shared.rows (history digests world ls) = some world'.shared.rows :=
  run_performs (initial_valid hinit) hrun

/-- The order that a purchase of the one seat creates. -/
def boughtOrder : Order := ⟨"o", "h", "e", "s", "u", 600000, .PROCESSING⟩

theorem purchase_history :
    history (fun _ => true) oneSeat (purchase "u" "h" "o") =
      [.place boughtOrder, .book "h"] := by
  decide +kernel

theorem purchase_runs :
    ∃ world', (engine fun _ => true).run oneSeat (purchase "u" "h" "o") = some world' ∧
      world'.shared.seats "s" = some ⟨"e", .SOLD⟩ := by
  have hview : ((engine fun _ => true).run oneSeat (purchase "u" "h" "o")).map
      (fun world' => world'.shared.seats "s") = some (some ⟨"e", .SOLD⟩) := by
    decide +kernel
  exact Option.map_eq_some_iff.mp hview

theorem engine_serializable_purchase :
    ∃ world', (engine fun _ => true).run oneSeat (purchase "u" "h" "o") = some world' ∧
      boxOffice.run oneSeat.shared.rows [.place boughtOrder, .book "h"] =
        some world'.shared.rows := by
  obtain ⟨world', hrun, -⟩ := purchase_runs
  refine ⟨world', hrun, ?_⟩
  rw [← purchase_history]
  exact engine_serializable oneSeat_initial hrun

end Commit

/-! ## The orders of a seat -/

/-- 1 for a seat that cannot be ordered. -/
def SeatState.taken : SeatState → Nat
  | .AVAILABLE => 0
  | .HELD => 1
  | .SOLD => 1

namespace BoxOffice

def taken (b : BoxOffice) (seatId : String) : Nat :=
  match b.seats seatId with
  | some seat => seat.status.taken
  | none => 0

/-- The holds of all orders that were ever placed on a seat. -/
def ordersOf (b : BoxOffice) (seatId : String) : Set String :=
  {holdId | ∃ o, b.orders.row holdId = some o ∧ o.seatId = seatId}

end BoxOffice

def Transaction.frees (seatId : String) : Transaction → Bool
  | .free _ id => id = seatId
  | _ => false

section Balance

variable {b b' : BoxOffice} {seatId : String}

theorem taken_of_seat {eventId : String} {status : SeatState}
    (h : b.seats seatId = some ⟨eventId, status⟩) : b.taken seatId = status.taken := by
  unfold BoxOffice.taken
  rw [h]

theorem taken_write (b : BoxOffice) (id eventId : String) (status : SeatState)
    (orders : OrderTable) :
    BoxOffice.taken ⟨Function.update b.seats id (some ⟨eventId, status⟩), orders⟩ seatId =
      if seatId = id then status.taken else b.taken seatId := by
  simp only [BoxOffice.taken, Function.update_apply]
  split_ifs with hk
  · rfl
  · rfl

/-- A new order belongs to its seat and to no other. -/
theorem ordersOf_insert {seats : String → Option Seat} {order : Order}
    (hnew : b.orders.row order.holdId = none) :
    BoxOffice.ordersOf ⟨seats, b.orders.insert order⟩ seatId =
      if seatId = order.seatId then insert order.holdId (b.ordersOf seatId)
      else b.ordersOf seatId := by
  ext holdId
  have hnone (hk : holdId = order.holdId) :
      ¬ ∃ o, b.orders.row holdId = some o ∧ o.seatId = seatId := by
    rintro ⟨o, ho, -⟩
    rw [hk, hnew] at ho
    cases ho
  simp only [BoxOffice.ordersOf, Set.mem_ofPred_eq, insert_row]
  by_cases hk : holdId = order.holdId
  · simp only [if_pos hk]
    split_ifs with hseat
    · simp [hk, hseat]
    · simp only [Option.some.injEq, exists_eq_left']
      exact iff_of_false (fun h => hseat h.symm) (hnone hk)
  · simp only [if_neg hk]
    split_ifs with hseat
    · simp [hk]
    · rfl

theorem ordersOf_book {seats : String → Option Seat} (holdId : String) :
    BoxOffice.ordersOf ⟨seats, b.orders.book holdId⟩ seatId = b.ordersOf seatId := by
  ext key
  simp only [BoxOffice.ordersOf, Set.mem_ofPred_eq, book_row]
  split_ifs with hk
  · subst hk
    simp
  · rfl

/-- What one transaction does to the balance of a seat: orders placed on it against orders given
back. -/
theorem perform_balance {transaction : Transaction}
    (h : b.perform transaction = some b') (hfinite : (b.ordersOf seatId).Finite) :
    (b'.ordersOf seatId).Finite ∧
      (b'.ordersOf seatId).ncard + b.taken seatId =
        (b.ordersOf seatId).ncard + b'.taken seatId +
          (if transaction.frees seatId then 1 else 0) := by
  cases transaction with
  | place order =>
    simp only [BoxOffice.perform] at h
    split_ifs at h with hguard
    obtain ⟨hseat, hnew, -⟩ := hguard
    cases h
    rw [ordersOf_insert hnew, taken_write]
    by_cases hk : seatId = order.seatId
    · have hold : order.holdId ∉ b.ordersOf seatId := by
        rintro ⟨o, ho, -⟩
        rw [hnew] at ho
        cases ho
      have hfree : b.taken seatId = SeatState.taken .AVAILABLE := by
        rw [hk]
        exact taken_of_seat hseat
      rw [if_pos hk, if_pos hk, hfree, Set.ncard_insert_of_notMem hold hfinite]
      exact ⟨hfinite.insert _, by simp [Transaction.frees, SeatState.taken]⟩
    · rw [if_neg hk, if_neg hk]
      exact ⟨hfinite, by simp [Transaction.frees]⟩
  | book holdId =>
    simp only [BoxOffice.perform] at h
    cases hrow : b.orders.row holdId with
    | none =>
      rw [hrow] at h
      cases h
    | some order =>
      rw [hrow] at h
      simp only at h
      split_ifs at h with hguard
      cases h
      rw [ordersOf_book, taken_write]
      refine ⟨hfinite, ?_⟩
      by_cases hk : seatId = order.seatId
      · have hheld : b.taken seatId = SeatState.taken .HELD := by
          rw [hk]
          exact taken_of_seat hguard.1
        rw [if_pos hk, hheld]
        simp [SeatState.taken, Transaction.frees]
      · rw [if_neg hk]
        simp [Transaction.frees]
  | free eventId id =>
    simp only [BoxOffice.perform] at h
    split_ifs at h with hguard
    cases h
    have hsame : BoxOffice.ordersOf ⟨Function.update b.seats id (some ⟨eventId, .AVAILABLE⟩),
        b.orders⟩ seatId = b.ordersOf seatId := rfl
    rw [hsame, taken_write]
    refine ⟨hfinite, ?_⟩
    by_cases hk : seatId = id
    · have hheld : b.taken seatId = SeatState.taken .HELD := by
        rw [hk]
        exact taken_of_seat hguard
      rw [if_pos hk, hheld]
      simp [SeatState.taken, Transaction.frees, hk]
    · have hother : ¬ id = seatId := fun h => hk h.symm
      rw [if_neg hk]
      simp [Transaction.frees, hother]

theorem boxOffice_balance {transactions : List Transaction}
    (h : boxOffice.run b transactions = some b') (hfinite : (b.ordersOf seatId).Finite) :
    (b'.ordersOf seatId).Finite ∧
      (b'.ordersOf seatId).ncard + b.taken seatId =
        (b.ordersOf seatId).ncard + b'.taken seatId +
          transactions.countP (Transaction.frees seatId) := by
  induction transactions generalizing b with
  | nil =>
    cases h
    exact ⟨hfinite, by simp⟩
  | cons transaction transactions ih =>
    obtain ⟨d, hstep, hrun⟩ := Machine.run_cons_some _ h
    obtain ⟨hfinite', hone⟩ := perform_balance hstep hfinite
    obtain ⟨hfinal, hrest⟩ := ih hrun hfinite'
    rw [List.countP_cons]
    exact ⟨hfinal, by omega⟩

/-- In every run, as many orders have been placed on a seat as it was given back, one more if it
is HELD or SOLD now and was not at the start: a second order on a seat takes a release that
set its row AVAILABLE again. -/
theorem orders_balance {digests : ScriptDigests} {world world' : World} {ls : List Label}
    (hinit : Initial world) (hrun : (engine digests).run world ls = some world')
    (seatId : String) :
    (world'.shared.rows.ordersOf seatId).Finite ∧
      (world'.shared.rows.ordersOf seatId).ncard + world.shared.rows.taken seatId =
        world'.shared.rows.taken seatId +
          (history digests world ls).countP (Transaction.frees seatId) := by
  have hnone : world.shared.rows.ordersOf seatId = ∅ := by
    ext holdId
    simp [BoxOffice.ordersOf, Store.rows, hinit.orders]
  have hserial := run_performs (initial_valid hinit) hrun
  have hfinite : (world.shared.rows.ordersOf seatId).Finite := by
    rw [hnone]
    exact Set.finite_empty
  have hbalance := boxOffice_balance hserial hfinite
  rw [hnone, Set.ncard_empty, Nat.zero_add] at hbalance
  exact hbalance

theorem orders_balance_purchase :
    ∃ world', (engine fun _ => true).run oneSeat (purchase "u" "h" "o") = some world' ∧
      (world'.shared.rows.ordersOf "s").ncard = 1 := by
  obtain ⟨world', hrun, hsold⟩ := purchase_runs
  obtain ⟨-, hbalance⟩ := orders_balance oneSeat_initial hrun "s"
  have hseat : world'.shared.rows.seats "s" = some ⟨"e", .SOLD⟩ := hsold
  rw [purchase_history, taken_of_seat hseat] at hbalance
  exact ⟨world', hrun, hbalance⟩

end Balance

end TicketEngine
