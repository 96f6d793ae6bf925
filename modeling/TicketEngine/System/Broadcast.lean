import TicketEngine.System.Course

namespace TicketEngine

/-! ## What a seat shows and what has been said of it -/

/-- An event and one of its seats, as a seat event names them. -/
abbrev SeatName := String × String

/-- What a client should see of a seat. -/
inductive Showing
  | booked
  | held (holdId : String)
  | released
  deriving DecidableEq

def SeatEventPayload.seat : SeatEventPayload → SeatName
  | .held eventId seatId _ _ _ => (eventId, seatId)
  | .booked eventId seatId _ => (eventId, seatId)
  | .released eventId seatId _ _ => (eventId, seatId)

def SeatEventPayload.showing : SeatEventPayload → Showing
  | .held _ _ holdId _ _ => .held holdId
  | .booked .. => .booked
  | .released .. => .released

def Showing.ofHold : Option SeatLock → Showing
  | some lock => .held lock.holdId
  | none => .released

/-- The authoritative state: SOLD in the table, else the live hold in Redis, else free. -/
def showing (s : Store) (seat : SeatName) : Showing :=
  if s.seats seat.2 = some ⟨seat.1, .SOLD⟩ then .booked
  else .ofHold (Lease.read s.redis.now (s.redis.keys (seatLockKey seat.1 seat.2)))

/-- What the last event of a seat on the channel says. -/
def lastShown (channel : List WebSocketSeatEvent) (seat : SeatName) : Option Showing :=
  (channel.filterMap fun event =>
    if event.payload.seat = seat then some event.payload.showing else none).getLast?

def Listed (s : Store) (seat : SeatName) : Prop :=
  ∃ status, s.seats seat.2 = some ⟨seat.1, status⟩

/-- What a thread that has changed a seat is still to announce. -/
def Frame.owes : Frame → Option (SeatName × Showing)
  | .holdReply _ request holdId result =>
    if result = 1 then some ((request.eventId, request.seatId), .held holdId) else none
  | .publishHold record => some ((record.eventId, record.seatId), .held record.holdId)
  | .lockSeat request execution =>
    some ((request.eventId, request.seatId), .held execution.holdId)
  | .createRow request execution =>
    some ((request.eventId, request.seatId), .held execution.holdId)
  | .commitOrder order => some ((order.eventId, order.seatId), .held order.holdId)
  | .publishHeld order => some ((order.eventId, order.seatId), .held order.holdId)
  | .releaseReply request _ result =>
    if result = 1 then some ((request.eventId, request.seatId), .released) else none
  | .freeRow request _ => some ((request.eventId, request.seatId), .released)
  | .publishReleased request _ => some ((request.eventId, request.seatId), .released)
  | .publishBooked _ payload => some ((payload.eventId, payload.seatId), .booked)
  | _ => none

/-- Some thread is still to announce what the seat shows. -/
def Owed (world : World) (seat : SeatName) : Prop :=
  ∃ t, (world.point t).owes = some (seat, showing world.shared seat)

/-- The last event of every seat that has one is right, or the right one is still to come. -/
def UpToDate (world : World) : Prop :=
  ∀ seat, Listed world.shared seat →
    lastShown world.shared.channel seat = none ∨
      lastShown world.shared.channel seat = some (showing world.shared seat) ∨ Owed world seat

/-- The frames of the calls and of `processMessage` before their ends. -/
def Frame.inFlight : Frame → Bool
  | .idle | .createGroup _ | .poll | .claim _ | .read _ _ | .batch _ _ => false
  | .held _ | .ordered _ | .released _ | .rejected _ => false
  | .processed _ | .failed _ _ | .drained _ | .stopped => false
  | _ => true

def Quiescent (world : World) : Prop := ∀ t, (world.point t).inFlight = false

/-- The last event of every seat that has one says what the seat shows. -/
def Converged (world : World) : Prop :=
  ∀ seat shown, Listed world.shared seat → lastShown world.shared.channel seat = some shown →
    shown = showing world.shared seat

/-- No publish fails, and no hold reaches its TTL. -/
structure Steady (world : World) (l : Label) (world' : World) : Prop where
  published : ∀ t message, l = .act t (.fail message) → (world.point t).announces = none
  live : ∀ ms, l = .advance ms → ∀ key lock,
    Lease.read world.shared.redis.now (world.shared.redis.keys key) = some lock →
      Lease.read world'.shared.redis.now (world.shared.redis.keys key) = some lock

/-- The request whose seat lock the next command may take or drop. -/
def Frame.locking : Frame → Option HoldSeatRequest
  | .evalshaHold _ request _ | .evalHold _ request _ => some request
  | .evalshaRelease request _ | .evalRelease request _ => some request
  | _ => none

/-- A lock that is taken or dropped is the lock of no other seat. -/
def OwnKey (world : World) (l : Label) (_ : World) : Prop :=
  ∀ t c request, l = .act t c → (world.point t).locking = some request →
    ∀ seat, Listed world.shared seat →
      seatLockKey seat.1 seat.2 = seatLockKey request.eventId request.seatId →
        seat = (request.eventId, request.seatId)

/-- A published event is not stale, unless the right one is still to come; and a thread that owes
the right one does not end without it, unless it is not needed or another thread owes it too. -/
structure InOrder (world : World) (l : Label) (world' : World) : Prop where
  current : ∀ t c payload f, l = .act t c →
    (world.point t).announces = some (payload, f) → Listed world.shared payload.seat →
      payload.showing = showing world.shared payload.seat ∨
        ∃ u, u ≠ t ∧
          (world.point u).owes = some (payload.seat, showing world.shared payload.seat)
  kept : ∀ t seat, Listed world.shared seat →
    (world.point t).owes = some (seat, showing world.shared seat) →
      (world'.point t).owes = none → (∀ c, l = .act t c → (world.point t).announces = none) →
        lastShown world.shared.channel seat = none ∨
          lastShown world.shared.channel seat = some (showing world.shared seat) ∨
          ∃ u, world'.point u = world.point u ∧
            (world.point u).owes = some (seat, showing world.shared seat)

section Owes

variable {s s' : Store} {t : Thread} {c : Choice} {f f' : Frame}

theorem owes_inFlight {x : SeatName × Showing} (h : f.owes = some x) : f.inFlight = true := by
  cases f with
  | holdReply _ _ _ _ | publishHold _ | lockSeat _ _ | createRow _ _ | commitOrder _
  | publishHeld _ | releaseReply _ _ _ | freeRow _ _ | publishReleased _ _
  | publishBooked _ _ => rfl
  | _ => cases h

theorem announces_owes {payload : SeatEventPayload} (h : f.announces = some (payload, f')) :
    f.owes = some (payload.seat, payload.showing) ∧ f'.owes = none := by
  cases f with
  | publishHold _ | publishHeld _ | publishReleased _ _ | publishBooked _ _ =>
    cases h
    exact ⟨rfl, rfl⟩
  | _ => cases h

theorem givesUp_owes (h : GivesUp f f') : f'.owes = none := by
  cases h with
  | reject | refuse | leave => rfl

theorem entering_owes {l : Label} (h : f.Entering l) : f.owes = none := by
  cases f with
  | idle | findEvent _ _ | rejected _ | findOrder _ _ | readMessage _ | createGroup _ | poll
  | claim _ | read _ _ | batch _ _ | drained _ | stopped => rfl
  | _ => cases h

/-- An obligation is carried along until the event is published. -/
theorem silent_owes {x : SeatName × Showing} (h : Silent s f f') (hf : f.owes = some x) :
    f'.owes = some x := by
  cases h with
  | hold_seat hrecord =>
    obtain ⟨heventId, hseatId, hholdId⟩ := hrecord
    simpa [Frame.owes, heventId, hseatId, hholdId] using hf
  | create_order hexecution => simpa [Frame.owes, hexecution] using hf
  | create_row horder =>
    obtain ⟨heventId, hseatId, hholdId⟩ := horder
    simpa [Frame.owes, heventId, hseatId, hholdId] using hf
  | lock_seat => exact hf
  | release_seat => simpa [Frame.owes] using hf
  | hold_lost hg =>
    rcases hg with rfl | rfl
    · cases hf
    · cases hf
  | release_lost hg =>
    rcases hg with rfl | rfl
    · cases hf
    · cases hf
  | find_event | hold_fallback | find_order | release_fallback => cases hf
  | read_message | find_booked | find_unbooked | sell_row | book_row => cases hf

end Owes

section Showing

variable {s s' : Store} {seat : SeatName}

theorem showing_congr
    (hsold : s'.seats seat.2 = some ⟨seat.1, .SOLD⟩ ↔ s.seats seat.2 = some ⟨seat.1, .SOLD⟩)
    (hread : Lease.read s'.redis.now (s'.redis.keys (seatLockKey seat.1 seat.2)) =
      Lease.read s.redis.now (s.redis.keys (seatLockKey seat.1 seat.2))) :
    showing s' seat = showing s seat := by
  unfold showing
  rw [hread]
  by_cases h : s.seats seat.2 = some ⟨seat.1, .SOLD⟩
  · rw [if_pos h, if_pos (hsold.mpr h)]
  · rw [if_neg h, if_neg fun h' => h (hsold.mp h')]

theorem Still.showing (h : Still s s') (seat : SeatName) :
    TicketEngine.showing s' seat = TicketEngine.showing s seat := by
  apply showing_congr
  · rw [h.seats]
  · rw [h.keys, h.now]

theorem lastShown_append (channel : List WebSocketSeatEvent) (event : WebSocketSeatEvent)
    (seat : SeatName) :
    lastShown (channel ++ [event]) seat =
      if event.payload.seat = seat then some event.payload.showing
      else lastShown channel seat := by
  unfold lastShown
  rw [List.filterMap_append]
  by_cases h : event.payload.seat = seat
  · simp [h]
  · simp [h]

/-- Seats neither come nor go. -/
theorem Rows.listed {f : Frame} {mine : Thread → Prop} (h : Rows f mine s s')
    (seat : SeatName) : Listed s' seat ↔ Listed s seat := by
  constructor
  · rintro ⟨status, hrow⟩
    have changed {id eventId : String} {old new : SeatState}
        (hold : s.seats id = some ⟨eventId, old⟩)
        (hseats : s'.seats = Function.update s.seats id (some ⟨eventId, new⟩)) :
        Listed s seat := by
      rw [hseats, Function.update_apply] at hrow
      split_ifs at hrow with hid
      · cases hrow
        exact ⟨old, by rw [hid]; exact hold⟩
      · exact ⟨status, hrow⟩
    cases h with
    | same hseats _ =>
      rw [hseats] at hrow
      exact ⟨status, hrow⟩
    | place order u _ _ _ howns _ hseats _ => exact changed howns.2 hseats
    | book _ payload u _ _ howns _ hseats _ => exact changed howns.2 hseats
    | free request _ _ hold _ hseats _ => exact changed hold hseats
  · rintro ⟨status, hrow⟩
    rcases h.seat hrow with hkept | ⟨-, status', hkept⟩
    · exact ⟨status, hkept⟩
    · exact ⟨status', hkept⟩

/-- Where a row changes between two states neither of which is SOLD, no seat is sold or unsold. -/
theorem neverSold_update {id eventId : String} {old new : SeatState}
    (hold : s.seats id = some ⟨eventId, old⟩) (hne : old ≠ .SOLD) (hne' : new ≠ .SOLD)
    (hseats : s'.seats = Function.update s.seats id (some ⟨eventId, new⟩)) :
    s'.seats seat.2 = some ⟨seat.1, .SOLD⟩ ↔ s.seats seat.2 = some ⟨seat.1, .SOLD⟩ := by
  rw [hseats, Function.update_apply]
  split_ifs with hid
  · rw [hid, hold]
    simp [hne, hne']
  · exact Iff.rfl

end Showing

end TicketEngine
