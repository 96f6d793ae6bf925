import TicketEngine.Services.SeatLease
import Mathlib.Data.List.Basic

namespace TicketEngine

/-- The pair of identifiers a caller names a seat by. -/
@[ext]
structure SeatPair where
  eventId : String
  seatId : String
  deriving DecidableEq

def SeatPair.lockKey (seat : SeatPair) : String := seatLockKey seat.eventId seat.seatId

inductive SeatRequest
  | acquire (userId : String) (ttlSeconds : JsNumber) (holdId : String)
  | release (userId holdId : String)

/-- A lock call on one seat: the instant at which Redis runs its script, and how much later its
caller sees the reply. -/
structure SeatCall where
  seat : SeatPair
  request : SeatRequest
  instant : Nat
  reply : Nat

inductive SeatAnswer
  | acquired (answer : Except RedisError SeatLockExecution)
  | released (answer : Except RedisError Bool)

namespace SeatCall

def exec (digests : ScriptDigests) (r : LockRedis) (call : SeatCall) : LockRedis × SeatAnswer :=
  let r := { r with now := call.instant }
  match call.request with
  | .acquire userId ttlSeconds holdId =>
    let p := acquireSeatHold digests r call.seat.eventId call.seat.seatId userId ttlSeconds holdId
      ⟨0, call.reply⟩
    (p.1, .acquired p.2)
  | .release userId holdId =>
    let p := releaseSeatHold digests r call.seat.eventId call.seat.seatId userId holdId
      ⟨0, call.reply⟩
    (p.1, .released p.2)

end SeatCall

/-- The answers the calls on `seat` get, in the order of the calls. -/
def answersOn (digests : ScriptDigests) (seat : SeatPair) :
    LockRedis → List SeatCall → List SeatAnswer
  | _, [] => []
  | r, call :: calls =>
    let p := call.exec digests r
    if call.seat = seat then p.2 :: answersOn digests seat p.1 calls
    else answersOn digests seat p.1 calls

/-- The same calls without those on `other`, each at its own instant. -/
def without (other : SeatPair) (calls : List SeatCall) : List SeatCall :=
  calls.filter fun call => call.seat ≠ other

/-- The calls on `other` are not noticed by those on `seat`. -/
def AnswersApart (seat other : SeatPair) : Prop :=
  ∀ (digests : ScriptDigests) (r : LockRedis) (calls : List SeatCall),
    calls.Pairwise (fun a b => a.instant ≤ b.instant) →
      answersOn digests seat r calls = answersOn digests seat r (without other calls)

/-- No release on `other` touches the hold of `seat`. -/
def HoldApart (seat other : SeatPair) : Prop :=
  ∀ (digests : ScriptDigests) (r : LockRedis) (userId holdId : String) (d : Delays),
    (releaseSeatHold digests r other.eventId other.seatId userId holdId d).1.keys seat.lockKey =
      r.keys seat.lockKey

/-- The separator cuts one key at two places: the event id of `other` continues that of `seat`
over a colon, and the text after the colon opens the seat id of `seat`. -/
def Shifted (seat other : SeatPair) : Prop :=
  ∃ middle, other.eventId = seat.eventId ++ ":" ++ middle ∧
    seat.seatId = middle ++ ":" ++ other.seatId

theorem lockKey_toList (seat : SeatPair) :
    seat.lockKey.toList = "seat:".toList ++ (seat.eventId.toList ++ ':' :: seat.seatId.toList) := by
  simp [SeatPair.lockKey, seatLockKey, String.toList_append]

theorem lockKey_of_shifted {seat other : SeatPair} (h : Shifted seat other) :
    seat.lockKey = other.lockKey := by
  obtain ⟨middle, heventId, hseatId⟩ := h
  apply String.toList_injective
  simp [lockKey_toList, heventId, hseatId, String.toList_append]

theorem shifted_of_append {seat other : SeatPair} {between : List Char} (hne : seat ≠ other)
    (heventId : other.eventId.toList = seat.eventId.toList ++ between)
    (hseatId : ':' :: seat.seatId.toList = between ++ ':' :: other.seatId.toList) :
    Shifted seat other := by
  cases between with
  | nil =>
    have hevents : other.eventId = seat.eventId := String.toList_injective (by simpa using heventId)
    have hseats : seat.seatId = other.seatId := String.toList_injective (by simpa using hseatId)
    exact absurd (SeatPair.ext hevents.symm hseats) hne
  | cons colon middle =>
    obtain ⟨hcolon, hrest⟩ := List.cons.inj hseatId
    refine ⟨String.ofList middle, ?_, ?_⟩
    · apply String.toList_injective
      simp [heventId, ← hcolon, String.toList_append]
    · apply String.toList_injective
      simp [hrest, String.toList_append]

theorem not_shifted {seat other : SeatPair} (hcolon : ':' ∉ other.eventId.toList) :
    ¬ Shifted seat other := by
  intro hshift
  obtain ⟨middle, heventId, -⟩ := hshift
  apply hcolon
  simp [heventId, String.toList_append]

/-- Two different seats share a key only when one is the other shifted over a colon. -/
theorem shifted_of_lockKey {seat other : SeatPair} (hne : seat ≠ other)
    (h : seat.lockKey = other.lockKey) : Shifted seat other ∨ Shifted other seat := by
  have hlist : seat.eventId.toList ++ ':' :: seat.seatId.toList =
      other.eventId.toList ++ ':' :: other.seatId.toList := by
    have hkey := congrArg String.toList h
    rw [lockKey_toList, lockKey_toList] at hkey
    exact List.append_cancel_left hkey
  rcases List.append_eq_append_iff.mp hlist with
    ⟨between, heventId, hseatId⟩ | ⟨between, heventId, hseatId⟩
  · exact .inl (shifted_of_append hne heventId hseatId)
  · exact .inr (shifted_of_append hne.symm heventId hseatId)

section Calls

variable {digests : ScriptDigests} {r s r' : LockRedis} {name : LuaScriptName} {key : String}
  {script : SeatScript}

variable (digests name) in
/-- A script call answers by the cell under its own key, whatever else is stored. -/
theorem runScript_local (hs : NoNoscript script) (hnow : r.now = s.now)
    (hcell : r.keys key = s.keys key) :
    (runScript digests r name key script 0).2 = (runScript digests s name key script 0).2 ∧
      (runScript digests r name key script 0).1.keys key =
        (runScript digests s name key script 0).1.keys key ∧
      (runScript digests r name key script 0).1.now =
        (runScript digests s name key script 0).1.now := by
  have heval : (r.eval name key script).2 = (s.eval name key script).2 ∧
      (r.eval name key script).1.keys key = (s.eval name key script).1.keys key ∧
      (r.eval name key script).1.now = (s.eval name key script).1.now := by
    unfold LockRedis.eval
    rw [hnow, hcell]
    cases script s.now (s.keys key) with
    | error e => exact ⟨rfl, hcell, rfl⟩
    | ok p => exact ⟨rfl, by simp, rfl⟩
  rw [runScript_eq hs, runScript_eq hs]
  by_cases hd : digests name = true
  · simpa only [hd, if_true, LockRedis.wait, Nat.add_zero, ite_self] using heval
  · simp only [hd, if_false, Bool.false_eq_true]
    exact ⟨trivial, hcell, hnow⟩

theorem acquireSeatHold_local {eventId seatId userId holdId : String} {ttlSeconds : JsNumber}
    {reply : Nat} (hnow : r.now = s.now)
    (hcell : r.keys (seatLockKey eventId seatId) = s.keys (seatLockKey eventId seatId)) :
    (acquireSeatHold digests r eventId seatId userId ttlSeconds holdId ⟨0, reply⟩).2 =
        (acquireSeatHold digests s eventId seatId userId ttlSeconds holdId ⟨0, reply⟩).2 ∧
      (acquireSeatHold digests r eventId seatId userId ttlSeconds holdId ⟨0, reply⟩).1.keys
          (seatLockKey eventId seatId) =
        (acquireSeatHold digests s eventId seatId userId ttlSeconds holdId ⟨0, reply⟩).1.keys
          (seatLockKey eventId seatId) := by
  have hs := acquire_noNoscript userId holdId (effectiveTtl ttlSeconds)
  obtain ⟨hanswer, hkeys, hclock⟩ := runScript_local digests .atomicSeatLock hs hnow hcell
  exact acquireSeatHold_congr (fun keys => keys (seatLockKey eventId seatId))
    ⟨hanswer, hkeys, hclock⟩

theorem releaseSeatHold_local {eventId seatId userId holdId : String} {reply : Nat}
    (hnow : r.now = s.now)
    (hcell : r.keys (seatLockKey eventId seatId) = s.keys (seatLockKey eventId seatId)) :
    (releaseSeatHold digests r eventId seatId userId holdId ⟨0, reply⟩).2 =
        (releaseSeatHold digests s eventId seatId userId holdId ⟨0, reply⟩).2 ∧
      (releaseSeatHold digests r eventId seatId userId holdId ⟨0, reply⟩).1.keys
          (seatLockKey eventId seatId) =
        (releaseSeatHold digests s eventId seatId userId holdId ⟨0, reply⟩).1.keys
          (seatLockKey eventId seatId) := by
  have hs := release_noNoscript userId holdId
  obtain ⟨hanswer, hkeys, hclock⟩ := runScript_local digests .releaseSeat hs hnow hcell
  exact releaseSeatHold_congr (fun keys => keys (seatLockKey eventId seatId))
    ⟨hanswer, hkeys, hclock⟩

variable (digests) in
/-- The answer to a call, and the cell it leaves, depend on the cell of its own seat alone. -/
theorem exec_local {call : SeatCall}
    (hcell : r.keys call.seat.lockKey = s.keys call.seat.lockKey) :
    (call.exec digests r).2 = (call.exec digests s).2 ∧
      (call.exec digests r).1.keys call.seat.lockKey =
        (call.exec digests s).1.keys call.seat.lockKey := by
  obtain ⟨seat, request, instant, reply⟩ := call
  have hsame : ({ r with now := instant } : LockRedis).now =
      ({ s with now := instant } : LockRedis).now := rfl
  cases request with
  | acquire userId ttlSeconds holdId =>
    obtain ⟨hanswer, hleft⟩ := acquireSeatHold_local hsame hcell
    exact ⟨congrArg SeatAnswer.acquired hanswer, hleft⟩
  | release userId holdId =>
    obtain ⟨hanswer, hleft⟩ := releaseSeatHold_local hsame hcell
    exact ⟨congrArg SeatAnswer.released hanswer, hleft⟩

theorem acquireSeatHold_frame {eventId seatId userId holdId : String} {ttlSeconds : JsNumber}
    {d : Delays} (hne : key ≠ seatLockKey eventId seatId) :
    (acquireSeatHold digests r eventId seatId userId ttlSeconds holdId d).1.keys key =
      r.keys key := by
  rcases h : acquireSeatHold digests r eventId seatId userId ttlSeconds holdId d with ⟨r', e | x⟩
  · rw [(acquireSeatHold_error h).1]
  · obtain ⟨-, ⟨-, hput⟩ | ⟨-, -, c, -, -, -, hput⟩⟩ := acquireSeatHold_ok h
    · rw [hput]
    · rw [hput, Function.update_of_ne hne]

theorem releaseSeatHold_frame {eventId seatId userId holdId : String} {d : Delays}
    (hne : key ≠ seatLockKey eventId seatId) :
    (releaseSeatHold digests r eventId seatId userId holdId d).1.keys key = r.keys key := by
  rcases h : releaseSeatHold digests r eventId seatId userId holdId d with ⟨r', e | b⟩
  · rw [(releaseSeatHold_error h).1]
  · obtain ⟨-, ⟨-, hput⟩ | ⟨-, parsed, -, -, -, hput⟩⟩ := releaseSeatHold_ok h
    · rw [hput]
    · rw [hput, Function.update_of_ne hne]

theorem exec_frame {call : SeatCall} (hne : key ≠ call.seat.lockKey) :
    (call.exec digests r).1.keys key = r.keys key := by
  obtain ⟨seat, request, instant, reply⟩ := call
  cases request with
  | acquire userId ttlSeconds holdId => exact acquireSeatHold_frame hne
  | release userId holdId => exact releaseSeatHold_frame hne

/-- Calls on another key change no answer: by induction on the calls, the two runs agree on the
cell of `seat`. -/
theorem answersOn_without {seat other : SeatPair} (hne : seat.lockKey ≠ other.lockKey)
    (calls : List SeatCall) (hcell : r.keys seat.lockKey = s.keys seat.lockKey) :
    answersOn digests seat r calls = answersOn digests seat s (without other calls) := by
  have hseat : seat ≠ other := fun heq => hne (congrArg SeatPair.lockKey heq)
  induction calls generalizing r s with
  | nil => rfl
  | cons call calls ih =>
    by_cases hother : call.seat = other
    · have hframe : (call.exec digests r).1.keys seat.lockKey = s.keys seat.lockKey := by
        rw [exec_frame (by rw [hother]; exact hne), hcell]
      have hskip : call.seat ≠ seat := fun heq => hseat (heq.symm.trans hother)
      have hdrop : without other (call :: calls) = without other calls := by
        simp [without, hother]
      rw [answersOn, if_neg hskip, hdrop]
      exact ih hframe
    · have hkeep : without other (call :: calls) = call :: without other calls := by
        simp [without, hother]
      rw [hkeep, answersOn, answersOn]
      by_cases hkey : seat.lockKey = call.seat.lockKey
      · rw [hkey] at hcell
        obtain ⟨hanswer, hleft⟩ := exec_local digests hcell
        rw [← hkey] at hleft
        simp only [hanswer, ih hleft]
      · have hleft : (call.exec digests r).1.keys seat.lockKey =
            (call.exec digests s).1.keys seat.lockKey := by
          rw [exec_frame hkey, exec_frame hkey, hcell]
        have hskip : call.seat ≠ seat := fun heq => hkey (congrArg SeatPair.lockKey heq.symm)
        rw [if_neg hskip, if_neg hskip]
        exact ih hleft

/-- A script runs at once where its source is at hand. -/
theorem runScript_loaded (hs : NoNoscript script) :
    runScript (fun _ => true) r name key script 0 = r.eval name key script := by
  rw [runScript_eq hs, if_pos rfl]
  exact ite_self _

theorem release_owned {eventId seatId userId holdId : String} {lock : SeatLock} {reply : Nat}
    (hcell : Lease.read r.now (r.keys (seatLockKey eventId seatId)) = some lock)
    (hown : lock.status = .HELD ∧ lock.userId = userId ∧ lock.holdId = holdId) :
    (releaseSeatHold (fun _ => true) r eventId seatId userId holdId ⟨0, reply⟩).2 = .ok true ∧
      (releaseSeatHold (fun _ => true) r eventId seatId userId holdId ⟨0, reply⟩).1.keys
        (seatLockKey eventId seatId) = none := by
  have hs := release_noNoscript userId holdId
  have hscript : release_seat r.now (r.keys (seatLockKey eventId seatId)) userId holdId =
      (none, 1) := by
    simp only [release_seat, hcell, if_pos hown]
  unfold releaseSeatHold
  simp only [runScript_loaded hs, LockRedis.eval, hscript]
  exact ⟨rfl, Function.update_self ..⟩

theorem release_missing {eventId seatId userId holdId : String} {reply : Nat}
    (hcell : r.keys (seatLockKey eventId seatId) = none) :
    (releaseSeatHold (fun _ => true) r eventId seatId userId holdId ⟨0, reply⟩).2 = .ok false := by
  have hs := release_noNoscript userId holdId
  have hscript : release_seat r.now (r.keys (seatLockKey eventId seatId)) userId holdId =
      (none, 0) := by
    simp only [release_seat, hcell, Lease.read_none]
  unfold releaseSeatHold
  simp only [runScript_loaded hs, LockRedis.eval, hscript]
  rfl

end Calls

/-- A server that has just started. -/
def emptyRedis : LockRedis := ⟨0, fun _ => none, fun _ => false⟩

def SeatPair.asked (seat : SeatPair) : SeatCall :=
  ⟨seat, .acquire "user" (.finite 600) "hold", 0, 0⟩

def SeatPair.freed (seat : SeatPair) : SeatCall := ⟨seat, .release "user" "hold", 0, 0⟩

/-- The server once the hold on the seat is taken. -/
def SeatPair.heldRedis (seat : SeatPair) : LockRedis :=
  (seat.asked.exec (fun _ => true) emptyRedis).1

def userHold : Lease SeatLock := ⟨⟨.HELD, "user", "hold", 0, 600⟩, 600000⟩

theorem heldRedis_keys (seat : SeatPair) : seat.heldRedis.keys seat.lockKey = some userHold := by
  have hs := acquire_noNoscript "user" "hold" (effectiveTtl (.finite 600))
  have hscript : atomic_seat_lock 0 none "user" "hold" (some (effectiveTtl (.finite 600))) =
      .ok (some userHold, 1) := by
    decide +kernel
  simp only [SeatPair.heldRedis, SeatPair.asked, SeatCall.exec, acquireSeatHold, emptyRedis,
    runScript_loaded hs, LockRedis.eval, hscript, LockRedis.wait, SeatPair.lockKey,
    Function.update_self]

theorem freed_held {r : LockRedis} {seat : SeatPair} (hcell : r.keys seat.lockKey = some userHold) :
    (seat.freed.exec (fun _ => true) r).2 = .released (.ok true) ∧
      (seat.freed.exec (fun _ => true) r).1.keys seat.lockKey = none := by
  have hread : Lease.read 0 (r.keys seat.lockKey) = some userHold.value :=
    Lease.read_eq_some.mpr ⟨userHold, hcell, Nat.zero_le _, rfl⟩
  have howned : (releaseSeatHold (fun _ => true) { r with now := 0 } seat.eventId seat.seatId
        "user" "hold" ⟨0, 0⟩).2 = .ok true ∧
      (releaseSeatHold (fun _ => true) { r with now := 0 } seat.eventId seat.seatId
        "user" "hold" ⟨0, 0⟩).1.keys seat.lockKey = none :=
    release_owned hread ⟨rfl, rfl, rfl⟩
  exact ⟨congrArg SeatAnswer.released howned.1, howned.2⟩

/-- The hold on `seat` is released through every seat with its key. -/
theorem freed_shared {seat other : SeatPair} (hkey : seat.lockKey = other.lockKey) :
    (other.freed.exec (fun _ => true) seat.heldRedis).1.keys seat.lockKey = none := by
  have hcell := heldRedis_keys seat
  rw [hkey] at hcell ⊢
  exact (freed_held hcell).2

theorem freed_missing {r : LockRedis} {seat : SeatPair} (hcell : r.keys seat.lockKey = none) :
    (seat.freed.exec (fun _ => true) r).2 = .released (.ok false) :=
  congrArg SeatAnswer.released (release_missing hcell)

/-- A hold is taken on `seat`, released on `other` and once more on `seat`. -/
def takenAndFreed (seat other : SeatPair) : List SeatCall := [seat.asked, other.freed, seat.freed]

/-- Where both seats have one key, the release on `other` is noticed by the next one on `seat`. -/
theorem takenAndFreed_noticed {seat other : SeatPair} (hne : seat ≠ other)
    (hkey : seat.lockKey = other.lockKey) :
    answersOn (fun _ => true) seat emptyRedis (takenAndFreed seat other) ≠
      answersOn (fun _ => true) seat emptyRedis (without other (takenAndFreed seat other)) := by
  have hwithout : without other (takenAndFreed seat other) = [seat.asked, seat.freed] := by
    simp [without, takenAndFreed, SeatPair.asked, SeatPair.freed, hne]
  have hasked : seat.asked.seat = seat := rfl
  have hfreed : seat.freed.seat = seat := rfl
  have hother : other.freed.seat ≠ seat := hne.symm
  have hmissing : (seat.freed.exec (fun _ => true)
      (other.freed.exec (fun _ => true) seat.heldRedis).1).2 = .released (.ok false) :=
    freed_missing (freed_shared hkey)
  have hheld : (seat.freed.exec (fun _ => true) seat.heldRedis).2 = .released (.ok true) :=
    (freed_held (heldRedis_keys seat)).1
  rw [hwithout]
  simp only [takenAndFreed, answersOn, if_pos hasked, if_pos hfreed, if_neg hother]
  intro hanswers
  obtain ⟨hlast, -⟩ := List.cons.inj (List.cons.inj hanswers).2
  have hanswer := hmissing.symm.trans (hlast.trans hheld)
  cases hanswer

theorem not_answersApart {seat other : SeatPair} (hne : seat ≠ other)
    (hkey : seat.lockKey = other.lockKey) : ¬ AnswersApart seat other := by
  intro hapart
  apply takenAndFreed_noticed hne hkey
  apply hapart
  simp [takenAndFreed, SeatPair.asked, SeatPair.freed]

/-- The release on `other` deletes the hold taken on `seat`. -/
theorem not_holdApart {seat other : SeatPair} (hkey : seat.lockKey = other.lockKey) :
    ¬ HoldApart seat other := by
  intro hapart
  have hgone := freed_shared hkey
  have hheld := heldRedis_keys seat
  generalize seat.heldRedis = r at hgone hheld
  have hkept : (other.freed.exec (fun _ => true) r).1.keys seat.lockKey = r.keys seat.lockKey :=
    hapart (fun _ => true) { r with now := 0 } "user" "hold" ⟨0, 0⟩
  rw [← hkept, hgone] at hheld
  cases hheld

/-- Two different seats are separate exactly when neither is the other shifted over a colon. -/
theorem seats_separate_iff {seat other : SeatPair} (hne : seat ≠ other) :
    (AnswersApart seat other ↔ ¬ Shifted seat other ∧ ¬ Shifted other seat) ∧
      (HoldApart seat other ↔ ¬ Shifted seat other ∧ ¬ Shifted other seat) := by
  have hkeys : (¬ Shifted seat other ∧ ¬ Shifted other seat) ↔ seat.lockKey ≠ other.lockKey := by
    constructor
    · intro hshift hkey
      rcases shifted_of_lockKey hne hkey with h | h
      · exact hshift.1 h
      · exact hshift.2 h
    · intro hkey
      exact ⟨fun h => hkey (lockKey_of_shifted h), fun h => hkey (lockKey_of_shifted h).symm⟩
  rw [hkeys]
  constructor
  · constructor
    · intro hapart hkey
      exact not_answersApart hne hkey hapart
    · intro hkey digests r calls _
      exact answersOn_without hkey calls rfl
  · constructor
    · intro hapart hkey
      exact not_holdApart hkey hapart
    · intro hkey digests r userId holdId d
      exact releaseSeatHold_frame hkey

theorem seats_separate_rows :
    AnswersApart ⟨"event", "A-1"⟩ ⟨"event", "A-2"⟩ ∧
      HoldApart ⟨"event", "A-1"⟩ ⟨"event", "A-2"⟩ := by
  have hne : (⟨"event", "A-1"⟩ : SeatPair) ≠ ⟨"event", "A-2"⟩ := by decide
  have hseats := seats_separate_iff hne
  have hshift : ¬ Shifted ⟨"event", "A-1"⟩ ⟨"event", "A-2"⟩ ∧
      ¬ Shifted ⟨"event", "A-2"⟩ ⟨"event", "A-1"⟩ :=
    ⟨not_shifted (by decide), not_shifted (by decide)⟩
  exact ⟨hseats.1.mpr hshift, hseats.2.mpr hshift⟩

/-- Two seats of two events whose keys are one and the same: on a server that has just started, a
release on the second is noticed by the owner of the first and deletes the hold. -/
theorem seats_collide :
    (⟨"a:b", "c"⟩ : SeatPair) ≠ ⟨"a", "b:c"⟩ ∧
      (answersOn (fun _ => true) ⟨"a:b", "c"⟩ emptyRedis (takenAndFreed ⟨"a:b", "c"⟩ ⟨"a", "b:c"⟩) ≠
        answersOn (fun _ => true) ⟨"a:b", "c"⟩ emptyRedis
          (without ⟨"a", "b:c"⟩ (takenAndFreed ⟨"a:b", "c"⟩ ⟨"a", "b:c"⟩))) ∧
      ((SeatPair.freed ⟨"a", "b:c"⟩).exec (fun _ => true)
        (SeatPair.heldRedis ⟨"a:b", "c"⟩)).1.keys (SeatPair.lockKey ⟨"a:b", "c"⟩) = none ∧
      ¬ AnswersApart ⟨"a:b", "c"⟩ ⟨"a", "b:c"⟩ ∧ ¬ HoldApart ⟨"a:b", "c"⟩ ⟨"a", "b:c"⟩ := by
  have hne : (⟨"a:b", "c"⟩ : SeatPair) ≠ ⟨"a", "b:c"⟩ := by decide
  have hkey : SeatPair.lockKey ⟨"a:b", "c"⟩ = SeatPair.lockKey ⟨"a", "b:c"⟩ := by decide +kernel
  exact ⟨hne, takenAndFreed_noticed hne hkey, freed_shared hkey, not_answersApart hne hkey,
    not_holdApart hkey⟩

end TicketEngine
