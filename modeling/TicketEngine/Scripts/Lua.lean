import TicketEngine.Framework.Double
import TicketEngine.Framework.Lease

namespace TicketEngine

inductive LuaScriptName
  | slidingWindow
  | releaseMutex
  | atomicSeatLock
  | releaseSeat
  deriving DecidableEq

def LuaScriptName.text : LuaScriptName → String
  | .slidingWindow => "slidingWindow"
  | .releaseMutex => "releaseMutex"
  | .atomicSeatLock => "atomicSeatLock"
  | .releaseSeat => "releaseSeat"

/-- What a script call can throw: the local registry has no digest, the server has dropped the
script, the script itself fails in SET, or the connection fails with some message. -/
inductive RedisError
  | digestMissing (name : LuaScriptName)
  | noscript
  | invalidExpire
  | connection (message : String)
  deriving DecidableEq

def RedisError.message : RedisError → String
  | .digestMissing name => "Lua script has not been loaded: " ++ name.text
  | .noscript => "NOSCRIPT No matching script. Please use EVAL."
  | .invalidExpire => "ERR value is not an integer or out of range"
  | .connection message => message

/-- How the outside world answers a step: it goes through, with an identifier for the step to
draw if it needs one, or the command fails without having been executed. -/
inductive Choice
  | ok (id : String)
  | fail (message : String)

def Choice.failed : Choice → Bool
  | .ok _ => false
  | .fail _ => true

def toUpperCase (text : String) : String := String.ofList (text.toList.map Char.toUpper)

def includesFrom (part : List Char) : List Char → Bool
  | [] => part.isEmpty
  | c :: cs => part.isPrefixOf (c :: cs) || includesFrom part cs

def includes (text part : String) : Bool := includesFrom part.toList text.toList

def isNoscriptError (e : RedisError) : Bool := includes (toUpperCase e.message) "NOSCRIPT"

theorem isNoscriptError_noscript : isNoscriptError .noscript = true := by decide +kernel

theorem isNoscriptError_digestMissing (name : LuaScriptName) :
    isNoscriptError (.digestMissing name) = false := by
  cases name <;> decide +kernel

theorem isNoscriptError_invalidExpire : isNoscriptError .invalidExpire = false := by
  decide +kernel

/-- The digests this process registered at startup. -/
abbrev ScriptDigests := LuaScriptName → Bool

def getLuaScriptDigest (digests : ScriptDigests) (name : LuaScriptName) :
    Except RedisError LuaScriptName :=
  if digests name then .ok name else .error (.digestMissing name)

/-- The table that `cjson` stores under a seat key. -/
inductive LockStatus
  | HELD
  | SOLD
  deriving DecidableEq

structure SeatLock where
  status : LockStatus
  userId : String
  holdId : String
  createdAt : Nat
  expiresAt : ℚ
  deriving DecidableEq

/-- The argument check of `SET key value EX n` at time `now`: a positive whole number of
seconds whose deadline fits a signed 64-bit millisecond clock. -/
def expireSeconds (now : Nat) (seconds : ℚ) : Except RedisError Nat :=
  if seconds.den = 1 ∧ 0 < seconds.num ∧ (now : Int) + seconds.num * 1000 ≤ 9223372036854775807
  then .ok seconds.num.toNat
  else .error .invalidExpire

/-- `redis.call('TIME')[1]` on a millisecond clock. -/
def timeSeconds (now : Nat) : Nat := now / 1000

def atomic_seat_lock (now : Nat) (cell : Option (Lease SeatLock)) (user_id hold_id : String)
    (ttl_seconds : Option ℚ) : Except RedisError (Option (Lease SeatLock) × Int) :=
  match ttl_seconds with
  | none => .ok (cell, 0)
  | some ttl_seconds =>
    if ttl_seconds ≤ 0 then .ok (cell, 0)
    else
      match Lease.read now cell with
      | none => do
        let payload : SeatLock :=
          { status := .HELD, userId := user_id, holdId := hold_id,
            createdAt := timeSeconds now, expiresAt := timeSeconds now + ttl_seconds }
        let seconds ← expireSeconds now ttl_seconds
        .ok (some ⟨payload, now + seconds * 1000⟩, 1)
      | some parsed =>
        if parsed.status = .HELD ∨ parsed.status = .SOLD then .ok (cell, 0) else .ok (cell, 0)

def release_seat (now : Nat) (cell : Option (Lease SeatLock)) (user_id hold_id : String) :
    Option (Lease SeatLock) × Int :=
  match Lease.read now cell with
  | none => (cell, 0)
  | some parsed =>
    if parsed.status = .HELD ∧ parsed.userId = user_id ∧ parsed.holdId = hold_id then (none, 1)
    else (cell, 0)

def release_mutex (now : Nat) (cell : Option (Lease String)) (token : String) :
    Option (Lease String) × Int :=
  match Lease.read now cell with
  | none => (cell, 0)
  | some current_token => if current_token = token then (none, 1) else (cell, 0)

/-- The lock script either takes a free key for exactly `seconds * 1000` ms and returns 1, or
returns 0, or fails; in the last two cases the key is as before. -/
theorem atomic_seat_lock_cases {now : Nat} {cell : Option (Lease SeatLock)}
    {user_id hold_id : String} {ttl : Option ℚ} {cell' : Option (Lease SeatLock)} {code : Int}
    (h : atomic_seat_lock now cell user_id hold_id ttl = .ok (cell', code)) :
    (code = 0 ∧ cell' = cell) ∨
    (code = 1 ∧ Lease.read now cell = none ∧ ∃ seconds c, ttl = some (seconds : ℚ) ∧
      expireSeconds now seconds = .ok c ∧
      cell' = some ⟨⟨.HELD, user_id, hold_id, timeSeconds now, timeSeconds now + seconds⟩,
        now + c * 1000⟩) := by
  cases ttl with
  | none =>
    simp only [atomic_seat_lock, Except.ok.injEq, Prod.mk.injEq] at h
    exact .inl ⟨h.2.symm, h.1.symm⟩
  | some seconds =>
    simp only [atomic_seat_lock] at h
    split_ifs at h with hpos
    · simp only [Except.ok.injEq, Prod.mk.injEq] at h
      exact .inl ⟨h.2.symm, h.1.symm⟩
    · cases hr : Lease.read now cell with
      | some parsed =>
        simp only [hr, ite_self, Except.ok.injEq, Prod.mk.injEq] at h
        exact .inl ⟨h.2.symm, h.1.symm⟩
      | none =>
        simp only [hr] at h
        cases he : expireSeconds now seconds with
        | error e => rw [he] at h; cases h
        | ok c =>
          rw [he] at h
          cases h
          exact .inr ⟨rfl, rfl, seconds, c, rfl, he, rfl⟩

theorem release_seat_one {now : Nat} {cell : Option (Lease SeatLock)} {user_id hold_id : String}
    (h : (release_seat now cell user_id hold_id).2 = 1) :
    ∃ parsed, Lease.read now cell = some parsed ∧ parsed.userId = user_id ∧
      parsed.holdId = hold_id ∧ (release_seat now cell user_id hold_id).1 = none := by
  cases hr : Lease.read now cell with
  | none => simp [release_seat, hr] at h
  | some parsed =>
    simp only [release_seat, hr] at h ⊢
    split_ifs at h ⊢ with hown
    · exact ⟨parsed, rfl, hown.2.1, hown.2.2, rfl⟩
    · cases h

theorem release_seat_kept {now : Nat} {cell : Option (Lease SeatLock)} {user_id hold_id : String}
    (h : (release_seat now cell user_id hold_id).2 ≠ 1) :
    (release_seat now cell user_id hold_id).1 = cell := by
  cases hr : Lease.read now cell with
  | none => simp [release_seat, hr]
  | some parsed =>
    simp only [release_seat, hr] at h ⊢
    split_ifs at h ⊢ with hown
    · exact absurd rfl h
    · rfl

end TicketEngine
