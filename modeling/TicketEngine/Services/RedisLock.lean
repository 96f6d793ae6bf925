import TicketEngine.Scripts.Lua
import Mathlib.Logic.Function.Basic
import Mathlib.Tactic.Linarith
import Mathlib.Tactic.NormNum
import Mathlib.Data.Rat.Cast.Order

namespace TicketEngine

/-- The part of Redis the seat locks use: its millisecond clock, the string keys and the
server-side script cache. -/
structure LockRedis where
  now : Nat
  keys : String → Option (Lease SeatLock)
  cached : LuaScriptName → Bool

abbrev SeatScript :=
  Nat → Option (Lease SeatLock) → Except RedisError (Option (Lease SeatLock) × Int)

namespace LockRedis

def wait (r : LockRedis) (ms : Nat) : LockRedis := { r with now := r.now + ms }

/-- EVAL runs the script body on one key and leaves the script in the cache. -/
def eval (r : LockRedis) (name : LuaScriptName) (key : String) (script : SeatScript) :
    LockRedis × Except RedisError Int :=
  let cached := Function.update r.cached name true
  match script r.now (r.keys key) with
  | .error e => ({ r with cached }, .error e)
  | .ok (cell, code) => ({ r with cached, keys := Function.update r.keys key cell }, .ok code)

def evalsha (r : LockRedis) (digests : ScriptDigests) (name : LuaScriptName) (key : String)
    (script : SeatScript) : LockRedis × Except RedisError Int :=
  match getLuaScriptDigest digests name with
  | .error e => (r, .error e)
  | .ok digest => if r.cached digest then r.eval digest key script else (r, .error .noscript)

end LockRedis

def seatLockKey (eventId seatId : String) : String := "seat:" ++ eventId ++ ":" ++ seatId

def getSeatLockKey (eventId seatId : String) : String := seatLockKey eventId seatId

def DEFAULT_TTL_SECONDS : ℚ := 600

structure SeatLockExecution where
  result : Int
  holdId : String
  ttlSeconds : ℚ
  expiresAt : ℚ
  deriving DecidableEq

/-- How long a call waits for the script source on the fallback path, and for the reply. -/
structure Delays where
  source : Nat
  reply : Nat

/-- The `try`/`catch` both lock operations share: EVALSHA, and EVAL when Redis reports
NOSCRIPT; any other error is thrown again. -/
def runScript (digests : ScriptDigests) (r : LockRedis) (name : LuaScriptName) (key : String)
    (script : SeatScript) (source : Nat) : LockRedis × Except RedisError Int :=
  match r.evalsha digests name key script with
  | (r, .ok result) => (r, .ok result)
  | (r, .error e) =>
    if isNoscriptError e then (r.wait source).eval name key script else (r, .error e)

def effectiveTtl : JsNumber → ℚ
  | .notFinite => DEFAULT_TTL_SECONDS
  | .finite ttlSeconds => if 0 < ttlSeconds then ttlSeconds else DEFAULT_TTL_SECONDS

def acquireSeatHold (digests : ScriptDigests) (r : LockRedis) (eventId seatId userId : String)
    (ttlSeconds : JsNumber) (holdId : String) (d : Delays) :
    LockRedis × Except RedisError SeatLockExecution :=
  let key := seatLockKey eventId seatId
  let ttl := effectiveTtl ttlSeconds
  let script now cell := atomic_seat_lock now cell userId holdId (some ttl)
  match runScript digests r .atomicSeatLock key script d.source with
  | (r, .error e) => (r, .error e)
  | (r, .ok result) =>
    let r := r.wait d.reply
    (r, .ok ⟨result, holdId, ttl, r.now + ttl * 1000⟩)

def releaseSeatHold (digests : ScriptDigests) (r : LockRedis)
    (eventId seatId userId holdId : String) (d : Delays) : LockRedis × Except RedisError Bool :=
  let key := seatLockKey eventId seatId
  let script now cell := .ok (release_seat now cell userId holdId)
  match runScript digests r .releaseSeat key script d.source with
  | (r, .error e) => (r, .error e)
  | (r, .ok result) => (r.wait d.reply, .ok (result == 1))

/-- The instant at which the script of a call runs: at once when Redis has it cached,
otherwise after the caller has read its source. -/
def scriptTime (r : LockRedis) (name : LuaScriptName) (source : Nat) : Nat :=
  if r.cached name then r.now else r.now + source

section RunScript

variable {digests : ScriptDigests} {r r' : LockRedis} {name : LuaScriptName} {key : String}
  {script : SeatScript} {source : Nat}

/-- Scripts whose own failures do not read like a missing script. -/
def NoNoscript (script : SeatScript) : Prop :=
  ∀ now cell e, script now cell = .error e → isNoscriptError e = false

theorem eval_ok {code : Int} (h : r.eval name key script = (r', .ok code)) :
    ∃ cell, script r.now (r.keys key) = .ok (cell, code) ∧
      r'.keys = Function.update r.keys key cell ∧ r'.now = r.now := by
  unfold LockRedis.eval at h
  cases hs : script r.now (r.keys key) with
  | error e => simp [hs] at h
  | ok p =>
    simp only [hs, Prod.mk.injEq, Except.ok.injEq] at h
    obtain ⟨rfl, rfl⟩ := h
    exact ⟨p.1, rfl, rfl, rfl⟩

theorem eval_error {e : RedisError} (h : r.eval name key script = (r', .error e)) :
    script r.now (r.keys key) = .error e ∧ r'.keys = r.keys ∧ r'.now = r.now := by
  unfold LockRedis.eval at h
  cases hs : script r.now (r.keys key) with
  | error e' =>
    simp only [hs, Prod.mk.injEq, Except.error.injEq] at h
    obtain ⟨rfl, rfl⟩ := h
    exact ⟨rfl, rfl, rfl⟩
  | ok p => simp [hs] at h

/-- A script call has one of three courses: it throws with the keys untouched, it runs the
cached script at once, or it runs the script from source after the delay. -/
theorem runScript_eq (hs : NoNoscript script) :
    runScript digests r name key script source =
      if digests name then
        if r.cached name then r.eval name key script
        else (r.wait source).eval name key script
      else (r, .error (.digestMissing name)) := by
  unfold runScript LockRedis.evalsha getLuaScriptDigest
  by_cases hd : digests name = true
  · by_cases hc : r.cached name = true
    · simp only [hd, hc, if_true]
      cases h : r.eval name key script with
      | mk s res =>
        cases res with
        | ok code => rfl
        | error e => simp [hs _ _ _ (eval_error h).1]
    · simp [hd, hc, isNoscriptError_noscript]
  · simp [hd, isNoscriptError_digestMissing]

theorem runScript_ok (hs : NoNoscript script) {code : Int}
    (h : runScript digests r name key script source = (r', .ok code)) :
    ∃ cell, script (scriptTime r name source) (r.keys key) = .ok (cell, code) ∧
      r'.keys = Function.update r.keys key cell ∧ r'.now = scriptTime r name source := by
  rw [runScript_eq hs] at h
  unfold scriptTime
  by_cases hc : r.cached name = true
  · rw [if_pos hc] at h ⊢
    split_ifs at h
    · exact eval_ok h
    · cases h
  · rw [if_neg hc] at h ⊢
    split_ifs at h
    · exact eval_ok h
    · cases h

theorem runScript_error (hs : NoNoscript script) {e : RedisError}
    (h : runScript digests r name key script source = (r', .error e)) :
    r'.keys = r.keys ∧ r.now ≤ r'.now := by
  rw [runScript_eq hs] at h
  split_ifs at h with hd hc
  · obtain ⟨-, hk, hn⟩ := eval_error h
    exact ⟨hk, hn.ge⟩
  · obtain ⟨-, hk, hn⟩ := eval_error h
    exact ⟨hk, by rw [hn]; exact Nat.le_add_right _ _⟩
  · cases h
    exact ⟨rfl, le_refl _⟩

/-- The script cache of the server decides only the path, not what the script does. -/
theorem eval_cached (r : LockRedis) (name : LuaScriptName) (key : String) (script : SeatScript)
    (cached : LuaScriptName → Bool) :
    (LockRedis.eval { r with cached } name key script).2 = (r.eval name key script).2 ∧
    (LockRedis.eval { r with cached } name key script).1.keys = (r.eval name key script).1.keys ∧
    (LockRedis.eval { r with cached } name key script).1.now = (r.eval name key script).1.now := by
  unfold LockRedis.eval
  cases script r.now (r.keys key) with
  | error e => exact ⟨rfl, rfl, rfl⟩
  | ok p => exact ⟨rfl, rfl, rfl⟩

theorem runScript_path (digests : ScriptDigests) (r : LockRedis) (name : LuaScriptName)
    (key : String) (hs : NoNoscript script) (cached : LuaScriptName → Bool) :
    let a := runScript digests r name key script 0
    let b := runScript digests { r with cached } name key script 0
    b.2 = a.2 ∧ b.1.keys = a.1.keys ∧ b.1.now = a.1.now := by
  have h := eval_cached r name key script cached
  simp only [runScript_eq hs, LockRedis.wait, Nat.add_zero]
  by_cases hd : digests name = true
  · simpa only [hd, if_true, ite_self] using h
  · simp only [hd, if_false, Bool.false_eq_true, and_self]

theorem scriptTime_ge : r.now ≤ scriptTime r name source := by
  unfold scriptTime
  split_ifs <;> omega

end RunScript

theorem expireSeconds_eq {now : Nat} {seconds : ℚ} {c : Nat}
    (h : expireSeconds now seconds = .ok c) : seconds = c := by
  unfold expireSeconds at h
  split_ifs at h with he
  · cases h
    have hnum : ((seconds.num.toNat : Int) : ℚ) = (seconds.num : ℚ) := by
      rw [Int.toNat_of_nonneg he.2.1.le]
    rw [← Int.cast_natCast, hnum]
    exact ((Rat.den_eq_one_iff seconds).mp he.1).symm

theorem acquire_noNoscript (userId holdId : String) (ttl : ℚ) :
    NoNoscript fun now cell => atomic_seat_lock now cell userId holdId (some ttl) := by
  intro now cell e h
  simp only [atomic_seat_lock] at h
  split_ifs at h with hp
  cases hr : Lease.read now cell with
  | some parsed => simp [hr] at h
  | none =>
    simp only [hr, expireSeconds] at h
    split_ifs at h with he
    · cases h
    · cases h
      exact isNoscriptError_invalidExpire

theorem release_noNoscript (userId holdId : String) :
    NoNoscript fun now cell => .ok (release_seat now cell userId holdId) := by
  intro now cell e h
  cases h

end TicketEngine
