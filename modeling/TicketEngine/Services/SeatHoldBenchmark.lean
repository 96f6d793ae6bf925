import TicketEngine.Framework.Outline
import TicketEngine.Services.SeatLease
import TicketEngine.System.Steps
import Mathlib.Data.List.Nodup

namespace TicketEngine

structure SeatHoldBenchmarkRequest where
  eventId : String
  seatId : String
  concurrency : Nat

structure SeatHoldBenchmarkResult where
  successfulHolds : Nat
  conflicts : Nat
  oversellingRate : String
  totalExecutionTimeMs : Nat

structure SeatHoldBenchmarkResponse where
  eventId : String
  targetSeatId : String
  concurrency : Nat
  executionMode : String
  result : SeatHoldBenchmarkResult

/-- Where an attempt stands inside `acquireSeatHold`: before EVALSHA, before EVAL in its `catch`,
or after the reply, before it reads its clock. -/
inductive Attempt
  | idle
  | evalsha
  | eval
  | reply (result : Int)
  | ended (outcome : Except String SeatLockExecution)

/-- Redis and the attempts, by their index. -/
abbrev AttemptWorld := Threaded LockRedis Nat Attempt

namespace SeatHoldBenchmarkRequest

variable (request : SeatHoldBenchmarkRequest)

def key : String := getSeatLockKey request.eventId request.seatId

def userId (index : Nat) : String := "diagnostic-user-" ++ toString index

/-- The TTL of every attempt. -/
def ttl : ℚ := effectiveTtl (.finite 600)

def script (holdIds : Nat → String) (index : Nat) : SeatScript :=
  fun now cell => atomic_seat_lock now cell (userId index) (holdIds index) (some ttl)

/-- What an attempt gets from a script command. -/
def answer (r : LockRedis) (run : LockRedis × Except RedisError Int) :
    Choice → LockRedis × Except RedisError Int
  | .fail message => (r, .error (.connection message))
  | .ok _ => run

/-- One command of an attempt. -/
def act (digests : ScriptDigests) (holdIds : Nat → String) (r : LockRedis) (index : Nat)
    (c : Choice) : Attempt → Option (LockRedis × Attempt)
  | .evalsha =>
    let run := r.evalsha digests .atomicSeatLock request.key (script holdIds index)
    match answer r run c with
    | (r, .ok result) => some (r, .reply result)
    | (r, .error e) => some (r, if isNoscriptError e then .eval else .ended (.error e.message))
  | .eval =>
    let run := r.eval .atomicSeatLock request.key (script holdIds index)
    match answer r run c with
    | (r, .ok result) => some (r, .reply result)
    | (r, .error e) => some (r, .ended (.error e.message))
  | .reply result =>
    some (r, .ended (.ok ⟨result, holdIds index, ttl, r.now + ttl * 1000⟩))
  | .idle => none
  | .ended _ => none

/-- The report on the attempts once all have resolved. -/
def report (startedAt now : Nat) (results : List SeatLockExecution) :
    SeatHoldBenchmarkResponse where
  eventId := request.eventId
  targetSeatId := request.seatId
  concurrency := request.concurrency
  executionMode := "redis-atomic-lua"
  result :=
    { successfulHolds := results.countP (·.result = 1)
      conflicts := results.countP (·.result = 0)
      oversellingRate := "0%"
      totalExecutionTimeMs := now - startedAt }

/-- DEL of the seat's key. -/
def cleared (r : LockRedis) : LockRedis :=
  { r with keys := Function.update r.keys request.key none }

/-- All attempts begin at once. -/
def begun (r : LockRedis) : AttemptWorld :=
  ⟨r, fun index => if index < request.concurrency then .evalsha else .idle⟩

end SeatHoldBenchmarkRequest

/-- An attempt moves, or a call of somebody else, the clock or a flush of the script cache, or the
DEL with which another benchmark begins. -/
inductive AttemptLabel
  | act (index : Nat) (c : Choice)
  | other (call : LockCall)
  | clear (rival : SeatHoldBenchmarkRequest)

/-- The attempts of one benchmark, among other clients of the same Redis. -/
def seatHolds (digests : ScriptDigests) (request : SeatHoldBenchmarkRequest)
    (holdIds : Nat → String) : Machine AttemptWorld AttemptLabel where
  step world
    | .act index c =>
      (request.act digests holdIds world.shared index c (world.point index)).map fun (r, f) =>
        ⟨r, Function.update world.point index f⟩
    | .other call => some ⟨call.exec digests world.shared, world.point⟩
    | .clear rival => some ⟨rival.cleared world.shared, world.point⟩

/-- Before the attempts begin. -/
def noAttempts (r : LockRedis) : AttemptWorld := ⟨r, fun _ => .idle⟩

/-- One run of the benchmark: the key is deleted, and after some commands of others (`gap`) the
attempts begin and run among commands of others (`ls`) until all have resolved. -/
structure SeatHoldBenchmarkRun (digests : ScriptDigests) (request : SeatHoldBenchmarkRequest)
    (r : LockRedis) where
  holdIds : Nat → String
  gap : List AttemptLabel
  ls : List AttemptLabel
  ready : LockRedis
  settled : AttemptWorld
  results : List SeatLockExecution
  clears : (seatHolds digests request holdIds).run (noAttempts (request.cleared r)) gap =
    some (noAttempts ready)
  settles : (seatHolds digests request holdIds).run (request.begun ready) ls = some settled
  outcomes : List.Forall₂ (fun index x => settled.point index = .ended (.ok x))
    (List.range request.concurrency) results

/-- What `runSeatHoldBenchmark` resolves with. -/
def SeatHoldBenchmarkRun.response {digests : ScriptDigests} {request : SeatHoldBenchmarkRequest}
    {r : LockRedis} (bench : SeatHoldBenchmarkRun digests request r) :
    SeatHoldBenchmarkResponse :=
  request.report bench.ready.now bench.settled.shared.now bench.results

/-! ## One attempt -/

/-- The code that an attempt has been given. -/
def Attempt.code : Attempt → Option Int
  | .reply result => some result
  | .ended (.ok x) => some x.result
  | _ => none

section Attempt

variable {digests : ScriptDigests} {request : SeatHoldBenchmarkRequest} {holdIds : Nat → String}
  {r r' : LockRedis} {index : Nat} {c : Choice} {f f' : Attempt}

/-- Every course that one command of an attempt can take: it changes no key, or it takes the free
key under its own hold. -/
inductive AttemptStep (request : SeatHoldBenchmarkRequest) (holdIds : Nat → String)
    (r : LockRedis) (index : Nat) (f : Attempt) (r' : LockRedis) (f' : Attempt) : Prop
  | same (hkeys : r'.keys = r.keys) (hcode : f'.code = f.code)
  | lost (hkeys : r'.keys = r.keys) (hcode : f.code = none) (hlost : f'.code = some 0)
      (hheld : Lease.read r.now (r.keys request.key) ≠ none)
  | won (cell : Lease SeatLock) (hcode : f.code = none) (hwon : f'.code = some 1)
      (hfree : Lease.read r.now (r.keys request.key) = none)
      (hhold : cell.value.holdId = holdIds index) (hdeadline : cell.deadline = r.now + 600000)
      (hkeys : r'.keys = Function.update r.keys request.key (some cell))

theorem ttl_eq : SeatHoldBenchmarkRequest.ttl = 600 := by decide +kernel

/-- The lock script of an attempt on a key. -/
theorem script_cases {now : Nat} {cell cell' : Option (Lease SeatLock)} {code : Int}
    (h : SeatHoldBenchmarkRequest.script holdIds index now cell = .ok (cell', code)) :
    code = 0 ∧ cell' = cell ∧ Lease.read now cell ≠ none ∨
      code = 1 ∧ Lease.read now cell = none ∧
        ∃ lock : SeatLock, lock.holdId = holdIds index ∧ cell' = some ⟨lock, now + 600000⟩ := by
  have hpos : ¬ SeatHoldBenchmarkRequest.ttl ≤ 0 := by
    rw [ttl_eq]
    norm_num
  simp only [SeatHoldBenchmarkRequest.script, atomic_seat_lock, if_neg hpos] at h
  cases hread : Lease.read now cell with
  | some parsed =>
    simp only [hread, ite_self, Except.ok.injEq, Prod.mk.injEq] at h
    exact .inl ⟨h.2.symm, h.1.symm, by simp⟩
  | none =>
    simp only [hread] at h
    cases hexpire : expireSeconds now SeatHoldBenchmarkRequest.ttl with
    | error e =>
      rw [hexpire] at h
      cases h
    | ok seconds =>
      have hseconds := expireSeconds_eq hexpire
      rw [ttl_eq] at hseconds
      have hsix : seconds = 600 := by exact_mod_cast hseconds.symm
      rw [hexpire, hsix] at h
      cases h
      exact .inr ⟨rfl, rfl, _, rfl, rfl⟩

/-- What a script command does, whether it fails or runs. -/
theorem answer_cases {run : LockRedis × Except RedisError Int} {code : Int}
    (h : SeatHoldBenchmarkRequest.answer r run c = (r', .ok code)) : run = (r', .ok code) := by
  cases c with
  | fail message => cases h
  | ok id => exact h

theorem answer_error {run : LockRedis × Except RedisError Int} {e : RedisError}
    (hrun : ∀ r' e, run = (r', .error e) → r'.keys = r.keys ∧ r'.now = r.now)
    (h : SeatHoldBenchmarkRequest.answer r run c = (r', .error e)) :
    r'.keys = r.keys ∧ r'.now = r.now := by
  cases c with
  | fail message =>
    cases h
    exact ⟨rfl, rfl⟩
  | ok id => exact hrun r' e h

theorem ran_step {code : Int} (hcode : f.code = none)
    (h : r.eval .atomicSeatLock request.key (SeatHoldBenchmarkRequest.script holdIds index) =
      (r', .ok code)) :
    AttemptStep request holdIds r index f r' (.reply code) ∧ r'.now = r.now := by
  obtain ⟨cell, hscript, hkeys, hnow⟩ := eval_ok h
  refine ⟨?_, hnow⟩
  rcases script_cases hscript with ⟨rfl, rfl, hheld⟩ | ⟨rfl, hfree, lock, hhold, rfl⟩
  · apply AttemptStep.lost _ hcode rfl hheld
    rw [hkeys, Function.update_eq_self]
  · exact .won _ hcode rfl hfree hhold rfl hkeys

theorem act_attempt (h : request.act digests holdIds r index c f = some (r', f')) :
    AttemptStep request holdIds r index f r' f' ∧ r'.now = r.now := by
  cases f with
  | idle => cases h
  | ended outcome => cases h
  | reply result =>
    cases h
    exact ⟨.same rfl rfl, rfl⟩
  | evalsha =>
    simp only [SeatHoldBenchmarkRequest.act] at h
    rcases hanswer : SeatHoldBenchmarkRequest.answer r (r.evalsha digests .atomicSeatLock
      request.key (SeatHoldBenchmarkRequest.script holdIds index)) c with ⟨s, e | code⟩
    · obtain ⟨hkeys, hnow⟩ := answer_error (fun _ _ => evalsha_error) hanswer
      rw [hanswer] at h
      cases h
      refine ⟨.same hkeys ?_, hnow⟩
      split_ifs
      · rfl
      · rfl
    · rw [hanswer] at h
      cases h
      exact ran_step rfl (evalsha_ok (answer_cases hanswer)).2.2
  | eval =>
    simp only [SeatHoldBenchmarkRequest.act] at h
    rcases hanswer : SeatHoldBenchmarkRequest.answer r (r.eval .atomicSeatLock
      request.key (SeatHoldBenchmarkRequest.script holdIds index)) c with ⟨s, e | code⟩
    · obtain ⟨hkeys, hnow⟩ := answer_error (fun _ _ he => (eval_error he).2) hanswer
      rw [hanswer] at h
      cases h
      exact ⟨.same hkeys rfl, hnow⟩
    · rw [hanswer] at h
      cases h
      exact ran_step rfl (answer_cases hanswer)

end Attempt

section Run

variable {digests : ScriptDigests} {request : SeatHoldBenchmarkRequest} {holdIds : Nat → String}
  {world world' : AttemptWorld} {l : AttemptLabel} {index deadline : Nat}

/-- An attempt has won: its hold is stored until the deadline at least, and every other attempt
that was given a code was given 0. -/
def Won (request : SeatHoldBenchmarkRequest) (holdIds : Nat → String) (deadline : Nat)
    (world : AttemptWorld) (index : Nat) : Prop :=
  (world.point index).code = some 1 ∧
    (∀ other, other ≠ index → (world.point other).code ≠ some 1) ∧
    ∃ cell, world.shared.keys request.key = some cell ∧ cell.value.holdId = holdIds index ∧
      deadline ≤ cell.deadline

/-- Nobody else releases a hold of an attempt. -/
def Unreleased (holdIds : Nat → String) : AttemptLabel → Prop
  | .other (.release _ _ _ holdId _) => ∀ index, holdId ≠ holdIds index
  | _ => True

/-- No other benchmark deletes the key. -/
def Uncleared (key : String) : AttemptLabel → Prop
  | .clear rival => rival.key ≠ key
  | _ => True

/-- Nobody else asks for the key. -/
def Unwanted (key : String) : AttemptLabel → Prop
  | .other (.acquire eventId seatId _ _ _ _) => seatLockKey eventId seatId ≠ key
  | _ => True

/-- A code that was given stays. -/
theorem AttemptStep.code_kept {r r' : LockRedis} {f f' : Attempt} {code : Int}
    (h : AttemptStep request holdIds r index f r' f') (hcode : f.code = some code) :
    f'.code = some code := by
  cases h with
  | same hkeys hsame => rw [hsame, hcode]
  | lost hkeys hnone =>
    rw [hcode] at hnone
    cases hnone
  | won cell hnone =>
    rw [hcode] at hnone
    cases hnone

/-- A stored hold of an attempt outlives the calls of others. -/
theorem hold_outlives {r r' : LockRedis} {call : LockCall} {cell : Lease SeatLock}
    (hcell : r.keys request.key = some cell) (hhold : cell.value.holdId = holdIds index)
    (hcall : call.exec digests r = r') (hin : r'.now ≤ cell.deadline)
    (hunreleased : Unreleased holdIds (.other call)) : r'.keys request.key = some cell := by
  apply (seatLeased digests request.key).kept (l := call) (congrArg some hcall) hcell hin
  rintro ⟨e, s, u, holdId, d, rfl, hkey, htrue⟩
  rcases hreleased : releaseSeatHold digests r e s u holdId d with ⟨r'', res⟩
  rw [hreleased] at htrue
  cases htrue
  obtain ⟨-, ⟨hfalse, -⟩ | ⟨-, parsed, hread, -, hsame, -⟩⟩ := releaseSeatHold_ok hreleased
  · cases hfalse
  · obtain ⟨cell', hcell', -, rfl⟩ := Lease.read_eq_some.mp hread
    rw [hkey, hcell] at hcell'
    cases hcell'
    exact hunreleased index (hsame.symm.trans hhold)

theorem won_step (hw : Won request holdIds deadline world index)
    (h : (seatHolds digests request holdIds).step world l = some world')
    (hin : world'.shared.now ≤ deadline) (hunreleased : Unreleased holdIds l)
    (huncleared : Uncleared request.key l) : Won request holdIds deadline world' index := by
  obtain ⟨hone, hother, cell, hcell, hhold, hdeadline⟩ := hw
  cases l with
  | act i c =>
    obtain ⟨⟨r, f⟩, hact, rfl⟩ := Option.map_eq_some_iff.mp h
    obtain ⟨hstep, hnow⟩ := act_attempt hact
    have hheld : Lease.read world.shared.now (world.shared.keys request.key) ≠ none := by
      intro hnone
      rw [hcell] at hnone
      have hlate := Lease.read_eq_none hnone
      have hin' : r.now ≤ deadline := hin
      omega
    have hkeys : r.keys = world.shared.keys ∧
        ((world.point i).code ≠ some 1 → f.code ≠ some 1) := by
      cases hstep with
      | same hkeys hcode => exact ⟨hkeys, by rw [hcode]; exact id⟩
      | lost hkeys _ hlost => exact ⟨hkeys, fun _ => by rw [hlost]; decide⟩
      | won cell' _ _ hfree => exact absurd hfree hheld
    refine ⟨?_, ?_, cell, ?_, hhold, hdeadline⟩
    · by_cases hi : index = i
      · subst hi
        simp only [Function.update_self]
        exact hstep.code_kept hone
      · simp only [Function.update_of_ne hi]
        exact hone
    · intro other hne
      by_cases hi : other = i
      · subst hi
        simp only [Function.update_self]
        exact hkeys.2 (hother other hne)
      · simp only [Function.update_of_ne hi]
        exact hother other hne
    · rw [hkeys.1]
      exact hcell
  | other call =>
    cases h
    refine ⟨hone, hother, cell, ?_, hhold, hdeadline⟩
    exact hold_outlives hcell hhold rfl (hin.trans hdeadline) hunreleased
  | clear rival =>
    cases h
    refine ⟨hone, hother, cell, ?_, hhold, hdeadline⟩
    show Function.update world.shared.keys rival.key none request.key = some cell
    rw [Function.update_of_ne (Ne.symm huncleared)]
    exact hcell

/-- A free key stays free as long as nobody else asks for it. -/
theorem free_outlives {r r' : LockRedis} {call : LockCall}
    (hfree : Lease.read r.now (r.keys request.key) = none) (hcall : call.exec digests r = r')
    (hunwanted : Unwanted request.key (.other call)) :
    Lease.read r'.now (r'.keys request.key) = none := by
  have hnow : r.now ≤ r'.now := by
    rw [← hcall]
    exact exec_now_le digests r call
  have hlater : r'.keys request.key = r.keys request.key ∨ r'.keys request.key = none := by
    cases call with
    | acquire e s u t holdId d =>
      have hother : request.key ≠ seatLockKey e s := fun heq => hunwanted heq.symm
      rcases hacquired : acquireSeatHold digests r e s u t holdId d with ⟨r'', err | x⟩
      · simp only [LockCall.exec, hacquired] at hcall
        rw [← hcall, (acquireSeatHold_error hacquired).1]
        exact .inl rfl
      · simp only [LockCall.exec, hacquired] at hcall
        obtain ⟨-, ⟨-, hkeys⟩ | ⟨-, -, cell, -, -, -, hkeys⟩⟩ := acquireSeatHold_ok hacquired
        · rw [← hcall, hkeys]
          exact .inl rfl
        · rw [← hcall, hkeys, Function.update_of_ne hother]
          exact .inl rfl
    | release e s u holdId d =>
      rcases hreleased : releaseSeatHold digests r e s u holdId d with ⟨r'', err | b⟩
      · simp only [LockCall.exec, hreleased] at hcall
        rw [← hcall, (releaseSeatHold_error hreleased).1]
        exact .inl rfl
      · simp only [LockCall.exec, hreleased] at hcall
        obtain ⟨-, ⟨-, hkeys⟩ | ⟨-, parsed, -, -, -, hkeys⟩⟩ := releaseSeatHold_ok hreleased
        · rw [← hcall, hkeys]
          exact .inl rfl
        · rw [← hcall, hkeys]
          by_cases hkey : request.key = seatLockKey e s
          · rw [hkey, Function.update_self]
            exact .inr rfl
          · rw [Function.update_of_ne hkey]
            exact .inl rfl
    | advance ms =>
      rw [← hcall]
      exact .inl rfl
    | flushScripts =>
      rw [← hcall]
      exact .inl rfl
  rcases hlater with hsame | hnone
  · rw [hsame]
    cases hread : Lease.read r'.now (r.keys request.key) with
    | none => rfl
    | some lock =>
      rw [Lease.read_earlier hnow hread] at hfree
      cases hfree
  · rw [hnone, Lease.read_none]

/-- No attempt has won yet. -/
def NoneWon (world : AttemptWorld) : Prop := ∀ index, (world.point index).code ≠ some 1

/-- No attempt has been given a code, and the key is free. -/
def Open (request : SeatHoldBenchmarkRequest) (world : AttemptWorld) : Prop :=
  (∀ index, (world.point index).code = none) ∧
    Lease.read world.shared.now (world.shared.keys request.key) = none

theorem attempt_now_le (h : (seatHolds digests request holdIds).step world l = some world') :
    world.shared.now ≤ world'.shared.now := by
  cases l with
  | act i c =>
    obtain ⟨⟨r, f⟩, hact, rfl⟩ := Option.map_eq_some_iff.mp h
    exact (act_attempt hact).2.ge
  | other call =>
    cases h
    exact exec_now_le digests world.shared call
  | clear rival =>
    cases h
    exact le_refl _

/-- The attempt that takes the key wins, where none has won before. -/
theorem won_of_taken {r : LockRedis} {f : Attempt} {cell : Lease SeatLock}
    (hnone : NoneWon world) (hwon : f.code = some 1) (hhold : cell.value.holdId = holdIds index)
    (hdeadline : cell.deadline = world.shared.now + 600000)
    (hkeys : r.keys = Function.update world.shared.keys request.key (some cell))
    (hlast : deadline ≤ world.shared.now + 600000) :
    Won request holdIds deadline ⟨r, Function.update world.point index f⟩ index := by
  refine ⟨?_, ?_, cell, ?_, hhold, ?_⟩
  · simp only [Function.update_self]
    exact hwon
  · intro other hne
    simp only [Function.update_of_ne hne]
    exact hnone other
  · show r.keys request.key = some cell
    rw [hkeys, Function.update_self]
  · omega

theorem noneWon_step (hnone : NoneWon world)
    (h : (seatHolds digests request holdIds).step world l = some world')
    (hlast : deadline ≤ world.shared.now + 600000) :
    NoneWon world' ∨ ∃ index, Won request holdIds deadline world' index := by
  cases l with
  | act i c =>
    obtain ⟨⟨r, f⟩, hact, rfl⟩ := Option.map_eq_some_iff.mp h
    have hkept (hf : f.code ≠ some 1) : NoneWon ⟨r, Function.update world.point i f⟩ :=
      (Function.forall_update_iff world.point fun _ (g : Attempt) => g.code ≠ some 1).mpr
        ⟨hf, fun other _ => hnone other⟩
    cases (act_attempt hact).1 with
    | same hkeys hcode =>
      left
      apply hkept
      rw [hcode]
      exact hnone i
    | lost hkeys hcode hlost =>
      left
      apply hkept
      rw [hlost]
      decide
    | won cell hcode hwon hfree hhold hdeadline hkeys =>
      exact .inr ⟨i, won_of_taken hnone hwon hhold hdeadline hkeys hlast⟩
  | other _ | clear _ =>
    cases h
    exact .inl hnone

theorem open_step (hopen : Open request world)
    (h : (seatHolds digests request holdIds).step world l = some world')
    (hlast : deadline ≤ world.shared.now + 600000) (huncleared : Uncleared request.key l)
    (hunwanted : Unwanted request.key l) :
    Open request world' ∨ ∃ index, Won request holdIds deadline world' index := by
  obtain ⟨hcodes, hfree⟩ := hopen
  cases l with
  | act i c =>
    obtain ⟨⟨r, f⟩, hact, rfl⟩ := Option.map_eq_some_iff.mp h
    obtain ⟨hstep, hnow⟩ := act_attempt hact
    cases hstep with
    | same hkeys hcode =>
      left
      refine ⟨(Function.forall_update_iff world.point fun _ (g : Attempt) => g.code = none).mpr
        ⟨hcode.trans (hcodes i), fun other _ => hcodes other⟩, ?_⟩
      show Lease.read r.now (r.keys request.key) = none
      rw [hkeys, hnow]
      exact hfree
    | lost hkeys hcode hlost hheld => exact absurd hfree hheld
    | won cell hcode hwon _ hhold hdeadline hkeys =>
      have hnone : NoneWon world := fun other => by
        rw [hcodes other]
        decide
      exact .inr ⟨i, won_of_taken hnone hwon hhold hdeadline hkeys hlast⟩
  | other call =>
    cases h
    exact .inl ⟨hcodes, free_outlives hfree rfl hunwanted⟩
  | clear rival =>
    cases h
    refine .inl ⟨hcodes, ?_⟩
    show Lease.read world.shared.now
      (Function.update world.shared.keys rival.key none request.key) = none
    rw [Function.update_of_ne (Ne.symm huncleared)]
    exact hfree

theorem attempts_now_le {ls : List AttemptLabel}
    (h : (seatHolds digests request holdIds).run world ls = some world') :
    world.shared.now ≤ world'.shared.now :=
  Machine.run_invariant _ (I := fun w => world.shared.now ≤ w.shared.now)
    (fun _ _ _ hle hst => hle.trans (attempt_now_le hst)) (le_refl _) h

theorem won_run {ls : List AttemptLabel} (hw : Won request holdIds deadline world index)
    (h : (seatHolds digests request holdIds).run world ls = some world')
    (hin : world'.shared.now ≤ deadline) (hunreleased : ∀ l ∈ ls, Unreleased holdIds l)
    (huncleared : ∀ l ∈ ls, Uncleared request.key l) :
    Won request holdIds deadline world' index := by
  induction ls generalizing world with
  | nil =>
    cases h
    exact hw
  | cons l ls ih =>
    obtain ⟨next, hnext, hrun⟩ := Machine.run_cons_some _ h
    have hnow := attempts_now_le hrun
    have hstep := won_step hw hnext (hnow.trans hin) (hunreleased l List.mem_cons_self)
      (huncleared l List.mem_cons_self)
    exact ih hstep hrun (fun k hk => hunreleased k (List.mem_cons_of_mem _ hk))
      fun k hk => huncleared k (List.mem_cons_of_mem _ hk)

/-- Within the TTL of the first hold at most one attempt wins. -/
theorem noneWon_run {ls : List AttemptLabel} (hnone : NoneWon world)
    (h : (seatHolds digests request holdIds).run world ls = some world')
    (hlast : deadline ≤ world.shared.now + 600000) (hin : world'.shared.now ≤ deadline)
    (hunreleased : ∀ l ∈ ls, Unreleased holdIds l)
    (huncleared : ∀ l ∈ ls, Uncleared request.key l) :
    NoneWon world' ∨ ∃ index, Won request holdIds deadline world' index := by
  induction ls generalizing world with
  | nil =>
    cases h
    exact .inl hnone
  | cons l ls ih =>
    obtain ⟨next, hnext, hrun⟩ := Machine.run_cons_some _ h
    have hrest : ∀ k ∈ ls, Unreleased holdIds k := fun k hk =>
      hunreleased k (List.mem_cons_of_mem _ hk)
    have hrest' : ∀ k ∈ ls, Uncleared request.key k := fun k hk =>
      huncleared k (List.mem_cons_of_mem _ hk)
    rcases noneWon_step hnone hnext hlast with hstill | ⟨index, hw⟩
    · have hnow := attempt_now_le hnext
      exact ih hstill hrun (by omega) hrest hrest'
    · exact .inr ⟨index, won_run hw hrun hin hrest hrest'⟩

theorem open_run {ls : List AttemptLabel} (hopen : Open request world)
    (h : (seatHolds digests request holdIds).run world ls = some world')
    (hlast : deadline ≤ world.shared.now + 600000) (hin : world'.shared.now ≤ deadline)
    (hunreleased : ∀ l ∈ ls, Unreleased holdIds l)
    (huncleared : ∀ l ∈ ls, Uncleared request.key l)
    (hunwanted : ∀ l ∈ ls, Unwanted request.key l) :
    Open request world' ∨ ∃ index, Won request holdIds deadline world' index := by
  induction ls generalizing world with
  | nil =>
    cases h
    exact .inl hopen
  | cons l ls ih =>
    obtain ⟨next, hnext, hrun⟩ := Machine.run_cons_some _ h
    have hrest : ∀ k ∈ ls, Unreleased holdIds k := fun k hk =>
      hunreleased k (List.mem_cons_of_mem _ hk)
    have hrest' : ∀ k ∈ ls, Uncleared request.key k := fun k hk =>
      huncleared k (List.mem_cons_of_mem _ hk)
    rcases open_step hopen hnext hlast (huncleared l List.mem_cons_self)
      (hunwanted l List.mem_cons_self) with hstill | ⟨index, hw⟩
    · have hnow := attempt_now_le hnext
      exact ih hstill hrun (by omega) hrest hrest' fun k hk =>
        hunwanted k (List.mem_cons_of_mem _ hk)
    · exact .inr ⟨index, won_run hw hrun hin hrest hrest'⟩

/-- The codes that attempts are given. -/
def Coded (world : AttemptWorld) : Prop :=
  ∀ index code, (world.point index).code = some code → code = 0 ∨ code = 1

theorem coded_step (hcoded : Coded world)
    (h : (seatHolds digests request holdIds).step world l = some world') : Coded world' := by
  cases l with
  | act i c =>
    obtain ⟨⟨r, f⟩, hact, rfl⟩ := Option.map_eq_some_iff.mp h
    apply (Function.forall_update_iff world.point fun _ (g : Attempt) =>
      ∀ code, g.code = some code → code = 0 ∨ code = 1).mpr
    refine ⟨?_, fun other _ => hcoded other⟩
    intro code hcode
    cases (act_attempt hact).1 with
    | same hkeys hsame =>
      rw [hsame] at hcode
      exact hcoded i code hcode
    | lost hkeys hnone hlost =>
      rw [hlost] at hcode
      exact .inl (Option.some.inj hcode).symm
    | won cell hnone hwon =>
      rw [hwon] at hcode
      exact .inr (Option.some.inj hcode).symm
  | other _ | clear _ =>
    cases h
    exact hcoded

theorem idle_step (hidle : world.point index = .idle)
    (h : (seatHolds digests request holdIds).step world l = some world') :
    world'.point index = .idle := by
  cases l with
  | act i c =>
    obtain ⟨⟨r, f⟩, hact, rfl⟩ := Option.map_eq_some_iff.mp h
    have hi : index ≠ i := by
      intro heq
      rw [← heq, hidle] at hact
      cases hact
    simp only [Function.update_of_ne hi]
    exact hidle
  | other _ | clear _ =>
    cases h
    exact hidle

end Run

section Report

variable {digests : ScriptDigests} {request : SeatHoldBenchmarkRequest} {r : LockRedis}
  (bench : SeatHoldBenchmarkRun digests request r)

theorem begun_code (world : LockRedis) (index : Nat) :
    ((request.begun world).point index).code = none := by
  simp only [SeatHoldBenchmarkRequest.begun]
  split_ifs
  · rfl
  · rfl

theorem bench_coded : Coded bench.settled := by
  refine Machine.run_invariant _ (fun _ _ _ hc hst => coded_step hc hst) ?_ bench.settles
  intro index code hcode
  rw [begun_code] at hcode
  cases hcode

/-- The results are the codes of the attempts, in their order. -/
theorem result_code : List.Forall₂ (fun index x => (bench.settled.point index).code =
    some x.result) (List.range request.concurrency) bench.results :=
  bench.outcomes.imp fun index x hended => by rw [hended]; rfl

/-- Only an attempt of the benchmark is given a code. -/
theorem code_index {index : Nat} {code : Int}
    (hcode : (bench.settled.point index).code = some code) : index < request.concurrency := by
  by_contra hle
  have hidle : (request.begun bench.ready).point index = .idle := if_neg hle
  have hsettled := Machine.run_invariant _ (I := fun w => w.point index = .idle)
    (fun _ _ _ hi hst => idle_step hi hst) hidle bench.settles
  rw [hsettled] at hcode
  cases hcode

/-- Each attempt succeeds or conflicts. -/
theorem count_codes {world : AttemptWorld} (hcoded : Coded world) {ns : List Nat}
    {results : List SeatLockExecution}
    (h : List.Forall₂ (fun index x => (world.point index).code = some x.result) ns results) :
    results.countP (·.result = 1) + results.countP (·.result = 0) = ns.length := by
  induction h with
  | nil => rfl
  | @cons index x ns results hcode _ ih =>
    rw [List.countP_cons, List.countP_cons, List.length_cons]
    rcases hcoded index x.result hcode with hzero | hone
    · simp only [hzero]
      simp
      omega
    · simp only [hone]
      simp
      omega

theorem count_won {world : AttemptWorld} {ns : List Nat} {results : List SeatLockExecution}
    (h : List.Forall₂ (fun index x => (world.point index).code = some x.result) ns results) :
    results.countP (·.result = 1) = ns.countP fun index => (world.point index).code = some 1 := by
  induction h with
  | nil => rfl
  | @cons index x ns results hcode _ ih =>
    rw [List.countP_cons, List.countP_cons, ih, hcode]
    simp only [Option.some.injEq]

/-- The benchmark of a seat hold. Its attempts succeed or conflict. If it takes no longer than
the TTL of a hold, nobody else releases a hold of an attempt and no other benchmark deletes the
key, at most one attempt succeeds, whatever other calls come in between; if nobody else asks for
the key either, and the key was free when the attempts began, exactly one does. -/
theorem seat_hold_benchmark_one_winner :
    let result := bench.response.result
    result.successfulHolds + result.conflicts = request.concurrency ∧
      (bench.settled.shared.now ≤ bench.ready.now + 600000 →
        (∀ l ∈ bench.ls, Unreleased bench.holdIds l) →
        (∀ l ∈ bench.ls, Uncleared request.key l) →
        result.successfulHolds ≤ 1 ∧
        ((∀ l ∈ bench.ls, Unwanted request.key l) →
          Lease.read bench.ready.now (bench.ready.keys request.key) = none →
          0 < request.concurrency → result.successfulHolds = 1)) := by
  intro result
  have hcodes := result_code bench
  have hsum : result.successfulHolds + result.conflicts =
      (List.range request.concurrency).length := count_codes (bench_coded bench) hcodes
  have hwon : result.successfulHolds = (List.range request.concurrency).countP
      fun index => (bench.settled.point index).code = some 1 := count_won hcodes
  rw [List.length_range] at hsum
  refine ⟨hsum, fun hin hunreleased huncleared => ?_⟩
  have hatMost (index : Nat) (hw : Won request bench.holdIds (bench.ready.now + 600000)
      bench.settled index) : result.successfulHolds ≤ 1 := by
    have hmono : (List.range request.concurrency).countP
        (fun k => (bench.settled.point k).code = some 1) ≤
        (List.range request.concurrency).count index := by
      apply List.countP_mono_left
      intro k _ hk
      by_contra hne
      have hother : k ≠ index := fun heq => hne (by simp [heq])
      exact hw.2.1 k hother (of_decide_eq_true hk)
    have hone := List.nodup_iff_count_le_one.mp (List.nodup_range (n := request.concurrency)) index
    omega
  have hnoneWon : NoneWon (request.begun bench.ready) := fun index => by
    rw [begun_code]
    nofun
  constructor
  · rcases noneWon_run hnoneWon bench.settles (le_refl _) hin hunreleased huncleared with
      hnone | ⟨index, hw⟩
    · have hzero : (List.range request.concurrency).countP
          (fun k => (bench.settled.point k).code = some 1) = 0 := by
        rw [List.countP_eq_zero]
        intro k _ hk
        exact hnone k (of_decide_eq_true hk)
      omega
    · exact hatMost index hw
  · intro hunwanted hfree hpos
    have hopen : Open request (request.begun bench.ready) := ⟨begun_code bench.ready, hfree⟩
    rcases open_run hopen bench.settles (le_refl _) hin hunreleased huncleared hunwanted with
      ⟨hnone, -⟩ | ⟨index, hw⟩
    · obtain ⟨hlength, hget⟩ := List.forall₂_iff_get.mp hcodes
      have hfirst : 0 < (List.range request.concurrency).length := by
        rw [List.length_range]
        exact hpos
      have hcode := hget 0 hfirst (hlength ▸ hfirst)
      rw [hnone] at hcode
      cases hcode
    · have hsome : 0 < (List.range request.concurrency).countP
          fun k => (bench.settled.point k).code = some 1 := by
        rw [List.countP_pos_iff]
        exact ⟨index, List.mem_range.mpr (code_index bench hw.1), decide_eq_true hw.1⟩
      have hle := hatMost index hw
      omega

end Report

/-- The execution that an attempt has resolved with. -/
def Attempt.resolved : Attempt → Option SeatLockExecution
  | .ended (.ok x) => some x
  | _ => none

theorem ended_of_attempt {f : Attempt} {x : SeatLockExecution} (h : f.resolved = some x) :
    f = .ended (.ok x) := by
  cases f with
  | ended outcome =>
    cases outcome with
    | error message => cases h
    | ok y =>
      cases h
      rfl
  | _ => cases h

/-- A server that has lost its scripts. -/
def freshRedis : LockRedis := ⟨0, fun _ => none, fun _ => false⟩

def twoAttempts : SeatHoldBenchmarkRequest := ⟨"e", "s", 2⟩

/-- Both attempts fall back to EVAL, and the second one overtakes the first while a benchmark of
another seat begins. -/
def overtaken : List AttemptLabel :=
  [.act 0 (.ok ""), .act 1 (.ok ""), .act 1 (.ok ""), .clear ⟨"e", "t", 1⟩, .act 0 (.ok ""),
    .act 0 (.ok ""), .act 1 (.ok "")]

def attemptHold (index : Nat) : String := if index = 0 then "h" else "k"

theorem seat_hold_benchmark_one_winner_overtaken :
    ∃ bench : SeatHoldBenchmarkRun (fun _ => true) twoAttempts freshRedis,
      bench.ls = overtaken ∧ bench.response.result.successfulHolds = 1 := by
  have hview : ((seatHolds (fun _ => true) twoAttempts attemptHold).run
      (twoAttempts.begun (twoAttempts.cleared freshRedis)) overtaken).map (fun world =>
        ((world.point 0).resolved.isSome, (world.point 1).resolved.isSome, world.shared.now)) =
      some (true, true, 0) := by
    decide +kernel
  obtain ⟨settled, hsettles, hview⟩ := Option.map_eq_some_iff.mp hview
  obtain ⟨hfirst, hrest⟩ := Prod.mk.inj hview
  obtain ⟨hsecond, hnow⟩ := Prod.mk.inj hrest
  obtain ⟨x₀, hzero⟩ := Option.isSome_iff_exists.mp hfirst
  obtain ⟨x₁, hone⟩ := Option.isSome_iff_exists.mp hsecond
  let bench : SeatHoldBenchmarkRun (fun _ => true) twoAttempts freshRedis :=
    { holdIds := attemptHold
      gap := []
      ls := overtaken
      ready := twoAttempts.cleared freshRedis
      settled := settled
      results := [x₀, x₁]
      clears := rfl
      settles := hsettles
      outcomes := .cons (ended_of_attempt hzero) (.cons (ended_of_attempt hone) .nil) }
  have hown : ∀ l ∈ bench.ls, Unreleased bench.holdIds l ∧ Unwanted twoAttempts.key l ∧
      Uncleared twoAttempts.key l := by
    intro l hl
    have hlabel : (∃ index c, l = .act index c) ∨ l = .clear ⟨"e", "t", 1⟩ := by
      simp only [bench, overtaken, List.mem_cons, List.not_mem_nil, or_false] at hl
      rcases hl with rfl | rfl | rfl | rfl | rfl | rfl | rfl <;> simp
    rcases hlabel with ⟨index, c, rfl⟩ | rfl
    · exact ⟨trivial, trivial, trivial⟩
    · refine ⟨trivial, trivial, ?_⟩
      show (⟨"e", "t", 1⟩ : SeatHoldBenchmarkRequest).key ≠ twoAttempts.key
      decide +kernel
  obtain ⟨-, hwinner⟩ := seat_hold_benchmark_one_winner bench
  have hin : bench.settled.shared.now ≤ bench.ready.now + 600000 := by
    show settled.shared.now ≤ _
    rw [hnow]
    exact Nat.zero_le _
  obtain ⟨-, hexactly⟩ := hwinner hin (fun l hl => (hown l hl).1) fun l hl => (hown l hl).2.2
  exact ⟨bench, rfl, hexactly (fun l hl => (hown l hl).2.1) rfl (by decide)⟩

end TicketEngine
