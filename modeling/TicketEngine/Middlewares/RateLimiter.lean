import TicketEngine.Framework.PercentEncoding
import TicketEngine.Framework.SortedSet
import TicketEngine.Scripts.Lua
import Mathlib.Logic.Function.Basic

namespace TicketEngine

/-! ## Options and requests -/

/-- What the middleware looks at in an HTTP request; header names are in lower case. -/
structure Request where
  path : String
  header : String → Option String
  ip : Option String
  remoteAddress : Option String

/-- `windowMs` and `maxRequests` are whole numbers, as the environment schema demands. -/
structure RateLimiterOptions where
  windowMs : Option Nat
  maxRequests : Option Nat
  keyPrefix : Option String
  skip : Option (Request → Bool)

structure RateLimiterConfiguration where
  windowMs : Nat
  maxRequests : Nat
  keyPrefix : String
  skip : Option (Request → Bool)

def defaultOptions : RateLimiterConfiguration := ⟨60000, 100, "rate-limit", none⟩

def RateLimiterOptions.configuration (options : RateLimiterOptions) : RateLimiterConfiguration where
  windowMs := options.windowMs.getD defaultOptions.windowMs
  maxRequests := options.maxRequests.getD defaultOptions.maxRequests
  keyPrefix := options.keyPrefix.getD defaultOptions.keyPrefix
  skip := options.skip

structure RateLimitResult where
  allowed : Int
  remaining : Int
  resetAt : Int
  requestCount : Int
  deriving DecidableEq

/-- How the middleware ends: it hands the request on, answers 429, or rejects. -/
inductive RateOutcome
  | next (headers : List (String × Int))
  | tooManyRequests (headers : List (String × Int)) (message : String)
  | thrown (error : RedisError)
  deriving DecidableEq

/-- EXPIRE on a sorted set just written: a time to live of 0 deletes the key. -/
def expire (time : Nat) (z : SortedSet String) (ttl_seconds : Nat) :
    Option (Lease (SortedSet String)) :=
  if ttl_seconds = 0 then none else some ⟨z, time + ttl_seconds * 1000⟩

/-- The script on one key. `time` is the clock of Redis, `now` the clock of the caller. -/
def sliding_window (time : Nat) (cell : Option (Lease (SortedSet String)))
    (now window_ms limit : Nat) (member : String) (ttl_seconds : Nat) :
    Option (Lease (SortedSet String)) × RateLimitResult :=
  let window_start : Int := now - window_ms
  let z := (Lease.read time cell).getD .empty
  let z := z.removeRangeByScore 0 window_start
  let z := z.add now member
  let cell := expire time z ttl_seconds
  let request_count := ((Lease.read time cell).getD .empty).card
  let allowed := if request_count ≤ limit then 1 else 0
  let remaining := max ((limit : Int) - request_count) 0
  let reset_at := now + window_ms
  (cell, ⟨allowed, remaining, reset_at, request_count⟩)

/-- The part of Redis the rate limiter uses. -/
structure RateRedis where
  zsets : String → Option (Lease (SortedSet String))
  cached : LuaScriptName → Bool

/-- EVALSHA of the script. -/
def RateRedis.evalsha (digests : ScriptDigests) (r : RateRedis) (time : Nat) (key : String)
    (now window_ms limit : Nat) (member : String) (ttl_seconds : Nat) :
    RateRedis × Except RedisError RateLimitResult :=
  match getLuaScriptDigest digests .slidingWindow with
  | .error e => (r, .error e)
  | .ok script =>
    if r.cached script then
      let (cell, result) :=
        sliding_window time (r.zsets key) now window_ms limit member ttl_seconds
      ({ r with zsets := Function.update r.zsets key cell }, .ok result)
    else (r, .error .noscript)

/-! ## The middleware -/

/-- One call of the middleware: the clock of its node, the random part of its member, and the
clock of Redis at the moment the script runs. -/
structure RateCall where
  request : Request
  now : Nat
  uuid : String
  time : Nat

def clientIdentity (request : Request) : String :=
  (request.ip.orElse fun _ => request.remoteAddress).getD "unknown"

def rateKey (configuration : RateLimiterConfiguration) (client : String) : String :=
  configuration.keyPrefix ++ ":" ++ encodeURIComponent client

def RateCall.client (call : RateCall) : String := clientIdentity call.request

def RateCall.member (call : RateCall) : String :=
  String.ofList (Nat.toDigits 10 call.now ++ '-' :: call.uuid.toList)

/-- The header, the environment switch or the `skip` option lets the request through unseen. -/
def bypassed (disabled : Option String) (configuration : RateLimiterConfiguration)
    (request : Request) : Bool :=
  disabled = some "true" || (request.header "x-benchmark-bypass").isSome ||
    (configuration.skip.map fun skip => skip request) = some true

/-- `Math.ceil(ms / 1000)`. -/
def ceilSeconds (ms : Int) : Int := -(-ms / 1000)

def tooManyMessage : String := "Too many requests, please try again later"

/-- The response headers and the end of the call. -/
def respond (configuration : RateLimiterConfiguration) (now : Nat) (result : RateLimitResult) :
    RateOutcome :=
  let resetAfterSeconds := max (ceilSeconds (result.resetAt - now)) 1
  let headers :=
    [("RateLimit-Limit", (configuration.maxRequests : Int)),
      ("RateLimit-Remaining", result.remaining), ("RateLimit-Reset", resetAfterSeconds)]
  if result.allowed = 0 then
    .tooManyRequests (headers ++ [("Retry-After", resetAfterSeconds)]) tooManyMessage
  else .next headers

def rateLimiter (digests : ScriptDigests) (disabled : Option String)
    (configuration : RateLimiterConfiguration) (r : RateRedis) (call : RateCall) :
    RateRedis × RateOutcome :=
  if bypassed disabled configuration call.request then (r, .next [])
  else
    match r.evalsha digests call.time (rateKey configuration call.client) call.now
      configuration.windowMs configuration.maxRequests call.member
      (ceilSeconds configuration.windowMs).toNat with
    | (r, .error e) => (r, .thrown e)
    | (r, .ok result) => (r, respond configuration call.now result)

/-- Redis, and every call so far with its end, oldest first. -/
structure RateWorld where
  redis : RateRedis
  log : List (RateCall × RateOutcome)

/-- The middleware on all nodes, in the order in which the scripts reach Redis. Every call draws
a fresh random member. -/
def rateLimiting (digests : ScriptDigests) (disabled : Option String)
    (configuration : RateLimiterConfiguration) : Machine RateWorld RateCall where
  step world call :=
    if call.uuid ∈ world.log.map fun entry => entry.1.uuid then none
    else
      let (redis, outcome) := rateLimiter digests disabled configuration world.redis call
      some ⟨redis, world.log ++ [(call, outcome)]⟩

theorem rateKey_inj {configuration : RateLimiterConfiguration} {a b : String}
    (h : rateKey configuration a = rateKey configuration b) : a = b := by
  apply encodeURIComponent_inj
  exact (String.append_right_inj _).mp h

theorem member_inj {a b : RateCall} (h : a.member = b.member) : a.uuid = b.uuid := by
  have hdrop (call : RateCall) :
      call.member.toList.dropWhile Char.isDigit = '-' :: call.uuid.toList := by
    have hdigits : ∀ c ∈ Nat.toDigits 10 call.now, c.isDigit = true := fun c hc =>
      Nat.isDigit_of_mem_toDigits (by decide) (by decide) hc
    rw [RateCall.member, String.toList_ofList, List.dropWhile_append_of_pos hdigits]
    rfl
  have hchars := hdrop a
  rw [h, hdrop b] at hchars
  exact String.toList_injective (List.cons.inj hchars).2.symm

/-! ## One call of a limited client -/

/-- The middleware neither skips the request nor fails before its script. -/
structure Limited (digests : ScriptDigests) (disabled : Option String)
    (configuration : RateLimiterConfiguration) (r : RateRedis) (call : RateCall) : Prop where
  seen : bypassed disabled configuration call.request = false
  digest : digests .slidingWindow = true
  cached : r.cached .slidingWindow = true

/-- The log of the client as this call finds it after its trim. -/
def RateRedis.retained (configuration : RateLimiterConfiguration) (r : RateRedis)
    (call : RateCall) : SortedSet String :=
  let z := (Lease.read call.time (r.zsets (rateKey configuration call.client))).getD .empty
  z.removeRangeByScore 0 ((call.now : Int) - configuration.windowMs)

/-- A call is handed on. -/
def RateOutcome.passed : RateOutcome → Bool
  | .next _ => true
  | _ => false

/-- The value of a header of the response. -/
def RateOutcome.header (name : String) : RateOutcome → Option Int
  | .next headers => headers.lookup name
  | .tooManyRequests headers _ => headers.lookup name
  | .thrown _ => none

theorem respond_passed (configuration : RateLimiterConfiguration) (now : Nat)
    (result : RateLimitResult) :
    (respond configuration now result).passed = true ↔ result.allowed ≠ 0 := by
  unfold respond
  simp only
  split_ifs with h
  · simp [RateOutcome.passed, h]
  · simp [RateOutcome.passed, h]

theorem respond_remaining (configuration : RateLimiterConfiguration) (now : Nat)
    (result : RateLimitResult) :
    (respond configuration now result).header "RateLimit-Remaining" = some result.remaining := by
  unfold respond
  simp only
  split_ifs
  · simp [RateOutcome.header, List.lookup_cons]
  · simp [RateOutcome.header, List.lookup_cons]

theorem respond_retry (configuration : RateLimiterConfiguration) (now : Nat)
    (result : RateLimitResult) :
    (respond configuration now result).header "Retry-After" =
      if result.allowed = 0 then some (max (ceilSeconds (result.resetAt - now)) 1) else none := by
  unfold respond
  simp only
  split_ifs
  · simp [RateOutcome.header, List.lookup_cons]
  · simp [RateOutcome.header, List.lookup_cons]

theorem ceilSeconds_pos {ms : Nat} (h : 1 ≤ ms) :
    ms ≤ (ceilSeconds ms).toNat * 1000 ∧ (ceilSeconds ms).toNat ≠ 0 := by
  unfold ceilSeconds
  omega

section Call

variable {digests : ScriptDigests} {disabled : Option String}
  {configuration : RateLimiterConfiguration} {r : RateRedis} {call : RateCall}

/-- What one call leaves under its client's key, and the result it answers with. -/
theorem rateLimiter_added (hl : Limited digests disabled configuration r call)
    (hW : 1 ≤ configuration.windowMs) {z : SortedSet String}
    (hz : (r.retained configuration call).add call.now call.member = z) :
    ∃ deadline result, rateLimiter digests disabled configuration r call =
        (⟨Function.update r.zsets (rateKey configuration call.client) (some ⟨z, deadline⟩),
          r.cached⟩, respond configuration call.now result) ∧
      call.time + configuration.windowMs ≤ deadline ∧
      (result.allowed ≠ 0 ↔ z.card ≤ configuration.maxRequests) ∧
      result.remaining = max ((configuration.maxRequests : Int) - z.card) 0 ∧
      result.resetAt = call.now + configuration.windowMs := by
  obtain ⟨hceil, hne⟩ := ceilSeconds_pos hW
  let deadline := call.time + (ceilSeconds configuration.windowMs).toNat * 1000
  let result : RateLimitResult :=
    ⟨if z.card ≤ configuration.maxRequests then 1 else 0,
      max ((configuration.maxRequests : Int) - z.card) 0, call.now + configuration.windowMs, z.card⟩
  have hscript : sliding_window call.time (r.zsets (rateKey configuration call.client)) call.now
      configuration.windowMs configuration.maxRequests call.member
      (ceilSeconds configuration.windowMs).toNat = (some ⟨z, deadline⟩, result) := by
    subst hz
    simp only [sliding_window, expire, if_neg hne, Lease.read_fresh, Option.getD_some]
    rfl
  refine ⟨deadline, result, ?_, ?_, ?_, rfl, rfl⟩
  · simp only [rateLimiter, hl.seen, RateRedis.evalsha, getLuaScriptDigest, hl.digest, hl.cached,
      hscript, if_true, Bool.false_eq_true, if_false]
  · simp only [deadline]
    omega
  · simp [result]

/-- The cell that a limited call leaves under its client's key. -/
theorem rateLimiter_stored (hl : Limited digests disabled configuration r call)
    (hW : 1 ≤ configuration.windowMs) :
    (rateLimiter digests disabled configuration r call).1.zsets
        (rateKey configuration call.client) =
      some ⟨(r.retained configuration call).add call.now call.member,
        call.time + (ceilSeconds configuration.windowMs).toNat * 1000⟩ := by
  have hne := (ceilSeconds_pos hW).2
  simp only [rateLimiter, hl.seen, RateRedis.evalsha, getLuaScriptDigest, hl.digest, hl.cached,
    sliding_window, expire, if_neg hne, if_true, Bool.false_eq_true, if_false,
    Function.update_self]
  rfl

/-- What one call does: its member joins what the trim has left, the key lives on for the whole
seconds of a window, and the call is handed on while the count is within the limit. -/
theorem rateLimiter_limited (hl : Limited digests disabled configuration r call)
    (hW : 1 ≤ configuration.windowMs)
    (hfresh : ∀ e ∈ (r.retained configuration call).entries, e.1 ≠ call.member) :
    ∃ z deadline outcome, rateLimiter digests disabled configuration r call =
        (⟨Function.update r.zsets (rateKey configuration call.client) (some ⟨z, deadline⟩),
          r.cached⟩, outcome) ∧
      z.entries = (r.retained configuration call).entries ++ [(call.member, (call.now : Int))] ∧
      call.time + configuration.windowMs ≤ deadline ∧
      (outcome.passed = true ↔
        (r.retained configuration call).card + 1 ≤ configuration.maxRequests) ∧
      outcome.header "RateLimit-Remaining" = some (max ((configuration.maxRequests : Int) -
        ((r.retained configuration call).card + 1)) 0) := by
  obtain ⟨deadline, result, heq, hdeadline, hallowed, hremaining, -⟩ := rateLimiter_added hl hW rfl
  have hentries := SortedSet.add_fresh (call.now : Int) hfresh
  have hcard : ((r.retained configuration call).add call.now call.member).card =
      (r.retained configuration call).card + 1 := by
    simp only [SortedSet.card, hentries, List.length_append, List.length_singleton]
  refine ⟨_, deadline, _, heq, hentries, hdeadline, ?_, ?_⟩
  · rw [respond_passed, hallowed, hcard]
  · rw [respond_remaining, hremaining, hcard]
    rfl

end Call

end TicketEngine
