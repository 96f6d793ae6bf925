import TicketEngine.Services.RedisLock
import Mathlib.Tactic.Ring

namespace TicketEngine

/-- What an acquisition that returned did: nothing, or it took the free key for its TTL. -/
theorem acquireSeatHold_ok {digests : ScriptDigests} {r r' : LockRedis}
    {eventId seatId userId holdId : String} {ttlSeconds : JsNumber} {d : Delays}
    {x : SeatLockExecution}
    (h : acquireSeatHold digests r eventId seatId userId ttlSeconds holdId d = (r', .ok x)) :
    r'.now = scriptTime r .atomicSeatLock d.source + d.reply ∧
    (x.result = 0 ∧ r'.keys = r.keys ∨
      x.result = 1 ∧
      Lease.read (scriptTime r .atomicSeatLock d.source) (r.keys (seatLockKey eventId seatId)) =
        none ∧
      ∃ c, c.value.userId = userId ∧ c.value.holdId = holdId ∧
        (c.deadline : ℚ) = scriptTime r .atomicSeatLock d.source + x.ttlSeconds * 1000 ∧
        r'.keys = Function.update r.keys (seatLockKey eventId seatId) (some c)) := by
  have hs := acquire_noNoscript userId holdId (effectiveTtl ttlSeconds)
  unfold acquireSeatHold at h
  simp only at h
  split at h
  · cases h
  next r₁ code hr =>
    obtain ⟨cell, hc, hk, hn⟩ := runScript_ok hs hr
    simp only [Prod.mk.injEq, Except.ok.injEq] at h
    obtain ⟨rfl, rfl⟩ := h
    refine ⟨by rw [LockRedis.wait, hn], ?_⟩
    rcases atomic_seat_lock_cases hc with ⟨rfl, rfl⟩ | ⟨rfl, hfree, seconds, c, ht, he, rfl⟩
    · exact .inl ⟨rfl, by rw [LockRedis.wait, hk, Function.update_eq_self]⟩
    · refine .inr ⟨rfl, hfree, _, rfl, rfl, ?_, hk⟩
      have hw := expireSeconds_eq he
      simp only [Option.some.injEq] at ht
      rw [ht, hw]
      push_cast
      ring

theorem acquireSeatHold_error {digests : ScriptDigests} {r r' : LockRedis}
    {eventId seatId userId holdId : String} {ttlSeconds : JsNumber} {d : Delays} {e : RedisError}
    (h : acquireSeatHold digests r eventId seatId userId ttlSeconds holdId d = (r', .error e)) :
    r'.keys = r.keys ∧ r.now ≤ r'.now := by
  have hs := acquire_noNoscript userId holdId (effectiveTtl ttlSeconds)
  unfold acquireSeatHold at h
  simp only at h
  split at h
  next r₁ e' hr =>
    cases h
    exact runScript_error hs hr
  · cases h

/-- What a release that returned did: `true` deleted the live hold of exactly this user and
hold, `false` left every key alone. -/
theorem releaseSeatHold_ok {digests : ScriptDigests} {r r' : LockRedis}
    {eventId seatId userId holdId : String} {d : Delays} {b : Bool}
    (h : releaseSeatHold digests r eventId seatId userId holdId d = (r', .ok b)) :
    r.now ≤ r'.now ∧
    (b = false ∧ r'.keys = r.keys ∨
      b = true ∧ ∃ parsed,
        Lease.read (scriptTime r .releaseSeat d.source) (r.keys (seatLockKey eventId seatId)) =
          some parsed ∧ parsed.userId = userId ∧ parsed.holdId = holdId ∧
        r'.keys = Function.update r.keys (seatLockKey eventId seatId) none) := by
  have hs := release_noNoscript userId holdId
  unfold releaseSeatHold at h
  simp only at h
  split at h
  · cases h
  next r₁ code hr =>
    obtain ⟨cell, hc, hk, hn⟩ := runScript_ok hs hr
    simp only [Prod.mk.injEq, Except.ok.injEq] at h
    obtain ⟨rfl, rfl⟩ := h
    simp only [Except.ok.injEq] at hc
    refine ⟨?_, ?_⟩
    · rw [LockRedis.wait, hn]
      exact scriptTime_ge.trans (Nat.le_add_right _ _)
    by_cases hone : code = 1
    · subst hone
      obtain ⟨parsed, hread, hu, hh, hnone⟩ := release_seat_one (by rw [hc])
      rw [hc] at hnone
      refine .inr ⟨rfl, parsed, hread, hu, hh, ?_⟩
      simp only at hnone
      rw [LockRedis.wait, hk, hnone]
    · have hkept := release_seat_kept (h := by rw [hc]; exact hone)
      rw [hc] at hkept
      simp only at hkept
      exact .inl ⟨by simpa using hone, by rw [LockRedis.wait, hk, hkept, Function.update_eq_self]⟩

theorem releaseSeatHold_error {digests : ScriptDigests} {r r' : LockRedis}
    {eventId seatId userId holdId : String} {d : Delays} {e : RedisError}
    (h : releaseSeatHold digests r eventId seatId userId holdId d = (r', .error e)) :
    r'.keys = r.keys ∧ r.now ≤ r'.now := by
  have hs := release_noNoscript userId holdId
  unfold releaseSeatHold at h
  simp only at h
  split at h
  next r₁ e' hr =>
    cases h
    exact runScript_error hs hr
  · cases h

/-- One event in the life of the seat keys. Redis may forget its scripts between calls. -/
inductive LockCall
  | acquire (eventId seatId userId : String) (ttlSeconds : JsNumber) (holdId : String) (d : Delays)
  | release (eventId seatId userId holdId : String) (d : Delays)
  | advance (ms : Nat)
  | flushScripts

def LockCall.exec (digests : ScriptDigests) (r : LockRedis) : LockCall → LockRedis
  | .acquire eventId seatId userId ttlSeconds holdId d =>
    (acquireSeatHold digests r eventId seatId userId ttlSeconds holdId d).1
  | .release eventId seatId userId holdId d =>
    (releaseSeatHold digests r eventId seatId userId holdId d).1
  | .advance ms => r.wait ms
  | .flushScripts => { r with cached := fun _ => false }

def lockMachine (digests : ScriptDigests) : Machine LockRedis LockCall where
  step r call := some (call.exec digests r)

/-- The call is a release on `key` that returns true. -/
def Frees (digests : ScriptDigests) (key : String) (r : LockRedis) (call : LockCall) : Prop :=
  ∃ eventId seatId userId holdId d, call = .release eventId seatId userId holdId d ∧
    seatLockKey eventId seatId = key ∧
    (releaseSeatHold digests r eventId seatId userId holdId d).2 = .ok true

theorem exec_now_le (digests : ScriptDigests) (r : LockRedis) (call : LockCall) :
    r.now ≤ (call.exec digests r).now := by
  cases call with
  | acquire e s u t hid d =>
    rcases h : acquireSeatHold digests r e s u t hid d with ⟨r', _ | x⟩
    · rw [LockCall.exec, h]; exact (acquireSeatHold_error h).2
    · rw [LockCall.exec, h, (acquireSeatHold_ok h).1]
      exact scriptTime_ge.trans (Nat.le_add_right _ _)
  | release e s u hid d =>
    rcases h : releaseSeatHold digests r e s u hid d with ⟨r', _ | b⟩
    · rw [LockCall.exec, h]; exact (releaseSeatHold_error h).2
    · rw [LockCall.exec, h]; exact (releaseSeatHold_ok h).1
  | advance ms => exact Nat.le_add_right _ _
  | flushScripts => exact le_refl _

/-- A seat key is a lease of the lock machine: only its deadline or a release that returns
true ends a stored hold. -/
def seatLeased (digests : ScriptDigests) (key : String) :
    (lockMachine digests).Leased SeatLock where
  now := LockRedis.now
  cell r := r.keys key
  frees := Frees digests key
  now_le {s l t} h := by
    cases h
    exact exec_now_le digests s l
  kept {s l t c} h hc hd hf := by
    cases h
    cases l with
    | acquire e s' u t hid d =>
      rcases h : acquireSeatHold digests s e s' u t hid d with ⟨r', _ | x⟩
      · simp only [LockCall.exec, h]; rw [(acquireSeatHold_error h).1]; exact hc
      simp only [LockCall.exec, h] at hd ⊢
      obtain ⟨hn, ⟨-, hk⟩ | ⟨-, hfree, c', -, -, -, hk⟩⟩ := acquireSeatHold_ok h
      · rw [hk]; exact hc
      · rw [hk]
        by_cases hkey : key = seatLockKey e s'
        · subst hkey
          rw [hc] at hfree
          have := Lease.read_eq_none hfree
          omega
        · rw [Function.update_of_ne hkey]; exact hc
    | release e s' u hid d =>
      rcases h : releaseSeatHold digests s e s' u hid d with ⟨r', _ | b⟩
      · simp only [LockCall.exec, h]; rw [(releaseSeatHold_error h).1]; exact hc
      simp only [LockCall.exec, h] at hd ⊢
      obtain ⟨-, ⟨-, hk⟩ | ⟨hb, parsed, -, -, -, hk⟩⟩ := releaseSeatHold_ok h
      · rw [hk]; exact hc
      · rw [hk]
        by_cases hkey : key = seatLockKey e s'
        · exact absurd ⟨e, s', u, hid, d, rfl, hkey.symm, by rw [h, hb]⟩ hf
        · rw [Function.update_of_ne hkey]; exact hc
    | advance ms => exact hc
    | flushScripts => exact hc

/-- Up to its deadline a stored hold stands, unless a release with its own user and hold has
returned true. -/
theorem hold_kept_or_released {digests : ScriptDigests} {r s : LockRedis} {key : String}
    {c : Lease SeatLock} {calls : List LockCall} (hc : r.keys key = some c)
    (hrun : (lockMachine digests).run r calls = some s) (ht : s.now ≤ c.deadline) :
    s.keys key = some c ∨
      ∃ before eventId seatId d after r',
        calls = before ++ .release eventId seatId c.value.userId c.value.holdId d :: after ∧
        seatLockKey eventId seatId = key ∧ (lockMachine digests).run r before = some r' ∧
        (releaseSeatHold digests r' eventId seatId c.value.userId c.value.holdId d).2 =
          .ok true := by
  rcases (seatLeased digests key).kept_or_freed hc hrun ht with
    hkept | ⟨before, call, after, r', rfl, hr', hc', -, e, s', u, hid, d, rfl, hk, htrue⟩
  · exact .inl hkept
  right
  rcases h : releaseSeatHold digests r' e s' u hid d with ⟨r'', res⟩
  rw [h] at htrue
  cases htrue
  obtain ⟨-, ⟨hb, -⟩ | ⟨-, parsed, hread, hu, hh, -⟩⟩ := releaseSeatHold_ok h
  · cases hb
  change r'.keys _ = some c at hc'
  obtain ⟨c', hc'', -, rfl⟩ := Lease.read_eq_some.mp hread
  rw [hk, hc'] at hc''
  cases hc''
  subst hu hh
  exact ⟨before, e, s', d, after, r', rfl, hk, hr', by rw [h]⟩

/-- Once an acquisition has returned 1, the next one that returns 1 on the same key comes after
its TTL, or after a release with its own user and hold that returned true. -/
theorem acquisitions_apart {digests : ScriptDigests} {r r₁ r₂ r₃ : LockRedis}
    {eventId₁ seatId₁ user₁ hold₁ eventId₂ seatId₂ user₂ hold₂ : String} {ttl₁ ttl₂ : JsNumber}
    {d₁ d₂ : Delays} {x₁ x₂ : SeatLockExecution} {calls : List LockCall}
    (hkey : seatLockKey eventId₂ seatId₂ = seatLockKey eventId₁ seatId₁)
    (h₁ : acquireSeatHold digests r eventId₁ seatId₁ user₁ ttl₁ hold₁ d₁ = (r₁, .ok x₁))
    (one₁ : x₁.result = 1) (hrun : (lockMachine digests).run r₁ calls = some r₂)
    (h₂ : acquireSeatHold digests r₂ eventId₂ seatId₂ user₂ ttl₂ hold₂ d₂ = (r₃, .ok x₂))
    (one₂ : x₂.result = 1) :
    (scriptTime r .atomicSeatLock d₁.source : ℚ) + x₁.ttlSeconds * 1000 <
        scriptTime r₂ .atomicSeatLock d₂.source ∨
      ∃ before eventId seatId d after r',
        calls = before ++ .release eventId seatId user₁ hold₁ d :: after ∧
        seatLockKey eventId seatId = seatLockKey eventId₁ seatId₁ ∧
        (lockMachine digests).run r₁ before = some r' ∧
        (releaseSeatHold digests r' eventId seatId user₁ hold₁ d).2 = .ok true := by
  obtain ⟨-, ⟨hz, -⟩ | ⟨-, -, c, hcu, hch, hcd, hk₁⟩⟩ := acquireSeatHold_ok h₁
  · omega
  obtain ⟨-, ⟨hz, -⟩ | ⟨-, hfree, -⟩⟩ := acquireSeatHold_ok h₂
  · omega
  rw [hkey] at hfree
  have hc : r₁.keys (seatLockKey eventId₁ seatId₁) = some c := by
    rw [hk₁, Function.update_self]
  by_cases hlate : c.deadline < scriptTime r₂ .atomicSeatLock d₂.source
  · left
    rw [← hcd]
    exact_mod_cast hlate
  right
  have ht : r₂.now ≤ c.deadline := scriptTime_ge.trans (Nat.le_of_not_lt hlate)
  rcases hold_kept_or_released hc hrun ht with hkept | hreleased
  · rw [hkept] at hfree
    exact absurd (Lease.read_eq_none hfree) hlate
  · rw [hcu, hch] at hreleased
    exact hreleased

section Congr

variable {α : Type*} {digests : ScriptDigests}
  {r s : LockRedis} {eventId seatId userId holdId : String} {ttlSeconds : JsNumber} {reply : Nat}

/-- Two outcomes of a script call that differ at most in keys `view` does not show. -/
structure SameReply (view : (String → Option (Lease SeatLock)) → α)
    (p q : LockRedis × Except RedisError Int) : Prop where
  answer : p.2 = q.2
  keys : view p.1.keys = view q.1.keys
  now : p.1.now = q.1.now

/-- What follows the script of an acquisition depends on its outcome alone. -/
theorem acquireSeatHold_congr (view : (String → Option (Lease SeatLock)) → α)
    (h : SameReply view
      (runScript digests r .atomicSeatLock (seatLockKey eventId seatId)
        (fun now cell =>
          atomic_seat_lock now cell userId holdId (some (effectiveTtl ttlSeconds))) 0)
      (runScript digests s .atomicSeatLock (seatLockKey eventId seatId)
        (fun now cell => atomic_seat_lock now cell userId holdId (some (effectiveTtl ttlSeconds)))
        0)) :
    (acquireSeatHold digests r eventId seatId userId ttlSeconds holdId ⟨0, reply⟩).2 =
        (acquireSeatHold digests s eventId seatId userId ttlSeconds holdId ⟨0, reply⟩).2 ∧
      view (acquireSeatHold digests r eventId seatId userId ttlSeconds holdId ⟨0, reply⟩).1.keys =
        view
          (acquireSeatHold digests s eventId seatId userId ttlSeconds holdId ⟨0, reply⟩).1.keys := by
  unfold acquireSeatHold
  simp only
  generalize runScript digests r .atomicSeatLock (seatLockKey eventId seatId)
    (fun now cell => atomic_seat_lock now cell userId holdId (some (effectiveTtl ttlSeconds))) 0 =
    p at h ⊢
  generalize runScript digests s .atomicSeatLock (seatLockKey eventId seatId)
    (fun now cell => atomic_seat_lock now cell userId holdId (some (effectiveTtl ttlSeconds))) 0 =
    q at h ⊢
  obtain ⟨p₁, p₂⟩ := p
  obtain ⟨q₁, q₂⟩ := q
  obtain ⟨rfl, hk, hn⟩ := h
  simp only at hk hn
  cases p₂ with
  | error e => exact ⟨rfl, hk⟩
  | ok code => exact ⟨by simp only [LockRedis.wait, hn], hk⟩

theorem releaseSeatHold_congr (view : (String → Option (Lease SeatLock)) → α)
    (h : SameReply view
      (runScript digests r .releaseSeat (seatLockKey eventId seatId)
        (fun now cell => .ok (release_seat now cell userId holdId)) 0)
      (runScript digests s .releaseSeat (seatLockKey eventId seatId)
        (fun now cell => .ok (release_seat now cell userId holdId)) 0)) :
    (releaseSeatHold digests r eventId seatId userId holdId ⟨0, reply⟩).2 =
        (releaseSeatHold digests s eventId seatId userId holdId ⟨0, reply⟩).2 ∧
      view (releaseSeatHold digests r eventId seatId userId holdId ⟨0, reply⟩).1.keys =
        view (releaseSeatHold digests s eventId seatId userId holdId ⟨0, reply⟩).1.keys := by
  unfold releaseSeatHold
  simp only
  generalize runScript digests r .releaseSeat (seatLockKey eventId seatId)
    (fun now cell => .ok (release_seat now cell userId holdId)) 0 = p at h ⊢
  generalize runScript digests s .releaseSeat (seatLockKey eventId seatId)
    (fun now cell => .ok (release_seat now cell userId holdId)) 0 = q at h ⊢
  obtain ⟨p₁, p₂⟩ := p
  obtain ⟨q₁, q₂⟩ := q
  obtain ⟨rfl, hk, -⟩ := h
  simp only at hk
  cases p₂ with
  | error e => exact ⟨rfl, hk⟩
  | ok code => exact ⟨rfl, hk⟩

end Congr

/-- EVALSHA and the EVAL fallback answer alike and leave the same keys when the source is at
hand at once. -/
theorem acquireSeatHold_path (digests : ScriptDigests) (r : LockRedis)
    (eventId seatId userId holdId : String) (ttlSeconds : JsNumber) (reply : Nat)
    (cached : LuaScriptName → Bool) :
    let a := acquireSeatHold digests r eventId seatId userId ttlSeconds holdId ⟨0, reply⟩
    let b := acquireSeatHold digests { r with cached } eventId seatId userId ttlSeconds holdId
      ⟨0, reply⟩
    b.2 = a.2 ∧ b.1.keys = a.1.keys := by
  have hs := acquire_noNoscript userId holdId (effectiveTtl ttlSeconds)
  obtain ⟨hanswer, hkeys, hnow⟩ :=
    runScript_path digests r .atomicSeatLock (seatLockKey eventId seatId) hs cached
  exact acquireSeatHold_congr id ⟨hanswer, hkeys, hnow⟩

theorem releaseSeatHold_path (digests : ScriptDigests) (r : LockRedis)
    (eventId seatId userId holdId : String) (reply : Nat) (cached : LuaScriptName → Bool) :
    let a := releaseSeatHold digests r eventId seatId userId holdId ⟨0, reply⟩
    let b := releaseSeatHold digests { r with cached } eventId seatId userId holdId ⟨0, reply⟩
    b.2 = a.2 ∧ b.1.keys = a.1.keys := by
  have hs := release_noNoscript userId holdId
  obtain ⟨hanswer, hkeys, hnow⟩ :=
    runScript_path digests r .releaseSeat (seatLockKey eventId seatId) hs cached
  exact releaseSeatHold_congr id ⟨hanswer, hkeys, hnow⟩

/-- Seat holds are exclusive leases: acquisitions of one key that return 1 are separated by the
TTL of the first or by its owner's release; every other call that returns leaves each stored hold
and its deadline alone; and the two execution paths agree. -/
theorem seat_hold_exclusive_lease (digests : ScriptDigests) :
    (∀ (r r₁ r₂ r₃ : LockRedis)
      (eventId₁ seatId₁ user₁ hold₁ eventId₂ seatId₂ user₂ hold₂ : String) (ttl₁ ttl₂ : JsNumber)
      (d₁ d₂ : Delays) (x₁ x₂ : SeatLockExecution) (calls : List LockCall),
      seatLockKey eventId₂ seatId₂ = seatLockKey eventId₁ seatId₁ →
      acquireSeatHold digests r eventId₁ seatId₁ user₁ ttl₁ hold₁ d₁ = (r₁, .ok x₁) →
      x₁.result = 1 → (lockMachine digests).run r₁ calls = some r₂ →
      acquireSeatHold digests r₂ eventId₂ seatId₂ user₂ ttl₂ hold₂ d₂ = (r₃, .ok x₂) →
      x₂.result = 1 →
      (scriptTime r .atomicSeatLock d₁.source : ℚ) + x₁.ttlSeconds * 1000 <
          scriptTime r₂ .atomicSeatLock d₂.source ∨
        ∃ before eventId seatId d after r',
          calls = before ++ .release eventId seatId user₁ hold₁ d :: after ∧
          seatLockKey eventId seatId = seatLockKey eventId₁ seatId₁ ∧
          (lockMachine digests).run r₁ before = some r' ∧
          (releaseSeatHold digests r' eventId seatId user₁ hold₁ d).2 = .ok true) ∧
    (∀ (r r' : LockRedis) (eventId seatId userId holdId : String) (ttl : JsNumber) (d : Delays)
      (x : SeatLockExecution),
      acquireSeatHold digests r eventId seatId userId ttl holdId d = (r', .ok x) →
      x.result ≠ 1 → r'.keys = r.keys) ∧
    (∀ (r r' : LockRedis) (eventId seatId userId holdId : String) (d : Delays),
      releaseSeatHold digests r eventId seatId userId holdId d = (r', .ok false) →
      r'.keys = r.keys) ∧
    (∀ (r : LockRedis) (cached : LuaScriptName → Bool) (eventId seatId userId holdId : String)
      (ttl : JsNumber) (reply : Nat),
      (acquireSeatHold digests { r with cached } eventId seatId userId ttl holdId ⟨0, reply⟩).2 =
        (acquireSeatHold digests r eventId seatId userId ttl holdId ⟨0, reply⟩).2 ∧
      (acquireSeatHold digests { r with cached } eventId seatId userId ttl holdId
          ⟨0, reply⟩).1.keys =
        (acquireSeatHold digests r eventId seatId userId ttl holdId ⟨0, reply⟩).1.keys ∧
      (releaseSeatHold digests { r with cached } eventId seatId userId holdId ⟨0, reply⟩).2 =
        (releaseSeatHold digests r eventId seatId userId holdId ⟨0, reply⟩).2 ∧
      (releaseSeatHold digests { r with cached } eventId seatId userId holdId
          ⟨0, reply⟩).1.keys =
        (releaseSeatHold digests r eventId seatId userId holdId ⟨0, reply⟩).1.keys) := by
  refine ⟨?_, ?_, ?_, ?_⟩
  · intro r r₁ r₂ r₃ e₁ s₁ u₁ h₁ e₂ s₂ u₂ h₂ t₁ t₂ d₁ d₂ x₁ x₂ calls hkey ha one₁ hrun hb one₂
    exact acquisitions_apart hkey ha one₁ hrun hb one₂
  · intro r r' e s u hid t d x h hne
    obtain ⟨-, ⟨-, hk⟩ | ⟨hone, -⟩⟩ := acquireSeatHold_ok h
    · exact hk
    · exact absurd hone hne
  · intro r r' e s u hid d h
    obtain ⟨-, ⟨-, hk⟩ | ⟨hb, -⟩⟩ := releaseSeatHold_ok h
    · exact hk
    · cases hb
  · intro r cached e s u hid t reply
    have ha := acquireSeatHold_path digests r e s u hid t reply cached
    have hr := releaseSeatHold_path digests r e s u hid reply cached
    exact ⟨ha.1, ha.2, hr.1, hr.2⟩

/-- `u2` asks for the seat, `u1` releases it, and `u2` asks once more. -/
def handover : List LockCall :=
  [.acquire "e" "s" "u2" (.finite 600) "h2" ⟨0, 1⟩, .release "e" "s" "u1" "h1" ⟨4, 1⟩]

/-- The server after the first acquisition. -/
def firstHeld : LockRedis :=
  (acquireSeatHold (fun _ => true) ⟨0, fun _ => none, fun _ => false⟩ "e" "s" "u1" (.finite 600)
    "h1" ⟨3, 2⟩).1

theorem seat_hold_exclusive_lease_handover :
    ∃ r₂ x₂, (lockMachine fun _ => true).run firstHeld handover = some r₂ ∧
      (acquireSeatHold (fun _ => true) r₂ "e" "s" "u2" (.finite 600) "h2" ⟨0, 1⟩).2 = .ok x₂ ∧
      x₂.result = 1 ∧
      ∃ before eventId seatId d after r',
        handover = before ++ .release eventId seatId "u1" "h1" d :: after ∧
        seatLockKey eventId seatId = seatLockKey "e" "s" ∧
        (lockMachine fun _ => true).run firstHeld before = some r' ∧
        (releaseSeatHold (fun _ => true) r' eventId seatId "u1" "h1" d).2 = .ok true := by
  have hfirst : (acquireSeatHold (fun _ => true) ⟨0, fun _ => none, fun _ => false⟩ "e" "s" "u1"
      (.finite 600) "h1" ⟨3, 2⟩).2 = .ok ⟨1, "h1", 600, 600005⟩ := by
    decide +kernel
  have hsecond : ((lockMachine fun _ => true).run firstHeld handover).map (fun r₂ =>
      (scriptTime r₂ .atomicSeatLock 0,
        (acquireSeatHold (fun _ => true) r₂ "e" "s" "u2" (.finite 600) "h2" ⟨0, 1⟩).2)) =
      some (11, .ok ⟨1, "h2", 600, 600012⟩) := by
    decide +kernel
  obtain ⟨r₂, hrun, hview⟩ := Option.map_eq_some_iff.mp hsecond
  obtain ⟨htime, hanswer⟩ := Prod.mk.inj hview
  refine ⟨r₂, _, hrun, hanswer, rfl, ?_⟩
  have hapart := (seat_hold_exclusive_lease fun _ => true).1 ⟨0, fun _ => none, fun _ => false⟩
    firstHeld r₂ _ "e" "s" "u1" "h1" "e" "s" "u2" "h2" (.finite 600) (.finite 600) ⟨3, 2⟩ ⟨0, 1⟩
    ⟨1, "h1", 600, 600005⟩ ⟨1, "h2", 600, 600012⟩ handover rfl (Prod.ext rfl hfirst) rfl hrun
    (Prod.ext rfl hanswer) rfl
  rcases hapart with hlate | hreleased
  · rw [htime] at hlate
    exact absurd hlate (by decide +kernel)
  · exact hreleased

end TicketEngine
