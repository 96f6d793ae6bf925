import TicketEngine.Services.SeatLease

namespace TicketEngine

/-- Redis at the instant after the script of a call, before its reply is looked at. -/
def afterAcquire (digests : ScriptDigests) (r : LockRedis) (eventId seatId userId : String)
    (ttlSeconds : JsNumber) (holdId : String) (d : Delays) : LockRedis :=
  (acquireSeatHold digests r eventId seatId userId ttlSeconds holdId ⟨d.source, 0⟩).1

/-- Whatever calls follow the script, at every instant before `expiresAt` the hold is still in
Redis, or its owner has released it. -/
def ExpirySafe (digests : ScriptDigests) (r : LockRedis) (eventId seatId userId holdId : String)
    (expiresAt : ℚ) : Prop :=
  ∀ (calls : List LockCall) (s : LockRedis),
    (lockMachine digests).run r calls = some s → (s.now : ℚ) < expiresAt →
      (∃ lock, Lease.read s.now (s.keys (seatLockKey eventId seatId)) = some lock ∧
        lock.userId = userId ∧ lock.holdId = holdId) ∨
      ∃ before event seat d after r',
        calls = before ++ .release event seat userId holdId d :: after ∧
        seatLockKey event seat = seatLockKey eventId seatId ∧
        (lockMachine digests).run r before = some r' ∧
        (releaseSeatHold digests r' event seat userId holdId d).2 = .ok true

section Expiry

variable {digests : ScriptDigests} {r r' : LockRedis} {eventId seatId userId holdId : String}
  {ttlSeconds : JsNumber} {d : Delays} {x : SeatLockExecution}

theorem effectiveTtl_pos (ttlSeconds : JsNumber) : 0 < effectiveTtl ttlSeconds := by
  cases ttlSeconds with
  | notFinite => norm_num [effectiveTtl, DEFAULT_TTL_SECONDS]
  | finite ttl =>
    simp only [effectiveTtl]
    split
    next hpos => exact hpos
    next => norm_num [DEFAULT_TTL_SECONDS]

/-- The reply decides when the caller goes on, and nothing else. -/
theorem afterAcquire_keys
    (h : acquireSeatHold digests r eventId seatId userId ttlSeconds holdId d = (r', .ok x)) :
    (afterAcquire digests r eventId seatId userId ttlSeconds holdId d).keys = r'.keys ∧
      (afterAcquire digests r eventId seatId userId ttlSeconds holdId d).now + d.reply = r'.now ∧
      x.expiresAt = r'.now + x.ttlSeconds * 1000 ∧ 0 < x.ttlSeconds := by
  unfold afterAcquire
  unfold acquireSeatHold at h ⊢
  simp only at h ⊢
  split at h
  · cases h
  next r₁ code hr =>
    cases h
    exact ⟨rfl, rfl, rfl, effectiveTtl_pos ttlSeconds⟩

/-- A successful call leaves a hold that ends `reply` milliseconds before `expiresAt`. -/
theorem afterAcquire_hold
    (h : acquireSeatHold digests r eventId seatId userId ttlSeconds holdId d = (r', .ok x))
    (hone : x.result = 1) :
    ∃ c, (afterAcquire digests r eventId seatId userId ttlSeconds holdId d).keys
        (seatLockKey eventId seatId) = some c ∧
      c.value.userId = userId ∧ c.value.holdId = holdId ∧
      (afterAcquire digests r eventId seatId userId ttlSeconds holdId d).now ≤ c.deadline ∧
      x.expiresAt = ((c.deadline + d.reply : Nat) : ℚ) := by
  obtain ⟨hkeys, hnow, hexpiresAt, hpos⟩ := afterAcquire_keys h
  obtain ⟨htime, ⟨hzero, -⟩ | ⟨-, -, c, huser, hhold, hdeadline, hput⟩⟩ := acquireSeatHold_ok h
  · omega
  have hscript : (afterAcquire digests r eventId seatId userId ttlSeconds holdId d).now =
      scriptTime r .atomicSeatLock d.source := by omega
  refine ⟨c, ?_, huser, hhold, ?_, ?_⟩
  · rw [hkeys, hput, Function.update_self]
  · rw [hscript]
    have hle : (scriptTime r .atomicSeatLock d.source : ℚ) ≤ c.deadline := by
      rw [hdeadline]
      linarith
    exact_mod_cast hle
  · rw [hexpiresAt, htime]
    push_cast
    rw [hdeadline]
    ring

/-- A clock read two milliseconds after the script promises the first instant at which Redis no
longer shows the hold. -/
theorem not_safe_of_late {r₀ : LockRedis} {c : Lease SeatLock}
    (hc : r₀.keys (seatLockKey eventId seatId) = some c) (hlive : r₀.now ≤ c.deadline)
    {reply : Nat} (hlate : 1 < reply) :
    ¬ ExpirySafe digests r₀ eventId seatId userId holdId ((c.deadline + reply : Nat) : ℚ) := by
  intro hsafe
  let gap := c.deadline + 1 - r₀.now
  have hrun : (lockMachine digests).run r₀ [.advance gap] = some (r₀.wait gap) := rfl
  have hnow : (r₀.wait gap).now = c.deadline + 1 := by
    simp only [LockRedis.wait, gap]
    omega
  have hbefore : ((r₀.wait gap).now : ℚ) < ((c.deadline + reply : Nat) : ℚ) := by
    rw [hnow]
    exact_mod_cast (by omega : c.deadline + 1 < c.deadline + reply)
  rcases hsafe _ _ hrun hbefore with ⟨lock, hread, -⟩ | ⟨before, e, s, d, after, -, hcalls, -⟩
  · have hread' : Lease.read (c.deadline + 1) (some c) = some lock := by
      rw [← hnow, ← hc]
      exact hread
    obtain ⟨c', hc', hdeadline, -⟩ := Lease.read_eq_some.mp hread'
    have hsame : c = c' := Option.some.inj hc'
    rw [← hsame] at hdeadline
    omega
  · cases before with
    | nil => cases hcalls
    | cons call before =>
      have hrest := (List.cons.inj hcalls).2
      cases before <;> cases hrest

theorem safe_of_prompt {r₀ : LockRedis} {c : Lease SeatLock}
    (hc : r₀.keys (seatLockKey eventId seatId) = some c) (huser : c.value.userId = userId)
    (hhold : c.value.holdId = holdId) {reply : Nat} (hprompt : reply ≤ 1) :
    ExpirySafe digests r₀ eventId seatId userId holdId ((c.deadline + reply : Nat) : ℚ) := by
  intro calls s hrun hbefore
  have hlt : s.now < c.deadline + reply := by exact_mod_cast hbefore
  have hin : s.now ≤ c.deadline := by omega
  rcases hold_kept_or_released hc hrun hin with hkept | hreleased
  · exact .inl ⟨c.value, Lease.read_eq_some.mpr ⟨c, hkept, hin, rfl⟩, huser, hhold⟩
  · rw [huser, hhold] at hreleased
    exact .inr hreleased

/-- The reported expiry is safe exactly when the clock is read in the millisecond of the script
or in the next one. -/
theorem expiry_safe_iff
    (h : acquireSeatHold digests r eventId seatId userId ttlSeconds holdId d = (r', .ok x))
    (hone : x.result = 1) :
    ExpirySafe digests (afterAcquire digests r eventId seatId userId ttlSeconds holdId d)
        eventId seatId userId holdId x.expiresAt ↔ d.reply ≤ 1 := by
  obtain ⟨c, hc, huser, hhold, hlive, hexpiresAt⟩ := afterAcquire_hold h hone
  rw [hexpiresAt]
  constructor
  · intro hsafe
    by_contra hlate
    exact not_safe_of_late hc hlive (Nat.lt_of_not_le hlate) hsafe
  · intro hprompt
    exact safe_of_prompt hc huser hhold hprompt

end Expiry

/-- A server that has just started, with both scripts loaded. -/
def idleRedis : LockRedis := ⟨0, fun _ => none, fun _ => true⟩

/-- The hold of `user` on one seat of an idle server, answered after `reply` milliseconds. -/
def firstHold (reply : Nat) : LockRedis × Except RedisError SeatLockExecution :=
  acquireSeatHold (fun _ => true) idleRedis "event" "A-1" "user" (.finite 600) "hold" ⟨0, reply⟩

theorem firstHold_one : (firstHold 1).2 = .ok ⟨1, "hold", 600, 600001⟩ := by decide +kernel

theorem firstHold_two : (firstHold 2).2 = .ok ⟨1, "hold", 600, 600002⟩ := by decide +kernel

theorem expiry_safe_prompt :
    ExpirySafe (fun _ => true)
      (afterAcquire (fun _ => true) idleRedis "event" "A-1" "user" (.finite 600) "hold" ⟨0, 1⟩)
      "event" "A-1" "user" "hold" 600001 := by
  have hcall : firstHold 1 = ((firstHold 1).1, .ok ⟨1, "hold", 600, 600001⟩) :=
    Prod.ext rfl firstHold_one
  exact (expiry_safe_iff hcall rfl).mpr (le_refl 1)

/-- A reply two milliseconds late reports an expiry at which the seat can already be held by
another user one millisecond earlier. -/
theorem expiry_unsafe_late :
    (firstHold 2).2 = .ok ⟨1, "hold", 600, 600002⟩ ∧
      ¬ ExpirySafe (fun _ => true)
        (afterAcquire (fun _ => true) idleRedis "event" "A-1" "user" (.finite 600) "hold" ⟨0, 2⟩)
        "event" "A-1" "user" "hold" 600002 := by
  have hcall : firstHold 2 = ((firstHold 2).1, .ok ⟨1, "hold", 600, 600002⟩) :=
    Prod.ext rfl firstHold_two
  obtain ⟨c, hc, -, -, hlive, hexpiresAt⟩ := afterAcquire_hold hcall rfl
  refine ⟨firstHold_two, ?_⟩
  have hsum : (600002 : ℚ) = ((c.deadline + 2 : Nat) : ℚ) := hexpiresAt
  rw [hsum]
  exact not_safe_of_late hc hlive (by omega)

end TicketEngine
