import TicketEngine.System.Engine
import Mathlib.Data.List.Nodup
import Mathlib.Data.List.Range

namespace TicketEngine

/-- One call of `claimPendingMessages`, some milliseconds after the one before. -/
structure ClaimCall where
  wait : Nat
  worker : Nat

/-- Consecutive calls with nothing else touching the stream, and all the messages they return. -/
def claimCalls (s : Store) : List ClaimCall → Option (Store × List RedisStreamMessage)
  | [] => some (s, [])
  | call :: calls => do
    let (s, messages) ← claimPendingMessages (s.setRedis (s.redis.wait call.wait)) call.worker
    let (s, rest) ← claimCalls s calls
    return (s, messages ++ rest)

def elapsed (calls : List ClaimCall) : Nat := (calls.map ClaimCall.wait).sum

/-- Every pending entry has been idle for the claim time; the list is in the order of ids, and
its entries are still in the stream. -/
structure AllIdle (s : Store) (g : ConsumerGroup) : Prop where
  group : s.stream.group = some g
  ordered : g.pending.Pairwise fun a b => a.id < b.id
  idle : ∀ d ∈ g.pending, d.time + CLAIM_IDLE_MS ≤ s.redis.now
  entries : ∀ d ∈ g.pending, ∃ e ∈ s.stream.entries, e.1 = d.id

/-- The calls are over within the claim time and have returned the whole pending list. -/
def ReturnsAll (s : Store) (g : ConsumerGroup) (calls : List ClaimCall) : Prop :=
  elapsed calls ≤ CLAIM_IDLE_MS ∧
    ∃ s' messages, claimCalls s calls = some (s', messages) ∧
      ∀ d ∈ g.pending, d.id ∈ messages.map RedisStreamMessage.id

section Calls

variable {s s' : Store} {g : ConsumerGroup} {messages : List RedisStreamMessage}

theorem claimPendingMessages_eq (hg : s.stream.group = some g) (w : Nat) :
    claimPendingMessages s w =
      some (s.setStream { s.stream with
          group := some (Stream.afterClaim g s.redis.now w CLAIM_IDLE_MS BATCH_SIZE) },
        (s.stream.entries.filter fun e =>
          e.1 ∈ Stream.idle g s.redis.now CLAIM_IDLE_MS BATCH_SIZE).map toMessage) := by
  simp only [claimPendingMessages, Stream.autoclaim, hg, Option.map_some]
  rfl

/-- Each call looks at the first `10 * BATCH_SIZE` pending entries only. -/
theorem claimCalls_scanned {calls : List ClaimCall} (hg : s.stream.group = some g)
    (h : claimCalls s calls = some (s', messages)) :
    ∀ message ∈ messages,
      message.id ∈ (g.pending.map Delivery.id).take (10 * BATCH_SIZE) := by
  induction calls generalizing s g messages with
  | nil =>
    cases h
    intro message hmem
    exact absurd hmem List.not_mem_nil
  | cons call calls ih =>
    have hwait : (s.setRedis (s.redis.wait call.wait)).stream.group = some g := hg
    simp only [claimCalls, claimPendingMessages_eq hwait, Option.bind_eq_bind, Option.bind_some,
      Option.bind_eq_some_iff] at h
    obtain ⟨⟨s₂, rest⟩, hrest, heq⟩ := h
    cases heq
    intro message hmem
    cases List.mem_append.mp hmem with
    | inl hnow =>
      obtain ⟨e, he, rfl⟩ := List.mem_map.mp hnow
      have hclaimed : e.1 ∈ Stream.idle g (s.redis.now + call.wait) CLAIM_IDLE_MS BATCH_SIZE :=
        of_decide_eq_true (List.mem_filter.mp he).2
      exact Stream.idle_mem_scanned hclaimed
    | inr hlater =>
      have hscanned := ih rfl hrest message hlater
      simpa only [Stream.afterClaim, Stream.claimed_ids] using hscanned

/-- Calls within the claim time after `start` return the head of what is left, a batch each. -/
theorem claimCalls_recovers (calls : List ClaimCall) {start : Nat} {left : List Nat}
    (hg : s.stream.group = some g) (hleft : Stream.Recovering g start CLAIM_IDLE_MS left)
    (hscan : g.pending.length ≤ 10 * BATCH_SIZE) (hpast : start ≤ s.redis.now)
    (hsoon : s.redis.now + elapsed calls < start + CLAIM_IDLE_MS)
    (hentries : ∀ id ∈ left, ∃ e ∈ s.stream.entries, e.1 = id) :
    ∃ s' messages, claimCalls s calls = some (s', messages) ∧
      ∀ id ∈ left.take (BATCH_SIZE * calls.length),
        id ∈ messages.map RedisStreamMessage.id := by
  induction calls generalizing s g left with
  | nil =>
    refine ⟨s, [], rfl, ?_⟩
    intro id hid
    simp at hid
  | cons call calls ih =>
    have hwait : (s.setRedis (s.redis.wait call.wait)).stream.group = some g := hg
    let now := s.redis.now + call.wait
    have hlate : start ≤ now := by omega
    have helapsed : elapsed (call :: calls) = call.wait + elapsed calls := by
      simp [elapsed]
    have hnow : now + elapsed calls < start + CLAIM_IDLE_MS := by omega
    have hin : now < start + CLAIM_IDLE_MS := by omega
    have hidle := hleft.idle_eq hscan hlate hin
    have hnext := hleft.claim hscan hlate hin call.worker
    have hlength : (Stream.afterClaim g now call.worker CLAIM_IDLE_MS BATCH_SIZE).pending.length ≤
        10 * BATCH_SIZE := by
      simpa [Stream.afterClaim] using hscan
    let next := (s.setRedis (s.redis.wait call.wait)).setStream { s.stream with
      group := some (Stream.afterClaim g now call.worker CLAIM_IDLE_MS BATCH_SIZE) }
    obtain ⟨s', rest, hrest, hreturned⟩ := ih (s := next) rfl hnext hlength hlate hnow
      fun id hid => hentries id (List.mem_of_mem_drop hid)
    let batch := (s.stream.entries.filter fun e =>
      e.1 ∈ Stream.idle g now CLAIM_IDLE_MS BATCH_SIZE).map toMessage
    have hcall : claimCalls s (call :: calls) =
        (claimCalls next calls).bind fun p => some (p.1, batch ++ p.2) := by
      simp only [claimCalls, claimPendingMessages_eq hwait]
      rfl
    refine ⟨s', batch ++ rest, ?_, ?_⟩
    · rw [hcall, hrest]
      rfl
    · intro id hid
      rw [List.map_append, List.mem_append]
      have hlen : BATCH_SIZE * (call :: calls).length =
          BATCH_SIZE + BATCH_SIZE * calls.length := by
        rw [List.length_cons, Nat.mul_succ, Nat.add_comm]
      rw [hlen, List.take_add] at hid
      cases List.mem_append.mp hid with
      | inl hhead =>
        obtain ⟨e, he, heq⟩ := hentries id (List.mem_of_mem_take hhead)
        left
        refine List.mem_map.mpr ⟨toMessage e, List.mem_map_of_mem ?_, heq⟩
        apply List.mem_filter.mpr
        refine ⟨he, ?_⟩
        have hclaimed : e.1 ∈ Stream.idle g now CLAIM_IDLE_MS BATCH_SIZE := by
          rw [hidle, heq]
          exact hhead
        simpa using hclaimed
      | inr htail => exact .inr (hreturned id htail)

end Calls

theorem AllIdle.distinct {s : Store} {g : ConsumerGroup} (h : AllIdle s g) :
    (g.pending.map Delivery.id).Nodup := by
  apply List.pairwise_map.mpr
  exact h.ordered.imp fun hlt => Nat.ne_of_lt hlt

theorem AllIdle.recovering {s : Store} {g : ConsumerGroup} (h : AllIdle s g) :
    Stream.Recovering g s.redis.now CLAIM_IDLE_MS (g.pending.map Delivery.id) := by
  refine ⟨h.distinct, fun d hd => .inl (h.idle d hd), ?_⟩
  congr 1
  apply List.filter_eq_self.mpr
  intro d hd
  simpa using h.idle d hd

/-- Ten calls at any times within the claim time are enough for a list that one scan covers. -/
theorem AllIdle.returnsAll {s : Store} {g : ConsumerGroup} (h : AllIdle s g)
    (hscan : g.pending.length ≤ 10 * BATCH_SIZE) {calls : List ClaimCall}
    (hcalls : 10 ≤ calls.length) (hsoon : elapsed calls < CLAIM_IDLE_MS) :
    ReturnsAll s g calls := by
  have hentries : ∀ id ∈ g.pending.map Delivery.id, ∃ e ∈ s.stream.entries, e.1 = id := by
    intro id hid
    obtain ⟨d, hd, rfl⟩ := List.mem_map.mp hid
    exact h.entries d hd
  obtain ⟨s', messages, hrun, hreturned⟩ := claimCalls_recovers calls h.group
    h.recovering hscan (le_refl _) (by omega) hentries
  refine ⟨hsoon.le, s', messages, hrun, ?_⟩
  intro d hd
  apply hreturned
  have henough : (g.pending.map Delivery.id).length ≤ BATCH_SIZE * calls.length := by
    rw [List.length_map]
    calc g.pending.length ≤ 10 * BATCH_SIZE := hscan
      _ = BATCH_SIZE * 10 := Nat.mul_comm _ _
      _ ≤ BATCH_SIZE * calls.length := Nat.mul_le_mul_left _ hcalls
  rw [List.take_of_length_le henough]
  exact List.mem_map_of_mem hd

/-- The entry right behind the scan is never returned. -/
theorem AllIdle.starved {s : Store} {g : ConsumerGroup} (h : AllIdle s g)
    (hlong : 10 * BATCH_SIZE < g.pending.length) (calls : List ClaimCall) :
    ¬ ReturnsAll s g calls := by
  intro ⟨_, s', messages, hrun, hreturned⟩
  obtain ⟨message, hmem, hid⟩ := List.mem_map.mp (hreturned _ (List.getElem_mem hlong))
  have hscanned := claimCalls_scanned h.group hrun message hmem
  rw [hid] at hscanned
  obtain ⟨i, hi, heq⟩ := List.mem_take_iff_getElem.mp hscanned
  have hindex : i = 10 * BATCH_SIZE := by
    have hlt : 10 * BATCH_SIZE < (g.pending.map Delivery.id).length := by simpa using hlong
    have hsame : (g.pending.map Delivery.id)[i] = (g.pending.map Delivery.id)[10 * BATCH_SIZE] := by
      simpa using heq
    exact (List.Nodup.getElem_inj_iff h.distinct).mp hsame
  omega

/-- Some calls within the claim time return every pending entry exactly when one scan of
XAUTOCLAIM covers the list. -/
theorem pending_recovery_iff {s : Store} {g : ConsumerGroup} (h : AllIdle s g) :
    (∃ calls, ReturnsAll s g calls) ↔ g.pending.length ≤ 10 * BATCH_SIZE := by
  constructor
  · intro ⟨calls, hall⟩
    by_contra hlong
    exact h.starved (Nat.lt_of_not_le hlong) calls hall
  · intro hscan
    refine ⟨List.replicate 10 ⟨0, 0⟩, h.returnsAll hscan ?_ ?_⟩
    · simp
    · simp [elapsed, CLAIM_IDLE_MS]

/-- `n` entries without fields: no worker ever settles or acknowledges them. -/
def stuckGroup (n : Nat) : ConsumerGroup :=
  ⟨n, (List.range n).map fun i => ⟨i + 1, 0, 0⟩, []⟩

def stuckStore (n : Nat) : Store :=
  { oneSeat.shared with
    redis := { oneSeat.shared.redis with now := CLAIM_IDLE_MS }
    stream := ⟨(List.range n).map fun i => (i + 1, []), n, some (stuckGroup n)⟩ }

theorem stuck_allIdle (n : Nat) : AllIdle (stuckStore n) (stuckGroup n) := by
  refine ⟨rfl, ?_, ?_, ?_⟩
  · apply List.pairwise_map.mpr
    exact List.pairwise_lt_range.imp fun hlt => Nat.succ_lt_succ hlt
  · intro d hd
    obtain ⟨i, -, rfl⟩ := List.mem_map.mp hd
    simp [stuckStore]
  · intro d hd
    obtain ⟨i, hi, rfl⟩ := List.mem_map.mp hd
    exact ⟨(i + 1, []), List.mem_map_of_mem hi, rfl⟩

theorem stuck_length (n : Nat) : (stuckGroup n).pending.length = n := by
  simp [stuckGroup]

theorem pending_recovery_iff_hundred :
    ∃ calls, ReturnsAll (stuckStore 100) (stuckGroup 100) calls := by
  apply (pending_recovery_iff (stuck_allIdle 100)).mpr
  rw [stuck_length]
  decide

theorem pending_recovery_fails_hundredOne :
    AllIdle (stuckStore 101) (stuckGroup 101) ∧
      ∀ calls, ¬ ReturnsAll (stuckStore 101) (stuckGroup 101) calls := by
  refine ⟨stuck_allIdle 101, fun calls => ?_⟩
  apply (stuck_allIdle 101).starved
  rw [stuck_length]
  decide

end TicketEngine
