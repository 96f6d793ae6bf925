import Mathlib.Data.List.Nodup
import Mathlib.Data.Int.Order.Basic
import Mathlib.Tactic.Common

namespace TicketEngine

/-- A Redis sorted set as its members with their scores, each member once. -/
structure SortedSet (α : Type*) where
  entries : List (α × Int)
  distinct : (entries.map Prod.fst).Nodup

namespace SortedSet

variable {α : Type*}

def empty : SortedSet α := ⟨[], List.nodup_nil⟩

/-- ZCARD. -/
def card (z : SortedSet α) : Nat := z.entries.length

/-- ZREMRANGEBYSCORE with both bounds inclusive. -/
def removeRangeByScore (z : SortedSet α) (low high : Int) : SortedSet α where
  entries := z.entries.filter fun e => ¬ (low ≤ e.2 ∧ e.2 ≤ high)
  distinct := z.distinct.sublist (List.filter_sublist.map Prod.fst)

/-- ZADD: a member that is already there gets the new score. -/
def add [DecidableEq α] (z : SortedSet α) (score : Int) (member : α) : SortedSet α where
  entries := z.entries.filter (fun e => e.1 ≠ member) ++ [(member, score)]
  distinct := by
    rw [List.map_append, List.nodup_append]
    refine ⟨z.distinct.sublist (List.filter_sublist.map Prod.fst), List.nodup_singleton _, ?_⟩
    intro a ha b hb
    obtain ⟨e, he, rfl⟩ := List.mem_map.mp ha
    have hne := (List.mem_filter.mp he).2
    rw [List.mem_singleton.mp hb]
    simpa using hne

theorem add_fresh [DecidableEq α] {z : SortedSet α} {member : α} (score : Int)
    (h : ∀ e ∈ z.entries, e.1 ≠ member) :
    (z.add score member).entries = z.entries ++ [(member, score)] := by
  have hall : z.entries.filter (fun e => e.1 ≠ member) = z.entries := by
    apply List.filter_eq_self.mpr
    intro e he
    simpa using h e he
  simp only [add, hall]

theorem mem_add [DecidableEq α] {z : SortedSet α} {member : α} {score : Int} {e : α × Int}
    (h : e ∈ (z.add score member).entries) : e ∈ z.entries ∨ e = (member, score) := by
  rcases List.mem_append.mp h with h | h
  · exact .inl (List.mem_filter.mp h).1
  · exact .inr (List.mem_singleton.mp h)

theorem card_add_le [DecidableEq α] (z : SortedSet α) (score : Int) (member : α) :
    (z.add score member).card ≤ z.card + 1 := by
  simp only [card, add, List.length_append, List.length_singleton]
  exact Nat.succ_le_succ (List.length_filter_le ..)

theorem mem_removeRangeByScore {z : SortedSet α} {low high : Int} {e : α × Int}
    (h : e ∈ (z.removeRangeByScore low high).entries) : e ∈ z.entries :=
  (List.mem_filter.mp h).1

end SortedSet

/-- The entries of a log that a window of this width ending at `t` or later can still hold. -/
def recent {α : Type*} (width : Nat) (t : Int) (log : List (α × Int)) : List (α × Int) :=
  log.filter fun e => t - width < e.2

section Recent

variable {α : Type*} {width : Nat} {t u : Int} {log : List (α × Int)}

theorem recent_append (log log' : List (α × Int)) :
    recent width t (log ++ log') = recent width t log ++ recent width t log' :=
  List.filter_append ..

/-- What a later window needs was kept for the earlier one. -/
theorem recent_recent (h : u ≤ t) : recent width t (recent width u log) = recent width t log := by
  unfold recent
  rw [List.filter_filter]
  apply List.filter_congr
  intro e _
  by_cases he : t - width < e.2
  · have : u - width < e.2 := by omega
    simp [he, this]
  · simp [he]

/-- A log that ended a width ago has nothing to give to the window. -/
theorem recent_eq_nil (h : ∀ e ∈ log, e.2 ≤ t - width) : recent width t log = [] := by
  apply List.filter_eq_nil_iff.mpr
  intro e he
  have := h e he
  simp only [decide_eq_true_eq]
  omega

/-- An inclusive trim at `t - width` leaves exactly the recent entries. -/
theorem trim_recent (z : SortedSet α) (h : ∀ e ∈ z.entries, 0 ≤ e.2) :
    (z.removeRangeByScore 0 (t - width)).entries = recent width t z.entries := by
  apply List.filter_congr
  intro e he
  have := h e he
  simp only [decide_eq_decide]
  omega

end Recent

end TicketEngine
