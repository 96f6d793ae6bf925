import Mathlib.Data.List.Basic
import Mathlib.Data.List.Nodup
import Mathlib.Data.List.ReduceOption
import Mathlib.Tactic.Common

namespace TicketEngine

/-- A set that remembers the order of insertion. A deletion leaves an empty slot behind, so the
positions of a loop that is under way stay valid. -/
structure InsertionSet (α : Type*) where
  slots : List (Option α)
  distinct : slots.reduceOption.Nodup

namespace InsertionSet

variable {α : Type*}

def empty : InsertionSet α := ⟨[], List.nodup_nil⟩

def elements (S : InsertionSet α) : List α := S.slots.reduceOption

instance : Membership α (InsertionSet α) := ⟨fun S a => a ∈ S.elements⟩

def size (S : InsertionSet α) : Nat := S.elements.length

theorem mem_elements {S : InsertionSet α} {a : α} : a ∈ S.elements ↔ a ∈ S := Iff.rfl

theorem mem_slots {S : InsertionSet α} {a : α} : some a ∈ S.slots ↔ a ∈ S :=
  List.reduceOption_mem_iff.symm

@[simp] theorem mem_empty (a : α) : ¬ a ∈ (empty : InsertionSet α) := List.not_mem_nil

theorem size_eq_zero {S : InsertionSet α} : S.size = 0 ↔ ∀ a, ¬ a ∈ S := by
  unfold size
  rw [List.length_eq_zero_iff, List.eq_nil_iff_forall_not_mem]
  exact Iff.rfl

section Update

variable [DecidableEq α]

instance (a : α) (S : InsertionSet α) : Decidable (a ∈ S) :=
  inferInstanceAs (Decidable (a ∈ S.elements))

def add (S : InsertionSet α) (a : α) : InsertionSet α :=
  if h : a ∈ S then S
  else
    { slots := S.slots ++ [some a]
      distinct := by
        rw [List.reduceOption_append, List.reduceOption_singleton]
        exact S.distinct.append (List.nodup_singleton a)
          (List.disjoint_singleton.mpr h) }

def clear (a : α) (slot : Option α) : Option α := if slot = some a then none else slot

theorem reduceOption_clear (a : α) (slots : List (Option α)) :
    (slots.map (clear a)).reduceOption = slots.reduceOption.filter (· ≠ a) := by
  induction slots with
  | nil => rfl
  | cons slot slots ih =>
    cases slot with
    | none =>
      have hclear : clear a (none : Option α) = none := rfl
      rw [List.map_cons, hclear, List.reduceOption_cons_of_none, List.reduceOption_cons_of_none, ih]
    | some b =>
      rw [List.map_cons, List.reduceOption_cons_of_some]
      by_cases hb : b = a
      · subst hb
        have hclear : clear b (some b) = none := if_pos rfl
        rw [hclear, List.reduceOption_cons_of_none, ih, List.filter_cons_of_neg (by simp)]
      · have hclear : clear a (some b) = some b := if_neg (by simpa using hb)
        rw [hclear, List.reduceOption_cons_of_some, ih, List.filter_cons_of_pos (by simpa using hb)]

def delete (S : InsertionSet α) (a : α) : InsertionSet α where
  slots := S.slots.map (clear a)
  distinct := by
    rw [reduceOption_clear]
    exact S.distinct.filter _

@[simp] theorem mem_add {S : InsertionSet α} {a b : α} : b ∈ S.add a ↔ b ∈ S ∨ b = a := by
  unfold add
  split_ifs with h
  · constructor
    · exact Or.inl
    · rintro (hb | rfl)
      · exact hb
      · exact h
  · show b ∈ (S.slots ++ [some a]).reduceOption ↔ _
    rw [List.reduceOption_append, List.reduceOption_singleton, List.mem_append, Option.mem_toList]
    exact or_congr Iff.rfl (by simp [eq_comm])

theorem delete_elements (S : InsertionSet α) (a : α) :
    (S.delete a).elements = S.elements.filter (· ≠ a) := reduceOption_clear a S.slots

@[simp] theorem mem_delete {S : InsertionSet α} {a b : α} : b ∈ S.delete a ↔ b ∈ S ∧ b ≠ a := by
  rw [← mem_elements, delete_elements, List.mem_filter, mem_elements]
  simp

end Update

/-! ## Loops -/

variable {σ : Type*}

/-- A `for … of` loop over a set that its body may change: slot after slot of the set as it is
now, from position `k` on. A set that is gone has no slot left. -/
def visit (set : σ → Option (InsertionSet α)) (body : σ → α → σ) : Nat → Nat → σ → σ
  | 0, _, s => s
  | fuel + 1, k, s =>
    match set s with
    | none => s
    | some S =>
      match S.slots[k]? with
      | none => s
      | some none => visit set body fuel (k + 1) s
      | some (some a) => visit set body fuel (k + 1) (body s a)

/-- The whole loop: as long as the body adds nothing, there are as many rounds as slots. -/
def forOf (set : σ → Option (InsertionSet α)) (body : σ → α → σ) (s : σ) : σ :=
  match set s with
  | none => s
  | some S => visit set body S.slots.length 0 s

theorem visit_none {set : σ → Option (InsertionSet α)} {body : σ → α → σ} {s : σ}
    (h : set s = none) (fuel k : Nat) : visit set body fuel k s = s := by
  cases fuel with
  | zero => rfl
  | succ fuel => simp only [visit, h]

theorem forOf_none {set : σ → Option (InsertionSet α)} {body : σ → α → σ} {s : σ}
    (h : set s = none) : forOf set body s = s := by
  unfold forOf
  rw [h]

/-- What every round keeps, the loop keeps. -/
theorem visit_keeps {set : σ → Option (InsertionSet α)} {body : σ → α → σ} (P : σ → Prop)
    (hbody : ∀ s a, P s → P (body s a)) (fuel k : Nat) {s : σ} (hs : P s) :
    P (visit set body fuel k s) := by
  induction fuel generalizing k s with
  | zero => exact hs
  | succ fuel ih =>
    unfold visit
    split
    · exact hs
    · split
      · exact hs
      · exact ih (k + 1) hs
      · exact ih (k + 1) (hbody _ _ hs)

theorem forOf_keeps {set : σ → Option (InsertionSet α)} {body : σ → α → σ} (P : σ → Prop)
    (hbody : ∀ s a, P s → P (body s a)) {s : σ} (hs : P s) : P (forOf set body s) := by
  unfold forOf
  split
  · exact hs
  · exact visit_keeps P hbody _ 0 hs

variable [DecidableEq α]

/-- The body leaves the set alone, deletes the element it is at, or drops a set that this
deletion has emptied. -/
def DeletesCurrent (set : σ → Option (InsertionSet α)) (body : σ → α → σ) : Prop :=
  ∀ s S a, set s = some S →
    set (body s a) = some S ∨ set (body s a) = some (S.delete a) ∨
      set (body s a) = none ∧ (S.delete a).size = 0

theorem DeletesCurrent.of_fixed {set : σ → Option (InsertionSet α)} {body : σ → α → σ}
    (h : ∀ s a, set (body s a) = set s) : DeletesCurrent set body := by
  intro s S a hset
  left
  rw [h, hset]

theorem drop_delete {S : InsertionSet α} {k : Nat} {a : α} (h : S.slots[k]? = some (some a)) :
    (S.delete a).slots.drop (k + 1) = S.slots.drop (k + 1) := by
  obtain ⟨hk, hget⟩ := List.getElem?_eq_some_iff.mp h
  have hsplit : S.slots = S.slots.take k ++ some a :: S.slots.drop (k + 1) := by
    rw [← hget, List.getElem_cons_drop, List.take_append_drop]
  have hfresh : ∀ slot ∈ S.slots.drop (k + 1), clear a slot = slot := by
    intro slot hslot
    apply if_neg
    rintro rfl
    have hnodup := S.distinct
    rw [hsplit, List.reduceOption_append, List.reduceOption_cons_of_some] at hnodup
    have hcons := (List.nodup_append.mp hnodup).2.1
    exact (List.nodup_cons.mp hcons).1 (List.reduceOption_mem_iff.mpr hslot)
  show (S.slots.map (clear a)).drop (k + 1) = _
  rw [← List.map_drop, List.map_congr_left hfresh, List.map_id']

/-- A loop whose body only deletes the element it is at visits every element once, in the order
of insertion. -/
theorem visit_eq_foldl {set : σ → Option (InsertionSet α)} {body : σ → α → σ}
    (hbody : DeletesCurrent set body) (fuel k : Nat) (s : σ) (S : InsertionSet α)
    (hset : set s = some S) (hfuel : S.slots.length ≤ k + fuel) :
    visit set body fuel k s = (S.slots.drop k).reduceOption.foldl body s := by
  induction fuel generalizing k s S with
  | zero =>
    rw [List.drop_eq_nil_of_le (by omega)]
    rfl
  | succ fuel ih =>
    unfold visit
    rw [hset]
    simp only
    cases hslot : S.slots[k]? with
    | none =>
      rw [List.drop_eq_nil_of_le (List.getElem?_eq_none_iff.mp hslot)]
      rfl
    | some slot =>
      obtain ⟨hk, hget⟩ := List.getElem?_eq_some_iff.mp hslot
      rw [List.drop_eq_getElem_cons hk, hget]
      cases slot with
      | none =>
        rw [List.reduceOption_cons_of_none]
        exact ih (k + 1) s S hset (by omega)
      | some a =>
        rw [List.reduceOption_cons_of_some, List.foldl_cons]
        rcases hbody s S a hset with hsame | hdeleted | ⟨hgone, hempty⟩
        · exact ih (k + 1) (body s a) S hsame (by omega)
        · rw [← drop_delete hslot]
          have hlength : (S.delete a).slots.length = S.slots.length := List.length_map _
          exact ih (k + 1) (body s a) (S.delete a) hdeleted (by omega)
        · have hrest : (S.slots.drop (k + 1)).reduceOption = [] := by
            rw [← drop_delete hslot, List.eq_nil_iff_forall_not_mem]
            intro b hb
            have hmem := List.mem_of_mem_drop (List.reduceOption_mem_iff.mp hb)
            exact size_eq_zero.mp hempty b (mem_slots.mp hmem)
          rw [hrest, List.foldl_nil]
          exact visit_none hgone fuel (k + 1)

theorem forOf_eq_foldl {set : σ → Option (InsertionSet α)} {body : σ → α → σ}
    (hbody : DeletesCurrent set body) {s : σ} {S : InsertionSet α} (hset : set s = some S) :
    forOf set body s = S.elements.foldl body s := by
  unfold forOf
  rw [hset]
  exact visit_eq_foldl hbody S.slots.length 0 s S hset (by omega)

/-- A loop whose body reads and changes only what belongs to the element it is at. -/
theorem foldl_local {β : Type*} {body : σ → α → σ} (view : σ → α → β) {next : β → β}
    (hself : ∀ s a, view (body s a) a = next (view s a))
    (hother : ∀ s a b, b ≠ a → view (body s a) b = view s b) {xs : List α} (hnodup : xs.Nodup)
    (s : σ) (b : α) :
    view (xs.foldl body s) b = if b ∈ xs then next (view s b) else view s b := by
  induction xs generalizing s with
  | nil => simp
  | cons a xs ih =>
    obtain ⟨hfresh, hnodup⟩ := List.nodup_cons.mp hnodup
    rw [List.foldl_cons, ih hnodup]
    by_cases hb : b = a
    · subst hb
      rw [if_neg hfresh, if_pos List.mem_cons_self, hself]
    · simp only [List.mem_cons, hb, false_or, hother s a b hb]

end InsertionSet

end TicketEngine
