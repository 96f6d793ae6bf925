import Mathlib.Data.List.Nodup
import Mathlib.Data.List.Perm.Basic

namespace TicketEngine.Selection

/-! # The least elements of a list: sort, then cut -/

variable {α β : Type*}

def least (le : α → α → Bool) (k : Nat) (l : List α) : List α := (l.mergeSort le).take k

section Any

variable {le : α → α → Bool} {k : Nat} {l : List α}

@[simp] theorem least_nil (le : α → α → Bool) (k : Nat) : least le k [] = [] := by
  rw [least, List.mergeSort_nil, List.take_nil]

theorem length_least (le : α → α → Bool) (k : Nat) (l : List α) :
    (least le k l).length = min k l.length := by
  rw [least, List.length_take, List.length_mergeSort]

theorem mem_of_mem_least {x : α} (h : x ∈ least le k l) : x ∈ l :=
  List.mem_mergeSort.mp (List.mem_of_mem_take h)

/-- What is distinct in the list is distinct among its least elements. -/
theorem nodup_map_least {f : α → β} (h : (l.map f).Nodup) : ((least le k l).map f).Nodup := by
  have hsorted : ((l.mergeSort le).map f).Nodup :=
    (((List.mergeSort_perm l le).map f).nodup_iff).mpr h
  exact hsorted.sublist ((List.take_sublist k _).map f)

end Any

section Ordered

variable {le : α → α → Bool} (htrans : ∀ a b c, le a b = true → le b c = true → le a c = true)
  (htotal : ∀ a b, (le a b || le b a) = true) {k : Nat} {l : List α}

include htrans htotal

theorem pairwise_least (k : Nat) (l : List α) :
    (least le k l).Pairwise fun a b => le a b = true :=
  (List.pairwise_mergeSort htrans htotal l).sublist (List.take_sublist k _)

/-- An element that is left out is not less than one that is kept. -/
theorem least_le {x y : α} (hx : x ∈ l) (hleft : x ∉ least le k l) (hy : y ∈ least le k l) :
    le y x = true := by
  have hsorted := List.pairwise_mergeSort htrans htotal l
  rw [← List.take_append_drop k (l.mergeSort le), List.pairwise_append] at hsorted
  have hmem : x ∈ l.mergeSort le := List.mem_mergeSort.mpr hx
  rw [← List.take_append_drop k (l.mergeSort le), List.mem_append] at hmem
  rcases hmem with hkept | hdropped
  · exact absurd hkept hleft
  · exact hsorted.2.2 y hy x hdropped

end Ordered

end TicketEngine.Selection
