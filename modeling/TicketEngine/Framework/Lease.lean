import TicketEngine.Framework.Machine

namespace TicketEngine

/-- A value stored under a deadline, as Redis keeps a key with an expiry. -/
structure Lease (α : Type*) where
  value : α
  deadline : Nat
  deriving DecidableEq

namespace Lease

variable {α : Type*}

/-- What a reader sees at time `now`. A key is hidden strictly after its deadline; the stored
cell itself stays until it is overwritten or deleted. -/
def read (now : Nat) (cell : Option (Lease α)) : Option α :=
  cell.bind fun c => if now ≤ c.deadline then some c.value else none

@[simp] theorem read_none (now : Nat) : read now (none : Option (Lease α)) = none := rfl

theorem read_some (now : Nat) (c : Lease α) :
    read now (some c) = if now ≤ c.deadline then some c.value else none := rfl

@[simp] theorem read_fresh (now ttl : Nat) (v : α) :
    read now (some ⟨v, now + ttl⟩) = some v := by
  rw [read_some, if_pos (Nat.le_add_right now ttl)]

theorem read_eq_some {now : Nat} {cell : Option (Lease α)} {v : α} :
    read now cell = some v ↔ ∃ c, cell = some c ∧ now ≤ c.deadline ∧ c.value = v := by
  cases cell with
  | none => simp
  | some c =>
    rw [read_some]
    split_ifs with h
    · simp [h]
    · simp [h]

theorem read_eq_none {now : Nat} {c : Lease α} (h : read now (some c) = none) :
    c.deadline < now := by
  by_contra hle
  rw [read_some, if_pos (Nat.le_of_not_lt hle)] at h
  cases h

/-- A value still readable later was readable before. -/
theorem read_earlier {now later : Nat} (h : now ≤ later) {cell : Option (Lease α)} {v : α}
    (hr : read later cell = some v) : read now cell = some v := by
  obtain ⟨c, hc, hd, hv⟩ := read_eq_some.mp hr
  exact read_eq_some.mpr ⟨c, hc, h.trans hd, hv⟩

end Lease

namespace Machine

variable {σ ι α : Type*}

/-- A cell of a machine that is written only as a lease: a step that ends before the stored
deadline has passed and does not free the cell leaves it exactly as it is. -/
structure Leased (M : Machine σ ι) (α : Type*) where
  now : σ → Nat
  cell : σ → Option (Lease α)
  frees : σ → ι → Prop
  now_le : ∀ {s l t}, M.step s l = some t → now s ≤ now t
  kept : ∀ {s l t c}, M.step s l = some t → cell s = some c → now t ≤ c.deadline →
    ¬ frees s l → cell t = some c

namespace Leased

variable {M : Machine σ ι} (L : M.Leased α)

theorem run_now_le {s t : σ} {ls : List ι} (hr : M.run s ls = some t) : L.now s ≤ L.now t := by
  induction ls generalizing s with
  | nil => cases hr; exact le_refl _
  | cons l ls ih =>
    obtain ⟨u, hu, hr⟩ := M.run_cons_some hr
    exact (L.now_le hu).trans (ih hr)

/-- A lease is lost only by its deadline or by a step that frees it while it is live. -/
theorem kept_or_freed {s t : σ} {ls : List ι} {c : Lease α} (hc : L.cell s = some c)
    (hr : M.run s ls = some t) (ht : L.now t ≤ c.deadline) :
    L.cell t = some c ∨ ∃ as l bs u, ls = as ++ l :: bs ∧ M.run s as = some u ∧
      L.cell u = some c ∧ L.now u ≤ c.deadline ∧ L.frees u l := by
  induction ls generalizing s with
  | nil => cases hr; exact .inl hc
  | cons l ls ih =>
    obtain ⟨u, hu, hr⟩ := M.run_cons_some hr
    have hd : L.now u ≤ c.deadline := (L.run_now_le hr).trans ht
    by_cases hf : L.frees s l
    · exact .inr ⟨[], l, ls, s, rfl, rfl, hc, (L.now_le hu).trans hd, hf⟩
    · rcases ih (L.kept hu hc hd hf) hr with h | ⟨as, k, bs, v, rfl, hv, rest⟩
      · exact .inl h
      · refine .inr ⟨l :: as, k, bs, v, rfl, ?_, rest⟩
        rw [M.run_cons, hu]
        exact hv

end Leased

end Machine

end TicketEngine
