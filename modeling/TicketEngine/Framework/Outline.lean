import TicketEngine.Framework.Machine
import Mathlib.Logic.Function.Basic

namespace TicketEngine

/-- Threads over a shared state, each at a control point of its own. -/
structure Threaded (σ τ φ : Type*) where
  shared : σ
  point : τ → φ

/-- A proof outline: an invariant of the shared state and an assertion for each thread at each
control point. -/
structure Outline (σ τ φ : Type*) where
  inv : σ → Prop
  holds : τ → φ → σ → Prop

namespace Outline

variable {σ τ φ : Type*} (O : Outline σ τ φ)

def Valid (w : Threaded σ τ φ) : Prop :=
  O.inv w.shared ∧ ∀ t, O.holds t (w.point t) w.shared

variable {O} {w : Threaded σ τ φ} {s : σ}

/-- No thread moves: the change keeps the invariant and every assertion. -/
theorem Valid.environment (h : O.Valid w) (hinv : O.inv s)
    (hfree : ∀ t, O.holds t (w.point t) w.shared → O.holds t (w.point t) s) :
    O.Valid ⟨s, w.point⟩ :=
  ⟨hinv, fun t => hfree t (h.2 t)⟩

/-- One thread moves: it establishes its next assertion and does not interfere with the
assertions of the others. -/
theorem Valid.move [DecidableEq τ] (h : O.Valid w) {t : τ} {f : φ} (hinv : O.inv s)
    (hnext : O.holds t f s)
    (hfree : ∀ u, u ≠ t → O.holds u (w.point u) w.shared → O.holds u (w.point u) s) :
    O.Valid ⟨s, Function.update w.point t f⟩ := by
  refine ⟨hinv, ?_⟩
  apply (Function.forall_update_iff w.point fun u g => O.holds u g s).mpr
  exact ⟨hnext, fun u hu => hfree u hu (h.2 u)⟩

/-- Some threads are given new control points whose assertions hold outright. -/
theorem Valid.assign (h : O.Valid w) {point : τ → φ}
    (hinv : O.inv s)
    (hpoint : ∀ t, O.holds t (point t) s ∨
      point t = w.point t ∧ (O.holds t (w.point t) w.shared → O.holds t (w.point t) s)) :
    O.Valid ⟨s, point⟩ := by
  refine ⟨hinv, fun t => ?_⟩
  rcases hpoint t with ht | ⟨hsame, hkeep⟩
  · exact ht
  · change O.holds t (point t) s
    rw [hsame]
    exact hkeep (h.2 t)

end Outline

end TicketEngine
