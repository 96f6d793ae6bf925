import TicketEngine.Framework.Outline
import Mathlib.Data.List.Forall2

namespace TicketEngine

section Containers

variable {α β α' β' : Type*} {R : α → β → Prop} {R' : α' → β' → Prop}

theorem rel_map {f : α → α'} {g : β → β'} {a : Option α} {b : Option β} (h : Option.Rel R a b)
    (hfg : ∀ x y, R x y → R' (f x) (g y)) : Option.Rel R' (a.map f) (b.map g) := by
  cases h with
  | some hxy => exact .some (hfg _ _ hxy)
  | none => exact .none

theorem rel_getElem? {xs : List α} {ys : List β} (h : List.Forall₂ R xs ys) (i : Nat) :
    Option.Rel R xs[i]? ys[i]? := by
  induction h generalizing i with
  | nil => exact .none
  | cons hxy _ ih =>
    cases i with
    | zero => exact .some hxy
    | succ i =>
      simp only [List.getElem?_cons_succ]
      exact ih i

end Containers

namespace Machine

variable {σ τ ι κ : Type*}

/-- Two runs under related labels. A relation that every pair of steps keeps, where the first
step meets a side condition, relates the ends of the runs. -/
theorem run_related {M : Machine σ ι} {N : Machine τ κ} {R : σ → τ → Prop} {L : ι → κ → Prop}
    {C : σ → ι → σ → Prop}
    (hstep : ∀ s t l k s' t', R s t → L l k → C s l s' → M.step s l = some s' →
      N.step t k = some t' → R s' t')
    {s s' : σ} {t t' : τ} {ls : List ι} {ks : List κ} (hst : R s t) (hls : List.Forall₂ L ls ks)
    (hc : M.Along C s ls) (hr : M.run s ls = some s') (hr' : N.run t ks = some t') : R s' t' := by
  induction hls generalizing s t with
  | nil =>
    cases hr
    cases hr'
    exact hst
  | cons hl _ ih =>
    obtain ⟨u, hu, hr⟩ := M.run_cons_some hr
    obtain ⟨v, hv, hr'⟩ := N.run_cons_some hr'
    obtain ⟨hcu, hrest⟩ := hc u hu
    have huv : R u v := hstep s t _ _ u v hst hl hcu hu hv
    exact ih huv hrest hr hr'

end Machine

namespace Threaded

variable {σ σ' τ φ φ' : Type*}

/-- Two systems over the same threads, their shared states and control points related. -/
structure Related (S : σ → σ' → Prop) (F : φ → φ' → Prop) (w : Threaded σ τ φ)
    (w' : Threaded σ' τ φ') : Prop where
  shared : S w.shared w'.shared
  point : ∀ t, F (w.point t) (w'.point t)

variable {S : σ → σ' → Prop} {F : φ → φ' → Prop} {w : Threaded σ τ φ} {w' : Threaded σ' τ φ'}
  {s : σ} {s' : σ'}

theorem Related.environment (h : Related S F w w') (hs : S s s') :
    Related S F ⟨s, w.point⟩ ⟨s', w'.point⟩ :=
  ⟨hs, h.point⟩

/-- One thread moves in both systems. -/
theorem Related.move [DecidableEq τ] (h : Related S F w w') (t : τ) {f : φ} {f' : φ'}
    (hs : S s s') (hf : F f f') :
    Related S F ⟨s, Function.update w.point t f⟩ ⟨s', Function.update w'.point t f'⟩ := by
  refine ⟨hs, fun u => ?_⟩
  by_cases hu : u = t
  · subst hu
    simp only [Function.update_self]
    exact hf
  · simp only [Function.update_of_ne hu]
    exact h.point u

end Threaded

end TicketEngine
