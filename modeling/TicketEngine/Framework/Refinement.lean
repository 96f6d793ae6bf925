import TicketEngine.Framework.Machine
import Mathlib.Logic.Function.Basic

namespace TicketEngine

namespace Machine

variable {σ ι α κ : Type*}

/-- A map onto the states of an abstract machine under which each concrete step is a finite
abstract run, none or one step included. -/
structure Refinement (M : Machine σ ι) (A : Machine α κ) where
  inv : σ → Prop
  abs : σ → α
  keeps : ∀ s l t, inv s → M.step s l = some t → inv t
  simulates : ∀ s l t, inv s → M.step s l = some t → A.Reach (abs s) (abs t)

/-- Every concrete run is an abstract run of the images. -/
theorem Refinement.reach {M : Machine σ ι} {A : Machine α κ} (R : M.Refinement A) {s t : σ}
    (hs : R.inv s) (h : M.Reach s t) : A.Reach (R.abs s) (R.abs t) :=
  Reach.relation M (R := fun s t => A.Reach (R.abs s) (R.abs t)) (I := R.inv)
    (fun s => Reach.refl A (R.abs s)) (fun _ _ _ h k => Reach.trans A h k) R.keeps R.simulates
    hs h

/-- A run with hidden labels, seen through a map that they do not change: where each visible step
can also be taken from the image, the visible labels are a run of the images. -/
theorem run_visible {M : Machine σ ι} {image : σ → σ} (hidden : ι → Bool)
    {C : σ → ι → σ → Prop}
    (hhidden : ∀ s l t, hidden l = true → M.step s l = some t → image t = image s)
    (hvisible : ∀ s l t, hidden l = false → M.step s l = some t → C s l t →
      M.step (image s) l = some (image t))
    {s t : σ} {ls : List ι} (hr : M.run s ls = some t) (hc : M.Along C s ls) :
    M.run (image s) (ls.filter fun l => !hidden l) = some (image t) := by
  induction ls generalizing s with
  | nil =>
    cases hr
    rfl
  | cons l ls ih =>
    obtain ⟨u, hu, hr⟩ := M.run_cons_some hr
    obtain ⟨hcu, hrest⟩ := hc u hu
    have hrun := ih hr hrest
    cases hl : hidden l with
    | true =>
      have hsame := hhidden s l u hl hu
      rw [hsame] at hrun
      rw [List.filter_cons_of_neg (by simp [hl])]
      exact hrun
    | false =>
      have hstep := hvisible s l u hl hu hcu
      rw [List.filter_cons_of_pos (by simp [hl]), run_cons, hstep]
      exact hrun

/-- The abstract labels that the steps of a run show, in order. -/
def trace (M : Machine σ ι) (shown : σ → ι → Option κ) : σ → List ι → List κ
  | _, [] => []
  | s, l :: ls =>
    match M.step s l with
    | none => []
    | some t => (shown s l).toList ++ M.trace shown t ls

theorem trace_cons {M : Machine σ ι} {shown : σ → ι → Option κ} {s t : σ} {l : ι} {ls : List ι}
    (h : M.step s l = some t) :
    M.trace shown s (l :: ls) = (shown s l).toList ++ M.trace shown t ls := by
  rw [trace, h]

theorem trace_append {M : Machine σ ι} {shown : σ → ι → Option κ} {s t : σ} {as bs : List ι}
    (h : M.run s as = some t) :
    M.trace shown s (as ++ bs) = M.trace shown s as ++ M.trace shown t bs := by
  induction as generalizing s with
  | nil =>
    cases h
    rfl
  | cons a as ih =>
    obtain ⟨u, hu, hrun⟩ := M.run_cons_some h
    rw [List.cons_append, trace_cons hu, trace_cons hu, ih hrun, List.append_assoc]

/-- Each label that a run shows is shown by a step of the run. -/
theorem trace_split {M : Machine σ ι} {shown : σ → ι → Option κ} {s t : σ} {ls : List ι}
    {ks : List κ} {k : κ} {rest : List κ} (hr : M.run s ls = some t)
    (h : M.trace shown s ls = ks ++ k :: rest) :
    ∃ as l bs u v, ls = as ++ l :: bs ∧ M.run s as = some u ∧ M.step u l = some v ∧
      M.run v bs = some t ∧ shown u l = some k ∧ M.trace shown s as = ks := by
  induction ls generalizing s ks with
  | nil => simp [trace] at h
  | cons l ls ih =>
    obtain ⟨u, hu, hr⟩ := M.run_cons_some hr
    rw [trace_cons hu] at h
    have hlater {ks' : List κ} (htail : M.trace shown u ls = ks' ++ k :: rest)
        (hks : ks = (shown s l).toList ++ ks') :
        ∃ as l' bs v w, l :: ls = as ++ l' :: bs ∧ M.run s as = some v ∧ M.step v l' = some w ∧
          M.run w bs = some t ∧ shown v l' = some k ∧ M.trace shown s as = ks := by
      obtain ⟨as, l', bs, v, w, rfl, has, hstep, hbs, hshown, htrace⟩ := ih hr htail
      refine ⟨l :: as, l', bs, v, w, rfl, ?_, hstep, hbs, hshown, ?_⟩
      · rw [run_cons, hu]
        exact has
      · rw [trace_cons hu, htrace, hks]
    cases hl : shown s l with
    | none =>
      rw [hl] at h
      exact hlater h (by rw [hl]; rfl)
    | some k' =>
      rw [hl] at h
      cases ks with
      | nil =>
        obtain ⟨hk, -⟩ := List.cons.inj h
        exact ⟨[], l, ls, s, u, rfl, rfl, hu, hr, by rw [hl, hk], rfl⟩
      | cons k'' ks =>
        obtain ⟨hk, htail⟩ := List.cons.inj h
        exact hlater htail (by rw [hl, hk]; rfl)

/-- An invariant of the state and of what the run has shown so far. -/
theorem run_trace_invariant {M : Machine σ ι} {shown : σ → ι → Option κ}
    {J : σ → List κ → Prop}
    (hstep : ∀ s l t ks, J s ks → M.step s l = some t → J t (ks ++ (shown s l).toList))
    {s t : σ} {ls : List ι} {ks : List κ} (hs : J s ks) (hr : M.run s ls = some t) :
    J t (ks ++ M.trace shown s ls) := by
  induction ls generalizing s ks with
  | nil =>
    cases hr
    simpa [trace] using hs
  | cons l ls ih =>
    obtain ⟨u, hu, hr⟩ := M.run_cons_some hr
    have hnext := ih (hstep s l u ks hs hu) hr
    rw [trace_cons hu, ← List.append_assoc]
    exact hnext

/-- Where each step is the abstract step it shows, or none, the labels a run shows are an
abstract run of the images. -/
theorem run_trace {M : Machine σ ι} {A : Machine α κ} {shown : σ → ι → Option κ}
    {I : σ → Prop} {f : σ → α} (hkeeps : ∀ s l t, I s → M.step s l = some t → I t)
    (hshown : ∀ s l t, I s → M.step s l = some t →
      A.run (f s) (shown s l).toList = some (f t))
    {s t : σ} {ls : List ι} (hs : I s) (hr : M.run s ls = some t) :
    A.run (f s) (M.trace shown s ls) = some (f t) := by
  induction ls generalizing s with
  | nil =>
    cases hr
    rfl
  | cons l ls ih =>
    obtain ⟨u, hu, hr⟩ := M.run_cons_some hr
    rw [trace_cons hu, run_append, hshown s l u hs hu]
    exact ih (hkeeps s l u hs hu) hr

end Machine

/-- A book whose entries are written once: a label writes a value at a key that has none. -/
def writeOnce (κ ν : Type*) [DecidableEq κ] : Machine (κ → Option ν) (κ × ν) where
  step book entry :=
    match book entry.1 with
    | some _ => none
    | none => some (Function.update book entry.1 (some entry.2))

section WriteOnce

variable {κ ν : Type*} [DecidableEq κ] {book book' : κ → Option ν}

theorem writeOnce_write {key : κ} {value : ν} (h : book key = none) :
    (writeOnce κ ν).Reach book (Function.update book key (some value)) :=
  Machine.Reach.single _ (l := (key, value)) (by simp only [writeOnce, h])

/-- What is written stays. -/
theorem writeOnce_kept {key : κ} {value : ν} (h : (writeOnce κ ν).Reach book book')
    (hk : book key = some value) : book' key = some value := by
  refine Machine.Reach.invariant _ (I := fun b => b key = some value) ?_ hk h
  intro b entry b' hb hstep
  simp only [writeOnce] at hstep
  split at hstep
  · cases hstep
  next hnone =>
    cases hstep
    rw [Function.update_of_ne, hb]
    intro heq
    subst heq
    rw [hb] at hnone
    cases hnone

end WriteOnce

end TicketEngine
