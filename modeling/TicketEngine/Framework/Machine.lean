import Mathlib.Data.List.Basic
import Mathlib.Order.Nat
import Mathlib.Tactic.Common

namespace TicketEngine

/-- A labelled machine. The label resolves every choice of the environment, so a step is a
partial function: a label that is not enabled has no successor. -/
structure Machine (σ ι : Type*) where
  step : σ → ι → Option σ

namespace Machine

variable {σ ι : Type*} (M : Machine σ ι)

def run : σ → List ι → Option σ
  | s, [] => some s
  | s, l :: ls => (M.step s l).bind fun t => run t ls

@[simp] theorem run_nil (s : σ) : M.run s [] = some s := rfl

theorem run_cons (s : σ) (l : ι) (ls : List ι) :
    M.run s (l :: ls) = (M.step s l).bind fun t => M.run t ls := rfl

theorem run_append (s : σ) (as bs : List ι) :
    M.run s (as ++ bs) = (M.run s as).bind fun t => M.run t bs := by
  induction as generalizing s with
  | nil => rfl
  | cons a as ih =>
    simp only [List.cons_append, run_cons]
    cases M.step s a with
    | none => rfl
    | some t => exact ih t

theorem run_cons_some {s u : σ} {l : ι} {ls : List ι} (h : M.run s (l :: ls) = some u) :
    ∃ t, M.step s l = some t ∧ M.run t ls = some u := by
  simpa only [run_cons, Option.bind_eq_some_iff] using h

def Reach (s t : σ) : Prop := ∃ ls, M.run s ls = some t

theorem Reach.refl (s : σ) : M.Reach s s := ⟨[], rfl⟩

theorem Reach.trans {s t u : σ} (h : M.Reach s t) (k : M.Reach t u) : M.Reach s u := by
  obtain ⟨as, ha⟩ := h
  obtain ⟨bs, hb⟩ := k
  exact ⟨as ++ bs, by rw [run_append, ha]; exact hb⟩

theorem Reach.single {s t : σ} {l : ι} (h : M.step s l = some t) : M.Reach s t :=
  ⟨[l], by rw [run_cons, h]; rfl⟩

/-- A predicate that every step keeps holds at the end of every run. -/
theorem run_invariant {I : σ → Prop} (hstep : ∀ s l t, I s → M.step s l = some t → I t)
    {s t : σ} {ls : List ι} (hs : I s) (hr : M.run s ls = some t) : I t := by
  induction ls generalizing s with
  | nil => cases hr; exact hs
  | cons l ls ih =>
    obtain ⟨u, hu, hr⟩ := M.run_cons_some hr
    exact ih (hstep s l u hs hu) hr

theorem Reach.invariant {I : σ → Prop} (hstep : ∀ s l t, I s → M.step s l = some t → I t)
    {s t : σ} (hs : I s) (h : M.Reach s t) : I t := by
  obtain ⟨ls, hr⟩ := h
  exact M.run_invariant hstep hs hr

/-- A reflexive and transitive relation between the two ends of every step relates the two
ends of every run. -/
theorem Reach.relation {R : σ → σ → Prop} {I : σ → Prop} (hrefl : ∀ s, R s s)
    (htrans : ∀ s t u, R s t → R t u → R s u)
    (hinv : ∀ s l t, I s → M.step s l = some t → I t)
    (hstep : ∀ s l t, I s → M.step s l = some t → R s t)
    {s t : σ} (hs : I s) (h : M.Reach s t) : R s t := by
  obtain ⟨ls, hr⟩ := h
  induction ls generalizing s with
  | nil => cases hr; exact hrefl _
  | cons l ls ih =>
    obtain ⟨u, hu, hr⟩ := M.run_cons_some hr
    exact htrans s u t (hstep s l u hs hu) (ih (hinv s l u hs hu) hr)

/-- Every state the run from `s` passes through, both ends included, satisfies `P`. -/
def Every (P : σ → Prop) : σ → List ι → Prop
  | s, [] => P s
  | s, l :: ls => P s ∧ ∀ t, M.step s l = some t → Every P t ls

/-- Every step the run from `s` takes satisfies `C`. -/
def Along (C : σ → ι → σ → Prop) : σ → List ι → Prop
  | _, [] => True
  | s, l :: ls => ∀ t, M.step s l = some t → C s l t ∧ Along C t ls

variable {M} in
/-- On a run that can be computed, so can a decidable predicate of its states. -/
instance Every.decidable {P : σ → Prop} [DecidablePred P] :
    (s : σ) → (ls : List ι) → Decidable (M.Every P s ls)
  | s, [] => inferInstanceAs (Decidable (P s))
  | s, l :: ls =>
    match h : M.step s l with
    | none => decidable_of_iff (P s)
        ⟨fun hp => ⟨hp, fun _ ht => nomatch h.symm.trans ht⟩, And.left⟩
    | some t =>
      have : Decidable (M.Every P t ls) := Every.decidable t ls
      decidable_of_iff (P s ∧ M.Every P t ls)
        ⟨fun hp => ⟨hp.1, fun _ hu => Option.some.inj (h.symm.trans hu) ▸ hp.2⟩,
          fun hp => ⟨hp.1, hp.2 t h⟩⟩

instance Along.decidable {C : σ → ι → σ → Prop} [∀ s l t, Decidable (C s l t)] :
    (s : σ) → (ls : List ι) → Decidable (M.Along C s ls)
  | _, [] => isTrue trivial
  | s, l :: ls =>
    match h : M.step s l with
    | none => isTrue fun _ ht => nomatch h.symm.trans ht
    | some t =>
      have : Decidable (M.Along C t ls) := Along.decidable t ls
      decidable_of_iff (C s l t ∧ M.Along C t ls)
        ⟨fun hp _ hu => Option.some.inj (h.symm.trans hu) ▸ hp, fun hp => hp t h⟩

theorem every_cons {P : σ → Prop} {s t : σ} {l : ι} {ls : List ι} (h : M.step s l = some t) :
    M.Every P s (l :: ls) ↔ P s ∧ M.Every P t ls := by
  constructor
  · intro hevery
    exact ⟨hevery.1, hevery.2 t h⟩
  · intro hevery
    refine ⟨hevery.1, fun u hu => ?_⟩
    cases h.symm.trans hu
    exact hevery.2

theorem along_cons {C : σ → ι → σ → Prop} {s t : σ} {l : ι} {ls : List ι}
    (h : M.step s l = some t) : M.Along C s (l :: ls) ↔ C s l t ∧ M.Along C t ls := by
  constructor
  · intro halong
    exact halong t h
  · intro halong u hu
    cases h.symm.trans hu
    exact halong

theorem Every.head {P : σ → Prop} {s : σ} {ls : List ι} (h : M.Every P s ls) : P s := by
  cases ls with
  | nil => exact h
  | cons l ls => exact h.1

theorem Every.last {P : σ → Prop} {s t : σ} {ls : List ι} (h : M.Every P s ls)
    (hr : M.run s ls = some t) : P t := by
  induction ls generalizing s with
  | nil => cases hr; exact h
  | cons l ls ih =>
    obtain ⟨u, hu, hr⟩ := M.run_cons_some hr
    exact ih (h.2 u hu) hr

theorem Every.mono {P Q : σ → Prop} (hpq : ∀ s, P s → Q s) {s : σ} {ls : List ι}
    (h : M.Every P s ls) : M.Every Q s ls := by
  induction ls generalizing s with
  | nil => exact hpq s h
  | cons l ls ih => exact ⟨hpq s h.1, fun t ht => ih (h.2 t ht)⟩

theorem Every.and {P Q : σ → Prop} {s : σ} {ls : List ι} (hp : M.Every P s ls)
    (hq : M.Every Q s ls) : M.Every (fun s => P s ∧ Q s) s ls := by
  induction ls generalizing s with
  | nil => exact ⟨hp, hq⟩
  | cons l ls ih => exact ⟨⟨hp.1, hq.1⟩, fun t ht => ih (hp.2 t ht) (hq.2 t ht)⟩

theorem every_of_invariant {I : σ → Prop} (hstep : ∀ s l t, I s → M.step s l = some t → I t)
    {s : σ} (ls : List ι) (hs : I s) : M.Every I s ls := by
  induction ls generalizing s with
  | nil => exact hs
  | cons l ls ih => exact ⟨hs, fun t ht => ih (hstep s l t hs ht)⟩

theorem Along.mono {C D : σ → ι → σ → Prop} (hcd : ∀ s l t, C s l t → D s l t) {s : σ}
    {ls : List ι} (h : M.Along C s ls) : M.Along D s ls := by
  induction ls generalizing s with
  | nil => trivial
  | cons l ls ih => exact fun t ht => ⟨hcd s l t (h t ht).1, ih (h t ht).2⟩

theorem along_true (s : σ) (ls : List ι) : M.Along (fun _ _ _ => True) s ls := by
  induction ls generalizing s with
  | nil => trivial
  | cons l ls ih => exact fun t _ => ⟨trivial, ih t⟩

/-- A condition on the labels alone. -/
theorem along_of_forall {C : ι → Prop} (s : σ) {ls : List ι} (h : ∀ l ∈ ls, C l) :
    M.Along (fun _ l _ => C l) s ls := by
  induction ls generalizing s with
  | nil => trivial
  | cons l ls ih =>
    intro t _
    exact ⟨h l List.mem_cons_self, ih t fun k hk => h k (List.mem_cons_of_mem _ hk)⟩

/-- A condition that is met at every point of the run is met by every step. -/
theorem along_of_points {C : σ → ι → σ → Prop} {s : σ} {ls : List ι}
    (h : ∀ as l bs t u, ls = as ++ l :: bs → M.run s as = some t → M.step t l = some u → C t l u) :
    M.Along C s ls := by
  induction ls generalizing s with
  | nil => trivial
  | cons k ls ih =>
    intro v hv
    refine ⟨h [] k ls s v rfl rfl hv, ih fun as l bs t u hls hrun hstep => ?_⟩
    have hrun' : M.run s (k :: as) = some t := by
      rw [run_cons, hv]
      exact hrun
    exact h (k :: as) l bs t u (by rw [hls, List.cons_append]) hrun' hstep

theorem Along.and {C D : σ → ι → σ → Prop} {s : σ} {ls : List ι} (hc : M.Along C s ls)
    (hd : M.Along D s ls) : M.Along (fun s l t => C s l t ∧ D s l t) s ls := by
  induction ls generalizing s with
  | nil => trivial
  | cons l ls ih =>
    exact fun t ht => ⟨⟨(hc t ht).1, (hd t ht).1⟩, ih (hc t ht).2 (hd t ht).2⟩

/-- A predicate of every state, as a condition on both ends of every step. -/
theorem Every.along {P : σ → Prop} {s : σ} {ls : List ι} (h : M.Every P s ls) :
    M.Along (fun s _ t => P s ∧ P t) s ls := by
  induction ls generalizing s with
  | nil => trivial
  | cons l ls ih => exact fun t ht => ⟨⟨h.1, Every.head M (h.2 t ht)⟩, ih (h.2 t ht)⟩

theorem along_append {C : σ → ι → σ → Prop} {s t : σ} {as bs : List ι}
    (hr : M.run s as = some t) (h : M.Along C s (as ++ bs)) : M.Along C t bs := by
  induction as generalizing s with
  | nil => cases hr; exact h
  | cons a as ih =>
    obtain ⟨u, hu, hr⟩ := M.run_cons_some hr
    exact ih hr (h u hu).2

theorem along_prefix {C : σ → ι → σ → Prop} {s : σ} {as bs : List ι}
    (h : M.Along C s (as ++ bs)) : M.Along C s as := by
  induction as generalizing s with
  | nil => trivial
  | cons a as ih => exact fun t ht => ⟨(h t ht).1, ih (h t ht).2⟩

/-- A mark that stays, and that every step against `C` leaves: a run that ends unmarked has only
steps that meet `C`. -/
theorem along_of_unmarked {Marked : σ → Prop} {C : σ → ι → σ → Prop}
    (hstays : ∀ s l t, M.step s l = some t → Marked s → Marked t)
    (hmarks : ∀ s l t, M.step s l = some t → ¬ C s l t → Marked t)
    {s t : σ} {ls : List ι} (hr : M.run s ls = some t) (hend : ¬ Marked t) :
    M.Along C s ls := by
  induction ls generalizing s with
  | nil => trivial
  | cons l ls ih =>
    obtain ⟨u, hu, hr⟩ := M.run_cons_some hr
    have hunmarked : ¬ Marked u := fun hmark =>
      hend (M.run_invariant (fun s l t hs hst => hstays s l t hst hs) hmark hr)
    have hcu : C s l u := by
      by_contra hnot
      exact hunmarked (hmarks s l u hu hnot)
    exact (M.along_cons hu).mpr ⟨hcu, ih hr⟩

/-- The invariant rule for runs whose steps all meet a side condition. -/
theorem every_of_along {I : σ → Prop} {C : σ → ι → σ → Prop}
    (hstep : ∀ s l t, I s → M.step s l = some t → C s l t → I t)
    {s : σ} {ls : List ι} (hs : I s) (h : M.Along C s ls) : M.Every I s ls := by
  induction ls generalizing s with
  | nil => exact hs
  | cons l ls ih =>
    exact ⟨hs, fun t ht => ih (hstep s l t hs ht (h t ht).1) (h t ht).2⟩

/-- The termination measure rule on runs whose steps all meet a side condition `D`: where the
steps of one kind lower a rank and no other step raises it, such a run takes at most so many of
them. -/
theorem count_le_rank {I : σ → Prop} {D : σ → ι → σ → Prop} (own : ι → Bool) (rank : σ → Nat)
    (hI : ∀ s l t, I s → M.step s l = some t → D s l t → I t)
    (hown : ∀ s l t, I s → M.step s l = some t → D s l t → own l = true → rank t < rank s)
    (hother : ∀ s l t, I s → M.step s l = some t → D s l t → own l = false → rank t ≤ rank s)
    {s t : σ} {ls : List ι} (hs : I s) (hr : M.run s ls = some t) (hd : M.Along D s ls) :
    ls.countP own + rank t ≤ rank s := by
  induction ls generalizing s with
  | nil => cases hr; simp
  | cons l ls ih =>
    obtain ⟨u, hu, hr⟩ := M.run_cons_some hr
    obtain ⟨hdu, hdrest⟩ := hd u hu
    have hrest := ih (hI s l u hs hu hdu) hr hdrest
    cases hl : own l with
    | true =>
      have hless := hown s l u hs hu hdu hl
      rw [List.countP_cons_of_pos hl]
      omega
    | false =>
      have hle := hother s l u hs hu hdu hl
      rw [List.countP_cons_of_neg (by simp [hl])]
      omega

/-- A run whose steps all lower a rank is no longer than the rank. -/
theorem length_le_rank {I : σ → Prop} {D : σ → ι → σ → Prop} (rank : σ → Nat)
    (hI : ∀ s l t, I s → M.step s l = some t → D s l t → I t)
    (hrank : ∀ s l t, I s → M.step s l = some t → D s l t → rank t < rank s)
    {s t : σ} {ls : List ι} (hs : I s) (hr : M.run s ls = some t) (hd : M.Along D s ls) :
    ls.length + rank t ≤ rank s := by
  have h := M.count_le_rank (fun _ => true) rank hI
    (fun s l t hs hst hl _ => hrank s l t hs hst hl) (fun _ _ _ _ _ _ hl => nomatch hl) hs hr hd
  rwa [List.countP_true] at h

theorem Along.append {C : σ → ι → σ → Prop} {s t : σ} {as bs : List ι}
    (ha : M.Along C s as) (hr : M.run s as = some t) (hb : M.Along C t bs) :
    M.Along C s (as ++ bs) := by
  induction as generalizing s with
  | nil => cases hr; exact hb
  | cons a as ih =>
    obtain ⟨u, hu, hr⟩ := M.run_cons_some hr
    exact (M.along_cons hu).mpr ⟨(ha u hu).1, ih (ha u hu).2 hr⟩

/-- The exact-condition rule on runs whose steps all meet a side condition `D`. If, over an
invariant `J` of these runs, a step keeps `P` exactly when it meets `C`, then such a run keeps
`P` in every state exactly when all its steps meet `C`. -/
theorem every_iff_along_within {J P : σ → Prop} {C D : σ → ι → σ → Prop}
    (hJ : ∀ s l t, J s → M.step s l = some t → D s l t → J t)
    (hPC : ∀ s l t, J s → P s → M.step s l = some t → D s l t → (P t ↔ C s l t))
    {s : σ} {ls : List ι} (hj : J s) (hp : P s) (hd : M.Along D s ls) :
    M.Every P s ls ↔ M.Along C s ls := by
  induction ls generalizing s with
  | nil => exact ⟨fun _ => trivial, fun _ => hp⟩
  | cons l ls ih =>
    constructor
    · intro h t ht
      obtain ⟨hdt, hdr⟩ := hd t ht
      have hpt := Every.head M (h.2 t ht)
      exact ⟨(hPC s l t hj hp ht hdt).mp hpt, (ih (hJ s l t hj ht hdt) hpt hdr).mp (h.2 t ht)⟩
    · intro h
      refine ⟨hp, fun t ht => ?_⟩
      obtain ⟨hdt, hdr⟩ := hd t ht
      have hpt := (hPC s l t hj hp ht hdt).mpr (h t ht).1
      exact (ih (hJ s l t hj ht hdt) hpt hdr).mpr (h t ht).2

/-- The exact-condition rule. If, over an invariant `J` of all runs, a step keeps `P` exactly
when it meets `C`, then a run keeps `P` in every state exactly when all its steps meet `C`. -/
theorem every_iff_along {J P : σ → Prop} {C : σ → ι → σ → Prop}
    (hJ : ∀ s l t, J s → M.step s l = some t → J t)
    (hPC : ∀ s l t, J s → P s → M.step s l = some t → (P t ↔ C s l t))
    {s : σ} (ls : List ι) (hj : J s) (hp : P s) : M.Every P s ls ↔ M.Along C s ls :=
  M.every_iff_along_within (fun s l t hj ht _ => hJ s l t hj ht)
    (fun s l t hj hp ht _ => hPC s l t hj hp ht) hj hp (M.along_true s ls)

end Machine

end TicketEngine
