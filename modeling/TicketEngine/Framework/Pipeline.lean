import TicketEngine.Framework.Refinement

namespace TicketEngine

/-- The states of two machines, the first of which feeds the second. -/
structure Piped (σ τ : Type*) where
  source : σ
  sink : τ

namespace Machine

variable {σ τ ι κ : Type*} (A : Machine σ ι) (B : Machine τ κ) (feed : σ → σ → Option κ)
  (own : κ → Bool)

/-- A source and a sink side by side. What a step of the source feeds, the sink takes in the same
step; other labels it takes by itself, if they are its own. -/
def pipeline : Machine (Piped σ τ) (ι ⊕ κ) where
  step p
    | .inl l => (A.step p.source l).bind fun a =>
      (B.run p.sink (feed p.source a).toList).map fun b => ⟨a, b⟩
    | .inr k => if own k then (B.step p.sink k).map fun b => ⟨p.source, b⟩ else none

/-- The label that the sink takes in a step of the pipeline. -/
def fed (p : Piped σ τ) : ι ⊕ κ → Option κ
  | .inl l => (A.step p.source l).bind (feed p.source)
  | .inr k => some k

variable {A B feed own} {p q : Piped σ τ} {ls : List (ι ⊕ κ)}

theorem pipeline_source {l : ι} (h : (A.pipeline B feed own).step p (.inl l) = some q) :
    A.step p.source l = some q.source ∧
      B.run p.sink (feed p.source q.source).toList = some q.sink := by
  obtain ⟨a, ha, h⟩ := Option.bind_eq_some_iff.mp h
  obtain ⟨b, hb, rfl⟩ := Option.map_eq_some_iff.mp h
  exact ⟨ha, hb⟩

theorem pipeline_sink {k : κ} (h : (A.pipeline B feed own).step p (.inr k) = some q) :
    own k = true ∧ B.step p.sink k = some q.sink ∧ q.source = p.source := by
  have hmap : (if own k then (B.step p.sink k).map fun b => Piped.mk p.source b else none) =
      some q := h
  split_ifs at hmap with hown
  obtain ⟨b, hb, rfl⟩ := Option.map_eq_some_iff.mp hmap
  exact ⟨hown, hb, rfl⟩

theorem pipeline_fed {l : ι ⊕ κ} (h : (A.pipeline B feed own).step p l = some q) :
    B.run p.sink (A.fed feed p l).toList = some q.sink := by
  cases l with
  | inl l =>
    obtain ⟨hstep, hfeed⟩ := pipeline_source h
    show B.run p.sink ((A.step p.source l).bind (feed p.source)).toList = some q.sink
    rw [hstep]
    exact hfeed
  | inr k =>
    obtain ⟨-, hstep, -⟩ := pipeline_sink h
    show B.run p.sink [k] = some q.sink
    rw [run_cons, hstep]
    rfl

/-- The source runs as if it were alone. -/
theorem pipeline_run_source (h : (A.pipeline B feed own).run p ls = some q) :
    A.run p.source (ls.filterMap Sum.getLeft?) = some q.source := by
  induction ls generalizing p with
  | nil =>
    cases h
    rfl
  | cons l ls ih =>
    obtain ⟨u, hu, hrun⟩ := Machine.run_cons_some _ h
    have hrest := ih hrun
    cases l with
    | inl l =>
      obtain ⟨hstep, -⟩ := pipeline_source hu
      show A.run p.source (l :: ls.filterMap Sum.getLeft?) = some q.source
      rw [run_cons, hstep]
      exact hrest
    | inr k =>
      obtain ⟨-, -, hsource⟩ := pipeline_sink hu
      show A.run p.source (ls.filterMap Sum.getLeft?) = some q.source
      rw [← hsource]
      exact hrest

/-- The sink runs on what it is fed and on its own labels. -/
theorem pipeline_run_sink (h : (A.pipeline B feed own).run p ls = some q) :
    B.run p.sink ((A.pipeline B feed own).trace (A.fed feed) p ls) = some q.sink :=
  run_trace (I := fun _ => True) (f := Piped.sink) (fun _ _ _ _ _ => trivial)
    (fun _ _ _ _ hstep => pipeline_fed hstep) trivial h

/-- The sink is in no state that the pipeline is not in. -/
theorem pipeline_every_sink {P : τ → Prop}
    (h : (A.pipeline B feed own).Every (fun p => P p.sink) p ls) :
    B.Every P p.sink ((A.pipeline B feed own).trace (A.fed feed) p ls) := by
  induction ls generalizing p with
  | nil => exact h
  | cons l ls ih =>
    obtain ⟨hp, hlater⟩ := h
    cases hstep : (A.pipeline B feed own).step p l with
    | none =>
      rw [trace, hstep]
      exact hp
    | some u =>
      rw [trace_cons hstep]
      have hrest := ih (hlater u hstep)
      have hfed := pipeline_fed hstep
      cases hk : A.fed feed p l with
      | none =>
        rw [hk] at hfed
        have hsame : p.sink = u.sink := Option.some.inj hfed
        rw [hsame]
        exact hrest
      | some k =>
        rw [hk] at hfed
        obtain ⟨b, hb, hnil⟩ := Machine.run_cons_some _ hfed
        cases hnil
        exact (every_cons B hb).mpr ⟨hp, hrest⟩

/-- What holds of the sink's own labels of a run and of whatever it can be fed. -/
theorem pipeline_fed_forall {Q : κ → Prop} (hfeed : ∀ a b k, feed a b = some k → Q k)
    (hown : ∀ k, Sum.inr k ∈ ls → Q k) :
    ∀ k ∈ (A.pipeline B feed own).trace (A.fed feed) p ls, Q k := by
  induction ls generalizing p with
  | nil => simp [trace]
  | cons l ls ih =>
    cases hstep : (A.pipeline B feed own).step p l with
    | none => simp [trace, hstep]
    | some u =>
      intro k hk
      rw [trace_cons hstep] at hk
      rcases List.mem_append.mp hk with hnow | hlater
      · have hlabel : A.fed feed p l = some k := Option.mem_toList.mp hnow
        cases l with
        | inl l =>
          obtain ⟨a, -, ha⟩ := Option.bind_eq_some_iff.mp hlabel
          exact hfeed _ a k ha
        | inr k' =>
          cases hlabel
          exact hown k List.mem_cons_self
      · exact ih (fun k' hk' => hown k' (List.mem_cons_of_mem _ hk')) k hlater

end Machine

end TicketEngine
