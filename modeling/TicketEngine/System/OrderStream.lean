import TicketEngine.System.Invariant

namespace TicketEngine

/-- A worker that creates the group finds the stream empty. -/
def CreatesOnEmpty (world : World) (l : Label) (_ : World) : Prop :=
  ∀ t id mode, l = .act t (.ok id) → world.point t = .createGroup mode →
    world.shared.stream.group = none → world.shared.stream.entries = []

variable {digests : ScriptDigests} {world world' : World}

theorem createGroup_act {t : Thread} {c : Choice} {mode : Mode}
    (h : step digests world (.act t c) = some world')
    (hf : world.point t = .createGroup mode) :
    (∃ id, c = .ok id) ∧ world'.shared.stream = world.shared.stream.createGroup ∨
    (∃ message, c = .fail message) ∧ world'.shared.stream = world.shared.stream := by
  cases t with
  | worker w =>
    simp only [step, actWorker, hf] at h
    cases h
    cases c with
    | fail message => exact .inr ⟨⟨message, rfl⟩, rfl⟩
    | ok id => exact .inl ⟨⟨id, rfl⟩, rfl⟩
  | call n =>
    simp only [step, hf] at h
    cases h
  | task w i =>
    simp only [step, hf] at h
    cases h

/-- A step keeps every entry accounted for exactly when it creates no group behind one. -/
theorem accounted_step {l : Label} (hv : outline.Valid world)
    (ha : world.shared.stream.Accounted) (h : step digests world l = some world') :
    world'.shared.stream.Accounted ↔ CreatesOnEmpty world l world' := by
  have ho := hv.1.ordered
  obtain ⟨-, ⟨t, c, rfl, hchange⟩ | ⟨hne, hquiet⟩⟩ := step_cases hv h
  · by_cases hcreate : ∃ mode, world.point t = .createGroup mode
    · obtain ⟨mode, hf⟩ := hcreate
      rcases createGroup_act h hf with ⟨⟨id, rfl⟩, hs⟩ | ⟨⟨message, rfl⟩, hs⟩
      · rw [hs, Stream.accounted_createGroup ha ho]
        constructor
        · intro hempty u id' mode' heq _
          cases heq
          exact hempty
        · exact fun hc => hc t id mode rfl hf
      · rw [hs]
        exact ⟨fun _ _ _ _ heq => (nomatch heq), fun _ => ha⟩
    · have hc : CreatesOnEmpty world (.act t c) world' := by
        intro u id mode heq hf
        cases heq
        exact absurd ⟨mode, hf⟩ hcreate
      refine ⟨fun _ => hc, fun _ => ?_⟩
      cases hchange.log with
      | same hstream => rw [hstream]; exact ha
      | append _ now fields _ _ _ hstream => rw [hstream]; exact ha.append ho now fields
      | create mode hf _ => exact absurd ⟨mode, hf⟩ hcreate
      | claim _ _ _ _ _ hstream => exact ha.autoclaim hstream
      | read _ _ _ _ hstream => exact ha.read ho hstream
      | ack message _ _ _ _ hstream => rw [hstream]; exact ha.ack message.id
  · constructor
    · intro _ t id mode heq
      exact absurd heq (hne t _)
    · intro _
      rw [hquiet.stream]
      exact ha

theorem entry_step {l : Label} (hv : outline.Valid world)
    (h : step digests world l = some world') {e : Nat × List String}
    (he : e ∈ world.shared.stream.entries) : e ∈ world'.shared.stream.entries := by
  obtain ⟨-, ⟨t, c, rfl, hchange⟩ | ⟨-, hquiet⟩⟩ := step_cases hv h
  · exact hchange.log.entry_kept he
  · rw [hquiet.stream]
    exact he

/-- An entry, once appended, is in the stream of every later state. -/
theorem reach_entry (hv : outline.Valid world) (h : (engine digests).Reach world world')
    {e : Nat × List String} (he : e ∈ world.shared.stream.entries) :
    e ∈ world'.shared.stream.entries := by
  refine (Machine.Reach.invariant _
    (I := fun w => outline.Valid w ∧ e ∈ w.shared.stream.entries) ?_ ⟨hv, he⟩ h).2
  intro w l w' hall hstep
  obtain ⟨hv, he⟩ := hall
  exact ⟨valid_step digests w l w' hv hstep, entry_step hv hstep he⟩

/-- Every entry ever appended stays in the stream, and it is acknowledged, pending or still to
be delivered in every state of a run exactly when the group is created on an empty stream. -/
theorem order_stream_iff {world₀ : World} (hinit : Initial world₀) (ls : List Label) :
    ((engine digests).Every (fun world => world.shared.stream.Accounted) world₀ ls ∧
        ∀ as bs u v, ls = as ++ bs → (engine digests).run world₀ as = some u →
          (engine digests).run u bs = some v →
          ∀ e ∈ u.shared.stream.entries, e ∈ v.shared.stream.entries) ↔
      (engine digests).Along CreatesOnEmpty world₀ ls := by
  have hstart : world₀.shared.stream.Accounted := by
    rw [hinit.stream]
    exact Stream.accounted_empty
  have hiff := Machine.every_iff_along (engine digests) (J := outline.Valid)
    (P := fun world => world.shared.stream.Accounted) (valid_step digests)
    (fun _ _ _ hv ha h => accounted_step hv ha h) ls (initial_valid hinit) hstart
  rw [hiff]
  refine ⟨And.left, fun hc => ⟨hc, ?_⟩⟩
  intro as bs u v _ hu hv e he
  exact reach_entry (reach_valid hinit ⟨as, hu⟩) ⟨bs, hv⟩ he

/-- An order is accepted before any worker has started. -/
def lateGroup : List Label :=
  [.createOrder 0 (requestOf "u")] ++
    acts (.call 0) ["h", "", "", "", "o", "", "held-event", "order-event"] ++
    [.startOrderConsumer 0] ++ acts (.worker 0) [""]

theorem order_stream_fails_lateGroup :
    ∃ world e g, (engine fun _ => true).run oneSeat lateGroup = some world ∧
      e ∈ world.shared.stream.entries ∧ world.shared.stream.group = some g ∧
      e.1 ∉ g.acked ∧ e.1 ∉ g.pending.map Delivery.id ∧ ¬ g.lastDelivered < e.1 ∧
      ¬ world.shared.stream.Accounted := by
  have hsome : ((engine fun _ => true).run oneSeat lateGroup).isSome = true := by decide +kernel
  obtain ⟨world, hrun⟩ := Option.isSome_iff_exists.mp hsome
  have hview : ((engine fun _ => true).run oneSeat lateGroup).map
      (fun world => (world.shared.stream.entries.map Prod.fst, world.shared.stream.group)) =
      some ([1], some ⟨1, [], []⟩) := by decide +kernel
  rw [hrun] at hview
  obtain ⟨hids, hgroup⟩ := Prod.mk.inj (Option.some.inj hview)
  obtain ⟨e, he, hid⟩ := List.mem_map.mp (hids ▸ List.mem_singleton.mpr rfl :
    1 ∈ world.shared.stream.entries.map Prod.fst)
  refine ⟨world, e, _, hrun, he, hgroup, List.not_mem_nil, List.not_mem_nil,
    by rw [hid]; decide, fun ha => ?_⟩
  rcases ha e he _ hgroup with hk | hk | hk
  · exact absurd hk List.not_mem_nil
  · exact absurd hk List.not_mem_nil
  · rw [hid] at hk
    exact absurd hk (by decide)

theorem order_stream_iff_oneSeat :
    ((engine fun _ => true).Every (fun world => world.shared.stream.Accounted) oneSeat lateGroup ∧
        ∀ as bs u v, lateGroup = as ++ bs → (engine fun _ => true).run oneSeat as = some u →
          (engine fun _ => true).run u bs = some v →
          ∀ e ∈ u.shared.stream.entries, e ∈ v.shared.stream.entries) ↔
      (engine fun _ => true).Along CreatesOnEmpty oneSeat lateGroup :=
  order_stream_iff oneSeat_initial lateGroup

end TicketEngine
