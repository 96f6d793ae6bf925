import TicketEngine.System.Invariant

namespace TicketEngine

/-- The hold whose order a frame of `processMessage` is about. -/
def Frame.settles : Frame → Option String
  | .readMessage message =>
    match readEvent message with
    | .ok payload => some payload.holdId
    | .error _ => none
  | .findBooking _ payload | .sellRow _ payload | .bookRow _ payload | .commitBooking _ payload
  | .publishBooked _ payload | .acknowledge _ payload => some payload.holdId
  | _ => none

/-- Inside the transaction of `settleOrder`. -/
def Frame.inSettlement : Frame → Bool
  | .findBooking _ _ | .sellRow _ _ | .bookRow _ _ | .commitBooking _ _ => true
  | _ => false

/-- Nothing but its own steps moves the thread: it is neither killed nor given a new message. -/
def Undisturbed (t : Thread) (world : World) (l : Label) (world' : World) : Prop :=
  (∀ c, l ≠ .act t c) → world'.point t = world.point t

variable {digests : ScriptDigests} {world world' : World}

theorem booked_step {l : Label} (hv : outline.Valid world)
    (h : step digests world l = some world') {holdId : String}
    (hb : Booked world.shared holdId) : Booked world'.shared holdId := by
  obtain ⟨-, ⟨t, c, rfl, hchange⟩ | ⟨-, hquiet⟩⟩ := step_cases hv h
  · exact hchange.rows.booked hb
  · obtain ⟨o, ho, hst⟩ := hb
    exact ⟨o, by rw [hquiet.orders]; exact ho, hst⟩

theorem reach_booked (hv : outline.Valid world) (h : (engine digests).Reach world world')
    {holdId : String} (hb : Booked world.shared holdId) : Booked world'.shared holdId := by
  refine (Machine.Reach.invariant _
    (I := fun w => outline.Valid w ∧ Booked w.shared holdId) ?_ ⟨hv, hb⟩ h).2
  intro w l w' hall hstep
  obtain ⟨hv, hb⟩ := hall
  exact ⟨valid_step digests w l w' hv hstep, booked_step hv hstep hb⟩

/-- A delivery of an order that is BOOKED already changes no seat and no order. -/
theorem redelivery_step (hv : outline.Valid world) {t : Thread} {c : Choice} {holdId : String}
    (hb : Booked world.shared holdId) (hf : (world.point t).settles = some holdId)
    (h : step digests world (.act t c) = some world') :
    world'.shared.seats = world.shared.seats ∧ world'.shared.orders = world.shared.orders := by
  obtain ⟨-, ⟨u, c', heq, hchange⟩ | ⟨hne, -⟩⟩ := step_cases hv h
  · cases heq
    cases hchange.rows with
    | same hseats horders => exact ⟨hseats, horders⟩
    | place order _ hp _ _ _ _ _ _ =>
      rw [hp] at hf
      cases hf
    | free request _ hp _ _ _ _ =>
      rw [hp] at hf
      cases hf
    | book message payload _ hp _ howns hplaced _ _ =>
      rw [hp] at hf
      cases hf
      obtain ⟨o, ho, -, -, hseat, -⟩ := hplaced
      obtain ⟨o', ho', hst⟩ := hb
      rw [ho] at ho'
      cases ho'
      have hsold := hv.1.sold ho hst
      rw [hseat, howns.2] at hsold
      simp at hsold
  · exact absurd rfl (hne t c)

/-! ## Attempts -/

theorem ended_cases {f : Frame} (h : f.ended = true) :
    (∃ id, f = .processed id) ∨ ∃ id e, f = .failed id e := by
  cases f with
  | processed id => exact .inl ⟨id, rfl⟩
  | failed id e => exact .inr ⟨id, e, rfl⟩
  | _ => cases h

/-- A thread that has ended stays where it is. -/
theorem ended_stuck {t : Thread} {f : Frame} (hend : f.ended = true) {ls : List Label}
    (hf : world.point t = f) (hq : (engine digests).Along (Undisturbed t) world ls)
    (h : (engine digests).run world ls = some world') : world'.point t = f := by
  induction ls generalizing world with
  | nil => cases h; exact hf
  | cons l ls ih =>
    obtain ⟨u, hu, h⟩ := Machine.run_cons_some _ h
    obtain ⟨hkeep, hq⟩ := hq u hu
    refine ih ?_ hq h
    rw [← hf]
    refine hkeep fun c hl => ?_
    subst hl
    rcases ended_cases hend with ⟨id, rfl⟩ | ⟨id, e, rfl⟩
    · obtain ⟨p, hp, -⟩ := act_step hu hf rfl
      cases hp
    · obtain ⟨p, hp, -⟩ := act_step hu hf rfl
      cases hp

theorem acknowledge_ended {t : Thread} {c : Choice} {message : RedisStreamMessage}
    {payload : OrderCreatedEventPayload} (hf : world.point t = .acknowledge message payload)
    (h : step digests world (.act t c) = some world') : (world'.point t).ended = true := by
  obtain ⟨p, hp, rfl⟩ := act_step h hf rfl
  cases hp
  simp only [Function.update_self]
  cases c <;> rfl

theorem ended_not_acknowledge {f : Frame} (hend : f.ended = true) (message : RedisStreamMessage)
    (payload : OrderCreatedEventPayload) : f ≠ .acknowledge message payload := by
  intro heq
  subst heq
  cases hend

/-- If an attempt's settlement aborts, the same attempt never stands at the XACK. -/
theorem aborted_not_acknowledged {t : Thread} {ls as as' bs bs' : List Label} {c c' : Choice}
    {u u' v : World} {id : Nat} {e : WorkerError}
    (hq : (engine digests).Along (Undisturbed t) world ls)
    (hls : ls = as ++ .act t c :: bs) (hu : (engine digests).run world as = some u)
    (hv : step digests u (.act t c) = some v) (hin : (u.point t).inSettlement = true)
    (habort : v.point t = .failed id e)
    (hls' : ls = as' ++ .act t c' :: bs') (hu' : (engine digests).run world as' = some u')
    (message : RedisStreamMessage) (payload : OrderCreatedEventPayload) :
    u'.point t ≠ .acknowledge message payload := by
  intro hack
  rcases List.append_eq_append_iff.mp (hls.symm.trans hls') with ⟨mid, rfl, hmid⟩ | ⟨mid, rfl, hmid⟩
  · cases mid with
    | nil =>
      -- the same step
      rw [List.append_nil, hu] at hu'
      cases hu'
      rw [hack] at hin
      cases hin
    | cons l mid =>
      -- the settlement aborts first
      obtain ⟨rfl, -⟩ := List.cons.inj hmid
      rw [Machine.run_append, hu, Option.bind_some] at hu'
      obtain ⟨x, hx, hrun⟩ := Machine.run_cons_some _ hu'
      have hsame : some x = some v := hx.symm.trans hv
      cases hsame
      have hqu : (engine digests).Along (Undisturbed t) u (.act t c :: bs) :=
        Machine.along_append _ hu (hls ▸ hq)
      have hqx : (engine digests).Along (Undisturbed t) v mid := by
        have hrest := (hqu v hv).2
        rw [(List.cons.inj hmid).2] at hrest
        exact Machine.along_prefix _ hrest
      exact ended_not_acknowledge rfl message payload
        ((ended_stuck rfl habort hqx hrun).symm.trans hack)
  · cases mid with
    | nil =>
      rw [List.append_nil, hu'] at hu
      cases hu
      rw [hack] at hin
      cases hin
    | cons l mid =>
      -- the XACK comes first
      obtain ⟨rfl, hbs⟩ := List.cons.inj hmid
      rw [Machine.run_append, hu', Option.bind_some] at hu
      obtain ⟨x, hx, hrun⟩ := Machine.run_cons_some _ hu
      have hend := acknowledge_ended hack hx
      have hqu : (engine digests).Along (Undisturbed t) u' (.act t c' :: bs') :=
        Machine.along_append _ hu' (hls' ▸ hq)
      have hqx : (engine digests).Along (Undisturbed t) x mid := by
        have hrest := (hqu x hx).2
        rw [hbs] at hrest
        exact Machine.along_prefix _ hrest
      rw [ended_stuck hend rfl hqx hrun] at hin
      rcases ended_cases hend with ⟨i, hf⟩ | ⟨i, e', hf⟩ <;> rw [hf] at hin <;> cases hin

/-- At-least-once settlement is safe: an acknowledged entry's order is BOOKED; a BOOKED order
stays so and further deliveries change nothing; an attempt whose settlement aborts does not
acknowledge. -/
theorem settlement_safe {world₀ : World} (hinit : Initial world₀) :
    (∀ world, (engine digests).Reach world₀ world → ∀ e ∈ world.shared.stream.entries,
      world.shared.stream.Acked e.1 →
        ∃ payload, readEvent (toMessage e) = .ok payload ∧ Booked world.shared payload.holdId) ∧
    (∀ world holdId, (engine digests).Reach world₀ world → Booked world.shared holdId →
      ∀ world', (engine digests).Reach world world' →
        Booked world'.shared holdId ∧
        ∀ t c world'', (world'.point t).settles = some holdId →
          step digests world' (.act t c) = some world'' →
          world''.shared.seats = world'.shared.seats ∧
            world''.shared.orders = world'.shared.orders) ∧
    (∀ world t message ls, (engine digests).Reach world₀ world →
      world.point t = .readMessage message →
      (engine digests).Along (Undisturbed t) world ls →
      ∀ as c bs u v id e, ls = as ++ .act t c :: bs →
        (engine digests).run world as = some u → step digests u (.act t c) = some v →
        (u.point t).inSettlement = true → v.point t = .failed id e →
        ∀ as' c' bs' u', ls = as' ++ .act t c' :: bs' →
          (engine digests).run world as' = some u' →
          ∀ message' payload, u'.point t ≠ .acknowledge message' payload) := by
  refine ⟨?_, ?_, ?_⟩
  · intro world h e he ha
    exact (reach_valid hinit h).1.settled e he ha
  · intro world holdId h hb world' h'
    have hb' := reach_booked (reach_valid hinit h) h' hb
    refine ⟨hb', fun t c world'' hf hstep => ?_⟩
    exact redelivery_step (reach_valid hinit (Machine.Reach.trans _ h h')) hb' hf hstep
  · intro world t message ls _ _ hq as c bs u v id e hls hu hv hin habort as' c' bs' u' hls' hu'
    exact aborted_not_acknowledged hq hls hu hv hin habort hls' hu'

theorem settlement_safe_purchase :
    ∃ world e payload, (engine fun _ => true).run oneSeat (purchase "u" "h" "o") = some world ∧
      e ∈ world.shared.stream.entries ∧
      world.shared.stream.Acked e.1 ∧ readEvent (toMessage e) = .ok payload ∧
      Booked world.shared payload.holdId := by
  have hsome : ((engine fun _ => true).run oneSeat (purchase "u" "h" "o")).isSome = true := by
    decide +kernel
  obtain ⟨world, hrun⟩ := Option.isSome_iff_exists.mp hsome
  have hview : ((engine fun _ => true).run oneSeat (purchase "u" "h" "o")).map
      (fun world => (world.shared.stream.entries.map Prod.fst, world.shared.stream.group)) =
      some ([1], some ⟨1, [], [1]⟩) := by decide +kernel
  rw [hrun] at hview
  obtain ⟨hids, hgroup⟩ := Prod.mk.inj (Option.some.inj hview)
  obtain ⟨e, he, hid⟩ := List.mem_map.mp (hids ▸ List.mem_singleton.mpr rfl :
    1 ∈ world.shared.stream.entries.map Prod.fst)
  have hacked : world.shared.stream.Acked e.1 := ⟨_, hgroup, by rw [hid]; decide⟩
  obtain ⟨payload, hp, hb⟩ := (settlement_safe oneSeat_initial).1 world ⟨_, hrun⟩ e he hacked
  exact ⟨world, e, payload, hrun, he, hacked, hp, hb⟩

end TicketEngine
