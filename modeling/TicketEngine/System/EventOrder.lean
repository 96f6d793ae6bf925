import TicketEngine.System.Course

namespace TicketEngine

/-- The hold that a seat.held event announces. -/
def SeatEventPayload.heldHold : SeatEventPayload → Option String
  | .held _ _ holdId _ _ => some holdId
  | _ => none

/-- The order that a seat.booked event announces. -/
def SeatEventPayload.bookedOrder : SeatEventPayload → Option String
  | .booked _ _ orderId => some orderId
  | _ => none

/-- The hold a call has drawn, up to the XADD of its order. -/
def Frame.hold : Frame → Option String
  | .evalshaHold _ _ holdId | .evalHold _ _ holdId | .holdReply _ _ holdId _ => some holdId
  | .publishHold record => some record.holdId
  | .lockSeat _ execution | .createRow _ execution => some execution.holdId
  | .commitOrder order | .publishHeld order | .appendEvent order => some order.holdId
  | _ => none

section Act

variable {s s' : Store} {t : Thread} {c : Choice} {f f' : Frame} {holdId : String}

theorem announces_hold {payload : SeatEventPayload} (hf : f.announces = some (payload, f'))
    (hhold : f'.hold = some holdId) :
    f.hold = some holdId ∧ ∀ order, f ≠ .appendEvent order := by
  cases f with
  | publishHeld order =>
    cases hf
    exact ⟨hhold, by simp⟩
  | publishHold _ | publishReleased _ _ | publishBooked _ _ =>
    cases hf
    cases hhold
  | _ => cases hf

theorem announces_held {payload : SeatEventPayload} (hf : f.announces = some (payload, f'))
    (hheld : payload.heldHold = some holdId) : f.hold = some holdId := by
  cases f with
  | publishHold _ | publishHeld _ =>
    cases hf
    exact hheld
  | publishReleased _ _ | publishBooked _ _ =>
    cases hf
    cases hheld
  | _ => cases hf

theorem announces_booked {payload : SeatEventPayload} {orderId : String}
    (hf : f.announces = some (payload, f')) (hbooked : payload.bookedOrder = some orderId) :
    ∃ message event, f = .publishBooked message event ∧ event.orderId = orderId := by
  cases f with
  | publishBooked message event =>
    cases hf
    cases hbooked
    exact ⟨message, event, rfl, rfl⟩
  | publishHold _ | publishHeld _ | publishReleased _ _ =>
    cases hf
    cases hbooked
  | _ => cases hf

theorem Silent.hold (h : Silent s f f') (hhold : f'.hold = some holdId) :
    (f.hold = some holdId ∧ ∀ order, f ≠ .appendEvent order) ∨ s.drawn holdId = none ∧
      ∃ caller request, f = .findEvent caller request ∧
        f' = .evalshaHold caller request holdId := by
  cases h with
  | find_event hdraw =>
    cases hhold
    exact .inr ⟨hdraw, _, _, rfl, rfl⟩
  | hold_fallback => exact .inl ⟨hhold, by simp⟩
  | hold_lost hf hcode =>
    rcases hf with rfl | rfl
    · exact .inl ⟨hhold, by simp⟩
    · exact .inl ⟨hhold, by simp⟩
  | hold_seat hrecord =>
    refine .inl ⟨?_, by simp⟩
    rw [← hhold]
    exact congrArg some hrecord.2.2.symm
  | create_order hexecution =>
    refine .inl ⟨?_, by simp⟩
    rw [← hhold]
    exact congrArg some hexecution.symm
  | lock_seat => exact .inl ⟨hhold, by simp⟩
  | create_row horder =>
    refine .inl ⟨?_, by simp⟩
    rw [← hhold]
    exact congrArg some horder.2.2.symm
  | _ => cases hhold

/-- A call goes on with the hold it has, until the XADD, or it has just drawn one. -/
theorem Course.hold (h : Course s t c f s' f') (hhold : f'.hold = some holdId) :
    (f.hold = some holdId ∧ ∀ order, f ≠ .appendEvent order) ∨ s.drawn holdId = none ∧
      ∃ caller request, f = .findEvent caller request ∧
        f' = .evalshaHold caller request holdId := by
  cases h with
  | quit hstill hend => cases hend with | _ => cases hhold
  | silent hstill hmove => exact hmove.hold hhold
  | take hf =>
    rcases hf with rfl | rfl
    · exact .inl ⟨hhold, by simp⟩
    · exact .inl ⟨hhold, by simp⟩
  | place => exact .inl ⟨hhold, by simp⟩
  | announce hf => exact .inl (announces_hold hf hhold)
  | unannounced hf => exact .inl (announces_hold hf hhold)
  | append | drop | free | book | acknowledge => cases hhold

theorem Course.of_commitOrder {order : Order} (h : Course s t c f s' f')
    (hf' : f' = .commitOrder order) : ∃ request execution, f = .createRow request execution := by
  cases h with
  | quit hstill hend => cases hend with | _ => cases hf'
  | silent hstill hmove =>
    subst hf'
    cases hmove with
    | create_row => exact ⟨_, _, rfl⟩
  | announce hf =>
    subst hf'
    simpa using announces_next hf
  | unannounced hf =>
    subst hf'
    simpa using announces_next hf
  | take | place | append | drop | free | book | acknowledge => cases hf'

/-- The order a call is about to commit has the id that it has just drawn. -/
theorem commitOrder_origin {digests : ScriptDigests} {r : Store × Frame} {order : Order}
    (h : f.act digests s t c = some r) (hr : r.2 = .commitOrder order) :
    s.drawn order.id = none ∧ r.1.drawn order.id = some t ∧ r.1.orders = s.orders := by
  obtain ⟨request, execution, rfl⟩ := (act_course h).of_commitOrder hr
  cases c with
  | fail message =>
    cases h
    cases hr
  | ok id =>
    obtain ⟨s₁, hd, rfl⟩ := Option.map_eq_some_iff.mp h
    obtain ⟨hnone, rfl⟩ := draw_eq hd
    cases hrow : s.orders.row execution.holdId with
    | some o =>
      simp only [hrow] at hr
      cases hr
    | none =>
      simp only [hrow] at hr ⊢
      cases hr
      exact ⟨hnone, Function.update_self .., trivial⟩

/-- A row of the new table is an old one, but for its status, or the order just committed. -/
theorem Rows.row_origin {mine : Thread → Prop} (h : Rows f mine s s') {o : Order}
    (ho : s'.orders.row holdId = some o) :
    (∃ o', s.orders.row holdId = some o' ∧ o'.id = o.id) ∨
      f = .commitOrder o ∧ holdId = o.holdId := by
  cases h with
  | same _ horders =>
    rw [horders] at ho
    exact .inl ⟨o, ho, rfl⟩
  | free _ _ _ _ _ _ horders =>
    rw [horders] at ho
    exact .inl ⟨o, ho, rfl⟩
  | place order u hf _ _ _ _ _ horders =>
    rw [horders, insert_row] at ho
    split_ifs at ho with hk
    · cases ho
      exact .inr ⟨hf, hk⟩
    · exact .inl ⟨o, ho, rfl⟩
  | book _ payload _ _ _ _ _ _ horders =>
    rw [horders, book_row] at ho
    split_ifs at ho with hk
    · obtain ⟨o', ho', rfl⟩ := Option.map_eq_some_iff.mp ho
      exact .inl ⟨o', by rw [hk]; exact ho', rfl⟩
    · exact .inl ⟨o, ho, rfl⟩

/-- An entry of the new stream is an old one, or the event of the frame that appends. -/
theorem Log.entry_origin (h : Log f s s') {e : Nat × List String}
    (he : e ∈ s'.stream.entries) :
    e ∈ s.stream.entries ∨
      ∃ order, f = .appendEvent order ∧ readEvent (toMessage e) = .ok (orderPayload order) := by
  cases h with
  | same hstream =>
    rw [hstream] at he
    exact .inl he
  | append order now fields hf _ hread hstream =>
    rw [hstream] at he
    rcases List.mem_append.mp he with he | he
    · exact .inl he
    · rw [List.mem_singleton.mp he]
      exact .inr ⟨order, hf, hread _⟩
  | create _ _ hstream =>
    rw [hstream, Stream.createGroup_entries] at he
    exact .inl he
  | claim _ _ _ _ _ hstream =>
    rw [(Stream.autoclaim_entries hstream).1] at he
    exact .inl he
  | read _ _ _ _ hstream =>
    rw [(Stream.read_entries hstream).1] at he
    exact .inl he
  | ack _ _ _ _ _ hstream =>
    rw [hstream, Stream.ack_entries] at he
    exact .inl he

end Act

/-- The id of an order row is drawn once, for one row. -/
structure RowIds (world : World) : Prop where
  issued : ∀ {holdId o}, world.shared.orders.row holdId = some o →
    ∃ t, world.shared.drawn o.id = some t
  unique : ∀ {h₁ h₂ o₁ o₂}, world.shared.orders.row h₁ = some o₁ →
    world.shared.orders.row h₂ = some o₂ → o₁.id = o₂.id → h₁ = h₂
  pending : ∀ {t order}, world.point t = .commitOrder order →
    world.shared.drawn order.id = some t ∧
      ∀ {holdId o}, world.shared.orders.row holdId = some o → o.id ≠ order.id

section Step

variable {digests : ScriptDigests} {world world' : World} {l : Label}

theorem rowIds_act (hv : outline.Valid world) (hi : RowIds world) {t : Thread} {c : Choice}
    {p : Store × Frame} (hact : (world.point t).act digests world.shared t c = some p) :
    RowIds ⟨p.1, Function.update world.point t p.2⟩ := by
  have hchange : Change (world.point t) (· = t) world.shared p.1 :=
    (act_moves hv.1 (hv.2 t) hact).1
  refine ⟨?_, ?_, ?_⟩
  · intro holdId o ho
    rcases hchange.rows.row_origin ho with ⟨o', ho', hid⟩ | ⟨hf, -⟩
    · obtain ⟨u, hu⟩ := hi.issued ho'
      exact ⟨u, hchange.drawn _ u (hid ▸ hu)⟩
    · exact ⟨t, hchange.drawn _ t (hi.pending hf).1⟩
  · intro h₁ h₂ o₁ o₂ ho₁ ho₂ hids
    rcases hchange.rows.row_origin ho₁ with ⟨o₁', ho₁', hid₁⟩ | ⟨hf₁, hk₁⟩ <;>
      rcases hchange.rows.row_origin ho₂ with ⟨o₂', ho₂', hid₂⟩ | ⟨hf₂, hk₂⟩
    · exact hi.unique ho₁' ho₂' (hid₁.trans (hids.trans hid₂.symm))
    · exact absurd (hid₁.trans hids) ((hi.pending hf₂).2 ho₁')
    · exact absurd (hid₂.trans hids.symm) ((hi.pending hf₁).2 ho₂')
    · rw [hf₁] at hf₂
      cases hf₂
      exact hk₁.trans hk₂.symm
  · intro u order hpoint
    by_cases hu : u = t
    · subst hu
      simp only [Function.update_self] at hpoint
      obtain ⟨hnone, hdrawn, horders⟩ := commitOrder_origin hact hpoint
      refine ⟨hdrawn, fun {holdId o} ho hid => ?_⟩
      simp only [horders] at ho
      obtain ⟨v, hv⟩ := hi.issued ho
      rw [hid, hnone] at hv
      cases hv
    · simp only [Function.update_of_ne hu] at hpoint
      obtain ⟨hdrawn, hother⟩ := hi.pending hpoint
      refine ⟨hchange.drawn _ u hdrawn, fun {holdId o} ho => ?_⟩
      rcases hchange.rows.row_origin ho with ⟨o', ho', hid⟩ | ⟨hf, -⟩
      · rw [← hid]
        exact hother ho'
      · -- both threads are about to commit, each under an id of its own
        intro hid
        have hown := (hi.pending hf).1
        rw [hid, hdrawn] at hown
        exact hu (Option.some.inj hown)

theorem rowIds_step (hv : outline.Valid world) (hi : RowIds world)
    (h : step digests world l = some world') : RowIds world' := by
  rcases step_act h with ⟨t, c, p, rfl, hact, rfl⟩ | ⟨⟨hcalm, henters⟩, -⟩
  · exact rowIds_act hv hi hact
  · refine ⟨?_, ?_, ?_⟩
    · rw [hcalm.orders, hcalm.drawn]
      exact hi.issued
    · rw [hcalm.orders]
      exact hi.unique
    · intro t order hpoint
      rw [hcalm.orders, hcalm.drawn]
      rcases henters t with hsame | hentering
      · exact hi.pending (hsame ▸ hpoint)
      · rw [hpoint] at hentering
        cases hentering

/-! ## Nobody announces a hold whose order is on the stream -/

/-- A booked event stands before the held event of the same order. -/
def Late (s : Store) (earlier later : WebSocketSeatEvent) : Prop :=
  ∃ order, s.orders.row order.holdId = some order ∧
    earlier.payload.bookedOrder = some order.id ∧ later.payload.heldHold = some order.holdId

structure HeldFirst (published : List WebSocketSeatEvent) (world : World) : Prop where
  own : ∀ {t holdId}, (world.point t).hold = some holdId → world.shared.drawn holdId = some t
  closed : ∀ {e payload t}, e ∈ world.shared.stream.entries →
    readEvent (toMessage e) = .ok payload → (world.point t).hold ≠ some payload.holdId
  booked : ∀ {event orderId}, event ∈ published → event.payload.bookedOrder = some orderId →
    ∃ e ∈ world.shared.stream.entries, ∃ payload, readEvent (toMessage e) = .ok payload ∧
      payload.orderId = orderId
  ordered : published.Pairwise fun earlier later => ¬ Late world.shared earlier later

theorem entering_hold {f : Frame} (h : f.Entering l) : f.hold = none := by
  cases f with
  | evalshaHold _ _ _ | evalHold _ _ _ | holdReply _ _ _ _ | publishHold _ => cases h
  | lockSeat _ _ | createRow _ _ | commitOrder _ | publishHeld _ | appendEvent _ => cases h
  | _ => rfl

/-- A thread that has a hold had it before, or the hold is new. -/
theorem hold_step (h : step digests world l = some world') {t : Thread} {holdId : String}
    (hhold : (world'.point t).hold = some holdId) :
    (world.point t).hold = some holdId ∨ world.shared.drawn holdId = none := by
  rcases step_act h with ⟨u, c, p, rfl, hact, rfl⟩ | ⟨⟨-, henters⟩, -⟩
  · by_cases ht : t = u
    · subst ht
      simp only [Function.update_self] at hhold
      rcases (act_course hact).hold hhold with ⟨hsame, -⟩ | ⟨hnew, -⟩
      · exact .inl hsame
      · exact .inr hnew
    · simp only [Function.update_of_ne ht] at hhold
      exact .inl hhold
  · rcases henters t with hsame | hentering
    · exact .inl (hsame ▸ hhold)
    · rw [entering_hold hentering] at hhold
      cases hhold

theorem own_step {published : List WebSocketSeatEvent} (hv : outline.Valid world)
    (ha : HeldFirst published world) (h : step digests world l = some world') {t : Thread}
    {holdId : String} (hhold : (world'.point t).hold = some holdId) :
    world'.shared.drawn holdId = some t := by
  have kept (hold : (world.point t).hold = some holdId) :
      world'.shared.drawn holdId = some t := step_drawn hv h (ha.own hold)
  have hv' := valid_step digests world l world' hv h
  rcases step_act h with ⟨u, c, p, rfl, hact, rfl⟩ | ⟨⟨-, henters⟩, -⟩
  · by_cases ht : t = u
    · subst ht
      have hholds := hv'.2 t
      simp only [Function.update_self] at hhold hholds
      rcases (act_course hact).hold hhold with ⟨hsame, -⟩ | ⟨-, caller, request, -, hp⟩
      · exact kept hsame
      · rw [hp] at hholds
        exact hholds.1
    · simp only [Function.update_of_ne ht] at hhold
      exact kept hhold
  · rcases henters t with hsame | hentering
    · exact kept (hsame ▸ hhold)
    · rw [entering_hold hentering] at hhold
      cases hhold

/-- A new entry is the event of an order whose call is done with its hold. -/
theorem appended_step (hv : outline.Valid world) (h : step digests world l = some world')
    {e : Nat × List String} (he : e ∈ world'.shared.stream.entries) :
    e ∈ world.shared.stream.entries ∨
      ∃ t order, world.point t = .appendEvent order ∧ (world'.point t).hold = none ∧
        readEvent (toMessage e) = .ok (orderPayload order) := by
  obtain ⟨-, ⟨t, c, rfl, hchange⟩ | ⟨-, hquiet⟩⟩ := step_cases hv h
  · rcases hchange.log.entry_origin he with hold | ⟨order, hpoint, hread⟩
    · exact .inl hold
    · obtain ⟨p, hact, rfl⟩ := act_step h hpoint rfl
      refine .inr ⟨t, order, hpoint, ?_, hread⟩
      simp only [Function.update_self]
      cases hhold : p.2.hold with
      | none => rfl
      | some holdId =>
        rcases (act_course hact).hold hhold with ⟨-, hne⟩ | ⟨-, _, _, hf, -⟩
        · exact absurd rfl (hne order)
        · cases hf
  · rw [hquiet.stream] at he
    exact .inl he

theorem closed_step {published : List WebSocketSeatEvent} (hv : outline.Valid world)
    (ha : HeldFirst published world) (h : step digests world l = some world')
    {e : Nat × List String} {payload : OrderCreatedEventPayload} {t : Thread}
    (he : e ∈ world'.shared.stream.entries) (hread : readEvent (toMessage e) = .ok payload) :
    (world'.point t).hold ≠ some payload.holdId := by
  intro hhold
  rcases appended_step hv h he with hold | ⟨u, order, hpoint, hdone, hread'⟩
  · rcases hold_step h hhold with hsame | hnew
    · exact ha.closed hold hread hsame
    · obtain ⟨order, hrow, -⟩ := hv.1.placed ⟨⟨e, hold, rfl⟩, hread⟩
      obtain ⟨u, hdrawn⟩ := hv.1.issued hrow
      rw [hnew] at hdrawn
      cases hdrawn
  · rw [hread'] at hread
    cases hread
    have hmine : (world.point u).hold = some order.holdId := by rw [hpoint]; rfl
    have hsame : t = u := by
      have hdrawn := own_step hv ha h hhold
      rw [orderPayload, step_drawn hv h (ha.own hmine)] at hdrawn
      exact (Option.some.inj hdrawn).symm
    rw [hsame, hdone] at hhold
    cases hhold

theorem late_entry (hv : outline.Valid world) (hi : RowIds world) {e : Nat × List String}
    {payload : OrderCreatedEventPayload} {earlier later : WebSocketSeatEvent}
    (he : e ∈ world.shared.stream.entries) (hread : readEvent (toMessage e) = .ok payload)
    (hbooked : earlier.payload.bookedOrder = some payload.orderId)
    (hlate : Late world.shared earlier later) :
    later.payload.heldHold = some payload.holdId := by
  obtain ⟨order, hrow, hid, hheld⟩ := hlate
  obtain ⟨row, hplaced, hrowId, -⟩ := hv.1.placed ⟨⟨e, he, rfl⟩, hread⟩
  rw [hbooked] at hid
  have hsame : payload.holdId = order.holdId :=
    hi.unique hplaced hrow (hrowId.trans (Option.some.inj hid))
  rw [hsame]
  exact hheld

theorem entry_late (hv : outline.Valid world) {e : Nat × List String}
    {payload : OrderCreatedEventPayload} {earlier later : WebSocketSeatEvent}
    (he : e ∈ world.shared.stream.entries) (hread : readEvent (toMessage e) = .ok payload)
    (hbooked : earlier.payload.bookedOrder = some payload.orderId)
    (hheld : later.payload.heldHold = some payload.holdId) :
    Late world.shared earlier later := by
  obtain ⟨row, hplaced, hrowId, -⟩ := hv.1.placed ⟨⟨e, he, rfl⟩, hread⟩
  have hkey : row.holdId = payload.holdId := world.shared.orders.keyed hplaced
  refine ⟨row, ?_, ?_, ?_⟩
  · rw [hkey]
    exact hplaced
  · rw [hrowId]
    exact hbooked
  · rw [hkey]
    exact hheld

/-- A step publishes nothing, or the event that the frame of one thread announces. -/
theorem channel_step (h : step digests world l = some world') :
    world'.shared.channel = world.shared.channel ∨ ∃ t event f',
      (world.point t).announces = some (event.payload, f') ∧
        world'.shared.channel = world.shared.channel ++ [event] := by
  rcases step_course h with ⟨t, c, f', -, hcourse, -⟩ | ⟨⟨hcalm, -⟩, -⟩
  · rcases hcourse.channel with hsame | ⟨payload, event, hf, hevent, hchannel⟩
    · exact .inl hsame
    · subst hevent
      exact .inr ⟨t, event, f', hf, hchannel⟩
  · exact .inl hcalm.channel

theorem entry_kept (hv : outline.Valid world) (h : step digests world l = some world')
    {e : Nat × List String} (he : e ∈ world.shared.stream.entries) :
    e ∈ world'.shared.stream.entries := by
  obtain ⟨-, ⟨t, c, -, hchange⟩ | ⟨-, hquiet⟩⟩ := step_cases hv h
  · exact hchange.log.entry_kept he
  · rw [hquiet.stream]
    exact he

/-- What is about to announce a booking has a message of the stream. -/
theorem announcing_booked (hv : outline.Valid world) {t : Thread} {f' : Frame}
    {payload : SeatEventPayload} {orderId : String}
    (hf : (world.point t).announces = some (payload, f'))
    (hbooked : payload.bookedOrder = some orderId) :
    ∃ e ∈ world.shared.stream.entries, ∃ payload, readEvent (toMessage e) = .ok payload ∧
      payload.orderId = orderId := by
  obtain ⟨message, event, hpoint, hid⟩ := announces_booked hf hbooked
  have hholds := hv.2 t
  rw [hpoint] at hholds
  obtain ⟨⟨⟨e, he, rfl⟩, hread⟩, -⟩ := hholds
  exact ⟨e, he, event, hread, hid⟩

theorem heldFirst_step {published : List WebSocketSeatEvent} {old : List WebSocketSeatEvent}
    (hv : outline.Valid world) (hi : RowIds world) (ha : HeldFirst published world)
    (hchannel : world.shared.channel = old ++ published)
    (h : step digests world l = some world') :
    ∃ published', world'.shared.channel = old ++ published' ∧ HeldFirst published' world' := by
  have hv' := valid_step digests world l world' hv h
  have hi' := rowIds_step hv hi h
  -- what was in order stays in order, as the row of an announced booking is there already
  have kept : published.Pairwise fun earlier later => ¬ Late world'.shared earlier later := by
    apply List.Pairwise.imp_of_mem ?_ ha.ordered
    intro earlier later hearlier _ hordered hlate
    obtain ⟨order, -, hbooked, -⟩ := id hlate
    obtain ⟨e, he, payload, hread, hid⟩ := ha.booked hearlier hbooked
    rw [← hid] at hbooked
    exact hordered (entry_late hv he hread hbooked
      (late_entry hv' hi' (entry_kept hv h he) hread hbooked hlate))
  have booked {event : WebSocketSeatEvent} {orderId : String} (hevent : event ∈ published)
      (hbooked : event.payload.bookedOrder = some orderId) :
      ∃ e ∈ world'.shared.stream.entries, ∃ payload, readEvent (toMessage e) = .ok payload ∧
        payload.orderId = orderId := by
    obtain ⟨e, he, payload, hread, hid⟩ := ha.booked hevent hbooked
    exact ⟨e, entry_kept hv h he, payload, hread, hid⟩
  rcases channel_step h with hsame | ⟨t, event, f', hf, hnew⟩
  · exact ⟨published, hsame.trans hchannel,
      ⟨own_step hv ha h, closed_step hv ha h, booked, kept⟩⟩
  · refine ⟨published ++ [event], ?_, own_step hv ha h, closed_step hv ha h, ?_, ?_⟩
    · rw [hnew, hchannel, List.append_assoc]
    · intro other orderId hother hbooked
      rcases List.mem_append.mp hother with hold | hlast
      · exact booked hold hbooked
      · rw [List.mem_singleton.mp hlast] at hbooked
        obtain ⟨e, he, payload, hread, hid⟩ := announcing_booked hv hf hbooked
        exact ⟨e, entry_kept hv h he, payload, hread, hid⟩
    · refine List.pairwise_append.mpr ⟨kept, List.pairwise_singleton .., ?_⟩
      intro earlier hearlier later hlater hlate
      rw [List.mem_singleton.mp hlater] at hlate
      obtain ⟨order, -, hbooked, -⟩ := id hlate
      obtain ⟨e, he, payload, hread, hid⟩ := ha.booked hearlier hbooked
      rw [← hid] at hbooked
      -- the announcing thread would still have the hold of an order on the stream
      exact ha.closed he hread (announces_held hf
        (late_entry hv' hi' (entry_kept hv h he) hread hbooked hlate))

theorem initial_rowIds (hinit : Initial world) : RowIds world := by
  refine ⟨?_, ?_, ?_⟩
  · intro holdId o ho
    rw [hinit.orders] at ho
    cases ho
  · intro h₁ h₂ o₁ o₂ ho
    rw [hinit.orders] at ho
    cases ho
  · intro t order hpoint
    rw [hinit.idle t] at hpoint
    cases hpoint

theorem initial_heldFirst (hinit : Initial world) : HeldFirst [] world := by
  refine ⟨?_, ?_, fun h => absurd h List.not_mem_nil, .nil⟩
  · intro t holdId hhold
    rw [hinit.idle t] at hhold
    cases hhold
  · intro e payload t he
    rw [hinit.stream] at he
    exact absurd he List.not_mem_nil

/-- On the channel every seat.booked event of an order comes after the seat.held event of the
order's hold, when both are published. -/
theorem booked_after_held {world₀ : World} (hinit : Initial world₀)
    (hreach : (engine digests).Reach world₀ world) :
    ∃ published, world.shared.channel = world₀.shared.channel ++ published ∧
      ∀ order, world.shared.orders.row order.holdId = some order →
        ∀ (i j : Nat) (bookedEvent heldEvent : WebSocketSeatEvent),
          published[i]? = some bookedEvent → published[j]? = some heldEvent →
          bookedEvent.payload.bookedOrder = some order.id →
          heldEvent.payload.heldHold = some order.holdId → j < i := by
  have hall := Machine.Reach.invariant _
    (I := fun w => outline.Valid w ∧ RowIds w ∧ ∃ published,
      w.shared.channel = world₀.shared.channel ++ published ∧ HeldFirst published w)
    (fun w l w' hw hstep => by
      obtain ⟨hv, hi, published, hchannel, ha⟩ := hw
      exact ⟨valid_step digests w l w' hv hstep, rowIds_step hv hi hstep,
        heldFirst_step hv hi ha hchannel hstep⟩)
    ⟨initial_valid hinit, initial_rowIds hinit, [], (List.append_nil _).symm,
      initial_heldFirst hinit⟩ hreach
  obtain ⟨-, -, published, hchannel, ha⟩ := hall
  refine ⟨published, hchannel, ?_⟩
  intro order hrow i j bookedEvent heldEvent hi hj hbooked hheld
  have hlate : Late world.shared bookedEvent heldEvent := ⟨order, hrow, hbooked, hheld⟩
  obtain ⟨hilt, higet⟩ := List.getElem?_eq_some_iff.mp hi
  obtain ⟨hjlt, hjget⟩ := List.getElem?_eq_some_iff.mp hj
  rcases Nat.lt_trichotomy j i with hlt | heq | hgt
  · exact hlt
  · subst heq
    rw [hi] at hj
    cases hj
    cases hpayload : bookedEvent.payload with
    | booked _ _ _ =>
      rw [hpayload] at hheld
      cases hheld
    | _ =>
      rw [hpayload] at hbooked
      cases hbooked
  · have hordered := List.pairwise_iff_getElem.mp ha.ordered i j hilt hjlt hgt
    rw [higet, hjget] at hordered
    exact absurd hlate hordered

end Step

theorem booked_after_held_purchase :
    ∃ world published order,
      (engine fun _ => true).run oneSeat (purchase "u" "h" "o") = some world ∧
      world.shared.channel = published ∧
      world.shared.orders.row "h" = some order ∧
      published.map (fun event => (event.payload.heldHold, event.payload.bookedOrder)) =
        [(some "h", none), (none, some order.id)] ∧
      ∀ (i j : Nat) (bookedEvent heldEvent : WebSocketSeatEvent),
        published[i]? = some bookedEvent → published[j]? = some heldEvent →
        bookedEvent.payload.bookedOrder = some order.id →
        heldEvent.payload.heldHold = some "h" → j < i := by
  have hview : ((engine fun _ => true).run oneSeat (purchase "u" "h" "o")).map
      (fun world => ((world.shared.orders.row "h").map Order.id,
        world.shared.channel.map fun event =>
          (event.payload.heldHold, event.payload.bookedOrder))) =
      some (some "o", [(some "h", none), (none, some "o")]) := by decide +kernel
  obtain ⟨world, hrun, hworld⟩ := Option.map_eq_some_iff.mp hview
  obtain ⟨hid, hevents⟩ := Prod.mk.inj hworld
  obtain ⟨order, hrow, horder⟩ := Option.map_eq_some_iff.mp hid
  rw [← horder] at hevents
  have hkey : order.holdId = "h" := world.shared.orders.keyed hrow
  have hreach : (engine fun _ => true).Reach oneSeat world := ⟨_, hrun⟩
  obtain ⟨published, hchannel, hordered⟩ := booked_after_held oneSeat_initial hreach
  have hpublished : world.shared.channel = published := hchannel
  refine ⟨world, published, order, hrun, hpublished, hrow, hpublished ▸ hevents, ?_⟩
  have hafter := hordered order (hkey ▸ hrow)
  rw [hkey] at hafter
  exact hafter

end TicketEngine
