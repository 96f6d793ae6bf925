import TicketEngine.System.MessageBatch

namespace TicketEngine

section Step

variable {digests : ScriptDigests} {start : Store} {w i : Nat} {messages : List RedisStreamMessage}
  {message : RedisStreamMessage} {world : World} {s' : Store} {c : Choice} {f' : Frame}

/-! ## A step of the batch -/

theorem task_midway (h : Midway start w messages world) (ha : Apart start messages)
    (hi : messages[i]? = some message)
    (hc : c.failed = true → (world.point (.task w i)).publishing = true)
    (hact : (world.point (.task w i)).act digests world.shared (.task w i) c = some (s', f')) :
    Midway start w messages ⟨s', Function.update world.point (.task w i) f'⟩ := by
  have hstage := h.stage i message hi
  have connected {f : Frame} (hpoint : world.point (.task w i) = f) (hf : f.publishing = false) :
      c.failed = false := by
    by_contra hfailed
    have hpublishing := hc (Bool.of_not_eq_false hfailed)
    rw [hpoint, hf] at hpublishing
    cases hpublishing
  generalize hpoint : world.point (.task w i) = f at hstage hact
  cases hstage with
  | readMessage => exact readMessage_midway h hi hpoint (Option.some.inj hact)
  | findBooking hread =>
    exact findBooking_midway h ha hi hpoint hread (connected hpoint rfl) (Option.some.inj hact)
  | sellRow hread hrow hopen =>
    exact sellRow_midway h ha hi hpoint hread hrow hopen (connected hpoint rfl) hact
  | bookRow hsell =>
    exact bookRow_midway h ha hi hpoint hsell (connected hpoint rfl) (Option.some.inj hact)
  | commitBooking hsell =>
    exact commitBooking_midway h ha hi hpoint hsell (connected hpoint rfl) (Option.some.inj hact)
  | publishBooked hsettled => exact publishBooked_midway h hi hpoint hsettled hact
  | acknowledge hsettled =>
    exact acknowledge_midway h hi hpoint hsettled (connected hpoint rfl) (Option.some.inj hact)
  | processed hsettled => cases hact
  | failed hleave => cases hact

theorem course_rank {s : Store} {t : Thread} {f : Frame} (h : Course s t c f s' f')
    (hf : f.processing = true) : f'.rank < f.rank := by
  cases h with
  | quit hstill hend =>
    cases hend with
    | reject hno =>
      rw [hno] at hf
      cases hf
    | refuse => cases hf
    | leave =>
      cases f with
      | readMessage _ | findBooking _ _ | sellRow _ _ | bookRow _ _ | commitBooking _ _
      | publishBooked _ _ | acknowledge _ _ => simp [Frame.rank]
      | _ => cases hf
  | silent hstill hmove =>
    cases hmove with
    | read_message | find_booked | find_unbooked | sell_row | book_row => simp [Frame.rank]
    | hold_lost hg => rcases hg with rfl | rfl <;> cases hf
    | release_lost hg => rcases hg with rfl | rfl <;> cases hf
    | _ => cases hf
  | take hg => rcases hg with rfl | rfl <;> cases hf
  | drop hg => rcases hg with rfl | rfl <;> cases hf
  | announce hg =>
    cases f with
    | publishBooked message payload =>
      cases hg
      simp [Frame.rank]
    | publishHold _ | publishHeld _ | publishReleased _ _ => cases hf
    | _ => cases hg
  | unannounced hg =>
    cases f with
    | publishBooked message payload =>
      cases hg
      simp [Frame.rank]
    | publishHold _ | publishHeld _ | publishReleased _ _ => cases hf
    | _ => cases hg
  | place | append | free => cases hf
  | book | acknowledge => simp [Frame.rank]

theorem stage_processing {f : Frame} (h : Stage start message f) :
    f.processing = true ∨ f.ended = true := by
  cases h with
  | processed | failed => exact .inr rfl
  | _ => exact .inl rfl

variable (digests) in
/-- A task that has not ended has a statement to run. -/
theorem task_enabled (h : Midway start w messages world) (ha : Apart start messages)
    (hi : messages[i]? = some message) (hrunning : (world.point (.task w i)).ended = false) :
    ∃ c, (c.failed = true → (world.point (.task w i)).publishing = true) ∧
      ∃ p, (world.point (.task w i)).act digests world.shared (.task w i) c = some p := by
  have hstage := h.stage i message hi
  generalize hpoint : world.point (.task w i) = f at hstage hrunning
  cases hstage with
  | readMessage => exact ⟨.ok "", by simp [Choice.failed], _, rfl⟩
  | findBooking => exact ⟨.ok "", by simp [Choice.failed], _, rfl⟩
  | sellRow hread hrow hopen =>
    refine ⟨.ok "", by simp [Choice.failed], ?_⟩
    rename_i payload o
    have hunsettled : (world.point (.task w i)).settled = false := by rw [hpoint]; rfl
    have hseats := (h.rows_eq ha hi hread hunsettled).2 o hrow
    simp only [Frame.act, stepSellRow, Store.lockRow]
    split_ifs with hheld hfree
    · exact ⟨_, rfl⟩
    · exfalso
      obtain ⟨t, ht⟩ := Option.ne_none_iff_exists'.mp hfree
      obtain ⟨j, message', payload', rfl, hj, hsell, hseat, hselling⟩ := h.locks _ t ht
      have hij : i ≠ j := by
        rintro rfl
        rw [hpoint] at hselling
        cases hselling
      exact (ha.other hij hi hj hread hrow hsell).2 hseat
    · exact ⟨_, rfl⟩
  | bookRow => exact ⟨.ok "", by simp [Choice.failed], _, rfl⟩
  | commitBooking => exact ⟨.ok "", by simp [Choice.failed], _, rfl⟩
  | publishBooked => exact ⟨.fail "", fun _ => rfl, _, rfl⟩
  | acknowledge => exact ⟨.ok "", by simp [Choice.failed], _, rfl⟩
  | processed => cases hrunning
  | failed => cases hrunning

/-- A step of the batch is a statement of one of its tasks. -/
theorem batchStep_cases {n : Nat} {l : Label} {world' : World}
    (hl : BatchStep w n world l world') (h : step digests world l = some world') :
    ∃ (i : Nat) (c : Choice) (s' : Store) (f' : Frame), i < n ∧ l = .act (.task w i) c ∧
      (c.failed = true → (world.point (.task w i)).publishing = true) ∧
      (world.point (.task w i)).act digests world.shared (.task w i) c = some (s', f') ∧
      world' = ⟨s', Function.update world.point (.task w i) f'⟩ := by
  cases l with
  | act t c =>
    cases t with
    | task v i =>
      obtain ⟨rfl, hi, hc⟩ := hl
      obtain ⟨⟨s', f'⟩, hact, rfl⟩ := Option.map_eq_some_iff.mp h
      exact ⟨i, c, s', f', hi, rfl, hc, hact, rfl⟩
    | _ => cases hl
  | _ => cases hl

theorem batch_step {l : Label} {world' : World} (ha : Apart start messages)
    (h : Midway start w messages world) (hst : (engine digests).step world l = some world')
    (hl : BatchStep w messages.length world l world') : Midway start w messages world' := by
  obtain ⟨i, c, s', f', hi, rfl, hc, hact, rfl⟩ := batchStep_cases hl hst
  exact task_midway h ha (List.getElem?_eq_getElem hi) hc hact

/-- The statements a batch still has ahead of it. -/
def batchRank (w n : Nat) (world : World) : Nat :=
  (Finset.range n).sum fun i => (world.point (.task w i)).rank

theorem batch_rank {l : Label} {world' : World} (h : Midway start w messages world)
    (hst : (engine digests).step world l = some world')
    (hl : BatchStep w messages.length world l world') :
    batchRank w messages.length world' < batchRank w messages.length world := by
  obtain ⟨i, c, s', f', hi, rfl, hc, hact, rfl⟩ := batchStep_cases hl hst
  have hstage := h.stage i _ (List.getElem?_eq_getElem hi)
  have hprocessing : (world.point (.task w i)).processing = true := by
    rcases stage_processing hstage with hprocessing | hended
    · exact hprocessing
    · generalize world.point (.task w i) = f at hact hended
      cases f with
      | processed _ | failed _ _ => cases hact
      | _ => cases hended
  have hless : f'.rank < (world.point (.task w i)).rank :=
    course_rank (act_course hact) hprocessing
  apply Finset.sum_lt_sum
  · intro j hj
    by_cases hij : j = i
    · subst hij
      simp only [Function.update_self]
      exact hless.le
    · simp only [update_task hij]
      exact le_refl _
  · refine ⟨i, Finset.mem_range.mpr hi, ?_⟩
    simp only [Function.update_self]
    exact hless

/-! ## Runs of a batch -/

theorem Batch.midway {world : World} (hb : Batch world w messages) :
    Midway world.shared w messages world := by
  have unsettled {i : Nat} {message : RedisStreamMessage} (hi : messages[i]? = some message) :
      (world.point (.task w i)).settled = false := by
    rw [hb.tasks i message hi]
    rfl
  have hsold (payload : OrderCreatedEventPayload) :
      ¬ Sold world.shared w messages world.point payload := by
    rintro ⟨i, message, hi, -, hsettled⟩
    rw [unsettled hi] at hsettled
    cases hsettled
  have hprocessed (id : Nat) : ¬ Processed w messages world.point id := by
    rintro ⟨i, hi, hend⟩
    rw [hb.tasks i _ (List.getElem?_eq_getElem hi)] at hend
    cases hend
  constructor
  · intro i message hi
    rw [hb.tasks i message hi]
    exact .readMessage
  · intro payload hsale
    exact absurd hsale (hsold payload)
  · exact fun _ => .inr rfl
  · exact fun _ => .inr rfl
  · intro id
    simp only [hprocessed id, or_false]
  · intro message hmessage
    exact .inl (hb.pending message hmessage)
  · intro seatId t ht
    rw [hb.unlocked] at ht
    cases ht

theorem midway_run {ls : List Label} {world' : World} (ha : Apart start messages)
    (h : Midway start w messages world) (hr : (engine digests).run world ls = some world')
    (hl : (engine digests).Along (BatchStep w messages.length) world ls) :
    Midway start w messages world' :=
  ((engine digests).every_of_along (fun _ _ _ hs hst hd => batch_step ha hs hst hd) h hl).last _ hr

/-- What has ended stays ended. -/
theorem ended_step {n : Nat} {l : Label} {world' : World} {t : Thread}
    (hst : (engine digests).step world l = some world') (hl : BatchStep w n world l world')
    (hend : (world.point t).ended = true) : (world'.point t).ended = true := by
  obtain ⟨i, c, s', f', -, rfl, -, hact, rfl⟩ := batchStep_cases hl hst
  by_cases ht : t = .task w i
  · subst ht
    generalize world.point (.task w i) = f at hact hend
    cases f with
    | processed _ | failed _ _ => cases hact
    | _ => cases hend
  · simp only [Function.update_of_ne ht]
    exact hend

theorem ended_run {n : Nat} {ls : List Label} {world' : World} {t : Thread}
    (hr : (engine digests).run world ls = some world')
    (hl : (engine digests).Along (BatchStep w n) world ls)
    (hend : (world.point t).ended = true) : (world'.point t).ended = true :=
  ((engine digests).every_of_along (I := fun world => (world.point t).ended = true)
    (fun _ _ _ hs hst hd => ended_step hst hd hs) hend hl).last _ hr

theorem InTurn.run {order : List Nat} {ls : List Label} {world' : World}
    (h : InTurn digests w world order ls world') :
    (engine digests).run world ls = some world' := by
  induction h with
  | done => rfl
  | next hown hrun hended hrest ih =>
    rw [Machine.run_append, hrun]
    exact ih

/-- Tasks that have run in turn have all ended. -/
theorem InTurn.ended {n : Nat} {order : List Nat} {ls : List Label} {world' : World}
    (h : InTurn digests w world order ls world')
    (hl : (engine digests).Along (BatchStep w n) world ls) :
    ∀ i ∈ order, (world'.point (.task w i)).ended = true := by
  induction h with
  | done =>
    intro i hi
    exact absurd hi List.not_mem_nil
  | next hown hrun hended hrest ih =>
    intro i hi
    have hrest' := (engine digests).along_append hrun hl
    rcases List.mem_cons.mp hi with rfl | hi
    · exact ended_run hrest.run hrest' hended
    · exact ih hrest' i hi

variable (digests) in
/-- A task left alone runs to its end. -/
theorem task_run (ha : Apart start messages) (h : Midway start w messages world)
    (hi : messages[i]? = some message) :
    ∃ ls world', (∀ l ∈ ls, ∃ c, l = .act (.task w i) c) ∧
      (engine digests).run world ls = some world' ∧
      (engine digests).Along (BatchStep w messages.length) world ls ∧
      (world'.point (.task w i)).ended = true := by
  have hlength := (List.getElem?_eq_some_iff.mp hi).1
  generalize hk : batchRank w messages.length world = k
  induction k using Nat.strong_induction_on generalizing world with
  | h k ih =>
    cases hend : (world.point (.task w i)).ended with
    | true => exact ⟨[], world, fun _ hl => absurd hl List.not_mem_nil, rfl, trivial, hend⟩
    | false =>
      obtain ⟨c, hc, ⟨s', f'⟩, hact⟩ := task_enabled digests h ha hi hend
      have hst : (engine digests).step world (.act (.task w i) c) =
          some ⟨s', Function.update world.point (.task w i) f'⟩ :=
        Option.map_eq_some_iff.mpr ⟨_, hact, rfl⟩
      have hl : BatchStep w messages.length world (.act (.task w i) c)
          ⟨s', Function.update world.point (.task w i) f'⟩ := ⟨rfl, hlength, hc⟩
      have hless := batch_rank h hst hl
      rw [hk] at hless
      obtain ⟨ls, world', hown, hr, halong, hended⟩ :=
        ih _ hless (batch_step ha h hst hl) rfl
      refine ⟨.act (.task w i) c :: ls, world', ?_, ?_, ?_, hended⟩
      · intro l hmem
        rcases List.mem_cons.mp hmem with rfl | hmem
        · exact ⟨c, rfl⟩
        · exact hown l hmem
      · rw [Machine.run_cons, hst]
        exact hr
      · exact (Machine.along_cons _ hst).mpr ⟨hl, halong⟩

/-- Tasks can run one after another in any order. -/
theorem inTurn_run (ha : Apart start messages) (order : List Nat)
    (horder : ∀ i ∈ order, i < messages.length) (h : Midway start w messages world) :
    ∃ ls world', (engine digests).Along (BatchStep w messages.length) world ls ∧
      InTurn digests w world order ls world' := by
  induction order generalizing world with
  | nil => exact ⟨[], world, trivial, .done⟩
  | cons i order ih =>
    have hi := List.getElem?_eq_getElem (horder i List.mem_cons_self)
    obtain ⟨ls, mid, hown, hr, hl, hended⟩ := task_run digests ha h hi
    obtain ⟨ls', world', hl', hturn⟩ :=
      ih (fun j hj => horder j (List.mem_cons_of_mem i hj)) (midway_run ha h hr hl)
    exact ⟨ls ++ ls', world', hl.append _ hr hl', .next hown hr hended hturn⟩

theorem sold_complete (h : Midway start w messages world)
    (hcomplete : Complete world w messages.length) (payload : OrderCreatedEventPayload) :
    Sold start w messages world.point payload ↔
      ∃ (i : Nat) (message : RedisStreamMessage), messages[i]? = some message ∧
        verdict start message = .sell payload := by
  constructor
  · rintro ⟨i, message, hi, hsell, -⟩
    exact ⟨i, message, hi, hsell⟩
  · rintro ⟨i, message, hi, hsell⟩
    refine ⟨i, message, hi, hsell, ?_⟩
    have hstage := h.stage i message hi
    have hended := hcomplete i (List.getElem?_eq_some_iff.mp hi).1
    generalize world.point (.task w i) = f at hstage hended
    cases hstage with
    | processed => rfl
    | failed hleave =>
      rw [hsell] at hleave
      cases hleave
    | _ => cases hended

theorem processed_complete (h : Midway start w messages world)
    (hcomplete : Complete world w messages.length) (id : Nat) :
    Processed w messages world.point id ↔
      ∃ (i : Nat) (message : RedisStreamMessage), messages[i]? = some message ∧
        verdict start message ≠ .leave ∧ message.id = id := by
  constructor
  · rintro ⟨i, hi, hend⟩
    have hstage := h.stage i _ (List.getElem?_eq_getElem hi)
    rw [hend] at hstage
    generalize hmessage : messages[i] = message at hstage
    cases hstage with
    | processed hsettled =>
      exact ⟨i, message, by rw [List.getElem?_eq_getElem hi, hmessage], hsettled, rfl⟩
  · rintro ⟨i, message, hi, hsettled, rfl⟩
    have hlength := (List.getElem?_eq_some_iff.mp hi).1
    refine ⟨i, hlength, ?_⟩
    have hstage := h.stage i message hi
    have hended := hcomplete i hlength
    generalize world.point (.task w i) = f at hstage hended ⊢
    cases hstage with
    | processed => rfl
    | failed hleave => exact absurd hleave hsettled
    | _ => cases hended

/-- The start of a batch determines its end. -/
theorem Midway.same {world' : World} (h : Midway start w messages world)
    (hcomplete : Complete world w messages.length) (h' : Midway start w messages world')
    (hcomplete' : Complete world' w messages.length) :
    SameBooks world.shared world'.shared := by
  have hsold (payload : OrderCreatedEventPayload) :
      Sold start w messages world.point payload ↔ Sold start w messages world'.point payload :=
    (sold_complete h hcomplete payload).trans (sold_complete h' hcomplete' payload).symm
  constructor
  · funext seatId
    rcases h.seats seatId with ⟨payload, hsale, rfl⟩ | hsame
    · rw [(h.sold payload hsale).1, (h'.sold payload ((hsold payload).mp hsale)).1]
    · rcases h'.seats seatId with ⟨payload, hsale, rfl⟩ | hsame'
      · rw [(h'.sold payload hsale).1, (h.sold payload ((hsold payload).mpr hsale)).1]
      · rw [hsame, hsame']
  · funext holdId
    rcases h.orders holdId with ⟨payload, hsale, rfl⟩ | hsame
    · rw [(h.sold payload hsale).2, (h'.sold payload ((hsold payload).mp hsale)).2]
    · rcases h'.orders holdId with ⟨payload, hsale, rfl⟩ | hsame'
      · rw [(h'.sold payload hsale).2, (h.sold payload ((hsold payload).mpr hsale)).2]
      · rw [hsame, hsame']
  · intro id
    rw [h.acked id, h'.acked id, processed_complete h hcomplete, processed_complete h' hcomplete']

end Step

/-- Messages of a batch are independent: no processing rejects, every interleaving comes to an
end, the seats, the orders and the acknowledged entries are then those of processing the messages
one after another in any order, and every message that can be settled is acknowledged. -/
theorem batch_independent {digests : ScriptDigests} {start world : World} {w : Nat}
    {messages : List RedisStreamMessage} {ls : List Label} (hb : Batch start w messages)
    (hr : (engine digests).run start ls = some world)
    (hl : (engine digests).Along (BatchStep w messages.length) start ls) :
    (∀ i < messages.length, ∀ e, world.point (.task w i) ≠ .rejected e) ∧
      ls.length ≤ 7 * messages.length ∧
      (¬ Complete world w messages.length → ∃ l world',
        (engine digests).step world l = some world' ∧
          BatchStep w messages.length world l world') ∧
      (Complete world w messages.length →
        (∀ order, order.Perm (List.range messages.length) →
          (∃ ls' world', (engine digests).Along (BatchStep w messages.length) start ls' ∧
            InTurn digests w start order ls' world') ∧
          ∀ ls' world', (engine digests).Along (BatchStep w messages.length) start ls' →
            InTurn digests w start order ls' world' →
              SameBooks world.shared world'.shared) ∧
        ∀ message ∈ messages, Settleable start.shared message →
          world.shared.stream.Acked message.id) := by
  have hstart := hb.midway
  have h := midway_run hb.apart hstart hr hl
  refine ⟨?_, ?_, ?_, fun hcomplete => ⟨?_, ?_⟩⟩
  · intro i hi e hrejected
    have hstage := h.stage i _ (List.getElem?_eq_getElem hi)
    rw [hrejected] at hstage
    cases hstage
  · have hlength := (engine digests).length_le_rank (batchRank w messages.length)
      (fun _ _ _ hs hst hd => batch_step hb.apart hs hst hd)
      (fun _ _ _ hs hst hd => batch_rank hs hst hd) hstart hr hl
    have hrank : batchRank w messages.length start = 7 * messages.length := by
      have hseven : ∀ i ∈ Finset.range messages.length, (start.point (.task w i)).rank = 7 := by
        intro i hi
        rw [hb.tasks i _ (List.getElem?_eq_getElem (Finset.mem_range.mp hi))]
        rfl
      rw [batchRank, Finset.sum_congr rfl hseven, Finset.sum_const, Finset.card_range]
      exact Nat.mul_comm _ _
    omega
  · intro hrunning
    obtain ⟨i, hi⟩ := not_forall.mp hrunning
    obtain ⟨hlength, hopen⟩ := Classical.not_imp.mp hi
    obtain ⟨c, hc, ⟨s', f'⟩, hact⟩ := task_enabled digests h hb.apart
      (List.getElem?_eq_getElem hlength) (Bool.eq_false_of_not_eq_true hopen)
    exact ⟨.act (.task w i) c, _, Option.map_eq_some_iff.mpr ⟨_, hact, rfl⟩, rfl, hlength, hc⟩
  · intro order horder
    have hmem (i : Nat) : i ∈ order ↔ i < messages.length := by
      rw [horder.mem_iff, List.mem_range]
    refine ⟨inTurn_run hb.apart order (fun i hi => (hmem i).mp hi) hstart, ?_⟩
    intro ls' world' hl' hturn
    have hcomplete' : Complete world' w messages.length :=
      fun i hi => hturn.ended hl' i ((hmem i).mpr hi)
    exact h.same hcomplete (midway_run hb.apart hstart hturn.run hl') hcomplete'
  · intro message hmessage hsettleable
    obtain ⟨i, hi⟩ := List.getElem?_of_mem hmessage
    have hprocessed := (processed_complete h hcomplete message.id).mpr
      ⟨i, message, hi, hsettleable.verdict_ne, rfl⟩
    exact (h.acked message.id).mpr (.inr hprocessed)

/-! ## A batch of two -/

def orderOfU : Order := ⟨"o", "h", "e", "s", "u", 600000, .PROCESSING⟩

def eventOfU : OrderCreatedEvent :=
  ⟨"order-event", ORDER_EVENT_TYPE, ORDER_EVENT_SCHEMA_VERSION, "", orderPayload orderOfU⟩

/-- The event of an order that can be settled, and an entry no worker understands. -/
def twoMessages : List RedisStreamMessage :=
  [toMessage (1, eventOfU.fields), ⟨2, [("eventType", "order.cancelled")]⟩]

def handedOut : World where
  shared :=
    { oneSeat.shared with
      stream := ⟨[(1, eventOfU.fields), (2, ["eventType", "order.cancelled"])], 2,
        some ⟨2, [⟨1, 0, 0⟩, ⟨2, 0, 0⟩], []⟩⟩
      seats := fun id => if id = "s" then some ⟨"e", .HELD⟩ else none
      orders := OrderTable.empty.insert orderOfU }
  point t :=
    match t with
    | .worker 0 => .batch .startOrderConsumer 2
    | .task 0 0 => .readMessage (toMessage (1, eventOfU.fields))
    | .task 0 1 => .readMessage ⟨2, [("eventType", "order.cancelled")]⟩
    | _ => .idle

theorem twoMessages_cases {i : Nat} {message : RedisStreamMessage}
    (hi : twoMessages[i]? = some message) :
    i = 0 ∧ readEvent message = .ok (orderPayload orderOfU) ∧
        handedOut.point (.task 0 i) = .readMessage message ∧ message.id = 1 ∨
      i = 1 ∧ readEvent message = .error (.unsupported 2) ∧
        handedOut.point (.task 0 i) = .readMessage message ∧ message.id = 2 := by
  match i with
  | 0 =>
    cases hi
    exact .inl ⟨rfl, readEvent_fields 1 rfl rfl, rfl, rfl⟩
  | 1 =>
    cases hi
    exact .inr ⟨rfl, rfl, rfl, rfl⟩
  | i + 2 => cases hi

theorem handedOut_row (o : Order)
    (hrow : handedOut.shared.orders.row (orderPayload orderOfU).holdId = some o) :
    o = orderOfU := by
  have hsame : handedOut.shared.orders.row (orderPayload orderOfU).holdId = some orderOfU := by
    decide
  exact Option.some.inj (hrow.symm.trans hsame)

theorem handedOut_batch : Batch handedOut 0 twoMessages := by
  constructor
  · intro i message hi
    rcases twoMessages_cases hi with ⟨-, -, hpoint, -⟩ | ⟨-, -, hpoint, -⟩
    · exact hpoint
    · exact hpoint
  · intro message hmessage
    obtain ⟨i, hi⟩ := List.getElem?_of_mem hmessage
    refine ⟨_, rfl, ?_⟩
    rcases twoMessages_cases hi with ⟨-, -, -, hid⟩ | ⟨-, -, -, hid⟩
    · rw [hid]
      decide
    · rw [hid]
      decide
  · exact fun _ => rfl
  · constructor
    · intro message hmessage payload o hread hrow
      obtain ⟨i, hi⟩ := List.getElem?_of_mem hmessage
      rcases twoMessages_cases hi with ⟨-, hgood, -⟩ | ⟨-, hbad, -⟩
      · cases hgood.symm.trans hread
        rw [handedOut_row o hrow]
        exact ⟨rfl, rfl⟩
      · cases hbad.symm.trans hread
    · intro i j message message' payload payload' o o' hij hi hj hread hread' hrow hrow'
      rcases twoMessages_cases hi with ⟨hi0, -⟩ | ⟨-, hbad, -⟩
      · rcases twoMessages_cases hj with ⟨hj0, -⟩ | ⟨-, hbad, -⟩
        · exact absurd (hi0.trans hj0.symm) hij
        · cases hbad.symm.trans hread'
      · cases hbad.symm.trans hread

/-- The two tasks take turns, and the publish is lost. -/
def twoInterleaved : List Label :=
  acts (.task 0 0) ["", ""] ++ acts (.task 0 1) [""] ++ acts (.task 0 0) ["", "", ""] ++
    [.act (.task 0 0) (.fail "lost"), .act (.task 0 0) (.ok "")]

theorem batch_independent_handedOut :
    ∃ world, (engine fun _ => true).run handedOut twoInterleaved = some world ∧
      world.shared.stream.Acked 1 := by
  have hended : ((engine fun _ => true).run handedOut twoInterleaved).map
      (fun world => [(world.point (.task 0 0)).ended, (world.point (.task 0 1)).ended]) =
      some [true, true] := by decide +kernel
  obtain ⟨world, hrun, hends⟩ := Option.map_eq_some_iff.mp hended
  have hl : (engine fun _ => true).Along (BatchStep 0 twoMessages.length) handedOut
      twoInterleaved := by decide +kernel
  have hcomplete : Complete world 0 twoMessages.length := by
    intro i hi
    simp only [List.cons.injEq, and_true] at hends
    match i with
    | 0 => exact hends.1
    | 1 => exact hends.2
    | i + 2 => exact absurd hi (by simp [twoMessages])
  have hsettleable : Settleable handedOut.shared (toMessage (1, eventOfU.fields)) :=
    ⟨_, orderOfU, readEvent_fields 1 rfl rfl, by decide, .inr ⟨rfl, by decide⟩⟩
  obtain ⟨-, -, -, h⟩ := batch_independent handedOut_batch hrun hl
  exact ⟨world, hrun, (h hcomplete).2 _ List.mem_cons_self hsettleable⟩

end TicketEngine
