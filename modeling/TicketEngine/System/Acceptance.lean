import TicketEngine.System.EventOrder
import TicketEngine.System.OrderEvents
import TicketEngine.System.Rejection

namespace TicketEngine

/-! ## What an accepted order leaves -/

/-- The order's row, whatever its status has become. -/
def Recorded (s : Store) (order : Order) : Prop :=
  ∃ status, s.orders.row order.holdId = some { order with status }

/-- An entry of the stream that a worker reads as this order. -/
def OnStream (s : Store) (order : Order) : Prop :=
  ∃ e ∈ s.stream.entries, readEvent (toMessage e) = .ok (orderPayload order)

/-- How far a `createOrder` call for a request has come. -/
def Frame.Serves (request : HoldSeatRequest) (s : Store) : Frame → Prop
  | .findEvent caller r | .evalshaHold caller r _ => caller = .createOrder ∧ r = request
  | .evalHold caller r _ | .holdReply caller r _ _ => caller = .createOrder ∧ r = request
  | .lockSeat r _ | .createRow r _ => r = request
  | .commitOrder order => OrderFor request order.holdId order
  | .publishHeld order | .appendEvent order =>
    OrderFor request order.holdId order ∧ Recorded s order
  | .ordered response =>
    ∃ order, order.id = response.orderId ∧ OrderFor request order.holdId order ∧
      Recorded s order ∧ OnStream s order
  | .rejected _ => True
  | _ => False

/-- The id of the order that a call is creating or has created. -/
def Frame.orderId : Frame → Option String
  | .commitOrder order | .publishHeld order | .appendEvent order => some order.id
  | .ordered response => some response.orderId
  | _ => none

section Kept

variable {f : Frame} {mine : Thread → Prop} {s s' : Store} {order : Order}

theorem Recorded.kept (h : Rows f mine s s') (hr : Recorded s order) : Recorded s' order := by
  obtain ⟨status, hrow⟩ := hr
  rcases h.kept hrow with hrow' | hrow'
  · exact ⟨status, hrow'⟩
  · exact ⟨.BOOKED, hrow'⟩

theorem OnStream.kept (h : Log f s s') (ho : OnStream s order) : OnStream s' order := by
  obtain ⟨e, he, hread⟩ := ho
  exact ⟨e, h.entry_kept he, hread⟩

/-- What others do to the stores takes nothing away from a call. -/
theorem Frame.Serves.kept {request : HoldSeatRequest} {g : Frame} (hrows : Rows f mine s s')
    (hlog : Log f s s') (hg : g.Serves request s) : g.Serves request s' := by
  cases g with
  | publishHeld order => exact ⟨hg.1, hg.2.kept hrows⟩
  | appendEvent order => exact ⟨hg.1, hg.2.kept hrows⟩
  | ordered response =>
    obtain ⟨order, hid, hfor, hrecorded, hon⟩ := hg
    exact ⟨order, hid, hfor, hrecorded.kept hrows, hon.kept hlog⟩
  | _ => exact hg

end Kept

section Act

variable {digests : ScriptDigests} {s : Store} {t : Thread} {c : Choice} {f : Frame}
  {request : HoldSeatRequest} {r : Store × Frame}

theorem findEvent_serves {caller : Caller} (hf : caller = .createOrder)
    (h : stepFindEvent s t caller request c = some r) : r.2.Serves request r.1 := by
  cases c with
  | fail message =>
    cases h
    trivial
  | ok holdId =>
    simp only [stepFindEvent] at h
    cases hfound : findSeat s request with
    | error e =>
      rw [hfound] at h
      cases h
      trivial
    | ok found =>
      rw [hfound] at h
      obtain ⟨s', -, rfl⟩ := Option.map_eq_some_iff.mp h
      exact ⟨hf, rfl⟩

theorem stepEvalsha_serves {run : LockRedis × Except RedisError Int} {replied : Int → Frame}
    {fallback : Frame} (hreplied : ∀ code s, (replied code).Serves request s)
    (hfallback : ∀ s, fallback.Serves request s) :
    (stepEvalsha s run replied fallback c).2.Serves request
      (stepEvalsha s run replied fallback c).1 := by
  unfold stepEvalsha
  rcases scriptReply s run c with ⟨redis, e | code⟩
  · simp only
    split_ifs
    · exact hfallback _
    · trivial
  · exact hreplied code _

theorem holdReply_serves {holdId : String} {result : Int} :
    (stepHoldReply s .createOrder request holdId result).2.Serves request
      (stepHoldReply s .createOrder request holdId result).1 := by
  unfold stepHoldReply
  simp only
  split_ifs
  · trivial
  · exact rfl

theorem lockSeat_serves {execution : SeatLockExecution}
    (h : stepLockSeat s t request execution c = some r) : r.2.Serves request r.1 := by
  cases c with
  | fail message =>
    cases h
    trivial
  | ok id =>
    obtain ⟨⟨s', count⟩, -, rfl⟩ := Option.map_eq_some_iff.mp h
    simp only
    split_ifs
    · trivial
    · exact rfl

theorem createRow_serves {execution : SeatLockExecution}
    (h : stepCreateRow s t request execution c = some r) : r.2.Serves request r.1 := by
  cases c with
  | fail message =>
    cases h
    trivial
  | ok id =>
    obtain ⟨s', -, rfl⟩ := Option.map_eq_some_iff.mp h
    split
    · trivial
    · exact ⟨rfl, rfl, rfl, rfl, rfl⟩

theorem commitOrder_serves {order : Order} (hfor : OrderFor request order.holdId order) :
    (stepCommitOrder s t order c).2.Serves request (stepCommitOrder s t order c).1 := by
  cases c with
  | fail message => trivial
  | ok id =>
    refine ⟨hfor, order.status, ?_⟩
    show (s.orders.insert order).row order.holdId = some order
    rw [insert_row, if_pos rfl]

theorem publishHeld_serves {order : Order} (hfor : OrderFor request order.holdId order)
    (hrecorded : Recorded s order) (h : stepPublishHeld s t order c = some r) :
    r.2.Serves request r.1 := by
  obtain ⟨s', hpublish, rfl⟩ := Option.map_eq_some_iff.mp h
  have hchange : Change .idle (fun _ => False) s s' := (publishSeatEvent_eq hpublish).1
  exact ⟨hfor, hrecorded.kept hchange.rows⟩

theorem appendEvent_serves {order : Order} (hfor : OrderFor request order.holdId order)
    (hrecorded : Recorded s order) (h : stepAppendEvent s t order c = some r) :
    r.2.Serves request r.1 := by
  cases c with
  | fail message =>
    cases h
    trivial
  | ok eventId =>
    obtain ⟨id, fields, hentries, -, hread⟩ := appendEvent_entries h
    obtain ⟨s', hdraw, rfl⟩ := Option.map_eq_some_iff.mp h
    obtain ⟨-, rfl⟩ := draw_eq hdraw
    refine ⟨order, rfl, hfor, hrecorded, (id, fields), ?_, hread⟩
    rw [hentries]
    exact List.mem_append_right _ (List.mem_singleton_self _)

/-- A command of the call takes it on to the order that its request asks for. -/
theorem act_serves (h : f.act digests s t c = some r) (hf : f.Serves request s) :
    r.2.Serves request r.1 := by
  cases f with
  | findEvent caller req =>
    obtain ⟨hcaller, rfl⟩ := hf
    exact findEvent_serves hcaller h
  | evalshaHold caller req holdId =>
    cases h
    exact stepEvalsha_serves (fun _ _ => hf) (fun _ => hf)
  | evalHold caller req holdId =>
    cases h
    obtain ⟨e, heq⟩ := stepEval_eq s (s.redis.eval .atomicSeatLock
      (seatLockKey req.eventId req.seatId) (holdScript req holdId))
      (.holdReply caller req holdId) c
    simp only [stepEvalHold, heq]
    exact stepEvalsha_serves (fun _ _ => hf) (fun _ => trivial)
  | holdReply caller req holdId result =>
    cases h
    obtain ⟨rfl, rfl⟩ := hf
    exact holdReply_serves
  | lockSeat req execution =>
    cases hf
    exact lockSeat_serves h
  | createRow req execution =>
    cases hf
    exact createRow_serves h
  | commitOrder order =>
    cases h
    exact commitOrder_serves hf
  | publishHeld order => exact publishHeld_serves hf.1 hf.2 h
  | appendEvent order => exact appendEvent_serves hf.1 hf.2 h
  | ordered _ | rejected _ => cases h
  | _ => exact absurd hf id

end Act

/-! ## Order ids and entries -/

/-- An order id belongs to the call that drew it, and the stream has one entry for each hold. -/
structure Single (world : World) : Prop where
  drawn : ∀ {t id}, (world.point t).orderId = some id → world.shared.drawn id = some t
  entries : world.shared.stream.entries.Pairwise fun a b =>
    ∀ p q, readEvent (toMessage a) = .ok p → readEvent (toMessage b) = .ok q → p.holdId ≠ q.holdId

section Step

variable {digests : ScriptDigests} {world world' : World} {l : Label} {n : Nat}
  {request : HoldSeatRequest}

theorem announces_orderId {f f' : Frame} {payload : SeatEventPayload} {id : String}
    (hf : f.announces = some (payload, f')) (hid : f'.orderId = some id) :
    f.orderId = some id := by
  cases f with
  | publishHeld order =>
    cases hf
    exact hid
  | publishHold _ | publishReleased _ _ | publishBooked _ _ =>
    cases hf
    cases hid
  | _ => cases hf

/-- A call has its order id from the frame before, or it has just drawn it. -/
theorem Course.orderId {s s' : Store} {t : Thread} {c : Choice} {f f' : Frame} {id : String}
    (h : Course s t c f s' f') (hid : f'.orderId = some id) :
    f.orderId = some id ∨ ∃ order, f' = .commitOrder order := by
  cases h with
  | quit hstill hend => cases hend with | _ => cases hid
  | silent hstill hmove =>
    cases hmove with
    | create_row horder => exact .inr ⟨_, rfl⟩
    | _ => cases hid
  | place => exact .inl hid
  | append hstream => exact .inl hid
  | announce hf => exact .inl (announces_orderId hf hid)
  | unannounced hf => exact .inl (announces_orderId hf hid)
  | take | drop | free | book | acknowledge => cases hid

theorem entering_orderId {f : Frame} (h : f.Entering l) : f.orderId = none := by
  cases f with
  | commitOrder _ | publishHeld _ | appendEvent _ | ordered _ => cases h
  | _ => rfl

theorem orderId_step (hv : outline.Valid world) (hs : Single world)
    (h : step digests world l = some world') {t : Thread} {id : String}
    (hid : (world'.point t).orderId = some id) : world'.shared.drawn id = some t := by
  have kept (hold : (world.point t).orderId = some id) : world'.shared.drawn id = some t :=
    step_drawn hv h (hs.drawn hold)
  rcases step_act h with ⟨u, c, p, rfl, hact, rfl⟩ | ⟨⟨-, henters⟩, -⟩
  · by_cases ht : t = u
    · subst ht
      simp only [Function.update_self] at hid
      rcases (act_course hact).orderId hid with hsame | ⟨order, hcommit⟩
      · exact kept hsame
      · rw [hcommit] at hid
        cases hid
        exact (commitOrder_origin hact hcommit).2.1
    · simp only [Function.update_of_ne ht] at hid
      exact kept hid
  · rcases henters t with hsame | hentering
    · exact kept (hsame ▸ hid)
    · rw [entering_orderId hentering] at hid
      cases hid

theorem Log.entries {f : Frame} {s s' : Store} (h : Log f s s') :
    s'.stream.entries = s.stream.entries ∨
      ∃ order e, f = .appendEvent order ∧ s'.stream.entries = s.stream.entries ++ [e] ∧
        readEvent (toMessage e) = .ok (orderPayload order) := by
  cases h with
  | same hstream => exact .inl (by rw [hstream])
  | append order now fields hf hplaced hread hstream =>
    exact .inr ⟨order, _, hf, by rw [hstream]; rfl, hread _⟩
  | create mode hf hstream => exact .inl (by rw [hstream, Stream.createGroup_entries])
  | claim now w minIdle count entries hstream => exact .inl (Stream.autoclaim_entries hstream).1
  | read now w count entries hstream => exact .inl (Stream.read_entries hstream).1
  | ack message payload hf hdelivered hbooked hstream =>
    exact .inl (by rw [hstream, Stream.ack_entries])

/-- The order of a new entry is one that no entry is for: its call still had the hold. -/
theorem single_step (hv : outline.Valid world) (ha : HeldFirst [] world) (hs : Single world)
    (h : step digests world l = some world') : Single world' := by
  refine ⟨orderId_step hv hs h, ?_⟩
  obtain ⟨-, ⟨t, c, rfl, hchange⟩ | ⟨-, hquiet⟩⟩ := step_cases hv h
  · rcases hchange.log.entries with hsame | ⟨order, e, hpoint, hentries, hread⟩
    · rw [hsame]
      exact hs.entries
    · rw [hentries, List.pairwise_append]
      refine ⟨hs.entries, List.pairwise_singleton .., ?_⟩
      intro a hmem b hb p q hp hq heq
      rw [List.mem_singleton.mp hb, hread] at hq
      cases hq
      have hhold : (world.point t).hold = some p.holdId := by
        rw [hpoint, heq]
        rfl
      exact ha.closed hmem hp hhold
  · rw [hquiet.stream]
    exact hs.entries

theorem Single.unique (hs : Single world) {a b : Nat × List String}
    {p q : OrderCreatedEventPayload} (ha : a ∈ world.shared.stream.entries)
    (hb : b ∈ world.shared.stream.entries) (hp : readEvent (toMessage a) = .ok p)
    (hq : readEvent (toMessage b) = .ok q) (hsame : p.holdId = q.holdId) : a = b := by
  by_contra hne
  obtain ⟨i, hi, rfl⟩ := List.getElem_of_mem ha
  obtain ⟨j, hj, rfl⟩ := List.getElem_of_mem hb
  have hpair := List.pairwise_iff_getElem.mp hs.entries
  rcases Nat.lt_trichotomy i j with hlt | heq | hgt
  · exact hpair i j hi hj hlt p q hp hq hsame
  · subst heq
    exact hne rfl
  · exact hpair j i hj hi hgt q p hq hp hsame.symm

/-- What every reachable world keeps about orders, holds and entries. -/
structure Kept (world : World) : Prop where
  valid : outline.Valid world
  ids : RowIds world
  holds : HeldFirst [] world
  single : Single world

theorem kept_step (hk : Kept world) (h : step digests world l = some world') : Kept world' where
  valid := valid_step digests world l world' hk.valid h
  ids := rowIds_step hk.valid hk.ids h
  holds :=
    ⟨own_step hk.valid hk.holds h, closed_step hk.valid hk.holds h,
      fun hmem => absurd hmem List.not_mem_nil, .nil⟩
  single := single_step hk.valid hk.holds hk.single h

theorem initial_kept (hinit : Initial world) : Kept world := by
  refine ⟨initial_valid hinit, initial_rowIds hinit, initial_heldFirst hinit, ?_, ?_⟩
  · intro t id hid
    rw [hinit.idle t] at hid
    cases hid
  · rw [hinit.stream]
    exact List.Pairwise.nil

theorem reach_kept (hk : Kept world) (h : (engine digests).Reach world world') : Kept world' :=
  Machine.Reach.invariant (engine digests) (I := Kept) (fun _ _ _ hk hst => kept_step hk hst) hk h

/-! ## The call from its request to its answer -/

/-- Whatever step is taken takes nothing away from an accepted order. -/
theorem serves_frame {f : Frame} (hv : outline.Valid world)
    (h : step digests world l = some world') (hf : f.Serves request world.shared) :
    f.Serves request world'.shared := by
  obtain ⟨-, ⟨t, c, -, hchange⟩ | ⟨-, hquiet⟩⟩ := step_cases hv h
  · exact hf.kept hchange.rows hchange.log
  · exact hf.kept hquiet.rows (.same (f := .idle) hquiet.stream)

theorem serves_begun {s : Store} {f : Frame} (hf : f.Serves request s) : f ≠ .idle := by
  rintro rfl
  exact hf

theorem serves_step (hv : outline.Valid world) (halive : l ≠ .crashCall n)
    (hf : (world.point (.call n)).Serves request world.shared)
    (h : step digests world l = some world') :
    (world'.point (.call n)).Serves request world'.shared := by
  by_cases hown : ∃ c, l = .act (.call n) c
  · obtain ⟨c, rfl⟩ := hown
    obtain ⟨p, hact, rfl⟩ := Option.map_eq_some_iff.mp h
    simp only [Function.update_self]
    exact act_serves hact hf
  · have hother : ∀ c, l ≠ .act (.call n) c := fun c heq => hown ⟨c, heq⟩
    rw [call_kept h (serves_begun hf) hother halive]
    exact serves_frame hv h hf

theorem serves_run {ls : List Label} (hv : outline.Valid world)
    (halive : ∀ l ∈ ls, l ≠ .crashCall n)
    (hf : (world.point (.call n)).Serves request world.shared)
    (hrun : (engine digests).run world ls = some world') :
    (world'.point (.call n)).Serves request world'.shared := by
  induction ls generalizing world with
  | nil =>
    cases hrun
    exact hf
  | cons l ls ih =>
    obtain ⟨next, hstep, hrun⟩ := Machine.run_cons_some _ hrun
    have hnext := serves_step hv (halive l List.mem_cons_self) hf hstep
    have hlater : ∀ k ∈ ls, k ≠ .crashCall n := fun k hk => halive k (List.mem_cons_of_mem _ hk)
    exact ih (valid_step digests world l next hv hstep) hlater hnext hrun

theorem reach_serves {f : Frame} (hv : outline.Valid world)
    (hf : f.Serves request world.shared) (h : (engine digests).Reach world world') :
    f.Serves request world'.shared := by
  have hboth : outline.Valid world' ∧ f.Serves request world'.shared :=
    Machine.Reach.invariant (engine digests)
      (I := fun w => outline.Valid w ∧ f.Serves request w.shared)
      (fun w l w' hw hst => ⟨valid_step digests w l w' hw.1 hst, serves_frame hw.1 hst hw.2⟩)
      ⟨hv, hf⟩ h
  exact hboth.2

theorem reach_drawn {id : String} {t : Thread} (hv : outline.Valid world)
    (hd : world.shared.drawn id = some t) (h : (engine digests).Reach world world') :
    world'.shared.drawn id = some t := by
  have hboth : outline.Valid world' ∧ world'.shared.drawn id = some t :=
    Machine.Reach.invariant (engine digests)
      (I := fun w => outline.Valid w ∧ w.shared.drawn id = some t)
      (fun w l w' hw hst => ⟨valid_step digests w l w' hw.1 hst, step_drawn hw.1 hst hw.2⟩)
      ⟨hv, hd⟩ h
  exact hboth.2

/-- A new call serves its request, or it has refused it. -/
theorem createOrder_serves {payload : PartialHoldSeatRequest}
    (h : step digests world (.createOrder n payload) = some world') :
    (∃ request, normalizeHoldRequest payload = .ok request ∧
        (world'.point (.call n)).Serves request world'.shared) ∨
      ∃ e, world'.point (.call n) = .rejected e := by
  obtain ⟨-, rfl⟩ := enter_some h
  simp only [Function.update_self, createOrder]
  cases normalizeHoldRequest payload with
  | error e => exact .inr ⟨e, rfl⟩
  | ok request => exact .inl ⟨request, rfl, rfl, rfl⟩

theorem rejected_step {e : ServiceError} (halive : l ≠ .crashCall n)
    (hf : world.point (.call n) = .rejected e) (h : step digests world l = some world') :
    world'.point (.call n) = .rejected e := by
  have hother : ∀ c, l ≠ .act (.call n) c := by
    rintro c rfl
    obtain ⟨p, hact, -⟩ := act_step h hf rfl
    cases hact
  have hbegun : world.point (.call n) ≠ .idle := by
    rw [hf]
    simp
  rw [call_kept h hbegun hother halive]
  exact hf

theorem rejected_run {ls : List Label} {e : ServiceError} (halive : ∀ l ∈ ls, l ≠ .crashCall n)
    (hf : world.point (.call n) = .rejected e)
    (hrun : (engine digests).run world ls = some world') :
    world'.point (.call n) = .rejected e := by
  induction ls generalizing world with
  | nil =>
    cases hrun
    exact hf
  | cons l ls ih =>
    obtain ⟨next, hstep, hrun⟩ := Machine.run_cons_some _ hrun
    have hnext := rejected_step (halive l List.mem_cons_self) hf hstep
    exact ih (fun k hk => halive k (List.mem_cons_of_mem _ hk)) hnext hrun

/-- An accepted order is kept, and its event is on the stream exactly once. When a `createOrder`
call has answered with an order id, then from that moment on and in every later state the order
table has a row with this id and the request's trimmed identifiers, one entry of the stream and
no other is read as this order, the entry is acknowledged only once the row is BOOKED, and no
other call ever answers with the same id. -/
theorem accepted_order_kept {start called answered : World} {payload : PartialHoldSeatRequest}
    {response : CreateOrderResponse} {ls : List Label} (hinit : Initial start)
    (hreach : (engine digests).Reach start world)
    (hcall : step digests world (.createOrder n payload) = some called)
    (hrun : (engine digests).run called ls = some answered)
    (halive : ∀ l ∈ ls, l ≠ .crashCall n)
    (hanswer : answered.point (.call n) = .ordered response)
    (hlater : (engine digests).Reach answered world') :
    ∃ request order, normalizeHoldRequest payload = .ok request ∧
      world'.shared.orders.row order.holdId = some order ∧ order.id = response.orderId ∧
      order.eventId = request.eventId ∧ order.seatId = request.seatId ∧
      order.userId = request.userId ∧
      (∃ e ∈ world'.shared.stream.entries, readEvent (toMessage e) = .ok (orderPayload order) ∧
        (world'.shared.stream.Acked e.1 → order.status = .BOOKED) ∧
        ∀ e' ∈ world'.shared.stream.entries, ∀ p, readEvent (toMessage e') = .ok p →
          p.orderId = response.orderId → e' = e) ∧
      ∀ m response', m ≠ n → world'.point (.call m) = .ordered response' →
        response'.orderId ≠ response.orderId := by
  have hkept := reach_kept (initial_kept hinit) hreach
  have hcalled := kept_step hkept hcall
  have hanswered := reach_kept hcalled ⟨ls, hrun⟩
  have hkept' := reach_kept hanswered hlater
  obtain ⟨request, hrequest, hserves⟩ | ⟨e, hrejected⟩ := createOrder_serves hcall
  · have hdone := serves_run hcalled.valid halive hserves hrun
    rw [hanswer] at hdone
    obtain ⟨order, hid, hfor, ⟨status, hrow⟩, e, hmem, hread⟩ :=
      reach_serves hanswered.valid hdone hlater
    obtain ⟨-, hevent, hseat, huser, -⟩ := hfor
    refine ⟨request, { order with status }, hrequest, hrow, hid, hevent, hseat, huser,
      ⟨e, hmem, hread, ?_, ?_⟩, ?_⟩
    · intro hacked
      obtain ⟨p, hp, booked, hbookedRow, hbooked⟩ := hkept'.valid.1.settled e hmem hacked
      rw [hread] at hp
      cases hp
      have hsame : some booked = some { order with status } := hbookedRow.symm.trans hrow
      cases hsame
      exact hbooked
    · intro e' hmem' p hp hpid
      obtain ⟨row, hplaced, hrowId, -⟩ := hkept'.valid.1.placed ⟨⟨e', hmem', rfl⟩, hp⟩
      have hholds : p.holdId = order.holdId :=
        hkept'.ids.unique hplaced hrow (hrowId.trans (hpid.trans hid.symm))
      exact hkept'.single.unique hmem' hmem hp hread hholds
    · intro m response' hne hother hsame
      have hmine : answered.shared.drawn response.orderId = some (.call n) :=
        hanswered.single.drawn (by rw [hanswer]; rfl)
      have hlast := reach_drawn hanswered.valid hmine hlater
      have htheirs : world'.shared.drawn response'.orderId = some (.call m) :=
        hkept'.single.drawn (by rw [hother]; rfl)
      rw [hsame, hlast] at htheirs
      cases htheirs
      exact hne rfl
  · have hstays := rejected_run halive hrejected hrun
    rw [hanswer] at hstays
    cases hstays

end Step

/-! ## A purchase, cut at the request and at the answer -/

def workerWaits : List Label := [.startOrderConsumer 0] ++ acts (.worker 0) ["", ""]

def orderAccepted : List Label :=
  acts (.call 0) ["h", "", "", "", "o", "", "held-event", "order-event"]

def orderSettled : List Label :=
  acts (.worker 0) ["", ""] ++ acts (.task 0 0) ["", "", "", "", "", "booked-event", ""]

/-- The answer of a call that has accepted its order. -/
def Frame.answer : Frame → Option CreateOrderResponse
  | .ordered response => some response
  | _ => none

theorem answer_ordered {f : Frame} {response : CreateOrderResponse}
    (h : f.answer = some response) : f = .ordered response := by
  cases f with
  | ordered r =>
    cases h
    rfl
  | _ => cases h

theorem accepted_order_kept_purchase :
    ∃ answered world' : World, answered.point (.call 0) = .ordered ⟨"o"⟩ ∧
      (engine fun _ => true).run answered orderSettled = some world' ∧
      ∃ order e, e ∈ world'.shared.stream.entries ∧ order.id = "o" ∧ order.userId = "u" ∧
        world'.shared.orders.row order.holdId = some order ∧
        readEvent (toMessage e) = .ok (orderPayload order) := by
  have hview : (((engine fun _ => true).run oneSeat workerWaits).bind fun world =>
      ((engine fun _ => true).step world (.createOrder 0 (requestOf "u"))).bind fun called =>
        ((engine fun _ => true).run called orderAccepted).bind fun answered =>
          ((engine fun _ => true).run answered orderSettled).map fun _ =>
            (answered.point (.call 0)).answer) = some (some ⟨"o"⟩) := by
    decide +kernel
  obtain ⟨world, hwaits, hview⟩ := Option.bind_eq_some_iff.mp hview
  obtain ⟨called, hcall, hview⟩ := Option.bind_eq_some_iff.mp hview
  obtain ⟨answered, haccepted, hview⟩ := Option.bind_eq_some_iff.mp hview
  obtain ⟨world', hsettled, hanswer⟩ := Option.map_eq_some_iff.mp hview
  have hordered := answer_ordered hanswer
  have halive : ∀ l ∈ orderAccepted, l ≠ .crashCall 0 := by
    intro l hl
    obtain ⟨id, -, rfl⟩ := List.mem_map.mp hl
    simp
  obtain ⟨request, order, hrequest, hrow, hid, -, -, huser, ⟨e, hmem, hread, -⟩, -⟩ :=
    accepted_order_kept oneSeat_initial ⟨_, hwaits⟩ hcall haccepted halive hordered
      ⟨_, hsettled⟩
  have hnormal : (normalizeHoldRequest (requestOf "u")).toOption = some ⟨"e", "s", "u"⟩ := by
    decide +kernel
  rw [hrequest] at hnormal
  cases hnormal
  exact ⟨answered, world', hordered, hsettled, order, e, hmem, hid, huser, hrow, hread⟩

end TicketEngine
