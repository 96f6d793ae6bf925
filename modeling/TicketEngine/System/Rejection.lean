import TicketEngine.System.Invariant

namespace TicketEngine

/-! ## What a rejected createOrder leaves behind -/

structure Untouched (s₀ s : Store) : Prop where
  seats : s.seats = s₀.seats
  orders : s.orders = s₀.orders
  stream : s.stream = s₀.stream
  keys : s.redis.keys = s₀.redis.keys

/-- The call's own hold, under an identifier it has drawn, for the full time to live. -/
def OwnHold (s₀ s : Store) (request : HoldSeatRequest) (holdId : String) : Prop :=
  s₀.drawn holdId = none ∧ ∃ lock time, lock.userId = request.userId ∧ lock.holdId = holdId ∧
    s₀.redis.now ≤ time ∧ time ≤ s.redis.now ∧
    s.redis.keys = Function.update s₀.redis.keys
      (seatLockKey request.eventId request.seatId) (some ⟨lock, time + 600000⟩)

structure HoldLeft (s₀ s : Store) (request : HoldSeatRequest) (holdId : String) : Prop where
  seats : s.seats = s₀.seats
  orders : s.orders = s₀.orders
  stream : s.stream = s₀.stream
  hold : OwnHold s₀ s request holdId

/-- The order that the request asks for. -/
def OrderFor (request : HoldSeatRequest) (holdId : String) (o : Order) : Prop :=
  o.holdId = holdId ∧ o.eventId = request.eventId ∧ o.seatId = request.seatId ∧
    o.userId = request.userId ∧ o.status = .PROCESSING

structure OrderLeft (s₀ s : Store) (request : HoldSeatRequest) (holdId : String) : Prop where
  stream : s.stream = s₀.stream
  hold : OwnHold s₀ s request holdId
  available : s₀.seats request.seatId = some ⟨request.eventId, .AVAILABLE⟩
  seats : s.seats = Function.update s₀.seats request.seatId (some ⟨request.eventId, .HELD⟩)
  order : ∃ o, OrderFor request holdId o ∧ s₀.orders.row holdId = none ∧
    s.orders = s₀.orders.insert o

/-- What is left, by the frame at which the call rejects. -/
def RejectedAt (s₀ s : Store) (request : HoldSeatRequest) : Frame → Prop
  | .findEvent .. | .evalshaHold .. | .evalHold .. | .holdReply .. => Untouched s₀ s
  | .lockSeat .. | .createRow .. | .commitOrder .. => ∃ holdId, HoldLeft s₀ s request holdId
  | .appendEvent .. => ∃ holdId, OrderLeft s₀ s request holdId
  | _ => False

/-! ## The call on its own -/

/-- How far the call has come, when nobody else runs. -/
def AloneAt (s₀ : Store) (request : HoldSeatRequest) (s : Store) : Frame → Prop
  | .findEvent caller r => caller = .createOrder ∧ r = request ∧ Untouched s₀ s ∧ s.drawn = s₀.drawn
  | .evalshaHold caller r holdId | .evalHold caller r holdId =>
    caller = .createOrder ∧ r = request ∧ Untouched s₀ s ∧ s₀.drawn holdId = none
  | .holdReply caller r holdId result =>
    caller = .createOrder ∧ r = request ∧
      (result = 1 ∧ HoldLeft s₀ s request holdId ∨ result ≠ 1 ∧ Untouched s₀ s)
  | .lockSeat r execution => r = request ∧ HoldLeft s₀ s request execution.holdId
  | .createRow r execution =>
    r = request ∧ HoldLeft s₀ s request execution.holdId ∧
      s₀.seats request.seatId = some ⟨request.eventId, .AVAILABLE⟩
  | .commitOrder order =>
    OrderFor request order.holdId order ∧ HoldLeft s₀ s request order.holdId ∧
      s₀.seats request.seatId = some ⟨request.eventId, .AVAILABLE⟩ ∧
      s₀.orders.row order.holdId = none
  | .publishHeld order | .appendEvent order => OrderLeft s₀ s request order.holdId
  | .ordered _ | .rejected _ => True
  | _ => False

section Step

variable {s₀ s s' : Store} {request : HoldSeatRequest} {holdId : String}

/-- Fields that the call's progress does not depend on may change. -/
theorem Untouched.congr (h : Untouched s₀ s) (hseats : s'.seats = s.seats)
    (horders : s'.orders = s.orders) (hstream : s'.stream = s.stream)
    (hkeys : s'.redis.keys = s.redis.keys) : Untouched s₀ s' :=
  ⟨hseats.trans h.seats, horders.trans h.orders, hstream.trans h.stream, hkeys.trans h.keys⟩

theorem OwnHold.congr (h : OwnHold s₀ s request holdId) (hkeys : s'.redis.keys = s.redis.keys)
    (hnow : s.redis.now ≤ s'.redis.now) : OwnHold s₀ s' request holdId := by
  obtain ⟨hdrawn, lock, time, hu, hh, h₁, h₂, hk⟩ := h
  exact ⟨hdrawn, lock, time, hu, hh, h₁, h₂.trans hnow, hkeys.trans hk⟩

theorem HoldLeft.congr (h : HoldLeft s₀ s request holdId) (hseats : s'.seats = s.seats)
    (horders : s'.orders = s.orders) (hstream : s'.stream = s.stream)
    (hkeys : s'.redis.keys = s.redis.keys) (hnow : s.redis.now ≤ s'.redis.now) :
    HoldLeft s₀ s' request holdId :=
  ⟨hseats.trans h.seats, horders.trans h.orders, hstream.trans h.stream, h.hold.congr hkeys hnow⟩

theorem OrderLeft.congr (h : OrderLeft s₀ s request holdId) (hseats : s'.seats = s.seats)
    (horders : s'.orders = s.orders) (hstream : s'.stream = s.stream)
    (hkeys : s'.redis.keys = s.redis.keys) (hnow : s.redis.now ≤ s'.redis.now) :
    OrderLeft s₀ s' request holdId := by
  obtain ⟨o, ho, hnone, hins⟩ := h.order
  exact ⟨hstream.trans h.stream, h.hold.congr hkeys hnow, h.available, hseats.trans h.seats,
    o, ho, hnone, horders.trans hins⟩

/-- Time and the script cache move on without the call. -/
theorem AloneAt.setRedis {f : Frame} (h : AloneAt s₀ request s f) {redis : LockRedis}
    (hkeys : redis.keys = s.redis.keys) (hnow : s.redis.now ≤ redis.now) :
    AloneAt s₀ request (s.setRedis redis) f := by
  have hu (h : Untouched s₀ s) : Untouched s₀ (s.setRedis redis) := h.congr rfl rfl rfl hkeys
  have hh {id : String} (h : HoldLeft s₀ s request id) :
      HoldLeft s₀ (s.setRedis redis) request id :=
    h.congr rfl rfl rfl hkeys hnow
  have ho {id : String} (h : OrderLeft s₀ s request id) :
      OrderLeft s₀ (s.setRedis redis) request id := h.congr rfl rfl rfl hkeys hnow
  cases f with
  | findEvent _ _ => exact ⟨h.1, h.2.1, hu h.2.2.1, h.2.2.2⟩
  | evalshaHold _ _ _ => exact ⟨h.1, h.2.1, hu h.2.2.1, h.2.2.2⟩
  | evalHold _ _ _ => exact ⟨h.1, h.2.1, hu h.2.2.1, h.2.2.2⟩
  | holdReply _ _ _ _ =>
    exact ⟨h.1, h.2.1, h.2.2.imp (fun k => ⟨k.1, hh k.2⟩) fun k => ⟨k.1, hu k.2⟩⟩
  | lockSeat _ _ => exact ⟨h.1, hh h.2⟩
  | createRow _ _ => exact ⟨h.1, hh h.2.1, h.2.2⟩
  | commitOrder _ => exact ⟨h.1, hh h.2.1, h.2.2⟩
  | publishHeld _ => exact ho h
  | appendEvent _ => exact ho h
  | ordered _ => trivial
  | rejected _ => trivial
  | _ => exact h.elim

/-- One hold command: EVALSHA or EVAL. -/
theorem hold_alone {run : LockRedis × Except RedisError Int} {fallback : Frame} {c : Choice}
    (hu : Untouched s₀ s) (hdrawn : s₀.drawn holdId = none) (hnow : s₀.redis.now ≤ s.redis.now)
    (hback : fallback = .evalHold .createOrder request holdId ∨ ∃ e, fallback = .rejected e)
    (hran : Ran s (seatLockKey request.eventId request.seatId) (holdScript request holdId)
      (scriptReply s run c)) :
    let r := stepEvalsha s run (.holdReply .createOrder request holdId) fallback c
    s₀.redis.now ≤ r.1.redis.now ∧ AloneAt s₀ request r.1 r.2 ∧
      ∀ e, r.2 = .rejected e → Untouched s₀ r.1 := by
  intro r
  refine ⟨?_, ?_⟩
  · obtain ⟨redis, h₁, hsame, -⟩ :=
      stepEvalsha_cases (.holdReply .createOrder request holdId) fallback hran
    change s₀.redis.now ≤ (stepEvalsha _ _ _ _ _).1.redis.now
    rw [h₁]
    exact hnow.trans hsame.ge
  obtain ⟨redis, h₁, hsame, ⟨hkeys, hnext⟩ | ⟨code, cell, hnext, hscript, hkeys⟩⟩ :=
    stepEvalsha_cases (.holdReply .createOrder request holdId) fallback hran
  · have hu' : Untouched s₀ r.1 := by
      change Untouched s₀ (stepEvalsha _ _ _ _ _).1
      rw [h₁]
      exact hu.congr rfl rfl rfl hkeys
    refine ⟨?_, fun _ _ => hu'⟩
    have hr : r.2 = fallback ∨ ∃ e, r.2 = .rejected e := hnext
    rcases hr with hr | ⟨e, hr⟩
    · rw [hr]
      rcases hback with rfl | ⟨e, rfl⟩
      · exact ⟨rfl, rfl, hu', hdrawn⟩
      · trivial
    · rw [hr]
      trivial
  · have hr : r.2 = .holdReply .createOrder request holdId code := hnext
    have hr₁ : r.1 = s.setRedis redis := h₁
    rw [hr, hr₁]
    refine ⟨⟨rfl, rfl, ?_⟩, fun e he => by cases he⟩
    rcases holdScript_cases hscript with ⟨rfl, rfl⟩ | ⟨rfl, -, lock, hlu, hlh, rfl⟩
    · right
      refine ⟨by decide, hu.congr rfl rfl rfl ?_⟩
      rw [Store.setRedis, hkeys, Function.update_eq_self]
    · left
      refine ⟨rfl, hu.seats, hu.orders, hu.stream, hdrawn, lock, s.redis.now, hlu, hlh, hnow,
        hsame.ge, ?_⟩
      rw [Store.setRedis, hkeys, hu.keys]

/-- A step leaves the call on its own, or turns it away as `RejectedAt` says. -/
def StaysAlone (s₀ : Store) (request : HoldSeatRequest) (f : Frame) (r : Store × Frame) : Prop :=
  s₀.redis.now ≤ r.1.redis.now ∧ AloneAt s₀ request r.1 r.2 ∧
    ∀ e, r.2 = .rejected e → RejectedAt s₀ r.1 request f

section Commands

variable {digests : ScriptDigests} {t : Thread} {c : Choice} {r : Store × Frame}

theorem findEvent_alone {caller : Caller} {req : HoldSeatRequest}
    (hnow : s₀.redis.now ≤ s.redis.now) (h : AloneAt s₀ request s (.findEvent caller req))
    (hr : Frame.act digests s t c (.findEvent caller req) = some r) :
    StaysAlone s₀ request (.findEvent caller req) r := by
  obtain ⟨rfl, rfl, hu, hdrawn⟩ := h
  cases c with
  | fail message => cases hr; exact ⟨hnow, trivial, fun _ _ => hu⟩
  | ok id =>
    simp only [Frame.act, stepFindEvent] at hr
    cases hf : findSeat s req with
    | error e =>
      rw [hf] at hr
      cases hr
      exact ⟨hnow, trivial, fun _ _ => hu⟩
    | ok _ =>
      rw [hf] at hr
      obtain ⟨s', hd, rfl⟩ := Option.map_eq_some_iff.mp hr
      obtain ⟨hn, rfl⟩ := draw_eq hd
      rw [hdrawn] at hn
      exact ⟨hnow, ⟨rfl, rfl, hu.congr rfl rfl rfl rfl, hn⟩, fun e he => by cases he⟩

theorem holdReply_alone {caller : Caller} {req : HoldSeatRequest} {holdId : String} {result : Int}
    (hnow : s₀.redis.now ≤ s.redis.now)
    (h : AloneAt s₀ request s (.holdReply caller req holdId result))
    (hr : Frame.act digests s t c (.holdReply caller req holdId result) = some r) :
    StaysAlone s₀ request (.holdReply caller req holdId result) r := by
  obtain ⟨rfl, rfl, hres⟩ := h
  cases hr
  simp only [stepHoldReply]
  split_ifs with hone
  · rcases hres with ⟨hone', -⟩ | ⟨-, hu⟩
    · exact absurd hone' hone
    · exact ⟨hnow, trivial, fun _ _ => hu⟩
  · rcases hres with ⟨-, hh⟩ | ⟨hne, -⟩
    · exact ⟨hnow, ⟨rfl, hh⟩, fun e he => by cases he⟩
    · exact absurd hne hone

theorem lockSeat_alone {req : HoldSeatRequest} {execution : SeatLockExecution}
    (hnow : s₀.redis.now ≤ s.redis.now) (h : AloneAt s₀ request s (.lockSeat req execution))
    (hr : Frame.act digests s t c (.lockSeat req execution) = some r) :
    StaysAlone s₀ request (.lockSeat req execution) r := by
  obtain ⟨rfl, hh⟩ := h
  cases c with
  | fail message => cases hr; exact ⟨hnow, trivial, fun _ _ => ⟨_, hh⟩⟩
  | ok id =>
    obtain ⟨⟨s', count⟩, hl, rfl⟩ := Option.map_eq_some_iff.mp hr
    rcases lockRow_cases hl with ⟨rfl, rfl⟩ | ⟨rfl, hrow, -, rfl⟩
    · exact ⟨hnow, trivial, fun _ _ => ⟨_, hh.congr rfl rfl rfl rfl le_rfl⟩⟩
    · rw [hh.seats] at hrow
      exact ⟨hnow, ⟨rfl, hh.congr rfl rfl rfl rfl le_rfl, hrow⟩, fun e he => by cases he⟩

theorem createRow_alone {req : HoldSeatRequest} {execution : SeatLockExecution}
    (hnow : s₀.redis.now ≤ s.redis.now) (h : AloneAt s₀ request s (.createRow req execution))
    (hr : Frame.act digests s t c (.createRow req execution) = some r) :
    StaysAlone s₀ request (.createRow req execution) r := by
  obtain ⟨rfl, hh, hrow⟩ := h
  cases c with
  | fail message =>
    cases hr
    exact ⟨hnow, trivial, fun _ _ => ⟨_, hh.congr rfl rfl rfl rfl le_rfl⟩⟩
  | ok id =>
    obtain ⟨s', hd, rfl⟩ := Option.map_eq_some_iff.mp hr
    obtain ⟨-, rfl⟩ := draw_eq hd
    cases ho : s.orders.row execution.holdId with
    | some o =>
      exact ⟨hnow, trivial, fun _ _ => ⟨_, hh.congr rfl rfl rfl rfl le_rfl⟩⟩
    | none =>
      rw [hh.orders] at ho
      exact ⟨hnow, ⟨⟨rfl, rfl, rfl, rfl, rfl⟩, hh.congr rfl rfl rfl rfl le_rfl, hrow, ho⟩,
        fun e he => by cases he⟩

theorem commitOrder_alone {order : Order}
    (hnow : s₀.redis.now ≤ s.redis.now) (h : AloneAt s₀ request s (.commitOrder order))
    (hr : Frame.act digests s t c (.commitOrder order) = some r) :
    StaysAlone s₀ request (.commitOrder order) r := by
  obtain ⟨hfor, hh, hrow, hnone⟩ := h
  cases c with
  | fail message =>
    cases hr
    exact ⟨hnow, trivial, fun _ _ => ⟨_, hh.congr rfl rfl rfl rfl le_rfl⟩⟩
  | ok id =>
    cases hr
    refine ⟨hnow, ⟨hh.stream, hh.hold.congr rfl le_rfl, hrow, ?_, order, hfor, hnone, ?_⟩,
      fun e he => by cases he⟩
    · simp only [stepCommitOrder, Store.placeOrder, Store.abort, Store.unlock, hfor.2.1,
        hfor.2.2.1, hh.seats]
    · simp only [stepCommitOrder, Store.placeOrder, Store.abort, Store.unlock, hh.orders]

theorem publishHeld_alone {order : Order}
    (hnow : s₀.redis.now ≤ s.redis.now) (h : AloneAt s₀ request s (.publishHeld order))
    (hr : Frame.act digests s t c (.publishHeld order) = some r) :
    StaysAlone s₀ request (.publishHeld order) r := by
  obtain ⟨s', hp, rfl⟩ := Option.map_eq_some_iff.mp hr
  refine ⟨?_, ?_, fun e he => by cases he⟩
  · have hchange : Change .idle (· = t) s s' := (publishSeatEvent_eq hp).1
    rw [hchange.now]
    exact hnow
  · cases c with
    | fail message => cases hp; exact h
    | ok id =>
      obtain ⟨s₁, hd, rfl⟩ := Option.map_eq_some_iff.mp hp
      obtain ⟨-, rfl⟩ := draw_eq hd
      exact OrderLeft.congr h rfl rfl rfl rfl le_rfl

theorem appendEvent_alone {order : Order}
    (hnow : s₀.redis.now ≤ s.redis.now) (h : AloneAt s₀ request s (.appendEvent order))
    (hr : Frame.act digests s t c (.appendEvent order) = some r) :
    StaysAlone s₀ request (.appendEvent order) r := by
  cases c with
  | fail message => cases hr; exact ⟨hnow, trivial, fun _ _ => ⟨_, h⟩⟩
  | ok id =>
    obtain ⟨s', hd, rfl⟩ := Option.map_eq_some_iff.mp hr
    obtain ⟨-, rfl⟩ := draw_eq hd
    exact ⟨hnow, trivial, fun e he => by cases he⟩

end Commands

/-- One step of the call on its own. -/
theorem alone_step {digests : ScriptDigests} {t : Thread} {c : Choice} {f : Frame}
    {r : Store × Frame} (hnow : s₀.redis.now ≤ s.redis.now) (h : AloneAt s₀ request s f)
    (hr : f.act digests s t c = some r) : StaysAlone s₀ request f r := by
  cases f with
  | findEvent caller req => exact findEvent_alone hnow h hr
  | evalshaHold caller req holdId =>
    obtain ⟨rfl, rfl, hu, hdrawn⟩ := h
    cases hr
    exact hold_alone hu hdrawn hnow (.inl rfl) (ran_evalsha ..)
  | evalHold caller req holdId =>
    obtain ⟨rfl, rfl, hu, hdrawn⟩ := h
    cases hr
    obtain ⟨e, he⟩ := stepEval_eq s (s.redis.eval .atomicSeatLock
      (seatLockKey req.eventId req.seatId) (holdScript req holdId))
      (.holdReply .createOrder req holdId) c
    unfold stepEvalHold
    rw [he]
    exact hold_alone hu hdrawn hnow (.inr ⟨e, rfl⟩) (ran_eval ..)
  | holdReply caller req holdId result => exact holdReply_alone hnow h hr
  | lockSeat req execution => exact lockSeat_alone hnow h hr
  | createRow req execution => exact createRow_alone hnow h hr
  | commitOrder order => exact commitOrder_alone hnow h hr
  | publishHeld order => exact publishHeld_alone hnow h hr
  | appendEvent order => exact appendEvent_alone hnow h hr
  | ordered _ => cases hr
  | rejected _ => cases hr
  | _ => exact h.elim

end Step

/-! ## Runs in which nobody else moves -/

/-- A step of the call itself, or of the clock and the script cache. -/
def Alone (n : Nat) : Label → Prop
  | .act t _ => t = .call n
  | .advance _ | .flushScripts => True
  | _ => False

variable {digests : ScriptDigests} {world world' : World}

theorem acts_alone {n : Nat} (ids : List String) : ∀ l ∈ acts (.call n) ids, Alone n l := by
  intro l hl
  obtain ⟨id, -, rfl⟩ := List.mem_map.mp hl
  rfl

theorem alone_act {n : Nat} {c : Choice} (h : step digests world (.act (.call n) c) = some world') :
    ∃ r, (world.point (.call n)).act digests world.shared (.call n) c = some r ∧
      world'.shared = r.1 ∧ world'.point (.call n) = r.2 := by
  obtain ⟨r, hr, rfl⟩ := Option.map_eq_some_iff.mp h
  exact ⟨r, hr, rfl, Function.update_self ..⟩

theorem alone_run {s₀ : Store} {request : HoldSeatRequest} {n : Nat} {ls : List Label}
    (halone : ∀ l ∈ ls, Alone n l) (hnow : s₀.redis.now ≤ world.shared.redis.now)
    (h : AloneAt s₀ request world.shared (world.point (.call n)))
    (hrun : (engine digests).run world ls = some world') :
    s₀.redis.now ≤ world'.shared.redis.now ∧
      AloneAt s₀ request world'.shared (world'.point (.call n)) := by
  induction ls generalizing world with
  | nil => cases hrun; exact ⟨hnow, h⟩
  | cons l ls ih =>
    obtain ⟨u, hu, htail⟩ := Machine.run_cons_some _ hrun
    have hl := halone l List.mem_cons_self
    have hrest : ∀ k ∈ ls, Alone n k := fun k hk => halone k (List.mem_cons_of_mem l hk)
    cases l with
    | act t c =>
      cases hl
      obtain ⟨r, hr, hs, hf⟩ := alone_act hu
      obtain ⟨hnow', h', -⟩ := alone_step hnow h hr
      refine ih hrest ?_ ?_ htail
      · rw [hs]; exact hnow'
      · rw [hs, hf]; exact h'
    | advance ms =>
      cases hu
      refine ih hrest ?_ ?_ htail
      · exact hnow.trans (Nat.le_add_right _ _)
      · exact h.setRedis rfl (Nat.le_add_right _ _)
    | flushScripts =>
      cases hu
      refine ih hrest ?_ ?_ htail
      · exact hnow
      · exact h.setRedis rfl le_rfl
    | _ => exact hl.elim

/-- With nobody else moving, what a rejecting `createOrder` leaves is decided by the point at
which it rejects: nothing up to the acquisition of the hold, its own hold from there to the
commit, and its hold, its order and the HELD row when the append fails. -/
theorem create_order_rejections (digests : ScriptDigests) (world₀ : World) (n : Nat)
    (payload : PartialHoldSeatRequest) :
    (∀ e world, createOrder payload = .rejected e →
      step digests world₀ (.createOrder n payload) = some world →
      Untouched world₀.shared world.shared) ∧
    ∀ request, normalizeHoldRequest payload = .ok request →
      ∀ ls c u v e, (∀ l ∈ ls, Alone n l) →
        (engine digests).run world₀ (.createOrder n payload :: ls) = some u →
        step digests u (.act (.call n) c) = some v → v.point (.call n) = .rejected e →
        RejectedAt world₀.shared v.shared request (u.point (.call n)) := by
  constructor
  · intro e world _ h
    obtain ⟨-, rfl⟩ := enter_some h
    exact ⟨rfl, rfl, rfl, rfl⟩
  · intro request hreq ls c u v e halone hrun hstep hrej
    obtain ⟨w, hw, hrun⟩ := Machine.run_cons_some _ hrun
    have hstart : w.shared = world₀.shared ∧
        w.point (.call n) = .findEvent .createOrder request := by
      have hw : enter world₀ (.call n) (createOrder payload) = some w := hw
      obtain ⟨-, rfl⟩ := enter_some hw
      refine ⟨rfl, ?_⟩
      simp only [Function.update_self, createOrder, hreq]
    have hbegin : AloneAt world₀.shared request w.shared (w.point (.call n)) := by
      rw [hstart.1, hstart.2]
      exact ⟨rfl, rfl, ⟨rfl, rfl, rfl, rfl⟩, rfl⟩
    obtain ⟨hnow, hat⟩ := alone_run halone (by rw [hstart.1]) hbegin hrun
    obtain ⟨r, hr, hs, hf⟩ := alone_act hstep
    rw [hs]
    exact (alone_step hnow hat hr).2.2 e (hf.symm.trans hrej)

/-- A seat whose row another order has marked, while its key is free. -/
def heldSeat : World :=
  { oneSeat with
    shared := { oneSeat.shared with
      seats := fun id => if id = "s" then some ⟨"e", .HELD⟩ else none } }

/-- The commands of a call up to its XADD, and the XADD that fails. -/
def toAppend : List Label := acts (.call 0) ["h", "", "", "", "o", "", "held-event"]

def appendFails : Label := .act (.call 0) (.fail "Connection is closed.")

/-- A call is about to lock the seat's row, or to append its event. -/
def Frame.atLock : Frame → Bool
  | .lockSeat .. => true
  | _ => false

def Frame.atAppend : Frame → Bool
  | .appendEvent .. => true
  | _ => false

/-- The row is taken in the transaction: the hold of the rejected call stays. The XADD fails: the
hold, the HELD row and the order stay, with no entry in the stream. -/
theorem create_order_leaks_hold :
    (∃ world, (engine fun _ => true).run heldSeat
        ([.createOrder 0 (requestOf "u")] ++ acts (.call 0) ["h", "", "", ""]) = some world ∧
      world.point (.call 0) = .rejected (.conflict "Seat state changed before order creation") ∧
      heldSeat.shared.redis.keys "seat:e:s" = none ∧
      world.shared.redis.keys "seat:e:s" = some ⟨⟨.HELD, "u", "h", 0, 600⟩, 600000⟩) ∧
    ∃ world, (engine fun _ => true).run oneSeat
        ([.createOrder 0 (requestOf "u")] ++ toAppend ++ [appendFails]) = some world ∧
      world.point (.call 0) = .rejected (.other "Connection is closed.") ∧
      world.shared.redis.keys "seat:e:s" = some ⟨⟨.HELD, "u", "h", 0, 600⟩, 600000⟩ ∧
      world.shared.seats "s" = some ⟨"e", .HELD⟩ ∧
      (world.shared.orders.row "h").map (fun order => order.id) = some "o" ∧
      world.shared.stream.entries = [] := by
  constructor
  · have hview : ((engine fun _ => true).run heldSeat
        ([.createOrder 0 (requestOf "u")] ++ acts (.call 0) ["h", "", "", ""])).map
        (fun world => (world.shared.redis.keys "seat:e:s", (world.point (.call 0)).rejection)) =
        some (some ⟨⟨.HELD, "u", "h", 0, 600⟩, 600000⟩,
          some (.conflict "Seat state changed before order creation")) := by
      decide +kernel
    obtain ⟨world, hrun, hview⟩ := Option.map_eq_some_iff.mp hview
    obtain ⟨hkey, hrejected⟩ := Prod.mk.inj hview
    exact ⟨world, hrun, rejection_eq hrejected, rfl, hkey⟩
  · have hview : ((engine fun _ => true).run oneSeat
        ([.createOrder 0 (requestOf "u")] ++ toAppend ++ [appendFails])).map
        (fun world => ((world.shared.redis.keys "seat:e:s", (world.point (.call 0)).rejection),
          world.shared.seats "s", (world.shared.orders.row "h").map (fun order => order.id),
          world.shared.stream.entries.length)) =
        some ((some ⟨⟨.HELD, "u", "h", 0, 600⟩, 600000⟩, some (.other "Connection is closed.")),
          some ⟨"e", .HELD⟩, some "o", 0) := by
      decide +kernel
    obtain ⟨world, hrun, hview⟩ := Option.map_eq_some_iff.mp hview
    simp only [Prod.mk.injEq] at hview
    obtain ⟨⟨hkey, hrejected⟩, hseat, horder, hstream⟩ := hview
    exact ⟨world, hrun, rejection_eq hrejected, hkey, hseat, horder,
      List.eq_nil_of_length_eq_zero hstream⟩

/-- A request without an event, a call that is turned down in its transaction, and one whose XADD
fails. -/
theorem create_order_rejections_stages :
    (∃ world, step (fun _ => true) oneSeat (.createOrder 0 ⟨none, some "s", some "u"⟩) =
        some world ∧ Untouched oneSeat.shared world.shared) ∧
    (∃ u v, (engine fun _ => true).run heldSeat
          (.createOrder 0 (requestOf "u") :: acts (.call 0) ["h", "", ""]) = some u ∧
        step (fun _ => true) u (.act (.call 0) (.ok "")) = some v ∧
        ∃ holdId, HoldLeft heldSeat.shared v.shared ⟨"e", "s", "u"⟩ holdId) ∧
    ∃ u v, (engine fun _ => true).run oneSeat
          (.createOrder 0 (requestOf "u") :: toAppend) = some u ∧
        step (fun _ => true) u appendFails = some v ∧
        ∃ holdId, OrderLeft oneSeat.shared v.shared ⟨"e", "s", "u"⟩ holdId := by
  have hblank : createOrder ⟨none, some "s", some "u"⟩ =
      .rejected (.badRequest "eventId, seatId, and userId are required") :=
    rejection_eq (by decide +kernel)
  have hrequest : normalizeHoldRequest (requestOf "u") = .ok ⟨"e", "s", "u"⟩ := by decide +kernel
  have hlock : ((engine fun _ => true).run heldSeat
      (.createOrder 0 (requestOf "u") :: acts (.call 0) ["h", "", ""])).bind (fun u =>
        (step (fun _ => true) u (.act (.call 0) (.ok ""))).map fun v =>
          ((u.point (.call 0)).atLock, (v.point (.call 0)).rejection)) =
      some (true, some (.conflict "Seat state changed before order creation")) := by
    decide +kernel
  have happend : ((engine fun _ => true).run oneSeat
      (.createOrder 0 (requestOf "u") :: toAppend)).bind (fun u =>
        (step (fun _ => true) u appendFails).map fun v =>
          ((u.point (.call 0)).atAppend, (v.point (.call 0)).rejection)) =
      some (true, some (.other "Connection is closed.")) := by
    decide +kernel
  refine ⟨⟨_, rfl, ?_⟩, ?_, ?_⟩
  · exact (create_order_rejections (fun _ => true) oneSeat 0 _).1 _ _ hblank rfl
  · obtain ⟨u, hrun, hview⟩ := Option.bind_eq_some_iff.mp hlock
    obtain ⟨v, hstep, hview⟩ := Option.map_eq_some_iff.mp hview
    obtain ⟨hat, hrejected⟩ := Prod.mk.inj hview
    have hleft := (create_order_rejections _ heldSeat 0 (requestOf "u")).2 _ hrequest _ _ u v _
      (acts_alone _) hrun hstep (rejection_eq hrejected)
    refine ⟨u, v, hrun, hstep, ?_⟩
    cases hf : u.point (.call 0) with
    | lockSeat request execution =>
      rw [hf] at hleft
      exact hleft
    | _ =>
      rw [hf] at hat
      cases hat
  · obtain ⟨u, hrun, hview⟩ := Option.bind_eq_some_iff.mp happend
    obtain ⟨v, hstep, hview⟩ := Option.map_eq_some_iff.mp hview
    obtain ⟨hat, hrejected⟩ := Prod.mk.inj hview
    have hleft := (create_order_rejections _ oneSeat 0 (requestOf "u")).2 _ hrequest _ _ u v _
      (acts_alone _) hrun hstep (rejection_eq hrejected)
    refine ⟨u, v, hrun, hstep, ?_⟩
    cases hf : u.point (.call 0) with
    | appendEvent order =>
      rw [hf] at hleft
      exact hleft
    | _ =>
      rw [hf] at hat
      cases hat

end TicketEngine
