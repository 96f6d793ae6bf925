import TicketEngine.System.Invariant

namespace TicketEngine

/-- The order claims the seat key: it is PROCESSING or BOOKED on a seat with this key. -/
def Claims (s : Store) (key : String) (o : Order) : Prop :=
  s.orders.row o.holdId = some o ∧ (o.status = .PROCESSING ∨ o.status = .BOOKED) ∧
    seatLockKey o.eventId o.seatId = key

/-- The live hold under a seat key. -/
def liveHold (s : Store) (key : String) : Option SeatLock :=
  Lease.read s.redis.now (s.redis.keys key)

/-- Every order that claims a seat has the hold that lives under the seat's key. -/
def OneClaim (s : Store) : Prop :=
  ∀ key lock, liveHold s key = some lock → ∀ o, Claims s key o → o.holdId = lock.holdId

/-- The step executes the lock script on a free key, for a deadline that Redis accepts. -/
def TakesHold (digests : ScriptDigests) (world : World) (l : Label) (request : HoldSeatRequest) :
    Prop :=
  ∃ t id caller holdId, l = .act t (.ok id) ∧
    (world.point t = .evalshaHold caller request holdId ∧ digests .atomicSeatLock = true ∧
        world.shared.redis.cached .atomicSeatLock = true ∨
      world.point t = .evalHold caller request holdId) ∧
    liveHold world.shared (seatLockKey request.eventId request.seatId) = none ∧
    world.shared.redis.now + 600000 ≤ 9223372036854775807

/-- The step commits the transaction of `createOrder`. -/
def CommitsOrder (world : World) (l : Label) (order : Order) : Prop :=
  ∃ t id, l = .act t (.ok id) ∧ world.point t = .commitOrder order

/-- A hold is taken only on a seat no order claims, and an order is committed only while no
other hold lives on its seat. -/
def ClaimsApart (digests : ScriptDigests) (world : World) (l : Label) (_ : World) : Prop :=
  (∀ request, TakesHold digests world l request →
    ∀ o, ¬ Claims world.shared (seatLockKey request.eventId request.seatId) o) ∧
  ∀ order, CommitsOrder world l order →
    ∀ lock, liveHold world.shared (seatLockKey order.eventId order.seatId) = some lock →
      lock.holdId = order.holdId

/-! ## The lock script on a free key -/

theorem holdScript_free (request : HoldSeatRequest) (holdId : String) {now : Nat}
    {cell : Option (Lease SeatLock)} (hfree : Lease.read now cell = none)
    (hlimit : now + 600000 ≤ 9223372036854775807) :
    ∃ lock : SeatLock, lock.holdId = holdId ∧
      holdScript request holdId now cell = .ok (some ⟨lock, now + 600000⟩, 1) := by
  have hsix : (600 : ℚ).num = 600 ∧ (600 : ℚ).den = 1 := by decide +kernel
  have hexpire : expireSeconds now 600 = .ok 600 := by
    unfold expireSeconds
    rw [hsix.1, hsix.2, if_pos]
    · rfl
    · exact ⟨rfl, by decide, by omega⟩
  refine ⟨⟨.HELD, request.userId, holdId, timeSeconds now, timeSeconds now + 600⟩, rfl, ?_⟩
  have hpos : ¬ (600 : ℚ) ≤ 0 := by decide +kernel
  simp only [holdScript, holdTtl_eq, atomic_seat_lock, if_neg hpos, hfree, hexpire]
  rfl

theorem holdScript_limit {request : HoldSeatRequest} {holdId : String} {now : Nat}
    {cell cell' : Option (Lease SeatLock)} {code : Int} (hfree : Lease.read now cell = none)
    (h : holdScript request holdId now cell = .ok (cell', code)) :
    now + 600000 ≤ 9223372036854775807 := by
  have hsix : (600 : ℚ).num = 600 := by decide +kernel
  have hpos : ¬ (600 : ℚ) ≤ 0 := by decide +kernel
  simp only [holdScript, holdTtl_eq, atomic_seat_lock, if_neg hpos, hfree, expireSeconds] at h
  split_ifs at h with he
  · rw [hsix] at he
    omega
  · cases h

section Step

variable {digests : ScriptDigests} {world world' : World}

/-- A step that takes a hold stores it under its key. -/
theorem takesHold_keys {l : Label} {request : HoldSeatRequest}
    (ht : TakesHold digests world l request) (h : step digests world l = some world') :
    ∃ t caller holdId lock, (world.point t = .evalshaHold caller request holdId ∨
        world.point t = .evalHold caller request holdId) ∧ lock.holdId = holdId ∧
      world'.shared.redis.keys = Function.update world.shared.redis.keys
        (seatLockKey request.eventId request.seatId)
        (some ⟨lock, world.shared.redis.now + 600000⟩) := by
  obtain ⟨t, id, caller, holdId, rfl, hpoint, hfree, hlimit⟩ := ht
  obtain ⟨lock, hlock, hscript⟩ := holdScript_free request holdId hfree hlimit
  have heval : world.shared.redis.eval .atomicSeatLock
      (seatLockKey request.eventId request.seatId) (holdScript request holdId) =
      ({ world.shared.redis with
        cached := Function.update world.shared.redis.cached .atomicSeatLock true
        keys := Function.update world.shared.redis.keys
          (seatLockKey request.eventId request.seatId)
          (some ⟨lock, world.shared.redis.now + 600000⟩) }, .ok 1) := by
    simp only [LockRedis.eval, hscript]
  rcases hpoint with ⟨hpoint, hd, hc⟩ | hpoint
  · refine ⟨t, caller, holdId, lock, .inl hpoint, hlock, ?_⟩
    obtain ⟨p, hp, rfl⟩ := act_step h hpoint rfl
    cases hp
    simp only [stepEvalshaHold, stepEvalsha, scriptReply, evalsha_loaded hd hc, heval,
      Store.setRedis]
  · refine ⟨t, caller, holdId, lock, .inr hpoint, hlock, ?_⟩
    obtain ⟨p, hp, rfl⟩ := act_step h hpoint rfl
    cases hp
    simp only [stepEvalHold, stepEval, scriptReply, heval, Store.setRedis]

/-- A hold command that stores something is a step that takes the hold. -/
theorem keys_takesHold {t : Thread} {c : Choice} {caller : Caller} {request : HoldSeatRequest}
    {holdId : String} (hpoint : world.point t = .evalshaHold caller request holdId ∨
      world.point t = .evalHold caller request holdId)
    (h : step digests world (.act t c) = some world') :
    world'.shared.redis.keys = world.shared.redis.keys ∨
      TakesHold digests world (.act t c) request := by
  have ran {reply : LockRedis × Except RedisError Int}
      (hran : Ran world.shared (seatLockKey request.eventId request.seatId)
        (holdScript request holdId) reply) :
      reply.1.keys = world.shared.redis.keys ∨
        (∃ code, reply.2 = .ok code) ∧
          liveHold world.shared (seatLockKey request.eventId request.seatId) = none ∧
          world.shared.redis.now + 600000 ≤ 9223372036854775807 := by
    obtain ⟨-, ⟨e, -, hk⟩ | ⟨code, cell, hcode, hscript, hk⟩⟩ := hran
    · exact .inl hk
    · rcases holdScript_cases hscript with ⟨-, rfl⟩ | ⟨-, hfree, -⟩
      · exact .inl (by rw [hk, Function.update_eq_self])
      · exact .inr ⟨⟨code, hcode⟩, hfree, holdScript_limit hfree hscript⟩
  rcases hpoint with hpoint | hpoint
  · obtain ⟨p, hp, rfl⟩ := act_step h hpoint rfl
    cases hp
    have hreply := ran (ran_evalsha world.shared digests .atomicSeatLock
      (seatLockKey request.eventId request.seatId) (holdScript request holdId) c)
    simp only [stepEvalshaHold, stepEvalsha]
    generalize hr : scriptReply world.shared (world.shared.redis.evalsha digests .atomicSeatLock
      (seatLockKey request.eventId request.seatId) (holdScript request holdId)) c = reply at hreply
    obtain ⟨redis, e | code⟩ := reply
    · obtain hk | ⟨⟨code, hcode⟩, -⟩ := hreply
      · exact .inl hk
      · cases hcode
    · obtain hk | ⟨-, hfree, hlimit⟩ := hreply
      · exact .inl hk
      cases c with
      | fail message => cases hr
      | ok id =>
        obtain ⟨hd, hc, -⟩ := evalsha_ok hr
        exact .inr ⟨t, id, caller, holdId, rfl, .inl ⟨hpoint, hd, hc⟩, hfree, hlimit⟩
  · obtain ⟨p, hp, rfl⟩ := act_step h hpoint rfl
    cases hp
    have hreply := ran (ran_eval world.shared .atomicSeatLock
      (seatLockKey request.eventId request.seatId) (holdScript request holdId) c)
    simp only [stepEvalHold, stepEval]
    generalize hr : scriptReply world.shared (world.shared.redis.eval .atomicSeatLock
      (seatLockKey request.eventId request.seatId) (holdScript request holdId)) c = reply at hreply
    obtain ⟨redis, e | code⟩ := reply
    · obtain hk | ⟨⟨code, hcode⟩, -⟩ := hreply
      · exact .inl hk
      · cases hcode
    · obtain hk | ⟨-, hfree, hlimit⟩ := hreply
      · exact .inl hk
      cases c with
      | fail message => cases hr
      | ok id => exact .inr ⟨t, id, caller, holdId, rfl, .inr hpoint, hfree, hlimit⟩

/-- A claim that is in the new state was there before, unless the step commits its order. -/
theorem claims_origin {f : Frame} {mine : Thread → Prop} {s s' : Store} (h : Rows f mine s s')
    (hs : Sound s) {key : String} {o : Order} (ho : Claims s' key o) :
    (∃ p, Claims s key p ∧ p.holdId = o.holdId) ∨
      f = .commitOrder o ∧ seatLockKey o.eventId o.seatId = key := by
  obtain ⟨hrow, hst, hkey⟩ := ho
  cases h with
  | same _ horders => rw [horders] at hrow; exact .inl ⟨o, ⟨hrow, hst, hkey⟩, rfl⟩
  | free _ _ _ _ _ _ horders => rw [horders] at hrow; exact .inl ⟨o, ⟨hrow, hst, hkey⟩, rfl⟩
  | place order _ hf _ _ _ _ _ horders =>
    rw [horders, insert_row] at hrow
    split_ifs at hrow with hk
    · cases hrow
      exact .inr ⟨hf, hkey⟩
    · exact .inl ⟨o, ⟨hrow, hst, hkey⟩, rfl⟩
  | book _ payload _ _ _ _ _ _ horders =>
    rw [horders, book_row] at hrow
    split_ifs at hrow with hk
    · obtain ⟨p, hp, rfl⟩ := Option.map_eq_some_iff.mp hrow
      rw [← hk] at hp
      exact .inl ⟨p, ⟨hp, hs.status hp, hkey⟩, rfl⟩
    · exact .inl ⟨o, ⟨hrow, hst, hkey⟩, rfl⟩

theorem claims_kept {f : Frame} {mine : Thread → Prop} {s s' : Store} (h : Rows f mine s s')
    {key : String} {o : Order} (ho : Claims s key o) :
    ∃ p, Claims s' key p ∧ p.holdId = o.holdId := by
  obtain ⟨hrow, hst, hkey⟩ := ho
  rcases h.kept hrow with hrow | hrow
  · exact ⟨o, ⟨hrow, hst, hkey⟩, rfl⟩
  · exact ⟨{ o with status := .BOOKED }, ⟨hrow, .inr rfl, hkey⟩, rfl⟩

/-- Keys that are not taken hold what they held, or less. -/
theorem liveHold_mono {s s' : Store} (hnow : s.redis.now ≤ s'.redis.now) {key : String}
    {lock : SeatLock}
    (hkeys : s'.redis.keys key = s.redis.keys key ∨ s'.redis.keys key = none)
    (h : liveHold s' key = some lock) : liveHold s key = some lock := by
  unfold liveHold at h ⊢
  rcases hkeys with hk | hk
  · rw [hk] at h
    exact Lease.read_earlier hnow h
  · rw [hk] at h
    cases h

theorem commitOrder_act {t : Thread} {c : Choice} {order : Order}
    (h : step digests world (.act t c) = some world')
    (hf : world.point t = .commitOrder order) :
    (∃ id, c = .ok id) ∨ world'.shared.orders = world.shared.orders := by
  cases c with
  | ok id => exact .inl ⟨id, rfl⟩
  | fail message =>
    obtain ⟨p, hp, rfl⟩ := act_step h hf rfl
    cases hp
    exact .inr rfl

/-- A command that leaves one claim a seat has met the condition. -/
theorem oneClaim_apart {t : Thread} {c : Choice} (hv : outline.Valid world)
    (hone' : OneClaim world'.shared) (h : step digests world (.act t c) = some world')
    (hchange : Change (world.point t) (· = t) world.shared world'.shared) :
    ClaimsApart digests world (.act t c) world' := by
  constructor
  · intro request ht o ho
    obtain ⟨u, caller, holdId, lock, hpoint, hlock, hkeys⟩ := takesHold_keys ht h
    have hlive : liveHold world'.shared (seatLockKey request.eventId request.seatId) =
        some lock := by
      rw [liveHold, hkeys, hchange.now, Function.update_self, Lease.read_fresh]
    obtain ⟨p, hp, hsame⟩ := claims_kept hchange.rows ho
    have hfresh : Fresh world.shared u holdId := by
      have hholds := hv.2 u
      rcases hpoint with hpoint | hpoint
      all_goals
        rw [hpoint] at hholds
        exact hholds
    have heq := hone' _ lock hlive p hp
    rw [hsame, hlock] at heq
    have hrow := ho.1
    rw [heq, hfresh.2] at hrow
    cases hrow
  · intro order hall lock hlive
    obtain ⟨u, id, heq, hpoint⟩ := hall
    cases heq
    obtain ⟨p, hp, rfl⟩ := act_step h hpoint rfl
    cases hp
    have hholds := hv.2 t
    rw [hpoint] at hholds
    have hst : order.status = .PROCESSING := hholds.2.2
    refine (hone' _ lock hlive order ⟨?_, .inl hst, rfl⟩).symm
    simp [stepCommitOrder, Store.placeOrder, Store.abort, Store.unlock, insert_row]

/-- A command that meets the condition leaves one claim a seat. -/
theorem apart_oneClaim {t : Thread} {c : Choice} (hv : outline.Valid world)
    (hone : OneClaim world.shared) (h : step digests world (.act t c) = some world')
    (hchange : Change (world.point t) (· = t) world.shared world'.shared)
    (hall : ClaimsApart digests world (.act t c) world') : OneClaim world'.shared := by
  intro key lock hlive o ho
  obtain ⟨htakes, hcommits⟩ := hall
  have old (hlive : liveHold world.shared key = some lock) : o.holdId = lock.holdId := by
    rcases claims_origin hchange.rows hv.1 ho with ⟨p, hp, hsame⟩ | ⟨hf, rfl⟩
    · rw [← hsame]
      exact hone key lock hlive p hp
    · obtain ⟨id, rfl⟩ | horders := commitOrder_act h hf
      · exact (hcommits o ⟨t, id, rfl, hf⟩ lock hlive).symm
      · unfold Claims at ho
        rw [horders] at ho
        exact hone _ lock hlive o ho
  rcases hchange.keys with hkeys | ⟨caller, request, holdId, taken, hf, -, -, hkeys⟩ |
    ⟨request, holdId, -, -, -, -, hkeys⟩
  · exact old (liveHold_mono hchange.now.ge (.inl (by rw [hkeys])) hlive)
  · rcases keys_takesHold hf h with hsame | ht
    · exact old (liveHold_mono hchange.now.ge (.inl (by rw [hsame])) hlive)
    by_cases hk : key = seatLockKey request.eventId request.seatId
    · subst hk
      rcases claims_origin hchange.rows hv.1 ho with ⟨p, hp, -⟩ | ⟨hcommit, -⟩
      · exact absurd hp (htakes request ht p)
      · rw [hcommit] at hf
        rcases hf with hf | hf <;> cases hf
    · refine old (liveHold_mono hchange.now.ge (.inl ?_) hlive)
      rw [hkeys, Function.update_of_ne hk]
  · refine old (liveHold_mono hchange.now.ge ?_ hlive)
    rw [hkeys, Function.update_apply]
    split_ifs
    · exact .inr rfl
    · exact .inl rfl

theorem quiet_oneClaim (hone : OneClaim world.shared)
    (hquiet : Quiet world.shared world'.shared) : OneClaim world'.shared := by
  intro key lock hlive o ho
  have hlive' := liveHold_mono hquiet.now (.inl (by rw [hquiet.keys])) hlive
  refine hone key lock hlive' o ?_
  unfold Claims at ho ⊢
  rwa [hquiet.orders] at ho

/-- A step keeps one claim a seat exactly when it meets the condition. -/
theorem oneClaim_step {l : Label} (hv : outline.Valid world) (hone : OneClaim world.shared)
    (h : step digests world l = some world') :
    OneClaim world'.shared ↔ ClaimsApart digests world l world' := by
  obtain ⟨-, ⟨t, c, rfl, hchange⟩ | ⟨hne, hquiet⟩⟩ := step_cases hv h
  · constructor
    · intro hone'
      exact oneClaim_apart hv hone' h hchange
    · intro hall
      exact apart_oneClaim hv hone h hchange hall
  · constructor
    · intro _
      constructor
      · intro request hall
        obtain ⟨t, id, caller, holdId, rfl, -⟩ := hall
        exact absurd rfl (hne t _)
      · intro order hall
        obtain ⟨t, id, rfl, -⟩ := hall
        exact absurd rfl (hne t _)
    · intro _
      exact quiet_oneClaim hone hquiet

end Step

/-- One claim a seat holds in every state of a run exactly when every hold is taken on a seat
that no order claims and every order is committed under its own hold or none. -/
theorem one_claim_iff {digests : ScriptDigests} {world₀ : World} (hinit : Initial world₀)
    (ls : List Label) :
    (engine digests).Every (fun world => OneClaim world.shared) world₀ ls ↔
      (engine digests).Along (ClaimsApart digests) world₀ ls := by
  refine Machine.every_iff_along (engine digests) (J := outline.Valid) (valid_step digests)
    (fun _ _ _ hv hone h => oneClaim_step hv hone h) ls (initial_valid hinit) ?_
  intro key lock _ o hall
  obtain ⟨hrow, -⟩ := hall
  rw [hinit.orders] at hrow
  cases hrow

/-- The worker lags behind the hold of the first order, and another user asks for a hold. -/
def lateWorker : List Label :=
  [.createOrder 0 (requestOf "u1")] ++
    acts (.call 0) ["h1", "", "", "", "o1", "", "held-event", "order-event"] ++
    [.advance 600001, .holdSeat 1 (requestOf "u2")] ++ acts (.call 1) ["h2", ""]

theorem one_claim_fails_lateWorker :
    ∃ world, (engine fun _ => true).run oneSeat lateWorker = some world ∧
      (∃ lock, liveHold world.shared "seat:e:s" = some lock ∧ lock.userId = "u2") ∧
      (∃ o, Claims world.shared "seat:e:s" o ∧ o.userId = "u1") ∧ ¬ OneClaim world.shared := by
  have hsome : ((engine fun _ => true).run oneSeat lateWorker).isSome = true := by
    decide +kernel
  obtain ⟨world, hrun⟩ := Option.isSome_iff_exists.mp hsome
  have hview : ((engine fun _ => true).run oneSeat lateWorker).map
      (fun world => (liveHold world.shared "seat:e:s", world.shared.orders.row "h1")) =
      some (some ⟨.HELD, "u2", "h2", 600, 1200⟩,
        some ⟨"o1", "h1", "e", "s", "u1", 600000, .PROCESSING⟩) := by decide +kernel
  rw [hrun] at hview
  obtain ⟨hlive, hrow⟩ := Prod.mk.inj (Option.some.inj hview)
  have ho : Claims world.shared "seat:e:s" ⟨"o1", "h1", "e", "s", "u1", 600000, .PROCESSING⟩ :=
    ⟨hrow, .inl rfl, by decide +kernel⟩
  refine ⟨world, hrun, ⟨_, hlive, rfl⟩, ⟨_, ho, rfl⟩, fun hone => ?_⟩
  exact absurd (hone _ _ hlive _ ho) (by decide)

theorem one_claim_iff_oneSeat :
    (engine fun _ => true).Every (fun world => OneClaim world.shared) oneSeat lateWorker ↔
      (engine fun _ => true).Along (ClaimsApart fun _ => true) oneSeat lateWorker :=
  one_claim_iff oneSeat_initial lateWorker

end TicketEngine
