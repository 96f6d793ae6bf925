import TicketEngine.System.Broadcast

namespace TicketEngine

section Act

variable {digests : ScriptDigests} {s s' : Store} {t : Thread} {f f' g : Frame}

/-- A publish that does not fail appends its event and changes nothing else. -/
theorem announce_act {payload : SeatEventPayload} {id : String}
    (hf : f.announces = some (payload, g)) (h : f.act digests s t (.ok id) = some (s', f')) :
    f' = g ∧ ∃ event : WebSocketSeatEvent, event.payload = payload ∧
      s'.channel = s.channel ++ [event] ∧ Still { s with channel := s'.channel } s' := by
  have published {correlationId : String}
      (h : (publishSeatEvent s t correlationId payload (.ok id)).map (fun s => (s, g)) =
        some (s', f')) :
      f' = g ∧ ∃ event : WebSocketSeatEvent, event.payload = payload ∧
        s'.channel = s.channel ++ [event] ∧ Still { s with channel := s'.channel } s' := by
    obtain ⟨s₁, hp, heq⟩ := Option.map_eq_some_iff.mp h
    cases heq
    obtain ⟨s₂, hd, rfl⟩ := Option.map_eq_some_iff.mp hp
    obtain ⟨-, rfl⟩ := draw_eq hd
    exact ⟨rfl, _, rfl, rfl, ⟨rfl, rfl, rfl, rfl, rfl, rfl⟩⟩
  cases f with
  | publishHold record =>
    cases hf
    exact published h
  | publishHeld order =>
    cases hf
    exact published h
  | publishReleased request holdId =>
    cases hf
    exact published h
  | publishBooked message payload =>
    cases hf
    exact published h
  | _ => cases hf

end Act

section Step

variable {digests : ScriptDigests} {world world' : World} {l : Label} {seat : SeatName}

/-- Only `advance` lets time pass. -/
theorem step_now (hv : outline.Valid world) (h : step digests world l = some world')
    (hl : ∀ ms, l ≠ .advance ms) : world'.shared.redis.now = world.shared.redis.now := by
  obtain ⟨-, ⟨t, c, -, hchange⟩ | ⟨hact, -⟩⟩ := step_cases hv h
  · exact hchange.now
  · cases l with
    | holdSeat n payload => rw [(enter_step hv (holdSeat_holds _ _ _) h).2]
    | createOrder n payload => rw [(enter_step hv (createOrder_holds _ _ _) h).2]
    | releaseSeat n payload holdId => rw [(enter_step hv (releaseSeat_holds _ _ _ _) h).2]
    | startOrderConsumer w =>
      simp only [step] at h
      split_ifs at h
      · cases h
        rfl
      · rw [(startWorker_step (valid_running hv _) h).2]
    | processAvailableOrderMessages w => rw [(startWorker_step hv h).2]
    | act t c => exact absurd rfl (hact t c)
    | advance ms => exact absurd rfl (hl ms)
    | stopOrderConsumer w | crashCall n | crashWorker w | flushScripts =>
      cases h
      rfl

/-- Without an expiry, a step that leaves the keys alone leaves every hold as it is. -/
theorem reads_kept (hv : outline.Valid world) (h : step digests world l = some world')
    (hu : Steady world l world') (key : String) :
    Lease.read world'.shared.redis.now (world.shared.redis.keys key) =
      Lease.read world.shared.redis.now (world.shared.redis.keys key) := by
  by_cases hl : ∃ ms, l = .advance ms
  · obtain ⟨ms, rfl⟩ := hl
    cases hread : Lease.read world.shared.redis.now (world.shared.redis.keys key) with
    | some lock => exact hu.live ms rfl key lock hread
    | none =>
      cases hlater : Lease.read world'.shared.redis.now (world.shared.redis.keys key) with
      | none => rfl
      | some lock =>
        cases h
        rw [Lease.read_earlier (Nat.le_add_right _ ms) hlater] at hread
        cases hread
  · rw [step_now hv h fun ms hms => hl ⟨ms, hms⟩]

theorem step_listed (hv : outline.Valid world) (h : step digests world l = some world')
    (seat : SeatName) : Listed world'.shared seat ↔ Listed world.shared seat := by
  obtain ⟨-, ⟨t, c, -, hchange⟩ | ⟨-, hquiet⟩⟩ := step_cases hv h
  · exact hchange.rows.listed seat
  · exact hquiet.rows.listed seat

/-- A command at a frame that publishes nothing: it gives up and changes nothing, or it carries
its obligation along and leaves every other seat as it is. -/
structure Carries (world : World) (t : Thread) (s' : Store) (f' : Frame) : Prop where
  channel : s'.channel = world.shared.channel
  owes : ∀ x, (world.point t).owes = some x → f'.owes = some x
  shows : ∀ seat, Listed world.shared seat →
    showing s' seat = showing world.shared seat ∨ f'.owes = some (seat, showing s' seat)

/-- A lock taken or dropped under a key shows on no seat but the one it is named for. -/
theorem lock_shows {s : Store} {redis : LockRedis} {request : HoldSeatRequest}
    {cell : Option (Lease SeatLock)} (hnow : redis.now = s.redis.now)
    (hkeys : redis.keys = Function.update s.redis.keys
      (seatLockKey request.eventId request.seatId) cell)
    (hown : seatLockKey seat.1 seat.2 = seatLockKey request.eventId request.seatId →
      seat = (request.eventId, request.seatId)) :
    showing (s.setRedis redis) seat = showing s seat ∨
      seat = (request.eventId, request.seatId) ∧
        showing (s.setRedis redis) seat = .ofHold (Lease.read s.redis.now cell) := by
  by_cases hkey : seatLockKey seat.1 seat.2 = seatLockKey request.eventId request.seatId
  · by_cases hsold : s.seats seat.2 = some ⟨seat.1, .SOLD⟩
    · left
      have hsold' : (s.setRedis redis).seats seat.2 = some ⟨seat.1, .SOLD⟩ := hsold
      unfold showing
      rw [if_pos hsold, if_pos hsold']
    · right
      refine ⟨hown hkey, ?_⟩
      have hsold' : ¬ (s.setRedis redis).seats seat.2 = some ⟨seat.1, .SOLD⟩ := hsold
      have hread : (s.setRedis redis).redis.keys (seatLockKey seat.1 seat.2) = cell := by
        simp only [Store.setRedis, hkeys, hkey, Function.update_self]
      have hnow' : (s.setRedis redis).redis.now = s.redis.now := hnow
      unfold showing
      rw [if_neg hsold', hread, hnow']
  · left
    apply showing_congr
    · rfl
    · simp only [Store.setRedis, hkeys, hnow, Function.update_of_ne hkey]

/-- A thread that takes or drops a lock owes what the seat shows from then on. -/
theorem lock_carries {t : Thread} {f' : Frame} {redis : LockRedis} {request : HoldSeatRequest}
    {cell : Option (Lease SeatLock)} (hnone : (world.point t).owes = none)
    (hnow : redis.now = world.shared.redis.now)
    (hkeys : redis.keys = Function.update world.shared.redis.keys
      (seatLockKey request.eventId request.seatId) cell)
    (hown : ∀ seat, Listed world.shared seat →
      seatLockKey seat.1 seat.2 = seatLockKey request.eventId request.seatId →
        seat = (request.eventId, request.seatId))
    (howes : f'.owes = some ((request.eventId, request.seatId),
      .ofHold (Lease.read world.shared.redis.now cell))) :
    Carries world t (world.shared.setRedis redis) f' := by
  refine ⟨rfl, fun x hx => ?_, fun seat hlisted => ?_⟩
  · rw [hnone] at hx
    cases hx
  · rcases lock_shows hnow hkeys (hown seat hlisted) with hsame | ⟨hseat, hshows⟩
    · exact .inl hsame
    · right
      rw [hshows, hseat]
      exact howes

/-- A row that is freed shows nothing else: it was not SOLD before. -/
theorem free_carries {t : Thread} {s' : Store} {f' : Frame} {request : HoldSeatRequest}
    (hfree : world.shared.freeRow request.eventId request.seatId = some s')
    (howes : ∀ x, (world.point t).owes = some x → f'.owes = some x) : Carries world t s' f' := by
  unfold Store.freeRow at hfree
  split_ifs at hfree with hrow hlock
  · cases hfree
    refine ⟨rfl, howes, fun seat _ => .inl ?_⟩
    apply showing_congr
    · exact neverSold_update hrow (by decide) (by decide : SeatState.AVAILABLE ≠ .SOLD) rfl
    · rfl
  · cases hfree
    exact ⟨rfl, howes, fun seat _ => .inl rfl⟩

/-- A booking shows on its own seat, and the thread owes it from then on. -/
theorem book_carries {t : Thread} {f' : Frame} {payload : OrderCreatedEventPayload}
    (hrow : world.shared.seats payload.seatId = some ⟨payload.eventId, .HELD⟩)
    (howes : ∀ x, (world.point t).owes = some x → f'.owes = some x)
    (hnew : f'.owes = some ((payload.eventId, payload.seatId), .booked)) :
    Carries world t
      (world.shared.bookOrder t payload.eventId payload.seatId payload.holdId) f' := by
  refine ⟨rfl, howes, fun seat hlisted => ?_⟩
  by_cases hseat : seat.2 = payload.seatId
  · right
    obtain ⟨status, hlisted⟩ := hlisted
    rw [hseat, hrow] at hlisted
    simp only [Option.some.injEq, Seat.mk.injEq] at hlisted
    have hname : seat = (payload.eventId, payload.seatId) := Prod.ext hlisted.1.symm hseat
    have hsold : showing (world.shared.bookOrder t payload.eventId payload.seatId
        payload.holdId) seat = .booked := by
      rw [hname]
      exact if_pos (Function.update_self ..)
    rw [hsold, hname]
    exact hnew
  · left
    apply showing_congr
    · simp only [Store.bookOrder, Store.abort, Store.unlock, Function.update_of_ne hseat]
    · rfl

/-- Every command that publishes nothing either gives up or carries its obligation along. -/
theorem act_carries (hv : outline.Valid world) {t : Thread} {c : Choice} {s' : Store} {f' : Frame}
    (h : Course world.shared t c (world.point t) s' f')
    (hsilent : (world.point t).announces = none)
    (hk : ∀ request, (world.point t).locking = some request → ∀ seat, Listed world.shared seat →
      seatLockKey seat.1 seat.2 = seatLockKey request.eventId request.seatId →
        seat = (request.eventId, request.seatId)) :
    Still world.shared s' ∧ f'.owes = none ∨ Carries world t s' f' := by
  have hholds := hv.2 t
  generalize hf : world.point t = f at h hsilent hk hholds
  have owesNothing (hnone : f.owes = none) (x : SeatName × Showing)
      (hx : (world.point t).owes = some x) : f'.owes = some x := by
    rw [hf, hnone] at hx
    cases hx
  cases h with
  | quit hstill hend => exact .inl ⟨hstill, givesUp_owes hend⟩
  | silent hstill hmove =>
    right
    refine ⟨hstill.channel, fun x hx => ?_, fun seat _ => .inl (hstill.showing seat)⟩
    rw [hf] at hx
    exact silent_owes hmove hx
  | take hg hfree howner hnow hkeys =>
    right
    rename_i caller request holdId redis lock
    have hfirst : f.locking = some request ∧ f.owes = none := by
      rcases hg with rfl | rfl
      · exact ⟨rfl, rfl⟩
      · exact ⟨rfl, rfl⟩
    apply lock_carries (by rw [hf]; exact hfirst.2) hnow hkeys (hk request hfirst.1)
    rw [Lease.read_fresh]
    simp only [Frame.owes, if_true, Showing.ofHold, howner.2]
  | place =>
    right
    rename_i order
    obtain ⟨-, ⟨-, hrow⟩, -⟩ := hholds
    refine ⟨rfl, fun x hx => ?_, fun seat _ => .inl ?_⟩
    · rw [hf] at hx
      exact hx
    · apply showing_congr
      · exact neverSold_update hrow (by decide) (by decide : SeatState.HELD ≠ .SOLD) rfl
      · rfl
  | announce hg =>
    rw [hsilent] at hg
    cases hg
  | unannounced hg =>
    rw [hsilent] at hg
    cases hg
  | append hstream hstill =>
    right
    exact ⟨hstill.channel, owesNothing rfl, fun seat _ => .inl (hstill.showing seat)⟩
  | drop hg hread howner hnow hkeys =>
    right
    rename_i request holdId redis lock
    have hfirst : f.locking = some request ∧ f.owes = none := by
      rcases hg with rfl | rfl
      · exact ⟨rfl, rfl⟩
      · exact ⟨rfl, rfl⟩
    apply lock_carries (by rw [hf]; exact hfirst.2) hnow hkeys (hk request hfirst.1)
    rfl
  | free hfree =>
    right
    refine free_carries hfree fun x hx => ?_
    rw [hf] at hx
    exact hx
  | book =>
    right
    obtain ⟨-, -, hrow⟩ := hholds
    exact book_carries hrow (owesNothing rfl) rfl
  | acknowledge =>
    right
    exact ⟨rfl, owesNothing rfl, fun seat _ => .inl rfl⟩

/-- Every obligation is carried along, and a seat that shows something else has a new one. -/
structure Carried (world world' : World) : Prop where
  channel : world'.shared.channel = world.shared.channel
  owes : ∀ t x, (world.point t).owes = some x → (world'.point t).owes = some x
  shows : ∀ seat, Listed world.shared seat →
    showing world'.shared seat = showing world.shared seat ∨ Owed world' seat

/-- No seat shows anything else, and the threads that have moved owe nothing. -/
structure Dropped (world world' : World) : Prop where
  channel : world'.shared.channel = world.shared.channel
  shows : ∀ seat, showing world'.shared seat = showing world.shared seat
  points : ∀ t, world'.point t = world.point t ∨ (world'.point t).owes = none

/-- The two kinds of steps that publish nothing. -/
theorem quiet_step (hv : outline.Valid world) (h : step digests world l = some world')
    (hu : Steady world l world') (hk : OwnKey world l world')
    (hsilent : ∀ t c, l = .act t c → (world.point t).announces = none) :
    Carried world world' ∨ Dropped world world' := by
  rcases step_course h with ⟨t, c, f', rfl, hcourse, hpoint⟩ | ⟨⟨hcalm, henter⟩, -⟩
  · have hself : world'.point t = f' := by
      rw [hpoint]
      exact Function.update_self ..
    have hother {u : Thread} (hne : u ≠ t) : world'.point u = world.point u := by
      rw [hpoint]
      exact Function.update_of_ne hne ..
    rcases act_carries hv hcourse (hsilent t c rfl) (fun request => hk t c request rfl) with
      ⟨hstill, hnone⟩ | hcarries
    · right
      refine ⟨hstill.channel, fun seat => hstill.showing seat, fun u => ?_⟩
      by_cases hut : u = t
      · subst hut
        right
        rw [hself]
        exact hnone
      · exact .inl (hother hut)
    · left
      refine ⟨hcarries.channel, fun u x hx => ?_, fun seat hlisted => ?_⟩
      · by_cases hut : u = t
        · subst hut
          rw [hself]
          exact hcarries.owes x hx
        · rw [hother hut]
          exact hx
      · rcases hcarries.shows seat hlisted with hsame | howes
        · exact .inl hsame
        · exact .inr ⟨t, by rw [hself]; exact howes⟩
  · right
    refine ⟨hcalm.channel, fun seat => ?_, fun t => ?_⟩
    · apply showing_congr
      · rw [hcalm.seats]
      · rw [hcalm.keys]
        exact reads_kept hv h hu _
    · rcases henter t with hsame | hentering
      · exact .inl hsame
      · exact .inr (entering_owes hentering)

theorem upToDate_carried (hlisted : ∀ seat, Listed world'.shared seat ↔ Listed world.shared seat)
    (hc : UpToDate world) (h : Carried world world') : UpToDate world' := by
  intro seat hseat
  have hseat := (hlisted seat).mp hseat
  rcases h.shows seat hseat with hsame | howed
  · rw [h.channel, hsame]
    rcases hc seat hseat with hnone | hright | ⟨t, ht⟩
    · exact .inl hnone
    · exact .inr (.inl hright)
    · refine .inr (.inr ⟨t, ?_⟩)
      rw [hsame]
      exact h.owes t _ ht
  · exact .inr (.inr howed)

theorem upToDate_dropped (hlisted : ∀ seat, Listed world'.shared seat ↔ Listed world.shared seat)
    (hc : UpToDate world) (h : Dropped world world') :
    UpToDate world' ↔ ∀ t seat, Listed world.shared seat →
      (world.point t).owes = some (seat, showing world.shared seat) →
        (world'.point t).owes = none →
          lastShown world.shared.channel seat = none ∨
            lastShown world.shared.channel seat = some (showing world.shared seat) ∨
            ∃ u, world'.point u = world.point u ∧
              (world.point u).owes = some (seat, showing world.shared seat) := by
  constructor
  · intro hupToDate t seat hseat _ _
    have hthen := hupToDate seat ((hlisted seat).mpr hseat)
    rw [h.channel, h.shows seat] at hthen
    rcases hthen with hnone | hright | ⟨u, hu⟩
    · exact .inl hnone
    · exact .inr (.inl hright)
    · rw [h.shows seat] at hu
      rcases h.points u with hsame | hends
      · rw [hsame] at hu
        exact .inr (.inr ⟨u, hsame, hu⟩)
      · rw [hends] at hu
        cases hu
  · intro hkept seat hseat
    have hseat := (hlisted seat).mp hseat
    have still {u : Thread} (hsame : world'.point u = world.point u)
        (hu : (world.point u).owes = some (seat, showing world.shared seat)) :
        Owed world' seat := by
      refine ⟨u, ?_⟩
      rw [hsame, h.shows seat]
      exact hu
    rw [h.channel, h.shows seat]
    rcases hc seat hseat with hnone | hright | ⟨t, ht⟩
    · exact .inl hnone
    · exact .inr (.inl hright)
    · rcases h.points t with hsame | hends
      · exact .inr (.inr (still hsame ht))
      · rcases hkept t seat hseat ht hends with hnone | hright | ⟨u, hsame, hu⟩
        · exact .inl hnone
        · exact .inr (.inl hright)
        · exact .inr (.inr (still hsame hu))

/-- The thread `t` has published the event of `payload` and gone on. -/
structure Announced (world : World) (t : Thread) (payload : SeatEventPayload)
    (world' : World) : Prop where
  owes : (world.point t).owes = some (payload.seat, payload.showing)
  done : (world'.point t).owes = none
  points : ∀ u, u ≠ t → world'.point u = world.point u
  shows : ∀ seat, showing world'.shared seat = showing world.shared seat
  last : ∀ seat, lastShown world'.shared.channel seat =
    if payload.seat = seat then some payload.showing else lastShown world.shared.channel seat

theorem announce_step {t : Thread} {c : Choice} {payload : SeatEventPayload} {g : Frame}
    (h : step digests world (.act t c) = some world')
    (hu : Steady world (.act t c) world')
    (hg : (world.point t).announces = some (payload, g)) :
    Announced world t payload world' := by
  have hloop : (world.point t).looping = false := by
    cases hp : world.point t with
    | createGroup _ | poll | claim _ | read _ _ | batch _ _ =>
      rw [hp] at hg
      cases hg
    | _ => rfl
  obtain ⟨p, hp, rfl⟩ := act_step h rfl hloop
  cases c with
  | fail message =>
    have hnone := hu.published t message rfl
    rw [hg] at hnone
    cases hnone
  | ok id =>
    obtain ⟨hf', event, hpayload, hchannel, hstill⟩ := announce_act hg hp
    obtain ⟨howes, hdone⟩ := announces_owes hg
    refine ⟨howes, ?_, fun u hut => Function.update_of_ne hut .., fun seat => ?_, fun seat => ?_⟩
    · simp only [Function.update_self, hf']
      exact hdone
    · exact hstill.showing seat
    · simp only [hchannel, lastShown_append, hpayload]

theorem upToDate_announced {t : Thread} {payload : SeatEventPayload}
    (hlisted : ∀ seat, Listed world'.shared seat ↔ Listed world.shared seat)
    (hc : UpToDate world) (h : Announced world t payload world') :
    UpToDate world' ↔ (Listed world.shared payload.seat →
      payload.showing = showing world.shared payload.seat ∨
        ∃ u, u ≠ t ∧
          (world.point u).owes = some (payload.seat, showing world.shared payload.seat)) := by
  have still {u : Thread} {seat : SeatName} (hut : u ≠ t)
      (hu : (world.point u).owes = some (seat, showing world.shared seat)) :
      Owed world' seat := by
    refine ⟨u, ?_⟩
    rw [h.points u hut, h.shows seat]
    exact hu
  constructor
  · intro hupToDate hseat
    have hthen := hupToDate payload.seat ((hlisted payload.seat).mpr hseat)
    rw [h.last, if_pos rfl, h.shows] at hthen
    rcases hthen with hnone | hright | ⟨u, hu⟩
    · cases hnone
    · exact .inl (Option.some.inj hright)
    · right
      have hut : u ≠ t := by
        intro heq
        rw [heq, h.done] at hu
        cases hu
      rw [h.points u hut, h.shows] at hu
      exact ⟨u, hut, hu⟩
  · intro hcurrent seat hseat
    have hseat := (hlisted seat).mp hseat
    rw [h.last, h.shows]
    by_cases hname : payload.seat = seat
    · subst hname
      rw [if_pos rfl]
      rcases hcurrent hseat with hright | ⟨u, hut, hu⟩
      · exact .inr (.inl (congrArg some hright))
      · exact .inr (.inr (still hut hu))
    · rw [if_neg hname]
      rcases hc seat hseat with hnone | hright | ⟨u, hu⟩
      · exact .inl hnone
      · exact .inr (.inl hright)
      · have hut : u ≠ t := by
          intro heq
          rw [heq, h.owes] at hu
          exact hname (congrArg Prod.fst (Option.some.inj hu))
        exact .inr (.inr (still hut hu))

/-- A step keeps every seat up to date exactly when it is in order. -/
theorem upToDate_step (hv : outline.Valid world) (hc : UpToDate world)
    (h : step digests world l = some world') (hu : Steady world l world')
    (hk : OwnKey world l world') : UpToDate world' ↔ InOrder world l world' := by
  have hlisted := step_listed hv h
  by_cases hsilent : ∀ t c, l = .act t c → (world.point t).announces = none
  · have hcurrent {t : Thread} {c : Choice} {payload : SeatEventPayload} {f : Frame}
        (hl : l = .act t c) (hf : (world.point t).announces = some (payload, f)) : False := by
      rw [hsilent t c hl] at hf
      cases hf
    rcases quiet_step hv h hu hk hsilent with hcarried | hdropped
    · refine iff_of_true (upToDate_carried hlisted hc hcarried) ⟨?_, ?_⟩
      · intro t c payload f hl hf
        exact (hcurrent hl hf).elim
      · intro t seat _ ht hends
        rw [hcarried.owes t _ ht] at hends
        cases hends
    · rw [upToDate_dropped hlisted hc hdropped]
      constructor
      · intro hkept
        exact ⟨fun t c payload f hl hf => (hcurrent hl hf).elim,
          fun t seat hseat ht hends _ => hkept t seat hseat ht hends⟩
      · intro hin t seat hseat ht hends
        exact hin.kept t seat hseat ht hends fun c hl => hsilent t c hl
  · simp only [not_forall] at hsilent
    obtain ⟨t, c, rfl, hann⟩ := hsilent
    obtain ⟨⟨payload, g⟩, hg⟩ := Option.ne_none_iff_exists'.mp hann
    have hannounced := announce_step h hu hg
    rw [upToDate_announced hlisted hc hannounced]
    constructor
    · intro hcurrent
      refine ⟨?_, ?_⟩
      · intro u d payload' f hl hf
        cases hl
        rw [hg] at hf
        cases hf
        exact hcurrent
      · intro u seat _ ht hends hother
        by_cases hut : u = t
        · subst hut
          rw [hother c rfl] at hg
          cases hg
        · rw [hannounced.points u hut, ht] at hends
          cases hends
    · intro hin
      exact hin.current t c payload g rfl hg

end Step

theorem upToDate_converged {world : World} (hc : UpToDate world) (hq : Quiescent world) :
    Converged world := by
  intro seat shown hseat hlast
  rcases hc seat hseat with hnone | hright | ⟨t, ht⟩
  · rw [hnone] at hlast
    cases hlast
  · rw [hright] at hlast
    exact (Option.some.inj hlast).symm
  · have hflight := owes_inFlight ht
    rw [hq t] at hflight
    cases hflight

/-- On runs where no publish fails, no hold expires and no two seats share a lock, every seat
stays up to date exactly as long as the events come in order, and then the last event of every seat
is right whenever no operation is in flight. -/
theorem broadcasts_converge {digests : ScriptDigests} {start : World} {ls : List Label}
    (hinit : Initial start) (hchannel : start.shared.channel = [])
    (hu : (engine digests).Along Steady start ls)
    (hk : (engine digests).Along OwnKey start ls) :
    ((engine digests).Every UpToDate start ls ↔ (engine digests).Along InOrder start ls) ∧
      ((engine digests).Along InOrder start ls →
        (engine digests).Every (fun world => Quiescent world → Converged world) start ls) := by
  have hupToDate : UpToDate start := by
    intro seat _
    left
    rw [hchannel]
    rfl
  have hiff : (engine digests).Every UpToDate start ls ↔
      (engine digests).Along InOrder start ls :=
    Machine.every_iff_along_within _
      (fun world l world' hv h _ => valid_step digests world l world' hv h)
      (fun world l world' hv hc h hd => upToDate_step hv hc h hd.1 hd.2)
      (initial_valid hinit) hupToDate (hu.and _ hk)
  exact ⟨hiff, fun hin => (hiff.mpr hin).mono _ fun world hc => upToDate_converged hc⟩

/-! ## Releases that are announced late -/

/-- The call that a label begins or lets act. -/
def Label.caller : Label → Option Nat
  | .holdSeat n _ | .createOrder n _ | .releaseSeat n _ _ | .act (.call n) _ => some n
  | _ => none

theorem caller_step {digests : ScriptDigests} {world world' : World} {l : Label} {n : Nat}
    (hl : l.caller = some n) (h : step digests world l = some world') {t : Thread}
    (ht : t ≠ .call n) : world'.point t = world.point t := by
  have entered {f : Frame} (h : enter world (.call n) f = some world') :
      world'.point t = world.point t := by
    rcases enter_point (u := t) h with hsame | ⟨hcall, -⟩
    · exact hsame
    · exact absurd hcall ht
  cases l with
  | holdSeat m payload | createOrder m payload | releaseSeat m payload holdId =>
    cases hl
    exact entered h
  | act u c =>
    cases u with
    | call m =>
      cases hl
      obtain ⟨p, -, rfl⟩ := Option.map_eq_some_iff.mp h
      exact Function.update_of_ne ht ..
    | worker w | task w i => cases hl
  | _ => cases hl

/-- Threads other than the callers never begin. -/
theorem callers_run {digests : ScriptDigests} {start world : World} {ls : List Label}
    (hinit : Initial start) (ns : List Nat) (hls : ∀ l ∈ ls, ∃ n ∈ ns, l.caller = some n)
    (hrun : (engine digests).run start ls = some world) {t : Thread}
    (ht : ∀ n ∈ ns, t ≠ .call n) : world.point t = .idle := by
  have hevery : (engine digests).Every
      (fun world => ∀ t, (∀ n ∈ ns, t ≠ .call n) → world.point t = .idle) start ls := by
    refine Machine.every_of_along _ (C := fun _ l _ => ∃ n ∈ ns, l.caller = some n) ?_
      (fun t _ => hinit.idle t) (Machine.along_of_forall _ _ hls)
    intro world l world' hidle hstep ⟨n, hn, hl⟩ t ht
    rw [caller_step hl hstep (ht n hn)]
    exact hidle t ht
  exact hevery.last _ hrun t ht

theorem callers_quiescent {digests : ScriptDigests} {start world : World} {ls : List Label}
    (hinit : Initial start) (ns : List Nat) (hls : ∀ l ∈ ls, ∃ n ∈ ns, l.caller = some n)
    (hrun : (engine digests).run start ls = some world)
    (hended : ∀ n ∈ ns, (world.point (.call n)).inFlight = false) : Quiescent world := by
  intro t
  by_cases ht : ∃ n ∈ ns, t = .call n
  · obtain ⟨n, hn, rfl⟩ := ht
    exact hended n hn
  · have hidle := callers_run hinit ns hls hrun fun n hn heq => ht ⟨n, hn, heq⟩
    rw [hidle]
    rfl

/-- Neither time nor a failing command. -/
def Label.smooth : Label → Bool
  | .advance _ | .act _ (.fail _) => false
  | _ => true

theorem smooth_steady {digests : ScriptDigests} {start : World} {ls : List Label}
    (h : ∀ l ∈ ls, l.smooth = true) : (engine digests).Along Steady start ls := by
  refine (Machine.along_of_forall _ start h).mono _ ?_
  intro world l world' hl
  refine ⟨?_, ?_⟩
  · rintro t message rfl
    cases hl
  · rintro ms rfl
    cases hl

def LocksOnly (seat : SeatName) (world : World) (l : Label) (_ : World) : Prop :=
  match l with
  | .act t _ => ∀ request ∈ (world.point t).locking, (request.eventId, request.seatId) = seat
  | _ => True

instance (seat : SeatName) (world : World) (l : Label) (world' : World) :
    Decidable (LocksOnly seat world l world') := by
  unfold LocksOnly
  split <;> infer_instance

/-- Where the table has one seat, a run that locks no other key keeps to the seat's own. -/
theorem locksOnly_ownKey {digests : ScriptDigests} {start : World} {ls : List Label}
    (hinit : Initial start) {seat : SeatName}
    (honly : ∀ other, Listed start.shared other → other = seat)
    (h : (engine digests).Along (LocksOnly seat) start ls) :
    (engine digests).Every (fun world => ∀ other, Listed world.shared other → other = seat)
        start ls ∧
      (engine digests).Along OwnKey start ls := by
  have hevery : (engine digests).Every
      (fun world => ∀ other, Listed world.shared other → other = seat) start ls := by
    refine (Machine.every_of_invariant _
      (I := fun world => outline.Valid world ∧ ∀ other, Listed world.shared other → other = seat)
      ?_ ls ⟨initial_valid hinit, honly⟩).mono _ fun world hworld => hworld.2
    intro world l world' ⟨hv, honly⟩ hstep
    exact ⟨valid_step digests world l world' hv hstep,
      fun other hother => honly other ((step_listed hv hstep other).mp hother)⟩
  refine ⟨hevery, (hevery.along.and _ h).mono _ ?_⟩
  rintro world l world' ⟨⟨honly, -⟩, hlocks⟩ t c request rfl hlocking other hother -
  rw [honly other hother]
  exact (hlocks request hlocking).symm

theorem oneSeat_only {seat : SeatName} (h : Listed oneSeat.shared seat) : seat = ("e", "s") := by
  obtain ⟨status, hrow⟩ := h
  simp only [oneSeat] at hrow
  split_ifs at hrow with hid
  · simp only [Option.some.injEq, Seat.mk.injEq] at hrow
    exact Prod.ext hrow.1.symm hid

/-- What is known of the one seat, and which of some calls are in flight. -/
def seatReport (ns : List Nat) (world : World) :
    (Option Seat × Option Showing × Showing) × List Bool :=
  ((world.shared.seats "s", lastShown world.shared.channel ("e", "s"),
    showing world.shared ("e", "s")), ns.map fun n => (world.point (.call n)).inFlight)

/-- `u` holds the seat and lets it go, and the release is announced only after `v` has taken the
seat and that has been announced. -/
def lateRelease : List Label :=
  [.holdSeat 0 (requestOf "u")] ++ acts (.call 0) ["h1", "", "", "u-held"] ++
    [.releaseSeat 1 (requestOf "u") "h1"] ++ acts (.call 1) ["", "", "", ""] ++
    [.holdSeat 2 (requestOf "v")] ++ acts (.call 2) ["h2", "", "", "v-held"] ++
    acts (.call 1) ["u-released"]

/-- The last event of the seat says that it is free, while `v` holds it. -/
theorem broadcasts_converge_fails_lateRelease :
    ∃ world, (engine fun _ => true).run oneSeat lateRelease = some world ∧
      (engine fun _ => true).Along Steady oneSeat lateRelease ∧
      Quiescent world ∧ ¬ Converged world := by
  have hreport : ((engine fun _ => true).run oneSeat lateRelease).map (seatReport [0, 1, 2]) =
      some ((some ⟨"e", .AVAILABLE⟩, some .released, .held "h2"), [false, false, false]) := by
    decide +kernel
  obtain ⟨world, hrun, hreport⟩ := Option.map_eq_some_iff.mp hreport
  obtain ⟨hseat, hended⟩ := Prod.mk.inj hreport
  obtain ⟨hrow, hseat⟩ := Prod.mk.inj hseat
  obtain ⟨hlast, hshowing⟩ := Prod.mk.inj hseat
  refine ⟨world, hrun, smooth_steady (by decide), ?_, ?_⟩
  · apply callers_quiescent oneSeat_initial [0, 1, 2] (by decide) hrun
    simpa using hended
  · intro hconverged
    have hright := hconverged ("e", "s") .released ⟨_, hrow⟩ hlast
    rw [hshowing] at hright
    cases hright

/-- The same operations, with the release announced in time. -/
def promptRelease : List Label :=
  [.holdSeat 0 (requestOf "u")] ++ acts (.call 0) ["h1", "", "", "u-held"] ++
    [.releaseSeat 1 (requestOf "u") "h1"] ++ acts (.call 1) ["", "", "", "", "u-released"] ++
    [.holdSeat 2 (requestOf "v")] ++ acts (.call 2) ["h2", "", "", "v-held"]

/-- The one seat is up to date, by one of some calls if its last event is not right. -/
def UpToDateBy (ns : List Nat) (world : World) : Prop :=
  lastShown world.shared.channel ("e", "s") = none ∨
    lastShown world.shared.channel ("e", "s") = some (showing world.shared ("e", "s")) ∨
    ∃ n ∈ ns, (world.point (.call n)).owes = some (("e", "s"), showing world.shared ("e", "s"))

instance (ns : List Nat) : DecidablePred (UpToDateBy ns) := fun world => by
  unfold UpToDateBy
  infer_instance

theorem broadcasts_converge_promptRelease :
    (engine fun _ => true).Along InOrder oneSeat promptRelease ∧
      ∃ world, (engine fun _ => true).run oneSeat promptRelease = some world ∧
        Quiescent world ∧ Converged world ∧
        lastShown world.shared.channel ("e", "s") = some (.held "h2") := by
  have hreport : ((engine fun _ => true).run oneSeat promptRelease).map (seatReport [0, 1, 2]) =
      some ((some ⟨"e", .AVAILABLE⟩, some (.held "h2"), .held "h2"), [false, false, false]) := by
    decide +kernel
  obtain ⟨world, hrun, hreport⟩ := Option.map_eq_some_iff.mp hreport
  obtain ⟨hseat, hended⟩ := Prod.mk.inj hreport
  obtain ⟨-, hseat⟩ := Prod.mk.inj hseat
  have hsteady : (engine fun _ => true).Along Steady oneSeat promptRelease :=
    smooth_steady (by decide)
  have hlocks : (engine fun _ => true).Along (LocksOnly ("e", "s")) oneSeat promptRelease := by
    decide +kernel
  obtain ⟨honly, hownKey⟩ := locksOnly_ownKey oneSeat_initial (fun _ => oneSeat_only) hlocks
  obtain ⟨hiff, hconverge⟩ :=
    broadcasts_converge oneSeat_initial rfl hsteady hownKey
  have hupToDateBy : (engine fun _ => true).Every (UpToDateBy [0, 1, 2]) oneSeat promptRelease := by
    decide +kernel
  have hupToDate : (engine fun _ => true).Every UpToDate oneSeat promptRelease := by
    refine (honly.and _ hupToDateBy).mono _ fun world ⟨honly, hupToDate⟩ seat hseat => ?_
    rw [honly seat hseat]
    rcases hupToDate with hnone | hright | ⟨n, -, hn⟩
    · exact .inl hnone
    · exact .inr (.inl hright)
    · exact .inr (.inr ⟨.call n, hn⟩)
  have hinOrder := hiff.mp hupToDate
  have hquiescent : Quiescent world := by
    apply callers_quiescent oneSeat_initial [0, 1, 2] (by decide) hrun
    simpa using hended
  exact ⟨hinOrder, world, hrun, hquiescent, (hconverge hinOrder).last _ hrun hquiescent,
    (Prod.mk.inj hseat).1⟩

end TicketEngine
