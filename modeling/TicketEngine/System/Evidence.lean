import TicketEngine.System.DoubleBooking
import TicketEngine.System.EventOrder

namespace TicketEngine

/-- A hold that Redis has granted, or freed for its owner. -/
inductive LockReply
  | granted (eventId seatId holdId : String)
  | freed (eventId seatId holdId : String)
  deriving DecidableEq

/-- The reply that a call is about to look at, where it is 1. -/
def Frame.lockReply : Frame → Option LockReply
  | .holdReply _ request holdId result =>
    if result = 1 then some (.granted request.eventId request.seatId holdId) else none
  | .releaseReply request holdId result =>
    if result = 1 then some (.freed request.eventId request.seatId holdId) else none
  | _ => none

/-- The reply that a step brings. -/
def World.lockReply (digests : ScriptDigests) (world : World) : Label → Option LockReply
  | .act t c => (step digests world (.act t c)).bind fun world' => (world'.point t).lockReply
  | _ => none

/-- The granted and freed holds of a run, oldest first. -/
def lockReplies (digests : ScriptDigests) (world : World) (ls : List Label) : List LockReply :=
  (engine digests).trace (World.lockReply digests) world ls

/-- The reply that a call has had and acts on. -/
def Frame.earned : Frame → Option LockReply
  | .publishHold record => some (.granted record.eventId record.seatId record.holdId)
  | .lockSeat request execution | .createRow request execution =>
    some (.granted request.eventId request.seatId execution.holdId)
  | .commitOrder order | .publishHeld order =>
    some (.granted order.eventId order.seatId order.holdId)
  | .freeRow request holdId | .publishReleased request holdId =>
    some (.freed request.eventId request.seatId holdId)
  | f => f.lockReply

/-- What a seat event says is so: the hold was granted or freed, the seat is sold to the order. -/
def Truthful (s : Store) (replies : List LockReply) : SeatEventPayload → Prop
  | .held eventId seatId holdId _ _ => .granted eventId seatId holdId ∈ replies
  | .booked eventId seatId orderId =>
    s.seats seatId = some ⟨eventId, .SOLD⟩ ∧
      ∃ order, BookedOn s seatId order ∧ order.id = orderId ∧ order.eventId = eventId
  | .released eventId seatId holdId _ => .freed eventId seatId holdId ∈ replies

section Course

variable {s s' : Store} {t : Thread} {c : Choice} {f f' : Frame} {reply : LockReply}

theorem silent_earned (h : Silent s f f') (he : f'.earned = some reply) :
    f.earned = some reply := by
  cases h with
  | hold_seat hrecord =>
    obtain ⟨heventId, hseatId, hholdId⟩ := hrecord
    simpa [Frame.earned, Frame.lockReply, heventId, hseatId, hholdId] using he
  | create_order hexecution =>
    simpa [Frame.earned, Frame.lockReply, hexecution] using he
  | create_row horder =>
    obtain ⟨heventId, hseatId, hholdId⟩ := horder
    simpa [Frame.earned, heventId, hseatId, hholdId] using he
  | lock_seat => exact he
  | release_seat => simpa [Frame.earned, Frame.lockReply] using he
  | hold_lost hf hcode => simp [Frame.earned, Frame.lockReply, hcode] at he
  | release_lost hf hcode => simp [Frame.earned, Frame.lockReply, hcode] at he
  | find_event | hold_fallback | find_order | release_fallback => cases he
  | read_message | find_booked | find_unbooked | sell_row | book_row => cases he

theorem announces_unearned {payload : SeatEventPayload} (h : f.announces = some (payload, f')) :
    f'.earned = none := by
  rcases announces_next h with ⟨_, rfl⟩ | ⟨_, rfl⟩ | ⟨_, rfl⟩ | ⟨_, _, rfl⟩
  · rfl
  · rfl
  · rfl
  · rfl

/-- A call acts on a reply that it has had, up to its announcement. -/
theorem course_earned (h : Course s t c f s' f') (he : f'.earned = some reply) :
    f.earned = some reply ∨ f'.lockReply = some reply := by
  cases h with
  | quit hstill hend =>
    cases hend with
    | reject | refuse | leave => cases he
  | silent hstill hmove => exact .inl (silent_earned hmove he)
  | take hf => exact .inr he
  | drop hf => exact .inr he
  | place => exact .inl he
  | free hfree => exact .inl he
  | announce hf =>
    rw [announces_unearned hf] at he
    cases he
  | unannounced hf =>
    rw [announces_unearned hf] at he
    cases he
  | append | book | acknowledge => cases he

theorem entering_earned {l : Label} (h : f.Entering l) : f.earned = none := by
  cases f with
  | idle | findEvent | rejected | findOrder | readMessage => rfl
  | createGroup | poll | claim | read | batch | drained | stopped => rfl
  | _ => cases h

end Course

/-- Each call has had the reply it acts on, and each event published since is true. -/
structure Evidence (old : List WebSocketSeatEvent) (world : World) (replies : List LockReply) :
    Prop where
  valid : outline.Valid world
  earned : ∀ {t reply}, (world.point t).earned = some reply → reply ∈ replies
  truthful : ∃ published, world.shared.channel = old ++ published ∧
    ∀ event ∈ published, Truthful world.shared replies event.payload

section Step

variable {digests : ScriptDigests} {world world' : World} {l : Label} {replies : List LockReply}

theorem earned_step (h : step digests world l = some world') {t : Thread} {reply : LockReply}
    (he : (world'.point t).earned = some reply) :
    (world.point t).earned = some reply ∨ world.lockReply digests l = some reply := by
  rcases step_course h with ⟨u, c, f', rfl, hcourse, hpoint⟩ | ⟨⟨-, henters⟩, -⟩
  · by_cases ht : t = u
    · subst ht
      have hnext : world'.point t = f' := by rw [hpoint, Function.update_self]
      rw [hnext] at he
      rcases course_earned hcourse he with hearned | hreply
      · exact .inl hearned
      · right
        show (step digests world (.act t c)).bind _ = some reply
        rw [h, Option.bind_some, hnext]
        exact hreply
    · rw [hpoint, Function.update_of_ne ht] at he
      exact .inl he
  · rcases henters t with hkept | hentering
    · rw [hkept] at he
      exact .inl he
    · rw [entering_earned hentering] at he
      cases he

/-- What is announced is true. -/
theorem announces_truthful (hv : outline.Valid world) {t : Thread} {f' : Frame}
    {payload : SeatEventPayload} (hf : (world.point t).announces = some (payload, f'))
    (he : ∀ {reply}, (world.point t).earned = some reply → reply ∈ replies) :
    Truthful world.shared replies payload := by
  cases hpoint : world.point t with
  | publishHold record =>
    rw [hpoint] at hf he
    cases hf
    exact he rfl
  | publishHeld order =>
    rw [hpoint] at hf he
    cases hf
    exact he rfl
  | publishReleased request holdId =>
    rw [hpoint] at hf he
    cases hf
    exact he rfl
  | publishBooked message payload =>
    rw [hpoint] at hf
    cases hf
    have hholds := hv.2 t
    rw [hpoint] at hholds
    obtain ⟨hdelivered, booked, hrow, hstatus⟩ := hholds
    obtain ⟨order, horder, hid, hevent, hseat, -⟩ := hv.1.placed hdelivered
    have hsame : booked = order := by
      rw [hrow] at horder
      exact Option.some.inj horder
    subst hsame
    have hkey : booked.holdId = payload.holdId := world.shared.orders.keyed hrow
    have hbooked : BookedOn world.shared payload.seatId booked := by
      refine ⟨?_, hseat, hstatus⟩
      rw [hkey]
      exact hrow
    refine ⟨?_, booked, hbooked, hid, hevent⟩
    rw [bookedOn_sold hv.1 hbooked, hevent]
  | _ =>
    rw [hpoint] at hf
    cases hf

/-- What has been true of a seat event stays so. -/
theorem truthful_step {payload : SeatEventPayload} {more : List LockReply}
    (hv : outline.Valid world) (h : step digests world l = some world')
    (htrue : Truthful world.shared replies payload) :
    Truthful world'.shared (replies ++ more) payload := by
  cases payload with
  | held eventId seatId holdId expiresAt userId => exact List.mem_append_left more htrue
  | released eventId seatId holdId reason => exact List.mem_append_left more htrue
  | booked eventId seatId orderId =>
    obtain ⟨-, order, hbooked, hid, hevent⟩ := htrue
    have hkept : BookedOn world'.shared seatId order :=
      reach_bookedOn hv hbooked (Machine.Reach.single (engine digests) h)
    have hv' : outline.Valid world' := valid_step digests world l world' hv h
    refine ⟨?_, order, hkept, hid, hevent⟩
    rw [bookedOn_sold hv'.1 hkept, hevent]

theorem evidence_step {old : List WebSocketSeatEvent} (he : Evidence old world replies)
    (h : step digests world l = some world') :
    Evidence old world' (replies ++ (world.lockReply digests l).toList) := by
  obtain ⟨published, hchannel, htruthful⟩ := he.truthful
  refine ⟨valid_step digests world l world' he.valid h, ?_, ?_⟩
  · intro t reply hearned
    rcases earned_step h hearned with hbefore | hnow
    · exact List.mem_append_left _ (he.earned hbefore)
    · rw [hnow]
      exact List.mem_append_right _ List.mem_cons_self
  · rcases channel_step h with hsame | ⟨t, event, f', hf, hnew⟩
    · refine ⟨published, hsame.trans hchannel, fun event hevent => ?_⟩
      exact truthful_step he.valid h (htruthful event hevent)
    · refine ⟨published ++ [event], ?_, fun other hother => ?_⟩
      · rw [hnew, hchannel, List.append_assoc]
      · apply truthful_step he.valid h
        rcases List.mem_append.mp hother with hold | hlast
        · exact htruthful other hold
        · rw [List.mem_singleton.mp hlast]
          exact announces_truthful he.valid hf he.earned

theorem initial_evidence (hinit : Initial world) :
    Evidence world.shared.channel world [] := by
  refine ⟨initial_valid hinit, ?_, [], (List.append_nil _).symm, ?_⟩
  · intro t reply hearned
    rw [hinit.idle t] at hearned
    cases hearned
  · intro event hevent
    cases hevent

/-- Whatever a run publishes is true, then and ever after. -/
theorem run_evidence {ls : List Label} (hinit : Initial world)
    (hrun : (engine digests).run world ls = some world') :
    Evidence world.shared.channel world' (lockReplies digests world ls) := by
  have hkept (w : World) (l : Label) (w' : World) (replies : List LockReply)
      (he : Evidence world.shared.channel w replies) (hstep : step digests w l = some w') :
      Evidence world.shared.channel w' (replies ++ (w.lockReply digests l).toList) :=
    evidence_step he hstep
  exact Machine.run_trace_invariant hkept (initial_evidence hinit) hrun

end Step

end TicketEngine
