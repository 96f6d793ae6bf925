import TicketEngine.System.Course
import TicketEngine.System.SeatClaim

namespace TicketEngine

/-! ## What clients know -/

/-- The hold identifiers in a broadcast. -/
def SeatEventPayload.holdIds : SeatEventPayload → List String
  | .held _ _ holdId _ _ => [holdId]
  | .booked _ _ _ => []
  | .released _ _ holdId _ => [holdId]

/-- The hold identifiers in the response a call ends with. -/
def Frame.holdIds : Frame → List String
  | .held (.success record) => [record.holdId]
  | .released response => [response.holdId]
  | _ => []

/-- The system with the hold identifiers its responses have carried. -/
structure ClientWorld where
  world : World
  answered : List String

namespace ClientWorld

/-- A response or a broadcast has carried the identifier. -/
def Disclosed (w : ClientWorld) (holdId : String) : Prop :=
  holdId ∈ w.answered ∨ holdId ∈ w.world.shared.channel.flatMap fun e => e.payload.holdIds

instance (w : ClientWorld) (holdId : String) : Decidable (w.Disclosed holdId) :=
  inferInstanceAs (Decidable (_ ∨ _))

/-- Clients name only holds that have been disclosed to them. -/
def permits (w : ClientWorld) : Label → Bool
  | .releaseSeat _ _ holdId => decide (w.Disclosed holdId)
  | _ => true

/-- The response that a step has sent. -/
def answeredBy (world : World) : Label → List String
  | .act (.call n) _ => (world.point (.call n)).holdIds
  | _ => []

def step (digests : ScriptDigests) (w : ClientWorld) (l : Label) : Option ClientWorld :=
  if w.permits l then
    (TicketEngine.step digests w.world l).map fun world => ⟨world, w.answered ++ answeredBy world l⟩
  else none

end ClientWorld

def clients (digests : ScriptDigests) : Machine ClientWorld Label where
  step := ClientWorld.step digests

/-- Before the first call. What clients know already was drawn earlier. -/
structure ClientWorld.Initial (w : ClientWorld) : Prop where
  world : TicketEngine.Initial w.world
  drawn : ∀ holdId, w.Disclosed holdId → ∃ t, w.world.shared.drawn holdId = some t

/-- The hold a createOrder call has asked for, from its draw to its end. -/
def Frame.ordering : Frame → Option String
  | .evalshaHold .createOrder _ holdId | .evalHold .createOrder _ holdId => some holdId
  | .holdReply .createOrder _ holdId _ => some holdId
  | .lockSeat _ execution | .createRow _ execution => some execution.holdId
  | .commitOrder order | .publishHeld order | .appendEvent order => some order.holdId
  | _ => none

/-- The hold belongs to an order or to a createOrder call in progress. -/
def BelongsToOrder (world : World) (holdId : String) : Prop :=
  (∃ o, world.shared.orders.row holdId = some o) ∨
    ∃ t, (world.point t).ordering = some holdId

/-- The step takes no order's hold away before its time. -/
def KeepsOrderHolds (w : ClientWorld) (_ : Label) (w' : ClientWorld) : Prop :=
  ∀ key cell, w.world.shared.redis.keys key = some cell →
    BelongsToOrder w.world cell.value.holdId →
    w'.world.shared.redis.keys key = some cell ∨ cell.deadline < w.world.shared.redis.now

/-! ## Secrets -/

/-- The hold of a createOrder call that has not committed its order. -/
def Frame.secret : Frame → Option String
  | .evalshaHold .createOrder _ holdId | .evalHold .createOrder _ holdId => some holdId
  | .holdReply .createOrder _ holdId _ => some holdId
  | .lockSeat _ execution | .createRow _ execution => some execution.holdId
  | .commitOrder order => some order.holdId
  | _ => none

/-- The hold a release call has been asked to release. -/
def Frame.releasing : Frame → Option String
  | .findOrder _ holdId | .evalshaRelease _ holdId | .evalRelease _ holdId => some holdId
  | .releaseReply _ holdId _ | .freeRow _ holdId | .publishReleased _ holdId => some holdId
  | _ => none

/-- The hold that the end of the frame's publication discloses. -/
def Frame.telling : Frame → Option String
  | .publishHold record => some record.holdId
  | .publishHeld order => some order.holdId
  | .publishReleased _ holdId => some holdId
  | _ => none

/-- What a thread may rely on about the knowledge of clients. -/
structure Frame.Discreet (w : ClientWorld) (t : Thread) (f : Frame) : Prop where
  secret : ∀ holdId, f.secret = some holdId → ¬ w.Disclosed holdId
  own : ∀ record, f = .publishHold record → w.world.shared.drawn record.holdId = some t
  known : ∀ holdId, f.releasing = some holdId → w.Disclosed holdId
  unordered : ∀ request holdId,
    f = .evalshaRelease request holdId ∨ f = .evalRelease request holdId →
      w.world.shared.orders.row holdId = none

structure Secrecy (w : ClientWorld) : Prop where
  valid : outline.Valid w.world
  drawn : ∀ holdId, w.Disclosed holdId → ∃ t, w.world.shared.drawn holdId = some t
  discreet : ∀ t, (w.world.point t).Discreet w t

theorem Frame.Discreet.of_plain {w : ClientWorld} {t : Thread} {f : Frame}
    (hsecret : f.secret = none) (hown : ∀ record, f ≠ .publishHold record)
    (hreleasing : f.releasing = none) : f.Discreet w t := by
  refine ⟨?_, ?_, ?_, ?_⟩
  · intro holdId h
    rw [hsecret] at h
    cases h
  · intro record h
    exact absurd h (hown record)
  · intro holdId h
    rw [hreleasing] at h
    cases h
  · intro request holdId h
    rcases h with rfl | rfl
    · cases hreleasing
    · cases hreleasing

theorem initial_secrecy {w : ClientWorld} (h : w.Initial) : Secrecy w := by
  refine ⟨initial_valid h.world, h.drawn, fun t => ?_⟩
  rw [h.world.idle t]
  exact .of_plain rfl (by simp) rfl

section Step

variable {digests : ScriptDigests} {w w' : ClientWorld} {l : Label}

theorem client_step (h : (clients digests).step w l = some w') :
    w.permits l = true ∧ TicketEngine.step digests w.world l = some w'.world ∧
      w'.answered = w.answered ++ ClientWorld.answeredBy w'.world l := by
  simp only [clients, ClientWorld.step] at h
  split_ifs at h with hpermits
  obtain ⟨world, hstep, rfl⟩ := Option.map_eq_some_iff.mp h
  exact ⟨hpermits, hstep, rfl⟩

theorem announces_tells {f f' : Frame} {payload : SeatEventPayload}
    (h : f.announces = some (payload, f')) :
    (∀ holdId ∈ f'.holdIds, f.telling = some holdId) ∧
      ∀ holdId ∈ payload.holdIds, f.telling = some holdId := by
  cases f with
  | publishHold record =>
    cases h
    simp [Frame.holdIds, SeatEventPayload.holdIds, Frame.telling]
  | publishHeld order =>
    cases h
    simp [Frame.holdIds, SeatEventPayload.holdIds, Frame.telling]
  | publishReleased request holdId =>
    cases h
    simp [Frame.holdIds, SeatEventPayload.holdIds, Frame.telling]
  | publishBooked message payload =>
    cases h
    simp [Frame.holdIds, SeatEventPayload.holdIds]
  | _ => cases h

/-- What a command tells its client or the channel is the hold of its frame. -/
theorem course_tells {s s' : Store} {t : Thread} {c : Choice} {f f' : Frame}
    (h : Course s t c f s' f') :
    (∀ holdId ∈ f'.holdIds, f.telling = some holdId) ∧
      (s'.channel = s.channel ∨ ∃ event, s'.channel = s.channel ++ [event] ∧
        ∀ holdId ∈ event.payload.holdIds, f.telling = some holdId) := by
  constructor
  · cases h with
    | quit hstill hend =>
      cases hend with
      | _ => simp [Frame.holdIds]
    | silent hstill hmove =>
      cases hmove with
      | _ => simp [Frame.holdIds]
    | announce hf hevent hchannel hstill => exact (announces_tells hf).1
    | unannounced hf hc => exact (announces_tells hf).1
    | _ => simp [Frame.holdIds]
  · rcases h.channel with hsame | ⟨payload, event, hf, hevent, hchannel⟩
    · exact .inl hsame
    · right
      refine ⟨event, hchannel, ?_⟩
      rw [hevent]
      exact (announces_tells hf).2

theorem disclosed_mono (h : (clients digests).step w l = some w') {holdId : String}
    (hd : w.Disclosed holdId) : w'.Disclosed holdId := by
  obtain ⟨-, hstep, hanswered⟩ := client_step h
  cases hd with
  | inl hmem =>
    left
    rw [hanswered]
    exact List.mem_append_left _ hmem
  | inr hmem =>
    right
    rcases step_course hstep with ⟨t, c, f', -, hcourse, -⟩ | ⟨hcalm, -⟩
    · rcases (course_tells hcourse).2 with hsame | ⟨event, hchannel, -⟩
      · rw [hsame]
        exact hmem
      · rw [hchannel, List.flatMap_append]
        exact List.mem_append_left _ hmem
    · rw [hcalm.1.channel]
      exact hmem

/-- What a step discloses was known before, or is what the moving thread tells. -/
theorem disclosed_origin (h : (clients digests).step w l = some w') {holdId : String}
    (hd : w'.Disclosed holdId) :
    w.Disclosed holdId ∨
      ∃ t c f', l = .act t c ∧
        Course w.world.shared t c (w.world.point t) w'.world.shared f' ∧
        w'.world.point = Function.update w.world.point t f' ∧
        (w.world.point t).telling = some holdId := by
  obtain ⟨-, hstep, hanswered⟩ := client_step h
  rcases step_course hstep with ⟨t, c, f', rfl, hcourse, hpoint⟩ | ⟨hcalm, hother⟩
  · obtain ⟨hframe, hchannel⟩ := course_tells hcourse
    have tells (htells : (w.world.point t).telling = some holdId) :
        w.Disclosed holdId ∨
          ∃ u d g, Label.act t c = .act u d ∧
            Course w.world.shared u d (w.world.point u) w'.world.shared g ∧
            w'.world.point = Function.update w.world.point u g ∧
            (w.world.point u).telling = some holdId :=
      .inr ⟨t, c, f', rfl, hcourse, hpoint, htells⟩
    cases hd with
    | inl hmem =>
      rw [hanswered] at hmem
      cases List.mem_append.mp hmem with
      | inl hold => exact .inl (.inl hold)
      | inr hnew =>
        cases t with
        | call n =>
          simp only [ClientWorld.answeredBy, hpoint, Function.update_self] at hnew
          exact tells (hframe holdId hnew)
        | _ => simp [ClientWorld.answeredBy] at hnew
    | inr hmem =>
      rcases hchannel with hsame | ⟨event, heq, hevent⟩
      · rw [hsame] at hmem
        exact .inl (.inr hmem)
      · rw [heq, List.flatMap_append] at hmem
        cases List.mem_append.mp hmem with
        | inl hold => exact .inl (.inr hold)
        | inr hnew => exact tells (hevent holdId (by simpa using hnew))
  · left
    have hnone : ClientWorld.answeredBy w'.world l = [] := by
      cases l with
      | act t c =>
        cases t with
        | call n => exact absurd rfl (hother n c)
        | _ => rfl
      | _ => rfl
    cases hd with
    | inl hmem =>
      rw [hanswered, hnone, List.append_nil] at hmem
      exact .inl hmem
    | inr hmem =>
      rw [hcalm.1.channel] at hmem
      exact .inr hmem

/-- What a thread tells was drawn. -/
theorem telling_drawn (hs : Secrecy w) {t : Thread} {holdId : String}
    (htells : (w.world.point t).telling = some holdId) :
    ∃ u, w.world.shared.drawn holdId = some u := by
  have hholds := hs.valid.2 t
  have hdiscreet := hs.discreet t
  cases hpoint : w.world.point t with
  | publishHold record =>
    rw [hpoint] at htells
    cases htells
    exact ⟨t, hdiscreet.own record hpoint⟩
  | publishHeld order =>
    rw [hpoint] at htells hholds
    cases htells
    obtain ⟨o, ho, -⟩ := hholds
    exact hs.valid.1.issued ho
  | publishReleased request h =>
    rw [hpoint] at htells
    cases htells
    exact hs.drawn _ (hdiscreet.known _ (by rw [hpoint]; rfl))
  | _ =>
    rw [hpoint] at htells
    cases htells

/-- The identifier of a createOrder call that has not committed is its own and has no order. -/
theorem secret_fresh {s : Store} {t : Thread} {f : Frame} (hholds : f.Holds t s)
    {holdId : String} (hsecret : f.secret = some holdId) : Fresh s t holdId := by
  cases f with
  | evalshaHold caller _ _ | evalHold caller _ _ | holdReply caller _ _ _ =>
    cases caller with
    | holdSeat => cases hsecret
    | createOrder =>
      cases hsecret
      exact hholds
  | lockSeat _ _ =>
    cases hsecret
    exact hholds
  | createRow _ _ =>
    cases hsecret
    exact hholds.1
  | commitOrder _ =>
    cases hsecret
    exact hholds.1
  | _ => cases hsecret

/-- No thread tells the hold of a createOrder call that has not committed. -/
theorem telling_not_secret (hs : Secrecy w) {t u : Thread} {holdId : String}
    (htells : (w.world.point t).telling = some holdId) :
    (w.world.point u).secret ≠ some holdId := by
  intro hsecret
  have hfresh := secret_fresh (hs.valid.2 u) hsecret
  cases hpoint : w.world.point t with
  | publishHold record =>
    rw [hpoint] at htells
    cases htells
    have hown := (hs.discreet t).own record hpoint
    have hsame : u = t := by
      rw [hfresh.1] at hown
      exact Option.some.inj hown
    rw [hsame, hpoint] at hsecret
    cases hsecret
  | publishHeld order =>
    have hholds := hs.valid.2 t
    rw [hpoint] at htells hholds
    cases htells
    obtain ⟨o, ho, -⟩ := hholds
    rw [orderPayload, hfresh.2] at ho
    cases ho
  | publishReleased request h =>
    rw [hpoint] at htells
    cases htells
    have hknown := (hs.discreet t).known holdId (by rw [hpoint]; rfl)
    exact (hs.discreet u).secret holdId hsecret hknown
  | _ =>
    rw [hpoint] at htells
    cases htells

theorem secret_kept (hs : Secrecy w) (h : (clients digests).step w l = some w') {u : Thread}
    {holdId : String} (hsecret : (w.world.point u).secret = some holdId) :
    ¬ w'.Disclosed holdId := by
  intro hd
  rcases disclosed_origin h hd with hold | ⟨t, -, -, -, -, -, htells⟩
  · exact (hs.discreet u).secret holdId hsecret hold
  · exact telling_not_secret hs htells hsecret

/-- A hold that a client has named gets no order later. -/
theorem unordered_kept (hs : Secrecy w) (h : (clients digests).step w l = some w')
    {holdId : String} (hd : w.Disclosed holdId)
    (hrow : w.world.shared.orders.row holdId = none) :
    w'.world.shared.orders.row holdId = none := by
  obtain ⟨-, hstep, -⟩ := client_step h
  obtain ⟨-, ⟨t, c, rfl, hchange⟩ | ⟨-, hquiet⟩⟩ := step_cases hs.valid hstep
  · cases hchange.rows with
    | same _ horders =>
      rw [horders]
      exact hrow
    | free _ _ _ _ _ _ horders =>
      rw [horders]
      exact hrow
    | place order v hf hv hfresh howns hst hseats horders =>
      rw [horders, insert_row, if_neg]
      · exact hrow
      · intro heq
        subst heq
        exact (hs.discreet t).secret _ (by rw [hf]; rfl) hd
    | book message payload v hf hv howns hplaced hseats horders =>
      rw [horders, book_row]
      split_ifs with heq
      · subst heq
        rw [hrow]
        rfl
      · exact hrow
  · rw [hquiet.orders]
    exact hrow

section Course

variable {s s' : Store} {t : Thread} {c : Choice} {f f' : Frame}

theorem announces_plain {payload : SeatEventPayload} (h : f.announces = some (payload, f')) :
    f'.secret = none ∧ f'.releasing = none ∧ ∀ record, f' ≠ .publishHold record := by
  cases f with
  | publishHold record =>
    cases h
    exact ⟨rfl, rfl, by simp⟩
  | publishHeld order =>
    cases h
    exact ⟨rfl, rfl, by simp⟩
  | publishReleased request holdId =>
    cases h
    exact ⟨rfl, rfl, by simp⟩
  | publishBooked message payload =>
    cases h
    exact ⟨rfl, rfl, by simp⟩
  | _ => cases h

theorem givesUp_plain (h : GivesUp f f') :
    f'.secret = none ∧ f'.releasing = none ∧ ∀ record, f' ≠ .publishHold record := by
  cases h with
  | _ => exact ⟨rfl, rfl, by simp⟩

/-- A createOrder call carries its own hold on, or has just drawn it. -/
theorem course_secret (h : Course s t c f s' f') {holdId : String}
    (hsecret : f'.secret = some holdId) :
    f.secret = some holdId ∧ f.telling = none ∨ s.drawn holdId = none ∧ f.telling = none := by
  cases h with
  | quit hstill hend =>
    rw [(givesUp_plain hend).1] at hsecret
    cases hsecret
  | silent hstill hmove =>
    cases hmove with
    | @find_event caller request id hdraw =>
      cases caller with
      | holdSeat => cases hsecret
      | createOrder =>
        cases hsecret
        exact .inr ⟨hdraw, rfl⟩
    | @hold_fallback caller request id =>
      cases caller with
      | holdSeat => cases hsecret
      | createOrder => exact .inl ⟨hsecret, rfl⟩
    | @hold_lost caller request id g code hg hcode =>
      cases caller with
      | holdSeat => cases hsecret
      | createOrder =>
        rcases hg with rfl | rfl
        · exact .inl ⟨hsecret, rfl⟩
        · exact .inl ⟨hsecret, rfl⟩
    | create_order hexecution =>
      subst hexecution
      exact .inl ⟨hsecret, rfl⟩
    | lock_seat => exact .inl ⟨hsecret, rfl⟩
    | create_row horder =>
      cases hsecret
      exact .inl ⟨by rw [horder.2.2]; rfl, rfl⟩
    | _ => cases hsecret
  | @take caller request id g redis lock hg hfree howner hnow hkeys =>
    cases caller with
    | holdSeat => cases hsecret
    | createOrder =>
      rcases hg with rfl | rfl
      · exact .inl ⟨hsecret, rfl⟩
      · exact .inl ⟨hsecret, rfl⟩
  | announce hf =>
    rw [(announces_plain hf).1] at hsecret
    cases hsecret
  | unannounced hf =>
    rw [(announces_plain hf).1] at hsecret
    cases hsecret
  | _ => cases hsecret

theorem course_publishHold (h : Course s t c f s' f') {record : SeatHoldRecord}
    (hf' : f' = .publishHold record) :
    ∃ request, f = .holdReply .holdSeat request record.holdId 1 := by
  subst hf'
  cases h with
  | quit hstill hend => exact absurd rfl ((givesUp_plain hend).2.2 record)
  | silent hstill hmove =>
    cases hmove with
    | @hold_seat request holdId _ hrecord =>
      obtain ⟨-, -, rfl⟩ := hrecord
      exact ⟨request, rfl⟩
  | announce hf => exact absurd rfl ((announces_plain hf).2.2 record)
  | unannounced hf => exact absurd rfl ((announces_plain hf).2.2 record)

theorem course_releasing (h : Course s t c f s' f') {holdId : String}
    (hreleasing : f'.releasing = some holdId) : f.releasing = some holdId := by
  cases h with
  | quit hstill hend =>
    rw [(givesUp_plain hend).2.1] at hreleasing
    cases hreleasing
  | silent hstill hmove =>
    cases hmove with
    | find_order | release_fallback | release_seat => exact hreleasing
    | release_lost hg =>
      rcases hg with rfl | rfl
      · exact hreleasing
      · exact hreleasing
    | _ => cases hreleasing
  | announce hf =>
    rw [(announces_plain hf).2.1] at hreleasing
    cases hreleasing
  | unannounced hf =>
    rw [(announces_plain hf).2.1] at hreleasing
    cases hreleasing
  | drop hg =>
    rcases hg with rfl | rfl
    · exact hreleasing
    · exact hreleasing
  | free => exact hreleasing
  | _ => cases hreleasing

/-- The release script is sent for a hold without an order. -/
theorem course_unordered (h : Course s t c f s' f') {request : HoldSeatRequest} {holdId : String}
    (hf' : f' = .evalshaRelease request holdId ∨ f' = .evalRelease request holdId) :
    s'.orders = s.orders ∧
      (s.orders.row holdId = none ∨ f = .evalshaRelease request holdId) := by
  have hreleasing : f'.releasing = some holdId := by
    rcases hf' with rfl | rfl
    · rfl
    · rfl
  cases h with
  | quit hstill hend =>
    rw [(givesUp_plain hend).2.1] at hreleasing
    cases hreleasing
  | silent hstill hmove =>
    refine ⟨hstill.orders, ?_⟩
    cases hmove with
    | find_order hrow =>
      rcases hf' with heq | heq
      · cases heq
        exact .inl hrow
      · cases heq
    | release_fallback =>
      rcases hf' with heq | heq
      · cases heq
      · cases heq
        exact .inr rfl
    | _ => rcases hf' with heq | heq <;> cases heq
  | announce hf =>
    rw [(announces_plain hf).2.1] at hreleasing
    cases hreleasing
  | unannounced hf =>
    rw [(announces_plain hf).2.1] at hreleasing
    cases hreleasing
  | _ => rcases hf' with heq | heq <;> cases heq

end Course

theorem Frame.Discreet.mono {t : Thread} {f : Frame} (hf : f.Discreet w t)
    (hs : Secrecy w) (h : (clients digests).step w l = some w')
    (hsecret : ∀ holdId, f.secret = some holdId → ¬ w'.Disclosed holdId) :
    f.Discreet w' t := by
  refine ⟨hsecret, ?_, ?_, ?_⟩
  · intro record heq
    have hdrawn := hf.own record heq
    obtain ⟨-, hstep, -⟩ := client_step h
    exact step_drawn hs.valid hstep hdrawn
  · intro holdId hreleasing
    exact disclosed_mono h (hf.known holdId hreleasing)
  · intro request holdId heq
    have hreleasing : f.releasing = some holdId := by
      rcases heq with rfl | rfl
      · rfl
      · rfl
    exact unordered_kept hs h (hf.known holdId hreleasing) (hf.unordered request holdId heq)

/-- The moving thread's next frame. -/
theorem discreet_course (hs : Secrecy w) (h : (clients digests).step w l = some w') {t : Thread}
    {c : Choice} {f' : Frame}
    (hcourse : Course w.world.shared t c (w.world.point t) w'.world.shared f') :
    f'.Discreet w' t := by
  have hdiscreet := hs.discreet t
  obtain ⟨-, hstep, -⟩ := client_step h
  refine ⟨?_, ?_, ?_, ?_⟩
  · intro holdId hsecret
    rcases course_secret hcourse hsecret with ⟨hold, -⟩ | ⟨hfree, -⟩
    · exact secret_kept hs h hold
    · intro hd
      rcases disclosed_origin h hd with hold | ⟨u, -, -, -, -, -, htells⟩
      · obtain ⟨v, hv⟩ := hs.drawn holdId hold
        rw [hfree] at hv
        cases hv
      · obtain ⟨v, hv⟩ := telling_drawn hs htells
        rw [hfree] at hv
        cases hv
  · intro record heq
    obtain ⟨request, hf⟩ := course_publishHold hcourse heq
    have hholds := hs.valid.2 t
    rw [hf] at hholds
    exact step_drawn hs.valid hstep hholds.1
  · intro holdId hreleasing
    exact disclosed_mono h (hdiscreet.known holdId (course_releasing hcourse hreleasing))
  · intro request holdId heq
    obtain ⟨horders, hrow | hf⟩ := course_unordered hcourse heq
    · rw [horders]
      exact hrow
    · rw [horders]
      exact hdiscreet.unordered request holdId (.inl hf)

theorem discreet_entering {t : Thread} {f : Frame} (hf : f.Entering l)
    (h : (clients digests).step w l = some w') : f.Discreet w' t := by
  cases f with
  | findOrder request holdId =>
    obtain ⟨n, payload, rfl⟩ := hf
    obtain ⟨hpermits, -, -⟩ := client_step h
    have hnamed : w.Disclosed holdId := of_decide_eq_true hpermits
    refine ⟨?_, ?_, ?_, ?_⟩
    · intro _ heq
      cases heq
    · intro _ heq
      cases heq
    · intro _ heq
      cases heq
      exact disclosed_mono h hnamed
    · intro _ _ heq
      rcases heq with heq | heq
      · cases heq
      · cases heq
  | idle | findEvent _ _ | rejected _ | readMessage _ | createGroup _ | poll | claim _
  | read _ _ | batch _ _ | drained _ | stopped => exact .of_plain rfl (by simp) rfl
  | _ => exact absurd hf id

theorem secrecy_step (hs : Secrecy w) (h : (clients digests).step w l = some w') :
    Secrecy w' := by
  obtain ⟨-, hstep, -⟩ := client_step h
  refine ⟨valid_step digests _ _ _ hs.valid hstep, ?_, fun u => ?_⟩
  · intro holdId hd
    rcases disclosed_origin h hd with hold | ⟨t, -, -, -, -, -, htells⟩
    · obtain ⟨v, hv⟩ := hs.drawn holdId hold
      exact ⟨v, step_drawn hs.valid hstep hv⟩
    · obtain ⟨v, hv⟩ := telling_drawn hs htells
      exact ⟨v, step_drawn hs.valid hstep hv⟩
  · have kept (hsame : w'.world.point u = w.world.point u) :
        (w'.world.point u).Discreet w' u := by
      rw [hsame]
      exact (hs.discreet u).mono hs h fun holdId hsecret => secret_kept hs h hsecret
    rcases step_course hstep with ⟨t, c, f', -, hcourse, hpoint⟩ | ⟨⟨-, hpoint⟩, -⟩
    · by_cases hu : u = t
      · subst hu
        rw [hpoint, Function.update_self]
        exact discreet_course hs h hcourse
      · apply kept
        rw [hpoint, Function.update_of_ne hu]
    · cases hpoint u with
      | inl hsame => exact kept hsame
      | inr hentering => exact discreet_entering hentering h

/-! ## Order holds stay -/

/-- A createOrder call in progress has its order, or still keeps its hold secret. -/
theorem ordering_cases {s : Store} {t : Thread} {f : Frame} (hholds : f.Holds t s)
    {holdId : String} (hordering : f.ordering = some holdId) :
    f.secret = some holdId ∨ ∃ o, s.orders.row holdId = some o := by
  cases f with
  | publishHeld order | appendEvent order =>
    cases hordering
    obtain ⟨o, ho, -⟩ := hholds
    exact .inr ⟨o, ho⟩
  | evalshaHold caller _ _ | evalHold caller _ _ | holdReply caller _ _ _ =>
    cases caller with
    | holdSeat => cases hordering
    | createOrder => exact .inl hordering
  | _ => exact .inl hordering

theorem named_belongs_not (hs : Secrecy w) {t : Thread} {request : HoldSeatRequest}
    {holdId : String} (hf : w.world.point t = .evalshaRelease request holdId ∨
      w.world.point t = .evalRelease request holdId) : ¬ BelongsToOrder w.world holdId := by
  have hdiscreet := hs.discreet t
  have hrow := hdiscreet.unordered request holdId hf
  have hnamed : w.Disclosed holdId := by
    apply hdiscreet.known
    rcases hf with hf | hf
    · rw [hf]
      rfl
    · rw [hf]
      rfl
  intro hbelongs
  cases hbelongs with
  | inl horder =>
    obtain ⟨o, ho⟩ := horder
    rw [hrow] at ho
    cases ho
  | inr hcall =>
    obtain ⟨u, hu⟩ := hcall
    rcases ordering_cases (hs.valid.2 u) hu with hsecret | ⟨o, ho⟩
    · exact (hs.discreet u).secret holdId hsecret hnamed
    · rw [hrow] at ho
      cases ho

theorem keeps_step (hs : Secrecy w) (h : (clients digests).step w l = some w') :
    KeepsOrderHolds w l w' := by
  intro key cell hcell hbelongs
  obtain ⟨-, hstep, -⟩ := client_step h
  obtain ⟨-, ⟨t, c, rfl, hchange⟩ | ⟨-, hquiet⟩⟩ := step_cases hs.valid hstep
  · cases hchange.keys with
    | same hkeys =>
      left
      rw [hkeys, hcell]
    | take caller request holdId lock hf hfree howner hkeys =>
      by_cases hkey : key = seatLockKey request.eventId request.seatId
      · subst hkey
        right
        rw [hcell] at hfree
        exact Lease.read_eq_none hfree
      · left
        rw [hkeys, Function.update_of_ne hkey, hcell]
    | drop request holdId lock hf hread howner hkeys =>
      by_cases hkey : key = seatLockKey request.eventId request.seatId
      · subst hkey
        rw [hcell] at hread
        obtain ⟨c', hc, -, hlock⟩ := Lease.read_eq_some.mp hread
        cases hc
        rw [hlock, howner.2] at hbelongs
        exact absurd hbelongs (named_belongs_not hs hf)
      · left
        rw [hkeys, Function.update_of_ne hkey, hcell]
  · left
    rw [hquiet.keys, hcell]

/-- Orders stay, and time does not run backwards. -/
theorem order_step (hs : Secrecy w) (h : (clients digests).step w l = some w') :
    w.world.shared.redis.now ≤ w'.world.shared.redis.now ∧
      ∀ holdId, (∃ o, w.world.shared.orders.row holdId = some o) →
        ∃ o, w'.world.shared.orders.row holdId = some o := by
  obtain ⟨-, hstep, -⟩ := client_step h
  obtain ⟨-, ⟨t, c, rfl, hchange⟩ | ⟨-, hquiet⟩⟩ := step_cases hs.valid hstep
  · refine ⟨hchange.now.ge, fun holdId horder => ?_⟩
    obtain ⟨o, ho⟩ := horder
    rcases hchange.rows.kept ho with hrow | hrow
    · exact ⟨_, hrow⟩
    · exact ⟨_, hrow⟩
  · refine ⟨hquiet.now, fun holdId horder => ?_⟩
    rw [hquiet.orders]
    exact horder

/-- Once an order has its hold, only the time to live takes the hold away. -/
structure HoldsOutlast (w w' : ClientWorld) : Prop where
  now : w.world.shared.redis.now ≤ w'.world.shared.redis.now
  orders : ∀ holdId, (∃ o, w.world.shared.orders.row holdId = some o) →
    ∃ o, w'.world.shared.orders.row holdId = some o
  holds : ∀ key cell, w.world.shared.redis.keys key = some cell →
    (∃ o, w.world.shared.orders.row cell.value.holdId = some o) →
      w'.world.shared.redis.keys key = some cell ∨ cell.deadline < w'.world.shared.redis.now

theorem outlast_refl (w : ClientWorld) : HoldsOutlast w w :=
  ⟨le_refl _, fun _ h => h, fun _ _ hcell _ => .inl hcell⟩

theorem outlast_trans (u v w : ClientWorld) (huv : HoldsOutlast u v) (hvw : HoldsOutlast v w) :
    HoldsOutlast u w := by
  refine ⟨huv.now.trans hvw.now, fun holdId h => hvw.orders holdId (huv.orders holdId h), ?_⟩
  intro key cell hcell horder
  rcases huv.holds key cell hcell horder with hkept | hpast
  · exact hvw.holds key cell hkept (huv.orders _ horder)
  · exact .inr (lt_of_lt_of_le hpast hvw.now)

theorem outlast_step (hs : Secrecy w) (h : (clients digests).step w l = some w') :
    HoldsOutlast w w' := by
  obtain ⟨hnow, horders⟩ := order_step hs h
  refine ⟨hnow, horders, fun key cell hcell horder => ?_⟩
  rcases keeps_step hs h key cell hcell (.inl horder) with hkept | hpast
  · exact .inl hkept
  · exact .inr (lt_of_lt_of_le hpast hnow)

end Step

/-- No client can have the hold of an order released: every step keeps the holds of orders and of
createOrder calls in progress, and an order's hold is gone only after its deadline. -/
theorem order_holds_unreleased {digests : ScriptDigests} {start : ClientWorld}
    (hstart : start.Initial) (ls : List Label) :
    (clients digests).Along KeepsOrderHolds start ls ∧
      ∀ as bs u v, ls = as ++ bs → (clients digests).run start as = some u →
        (clients digests).run u bs = some v → HoldsOutlast u v := by
  have hsecrecy := initial_secrecy hstart
  have hkeep : ∀ w l w', Secrecy w → (clients digests).step w l = some w' → Secrecy w' :=
    fun _ _ _ hs hstep => secrecy_step hs hstep
  refine ⟨?_, ?_⟩
  · have hevery := Machine.every_iff_along (clients digests) (J := Secrecy) (P := fun _ => True)
      (C := KeepsOrderHolds) hkeep
      (fun _ _ _ hs _ hstep => ⟨fun _ => keeps_step hs hstep, fun _ => trivial⟩) ls hsecrecy
      trivial
    exact hevery.mp (Machine.every_of_invariant _ (fun _ _ _ _ _ => trivial) ls trivial)
  · intro as bs u v _ hu hv
    have hat := Machine.run_invariant (clients digests) hkeep hsecrecy hu
    exact Machine.Reach.relation (clients digests) outlast_refl outlast_trans hkeep
      (fun _ _ _ hs hstep => outlast_step hs hstep) hat ⟨bs, hv⟩

def oneSeatClients : ClientWorld := ⟨oneSeat, []⟩

theorem oneSeatClients_initial : oneSeatClients.Initial := by
  refine ⟨oneSeat_initial, ?_⟩
  intro holdId hd
  cases hd with
  | inl hmem => exact absurd hmem List.not_mem_nil
  | inr hmem => exact absurd hmem List.not_mem_nil

/-- A client reads the hold of another's order from the broadcast and asks for its release. -/
def releaseOfOrder : List Label :=
  [.createOrder 0 (requestOf "u")] ++
    acts (.call 0) ["h", "", "", "", "o", "", "held-event"] ++
    [.releaseSeat 1 (requestOf "u") "h"] ++ acts (.call 1) [""]

theorem order_holds_unreleased_releaseOfOrder :
    ((clients fun _ => true).run oneSeatClients releaseOfOrder).isSome = true ∧
      (clients fun _ => true).Along KeepsOrderHolds oneSeatClients releaseOfOrder :=
  ⟨by decide +kernel, (order_holds_unreleased oneSeatClients_initial releaseOfOrder).1⟩

end TicketEngine
