import TicketEngine.System.Course
import TicketEngine.System.SeatClaim

namespace TicketEngine

/-- The call is on its way to a rejection: it has not taken the hold, or it has rejected. -/
def Refused (request : HoldSeatRequest) : Frame → Prop
  | .findEvent caller r => caller = .createOrder ∧ r = request
  | .evalshaHold caller r _ | .evalHold caller r _ => caller = .createOrder ∧ r = request
  | .holdReply caller r _ result => caller = .createOrder ∧ r = request ∧ result ≠ 1
  | .rejected _ => True
  | _ => False

/-- How many commands are left until the rejection. -/
def Frame.toRejection : Frame → Nat
  | .findEvent _ _ => 4
  | .evalshaHold _ _ _ => 3
  | .evalHold _ _ _ => 2
  | .holdReply _ _ _ _ => 1
  | _ => 0

def SeatHeld (request : HoldSeatRequest) (world : World) : Prop :=
  ∃ lock, liveHold world.shared (seatLockKey request.eventId request.seatId) = some lock

/-- A step of the call `n` leaves rows, orders, stream, events and holds as they are. -/
def ChangesNothing (n : Nat) (world : World) (l : Label) (world' : World) : Prop :=
  ∀ c, l = .act (.call n) c → Still world.shared world'.shared

def ownStep (n : Nat) : Label → Bool
  | .act (.call m) _ => m = n
  | _ => false

section Refused

variable {digests : ScriptDigests} {world world' : World} {request : HoldSeatRequest} {n : Nat}

theorem refused_quit (request : HoldSeatRequest) {f f' : Frame} (hend : GivesUp f f')
    (hcall : f.processing = false)
    (hseat : ∀ r holdId result, f ≠ .holdReply .holdSeat r holdId result) :
    Refused request f' ∧ f'.toRejection = 0 := by
  cases hend with
  | reject _ => exact ⟨trivial, rfl⟩
  | refuse => exact absurd rfl (hseat _ _ _)
  | leave hprocessing =>
    rw [hcall] at hprocessing
    cases hprocessing

theorem refused_silent {s : Store} {f f' : Frame} (hmove : Silent s f f')
    (hf : Refused request f) : Refused request f' ∧ f'.toRejection < f.toRejection := by
  cases hmove with
  | find_event => exact ⟨hf, by simp [Frame.toRejection]⟩
  | hold_fallback => exact ⟨hf, by simp [Frame.toRejection]⟩
  | hold_lost hg hcode =>
    rcases hg with rfl | rfl
    · exact ⟨⟨hf.1, hf.2, hcode⟩, by simp [Frame.toRejection]⟩
    · exact ⟨⟨hf.1, hf.2, hcode⟩, by simp [Frame.toRejection]⟩
  | hold_seat => exact absurd rfl hf.2.2
  | create_order => exact absurd rfl hf.2.2
  | release_lost hg =>
    rcases hg with rfl | rfl
    · exact absurd hf id
    · exact absurd hf id
  | _ => exact absurd hf id

/-- While the seat is held, each command of the call brings it closer to its rejection. -/
theorem refused_act {t : Thread} {c : Choice} {f f' : Frame} {s s' : Store}
    (h : f.act digests s t c = some (s', f')) (hf : Refused request f)
    (hheld : ∃ lock, liveHold s (seatLockKey request.eventId request.seatId) = some lock) :
    Still s s' ∧ Refused request f' ∧ f'.toRejection < f.toRejection := by
  have hcourse : Course s t c f s' f' := act_course h
  have conclude (hpos : 0 < f.toRejection) (hcall : f.processing = false)
      (hseat : ∀ r holdId result, f ≠ .holdReply .holdSeat r holdId result)
      (hgoes : Still s s' ∧ (GivesUp f f' ∨ Silent s f f')) :
      Still s s' ∧ Refused request f' ∧ f'.toRejection < f.toRejection := by
    obtain ⟨hstill, hgoes⟩ := hgoes
    cases hgoes with
    | inl hend =>
      obtain ⟨hrefused, hrank⟩ := refused_quit request hend hcall hseat
      exact ⟨hstill, hrefused, by omega⟩
    | inr hmove => exact ⟨hstill, refused_silent hmove hf⟩
  have hold {caller : Caller} {r : HoldSeatRequest} {holdId : String}
      (hg : f = .evalshaHold caller r holdId ∨ f = .evalHold caller r holdId)
      (hr : r = request) : Still s s' ∧ (GivesUp f f' ∨ Silent s f f') := by
    subst hr
    cases hcourse.of_hold hg with
    | inl hgoes => exact hgoes
    | inr hfree =>
      obtain ⟨lock, hlive⟩ := hheld
      rw [liveHold, hfree] at hlive
      cases hlive
  cases f with
  | findEvent caller r => exact conclude (Nat.succ_pos _) rfl (by simp) (hcourse.of_looking rfl)
  | evalshaHold caller r holdId =>
    exact conclude (Nat.succ_pos _) rfl (by simp) (hold (.inl rfl) hf.2)
  | evalHold caller r holdId => exact conclude (Nat.succ_pos _) rfl (by simp) (hold (.inr rfl) hf.2)
  | holdReply caller r holdId result =>
    obtain ⟨hcaller, -⟩ := hf
    apply conclude (Nat.succ_pos _) rfl _ (hcourse.of_looking rfl)
    intro r' holdId' result' heq
    cases heq
    cases hcaller
  | rejected e => cases h
  | _ => exact absurd hf id

theorem refused_begun {f : Frame} (hf : Refused request f) : f ≠ .idle := by
  intro heq
  subst heq
  exact hf

/-- A call that has not rejected yet can always go on. -/
theorem refused_goes (digests : ScriptDigests) (hf : Refused request (world.point (.call n))) :
    (∃ e, world.point (.call n) = .rejected e) ∨
      ∃ c, (step digests world (.act (.call n) c)).isSome := by
  cases hpoint : world.point (.call n) with
  | rejected e => exact .inl ⟨e, rfl⟩
  | findEvent _ _ | evalshaHold _ _ _ | evalHold _ _ _ | holdReply _ _ _ _ =>
    right
    refine ⟨.fail "", ?_⟩
    simp only [step, hpoint, Option.isSome_map]
    rfl
  | _ =>
    rw [hpoint] at hf
    exact absurd hf id

theorem refused_run {ls : List Label} (hf : Refused request (world.point (.call n)))
    (hheld : (engine digests).Every (SeatHeld request) world ls)
    (halive : ∀ l ∈ ls, l ≠ .crashCall n) (hrun : (engine digests).run world ls = some world') :
    Refused request (world'.point (.call n)) ∧
      (engine digests).Along (ChangesNothing n) world ls ∧
      ls.countP (ownStep n) + (world'.point (.call n)).toRejection ≤
        (world.point (.call n)).toRejection := by
  induction ls generalizing world with
  | nil =>
    cases hrun
    exact ⟨hf, trivial, by simp⟩
  | cons l ls ih =>
    obtain ⟨next, hstep, hrest⟩ := Machine.run_cons_some _ hrun
    have halive' : ∀ k ∈ ls, k ≠ .crashCall n := fun k hk => halive k (List.mem_cons_of_mem _ hk)
    have hheld' := hheld.2 next hstep
    by_cases hown : ∃ c, l = .act (.call n) c
    · obtain ⟨c, rfl⟩ := hown
      obtain ⟨⟨s', f'⟩, hact, rfl⟩ := Option.map_eq_some_iff.mp hstep
      obtain ⟨hstill, hrefused, hrank⟩ := refused_act hact hf hheld.1
      have hpoint : Function.update world.point (.call n) f' (.call n) = f' :=
        Function.update_self _ _ _
      obtain ⟨hlast, halong, hcount⟩ := ih (by simpa only [hpoint] using hrefused) hheld'
        halive' hrest
      refine ⟨hlast, ?_, ?_⟩
      · exact (Machine.along_cons _ hstep).mpr ⟨fun _ _ => hstill, halong⟩
      · have hone : ownStep n (.act (.call n) c) = true := by simp [ownStep]
        simp only [hpoint] at hcount
        rw [List.countP_cons_of_pos hone]
        omega
    · have hother : ∀ c, l ≠ .act (.call n) c := fun c heq => hown ⟨c, heq⟩
      have hpoint := call_kept hstep (refused_begun hf) hother (halive l List.mem_cons_self)
      obtain ⟨hlast, halong, hcount⟩ := ih (by rw [hpoint]; exact hf) hheld' halive' hrest
      refine ⟨hlast, ?_, ?_⟩
      · exact (Machine.along_cons _ hstep).mpr ⟨fun c heq => absurd heq (hother c), halong⟩
      · have hnone : ¬ ownStep n l = true := by
          cases l with
          | act t c =>
            cases t with
            | call m =>
              intro heq
              have hm : m = n := by simpa [ownStep] using heq
              subst hm
              exact hother c rfl
            | _ => simp [ownStep]
          | _ => simp [ownStep]
        rw [hpoint] at hcount
        rw [List.countP_cons_of_neg hnone]
        exact hcount

end Refused

/-- As long as a hold lives on the seat, whoever owns it, a createOrder for the seat takes at
most four commands, in any interleaving, none of which changes anything, and then rejects. -/
theorem held_seat_refuses_orders {digests : ScriptDigests} {payload : PartialHoldSeatRequest}
    {request : HoldSeatRequest} (hrequest : normalizeHoldRequest payload = .ok request) {n : Nat}
    {world next world' : World} (hcall : step digests world (.createOrder n payload) = some next)
    {ls : List Label} (hheld : (engine digests).Every (SeatHeld request) next ls)
    (halive : ∀ l ∈ ls, l ≠ .crashCall n) (hrun : (engine digests).run next ls = some world') :
    (engine digests).Along (ChangesNothing n) next ls ∧
      ((∃ e, world'.point (.call n) = .rejected e) ∨
        ls.countP (ownStep n) < 4 ∧ ∃ c, (step digests world' (.act (.call n) c)).isSome) := by
  have hentered : next.point (.call n) = .findEvent .createOrder request := by
    simp only [step, createOrder, hrequest, enter] at hcall
    split at hcall
    · cases hcall
      exact Function.update_self _ _ _
    · cases hcall
  have hrefused : Refused request (next.point (.call n)) := by
    rw [hentered]
    exact ⟨rfl, rfl⟩
  obtain ⟨hlast, halong, hcount⟩ := refused_run hrefused hheld halive hrun
  refine ⟨halong, ?_⟩
  cases refused_goes digests hlast with
  | inl hrejected => exact .inl hrejected
  | inr hgoes =>
    by_cases hend : ∃ e, world'.point (.call n) = .rejected e
    · exact .inl hend
    · right
      refine ⟨?_, hgoes⟩
      have hleft : 0 < (world'.point (.call n)).toRejection := by
        cases hpoint : world'.point (.call n) with
        | rejected e => exact absurd ⟨e, hpoint⟩ hend
        | findEvent _ _ | evalshaHold _ _ _ | evalHold _ _ _ | holdReply _ _ _ _ =>
          exact Nat.succ_pos _
        | _ =>
          rw [hpoint] at hlast
          exact absurd hlast id
      have hstart : (next.point (.call n)).toRejection = 4 := by rw [hentered]; rfl
      omega

instance (request : HoldSeatRequest) : DecidablePred (SeatHeld request) := fun world =>
  decidable_of_iff
    ((liveHold world.shared (seatLockKey request.eventId request.seatId)).isSome = true)
    Option.isSome_iff_exists

/-- `u1` takes the hold, and nothing else happens. -/
def holdByOwner : List Label :=
  [.holdSeat 0 (requestOf "u1")] ++ acts (.call 0) ["h1", "", "", "held-event"]

def orderByOwner : List Label :=
  [.createOrder 1 (requestOf "u1")] ++ acts (.call 1) ["h2", "", ""]

/-- The owner of the live hold on a free seat orders it and is refused. -/
theorem held_seat_refuses_owner :
    ∃ world world', (engine fun _ => true).run oneSeat holdByOwner = some world ∧
      (∃ lock, liveHold world.shared "seat:e:s" = some lock ∧ lock.userId = "u1") ∧
      world.shared.seats "s" = some ⟨"e", .AVAILABLE⟩ ∧
      (engine fun _ => true).run world orderByOwner = some world' ∧
      world'.point (.call 1) =
        .rejected (.conflict "Seat is currently unavailable or already held") := by
  have hview : ((engine fun _ => true).run oneSeat holdByOwner).bind (fun world =>
      ((engine fun _ => true).run world orderByOwner).map fun world' =>
        (liveHold world.shared "seat:e:s", world.shared.seats "s",
          (world'.point (.call 1)).rejection)) =
      some (some ⟨.HELD, "u1", "h1", 0, 600⟩, some ⟨"e", .AVAILABLE⟩,
        some (.conflict "Seat is currently unavailable or already held")) := by
    decide +kernel
  obtain ⟨world, hrun, hview⟩ := Option.bind_eq_some_iff.mp hview
  obtain ⟨world', hrun', hview⟩ := Option.map_eq_some_iff.mp hview
  obtain ⟨hlive, hview⟩ := Prod.mk.inj hview
  obtain ⟨hseat, hrejected⟩ := Prod.mk.inj hview
  exact ⟨world, world', hrun, ⟨_, hlive, rfl⟩, hseat, hrun', rejection_eq hrejected⟩

/-- The free seat under a live hold of `u1`. -/
def seatHeldByOwner : World :=
  { oneSeat with
    shared := { oneSeat.shared with
      redis := { oneSeat.shared.redis with
        keys := fun key =>
          if key = "seat:e:s" then some ⟨⟨.HELD, "u1", "h1", 0, 600⟩, 600000⟩ else none } } }

def ownerAsks : World :=
  ⟨seatHeldByOwner.shared,
    Function.update seatHeldByOwner.point (.call 1) (createOrder (requestOf "u1"))⟩

theorem held_seat_refuses_orders_owner :
    ∃ world', (engine fun _ => true).run ownerAsks (acts (.call 1) ["h2", "", ""]) =
        some world' ∧
      (engine fun _ => true).Along (ChangesNothing 1) ownerAsks (acts (.call 1) ["h2", "", ""]) ∧
      world'.point (.call 1) =
        .rejected (.conflict "Seat is currently unavailable or already held") := by
  have hview : ((engine fun _ => true).run ownerAsks (acts (.call 1) ["h2", "", ""])).map
      (fun world' => (world'.point (.call 1)).rejection) =
      some (some (.conflict "Seat is currently unavailable or already held")) := by
    decide +kernel
  obtain ⟨world', hrun, hrejected⟩ := Option.map_eq_some_iff.mp hview
  have hrequest : normalizeHoldRequest (requestOf "u1") = .ok ⟨"e", "s", "u1"⟩ := by
    decide +kernel
  have hheld : (engine fun _ => true).Every (SeatHeld ⟨"e", "s", "u1"⟩) ownerAsks
      (acts (.call 1) ["h2", "", ""]) := by
    decide +kernel
  have halive : ∀ l ∈ acts (.call 1) ["h2", "", ""], l ≠ .crashCall 1 := by
    intro l hl heq
    subst heq
    simp [acts] at hl
  have hcall : step (fun _ => true) seatHeldByOwner (.createOrder 1 (requestOf "u1")) =
      some ownerAsks := rfl
  refine ⟨world', hrun, ?_, rejection_eq hrejected⟩
  exact (held_seat_refuses_orders hrequest hcall hheld halive hrun).1

end TicketEngine
