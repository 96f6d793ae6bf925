import TicketEngine.System.Transactions

namespace TicketEngine

section Progress

variable {digests : ScriptDigests} {world world' : World}

theorem FinitelyDrawn.fresh {s : Store} (h : FinitelyDrawn s) : ∃ id, s.drawn id = none := by
  obtain ⟨id, hid⟩ := Set.Infinite.nonempty (Set.Finite.infinite_compl h)
  exact ⟨id, by simpa using hid⟩

/-- Between its end and a wait for a row lock, every call and every task has a command that
succeeds. -/
theorem command_enabled {s : Store} {t : Thread} {f : Frame} {id : String}
    (hflight : 0 < f.commandsLeft) (hfresh : s.drawn id = none)
    (hfree : ∀ seatId, f.awaitsRow = some seatId → s.rowLock seatId = none) :
    ∃ p, f.act digests s t (.ok id) = some p := by
  have hdraw : s.draw t id = some { s with drawn := Function.update s.drawn id (some t) } := by
    unfold Store.draw
    rw [if_pos hfresh]
  have publish (correlationId : String) (payload : SeatEventPayload) (f' : Frame) :
      ∃ p, (publishSeatEvent s t correlationId payload (.ok id)).map (fun s => (s, f')) =
        some p := by
    simp only [publishSeatEvent, hdraw, Option.map_some]
    exact ⟨_, rfl⟩
  have lock (eventId seatId : String) (status : SeatState) (hseat : s.rowLock seatId = none) :
      ∃ p, s.lockRow t eventId seatId status = some p := by
    unfold Store.lockRow
    rw [if_pos hseat]
    split
    · exact ⟨_, rfl⟩
    · exact ⟨_, rfl⟩
  cases f with
  | findEvent caller request =>
    simp only [Frame.act, stepFindEvent, hdraw, Option.map_some]
    split
    · exact ⟨_, rfl⟩
    · exact ⟨_, rfl⟩
  | publishHold record => exact publish _ _ _
  | publishHeld order => exact publish _ _ _
  | publishReleased request holdId => exact publish _ _ _
  | publishBooked message payload => exact publish _ _ _
  | lockSeat request execution =>
    obtain ⟨p, hp⟩ := lock request.eventId request.seatId .AVAILABLE (hfree _ rfl)
    simp only [Frame.act, stepLockSeat, hp, Option.map_some]
    exact ⟨_, rfl⟩
  | sellRow message payload =>
    obtain ⟨p, hp⟩ := lock payload.eventId payload.seatId .HELD (hfree _ rfl)
    simp only [Frame.act, stepSellRow, hp, Option.map_some]
    exact ⟨_, rfl⟩
  | createRow request execution =>
    simp only [Frame.act, stepCreateRow, hdraw, Option.map_some]
    exact ⟨_, rfl⟩
  | appendEvent order =>
    simp only [Frame.act, stepAppendEvent, hdraw, Option.map_some]
    exact ⟨_, rfl⟩
  | freeRow request holdId =>
    have hseat := hfree request.seatId rfl
    simp only [Frame.act, stepFreeRow, Store.freeRow, if_pos hseat]
    split
    · exact ⟨_, rfl⟩
    · exact ⟨_, rfl⟩
  | idle | held | ordered | released | rejected | processed | failed | drained | stopped =>
    cases hflight
  | createGroup | poll | claim | read | batch => cases hflight
  | _ => exact ⟨_, rfl⟩

theorem wroteRow_awaitsRow {f : Frame} {id : String} (h : f.wroteRow = some id) :
    f.awaitsRow = none := by
  cases f with
  | createRow | commitOrder | bookRow | commitBooking => rfl
  | _ => cases h

/-- A thread in flight can go on, or the one whose row lock it waits for can. -/
theorem live_enabled (hlive : Live world) (hfinite : FinitelyDrawn world.shared) {t : Thread}
    (hflight : 0 < (world.point t).commandsLeft) :
    ∃ u id next, 0 < (world.point u).commandsLeft ∧
      step digests world (.act u (.ok id)) = some next := by
  obtain ⟨id, hfresh⟩ := hfinite.fresh
  have goes {u : Thread} (hflight : 0 < (world.point u).commandsLeft)
      (hfree : ∀ seatId, (world.point u).awaitsRow = some seatId →
        world.shared.rowLock seatId = none) :
      ∃ u id next, 0 < (world.point u).commandsLeft ∧
        step digests world (.act u (.ok id)) = some next := by
    have henabled : ∃ p, (world.point u).act digests world.shared u (.ok id) = some p :=
      command_enabled hflight hfresh hfree
    obtain ⟨p, hp⟩ := henabled
    cases u with
    | worker w =>
      rw [(hlive.crew w).worker] at hflight
      cases hflight
    | call n =>
      exact ⟨.call n, id, ⟨p.1, Function.update world.point (.call n) p.2⟩, hflight,
        by simp only [step, hp, Option.map_some]⟩
    | task w i =>
      exact ⟨.task w i, id, ⟨p.1, Function.update world.point (.task w i) p.2⟩, hflight,
        by simp only [step, hp, Option.map_some]⟩
  by_cases hwaits : ∀ seatId, (world.point t).awaitsRow = some seatId →
      world.shared.rowLock seatId = none
  · exact goes hflight hwaits
  · -- the row belongs to a transaction whose thread waits for no lock itself
    push Not at hwaits
    obtain ⟨seatId, -, hlocked⟩ := hwaits
    obtain ⟨u, hu⟩ := Option.ne_none_iff_exists'.mp hlocked
    have hwrites := hlive.locks seatId u hu
    apply goes (wroteRow_inFlight hwrites)
    intro other hother
    rw [wroteRow_awaitsRow hwrites] at hother
    cases hother

/-- A worker goes on once the messages of its batch have ended. -/
theorem batch_enabled (hlive : Live world) {w count : Nat} {mode : Mode}
    (hp : world.point (.worker w) = .batch mode count)
    (hended : ∀ i, (world.point (.task w i)).commandsLeft = 0) :
    ∃ next, step digests world (.act (.worker w) (.ok "")) = some next := by
  have hall : ∀ i < count, (world.point (.task w i)).ended = true := by
    intro i hi
    rcases (hlive.crew w).tasks i with hidle | hgoing | hdone
    · exact absurd hidle ((hlive.crew w).attended _ ((mem_batchTasks hp).mpr ⟨i, hi, rfl⟩))
    · have hzero := hended i
      cases hf : world.point (.task w i) with
      | readMessage | findBooking | sellRow | bookRow | commitBooking | publishBooked =>
        rw [hf] at hzero
        cases hzero
      | acknowledge =>
        rw [hf] at hzero
        cases hzero
      | _ =>
        rw [hf] at hgoing
        cases hgoing
    · exact hdone
  simp only [step, actWorker, hp, if_pos hall]
  exact ⟨_, rfl⟩

/-- The commands by which the threads `T` go on. -/
def CommandOf (T : Finset Thread) (l : Label) : Prop := ∃ t ∈ T, ∃ c, l = .act t c

/-- The commands of one thread. -/
def Label.actOf (t : Thread) : Label → Bool
  | .act u _ => decide (u = t)
  | _ => false

/-- What is left to do for the threads `T`. -/
def World.commandsLeft (T : Finset Thread) (world : World) : Nat :=
  ∑ t ∈ T, (world.point t).commandsLeft

theorem commandsLeft_le (f : Frame) : f.commandsLeft ≤ 9 := by
  cases f with
  | findEvent caller _ | evalshaHold caller _ _ | evalHold caller _ _ | holdReply caller _ _ _ =>
    cases caller <;> simp [Frame.commandsLeft, Caller.commandsAfterHold]
  | _ => simp [Frame.commandsLeft, Frame.rank]

/-- The threads in flight are calls and tasks among `T`. -/
structure InFlight (T : Finset Thread) (world : World) : Prop where
  live : Live world
  drawn : FinitelyDrawn world.shared
  among : ∀ t, 0 < (world.point t).commandsLeft → t ∈ T

theorem command_act {T : Finset Thread} (hworkers : ∀ w, .worker w ∉ T) {l : Label}
    (hl : CommandOf T l) (h : step digests world l = some world') :
    ∃ t ∈ T, (∃ c, l = .act t c) ∧
      (world'.point t).commandsLeft < (world.point t).commandsLeft ∧
        ∀ u, u ≠ t → world'.point u = world.point u := by
  obtain ⟨t, ht, c, rfl⟩ := hl
  refine ⟨t, ht, ⟨c, rfl⟩, ?_⟩
  have acted (h : ((world.point t).act digests world.shared t c).map (fun p : Store × Frame =>
      (⟨p.1, Function.update world.point t p.2⟩ : World)) = some world') :
      (world'.point t).commandsLeft < (world.point t).commandsLeft ∧
        ∀ u, u ≠ t → world'.point u = world.point u := by
    obtain ⟨p, hp, rfl⟩ := Option.map_eq_some_iff.mp h
    refine ⟨?_, fun u hu => Function.update_of_ne hu ..⟩
    simp only [Function.update_self]
    exact act_commandsLeft hp
  cases t with
  | worker w => exact absurd ht (hworkers w)
  | call n => exact acted h
  | task w i => exact acted h

theorem inFlight_step {T : Finset Thread} (hworkers : ∀ w, .worker w ∉ T)
    (hi : InFlight T world) {l : Label} (hl : CommandOf T l)
    (h : step digests world l = some world') :
    InFlight T world' ∧ world'.commandsLeft T < world.commandsLeft T := by
  obtain ⟨t, ht, -, hless, hother⟩ := command_act hworkers hl h
  obtain ⟨hlive, hdrawn⟩ := live_step hi.live h
  refine ⟨⟨hlive, hdrawn hi.drawn, fun u hu => ?_⟩, ?_⟩
  · by_cases hut : u = t
    · rw [hut]
      exact ht
    · rw [hother u hut] at hu
      exact hi.among u hu
  · apply Finset.sum_lt_sum
    · intro u _
      by_cases hut : u = t
      · rw [hut]
        exact hless.le
      · rw [hother u hut]
    · exact ⟨t, ht, hless⟩

/-- A command of a thread leaves it less to do, and a command of another as much. -/
theorem thread_step {T : Finset Thread} (hworkers : ∀ w, .worker w ∉ T) (t : Thread) {l : Label}
    (hl : CommandOf T l) (h : step digests world l = some world') :
    (l.actOf t = true → (world'.point t).commandsLeft < (world.point t).commandsLeft) ∧
      (l.actOf t = false → (world'.point t).commandsLeft ≤ (world.point t).commandsLeft) := by
  obtain ⟨u, -, ⟨c, rfl⟩, hless, hother⟩ := command_act hworkers hl h
  by_cases hut : t = u
  · subst hut
    exact ⟨fun _ => hless, fun _ => hless.le⟩
  · refine ⟨fun hown => absurd (of_decide_eq_true hown).symm hut, fun _ => ?_⟩
    rw [hother t hut]

/-- Whatever the order of their commands, the calls and tasks in flight end after at most nine
commands each; until the last has ended, one of them has a command that succeeds; and then no
worker waits for its batch any more. -/
theorem calls_and_tasks_end {start : World} {T : Finset Thread} {ls : List Label}
    (hinit : Initial start) (hfinite : FinitelyDrawn start.shared)
    (hreach : (engine digests).Reach start world)
    (hT : ∀ t, t ∈ T ↔ 0 < (world.point t).commandsLeft) (hls : ∀ l ∈ ls, CommandOf T l)
    (hrun : (engine digests).run world ls = some world') :
    (∀ t ∈ T, ls.countP (Label.actOf t) ≤ 9) ∧ ls.length ≤ 9 * T.card ∧
      ((∃ t ∈ T, 0 < (world'.point t).commandsLeft) →
        ∃ t ∈ T, ∃ id next, step digests world' (.act t (.ok id)) = some next) ∧
      ((∀ t ∈ T, (world'.point t).commandsLeft = 0) →
        ∀ w mode count, world'.point (.worker w) = .batch mode count →
          ∃ next, step digests world' (.act (.worker w) (.ok "")) = some next) := by
  have hlive := reach_live hinit hreach
  have hworkers : ∀ w, .worker w ∉ T := by
    intro w hw
    have hflight := (hT _).mp hw
    rw [(hlive.crew w).worker] at hflight
    cases hflight
  have hstart : InFlight T world :=
    ⟨hlive, reach_finitelyDrawn hinit hfinite hreach, fun t ht => (hT t).mpr ht⟩
  have hcommands : (engine digests).Along (fun _ l _ => CommandOf T l) world ls :=
    Machine.along_of_forall _ _ hls
  have hend : InFlight T world' := by
    have hevery : (engine digests).Every (InFlight T) world ls :=
      Machine.every_of_along _ (fun s l t hs hst hl => (inFlight_step hworkers hs hl hst).1)
        hstart hcommands
    exact hevery.last _ hrun
  refine ⟨fun t _ => ?_, ?_, ?_, ?_⟩
  · have hcount := Machine.count_le_rank (engine digests) (Label.actOf t)
      (fun world => (world.point t).commandsLeft)
      (fun s l t hs hst hl => (inFlight_step hworkers hs hl hst).1)
      (fun s l s' _ hst hl => (thread_step hworkers t hl hst).1)
      (fun s l s' _ hst hl => (thread_step hworkers t hl hst).2) hstart hrun hcommands
    exact (Nat.le_add_right _ _).trans (hcount.trans (commandsLeft_le _))
  · have hlength := Machine.length_le_rank (engine digests) (World.commandsLeft T)
      (fun s l t hs hst hl => (inFlight_step hworkers hs hl hst).1)
      (fun s l t hs hst hl => (inFlight_step hworkers hs hl hst).2) hstart hrun hcommands
    have hsum : world.commandsLeft T ≤ T.card * 9 :=
      Finset.sum_le_card_nsmul T _ 9 fun t _ => commandsLeft_le _
    omega
  · rintro ⟨t, -, hflight⟩
    have henabled : ∃ u id next, 0 < (world'.point u).commandsLeft ∧
        step digests world' (.act u (.ok id)) = some next :=
      live_enabled hend.live hend.drawn hflight
    obtain ⟨u, id, next, hu, hnext⟩ := henabled
    exact ⟨u, hend.among u hu, id, next, hnext⟩
  · intro hended w mode count hp
    apply batch_enabled hend.live hp
    intro i
    by_contra hne
    have hmem := hend.among (.task w i) (Nat.pos_of_ne_zero hne)
    exact hne (hended _ hmem)

end Progress

/-- A call that has just come in. -/
def orderComesIn : World :=
  ⟨oneSeat.shared, Function.update oneSeat.point (.call 0) (createOrder (requestOf "u"))⟩

theorem calls_and_tasks_end_order :
    ∃ world', (engine fun _ => true).run orderComesIn (acts (.call 0) ["h", "", ""]) =
        some world' ∧
      ∃ t ∈ ({.call 0} : Finset Thread), ∃ id next,
        step (fun _ => true) world' (.act t (.ok id)) = some next := by
  have hview : ((engine fun _ => true).run orderComesIn (acts (.call 0) ["h", "", ""])).map
      (fun world' => (world'.point (.call 0)).commandsLeft) = some 5 := by
    decide +kernel
  obtain ⟨world', hrun, hleft⟩ := Option.map_eq_some_iff.mp hview
  have hcall : (engine fun _ => true).step oneSeat (.createOrder 0 (requestOf "u")) =
      some orderComesIn := rfl
  have hfinite : FinitelyDrawn oneSeat.shared := by
    simp [FinitelyDrawn, oneSeat]
  have hT : ∀ t, t ∈ ({.call 0} : Finset Thread) ↔
      0 < (orderComesIn.point t).commandsLeft := by
    intro t
    rw [Finset.mem_singleton]
    by_cases ht : t = .call 0
    · subst ht
      exact iff_of_true rfl (by decide +kernel)
    · have hidle : orderComesIn.point t = .idle := Function.update_of_ne ht ..
      rw [hidle]
      exact iff_of_false ht (by decide)
  have hls : ∀ l ∈ acts (.call 0) ["h", "", ""], CommandOf {.call 0} l := by
    intro l hl
    obtain ⟨id, -, rfl⟩ := List.mem_map.mp hl
    exact ⟨.call 0, Finset.mem_singleton_self _, _, rfl⟩
  refine ⟨world', hrun, (calls_and_tasks_end oneSeat_initial hfinite
    (Machine.Reach.single _ hcall) hT hls hrun).2.2.1 ?_⟩
  exact ⟨.call 0, Finset.mem_singleton_self _, by rw [hleft]; decide⟩

end TicketEngine
