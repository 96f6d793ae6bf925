import TicketEngine.Stampede.Waiting

namespace TicketEngine

/-! ## Which calls are rejected -/

/-- The message a call on the event was rejected with. -/
def MapFrame.rejection (eventId : String) : MapFrame → Option String
  | .ended e (.error message) => if e = eventId then some message else none
  | _ => none

def NoneRejected (eventId : String) (world : MapWorld) : Prop :=
  ∀ n, (world.point n).rejection eventId = none

/-- The call stands at its last look. -/
def MapFrame.LastLook (eventId : String) : MapFrame → Prop
  | .waitRead call _ attempt => call.eventId = eventId ∧ WAIT_ATTEMPTS ≤ attempt + 1
  | _ => False

/-- By the last look of a waiting call, some call has executed its SET. -/
def FilledByLastLook (eventId : String) (world : MapWorld) : MapLabel → MapWorld → Prop
  | .act n _, _ => (world.point n).LastLook eventId → world.shared.writes eventId ≠ []
  | _, _ => True

section Rejection

variable {env : MapEnv} {s s' : MapStore} {n : Nat} {c : Choice} {f f' : MapFrame}
  {eventId : String}

theorem rejection_ended {e : String} {outcome : MapOutcome} :
    (MapFrame.ended e outcome).rejection eventId ≠ none ↔
      e = eventId ∧ ∃ message, outcome = .error message := by
  cases outcome with
  | ok result => simp [MapFrame.rejection]
  | error message => simp [MapFrame.rejection]

/-- A command that does not fail rejects its call exactly when it is the last look and no call
has executed its SET. -/
theorem MapStep.rejects (h : MapStep env s n c f s' f') (hinv : (waitOutline env eventId).inv s)
    (hw : f.Waits env eventId s) (hok : f.on eventId = true → f.fails env s c = false) :
    f'.rejection eventId ≠ none ↔ f.LastLook eventId ∧ s.writes eventId = [] := by
  obtain ⟨hread, hfilled⟩ := hinv
  have hgood {call : MapCall} {message : String} (hon : f.on eventId = true)
      (he : call.eventId = eventId) : s.look env call c ≠ .error message := by
    rw [look_ok (failed_of_fails (hok hon)), he]
    exact hread message
  have hnever {e : String} {result : SeatingMapResult} :
      ¬ (MapFrame.ended e (.ok result)).rejection eventId ≠ none := fun hr => hr rfl
  have hsent {message : String} (hon : f.on eventId = true) : c ≠ .fail message := by
    intro heq
    subst heq
    exact absurd (failed_of_fails (hok hon)) (by simp [Choice.failed])
  cases h with
  | direct_error herror =>
    refine iff_of_false (fun hr => ?_) fun hl => hl.1
    obtain ⟨he, -⟩ := rejection_ended.mp hr
    have hbad := hok (decide_eq_true he)
    rw [MapFrame.fails, herror] at hbad
    cases hbad
  | read_error hlook =>
    refine iff_of_false (fun hr => ?_) fun hl => hl.1
    obtain ⟨he, -⟩ := rejection_ended.mp hr
    exact hgood (decide_eq_true he) he hlook
  | acquire_error hfail =>
    refine iff_of_false (fun hr => ?_) fun hl => hl.1
    obtain ⟨he, -⟩ := rejection_ended.mp hr
    exact hsent (decide_eq_true he) hfail
  | release_error hfail =>
    refine iff_of_false (fun hr => ?_) fun hl => hl.1
    obtain ⟨he, -⟩ := rejection_ended.mp hr
    have hbad := hok (decide_eq_true he)
    rcases hfail with rfl | hdigest | hcached
    · cases hbad
    · simp [MapFrame.fails, MapStore.releaseMutex, getLuaScriptDigest, hdigest, Except.isOk,
        Except.toBool] at hbad
    · simp only [MapFrame.fails, MapStore.releaseMutex, getLuaScriptDigest] at hbad
      cases hd : env.digests .releaseMutex <;>
        simp [hd, hcached, Except.isOk, Except.toBool] at hbad
  | release_done =>
    refine iff_of_false (fun hr => ?_) fun hl => hl.1
    obtain ⟨he, message, rfl⟩ := rejection_ended.mp hr
    obtain ⟨-, result, hresult⟩ := hw he
    cases hresult
  | wait_error hlook =>
    refine iff_of_false (fun hr => ?_) fun hl => ?_
    · obtain ⟨he, -⟩ := rejection_ended.mp hr
      exact hgood (decide_eq_true he) he hlook
    · exact hgood (decide_eq_true hl.1.1) hl.1.1 hlook
  | wait_hit hlook =>
    refine iff_of_false hnever fun hl => ?_
    obtain ⟨⟨he, -⟩, hempty⟩ := hl
    rw [look_ok (failed_of_fails (hok (decide_eq_true he))), he, hw he hempty] at hlook
    cases hlook
  | wait_miss hlook hmore =>
    refine iff_of_false (fun hr => hr rfl) fun hl => ?_
    have hlast := hl.1.2
    omega
  | wait_over hlook hlast =>
    constructor
    · intro hr
      obtain ⟨rfl, -⟩ := rejection_ended.mp hr
      refine ⟨⟨rfl, hlast⟩, ?_⟩
      by_contra hset
      exact look_filled (hfilled hset) hlook
    · intro hall
      obtain ⟨⟨he, -⟩, -⟩ := hall
      exact rejection_ended.mpr ⟨he, _, rfl⟩
  | direct_found => exact iff_of_false hnever fun hl => hl.1
  | read_hit => exact iff_of_false hnever fun hl => hl.1
  | _ => exact iff_of_false (fun hr => hr rfl) fun hl => hl.1

theorem rejection_enter (eventId e : String) (useRedis : Bool) (now : Nat) :
    (getSeatingMapForMode e useRedis now).rejection eventId = none := by
  cases useRedis <;> rfl

/-- Only a command can be a last look. -/
theorem filledByLastLook_of_ne {world world' : MapWorld} {l : MapLabel}
    (hne : ∀ n c, l ≠ .act n c) : FilledByLastLook eventId world l world' := by
  cases l with
  | act n c => exact absurd rfl (hne n c)
  | _ => trivial

/-- A step rejects no call exactly when it is not a last look before the first SET. -/
theorem noneRejected_step {world world' : MapWorld} {l : MapLabel}
    (hw : (waitOutline env eventId).Valid world) (hp : NoneRejected eventId world)
    (hok : NoFailure env eventId world l world') (h : MapWorld.step env world l = some world') :
    NoneRejected eventId world' ↔ FilledByLastLook eventId world l world' := by
  have hupdate (n : Nat) (s : MapStore) (f : MapFrame) :
      NoneRejected eventId ⟨s, Function.update world.point n f⟩ ↔ f.rejection eventId = none := by
    have hiff := Function.forall_update_iff world.point (a := n) (b := f)
      fun _ (f : MapFrame) => f.rejection eventId = none
    exact hiff.trans (and_iff_left fun m _ => hp m)
  rcases map_step_cases h with ⟨n, c, s, f, rfl, hstep, rfl⟩ | ⟨hne, hquiet⟩
  · have hiff := hstep.rejects hw.1 (hw.2 n) hok
    rw [hupdate, ← not_iff_not]
    refine hiff.trans ?_
    simp only [FilledByLastLook, Classical.not_imp, not_not]
  · refine iff_of_true ?_ (filledByLastLook_of_ne hne)
    rcases hquiet with ⟨n, e, useRedis, -, rfl⟩ | ⟨s, hq, rfl⟩
    · exact (hupdate ..).mpr (rejection_enter ..)
    · exact hp

end Rejection

/-! ## Owners in time -/

/-- The call owns the mutex and has neither found the cache filled nor executed its SET. -/
def MapFrame.Hydrates (eventId : String) (hold : MutexHold) : MapFrame → Prop
  | .owner _ _ (.release _) => False
  | .owner call own _ => call.eventId = eventId ∧ own = hold
  | _ => False

/-- The call failed to take the mutex at `failedAt`. -/
def MapFrame.WaitsSince (eventId : String) (failedAt : Nat) : MapFrame → Prop
  | .sleep call t _ _ => call.eventId = eventId ∧ t = failedAt
  | .waitRead call t _ => call.eventId = eventId ∧ t = failedAt
  | _ => False

/-- Until the first SET, each owner of the mutex has held it for less than the eight waits. -/
def HydratesInTime (eventId : String) (world : MapWorld) : Prop :=
  world.shared.writes eventId = [] → ∀ n hold, (world.point n).Hydrates eventId hold →
    world.shared.now < hold.since + WAIT_ATTEMPTS * WAIT_DELAY_MS

def MutexFree (eventId : String) (s : MapStore) : Prop :=
  Lease.read s.now (s.keys (lockKey eventId)) = none

/-- The first SET is done, or a call that has held the mutex since `t` at the latest is about to
execute it. -/
def Hydrated (eventId : String) (t : Nat) (world : MapWorld) : Prop :=
  world.shared.writes eventId ≠ [] ∨
    ∃ n hold, (world.point n).Hydrates eventId hold ∧ hold.since ≤ t

/-- A held mutex and a waiting call each mean that the cache is filled or about to be. -/
structure Covered (eventId : String) (world : MapWorld) : Prop where
  held : ¬ MutexFree eventId world.shared → Hydrated eventId world.shared.now world
  waiting : ∀ n failedAt, (world.point n).WaitsSince eventId failedAt →
    Hydrated eventId failedAt world

section InTime

variable {env : MapEnv} {s s' : MapStore} {n : Nat} {c : Choice} {f f' : MapFrame}
  {world world' : MapWorld} {eventId : String} {hold : MutexHold} {t t' : Nat}

theorem Hydrated.mono (h : Hydrated eventId t world) (ht : t ≤ t') :
    Hydrated eventId t' world := by
  rcases h with hset | ⟨n, hold, hn, hsince⟩
  · exact .inl hset
  · exact .inr ⟨n, hold, hn, hsince.trans ht⟩

/-- A mutex that time has not passed by stays held. -/
theorem MutexFree.later (h : MutexFree eventId s) (hnow : s.now ≤ s'.now)
    (hkeys : s'.keys (lockKey eventId) = s.keys (lockKey eventId)) : MutexFree eventId s' := by
  unfold MutexFree
  rw [hkeys]
  by_contra hheld
  obtain ⟨token, htoken⟩ := Option.ne_none_iff_exists'.mp hheld
  rw [MutexFree, Lease.read_earlier hnow htoken] at h
  cases h

/-- An owner goes on to its SET, or the first SET is behind it. -/
theorem MapStep.hydrates (h : MapStep env s n c f s' f') (hf : f.Holds n s)
    (hinv : (waitOutline env eventId).inv s) (hw : f.Waits env eventId s)
    (hok : f.on eventId = true → f.fails env s c = false) (hh : f.Hydrates eventId hold) :
    s'.writes eventId ≠ [] ∨ f'.Hydrates eventId hold := by
  have hnext := h.waits hf hinv.1 hw hok
  cases h with
  | locked_miss => exact .inr hh
  | load_found => exact .inr hh
  | locked_error => exact .inl (hnext hh.1).1
  | locked_hit => exact .inl (hnext hh.1).1
  | load_error => exact .inl (hnext hh.1).1
  | store_error => exact .inl (hnext hh.1).1
  | store_done => exact .inl (hnext hh.1).1
  | _ => exact hh.elim

/-- The mutex becomes held only by a call that now owns it. -/
theorem MapStep.taken (h : MapStep env s n c f s' f') (hfree : MutexFree eventId s)
    (hheld : ¬ MutexFree eventId s') : ∃ hold, f'.Hydrates eventId hold ∧ hold.since = s.now := by
  cases h with
  | acquire_won hdraw hwon =>
    rename_i call token s₁
    obtain ⟨-, rfl⟩ := draw_cases hdraw
    by_cases he : eventId = call.eventId
    · exact ⟨⟨token, s.now⟩, ⟨he.symm, rfl⟩, rfl⟩
    · exact (hheld (hfree.later (le_refl s.now) (takeMutex_lock _ n he _))).elim
  | acquire_lost hdraw _ => obtain ⟨-, rfl⟩ := draw_cases hdraw; exact absurd hfree hheld
  | store_done hc =>
    rename_i call own map load id
    exact absurd (hfree.later (le_refl s.now) (cacheMap_lock s call.eventId eventId map load)) hheld
  | release_done =>
    rename_i call own outcome
    refine absurd ?_ hheld
    by_cases he : eventId = call.eventId
    · subst he
      rcases release_mutex_cases s.now (s.keys (lockKey call.eventId)) own.token with
        hsame | ⟨-, hnone⟩
      · exact hfree.later (le_refl s.now) ((setKey_self ..).trans hsame)
      · rw [MutexFree, setKey_self, hnone, Lease.read_none]
    · exact hfree.later (le_refl s.now) (setKey_lock s he _)
  | _ => exact absurd hfree hheld

/-- A call comes to wait by losing the mutex to another. -/
theorem MapStep.waitsSince (h : MapStep env s n c f s' f') {failedAt : Nat}
    (hf' : f'.WaitsSince eventId failedAt) :
    f.WaitsSince eventId failedAt ∨ failedAt = s.now ∧ ¬ MutexFree eventId s := by
  cases h with
  | acquire_lost hdraw hheld =>
    obtain ⟨rfl, rfl⟩ := hf'
    refine .inr ⟨rfl, fun hfree => ?_⟩
    rw [MutexFree, hheld] at hfree
    cases hfree
  | wake => exact .inl hf'
  | wait_miss => exact .inl hf'
  | _ => exact hf'.elim

theorem covered_act (hcov : Covered eventId world) (hv : mapOutline.Valid world)
    (hw : (waitOutline env eventId).Valid world)
    (hok : (world.point n).on eventId → (world.point n).fails env world.shared c = false)
    (hstep : MapStep env world.shared n c (world.point n) s f) :
    Covered eventId ⟨s, Function.update world.point n f⟩ := by
  have hf := hv.2 n
  have hnow := (hstep.change hf).now
  have keep {t : Nat} (h : Hydrated eventId t world) :
      Hydrated eventId t ⟨s, Function.update world.point n f⟩ := by
    rcases h with hset | ⟨m, hold, hm, hsince⟩
    · exact .inl (hstep.written hf hset)
    · by_cases hmn : m = n
      · subst hmn
        rcases hstep.hydrates hf hw.1 (hw.2 m) hok hm with hset | hnext
        · exact .inl hset
        · exact .inr ⟨m, hold, by simpa only [Function.update_self] using hnext, hsince⟩
      · exact .inr ⟨m, hold, by simpa only [Function.update_of_ne hmn] using hm, hsince⟩
  constructor
  · intro hheld
    by_cases hfree : MutexFree eventId world.shared
    · obtain ⟨hold, hnext, hsince⟩ := hstep.taken hfree hheld
      refine .inr ⟨n, hold, by simpa only [Function.update_self] using hnext, ?_⟩
      simp only [hsince, hnow, le_refl]
    · simpa only [hnow] using keep (hcov.held hfree)
  · intro m failedAt hm
    by_cases hmn : m = n
    · subst hmn
      simp only [Function.update_self] at hm
      rcases hstep.waitsSince hm with hbefore | ⟨rfl, hheld⟩
      · exact keep (hcov.waiting m failedAt hbefore)
      · exact keep (hcov.held hheld)
    · simp only [Function.update_of_ne hmn] at hm
      exact keep (hcov.waiting m failedAt hm)

/-- What the environment leaves of the cover. -/
theorem covered_quiet (hcov : Covered eventId world) (hq : MapQuiet world.shared s) :
    Covered eventId ⟨s, world.point⟩ := by
  have keep {t : Nat} (h : Hydrated eventId t world) : Hydrated eventId t ⟨s, world.point⟩ := by
    unfold Hydrated
    rw [hq.writes]
    exact h
  refine ⟨fun hheld => ?_, fun n failedAt hn => keep (hcov.waiting n failedAt hn)⟩
  have hbefore : ¬ MutexFree eventId world.shared :=
    fun hfree => hheld (hfree.later hq.now (hq.lock eventId))
  exact (keep (hcov.held hbefore)).mono hq.now

/-- A call that comes in neither owns the mutex nor waits for it. -/
theorem covered_enter {e : String} {useRedis : Bool} (hcov : Covered eventId world)
    (hidle : world.point n = .idle) :
    Covered eventId ⟨world.shared, Function.update world.point n
      (getSeatingMapForMode e useRedis world.shared.now)⟩ := by
  have keep {t : Nat} (h : Hydrated eventId t world) : Hydrated eventId t ⟨world.shared,
      Function.update world.point n (getSeatingMapForMode e useRedis world.shared.now)⟩ := by
    refine h.imp_right fun ⟨m, hold, hm, hsince⟩ => ⟨m, hold, ?_, hsince⟩
    have hmn : m ≠ n := by
      intro heq
      subst heq
      rw [hidle] at hm
      exact hm
    simpa only [Function.update_of_ne hmn] using hm
  refine ⟨fun hheld => keep (hcov.held hheld), fun m failedAt hm => ?_⟩
  by_cases hmn : m = n
  · subst hmn
    simp only [Function.update_self] at hm
    cases useRedis <;> exact hm.elim
  · simp only [Function.update_of_ne hmn] at hm
    exact keep (hcov.waiting m failedAt hm)

theorem covered_step {l : MapLabel} (hcov : Covered eventId world) (hv : mapOutline.Valid world)
    (hw : (waitOutline env eventId).Valid world) (hok : NoFailure env eventId world l world')
    (h : MapWorld.step env world l = some world') : Covered eventId world' := by
  rcases map_step_cases h with ⟨n, c, s, f, rfl, hstep, rfl⟩ | ⟨-, hquiet⟩
  · exact covered_act hcov hv hw hok hstep
  · rcases hquiet with ⟨n, e, useRedis, hidle, rfl⟩ | ⟨s, hq, rfl⟩
    · exact covered_enter hcov hidle
    · exact covered_quiet hcov hq

/-- At a last look eight waits have passed, so an owner in time has executed its SET. -/
theorem filledByLastLook_of_inTime {l : MapLabel} (hcov : Covered eventId world)
    (hv : mapOutline.Valid world) (htime : HydratesInTime eventId world) :
    FilledByLastLook eventId world l world' := by
  cases l with
  | act n c =>
    intro hlast hempty
    have hf := hv.2 n
    have hcover := hcov.waiting n
    generalize world.point n = f at hlast hf hcover
    cases f with
    | waitRead call failedAt attempt =>
      obtain ⟨he, hattempt⟩ := hlast
      have hlook : failedAt + WAIT_DELAY_MS * (attempt + 1) ≤ world.shared.now := hf
      rcases hcover failedAt ⟨he, rfl⟩ with hset | ⟨m, hold, hm, hsince⟩
      · exact hset hempty
      · have hless := htime hempty m hold hm
        simp only [WAIT_ATTEMPTS, WAIT_DELAY_MS] at hattempt hlook hless
        omega
    | _ => exact hlast.elim
  | _ => trivial

end InTime

/-! ## Every call ends -/

/-- A bound on the commands a call has still to send. -/
def MapFrame.rank : MapFrame → Nat
  | .idle => 0
  | .getSeatingMapDirect _ => 1
  | .readCache _ => 20
  | .acquireMutex _ => 19
  | .owner _ _ .readCache => 4
  | .owner _ _ .loadFromDatabase => 3
  | .owner _ _ (.store _ _) => 2
  | .owner _ _ (.release _) => 1
  | .sleep _ _ attempt _ => 2 * (WAIT_ATTEMPTS - attempt) + 2
  | .waitRead _ _ attempt => 2 * (WAIT_ATTEMPTS - attempt) + 1
  | .ended _ _ => 0

/-- The timer of the call, if it sleeps, has run out. -/
def MapFrame.awake (now : Nat) : MapFrame → Bool
  | .sleep _ _ _ wake => wake ≤ now
  | _ => true

def MapLabel.actOf (n : Nat) : MapLabel → Bool
  | .act m _ => m = n
  | _ => false

section Ends

variable {env : MapEnv} {s s' : MapStore} {n : Nat} {c : Choice} {f f' : MapFrame}
  {world world' : MapWorld} {eventId : String}

theorem MapStep.rank_lt (h : MapStep env s n c f s' f') : f'.rank < f.rank := by
  cases h with
  | wait_miss _ hmore => simp only [MapFrame.rank]; omega
  | _ => simp [MapFrame.rank, WAIT_ATTEMPTS]

theorem MapStep.not_idle (h : MapStep env s n c f s' f') : f' ≠ .idle := by
  cases h <;> exact MapFrame.noConfusion

theorem act_enabled {id : String} (hon : f.on eventId = true) (hawake : f.awake s.now = true)
    (hfresh : s.drawn id = none) : (f.act env s n (.ok id)).isSome = true := by
  cases f with
  | idle => cases hon
  | ended e outcome => cases hon
  | acquireMutex call =>
    simp only [MapFrame.act, stepAcquireMutex, MapStore.draw, if_pos hfresh, Option.bind_eq_bind,
      Option.bind_some, acquireMutex]
    cases Lease.read s.now (s.keys (lockKey call.eventId)) <;> rfl
  | sleep call failedAt attempt wake =>
    simp only [MapFrame.act, stepSleep, if_pos (of_decide_eq_true hawake), Option.map_some,
      Option.isSome_some]
  | _ => rfl

/-- The call has come in. -/
def Begun (n : Nat) (world : MapWorld) : Prop := world.point n ≠ .idle

theorem rank_step {l : MapLabel} (hbegun : Begun n world)
    (h : MapWorld.step env world l = some world') :
    Begun n world' ∧ (l.actOf n = true → (world'.point n).rank < (world.point n).rank) ∧
      (l.actOf n = false → (world'.point n).rank ≤ (world.point n).rank) := by
  rcases map_step_cases h with ⟨m, c, s, f, rfl, hstep, rfl⟩ | ⟨hne, hquiet⟩
  · by_cases hnm : n = m
    · subst hnm
      have hless := hstep.rank_lt
      simp only [Begun, Function.update_self, MapLabel.actOf, decide_true]
      exact ⟨hstep.not_idle, fun _ => hless, fun hc => (nomatch hc)⟩
    · simp only [Begun, Function.update_of_ne hnm, MapLabel.actOf]
      exact ⟨hbegun, fun hc => absurd (of_decide_eq_true hc).symm hnm, fun _ => le_refl _⟩
  · have hother : l.actOf n ≠ true := by
      cases l with
      | act m c => exact absurd rfl (hne m c)
      | _ => simp [MapLabel.actOf]
    rcases hquiet with ⟨m, e, useRedis, hidle, rfl⟩ | ⟨s, -, rfl⟩
    · have hnm : n ≠ m := by
        intro heq
        subst heq
        exact hbegun hidle
      simp only [Begun, Function.update_of_ne hnm]
      exact ⟨hbegun, fun hc => absurd hc hother, fun _ => le_refl _⟩
    · exact ⟨hbegun, fun hc => absurd hc hother, fun _ => le_refl _⟩

theorem rank_le (f : MapFrame) : f.rank ≤ 20 := by
  cases f with
  | owner call hold point => cases point <;> simp [MapFrame.rank]
  | sleep call failedAt attempt wake => simp only [MapFrame.rank, WAIT_ATTEMPTS]; omega
  | waitRead call failedAt attempt => simp only [MapFrame.rank, WAIT_ATTEMPTS]; omega
  | _ => simp [MapFrame.rank]

/-- A call that has come in sends at most as many more commands as its rank. -/
theorem commands_le_rank (hbegun : Begun n world) {ls : List MapLabel}
    (hrun : (seatingMaps env).run world ls = some world') :
    ls.countP (MapLabel.actOf n) ≤ (world.point n).rank := by
  have hany : (seatingMaps env).Along (fun _ _ _ => True) world ls :=
    Machine.along_of_forall _ _ fun _ _ => trivial
  have h := Machine.count_le_rank (seatingMaps env) (I := Begun n) (MapLabel.actOf n)
    (fun w => (w.point n).rank) (fun _ _ _ hb hs _ => (rank_step hb hs).1)
    (fun _ _ _ hb hs _ => (rank_step hb hs).2.1) (fun _ _ _ hb hs _ => (rank_step hb hs).2.2)
    hbegun hrun hany
  exact (Nat.le_add_right _ _).trans h

/-- A call that has come in sends at most twenty commands in any run that follows. -/
theorem commands_le (hbegun : Begun n world) {ls : List MapLabel}
    (hrun : (seatingMaps env).run world ls = some world') :
    ls.countP (MapLabel.actOf n) ≤ 20 :=
  (commands_le_rank hbegun hrun).trans (rank_le _)

end Ends

/-- Waiting readers: where no command fails and the filled cache is kept, no call is rejected
exactly when by every last look some call has executed its SET. That is so when each owner
executes it less than eight waits after taking the mutex. Every call ends after at most twenty
commands, and can send its next one once its timer has run out. -/
theorem waiting_readers_served (env : MapEnv) {world₀ : MapWorld} (hinit : world₀.Initial)
    (eventId : String) (hread : Readable env eventId world₀.shared) {ls : List MapLabel}
    (hok : (seatingMaps env).Along (NoFailure env eventId) world₀ ls)
    (hkept : (seatingMaps env).Along (CacheKept eventId 0) world₀ ls) :
    ((seatingMaps env).Every (NoneRejected eventId) world₀ ls ↔
        (seatingMaps env).Along (FilledByLastLook eventId) world₀ ls) ∧
      (MutexFree eventId world₀.shared →
        (seatingMaps env).Every (HydratesInTime eventId) world₀ ls →
        (seatingMaps env).Along (FilledByLastLook eventId) world₀ ls) ∧
      ∀ world n, (seatingMaps env).run world₀ ls = some world →
        (world.point n).on eventId = true →
        (∀ more world', (seatingMaps env).run world more = some world' →
          more.countP (MapLabel.actOf n) ≤ 20) ∧
        ∀ id, world.shared.drawn id = none → (world.point n).awake world.shared.now = true →
          (MapWorld.step env world (.act n (.ok id))).isSome = true := by
  have hstart := hinit.waits hread
  have hcond := Machine.Along.and _ hok hkept
  refine ⟨?_, fun hfree htime => ?_, fun world n hrun hon => ⟨fun more world' hmore => ?_, ?_⟩⟩
  · refine Machine.every_iff_along_within (seatingMaps env)
      (J := fun w => mapOutline.Valid w ∧ (waitOutline env eventId).Valid w)
      (fun w l w' hj hstep hd => ?_) (fun w l w' hj hp hstep hd => ?_)
      ⟨hinit.valid, hstart⟩ (fun n => by rw [hinit.idle n]; rfl) hcond
    · exact ⟨map_valid_step env w l w' hj.1 hstep,
        wait_valid_step hj.1 hj.2 hd.1 hd.2 hstep⟩
    · exact noneRejected_step hj.2 hp hd.1 hstep
  · have hcovered : Covered eventId world₀ := by
      refine ⟨fun hheld => absurd hfree hheld, fun n failedAt hn => ?_⟩
      rw [hinit.idle n] at hn
      exact hn.elim
    have hevery := Machine.every_of_along (seatingMaps env)
      (I := fun w => mapOutline.Valid w ∧ (waitOutline env eventId).Valid w ∧ Covered eventId w)
      (fun w l w' hi hstep hd => ⟨map_valid_step env w l w' hi.1 hstep,
        wait_valid_step hi.1 hi.2.1 hd.1 hd.2 hstep,
        covered_step hi.2.2 hi.1 hi.2.1 hd.1 hstep⟩) ⟨hinit.valid, hstart, hcovered⟩ hcond
    exact Machine.Along.mono _ (fun w l w' h => filledByLastLook_of_inTime h.1.1.2.2 h.1.1.1 h.2.1)
      (Machine.Along.and _ (Machine.Every.along _ hevery) (Machine.Every.along _ htime))
  · refine commands_le (fun hidle => ?_) hmore
    rw [hidle] at hon
    cases hon
  · intro id hfresh hawake
    change (Option.map _ ((world.point n).act env world.shared n (.ok id))).isSome = true
    rw [Option.isSome_map]
    exact act_enabled hon hawake hfresh

/-- The owner fills the cache while the other call is in its first wait. -/
def quickLoad : List MapLabel :=
  [.getSeatingMapForMode 0 "e" true, .getSeatingMapForMode 1 "e" true] ++
    mapActs 0 ["", "t0", ""] ++ mapActs 1 ["", "t1"] ++ mapActs 0 ["", "", ""] ++
    [.advance 25] ++ mapActs 1 ["", ""]

theorem coldCache_readable : Readable plainEnv "e" coldCache.shared := by
  intro message
  rw [readCachedMap_none rfl]
  intro h
  cases h

theorem waiting_readers_served_quickLoad :
    (seatingMaps plainEnv).Every (NoneRejected "e") coldCache quickLoad := by
  have hnow : (seatingMaps plainEnv).Every
      (fun world => world.shared.now < WAIT_ATTEMPTS * WAIT_DELAY_MS) coldCache quickLoad := by
    decide +kernel
  have hok : (seatingMaps plainEnv).Along (NoFailure plainEnv "e") coldCache quickLoad := by
    decide +kernel
  have hkept : (seatingMaps plainEnv).Along (CacheKept "e" 0) coldCache quickLoad := by
    decide +kernel
  have h := waiting_readers_served plainEnv coldCache_initial "e" coldCache_readable hok hkept
  exact h.1.mpr (h.2.1 rfl (hnow.mono _ fun _ hw _ _ _ _ => Nat.lt_add_left _ hw))

def MapFrame.returned : MapFrame → Bool
  | .ended _ (.ok _) => true
  | _ => false

/-- The owner takes four seconds to load the map, well within its lease of five. -/
def slowLoad : List MapLabel :=
  [.getSeatingMapForMode 0 "e" true, .getSeatingMapForMode 1 "e" true] ++
    mapActs 0 ["", "t0", ""] ++ mapActs 1 ["", "t1"] ++
    (List.replicate 8 (.advance 25 :: mapActs 1 ["", ""])).flatten ++ [.advance 3800] ++
    mapActs 0 ["", "", ""]

theorem waiting_readers_rejected_slowLoad :
    (seatingMaps plainEnv).Along (NoFailure plainEnv "e") coldCache slowLoad ∧
      (seatingMaps plainEnv).Along (CacheKept "e" 0) coldCache slowLoad ∧
      (seatingMaps plainEnv).Along (SetsInLease "e") coldCache slowLoad ∧
      ∃ world, (seatingMaps plainEnv).run coldCache slowLoad = some world ∧
        (world.point 0).returned = true ∧
        (world.point 1).rejection "e" =
          some "Seating map hydration timed out for event: e" := by
  have hnow : (seatingMaps plainEnv).Every (fun world => world.shared.now ≤ LOCK_TTL_MS)
      coldCache slowLoad := by
    decide +kernel
  refine ⟨by decide +kernel, by decide +kernel, ?_, ?_⟩
  · exact Machine.Along.mono _ (fun _ _ _ h _ _ _ _ => Nat.le_add_left_of_le h.1)
      (Machine.Every.along _ hnow)
  · have hview : ((seatingMaps plainEnv).run coldCache slowLoad).map
        (fun world => ((world.point 0).returned, (world.point 1).rejection "e")) =
        some (true, some "Seating map hydration timed out for event: e") := by
      decide +kernel
    obtain ⟨world, hrun, hworld⟩ := Option.map_eq_some_iff.mp hview
    exact ⟨world, hrun, (Prod.mk.inj hworld).1, (Prod.mk.inj hworld).2⟩

end TicketEngine
