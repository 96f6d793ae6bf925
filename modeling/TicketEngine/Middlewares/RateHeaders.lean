import TicketEngine.Middlewares.SlidingLog

namespace TicketEngine

/-! ## A client's key -/

/-- The members and scores under a client's key, whether it has expired or not. -/
def RateRedis.stored (configuration : RateLimiterConfiguration) (r : RateRedis)
    (client : String) : List (String × Int) :=
  match r.zsets (rateKey configuration client) with
  | some cell => cell.value.entries
  | none => []

/-- The script can be run. -/
structure Ready (digests : ScriptDigests) (r : RateRedis) : Prop where
  digest : digests .slidingWindow = true
  cached : r.cached .slidingWindow = true

/-- The entries of a log that are a client's. -/
def entriesOf (client : String) (log : List (RateCall × RateOutcome)) :
    List (RateCall × RateOutcome) :=
  log.filter fun entry => entry.1.client = client

section Call

variable {digests : ScriptDigests} {disabled : Option String}
  {configuration : RateLimiterConfiguration} {r : RateRedis} {call : RateCall}

theorem retained_sublist :
    (r.retained configuration call).entries.Sublist (r.stored configuration call.client) := by
  unfold RateRedis.retained RateRedis.stored
  cases r.zsets (rateKey configuration call.client) with
  | none => exact .slnil
  | some cell =>
    rw [Lease.read_some]
    split_ifs
    · exact List.filter_sublist
    · exact List.nil_sublist _

theorem retained_eq_nil (h : ∀ e ∈ r.stored configuration call.client,
      0 ≤ e.2 ∧ e.2 + configuration.windowMs ≤ call.now) :
    (r.retained configuration call).entries = [] := by
  apply List.eq_nil_iff_forall_not_mem.mpr
  intro e he
  obtain ⟨hpos, hold⟩ := h e (retained_sublist.subset he)
  have hkept := (List.mem_filter.mp he).2
  simp only [decide_not, Bool.not_eq_eq_eq_not, Bool.not_true, decide_eq_false_iff_not] at hkept
  omega

/-- A call is let through unseen, cannot run its script, or is limited; only the last touches
Redis. -/
theorem rateLimiter_cases (digests : ScriptDigests) (disabled : Option String)
    (configuration : RateLimiterConfiguration) (r : RateRedis) (call : RateCall) :
    rateLimiter digests disabled configuration r call = (r, .next []) ∨
      ¬ Ready digests r ∧
        (∃ e, rateLimiter digests disabled configuration r call = (r, .thrown e)) ∨
      Limited digests disabled configuration r call := by
  by_cases hseen : bypassed disabled configuration call.request = true
  · left
    rw [rateLimiter, if_pos hseen]
  · right
    by_cases hd : digests .slidingWindow = true
    · by_cases hc : r.cached .slidingWindow = true
      · exact .inr ⟨Bool.not_eq_true _ ▸ hseen, hd, hc⟩
      · left
        refine ⟨fun hr => hc hr.cached, ?_⟩
        simp [rateLimiter, hseen, RateRedis.evalsha, getLuaScriptDigest, hd, hc]
    · left
      refine ⟨fun hr => hd hr.digest, ?_⟩
      simp [rateLimiter, hseen, RateRedis.evalsha, getLuaScriptDigest, hd]

/-- A response with a header has run the script. -/
theorem limited_of_header {name : String} {value : Int}
    (h : (rateLimiter digests disabled configuration r call).2.header name = some value) :
    Limited digests disabled configuration r call := by
  rcases rateLimiter_cases digests disabled configuration r call with
    hnext | ⟨-, e, hthrown⟩ | hl
  · rw [hnext] at h
    cases h
  · rw [hthrown] at h
    cases h
  · exact hl

/-- A call adds one entry at most, and passes while one more fits. -/
theorem call_grows (disabled : Option String) (call : RateCall) (hr : Ready digests r)
    (hW : 1 ≤ configuration.windowMs) :
    ((rateLimiter digests disabled configuration r call).1.stored configuration
        call.client).length ≤ (r.stored configuration call.client).length + 1 ∧
      ((r.stored configuration call.client).length + 1 ≤ configuration.maxRequests →
        (rateLimiter digests disabled configuration r call).2.passed = true) := by
  rcases rateLimiter_cases digests disabled configuration r call with hnext | ⟨hnot, -⟩ | hl
  · rw [hnext]
    exact ⟨Nat.le_succ _, fun _ => rfl⟩
  · exact absurd hr hnot
  · obtain ⟨deadline, result, heq, -, hallowed, -, -⟩ := rateLimiter_added hl hW rfl
    have hcard := SortedSet.card_add_le (r.retained configuration call) call.now call.member
    have hkept : (r.retained configuration call).card ≤
        (r.stored configuration call.client).length := retained_sublist.length_le
    rw [heq]
    refine ⟨?_, fun hroom => ?_⟩
    · simp only [RateRedis.stored, Function.update_self]
      exact hcard.trans (Nat.succ_le_succ hkept)
    · rw [respond_passed, hallowed]
      omega

/-- A call passes when a window has gone by since every entry of its client. -/
theorem call_after_window (disabled : Option String) (hr : Ready digests r)
    (hW : 1 ≤ configuration.windowMs) (hmax : 1 ≤ configuration.maxRequests)
    (h : ∀ e ∈ r.stored configuration call.client,
      0 ≤ e.2 ∧ e.2 + configuration.windowMs ≤ call.now) :
    (rateLimiter digests disabled configuration r call).2.passed = true := by
  rcases rateLimiter_cases digests disabled configuration r call with hnext | ⟨hnot, -⟩ | hl
  · rw [hnext]
    rfl
  · exact absurd hr hnot
  · obtain ⟨deadline, result, heq, -, hallowed, -, -⟩ := rateLimiter_added hl hW rfl
    have hcard := SortedSet.card_add_le (r.retained configuration call) call.now call.member
    have hempty : (r.retained configuration call).card = 0 := by
      rw [SortedSet.card, retained_eq_nil h]
      rfl
    rw [heq, respond_passed, hallowed]
    omega

/-- What remains is what still fits under the client's key. -/
theorem remaining_fits (hW : 1 ≤ configuration.windowMs) {remaining : Int}
    (h : (rateLimiter digests disabled configuration r call).2.header "RateLimit-Remaining" =
      some remaining) :
    remaining = 0 ∨ ((rateLimiter digests disabled configuration r call).1.stored configuration
      call.client).length + remaining.toNat ≤ configuration.maxRequests := by
  obtain ⟨deadline, result, heq, -, -, hremaining, -⟩ :=
    rateLimiter_added (limited_of_header h) hW rfl
  rw [heq, respond_remaining, hremaining] at h
  have hvalue := Option.some.inj h
  rw [heq]
  simp only [RateRedis.stored, Function.update_self]
  change remaining = 0 ∨
    ((r.retained configuration call).add call.now call.member).card + remaining.toNat ≤
      configuration.maxRequests
  omega

/-- The seconds of a rejection cover the window. -/
theorem retry_covers (hW : 1 ≤ configuration.windowMs) {seconds : Int}
    (h : (rateLimiter digests disabled configuration r call).2.header "Retry-After" =
      some seconds) : (configuration.windowMs : Int) ≤ seconds * 1000 := by
  obtain ⟨deadline, result, heq, -, -, -, hreset⟩ := rateLimiter_added (limited_of_header h) hW rfl
  rw [heq, respond_retry] at h
  split_ifs at h
  have hvalue := Option.some.inj h
  rw [hreset] at hvalue
  unfold ceilSeconds at hvalue
  omega

/-- The scores a call leaves under its client's key are the old ones and its timestamp. -/
theorem call_scores (hW : 1 ≤ configuration.windowMs) {e : String × Int}
    (he : e ∈ (rateLimiter digests disabled configuration r call).1.stored configuration
      call.client) :
    e ∈ r.stored configuration call.client ∨ e.2 = call.now := by
  rcases rateLimiter_cases digests disabled configuration r call with
    hnext | ⟨-, error, hthrown⟩ | hl
  · rw [hnext] at he
    exact .inl he
  · rw [hthrown] at he
    exact .inl he
  · obtain ⟨deadline, result, heq, -, -, -, -⟩ := rateLimiter_added hl hW rfl
    rw [heq] at he
    simp only [RateRedis.stored, Function.update_self] at he
    rcases SortedSet.mem_add he with hold | rfl
    · exact .inl (retained_sublist.subset hold)
    · exact .inr rfl

end Call

section Run

variable {digests : ScriptDigests} {disabled : Option String}
  {configuration : RateLimiterConfiguration} {world world' : RateWorld}
  {calls : List RateCall} {after : List (RateCall × RateOutcome)} {client : String}

theorem stored_frame (r : RateRedis) {call : RateCall} (h : call.client ≠ client) :
    (rateLimiter digests disabled configuration r call).1.stored configuration client =
      r.stored configuration client := by
  have hkey : rateKey configuration client ≠ rateKey configuration call.client :=
    fun hk => h (rateKey_inj hk).symm
  rw [RateRedis.stored, (rateLimiter_frame digests disabled configuration r call).2 _ hkey,
    RateRedis.stored]

theorem Ready.call {r : RateRedis} (hr : Ready digests r) (call : RateCall) :
    Ready digests (rateLimiter digests disabled configuration r call).1 := by
  refine ⟨hr.digest, ?_⟩
  rw [(rateLimiter_frame digests disabled configuration r call).1]
  exact hr.cached

/-- A run adds to the log an entry for each of its calls. -/
theorem run_added (hrun : (rateLimiting digests disabled configuration).run world calls =
      some world') :
    ∃ added, world'.log = world.log ++ added ∧ added.map Prod.fst = calls := by
  induction calls generalizing world with
  | nil =>
    cases hrun
    exact ⟨[], (List.append_nil _).symm, rfl⟩
  | cons call calls ih =>
    obtain ⟨next, hstep, hrun⟩ := Machine.run_cons_some _ hrun
    obtain ⟨-, rfl⟩ := rateLimiting_step hstep
    obtain ⟨added, hlog, hcalls⟩ := ih hrun
    exact ⟨_ :: added, hlog.trans (List.append_assoc ..), congrArg (call :: ·) hcalls⟩

/-- The first call of a client in a run finds the client's key as it was before the run. -/
theorem first_call {entry : RateCall × RateOutcome} {rest : List (RateCall × RateOutcome)}
    (hready : Ready digests world.redis)
    (hrun : (rateLimiting digests disabled configuration).run world calls = some world')
    (hlog : world'.log = world.log ++ after) (hafter : entriesOf client after = entry :: rest) :
    ∃ (r : RateRedis) (next : RateWorld) (later : List RateCall)
        (tail : List (RateCall × RateOutcome)),
      r.stored configuration client = world.redis.stored configuration client ∧
      Ready digests r ∧ entry.1.client = client ∧
      entry.2 = (rateLimiter digests disabled configuration r entry.1).2 ∧
      next.redis = (rateLimiter digests disabled configuration r entry.1).1 ∧
      (rateLimiting digests disabled configuration).run next later = some world' ∧
      world'.log = next.log ++ tail ∧ entriesOf client tail = rest := by
  induction calls generalizing world after with
  | nil =>
    cases hrun
    have hnil : after = [] := List.append_cancel_left (hlog.symm.trans (List.append_nil _).symm)
    subst hnil
    cases hafter
  | cons call calls ih =>
    obtain ⟨next, hstep, hrun⟩ := Machine.run_cons_some _ hrun
    obtain ⟨-, rfl⟩ := rateLimiting_step hstep
    obtain ⟨added, hadded, -⟩ := run_added hrun
    have htail : after =
        (call, (rateLimiter digests disabled configuration world.redis call).2) :: added := by
      apply (List.append_right_inj world.log).mp
      rw [← hlog, hadded, List.append_assoc]
      rfl
    subst htail
    by_cases hclient : call.client = client
    · rw [entriesOf, List.filter_cons_of_pos (by simpa using hclient)] at hafter
      obtain ⟨rfl, hrest⟩ := List.cons.inj hafter
      exact ⟨world.redis, _, calls, added, rfl, hready, hclient, rfl, rfl, hrun, hadded, hrest⟩
    · rw [entriesOf, List.filter_cons_of_neg (by simpa using hclient)] at hafter
      obtain ⟨r, next, later, tail, hstored, hfound⟩ := ih (hready.call call) hrun hadded hafter
      exact ⟨r, next, later, tail, hstored.trans (stored_frame world.redis hclient), hfound⟩

/-- The next calls of a client pass for as long as they fit under its key. -/
theorem next_calls_pass (hW : 1 ≤ configuration.windowMs) (count : Nat)
    (hready : Ready digests world.redis)
    (hroom : (world.redis.stored configuration client).length + count ≤ configuration.maxRequests)
    (hrun : (rateLimiting digests disabled configuration).run world calls = some world')
    (hlog : world'.log = world.log ++ after) :
    ∀ entry ∈ (entriesOf client after).take count, entry.2.passed = true := by
  induction count generalizing world calls after with
  | zero => simp
  | succ count ih =>
    cases hafter : entriesOf client after with
    | nil => simp
    | cons first rest =>
      obtain ⟨r, next, later, tail, hstored, hr, rfl, houtcome, hnext, hrun', hlog', htail⟩ :=
        first_call hready hrun hlog hafter
      obtain ⟨hgrows, hpasses⟩ := call_grows disabled first.1 hr hW
      rw [hstored] at hgrows hpasses
      intro entry hentry
      rw [List.take_succ_cons] at hentry
      rcases List.mem_cons.mp hentry with rfl | hlater
      · rw [houtcome]
        exact hpasses (by omega)
      · rw [← htail] at hlater
        refine ih (hnext ▸ hr.call first.1) ?_ hrun' hlog' entry hlater
        rw [hnext]
        omega

/-- Every score under a client's key is the timestamp of one of its calls. -/
def Stamped (configuration : RateLimiterConfiguration) (world : RateWorld) : Prop :=
  ∀ client, ∀ e ∈ world.redis.stored configuration client,
    ∃ entry ∈ world.log, entry.1.client = client ∧ e.2 = entry.1.now

theorem stamped_step (hW : 1 ≤ configuration.windowMs) (hs : Stamped configuration world)
    {call : RateCall}
    (h : (rateLimiting digests disabled configuration).step world call = some world') :
    Stamped configuration world' := by
  obtain ⟨-, rfl⟩ := rateLimiting_step h
  intro client e he
  have old (he : e ∈ world.redis.stored configuration client) :
      ∃ entry ∈ world.log ++
          [(call, (rateLimiter digests disabled configuration world.redis call).2)],
        entry.1.client = client ∧ e.2 = entry.1.now := by
    obtain ⟨entry, hentry, hfound⟩ := hs client e he
    exact ⟨entry, List.mem_append_left _ hentry, hfound⟩
  by_cases hclient : call.client = client
  · subst hclient
    rcases call_scores hW he with hold | hnow
    · exact old hold
    · exact ⟨_, List.mem_append_right _ List.mem_cons_self, rfl, hnow⟩
  · rw [stored_frame world.redis hclient] at he
    exact old he

theorem stamped_run {start : RateWorld} (hW : 1 ≤ configuration.windowMs)
    (hstart : start.Fresh configuration)
    (hrun : (rateLimiting digests disabled configuration).run start calls = some world) :
    Stamped configuration world := by
  have hfirst : Stamped configuration start := by
    intro client e he
    rw [RateRedis.stored, hstart.zsets client] at he
    exact absurd he List.not_mem_nil
  exact Machine.run_invariant _ (I := Stamped configuration)
    (fun _ _ _ hs h => stamped_step hW hs h) hfirst hrun

/-- Where the clients' clocks do not run backwards, no score is later than the call just made. -/
theorem stored_past (hs : Stamped configuration world') {call : RateCall}
    (hstep : (rateLimiting digests disabled configuration).step world call = some world')
    (horder : ∀ entry ∈ world.log, entry.1.client = call.client → entry.1.now ≤ call.now) :
    ∀ e ∈ world'.redis.stored configuration call.client, 0 ≤ e.2 ∧ e.2 ≤ call.now := by
  intro e he
  obtain ⟨entry, hentry, hclient, hnow⟩ := hs call.client e he
  have hle : entry.1.now ≤ call.now := by
    rw [(rateLimiting_step hstep).2] at hentry
    rcases List.mem_append.mp hentry with hold | hlast
    · exact horder entry hold hclient
    · rw [List.mem_singleton.mp hlast]
  omega

/-- The point of a run at which an entry of its log was made. -/
theorem run_at {start : RateWorld} {before : List (RateCall × RateOutcome)} {call : RateCall}
    {outcome : RateOutcome} (hstart : start.log = [])
    (hrun : (rateLimiting digests disabled configuration).run start calls = some world)
    (hlog : world.log = before ++ (call, outcome) :: after) :
    ∃ earlier later found next, calls = earlier ++ call :: later ∧
      earlier = before.map Prod.fst ∧
      (rateLimiting digests disabled configuration).run start earlier = some found ∧
      (rateLimiting digests disabled configuration).step found call = some next ∧
      (rateLimiting digests disabled configuration).run next later = some world ∧
      found.log = before ∧
      outcome = (rateLimiter digests disabled configuration found.redis call).2 ∧
      next.redis = (rateLimiter digests disabled configuration found.redis call).1 ∧
      world.log = next.log ++ after := by
  have hcalls : calls = before.map Prod.fst ++ call :: after.map Prod.fst := by
    have hfirst := run_log calls hrun
    rw [hstart, hlog] at hfirst
    simpa using hfirst.symm
  subst hcalls
  rw [Machine.run_append] at hrun
  obtain ⟨found, hfound, hrun⟩ := Option.bind_eq_some_iff.mp hrun
  obtain ⟨next, hstep, hrun⟩ := Machine.run_cons_some _ hrun
  obtain ⟨earlier, hbefore, hearlier⟩ := run_added hfound
  rw [hstart, List.nil_append] at hbefore
  obtain ⟨added, hadded, -⟩ := run_added hrun
  have hnext : next = ⟨(rateLimiter digests disabled configuration found.redis call).1,
      found.log ++ [(call, (rateLimiter digests disabled configuration found.redis call).2)]⟩ :=
    (rateLimiting_step hstep).2
  have hsplit : before ++ (call, outcome) :: after =
      earlier ++ (call, (rateLimiter digests disabled configuration found.redis call).2) ::
        added := by
    rw [← hlog, hadded, hnext, hbefore, List.append_assoc]
    rfl
  have hlength : before.length = earlier.length := by
    simpa using (congrArg List.length hearlier).symm
  obtain ⟨hsame, hrest⟩ := List.append_inj hsplit hlength
  obtain ⟨hentry, rfl⟩ := List.cons.inj hrest
  refine ⟨_, _, found, next, rfl, rfl, hfound, hstep, hrun, hbefore.trans hsame.symm, ?_, ?_,
    hadded⟩
  · exact (Prod.mk.inj hentry).2
  · rw [hnext]

end Run

/-- The headers keep their promise: after a response that reports `remaining`, that many next
calls of the client pass; after a rejection with `Retry-After`, the client's next call passes if
it comes that many seconds later. -/
theorem rate_headers_kept {digests : ScriptDigests} {disabled : Option String}
    {configuration : RateLimiterConfiguration} (hW : 1 ≤ configuration.windowMs)
    (hmax : 1 ≤ configuration.maxRequests) {start world : RateWorld}
    (hstart : start.Fresh configuration) {calls : List RateCall}
    (horder : calls.Pairwise fun a b => a.client = b.client → a.now ≤ b.now)
    (hrun : (rateLimiting digests disabled configuration).run start calls = some world)
    {before after : List (RateCall × RateOutcome)} {call : RateCall} {outcome : RateOutcome}
    (hlog : world.log = before ++ (call, outcome) :: after) :
    (∀ remaining, outcome.header "RateLimit-Remaining" = some remaining →
      ∀ entry ∈ (entriesOf call.client after).take remaining.toNat, entry.2.passed = true) ∧
    (∀ seconds, outcome.header "Retry-After" = some seconds →
      ∀ entry rest, entriesOf call.client after = entry :: rest →
        (call.now : Int) + seconds * 1000 ≤ entry.1.now → entry.2.passed = true) := by
  obtain ⟨earlier, later, found, next, hcalls, hearlier, hfound, hstep, hrun', hbefore, houtcome,
    hnext, hafter⟩ := run_at hstart.log hrun hlog
  have ready {name : String} {value : Int} (h : outcome.header name = some value) :
      Ready digests next.redis := by
    rw [houtcome] at h
    have hl := limited_of_header h
    rw [hnext]
    exact Ready.call ⟨hl.digest, hl.cached⟩ call
  refine ⟨fun remaining hheader => ?_, fun seconds hheader entry rest hentries hlate => ?_⟩
  · have hready := ready hheader
    rw [houtcome] at hheader
    rcases remaining_fits hW hheader with rfl | hroom
    · simp
    · rw [← hnext] at hroom
      exact next_calls_pass hW remaining.toNat hready hroom hrun' hafter
  · have hready := ready hheader
    rw [houtcome] at hheader
    have hcovers := retry_covers hW hheader
    obtain ⟨r, last, later', tail, hstored, hr, hclient, hentry, -⟩ :=
      first_call hready hrun' hafter hentries
    have hstamped : Stamped configuration next :=
      stamped_step hW (stamped_run hW hstart hfound) hstep
    have hearlierNow : ∀ old ∈ found.log,
        old.1.client = call.client → old.1.now ≤ call.now := by
      intro old hold hsame
      rw [hbefore] at hold
      rw [hcalls, List.pairwise_append] at horder
      refine horder.2.2 old.1 ?_ call List.mem_cons_self hsame
      rw [hearlier]
      exact List.mem_map_of_mem hold
    rw [hentry]
    apply call_after_window disabled hr hW hmax
    rw [hclient, hstored]
    intro e he
    obtain ⟨hpos, hle⟩ := stored_past hstamped hstep hearlierNow e he
    omega

/-- Two calls fit into the window, the third is told to wait for two seconds. -/
def patientClient : List RateCall :=
  [callAt "10.0.0.1" 5000 "a", callAt "10.0.0.1" 5001 "b", callAt "10.0.0.1" 5002 "c",
    callAt "10.0.0.1" 7002 "d"]

theorem rate_headers_kept_patientClient :
    ∃ world first second rejected last,
      (rateLimiting (fun _ => true) none twoPerWindow).run noCalls patientClient = some world ∧
      world.log = [first, second, rejected, last] ∧
      first.2.header "RateLimit-Remaining" = some 1 ∧ second.2.passed = true ∧
      rejected.2.header "Retry-After" = some 2 ∧ last.2.passed = true := by
  have hview : ((rateLimiting (fun _ => true) none twoPerWindow).run noCalls patientClient).map
      (fun world => world.log.map fun entry =>
        (entry.2.header "RateLimit-Remaining", entry.2.header "Retry-After")) =
      some [(some 1, none), (some 0, none), (some 0, some 2), (some 1, none)] := by
    decide +kernel
  obtain ⟨world, hrun, hheaders⟩ := Option.map_eq_some_iff.mp hview
  have hcalls : world.log.map Prod.fst = patientClient := by
    have hfirst := run_log patientClient hrun
    simpa [noCalls] using hfirst
  obtain ⟨a, b, c, d, hlog⟩ : ∃ a b c d, world.log = [a, b, c, d] := by
    have hlength : world.log.length = 4 := by
      simpa using congrArg List.length hheaders
    match hw : world.log, hlength with
    | [a, b, c, d], _ => exact ⟨a, b, c, d, rfl⟩
  simp only [hlog, List.map_cons, List.map_nil, List.cons.injEq, Prod.mk.injEq, and_true]
    at hheaders
  simp only [hlog, List.map_cons, List.map_nil, patientClient, List.cons.injEq, and_true]
    at hcalls
  obtain ⟨ha, -, hc, -⟩ := hheaders
  obtain ⟨hcallA, hcallB, hcallC, hcallD⟩ := hcalls
  have kept {before after call outcome} (hsplit : world.log = before ++ (call, outcome) :: after) :=
    rate_headers_kept (by decide) (by decide) (noCalls_fresh twoPerWindow) (by decide +kernel)
      hrun hsplit
  refine ⟨world, a, b, c, d, hrun, hlog, ha.1, ?_, hc.2, ?_⟩
  · have hsplit : world.log = [] ++ (a.1, a.2) :: [b, c, d] := hlog
    apply (kept hsplit).1 1 ha.1
    simp only [entriesOf]
    rw [List.filter_cons_of_pos (by rw [hcallA, hcallB]; decide)]
    exact List.mem_cons_self
  · have hsplit : world.log = [a, b] ++ (c.1, c.2) :: [d] := hlog
    refine (kept hsplit).2 2 hc.2 d [] ?_ ?_
    · simp only [entriesOf]
      rw [List.filter_cons_of_pos (by rw [hcallC, hcallD]; decide)]
      rfl
    · rw [hcallC, hcallD]
      decide

end TicketEngine
