import TicketEngine.Middlewares.RateLimiter

namespace TicketEngine

/-! ## The declarative log -/

/-- The calls of a client in a log whose timestamps lie in `(t - windowMs, t]`. -/
def windowCount (windowMs : Nat) (log : List (RateCall × RateOutcome)) (client : String)
    (t : Nat) : Nat :=
  log.countP fun entry =>
    entry.1.client = client ∧ t < entry.1.now + windowMs ∧ entry.1.now ≤ t

/-- What the sliding-window log answers to its last call. -/
def AnswersLast (configuration : RateLimiterConfiguration)
    (log : List (RateCall × RateOutcome)) (call : RateCall) (outcome : RateOutcome) : Prop :=
  let count := windowCount configuration.windowMs log call.client call.now
  (outcome.passed = true ↔ count ≤ configuration.maxRequests) ∧
    outcome.header "RateLimit-Remaining" = some (max ((configuration.maxRequests : Int) - count) 0)

/-- Every call of a log got the answer of the sliding-window log up to it. -/
def AnswersAll (configuration : RateLimiterConfiguration)
    (log : List (RateCall × RateOutcome)) : Prop :=
  ∀ before call outcome after, log = before ++ (call, outcome) :: after →
    AnswersLast configuration (before ++ [(call, outcome)]) call outcome

/-- The members and scores that a client's calls have written. -/
def clientLog (log : List (RateCall × RateOutcome)) (client : String) : List (String × Int) :=
  (log.filter fun entry => entry.1.client = client).map fun entry =>
    (entry.1.member, (entry.1.now : Int))

/-- The key of a client holds what its log has recent at its last timestamp, and lives for at
least a window after that. -/
inductive Keeps (windowMs : Nat) (log : List (String × Int)) :
    Option (Lease (SortedSet String)) → Prop
  | fresh (hlog : log = []) : Keeps windowMs log none
  | held {z : SortedSet String} {deadline : Nat} (last : String × Int) (hlast : last ∈ log)
      (hbound : ∀ e ∈ log, e.2 ≤ last.2) (hentries : z.entries = recent windowMs last.2 log)
      (hdeadline : last.2 + windowMs ≤ deadline) : Keeps windowMs log (some ⟨z, deadline⟩)

section Log

variable {configuration : RateLimiterConfiguration} {log : List (RateCall × RateOutcome)}
  {call : RateCall} {outcome : RateOutcome} {client : String} {windowMs : Nat}

theorem clientLog_append (log log' : List (RateCall × RateOutcome)) (client : String) :
    clientLog (log ++ log') client = clientLog log client ++ clientLog log' client := by
  simp only [clientLog, List.filter_append, List.map_append]

theorem clientLog_own (call : RateCall) (outcome : RateOutcome) :
    clientLog [(call, outcome)] call.client = [(call.member, (call.now : Int))] := by
  simp [clientLog]

theorem clientLog_other (outcome : RateOutcome) (h : call.client ≠ client) :
    clientLog [(call, outcome)] client = [] := by
  simp [clientLog, h]

theorem mem_clientLog {e : String × Int} (h : e ∈ clientLog log client) :
    ∃ entry ∈ log, entry.1.client = client ∧ entry.1.member = e.1 ∧ (entry.1.now : Int) = e.2 := by
  obtain ⟨entry, hentry, rfl⟩ := List.mem_map.mp h
  obtain ⟨hmem, hclient⟩ := List.mem_filter.mp hentry
  exact ⟨entry, hmem, of_decide_eq_true hclient, rfl, rfl⟩

theorem windowCount_eq_recent {t : Nat} (h : ∀ e ∈ clientLog log client, e.2 ≤ t) :
    (recent windowMs t (clientLog log client)).length = windowCount windowMs log client t := by
  rw [recent, ← List.countP_eq_length_filter, clientLog, List.countP_map, List.countP_filter]
  apply List.countP_congr
  intro entry hentry
  simp only [Function.comp_apply, Bool.and_eq_true, decide_eq_true_eq]
  constructor
  · intro hall
    obtain ⟨hwindow, hclient⟩ := hall
    have hmem : (entry.1.member, (entry.1.now : Int)) ∈ clientLog log client :=
      List.mem_map.mpr ⟨entry, List.mem_filter.mpr ⟨hentry, decide_eq_true hclient⟩, rfl⟩
    have hle := h _ hmem
    simp only at hle
    exact ⟨hclient, by omega, by omega⟩
  · intro hall
    obtain ⟨hclient, hlow, hhigh⟩ := hall
    exact ⟨by omega, hclient⟩

/-- A trim at a later timestamp leaves the recent part of the client's log, whether or not the
key has expired by then. -/
theorem Keeps.retained {r : RateRedis}
    (hkeeps : Keeps configuration.windowMs (clientLog log call.client)
      (r.zsets (rateKey configuration call.client)))
    (htime : call.time = call.now) (hpast : ∀ e ∈ clientLog log call.client, e.2 ≤ call.now) :
    (r.retained configuration call).entries =
      recent configuration.windowMs call.now (clientLog log call.client) := by
  unfold RateRedis.retained
  generalize r.zsets (rateKey configuration call.client) = cell at hkeeps
  cases hkeeps with
  | fresh hlog =>
    rw [hlog]
    rfl
  | held last hlast hbound hentries hdeadline =>
    rename_i z deadline
    have hlate := hpast last hlast
    rw [Lease.read_some]
    split_ifs with hlive
    · have hpositive : ∀ e ∈ z.entries, 0 ≤ e.2 := by
        intro e he
        rw [hentries] at he
        obtain ⟨entry, -, -, -, hnow⟩ := mem_clientLog (List.mem_filter.mp he).1
        omega
      simp only [Option.getD_some]
      rw [trim_recent z hpositive, hentries, recent_recent hlate]
    · have hold : ∀ e ∈ clientLog log call.client,
          e.2 ≤ (call.now : Int) - configuration.windowMs := by
        intro e he
        have := hbound e he
        simp only at hlive
        omega
      rw [recent_eq_nil hold]
      rfl

/-- The step of the log: the call joins it under its own client. -/
theorem Keeps.snoc {r : RateRedis} {z : SortedSet String} {deadline : Nat}
    (hentries : z.entries = (r.retained configuration call).entries ++
      [(call.member, (call.now : Int))])
    (hretained : (r.retained configuration call).entries =
      recent configuration.windowMs call.now (clientLog log call.client))
    (hW : 1 ≤ configuration.windowMs) (htime : call.time = call.now)
    (hdeadline : call.time + configuration.windowMs ≤ deadline)
    (hpast : ∀ e ∈ clientLog log call.client, e.2 ≤ call.now) (outcome : RateOutcome) :
    Keeps configuration.windowMs (clientLog (log ++ [(call, outcome)]) call.client)
      (some ⟨z, deadline⟩) := by
  rw [clientLog_append, clientLog_own]
  refine .held (call.member, (call.now : Int)) ?_ ?_ ?_ ?_
  · exact List.mem_append_right _ List.mem_cons_self
  · intro e he
    rcases List.mem_append.mp he with he | he
    · exact hpast e he
    · rw [List.mem_singleton.mp he]
  · rw [hentries, hretained, recent_append]
    congr 1
    have : (call.now : Int) - configuration.windowMs < call.now := by omega
    simp [recent, this]
  · simp only
    omega

theorem AnswersAll.snoc (h : AnswersAll configuration log)
    (hlast : AnswersLast configuration (log ++ [(call, outcome)]) call outcome) :
    AnswersAll configuration (log ++ [(call, outcome)]) := by
  intro before c o after heq
  rcases List.eq_nil_or_concat after with rfl | ⟨after, last, rfl⟩
  · obtain ⟨rfl, hsame⟩ := List.append_inj' heq rfl
    cases hsame
    exact hlast
  · rw [List.concat_eq_append, ← List.cons_append, ← List.append_assoc] at heq
    obtain ⟨rfl, -⟩ := List.append_inj' heq rfl
    exact h before c o after rfl

end Log

/-! ## One call, and whole runs -/

/-- The rate limiter holds the log of every client and has answered every call from it. -/
structure LogKept (configuration : RateLimiterConfiguration) (world : RateWorld) : Prop where
  cached : world.redis.cached .slidingWindow = true
  keeps : ∀ client, Keeps configuration.windowMs (clientLog world.log client)
    (world.redis.zsets (rateKey configuration client))
  answers : AnswersAll configuration world.log

section Run

variable {digests : ScriptDigests} {disabled : Option String}
  {configuration : RateLimiterConfiguration} {world world' : RateWorld} {call : RateCall}

theorem rateLimiting_step
    (h : (rateLimiting digests disabled configuration).step world call = some world') :
    (∀ entry ∈ world.log, entry.1.uuid ≠ call.uuid) ∧
      world' = ⟨(rateLimiter digests disabled configuration world.redis call).1,
        world.log ++
          [(call, (rateLimiter digests disabled configuration world.redis call).2)]⟩ := by
  simp only [rateLimiting] at h
  split_ifs at h with hused
  refine ⟨fun entry hentry heq => hused ?_, (Option.some.inj h).symm⟩
  exact List.mem_map.mpr ⟨entry, hentry, heq⟩

/-- The call comes at the clock of Redis, no earlier than the client's calls before it. -/
def InTime (world : RateWorld) (call : RateCall) : Prop :=
  call.time = call.now ∧
    ∀ entry ∈ world.log, entry.1.client = call.client → entry.1.now ≤ call.now

theorem logKept_step (hW : 1 ≤ configuration.windowMs) (hdigest : digests .slidingWindow = true)
    (hseen : bypassed disabled configuration call.request = false) (htime : InTime world call)
    (hkept : LogKept configuration world)
    (h : (rateLimiting digests disabled configuration).step world call = some world') :
    LogKept configuration world' := by
  obtain ⟨hfresh, rfl⟩ := rateLimiting_step h
  obtain ⟨hclock, hpast⟩ := htime
  have hpast : ∀ e ∈ clientLog world.log call.client, e.2 ≤ call.now := by
    intro e he
    obtain ⟨entry, hentry, hclient, -, hnow⟩ := mem_clientLog he
    have := hpast entry hentry hclient
    omega
  have hretained := (hkept.keeps call.client).retained hclock hpast
  have hnew : ∀ e ∈ (world.redis.retained configuration call).entries, e.1 ≠ call.member := by
    intro e he heq
    rw [hretained] at he
    obtain ⟨entry, hentry, -, hmember, -⟩ := mem_clientLog (List.mem_filter.mp he).1
    exact hfresh entry hentry (member_inj (hmember.trans heq))
  obtain ⟨z, deadline, outcome, heq, hentries, hdeadline, hpassed, hremaining⟩ :=
    rateLimiter_limited ⟨hseen, hdigest, hkept.cached⟩ hW hnew
  have hsnoc := Keeps.snoc hentries hretained hW hclock hdeadline hpast outcome
  simp only [heq]
  refine ⟨hkept.cached, fun client => ?_, hkept.answers.snoc ?_⟩
  · by_cases hclient : client = call.client
    · subst hclient
      simpa only [Function.update_self] using hsnoc
    · have hkey : rateKey configuration client ≠ rateKey configuration call.client :=
        fun hk => hclient (rateKey_inj hk)
      simp only [Function.update_of_ne hkey]
      rw [clientLog_append, clientLog_other outcome (Ne.symm hclient), List.append_nil]
      exact hkept.keeps client
  · have hle : ∀ e ∈ clientLog (world.log ++ [(call, outcome)]) call.client, e.2 ≤ call.now := by
      intro e he
      rw [clientLog_append, clientLog_own] at he
      rcases List.mem_append.mp he with he | he
      · exact hpast e he
      · rw [List.mem_singleton.mp he]
    have hcount : windowCount configuration.windowMs (world.log ++ [(call, outcome)]) call.client
        call.now = (world.redis.retained configuration call).card + 1 := by
      rw [← windowCount_eq_recent hle]
      cases hsnoc with
      | held last hlast hbound hz _ =>
        have hlate : last.2 = call.now := by
          apply Int.le_antisymm (hle last hlast)
          apply hbound (call.member, (call.now : Int))
          rw [clientLog_append, clientLog_own]
          exact List.mem_append_right _ List.mem_cons_self
        rw [← hlate, ← hz, hentries, List.length_append]
        rfl
    refine ⟨?_, ?_⟩
    · rw [hcount]
      exact hpassed
    · rw [hcount, hremaining]
      rfl

/-- The part of a world that one client can see. -/
structure SameFor (configuration : RateLimiterConfiguration) (client : String)
    (world alone : RateWorld) : Prop where
  cached : alone.redis.cached = world.redis.cached
  zset : alone.redis.zsets (rateKey configuration client) =
    world.redis.zsets (rateKey configuration client)
  log : alone.log = world.log.filter fun entry => entry.1.client = client

/-- What a call answers and leaves depends on the client's own key. -/
theorem rateLimiter_own (digests : ScriptDigests) (disabled : Option String)
    {configuration : RateLimiterConfiguration} {r r' : RateRedis} {call : RateCall}
    (hcached : r'.cached = r.cached)
    (hzset : r'.zsets (rateKey configuration call.client) =
      r.zsets (rateKey configuration call.client)) :
    (rateLimiter digests disabled configuration r' call).2 =
        (rateLimiter digests disabled configuration r call).2 ∧
      (rateLimiter digests disabled configuration r' call).1.zsets
          (rateKey configuration call.client) =
        (rateLimiter digests disabled configuration r call).1.zsets
          (rateKey configuration call.client) := by
  simp only [rateLimiter, RateRedis.evalsha, getLuaScriptDigest]
  by_cases hseen : bypassed disabled configuration call.request = true
  · simp [hseen, hzset]
  · by_cases hd : digests .slidingWindow = true
    · by_cases hc : r.cached .slidingWindow = true
      · simp [hseen, hd, hc, hcached, hzset]
      · simp [hseen, hd, hc, hcached, hzset]
    · simp [hseen, hd, hzset]

theorem rateLimiter_frame (digests : ScriptDigests) (disabled : Option String)
    (configuration : RateLimiterConfiguration) (r : RateRedis) (call : RateCall) :
    (rateLimiter digests disabled configuration r call).1.cached = r.cached ∧
      ∀ key, key ≠ rateKey configuration call.client →
        (rateLimiter digests disabled configuration r call).1.zsets key = r.zsets key := by
  simp only [rateLimiter, RateRedis.evalsha, getLuaScriptDigest]
  by_cases hseen : bypassed disabled configuration call.request = true
  · simp [hseen]
  · by_cases hd : digests .slidingWindow = true
    · by_cases hc : r.cached .slidingWindow = true
      · simp only [hseen, hd, hc, if_true]
        exact ⟨rfl, fun key hkey => Function.update_of_ne hkey _ _⟩
      · simp [hseen, hd, hc]
    · simp [hseen, hd]

/-- A run and the run of one client's calls alone agree on all the client sees. -/
theorem run_alone {client : String} {alone : RateWorld} (calls : List RateCall)
    (hsame : SameFor configuration client world alone)
    (hrun : (rateLimiting digests disabled configuration).run world calls = some world') :
    ∃ alone', (rateLimiting digests disabled configuration).run alone
        (calls.filter fun call => call.client = client) = some alone' ∧
      SameFor configuration client world' alone' := by
  induction calls generalizing world alone with
  | nil =>
    cases hrun
    exact ⟨alone, rfl, hsame⟩
  | cons call calls ih =>
    obtain ⟨next, hstep, hrun⟩ := Machine.run_cons_some _ hrun
    obtain ⟨hfresh, rfl⟩ := rateLimiting_step hstep
    obtain ⟨hcached, hframe⟩ :=
      rateLimiter_frame digests disabled configuration world.redis call
    by_cases hclient : call.client = client
    · subst hclient
      obtain ⟨houtcome, hzset⟩ := rateLimiter_own digests disabled hsame.cached hsame.zset
      obtain ⟨hcached', -⟩ :=
        rateLimiter_frame digests disabled configuration alone.redis call
      have hunused : ¬ call.uuid ∈ alone.log.map fun entry => entry.1.uuid := by
        intro hmem
        obtain ⟨entry, hentry, heq⟩ := List.mem_map.mp hmem
        rw [hsame.log] at hentry
        exact hfresh entry (List.mem_filter.mp hentry).1 heq
      have hstep' : (rateLimiting digests disabled configuration).step alone call =
          some ⟨(rateLimiter digests disabled configuration alone.redis call).1, alone.log ++
            [(call, (rateLimiter digests disabled configuration alone.redis call).2)]⟩ := by
        simp only [rateLimiting, if_neg hunused]
      have hnext : SameFor configuration call.client
          ⟨(rateLimiter digests disabled configuration world.redis call).1, world.log ++
            [(call, (rateLimiter digests disabled configuration world.redis call).2)]⟩
          ⟨(rateLimiter digests disabled configuration alone.redis call).1, alone.log ++
            [(call, (rateLimiter digests disabled configuration alone.redis call).2)]⟩ := by
        refine ⟨hcached'.trans (hsame.cached.trans hcached.symm), hzset, ?_⟩
        simp [hsame.log, houtcome, List.filter_append]
      obtain ⟨alone', hrun', hsame'⟩ := ih hnext hrun
      refine ⟨alone', ?_, hsame'⟩
      rw [List.filter_cons_of_pos (by simp), Machine.run_cons, hstep']
      exact hrun'
    · have hkey : rateKey configuration client ≠ rateKey configuration call.client :=
        fun hk => hclient (rateKey_inj hk).symm
      have hnext : SameFor configuration client
          ⟨(rateLimiter digests disabled configuration world.redis call).1, world.log ++
            [(call, (rateLimiter digests disabled configuration world.redis call).2)]⟩ alone := by
        refine ⟨hsame.cached.trans hcached.symm, hsame.zset.trans (hframe _ hkey).symm, ?_⟩
        simp [hsame.log, List.filter_append, hclient]
      obtain ⟨alone', hrun', hsame'⟩ := ih hnext hrun
      refine ⟨alone', ?_, hsame'⟩
      rw [List.filter_cons_of_neg (by simp [hclient])]
      exact hrun'

/-- Before the first call: no client has a key, and the script is loaded. -/
structure RateWorld.Fresh (configuration : RateLimiterConfiguration) (world : RateWorld) :
    Prop where
  log : world.log = []
  zsets : ∀ client, world.redis.zsets (rateKey configuration client) = none
  cached : world.redis.cached .slidingWindow = true

theorem RateWorld.Fresh.logKept (h : world.Fresh configuration) :
    LogKept configuration world := by
  refine ⟨h.cached, fun client => ?_, ?_⟩
  · rw [h.zsets client]
    apply Keeps.fresh
    rw [h.log]
    rfl
  · intro before call outcome after heq
    rw [h.log] at heq
    simp at heq

theorem run_log (calls : List RateCall)
    (hrun : (rateLimiting digests disabled configuration).run world calls = some world') :
    world'.log.map Prod.fst = world.log.map Prod.fst ++ calls := by
  induction calls generalizing world with
  | nil =>
    cases hrun
    simp
  | cons call calls ih =>
    obtain ⟨next, hstep, hrun⟩ := Machine.run_cons_some _ hrun
    obtain ⟨-, rfl⟩ := rateLimiting_step hstep
    have := ih hrun
    simpa using this

/-- Calls in the order of their clients' clocks, each run at its own timestamp. -/
theorem along_inTime (digests : ScriptDigests) (disabled : Option String)
    (configuration : RateLimiterConfiguration) (calls : List RateCall)
    (hclock : ∀ call ∈ calls, call.time = call.now)
    (hpast : ∀ entry ∈ world.log, ∀ call ∈ calls, entry.1.client = call.client →
      entry.1.now ≤ call.now)
    (horder : calls.Pairwise fun a b => a.client = b.client → a.now ≤ b.now) :
    (rateLimiting digests disabled configuration).Along
      (fun world call _ => InTime world call) world calls := by
  induction calls generalizing world with
  | nil => trivial
  | cons call calls ih =>
    intro next hstep
    have htime : InTime world call :=
      ⟨hclock call List.mem_cons_self, fun entry he => hpast entry he call List.mem_cons_self⟩
    obtain ⟨hfirst, hrest⟩ := List.pairwise_cons.mp horder
    have hnext : ∀ entry ∈ next.log, ∀ c ∈ calls, entry.1.client = c.client →
        entry.1.now ≤ c.now := by
      obtain ⟨-, rfl⟩ := rateLimiting_step hstep
      intro entry hentry c hc
      rcases List.mem_append.mp hentry with hold | hnew
      · exact hpast entry hold c (List.mem_cons_of_mem _ hc)
      · rw [List.mem_singleton.mp hnew]
        exact hfirst c hc
    exact ⟨htime, ih (fun c hc => hclock c (List.mem_cons_of_mem _ hc)) hnext hrest⟩

end Run

/-- The rate limiter refines the sliding-window log: in every run of calls that come in the order
of their clients' clocks and run at their timestamps, each call is handed on exactly when its
window holds at most `maxRequests` calls of its client, reports what remains of them, and is
answered as in the run of its client's calls alone. -/
theorem rate_limiter_refines_log {digests : ScriptDigests} {disabled : Option String}
    {configuration : RateLimiterConfiguration} (hdigest : digests .slidingWindow = true)
    (hW : 1 ≤ configuration.windowMs) {start world : RateWorld}
    (hstart : start.Fresh configuration) {calls : List RateCall}
    (hseen : ∀ call ∈ calls, bypassed disabled configuration call.request = false)
    (hclock : ∀ call ∈ calls, call.time = call.now)
    (horder : calls.Pairwise fun a b => a.client = b.client → a.now ≤ b.now)
    (hrun : (rateLimiting digests disabled configuration).run start calls = some world) :
    world.log.map Prod.fst = calls ∧ AnswersAll configuration world.log ∧
      ∀ client, ∃ alone, (rateLimiting digests disabled configuration).run start
          (calls.filter fun call => call.client = client) = some alone ∧
        alone.log = world.log.filter fun entry => entry.1.client = client := by
  refine ⟨?_, ?_, fun client => ?_⟩
  · have hlog := run_log calls hrun
    simpa [hstart.log] using hlog
  · have hpast : ∀ entry ∈ start.log, ∀ call ∈ calls, entry.1.client = call.client →
        entry.1.now ≤ call.now := by
      intro entry hentry
      rw [hstart.log] at hentry
      exact absurd hentry List.not_mem_nil
    have halong := along_inTime digests disabled configuration calls hclock hpast horder
    have hseen := Machine.along_of_forall (rateLimiting digests disabled configuration) start hseen
    have hevery := Machine.every_of_along _ (I := LogKept configuration)
      (fun _ _ _ hkept hstep hc => logKept_step hW hdigest hc.1 hc.2 hkept hstep)
      hstart.logKept (Machine.Along.and _ hseen halong)
    exact (Machine.Every.last _ hevery hrun).answers
  · have hsame : SameFor configuration client start start := ⟨rfl, rfl, by rw [hstart.log]; rfl⟩
    obtain ⟨alone, hrun', hsame'⟩ := run_alone calls hsame hrun
    exact ⟨alone, hrun', hsame'.log⟩

def requestFrom (ip : String) : Request := ⟨"/api/v1/events", fun _ => none, some ip, none⟩

/-- A call whose script runs at its own timestamp. -/
def callAt (ip : String) (now : Nat) (uuid : String) : RateCall :=
  ⟨requestFrom ip, now, uuid, now⟩

def noCalls : RateWorld := ⟨⟨fun _ => none, fun _ => true⟩, []⟩

theorem noCalls_fresh (configuration : RateLimiterConfiguration) :
    noCalls.Fresh configuration :=
  ⟨rfl, fun _ => rfl, rfl⟩

def twoPerWindow : RateLimiterConfiguration :=
  { defaultOptions with windowMs := 1500, maxRequests := 2 }

/-- Ties, a rejected call that still counts, a call exactly a window later, another client, and
a call after the key has expired. -/
def twoClients : List RateCall :=
  [callAt "10.0.0.1" 5000 "a", callAt "10.0.0.1" 5000 "b", callAt "10.0.0.2" 5000 "c",
    callAt "10.0.0.1" 6499 "d", callAt "10.0.0.1" 6500 "e", callAt "10.0.0.1" 9000 "f"]

theorem rate_limiter_refines_log_twoClients :
    ∃ world, (rateLimiting (fun _ => true) none twoPerWindow).run noCalls twoClients =
        some world ∧ AnswersAll twoPerWindow world.log ∧
      world.log.map (fun entry => entry.2.passed) = [true, true, true, false, true, true] := by
  have hview : ((rateLimiting (fun _ => true) none twoPerWindow).run noCalls twoClients).map
      (fun world => world.log.map fun entry => entry.2.passed) =
      some [true, true, true, false, true, true] := by
    decide +kernel
  obtain ⟨world, hrun, hpassed⟩ := Option.map_eq_some_iff.mp hview
  refine ⟨world, hrun, (rate_limiter_refines_log rfl (by decide) (noCalls_fresh _) ?_ ?_ ?_
    hrun).2.1, hpassed⟩
  · decide +kernel
  · decide +kernel
  · decide +kernel

end TicketEngine
