import TicketEngine.Middlewares.SlidingLog
import Mathlib.Data.List.Perm.Subperm

namespace TicketEngine

/-- The calls of a client handed on so far whose timestamps lie in `(t - windowMs, t]`. -/
def allowedIn (windowMs : Nat) (log : List (RateCall × RateOutcome)) (client : String)
    (t : Nat) : Nat :=
  log.countP fun entry =>
    entry.1.client = client ∧ entry.2.passed = true ∧ t < entry.1.now + windowMs ∧
      entry.1.now ≤ t

/-- No window of any client has more than `maxRequests` calls handed on. -/
def WithinLimit (configuration : RateLimiterConfiguration) (world : RateWorld) : Prop :=
  ∀ client t, allowedIn configuration.windowMs world.log client t ≤ configuration.maxRequests

/-- A call whose timestamp lies in a window that is full finds a full log after its trim. -/
def FullWindowsKept (configuration : RateLimiterConfiguration) (world : RateWorld)
    (call : RateCall) (_ : RateWorld) : Prop :=
  ∀ t, t < call.now + configuration.windowMs → call.now ≤ t →
    configuration.maxRequests ≤ allowedIn configuration.windowMs world.log call.client t →
    configuration.maxRequests ≤ (world.redis.retained configuration call).card

/-- A call finds, after its trim, every allowed call of its client that shares a window with it. -/
def NothingLost (configuration : RateLimiterConfiguration) (world : RateWorld)
    (call : RateCall) (_ : RateWorld) : Prop :=
  ∀ entry ∈ world.log, entry.1.client = call.client → entry.2.passed = true →
    entry.1.now < call.now + configuration.windowMs →
    call.now < entry.1.now + configuration.windowMs →
    (entry.1.member, (entry.1.now : Int)) ∈ (world.redis.retained configuration call).entries

/-- How long a client's key lives after a call, in milliseconds. -/
def RateLimiterConfiguration.ttlMs (configuration : RateLimiterConfiguration) : Nat :=
  (ceilSeconds configuration.windowMs).toNat * 1000

/-- An entry of timestamp `now`, whose key was last written at `last`, through the next calls of
its client: each comes before the key expires, and is not a window later than the entry. -/
def Survives (configuration : RateLimiterConfiguration) (now : Nat) : Nat → List RateCall → Prop
  | _, [] => True
  | last, call :: calls =>
    call.time ≤ last + configuration.ttlMs ∧ call.now < now + configuration.windowMs ∧
      Survives configuration now call.time calls

/-- The calls of a client, in the order in which their scripts ran. -/
def clientCalls (client : String) (log : List (RateCall × RateOutcome)) : List RateCall :=
  (log.filter fun entry => entry.1.client = client).map Prod.fst

/-- A call against the log before it, by clocks and arrival alone: of the allowed calls of its
client that share a window with it, none has been trimmed or has expired. -/
def Remembered (configuration : RateLimiterConfiguration) (call : RateCall) :
    List (RateCall × RateOutcome) → Prop
  | [] => True
  | entry :: after =>
    (entry.1.client = call.client → entry.2.passed = true →
      entry.1.now < call.now + configuration.windowMs →
      call.now < entry.1.now + configuration.windowMs →
      Survives configuration entry.1.now entry.1.time (clientCalls call.client after ++ [call])) ∧
    Remembered configuration call after

/-- Every key holds members of calls that were made, each of which drew its own. -/
structure Drawn (configuration : RateLimiterConfiguration) (world : RateWorld) : Prop where
  cached : world.redis.cached .slidingWindow = true
  distinct : (world.log.map fun entry => entry.1.uuid).Nodup
  known : ∀ client z deadline,
    world.redis.zsets (rateKey configuration client) = some ⟨z, deadline⟩ →
    ∀ e ∈ z.entries, ∃ entry ∈ world.log, entry.1.member = e.1

instance Survives.decidable (configuration : RateLimiterConfiguration) (now : Nat) :
    (last : Nat) → (calls : List RateCall) → Decidable (Survives configuration now last calls)
  | _, [] => .isTrue trivial
  | last, call :: calls =>
    have : Decidable (Survives configuration now call.time calls) :=
      Survives.decidable configuration now call.time calls
    inferInstanceAs (Decidable (call.time ≤ last + configuration.ttlMs ∧
      call.now < now + configuration.windowMs ∧ Survives configuration now call.time calls))

instance Remembered.decidable (configuration : RateLimiterConfiguration) (call : RateCall) :
    (log : List (RateCall × RateOutcome)) → Decidable (Remembered configuration call log)
  | [] => .isTrue trivial
  | entry :: after =>
    have : Decidable (Remembered configuration call after) :=
      Remembered.decidable configuration call after
    inferInstanceAs (Decidable ((entry.1.client = call.client → entry.2.passed = true →
      entry.1.now < call.now + configuration.windowMs →
      call.now < entry.1.now + configuration.windowMs →
      Survives configuration entry.1.now entry.1.time
        (clientCalls call.client after ++ [call])) ∧ Remembered configuration call after))

/-- When the script of the last call of a client ran. -/
def lastTime (last : Nat) (calls : List RateCall) : Nat :=
  calls.foldl (fun _ call => call.time) last

/-- The key of a call that was made: when it expires, and whether it still has its entry. -/
def Stocked (configuration : RateLimiterConfiguration) (world : RateWorld) : Prop :=
  ∀ before entry after, world.log = before ++ entry :: after →
    ∃ z, world.redis.zsets (rateKey configuration entry.1.client) =
        some ⟨z, lastTime entry.1.time (clientCalls entry.1.client after) +
          configuration.ttlMs⟩ ∧
      ((entry.1.member, (entry.1.now : Int)) ∈ z.entries ↔
        Survives configuration entry.1.now entry.1.time (clientCalls entry.1.client after))

theorem survives_snoc {configuration : RateLimiterConfiguration} {now last : Nat}
    {calls : List RateCall} {call : RateCall} :
    Survives configuration now last (calls ++ [call]) ↔
      Survives configuration now last calls ∧
        call.time ≤ lastTime last calls + configuration.ttlMs ∧
        call.now < now + configuration.windowMs := by
  induction calls generalizing last with
  | nil => simp [Survives, lastTime]
  | cons first calls ih =>
    have hlast : lastTime last (first :: calls) = lastTime first.time calls := rfl
    rw [List.cons_append, Survives, Survives, ih, hlast]
    tauto

theorem clientCalls_append (client : String) (log log' : List (RateCall × RateOutcome)) :
    clientCalls client (log ++ log') = clientCalls client log ++ clientCalls client log' := by
  simp only [clientCalls, List.filter_append, List.map_append]

theorem remembered_iff {configuration : RateLimiterConfiguration} {call : RateCall}
    {log : List (RateCall × RateOutcome)} :
    Remembered configuration call log ↔ ∀ before entry after, log = before ++ entry :: after →
      entry.1.client = call.client → entry.2.passed = true →
      entry.1.now < call.now + configuration.windowMs →
      call.now < entry.1.now + configuration.windowMs →
      Survives configuration entry.1.now entry.1.time
        (clientCalls call.client after ++ [call]) := by
  induction log with
  | nil => simp [Remembered]
  | cons head log ih =>
    rw [Remembered, ih]
    constructor
    · intro h before entry after heq
      cases before with
      | nil =>
        obtain ⟨rfl, rfl⟩ := List.cons.inj heq
        exact h.1
      | cons first before => exact h.2 before entry after (List.cons.inj heq).2
    · intro h
      refine ⟨h [] head log rfl, fun before entry after heq => ?_⟩
      exact h (head :: before) entry after (by rw [heq, List.cons_append])

section Step

variable {digests : ScriptDigests} {disabled : Option String}
  {configuration : RateLimiterConfiguration} {world world' : RateWorld} {call : RateCall}

theorem allowedIn_snoc (windowMs : Nat) (log : List (RateCall × RateOutcome)) (call : RateCall)
    (outcome : RateOutcome) (client : String) (t : Nat) :
    allowedIn windowMs (log ++ [(call, outcome)]) client t =
      allowedIn windowMs log client t +
        if call.client = client ∧ outcome.passed = true ∧ t < call.now + windowMs ∧ call.now ≤ t
        then 1 else 0 := by
  simp only [allowedIn, List.countP_append, List.countP_singleton, decide_eq_true_eq]

theorem Drawn.retained (h : Drawn configuration world) :
    ∀ e ∈ (world.redis.retained configuration call).entries,
      ∃ entry ∈ world.log, entry.1.member = e.1 := by
  intro e he
  have hmem := SortedSet.mem_removeRangeByScore he
  cases hcell : world.redis.zsets (rateKey configuration call.client) with
  | none =>
    rw [hcell] at hmem
    exact absurd hmem List.not_mem_nil
  | some cell =>
    rw [hcell, Lease.read_some] at hmem
    split_ifs at hmem with hlive
    · exact h.known call.client cell.value cell.deadline hcell e hmem
    · exact absurd hmem List.not_mem_nil

/-- A step of a limited call, with what it leaves in the log and the key. -/
theorem limited_step (hW : 1 ≤ configuration.windowMs) (hdigest : digests .slidingWindow = true)
    (hseen : bypassed disabled configuration call.request = false)
    (hdrawn : Drawn configuration world)
    (h : (rateLimiting digests disabled configuration).step world call = some world') :
    Drawn configuration world' ∧ ∃ outcome, world'.log = world.log ++ [(call, outcome)] ∧
      (outcome.passed = true ↔
        (world.redis.retained configuration call).card + 1 ≤ configuration.maxRequests) := by
  obtain ⟨hfresh, rfl⟩ := rateLimiting_step h
  have hnew : ∀ e ∈ (world.redis.retained configuration call).entries, e.1 ≠ call.member := by
    intro e he heq
    obtain ⟨entry, hentry, hmember⟩ := hdrawn.retained e he
    exact hfresh entry hentry (member_inj (hmember.trans heq))
  obtain ⟨z, deadline, outcome, heq, hentries, -, hpassed, -⟩ :=
    rateLimiter_limited ⟨hseen, hdigest, hdrawn.cached⟩ hW hnew
  simp only [heq]
  refine ⟨⟨hdrawn.cached, ?_, ?_⟩, outcome, rfl, hpassed⟩
  · rw [List.map_append, List.nodup_append]
    refine ⟨hdrawn.distinct, List.nodup_singleton _, ?_⟩
    intro uuid huuid uuid' huuid'
    obtain ⟨entry, hentry, rfl⟩ := List.mem_map.mp huuid
    rw [List.mem_singleton.mp huuid']
    exact hfresh entry hentry
  · intro client z' deadline' hcell e he
    by_cases hkey : rateKey configuration client = rateKey configuration call.client
    · simp only [hkey, Function.update_self, Option.some.injEq, Lease.mk.injEq] at hcell
      rw [← hcell.1, hentries] at he
      rcases List.mem_append.mp he with he | he
      · obtain ⟨entry, hentry, hmember⟩ := hdrawn.retained e he
        exact ⟨entry, List.mem_append_left _ hentry, hmember⟩
      · rw [List.mem_singleton.mp he]
        exact ⟨(call, outcome), List.mem_append_right _ List.mem_cons_self, rfl⟩
    · simp only [Function.update_of_ne hkey] at hcell
      obtain ⟨entry, hentry, hmember⟩ := hdrawn.known client z' deadline' hcell e he
      exact ⟨entry, List.mem_append_left _ hentry, hmember⟩

/-- A call keeps all windows within the limit exactly when it finds the full ones full. -/
theorem withinLimit_step (hW : 1 ≤ configuration.windowMs)
    (hdigest : digests .slidingWindow = true)
    (hseen : bypassed disabled configuration call.request = false)
    (hdrawn : Drawn configuration world) (hlimit : WithinLimit configuration world)
    (h : (rateLimiting digests disabled configuration).step world call = some world') :
    WithinLimit configuration world' ↔ FullWindowsKept configuration world call world' := by
  obtain ⟨-, outcome, hlog, hpassed⟩ := limited_step hW hdigest hseen hdrawn h
  constructor
  · intro hlimit' t hlow hhigh hfull
    by_contra hless
    have hpass : outcome.passed = true := hpassed.mpr (by omega)
    have hcount := hlimit' call.client t
    rw [hlog, allowedIn_snoc, if_pos ⟨rfl, hpass, hlow, hhigh⟩] at hcount
    omega
  · intro hkept client t
    have hbefore := hlimit client t
    rw [hlog, allowedIn_snoc]
    split_ifs with hnew
    · obtain ⟨rfl, hpass, hlow, hhigh⟩ := hnew
      have hcard := hpassed.mp hpass
      have hroom : ¬ configuration.maxRequests ≤
          allowedIn configuration.windowMs world.log call.client t := by
        intro hfull
        have := hkept t hlow hhigh hfull
        omega
      omega
    · exact hbefore

/-- Allowed calls that are all found make a full window a full log. -/
theorem fullWindowsKept_of_nothingLost (hdrawn : Drawn configuration world)
    (h : NothingLost configuration world call world') :
    FullWindowsKept configuration world call world' := by
  intro t hlow hhigh hfull
  let inWindow : RateCall × RateOutcome → Bool := fun entry =>
    entry.1.client = call.client ∧ entry.2.passed = true ∧
      t < entry.1.now + configuration.windowMs ∧ entry.1.now ≤ t
  let written := (world.log.filter inWindow).map fun entry =>
    (entry.1.member, (entry.1.now : Int))
  have hdistinct : written.Nodup := by
    have huuids : (world.log.filter inWindow).Pairwise fun a b => a.1.uuid ≠ b.1.uuid :=
      List.Pairwise.filter _ (List.pairwise_map.mp hdrawn.distinct)
    apply List.pairwise_map.mpr
    apply huuids.imp
    intro a b hne heq
    exact hne (member_inj (Prod.mk.inj heq).1)
  have hsubset : written ⊆ (world.redis.retained configuration call).entries := by
    intro e he
    obtain ⟨entry, hentry, rfl⟩ := List.mem_map.mp he
    obtain ⟨hmem, hin⟩ := List.mem_filter.mp hentry
    obtain ⟨hclient, hpass, hlow', hhigh'⟩ := of_decide_eq_true hin
    exact h entry hmem hclient hpass (by omega) (by omega)
  have hlength := (hdistinct.subperm hsubset).length_le
  have hcount : written.length = allowedIn configuration.windowMs world.log call.client t := by
    rw [List.length_map, allowedIn, List.countP_eq_length_filter]
  rw [hcount] at hlength
  exact hfull.trans hlength

/-- In the order of the clients' clocks nothing is lost. -/
theorem nothingLost_of_inTime (hkept : LogKept configuration world) (htime : InTime world call) :
    NothingLost configuration world call world' := by
  obtain ⟨hclock, hpast⟩ := htime
  have hpast : ∀ e ∈ clientLog world.log call.client, e.2 ≤ call.now := by
    intro e he
    obtain ⟨entry, hentry, hclient, -, hnow⟩ := mem_clientLog he
    have := hpast entry hentry hclient
    omega
  intro entry hentry hclient _ _ hlate
  rw [(hkept.keeps call.client).retained hclock hpast]
  refine List.mem_filter.mpr ⟨?_, ?_⟩
  · exact List.mem_map.mpr ⟨entry, List.mem_filter.mpr ⟨hentry, decide_eq_true hclient⟩, rfl⟩
  · apply decide_eq_true
    simp only
    omega

/-- A call finds an entry of its client exactly when the entry has survived up to it. -/
theorem Stocked.retained_iff (hs : Stocked configuration world)
    {before after : List (RateCall × RateOutcome)} {entry : RateCall × RateOutcome}
    (hlog : world.log = before ++ entry :: after) (hclient : entry.1.client = call.client) :
    (entry.1.member, (entry.1.now : Int)) ∈
        (world.redis.retained configuration call).entries ↔
      Survives configuration entry.1.now entry.1.time
        (clientCalls call.client after ++ [call]) := by
  obtain ⟨z, hcell, hstored⟩ := hs before entry after hlog
  rw [hclient] at hcell hstored
  rw [survives_snoc, ← hstored]
  simp only [RateRedis.retained, hcell, Lease.read_some]
  split_ifs with hlive
  · simp only [Option.getD_some, SortedSet.removeRangeByScore, List.mem_filter,
      decide_eq_true_eq]
    constructor
    · intro h
      exact ⟨h.1, hlive, by have := h.2; omega⟩
    · intro h
      exact ⟨h.1, by have := h.2.2; omega⟩
  · constructor
    · intro h
      exact absurd h List.not_mem_nil
    · intro h
      exact absurd h.2.1 hlive

theorem stocked_step (hW : 1 ≤ configuration.windowMs) (hdigest : digests .slidingWindow = true)
    (hseen : bypassed disabled configuration call.request = false)
    (hdrawn : Drawn configuration world) (hs : Stocked configuration world)
    (h : (rateLimiting digests disabled configuration).step world call = some world') :
    Stocked configuration world' := by
  obtain ⟨hfresh, rfl⟩ := rateLimiting_step h
  have hlimited : Limited digests disabled configuration world.redis call :=
    ⟨hseen, hdigest, hdrawn.cached⟩
  have hstored := rateLimiter_stored hlimited hW
  obtain ⟨-, hframe⟩ := rateLimiter_frame digests disabled configuration world.redis call
  intro before entry after hlog
  rcases List.eq_nil_or_concat after with rfl | ⟨after, last, rfl⟩
  · obtain ⟨-, hlast⟩ := List.append_inj' hlog rfl
    obtain ⟨rfl, -⟩ := List.cons.inj hlast
    refine ⟨_, hstored, ?_⟩
    simp [SortedSet.add, clientCalls, Survives]
  · rw [List.concat_eq_append, ← List.cons_append, ← List.append_assoc] at hlog
    obtain ⟨hold, hlast⟩ := List.append_inj' hlog rfl
    obtain ⟨rfl, -⟩ := List.cons.inj hlast
    rw [List.concat_eq_append, clientCalls_append]
    by_cases hclient : entry.1.client = call.client
    · have hown : clientCalls entry.1.client
          [(call, (rateLimiter digests disabled configuration world.redis call).2)] = [call] := by
        simp [clientCalls, hclient]
      have hne : entry.1.member ≠ call.member := by
        intro heq
        refine hfresh entry ?_ (member_inj heq)
        rw [hold]
        exact List.mem_append_right _ List.mem_cons_self
      have hlastTime : lastTime entry.1.time (clientCalls entry.1.client after ++ [call]) =
          call.time := by
        simp only [lastTime, List.foldl_append, List.foldl_cons, List.foldl_nil]
      rw [hown, hlastTime, hclient, ← hs.retained_iff hold hclient]
      refine ⟨_, hstored, ?_⟩
      simp [SortedSet.add, hne]
    · have hnone : clientCalls entry.1.client
          [(call, (rateLimiter digests disabled configuration world.redis call).2)] = [] := by
        simp [clientCalls, Ne.symm hclient]
      have hkey : rateKey configuration entry.1.client ≠ rateKey configuration call.client :=
        fun hk => hclient (rateKey_inj hk)
      rw [hnone, List.append_nil]
      obtain ⟨z, hcell, hstored'⟩ := hs before entry after hold
      exact ⟨z, (hframe _ hkey).trans hcell, hstored'⟩

/-- What a call finds, said of the stored set and said of the calls before it. -/
theorem nothingLost_iff (hs : Stocked configuration world) :
    NothingLost configuration world call world' ↔
      Remembered configuration call world.log := by
  rw [remembered_iff]
  constructor
  · intro h before entry after hlog hclient hpassed hearly hlate
    rw [← hs.retained_iff hlog hclient]
    refine h entry ?_ hclient hpassed hearly hlate
    rw [hlog]
    exact List.mem_append_right _ List.mem_cons_self
  · intro h entry hentry hclient hpassed hearly hlate
    obtain ⟨before, after, hlog⟩ := List.append_of_mem hentry
    rw [hs.retained_iff hlog hclient]
    exact h before entry after hlog hclient hpassed hearly hlate

end Step

theorem RateWorld.Fresh.drawn {configuration : RateLimiterConfiguration} {world : RateWorld}
    (h : world.Fresh configuration) : Drawn configuration world := by
  refine ⟨h.cached, ?_, ?_⟩
  · rw [h.log]
    exact List.nodup_nil
  · intro client z deadline hcell
    rw [h.zsets client] at hcell
    cases hcell

theorem RateWorld.Fresh.stocked {configuration : RateLimiterConfiguration} {world : RateWorld}
    (h : world.Fresh configuration) : Stocked configuration world := by
  intro before entry after hlog
  rw [h.log] at hlog
  simp at hlog

/-- The limit holds in every window of every client throughout a run whose calls each find the
allowed calls of their client that share a window with them: since such a call was made, no call
of the client has come a window later than it, and its key has not expired. Told step by step,
the limit holds exactly as long as each call whose timestamp lies in a full window still finds a
full log. Nothing is lost where the calls come in the order of their clients' clocks. -/
theorem rate_limit_nodes_iff {digests : ScriptDigests} {disabled : Option String}
    {configuration : RateLimiterConfiguration} (hdigest : digests .slidingWindow = true)
    (hW : 1 ≤ configuration.windowMs) {start : RateWorld} (hstart : start.Fresh configuration)
    {calls : List RateCall}
    (hseen : ∀ call ∈ calls, bypassed disabled configuration call.request = false) :
    ((rateLimiting digests disabled configuration).Along
          (fun world call _ => Remembered configuration call world.log) start calls →
        (rateLimiting digests disabled configuration).Every (WithinLimit configuration)
          start calls) ∧
      ((rateLimiting digests disabled configuration).Along (NothingLost configuration)
          start calls ↔
        (rateLimiting digests disabled configuration).Along
          (fun world call _ => Remembered configuration call world.log) start calls) ∧
      ((rateLimiting digests disabled configuration).Every (WithinLimit configuration)
          start calls ↔
        (rateLimiting digests disabled configuration).Along (FullWindowsKept configuration)
          start calls) ∧
      ((rateLimiting digests disabled configuration).Along
          (fun world call _ => InTime world call) start calls →
        (rateLimiting digests disabled configuration).Along (NothingLost configuration)
          start calls) := by
  have hseen := Machine.along_of_forall (rateLimiting digests disabled configuration) start hseen
  have hkeeps (world : RateWorld) (call : RateCall) (world' : RateWorld)
      (hd : Drawn configuration world ∧ Stocked configuration world)
      (hstep : (rateLimiting digests disabled configuration).step world call = some world')
      (hc : bypassed disabled configuration call.request = false) :
      Drawn configuration world' ∧ Stocked configuration world' :=
    ⟨(limited_step hW hdigest hc hd.1 hstep).1, stocked_step hW hdigest hc hd.1 hd.2 hstep⟩
  have hevery := Machine.every_of_along _
    (I := fun world => Drawn configuration world ∧ Stocked configuration world)
    hkeeps ⟨hstart.drawn, hstart.stocked⟩ hseen
  have halong := Machine.Every.along _ hevery
  have hexact : (rateLimiting digests disabled configuration).Every (WithinLimit configuration)
      start calls ↔ (rateLimiting digests disabled configuration).Along
        (FullWindowsKept configuration) start calls := by
    refine Machine.every_iff_along_within _ (J := Drawn configuration)
      (fun _ _ _ hd hstep hc => (limited_step hW hdigest hc hd hstep).1)
      (fun _ _ _ hd hl hstep hc => withinLimit_step hW hdigest hc hd hl hstep)
      hstart.drawn ?_ hseen
    intro client t
    rw [hstart.log]
    exact Nat.zero_le _
  have hlost : (rateLimiting digests disabled configuration).Along (NothingLost configuration)
      start calls ↔ (rateLimiting digests disabled configuration).Along
        (fun world call _ => Remembered configuration call world.log) start calls := by
    constructor
    · intro h
      exact Machine.Along.mono _ (fun _ _ _ hboth => (nothingLost_iff hboth.2.1.2).mp hboth.1)
        (Machine.Along.and _ h halong)
    · intro h
      exact Machine.Along.mono _ (fun _ _ _ hboth => (nothingLost_iff hboth.2.1.2).mpr hboth.1)
        (Machine.Along.and _ h halong)
  refine ⟨fun hremembered => ?_, hlost, hexact, fun htime => ?_⟩
  · apply hexact.mpr
    exact Machine.Along.mono _ (fun _ _ _ h => fullWindowsKept_of_nothingLost h.2.1.1 h.1)
      (Machine.Along.and _ (hlost.mpr hremembered) halong)
  · have hcond := Machine.Along.and _ hseen htime
    have hkept := Machine.every_of_along _ (I := LogKept configuration)
      (fun _ _ _ hk hstep hc => logKept_step hW hdigest hc.1 hc.2 hk hstep) hstart.logKept hcond
    exact Machine.Along.mono _ (fun _ _ _ h => nothingLost_of_inTime h.2.1 h.1)
      (Machine.Along.and _ htime (Machine.Every.along _ hkept))

/-- The call of a faster node trims two allowed calls, and a delayed call, a millisecond older
than it, does not count them any more. -/
def delayedCall : List RateCall :=
  [⟨requestFrom "10.0.0.1", 0, "a", 1000⟩, ⟨requestFrom "10.0.0.1", 0, "b", 1000⟩,
    ⟨requestFrom "10.0.0.1", 1000, "c", 1000⟩, ⟨requestFrom "10.0.0.1", 999, "d", 1001⟩]

def twoPerSecond : RateLimiterConfiguration :=
  { defaultOptions with windowMs := 1000, maxRequests := 2 }

theorem rate_limit_nodes_fails_delayedCall :
    (∃ world, (rateLimiting (fun _ => true) none twoPerSecond).run noCalls delayedCall =
        some world ∧ allowedIn 1000 world.log "10.0.0.1" 999 = 3 ∧
      ¬ WithinLimit twoPerSecond world) ∧
      ¬ (rateLimiting (fun _ => true) none twoPerSecond).Along
        (fun world call _ => Remembered twoPerSecond call world.log) noCalls delayedCall := by
  have hview : ((rateLimiting (fun _ => true) none twoPerSecond).run noCalls delayedCall).map
      (fun world => allowedIn 1000 world.log "10.0.0.1" 999) = some 3 := by
    decide +kernel
  obtain ⟨world, hrun, hcount⟩ := Option.map_eq_some_iff.mp hview
  refine ⟨⟨world, hrun, hcount, fun hlimit => ?_⟩, by decide +kernel⟩
  have hle := hlimit "10.0.0.1" 999
  change allowedIn 1000 world.log "10.0.0.1" 999 ≤ 2 at hle
  omega

/-- Calls of nodes whose clocks disagree: the second and the third are older than the first, and
the last comes when the first still counts. -/
def disagreeingClocks : List RateCall :=
  [⟨requestFrom "10.0.0.1", 500, "a", 1000⟩, ⟨requestFrom "10.0.0.1", 300, "b", 1001⟩,
    ⟨requestFrom "10.0.0.1", 400, "c", 1002⟩, ⟨requestFrom "10.0.0.1", 1400, "d", 2000⟩]

theorem rate_limit_nodes_iff_disagreeingClocks :
    (rateLimiting (fun _ => true) none twoPerSecond).Every (WithinLimit twoPerSecond) noCalls
        disagreeingClocks ∧
      ((rateLimiting (fun _ => true) none twoPerSecond).run noCalls disagreeingClocks).map
          (fun world => world.log.map fun entry => entry.2.passed) =
        some [true, true, false, true] := by
  have hseen : ∀ call ∈ disagreeingClocks, bypassed none twoPerSecond call.request = false := by
    decide +kernel
  have hremembered : (rateLimiting (fun _ => true) none twoPerSecond).Along
      (fun world call _ => Remembered twoPerSecond call world.log) noCalls disagreeingClocks := by
    decide +kernel
  refine ⟨?_, by decide +kernel⟩
  exact (rate_limit_nodes_iff rfl (by decide) (noCalls_fresh _) hseen).1 hremembered

end TicketEngine
