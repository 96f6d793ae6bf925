import TicketEngine.Services.RedisLock
import TicketEngine.Stampede.Mutex
import TicketEngine.Middlewares.RateLimiter
import TicketEngine.Framework.Refinement

namespace TicketEngine

/-! ## The four script calls on one Redis -/

/-- What every node has at hand: digests and collation, and the options of the rate limiter. -/
structure ApiEnv where
  maps : MapEnv
  disabled : Option String
  configuration : RateLimiterConfiguration

/-- What a call in one piece has answered. -/
inductive ApiAnswer
  | acquired (outcome : Except RedisError SeatLockExecution)
  | released (outcome : Except RedisError Bool)
  | limited (outcome : RateOutcome)

/-- The seating map calls with their stores, the seat locks and the rate limiter's logs in the
same Redis, and the answers so far. The clock and the script cache are those of `maps`. -/
structure ApiWorld where
  maps : MapWorld
  locks : String → Option (Lease SeatLock)
  zsets : String → Option (Lease (SortedSet String))
  answers : List ApiAnswer

/-- A step of a seating map call, or a whole call of the other three. Redis may forget any scripts
at any point. A loss between EVALSHA and the EVAL that answers NOSCRIPT is a loss after the call
that spares its script. -/
inductive ApiLabel
  | maps (label : MapLabel)
  | acquireSeatHold (eventId seatId userId : String) (ttlSeconds : JsNumber) (holdId : String)
  | releaseSeatHold (eventId seatId userId holdId : String)
  | rateLimiter (request : Request) (now : Nat) (uuid : String)
  | loseScripts (kept : LuaScriptName → Bool)

namespace ApiWorld

def locksRedis (world : ApiWorld) : LockRedis :=
  ⟨world.maps.shared.now, world.locks, world.maps.shared.cached⟩

def rateRedis (world : ApiWorld) : RateRedis := ⟨world.zsets, world.maps.shared.cached⟩

def setCached (world : ApiWorld) (cached : LuaScriptName → Bool) : ApiWorld :=
  { world with maps := ⟨{ world.maps.shared with cached }, world.maps.point⟩ }

/-- A lock call is over: its keys, its script cache and its answer. -/
def afterLock (world : ApiWorld) (r : LockRedis) (answer : ApiAnswer) : ApiWorld :=
  { world.setCached r.cached with locks := r.keys, answers := world.answers ++ [answer] }

def afterRate (world : ApiWorld) (r : RateRedis) (answer : ApiAnswer) : ApiWorld :=
  { world.setCached r.cached with zsets := r.zsets, answers := world.answers ++ [answer] }

/-- Time passes between commands only, so a script runs at the same time on either path. -/
def step (env : ApiEnv) (world : ApiWorld) : ApiLabel → Option ApiWorld
  | .maps label => (MapWorld.step env.maps world.maps label).map fun maps => { world with maps }
  | .acquireSeatHold eventId seatId userId ttlSeconds holdId =>
    let (r, outcome) := TicketEngine.acquireSeatHold env.maps.digests world.locksRedis eventId
      seatId userId ttlSeconds holdId ⟨0, 0⟩
    some (world.afterLock r (.acquired outcome))
  | .releaseSeatHold eventId seatId userId holdId =>
    let (r, outcome) := TicketEngine.releaseSeatHold env.maps.digests world.locksRedis eventId
      seatId userId holdId ⟨0, 0⟩
    some (world.afterLock r (.released outcome))
  | .rateLimiter request now uuid =>
    let (r, outcome) := TicketEngine.rateLimiter env.maps.digests env.disabled env.configuration
      world.rateRedis ⟨request, now, uuid, world.maps.shared.now⟩
    some (world.afterRate r (.limited outcome))
  | .loseScripts kept =>
    some (world.setCached fun name => world.maps.shared.cached name && kept name)

end ApiWorld

def api (env : ApiEnv) : Machine ApiWorld ApiLabel where
  step := ApiWorld.step env

/-- The points at which Redis forgets scripts. -/
def ApiLabel.loses : ApiLabel → Bool
  | .loseScripts _ => true
  | .maps .flushScripts => true
  | _ => false

/-- The same answers and the same data; the script cache may differ. -/
def ApiWorld.Agrees (world world' : ApiWorld) : Prop :=
  world.maps.point = world'.maps.point ∧ world.answers = world'.answers ∧
    world.locks = world'.locks ∧ world.zsets = world'.zsets ∧
    { world.maps.shared with cached := fun _ => true } =
      { world'.maps.shared with cached := fun _ => true }

/-- The run ends as it would have ended without its losses. -/
def LossTransparent (env : ApiEnv) (start : ApiWorld) (labels : List ApiLabel)
    (world : ApiWorld) : Prop :=
  ∃ world', (api env).run start (labels.filter fun label => !label.loses) = some world' ∧
    world.Agrees world'

/-- The step is not an EVALSHA of a forgotten script from `releaseMutex` or the rate limiter, the
two sites that do not fall back to EVAL. -/
def Recovers (env : ApiEnv) (world : ApiWorld) : ApiLabel → Prop
  | .maps (.act n (.ok _)) =>
    (∃ call hold outcome, world.maps.point n = .owner call hold (.release outcome)) →
      world.maps.shared.cached .releaseMutex = true
  | .rateLimiter request _ _ =>
    bypassed env.disabled env.configuration request = false →
      world.maps.shared.cached .slidingWindow = true
  | _ => True

/-! ## Redis with every script loaded -/

def MapStore.reload (s : MapStore) : MapStore := { s with cached := fun _ => true }

def LockRedis.reload (r : LockRedis) : LockRedis := { r with cached := fun _ => true }

def ApiWorld.reload (world : ApiWorld) : ApiWorld := world.setCached fun _ => true

theorem agrees_iff {world world' : ApiWorld} :
    world.Agrees world' ↔ world.reload = world'.reload := by
  constructor
  · intro ⟨hpoint, hanswers, hlocks, hzsets, hshared⟩
    simp only [ApiWorld.reload, ApiWorld.setCached, hpoint, hanswers, hlocks, hzsets, hshared]
  · intro h
    simp only [ApiWorld.reload, ApiWorld.setCached, ApiWorld.mk.injEq, Threaded.mk.injEq] at h
    exact ⟨h.1.2, h.2.2.2, h.2.1, h.2.2.1, h.1.1⟩

section Reload

variable {env : ApiEnv} {digests : ScriptDigests}

theorem eval_reload (r : LockRedis) (name : LuaScriptName) (key : String) (script : SeatScript) :
    r.reload.eval name key script =
      ((r.eval name key script).1.reload, (r.eval name key script).2) := by
  simp only [LockRedis.eval, LockRedis.reload]
  cases script r.now (r.keys key) with
  | error e => simp
  | ok p => simp

theorem runScript_reload (hdigests : ∀ name, digests name = true) (r : LockRedis)
    (name : LuaScriptName) (key : String) {script : SeatScript} (hs : NoNoscript script) :
    runScript digests r.reload name key script 0 =
      ((runScript digests r name key script 0).1.reload,
        (runScript digests r name key script 0).2) := by
  have hcached : r.reload.cached name = true := rfl
  rw [runScript_eq hs, runScript_eq hs, if_pos (hdigests name), if_pos (hdigests name),
    if_pos hcached, eval_reload]
  by_cases hc : r.cached name = true
  · rw [if_pos hc]
  · rw [if_neg hc]
    simp only [LockRedis.wait, Nat.add_zero]

theorem acquireSeatHold_reload (hdigests : ∀ name, digests name = true) (r : LockRedis)
    (eventId seatId userId : String) (ttlSeconds : JsNumber) (holdId : String) :
    acquireSeatHold digests r.reload eventId seatId userId ttlSeconds holdId ⟨0, 0⟩ =
      ((acquireSeatHold digests r eventId seatId userId ttlSeconds holdId ⟨0, 0⟩).1.reload,
        (acquireSeatHold digests r eventId seatId userId ttlSeconds holdId ⟨0, 0⟩).2) := by
  have hrun := runScript_reload hdigests r .atomicSeatLock (seatLockKey eventId seatId)
    (acquire_noNoscript userId holdId (effectiveTtl ttlSeconds))
  simp only [acquireSeatHold, hrun]
  cases runScript digests r .atomicSeatLock (seatLockKey eventId seatId)
    (fun now cell => atomic_seat_lock now cell userId holdId (some (effectiveTtl ttlSeconds)))
    0 with
  | mk r' result =>
    cases result with
    | error e => simp
    | ok code => simp [LockRedis.reload, LockRedis.wait]

theorem releaseSeatHold_reload (hdigests : ∀ name, digests name = true) (r : LockRedis)
    (eventId seatId userId holdId : String) :
    releaseSeatHold digests r.reload eventId seatId userId holdId ⟨0, 0⟩ =
      ((releaseSeatHold digests r eventId seatId userId holdId ⟨0, 0⟩).1.reload,
        (releaseSeatHold digests r eventId seatId userId holdId ⟨0, 0⟩).2) := by
  have hrun := runScript_reload hdigests r .releaseSeat (seatLockKey eventId seatId)
    (release_noNoscript userId holdId)
  simp only [releaseSeatHold, hrun]
  cases runScript digests r .releaseSeat (seatLockKey eventId seatId)
    (fun now cell => .ok (release_seat now cell userId holdId)) 0 with
  | mk r' result =>
    cases result with
    | error e => simp
    | ok code => simp [LockRedis.reload, LockRedis.wait]

theorem rateLimiter_reload (digests : ScriptDigests) {disabled : Option String}
    {configuration : RateLimiterConfiguration} (r : RateRedis) (call : RateCall)
    (hc : bypassed disabled configuration call.request = false →
      r.cached .slidingWindow = true) :
    rateLimiter digests disabled configuration { r with cached := fun _ => true } call =
      ({ (rateLimiter digests disabled configuration r call).1 with cached := fun _ => true },
        (rateLimiter digests disabled configuration r call).2) := by
  simp only [rateLimiter, RateRedis.evalsha, getLuaScriptDigest]
  by_cases hseen : bypassed disabled configuration call.request = true
  · simp [hseen]
  · have hcached := hc (eq_false_of_ne_true hseen)
    by_cases hd : digests .slidingWindow = true
    · simp [hseen, hd, hcached]
    · simp [hseen, hd]

theorem acquireMutex_reload {s s' : MapStore} {n : Nat} {call : MapCall} {c : Choice}
    {f' : MapFrame} (h : stepAcquireMutex s n call c = some (s', f')) :
    stepAcquireMutex s.reload n call c = some (s'.reload, f') := by
  cases c with
  | fail message =>
    cases h
    rfl
  | ok token =>
    obtain ⟨s₁, hdraw, h⟩ := Option.bind_eq_some_iff.mp h
    have hdraw' : s.reload.draw n token = some s₁.reload := by
      unfold MapStore.draw at hdraw ⊢
      split_ifs at hdraw with hfree
      cases hdraw
      exact if_pos hfree
    have hsame : acquireMutex s₁.reload.now (s₁.reload.keys (lockKey call.eventId)) token =
        acquireMutex s₁.now (s₁.keys (lockKey call.eventId)) token := rfl
    simp only [stepAcquireMutex, hdraw', Option.bind_eq_bind, Option.bind_some]
    rw [hsame]
    generalize acquireMutex s₁.now (s₁.keys (lockKey call.eventId)) token = taken at h ⊢
    obtain ⟨cell, won⟩ := taken
    cases won with
    | none =>
      cases h
      rfl
    | some token' =>
      cases h
      rfl

/-- A command of a seating map call other than an EVALSHA of a forgotten script. -/
theorem act_reload {env : MapEnv} {s s' : MapStore} {n : Nat} {c : Choice} {f f' : MapFrame}
    (h : f.act env s n c = some (s', f'))
    (hc : ∀ id, c = .ok id → (∃ call hold outcome, f = .owner call hold (.release outcome)) →
      s.cached .releaseMutex = true) :
    f.act env s.reload n c = some (s'.reload, f') := by
  cases f with
  | idle => cases h
  | ended eventId outcome => cases h
  | getSeatingMapDirect call =>
    cases h
    rfl
  | readCache call =>
    cases h
    rfl
  | acquireMutex call => exact acquireMutex_reload h
  | owner call hold point =>
    cases point with
    | readCache =>
      cases h
      rfl
    | loadFromDatabase =>
      cases h
      simp only [MapFrame.act, stepOwner, stepLoad]
      have hload : s.reload.loadFromDatabase env call.eventId c =
          s.loadFromDatabase env call.eventId c := by cases c <;> rfl
      rw [hload]
      cases s.loadFromDatabase env call.eventId c with
      | error message => rfl
      | ok map => rfl
    | store map load =>
      cases h
      cases c with
      | fail message => rfl
      | ok id => rfl
    | release outcome =>
      cases c with
      | fail message =>
        cases h
        rfl
      | ok id =>
        have hcached := hc id rfl ⟨call, hold, outcome, rfl⟩
        have hloaded : s.reload.cached .releaseMutex = true := rfl
        simp only [MapFrame.act, stepOwner, stepRelease, MapStore.releaseMutex,
          getLuaScriptDigest] at h ⊢
        by_cases hd : env.digests .releaseMutex = true
        · simp only [hd, hcached, hloaded, if_true] at h ⊢
          cases h
          rfl
        · simp only [hd] at h ⊢
          cases h
          rfl
  | sleep call failedAt attempt wake =>
    simp only [MapFrame.act, stepSleep] at h ⊢
    split_ifs at h with hw
    · cases h
      simp only [MapStore.reload, hw, if_true, Option.map_some]
    · cases h
  | waitRead call failedAt attempt =>
    cases h
    rfl

theorem mapStep_reload {env : MapEnv} {maps maps' : MapWorld} {label : MapLabel}
    (h : maps.step env label = some maps')
    (hflush : label ≠ .flushScripts)
    (hc : ∀ n id, label = .act n (.ok id) →
      (∃ call hold outcome, maps.point n = .owner call hold (.release outcome)) →
        maps.shared.cached .releaseMutex = true) :
    MapWorld.step env ⟨maps.shared.reload, maps.point⟩ label =
      some ⟨maps'.shared.reload, maps'.point⟩ := by
  cases label with
  | getSeatingMapForMode n eventId useRedis =>
    simp only [MapWorld.step] at h ⊢
    cases hpoint : maps.point n with
    | idle =>
      simp only [hpoint] at h ⊢
      cases h
      rfl
    | _ =>
      simp only [hpoint] at h
      cases h
  | act n c =>
    obtain ⟨⟨s', f'⟩, hact, hw⟩ := Option.map_eq_some_iff.mp h
    cases hw
    have hact' := act_reload hact fun id hid => hc n id (by rw [hid])
    simp only [MapWorld.step, hact', Option.map_some]
  | clearSeatingMapCache eventId =>
    cases h
    rfl
  | changeEvent eventId event =>
    cases h
    rfl
  | advance ms =>
    cases h
    rfl
  | flushScripts => exact absurd rfl hflush

end Reload

section Run

variable {env : ApiEnv} {world world' : ApiWorld} {label : ApiLabel}

theorem step_loses (hl : label.loses = true) (h : (api env).step world label = some world') :
    world'.reload = world.reload := by
  cases label with
  | loseScripts kept =>
    cases h
    rfl
  | maps label =>
    cases label with
    | flushScripts =>
      cases h
      rfl
    | _ => cases hl
  | _ => cases hl

/-- A step that recovers is also a step of the Redis that has every script. -/
theorem step_reload (hdigests : ∀ name, env.maps.digests name = true)
    (hl : label.loses = false) (h : (api env).step world label = some world')
    (hc : Recovers env world label) :
    (api env).step world.reload label = some world'.reload := by
  cases label with
  | loseScripts kept => cases hl
  | maps label =>
    obtain ⟨maps, hstep, hw⟩ := Option.map_eq_some_iff.mp h
    cases hw
    have hflush : label ≠ .flushScripts := by
      intro heq
      subst heq
      cases hl
    have hstep' := mapStep_reload hstep hflush (by
      intro n id hid
      subst hid
      exact hc)
    have hworld : (api env).step world.reload (.maps label) =
        (MapWorld.step env.maps ⟨world.maps.shared.reload, world.maps.point⟩ label).map
          fun maps => { world.reload with maps } := rfl
    rw [hworld, hstep']
    rfl
  | acquireSeatHold eventId seatId userId ttlSeconds holdId =>
    cases h
    have hcall := acquireSeatHold_reload hdigests world.locksRedis eventId seatId userId
      ttlSeconds holdId
    have hredis : world.reload.locksRedis = world.locksRedis.reload := rfl
    simp only [api, ApiWorld.step, hredis, hcall]
    rfl
  | releaseSeatHold eventId seatId userId holdId =>
    cases h
    have hcall := releaseSeatHold_reload hdigests world.locksRedis eventId seatId userId holdId
    have hredis : world.reload.locksRedis = world.locksRedis.reload := rfl
    simp only [api, ApiWorld.step, hredis, hcall]
    rfl
  | rateLimiter request now uuid =>
    cases h
    have hcall := rateLimiter_reload env.maps.digests world.rateRedis
      ⟨request, now, uuid, world.maps.shared.now⟩ hc
    have hredis : world.reload.rateRedis = { world.rateRedis with cached := fun _ => true } := rfl
    simp only [api, ApiWorld.step, hredis]
    have hnow : world.reload.maps.shared.now = world.maps.shared.now := rfl
    rw [hnow, hcall]
    rfl

end Run

/-! ## The mark an unrecovered loss leaves -/

/-- A call has rejected with NOSCRIPT. -/
def ApiWorld.Noscript (world : ApiWorld) : Prop :=
  (∃ n eventId, world.maps.point n = .ended eventId (.error RedisError.noscript.message)) ∨
    .limited (.thrown .noscript) ∈ world.answers

def MapFrame.Clean : MapFrame → Prop
  | .owner _ _ (.release outcome) => outcome ≠ .error RedisError.noscript.message
  | .ended _ outcome => outcome ≠ .error RedisError.noscript.message
  | _ => True

structure ApiWorld.Clean (world : ApiWorld) : Prop where
  loaded : world.reload = world
  frames : ∀ n, (world.maps.point n).Clean
  answers : .limited (.thrown .noscript) ∉ world.answers

theorem ApiWorld.Clean.not_noscript {world : ApiWorld} (h : world.Clean) : ¬ world.Noscript := by
  intro hmark
  cases hmark with
  | inl hpoint =>
    obtain ⟨n, eventId, hpoint⟩ := hpoint
    have hframe := h.frames n
    rw [hpoint] at hframe
    exact hframe rfl
  | inr hanswer => exact h.answers hanswer

section Mark

variable {env : ApiEnv} {world world' : ApiWorld} {label : ApiLabel}

/-- A call that has ended stays as it ended. -/
theorem ended_kept {maps maps' : MapWorld} {mapLabel : MapLabel}
    (h : maps.step env.maps mapLabel = some maps') {n : Nat} {eventId : String}
    {outcome : MapOutcome} (hpoint : maps.point n = .ended eventId outcome) :
    maps'.point n = .ended eventId outcome := by
  rcases map_step_cases h with
    ⟨m, c, s, f, -, hstep, rfl⟩ | ⟨-, ⟨m, e, useRedis, hidle, rfl⟩ | ⟨s, -, rfl⟩⟩
  · have hne : n ≠ m := by
      rintro rfl
      rw [hpoint] at hstep
      cases hstep
    simp only [Function.update_of_ne hne, hpoint]
  · have hne : n ≠ m := by
      rintro rfl
      rw [hpoint] at hidle
      cases hidle
    simp only [Function.update_of_ne hne, hpoint]
  · exact hpoint

theorem noscript_stays (h : (api env).step world label = some world')
    (hmark : world.Noscript) : world'.Noscript := by
  have hanswers : ∀ answers, world'.maps.point = world.maps.point →
      world'.answers = world.answers ++ answers → world'.Noscript := by
    intro answers hpoint hanswers
    cases hmark with
    | inl hended =>
      obtain ⟨n, eventId, hended⟩ := hended
      exact .inl ⟨n, eventId, by rw [hpoint, hended]⟩
    | inr hmem =>
      apply Or.inr
      rw [hanswers]
      exact List.mem_append_left _ hmem
  cases label with
  | loseScripts kept =>
    cases h
    exact hanswers [] rfl (List.append_nil _).symm
  | acquireSeatHold eventId seatId userId ttlSeconds holdId =>
    cases h
    exact hanswers _ rfl rfl
  | releaseSeatHold eventId seatId userId holdId =>
    cases h
    exact hanswers _ rfl rfl
  | rateLimiter request now uuid =>
    cases h
    exact hanswers _ rfl rfl
  | maps label =>
    obtain ⟨maps, hstep, hw⟩ := Option.map_eq_some_iff.mp h
    cases hw
    cases hmark with
    | inl hmark =>
      obtain ⟨n, eventId, hpoint⟩ := hmark
      exact .inl ⟨n, eventId, ended_kept hstep hpoint⟩
    | inr hmem => exact .inr hmem

/-- An EVALSHA of a forgotten script at a site without a way back rejects the call. -/
theorem noscript_marks (hdigests : ∀ name, env.maps.digests name = true)
    (h : (api env).step world label = some world') (hc : ¬ Recovers env world label) :
    world'.Noscript := by
  cases label with
  | rateLimiter request now uuid =>
    simp only [Recovers, Classical.not_imp, Bool.not_eq_true] at hc
    obtain ⟨hseen, hlost⟩ := hc
    have houtcome : (rateLimiter env.maps.digests env.disabled env.configuration world.rateRedis
        ⟨request, now, uuid, world.maps.shared.now⟩).2 = .thrown .noscript := by
      simp [rateLimiter, hseen, RateRedis.evalsha, getLuaScriptDigest, hdigests,
        ApiWorld.rateRedis, hlost]
    have hanswers : world'.answers = world.answers ++ [.limited (rateLimiter env.maps.digests
        env.disabled env.configuration world.rateRedis
        ⟨request, now, uuid, world.maps.shared.now⟩).2] := by
      cases h
      rfl
    apply Or.inr
    rw [hanswers, houtcome]
    exact List.mem_append_right _ List.mem_cons_self
  | maps label =>
    cases label with
    | act n c =>
      cases c with
      | fail message => exact absurd trivial hc
      | ok id =>
        simp only [Recovers, Classical.not_imp, Bool.not_eq_true] at hc
        obtain ⟨⟨call, hold, outcome, hpoint⟩, hlost⟩ := hc
        obtain ⟨maps, hstep, hw⟩ := Option.map_eq_some_iff.mp h
        cases hw
        simp only [MapWorld.step, hpoint, MapFrame.act, stepOwner, stepRelease,
          MapStore.releaseMutex, getLuaScriptDigest, hdigests, hlost, if_true,
          Option.map_some] at hstep
        cases hstep
        exact .inl ⟨n, call.eventId, Function.update_self _ _ _⟩
    | _ => exact absurd trivial hc
  | _ => exact absurd trivial hc

theorem look_clean {maps : MapEnv} {s : MapStore} {call : MapCall} {c : Choice} {message : String}
    (h : s.look maps call c = .error message)
    (hplain : c ≠ .fail RedisError.noscript.message) :
    message ≠ RedisError.noscript.message := by
  cases c with
  | fail text =>
    cases h
    intro heq
    exact hplain (by rw [heq])
  | ok id =>
    simp only [MapStore.look, MapStore.readCachedMap] at h
    split at h
    · cases h
    · split at h
      · cases h
        exact maps.syntaxError_ne _
      · cases h
      · cases h

theorem ne_noscript {first : String} {c : Char} (h : first.toList.head? = some c) (hc : c ≠ 'N')
    (rest : String) : first ++ rest ≠ RedisError.noscript.message := by
  intro heq
  have hfirst := head_append h rest
  have hnoscript : RedisError.noscript.message.toList.head? = some 'N' := by decide +kernel
  rw [heq, hnoscript] at hfirst
  exact hc (Option.some.inj hfirst).symm

theorem load_clean {maps : MapEnv} {s : MapStore} {eventId : String} {c : Choice}
    {message : String} (h : s.loadFromDatabase maps eventId c = .error message)
    (hplain : c ≠ .fail RedisError.noscript.message) :
    message ≠ RedisError.noscript.message := by
  cases c with
  | fail text =>
    cases h
    intro heq
    exact hplain (by rw [heq])
  | ok id =>
    simp only [MapStore.loadFromDatabase] at h
    split at h
    · cases h
      apply ne_noscript (c := 'E') (by decide +kernel) (by decide)
    · cases h

theorem error_clean {message : String} (h : message ≠ RedisError.noscript.message) :
    (.error message : MapOutcome) ≠ .error RedisError.noscript.message := by
  intro heq
  exact h (Except.error.inj heq)

/-- With the release script loaded, no command makes a call reject with NOSCRIPT. -/
theorem mapAct_clean {maps : MapEnv} {s s' : MapStore} {n : Nat} {c : Choice} {f f' : MapFrame}
    (hdigest : maps.digests .releaseMutex = true) (hcached : s.cached .releaseMutex = true)
    (hplain : c ≠ .fail RedisError.noscript.message) (hf : f.Clean)
    (h : MapStep maps s n c f s' f') : f'.Clean := by
  cases h with
  | direct_error hload => exact error_clean (load_clean hload hplain)
  | read_error hlook => exact error_clean (look_clean hlook hplain)
  | acquire_error hfail =>
    apply error_clean
    intro heq
    exact hplain (by rw [hfail, heq])
  | locked_error hlook => exact error_clean (look_clean hlook hplain)
  | load_error hload => exact error_clean (load_clean hload hplain)
  | store_error hfail =>
    apply error_clean
    intro heq
    exact hplain (by rw [hfail, heq])
  | release_error hcause =>
    rcases hcause with hfail | hunread | hlost
    · apply error_clean
      intro heq
      exact hplain (by rw [hfail, heq])
    · rw [hdigest] at hunread
      cases hunread
    · rw [hcached] at hlost
      cases hlost
  | release_done => exact hf
  | wait_error hlook => exact error_clean (look_clean hlook hplain)
  | wait_over hlook hlast =>
    apply error_clean
    apply ne_noscript (c := 'S') (by decide +kernel) (by decide)
  | direct_found | read_hit | locked_hit | store_done | wait_hit =>
    intro heq
    cases heq
  | _ => trivial

theorem respond_ne_thrown (configuration : RateLimiterConfiguration) (now : Nat)
    (result : RateLimitResult) (error : RedisError) :
    respond configuration now result ≠ .thrown error := by
  simp only [respond]
  split_ifs
  · simp
  · simp

theorem rateLimiter_clean (digests : ScriptDigests) {disabled : Option String}
    {configuration : RateLimiterConfiguration} {r : RateRedis} (call : RateCall)
    (hcached : r.cached .slidingWindow = true) :
    (rateLimiter digests disabled configuration r call).2 ≠ .thrown .noscript := by
  simp only [rateLimiter, RateRedis.evalsha, getLuaScriptDigest]
  by_cases hseen : bypassed disabled configuration call.request = true
  · simp [hseen]
  · by_cases hd : digests .slidingWindow = true
    · simp [hseen, hd, hcached, respond_ne_thrown]
    · simp [hseen, hd]

/-- The step fails no command with NOSCRIPT by itself. -/
def ApiLabel.Plain (label : ApiLabel) : Prop :=
  ∀ n, label ≠ .maps (.act n (.fail RedisError.noscript.message))

theorem ApiWorld.Clean.cached (h : world.Clean) (name : LuaScriptName) :
    world.maps.shared.cached name = true := by
  rw [← h.loaded]
  rfl

theorem ApiWorld.Clean.recovers (h : world.Clean) (label : ApiLabel) :
    Recovers env world label := by
  cases label with
  | maps label =>
    cases label with
    | act n c =>
      cases c with
      | fail message => trivial
      | ok id => exact fun _ => h.cached _
    | _ => trivial
  | rateLimiter request now uuid => exact fun _ => h.cached _
  | _ => trivial

theorem mapStep_clean {env : MapEnv} {maps maps' : MapWorld} {label : MapLabel}
    (hdigest : env.digests .releaseMutex = true)
    (hcached : maps.shared.cached .releaseMutex = true)
    (hplain : ∀ n, label ≠ .act n (.fail RedisError.noscript.message))
    (hframes : ∀ n, (maps.point n).Clean) (h : maps.step env label = some maps') (n : Nat) :
    (maps'.point n).Clean := by
  rcases map_step_cases h with
    ⟨m, c, s, f, rfl, hstep, rfl⟩ | ⟨-, ⟨m, e, useRedis, -, rfl⟩ | ⟨s, -, rfl⟩⟩
  · by_cases hn : n = m
    · subst hn
      have hc : c ≠ .fail RedisError.noscript.message := fun hc => hplain n (by rw [hc])
      simpa only [Function.update_self] using
        mapAct_clean hdigest hcached hc (hframes n) hstep
    · simpa only [Function.update_of_ne hn] using hframes n
  · by_cases hn : n = m
    · subst hn
      simp only [Function.update_self, getSeatingMapForMode]
      split_ifs
      · trivial
      · trivial
    · simpa only [Function.update_of_ne hn] using hframes n
  · exact hframes n

/-- Without losses no call ever rejects with NOSCRIPT. -/
theorem clean_step (hdigests : ∀ name, env.maps.digests name = true)
    (hplain : label.Plain) (hl : label.loses = false) (hclean : world.Clean)
    (h : (api env).step world label = some world') : world'.Clean := by
  have hloaded : world'.reload = world' := by
    have hreload := step_reload hdigests hl h (hclean.recovers label)
    rw [hclean.loaded, h] at hreload
    exact (Option.some.inj hreload).symm
  have hanswers : ∀ answer, answer ≠ .limited (.thrown .noscript) →
      world'.answers = world.answers ++ [answer] →
      .limited (.thrown .noscript) ∉ world'.answers := by
    intro answer hne heq hmem
    rw [heq, List.mem_append, List.mem_singleton] at hmem
    cases hmem with
    | inl hold => exact hclean.answers hold
    | inr hnew => exact hne hnew.symm
  cases label with
  | loseScripts kept => cases hl
  | acquireSeatHold eventId seatId userId ttlSeconds holdId =>
    cases h
    refine ⟨hloaded, hclean.frames, hanswers _ ?_ rfl⟩
    intro heq
    cases heq
  | releaseSeatHold eventId seatId userId holdId =>
    cases h
    refine ⟨hloaded, hclean.frames, hanswers _ ?_ rfl⟩
    intro heq
    cases heq
  | rateLimiter request now uuid =>
    cases h
    refine ⟨hloaded, hclean.frames, hanswers _ ?_ rfl⟩
    intro heq
    exact rateLimiter_clean _ _ (hclean.cached _) (ApiAnswer.limited.inj heq)
  | maps label =>
    obtain ⟨maps, hstep, hw⟩ := Option.map_eq_some_iff.mp h
    cases hw
    have hact : ∀ n, label ≠ .act n (.fail RedisError.noscript.message) := by
      intro n heq
      exact hplain n (by rw [heq])
    exact ⟨hloaded, mapStep_clean (hdigests _) (hclean.cached _) hact hclean.frames hstep,
      hclean.answers⟩

end Mark

/-! ## Script loss -/

/-- Before the first call: nothing is under way and every script is loaded. -/
structure ApiWorld.Initial (world : ApiWorld) : Prop where
  idle : ∀ n, world.maps.point n = .idle
  answers : world.answers = []
  cached : world.maps.shared.cached = fun _ => true

theorem ApiWorld.Initial.clean {world : ApiWorld} (h : world.Initial) : world.Clean := by
  refine ⟨?_, fun n => ?_, ?_⟩
  · simp only [ApiWorld.reload, ApiWorld.setCached, ← h.cached]
  · rw [h.idle n]
    trivial
  · rw [h.answers]
    exact List.not_mem_nil

/-- Losing Redis's scripts is transparent to a run exactly when no step of it is an EVALSHA of a
forgotten script by `releaseMutex` or the rate limiter. -/
theorem script_loss_transparent_iff {env : ApiEnv}
    (hdigests : ∀ name, env.maps.digests name = true) {start world : ApiWorld}
    (hstart : start.Initial) {labels : List ApiLabel} (hplain : ∀ label ∈ labels, label.Plain)
    (hrun : (api env).run start labels = some world) :
    LossTransparent env start labels world ↔
      (api env).Along (fun world label _ => Recovers env world label) start labels := by
  constructor
  · intro ⟨world', hrun', hagrees⟩
    have hclean : world'.Clean := by
      have hlabels : ∀ label ∈ labels.filter (fun label => !label.loses),
          label.Plain ∧ label.loses = false := by
        intro label hmem
        obtain ⟨hmem, hkept⟩ := List.mem_filter.mp hmem
        exact ⟨hplain label hmem, by simpa using hkept⟩
      have halong := Machine.along_of_forall (api env) start hlabels
      have hevery := Machine.every_of_along (api env) (I := ApiWorld.Clean)
        (fun _ _ _ hclean hstep hc => clean_step hdigests hc.1 hc.2 hclean hstep) hstart.clean
        halong
      exact Machine.Every.last _ hevery hrun'
    have hunmarked : ¬ world.Noscript := by
      intro hmark
      apply hclean.not_noscript
      cases hmark with
      | inl hpoint =>
        rw [hagrees.1] at hpoint
        exact .inl hpoint
      | inr hanswer =>
        rw [hagrees.2.1] at hanswer
        exact .inr hanswer
    exact Machine.along_of_unmarked (api env) (fun _ _ _ => noscript_stays)
      (fun _ _ _ hstep hc => noscript_marks hdigests hstep hc) hrun hunmarked
  · intro halong
    have hvisible := Machine.run_visible (M := api env) ApiLabel.loses
      (fun _ _ _ hl hstep => step_loses hl hstep)
      (fun _ _ _ hl hstep hc => step_reload hdigests hl hstep hc) hrun halong
    rw [hstart.clean.loaded] at hvisible
    refine ⟨world.reload, hvisible, agrees_iff.mpr rfl⟩

/-- A node whose rate limiter runs with its default options. -/
def defaultApi : ApiEnv := ⟨plainEnv, none, defaultOptions⟩

def coldApi : ApiWorld := ⟨coldCache, fun _ => none, fun _ => none, []⟩

theorem coldApi_initial : coldApi.Initial := ⟨fun _ => rfl, rfl, rfl⟩

/-- The seat locks fall back to EVAL after each loss. -/
def holdThroughLosses : List ApiLabel :=
  [.acquireSeatHold "e" "s" "u" (.finite 60) "h", .loseScripts fun _ => false,
    .releaseSeatHold "e" "s" "u" "h", .loseScripts fun name => name = .releaseSeat,
    .acquireSeatHold "e" "s" "v" (.finite 60) "k"]

theorem script_loss_transparent_iff_holdThroughLosses :
    ∃ world, (api defaultApi).run coldApi holdThroughLosses = some world ∧
      LossTransparent defaultApi coldApi holdThroughLosses world := by
  have hplain : ∀ label ∈ holdThroughLosses, label.Plain := by
    intro label hmem n heq
    subst heq
    simp [holdThroughLosses] at hmem
  obtain ⟨world, hrun⟩ : ∃ world, (api defaultApi).run coldApi holdThroughLosses =
      some world := ⟨_, rfl⟩
  refine ⟨world, hrun,
    (script_loss_transparent_iff (fun _ => rfl) coldApi_initial hplain hrun).mpr ?_⟩
  have hlocks : ∀ label ∈ holdThroughLosses, ∀ world, Recovers defaultApi world label := by
    intro label hmem world
    simp only [holdThroughLosses, List.mem_cons, List.not_mem_nil, or_false] at hmem
    rcases hmem with rfl | rfl | rfl | rfl | rfl
    · trivial
    · trivial
    · trivial
    · trivial
    · trivial
  have halong := Machine.along_of_forall (api defaultApi) coldApi hlocks
  exact Machine.Along.mono _ (fun world _ _ h => h world) halong

/-- A call loads and caches the map, and Redis forgets its scripts before the release. -/
def lossBeforeRelease : List ApiLabel :=
  .maps (.getSeatingMapForMode 0 "e" true) ::
    (mapActs 0 ["", "m", "", "", ""]).map .maps ++
    [.loseScripts fun _ => false, .maps (.act 0 (.ok ""))]

def rejectedNoscript (world : ApiWorld) : Bool :=
  match world.maps.point 0 with
  | .ended _ (.error message) => message == RedisError.noscript.message
  | _ => false

/-- The call rejects although the map is cached, and the mutex is not released; without the loss
it returns the map. -/
theorem script_loss_fails_lossBeforeRelease :
    ∃ world, (api defaultApi).run coldApi lossBeforeRelease = some world ∧
      rejectedNoscript world = true ∧
      (Lease.read 0 (world.maps.shared.keys (lockKey "e"))).isSome = true ∧
      (world.maps.shared.visible "e").isSome = true ∧
      ¬ LossTransparent defaultApi coldApi lossBeforeRelease world := by
  have hview : ((api defaultApi).run coldApi lossBeforeRelease).map
      (fun world => (rejectedNoscript world,
        (Lease.read 0 (world.maps.shared.keys (lockKey "e"))).isSome,
        (world.maps.shared.visible "e").isSome)) = some (true, true, true) := by
    decide +kernel
  obtain ⟨world, hrun, hends⟩ := Option.map_eq_some_iff.mp hview
  obtain ⟨hrejected, hmutex, hcached⟩ : _ ∧ _ ∧ _ := by simpa using hends
  refine ⟨world, hrun, hrejected, hmutex, hcached, ?_⟩
  intro ⟨world', hrun', hagrees⟩
  have hview' : ((api defaultApi).run coldApi
      (lossBeforeRelease.filter fun label => !label.loses)).map rejectedNoscript =
      some false := by
    decide +kernel
  rw [hrun', Option.map_some, Option.some.injEq] at hview'
  have hsame : rejectedNoscript world = rejectedNoscript world' := by
    simp only [rejectedNoscript, hagrees.1]
  rw [hsame, hview'] at hrejected
  cases hrejected

end TicketEngine
