import TicketEngine.Framework.Refinement
import TicketEngine.Services.Geo
import TicketEngine.Stampede.Freshness
import Mathlib.Algebra.BigOperators.Group.Finset.Piecewise

namespace TicketEngine

structure SeatingMapBenchmarkRequest where
  eventId : String
  useRedis : Bool
  concurrency : Nat
  clearCacheBeforeRun : Bool

structure SeatingMapBenchmarkResult where
  successfulRequests : Nat
  failedRequests : Nat
  databaseLoads : Nat
  cacheHits : Nat
  mutexAcquired : Nat
  mutexWaiters : Nat
  averageDurationMs : JsNumber
  minDurationMs : Nat
  maxDurationMs : Nat
  totalDurationMs : Nat

structure SeatingMapBenchmarkResponse where
  eventId : String
  mode : SeatingMapMode
  concurrency : Nat
  cacheWasCleared : Bool
  result : SeatingMapBenchmarkResult
  phase2Passed : Bool

/-- `Number(x.toFixed(2))` of a number that is not negative: the nearest hundredth, and of two
equally near ones the larger. From 10^21 on, the text is that of the number itself. -/
def toFixed2 : JsNumber → JsNumber
  | .finite x =>
    if 10 ^ 21 ≤ x then .finite x else toDouble (⌊x * 100 + 1 / 2⌋ / 100)
  | x => x

/-- The fulfilled ones among the settled calls. -/
def fulfilled (results : List MapOutcome) : List SeatingMapExecutionMeta :=
  results.flatMap fun result =>
    match result with
    | .ok value => [value.execution]
    | .error _ => []

/-- The report on the settled calls. -/
def SeatingMapBenchmarkRequest.report (request : SeatingMapBenchmarkRequest)
    (startedAt now : Nat) (results : List MapOutcome) : SeatingMapBenchmarkResponse :=
  let successful := fulfilled results
  let durations : List Nat := successful.map (·.durationMs)
  let databaseLoads := successful.countP (·.databaseLoaded)
  { eventId := request.eventId
    mode := if request.useRedis then .redisProtected else .direct
    concurrency := request.concurrency
    cacheWasCleared := request.clearCacheBeforeRun && request.useRedis
    result :=
      { successfulRequests := successful.length
        failedRequests := results.length - successful.length
        databaseLoads
        cacheHits := successful.countP (·.cacheHit)
        mutexAcquired := successful.countP (·.lockAcquired)
        mutexWaiters := successful.countP (·.waitedForLock)
        averageDurationMs :=
          if durations.length > 0 then toFixed2 (toDouble (durations.sum / durations.length))
          else .finite 0
        minDurationMs := durations.min?.getD 0
        maxDurationMs := durations.max?.getD 0
        totalDurationMs := now - startedAt }
    phase2Passed := request.useRedis && successful.length = request.concurrency &&
      databaseLoads ≤ 1 }

/-- What the benchmark sends before its calls. -/
def SeatingMapBenchmarkRequest.clearing (request : SeatingMapBenchmarkRequest) : List MapLabel :=
  if request.clearCacheBeforeRun && request.useRedis then [.clearSeatingMapCache request.eventId]
  else []

/-- The calls of the benchmark coming in, one after the other. -/
def SeatingMapBenchmarkRequest.calls (request : SeatingMapBenchmarkRequest) (ns : List Nat) :
    List MapLabel :=
  ns.map fun n => .getSeatingMapForMode n request.eventId request.useRedis

/-- One run of the benchmark in a service that other calls use as well: they may move while the
cache is being cleared (`gap`) and together with the calls `ns` of the benchmark (`ls`), which
have all settled at the end. -/
structure SeatingMapBenchmarkRun (env : MapEnv) (request : SeatingMapBenchmarkRequest)
    (world : MapWorld) where
  gap : List MapLabel
  ls : List MapLabel
  ns : List Nat
  ready : MapWorld
  begun : MapWorld
  settled : MapWorld
  results : List MapOutcome
  clears : (seatingMaps env).run world (request.clearing ++ gap) = some ready
  begins : (seatingMaps env).run ready (request.calls ns) = some begun
  settles : (seatingMaps env).run begun ls = some settled
  all : ns.length = request.concurrency
  outcomes : List.Forall₂ (fun n result => ∃ e, settled.point n = .ended e result) ns results

/-- What `runSeatingMapBenchmark` resolves with. -/
def SeatingMapBenchmarkRun.response {env : MapEnv} {request : SeatingMapBenchmarkRequest}
    {world : MapWorld} (bench : SeatingMapBenchmarkRun env request world) :
    SeatingMapBenchmarkResponse :=
  request.report bench.ready.shared.now bench.settled.shared.now bench.results

/-- The event whose row the next command reads from the database. -/
def MapFrame.reads : MapFrame → Option String
  | .getSeatingMapDirect call => some call.eventId
  | .owner call _ .loadFromDatabase => some call.eventId
  | _ => none

/-- The database read of call `n` in a step. -/
def databaseRead (n : Nat) (world : MapWorld) : MapLabel → Option String
  | .act m _ => if m = n then (world.point n).reads else none
  | _ => none

/-- The database reads that the calls of the benchmark have sent. -/
def SeatingMapBenchmarkRun.reads {env : MapEnv} {request : SeatingMapBenchmarkRequest}
    {world : MapWorld} (bench : SeatingMapBenchmarkRun env request world) : Nat :=
  (bench.ns.map fun n =>
    ((seatingMaps env).trace (databaseRead n) bench.begun bench.ls).length).sum

/-! ## One call -/

/-- The flags tell what the call has done, and so how often it has read the database. -/
structure SeatingMapExecutionMeta.Tells (m : SeatingMapExecutionMeta) (useRedis : Bool)
    (reads : Nat) : Prop where
  reads : reads = m.databaseLoaded.toNat
  hit : m.cacheHit = !m.databaseLoaded
  lock : m.lockAcquired = true → m.waitedForLock = false
  load : m.databaseLoaded = true → m.lockAcquired = useRedis
  direct : useRedis = false → m.databaseLoaded = true ∧ m.waitedForLock = false

/-- What is known of an outcome: a rejected call may have read the database too. -/
def Told (useRedis : Bool) (startedAt reads now : Nat) : MapOutcome → Prop
  | .ok result =>
    result.execution.Tells useRedis reads ∧ startedAt + result.execution.durationMs ≤ now
  | .error _ => reads ≤ 1

/-- How far a call of the benchmark has come, with the number of reads it has sent so far. -/
def MapFrame.Metered (useRedis : Bool) (startedAt reads now : Nat) : MapFrame → Prop
  | .getSeatingMapDirect call => useRedis = false ∧ startedAt ≤ call.startedAt ∧ reads = 0
  | .readCache call | .acquireMutex call => useRedis = true ∧ startedAt ≤ call.startedAt ∧ reads = 0
  | .sleep call _ _ _ | .waitRead call _ _ =>
    useRedis = true ∧ startedAt ≤ call.startedAt ∧ reads = 0
  | .owner call _ .readCache | .owner call _ .loadFromDatabase =>
    useRedis = true ∧ startedAt ≤ call.startedAt ∧ reads = 0
  | .owner call _ (.store _ _) => useRedis = true ∧ startedAt ≤ call.startedAt ∧ reads = 1
  | .owner _ _ (.release outcome) => useRedis = true ∧ Told useRedis startedAt reads now outcome
  | .ended _ outcome => Told useRedis startedAt reads now outcome
  | .idle => False

section Call

variable {env : MapEnv} {s s' : MapStore} {n reads startedAt now : Nat} {c : Choice}
  {f f' : MapFrame} {useRedis : Bool} {call : MapCall} {map : Json}

/-- A hit, by whoever looks. -/
theorem tells_hit {locked waited : Bool} (h : locked = true → waited = false) :
    (call.result now map true locked waited false).execution.Tells true 0 where
  reads := rfl
  hit := rfl
  lock := h
  load := by intro h; cases h
  direct := by intro h; cases h

theorem told_result {cacheHit locked waited loaded : Bool} (hstarted : startedAt ≤ call.startedAt)
    (hnow : startedAt ≤ now)
    (h : (call.result now map cacheHit locked waited loaded).execution.Tells useRedis reads) :
    Told useRedis startedAt reads now
      (.ok (call.result now map cacheHit locked waited loaded)) := by
  refine ⟨h, ?_⟩
  show startedAt + (now - call.startedAt) ≤ now
  omega

theorem metered_direct (hnow : startedAt ≤ s.now) (hstarted : startedAt ≤ call.startedAt) :
    (stepDirect env s call c).Metered false startedAt 1 s.now := by
  unfold stepDirect
  cases s.loadFromDatabase env call.eventId c with
  | error message =>
    show 1 ≤ 1
    exact le_refl 1
  | ok map =>
    refine ⟨⟨rfl, rfl, fun h => ?_, fun _ => rfl, fun _ => ⟨rfl, rfl⟩⟩, ?_⟩
    · cases h
    · show startedAt + (s.now - call.startedAt) ≤ s.now
      omega

/-- One command of a call, other than the read of a direct one. -/
theorem MapStep.metered (h : MapStep env s n c f s' f') (hnow : startedAt ≤ s.now)
    (hf : f.Metered useRedis startedAt reads s.now)
    (hdirect : ∀ call, f ≠ .getSeatingMapDirect call) :
    f'.Metered useRedis startedAt (reads + f.reads.toList.length) s.now := by
  cases h with
  | direct_error | direct_found => exact absurd rfl (hdirect _)
  | read_error | acquire_error | wait_error =>
    obtain ⟨-, -, rfl⟩ := hf
    exact Nat.zero_le 1
  | read_hit | wait_hit =>
    obtain ⟨rfl, hstarted, rfl⟩ := hf
    exact told_result hstarted hnow (tells_hit (by decide))
  | locked_hit =>
    obtain ⟨rfl, hstarted, rfl⟩ := hf
    exact ⟨rfl, told_result hstarted hnow (tells_hit (by decide))⟩
  | locked_error =>
    obtain ⟨rfl, -, rfl⟩ := hf
    exact ⟨rfl, Nat.zero_le 1⟩
  | load_error =>
    obtain ⟨rfl, -, rfl⟩ := hf
    exact ⟨rfl, le_refl 1⟩
  | load_found =>
    obtain ⟨rfl, hstarted, rfl⟩ := hf
    exact ⟨rfl, hstarted, rfl⟩
  | store_error =>
    obtain ⟨rfl, -, rfl⟩ := hf
    exact ⟨rfl, le_refl 1⟩
  | store_done =>
    obtain ⟨rfl, hstarted, rfl⟩ := hf
    refine ⟨rfl, told_result hstarted hnow ⟨rfl, rfl, fun _ => rfl, fun _ => rfl, ?_⟩⟩
    intro hredis
    cases hredis
  | @release_error call hold outcome =>
    obtain ⟨-, htold⟩ := hf
    cases outcome with
    | error message => exact htold
    | ok result =>
      have hreads := htold.1.reads
      have hle := Bool.toNat_le result.execution.databaseLoaded
      show reads ≤ 1
      omega
  | release_done => exact hf.2
  | wait_over =>
    obtain ⟨-, -, rfl⟩ := hf
    exact Nat.zero_le 1
  | read_miss | acquire_won | acquire_lost | locked_miss | wake | wait_miss => exact hf

theorem metered_act (h : f.act env s n c = some (s', f')) (hnow : startedAt ≤ s.now)
    (hf : f.Metered useRedis startedAt reads s.now) :
    f'.Metered useRedis startedAt (reads + f.reads.toList.length) s.now := by
  by_cases hdirect : ∃ call, f = .getSeatingMapDirect call
  · obtain ⟨call, rfl⟩ := hdirect
    obtain ⟨rfl, hstarted, rfl⟩ := hf
    have hstep : stepDirect env s call c = f' := by
      have hpair := Option.some.inj h
      exact congrArg Prod.snd hpair
    rw [← hstep]
    exact metered_direct hnow hstarted
  · exact (act_cases h).metered hnow hf fun call hcall => hdirect ⟨call, hcall⟩

theorem Told.later {now' : Nat} {outcome : MapOutcome}
    (h : Told useRedis startedAt reads now outcome) (hnow : now ≤ now') :
    Told useRedis startedAt reads now' outcome := by
  cases outcome with
  | error message => exact h
  | ok result => exact ⟨h.1, h.2.trans hnow⟩

theorem MapFrame.Metered.later {now' : Nat} (h : f.Metered useRedis startedAt reads now)
    (hnow : now ≤ now') : f.Metered useRedis startedAt reads now' := by
  cases f with
  | owner call hold point =>
    cases point with
    | release outcome => exact ⟨h.1, h.2.later hnow⟩
    | _ => exact h
  | ended e outcome => exact Told.later h hnow
  | _ => exact h

end Call

section Run

variable {env : MapEnv} {world world' : MapWorld} {l : MapLabel} {ls : List MapLabel}
  {n reads startedAt : Nat} {useRedis : Bool}

theorem metered_step (hv : mapOutline.Valid world) (h : MapWorld.step env world l = some world')
    (hnow : startedAt ≤ world.shared.now)
    (hf : (world.point n).Metered useRedis startedAt reads world.shared.now) :
    (world'.point n).Metered useRedis startedAt
      (reads + (databaseRead n world l).toList.length) world'.shared.now := by
  have hlater := map_now_le hv h
  cases l with
  | act m c =>
    obtain ⟨⟨s, f⟩, hact, rfl⟩ := Option.map_eq_some_iff.mp h
    apply MapFrame.Metered.later _ hlater
    by_cases hm : m = n
    · subst hm
      simp only [Function.update_self, databaseRead, if_true]
      exact metered_act hact hnow hf
    · simp only [Function.update_of_ne (Ne.symm hm), databaseRead, if_neg hm]
      exact hf
  | getSeatingMapForMode m e mode =>
    apply MapFrame.Metered.later _ hlater
    rcases map_step_cases h with ⟨_, _, _, _, hl, -⟩ | ⟨-, hquiet⟩
    · cases hl
    · rcases hquiet with ⟨k, e, mode, hidle, rfl⟩ | ⟨s, -, rfl⟩
      · have hk : n ≠ k := by
          intro heq
          rw [heq, hidle] at hf
          exact hf
        simp only [Function.update_of_ne hk]
        exact hf
      · exact hf
  | clearSeatingMapCache _ | changeEvent _ _ | advance _ | flushScripts =>
    apply MapFrame.Metered.later _ hlater
    cases h
    exact hf

theorem metered_run (hv : mapOutline.Valid world) (hnow : startedAt ≤ world.shared.now)
    (hf : (world.point n).Metered useRedis startedAt 0 world.shared.now)
    (hrun : (seatingMaps env).run world ls = some world') :
    (world'.point n).Metered useRedis startedAt
      ((seatingMaps env).trace (databaseRead n) world ls).length world'.shared.now := by
  let J (w : MapWorld) (ks : List String) : Prop := mapOutline.Valid w ∧
    startedAt ≤ w.shared.now ∧
    (w.point n).Metered useRedis startedAt ks.length w.shared.now
  have hstep : ∀ w l w' ks, J w ks → (seatingMaps env).step w l = some w' →
      J w' (ks ++ (databaseRead n w l).toList) := by
    intro w l w' ks hw hst
    obtain ⟨hvalid, hstarted, hmetered⟩ := hw
    have hnext : MapWorld.step env w l = some w' := hst
    refine ⟨map_valid_step env w l w' hvalid hst, hstarted.trans (map_now_le hvalid hnext), ?_⟩
    rw [List.length_append]
    exact metered_step hvalid hnext hstarted hmetered
  have hstart : J world [] := ⟨hv, hnow, hf⟩
  have hend := Machine.run_trace_invariant hstep hstart hrun
  exact hend.2.2

end Run

section Calls

variable {env : MapEnv} {request : SeatingMapBenchmarkRequest} {world world' : MapWorld}
  {ns : List Nat}

theorem getSeatingMapForMode_ne_idle (e : String) (useRedis : Bool) (now : Nat) :
    getSeatingMapForMode e useRedis now ≠ .idle := by
  unfold getSeatingMapForMode
  split_ifs
  · nofun
  · nofun

/-- The calls of the benchmark come in at one moment, and nothing else happens. -/
theorem calls_begun (h : (seatingMaps env).run world (request.calls ns) = some world') :
    world'.shared = world.shared ∧
      (∀ n ∈ ns, world.point n = .idle ∧ world'.point n =
        getSeatingMapForMode request.eventId request.useRedis world.shared.now) ∧
      (∀ n ∉ ns, world'.point n = world.point n) ∧ ns.Nodup := by
  induction ns generalizing world with
  | nil =>
    cases h
    exact ⟨rfl, by simp, fun _ _ => rfl, List.nodup_nil⟩
  | cons m ns ih =>
    obtain ⟨next, hnext, hrun⟩ := Machine.run_cons_some _ h
    obtain ⟨hshared, hbegun, hother, hnodup⟩ := ih hrun
    simp only [seatingMaps, MapWorld.step] at hnext
    split at hnext
    next hidle =>
      cases hnext
      simp only at hshared hbegun hother
      have hstarted := getSeatingMapForMode_ne_idle request.eventId request.useRedis
        world.shared.now
      have hm : m ∉ ns := by
        intro hmem
        have hpoint := (hbegun m hmem).1
        rw [Function.update_self] at hpoint
        exact hstarted hpoint
      have hsame (n : Nat) (hn : n ≠ m) : Function.update world.point m
          (getSeatingMapForMode request.eventId request.useRedis world.shared.now) n =
          world.point n := Function.update_of_ne hn _ _
      refine ⟨hshared, fun n hn => ?_, fun n hn => ?_, List.nodup_cons.mpr ⟨hm, hnodup⟩⟩
      · by_cases hnm : n = m
        · subst hnm
          refine ⟨hidle, ?_⟩
          rw [hother n hm, Function.update_self]
        · have hmem := (List.mem_cons.mp hn).resolve_left hnm
          have hpoint := hbegun n hmem
          rw [hsame n hnm] at hpoint
          exact hpoint
      · rw [List.mem_cons, not_or] at hn
        rw [hother n hn.2]
        exact hsame n hn.1
    next => cases hnext

variable (bench : SeatingMapBenchmarkRun env request world)

/-- What the outcome of one call of the benchmark tells of its reads. -/
theorem benchmark_told (hv : mapOutline.Valid world) :
    List.Forall₂ (fun n result => Told request.useRedis bench.ready.shared.now
      ((seatingMaps env).trace (databaseRead n) bench.begun bench.ls).length
      bench.settled.shared.now result) bench.ns bench.results := by
  have hready := Machine.run_invariant _ (map_valid_step env) hv bench.clears
  have hvalid := Machine.run_invariant _ (map_valid_step env) hready bench.begins
  obtain ⟨hshared, hbegun, -, -⟩ := calls_begun bench.begins
  rw [List.forall₂_iff_zip]
  obtain ⟨hlength, houtcome⟩ := List.forall₂_iff_zip.mp bench.outcomes
  refine ⟨hlength, fun hmem => ?_⟩
  rename_i n result
  obtain ⟨e, hended⟩ := houtcome hmem
  have hstarted : (bench.begun.point n).Metered request.useRedis bench.ready.shared.now 0
      bench.begun.shared.now := by
    rw [(hbegun n (List.of_mem_zip hmem).1).2]
    cases request.useRedis with
    | true => exact ⟨rfl, le_refl _, rfl⟩
    | false => exact ⟨rfl, le_refl _, rfl⟩
  have hnow : bench.ready.shared.now ≤ bench.begun.shared.now := by
    rw [hshared]
  have hsettled := metered_run hvalid hnow hstarted bench.settles
  rw [hended] at hsettled
  exact hsettled

end Calls

section Report

variable {useRedis : Bool} {startedAt now : Nat} {results : List MapOutcome} {ns : List Nat}
  {reads : Nat → Nat}

/-- What the flags of a list of results add up to. -/
structure Tallied (useRedis : Bool) (successful : List SeatingMapExecutionMeta) : Prop where
  hits : successful.countP (·.databaseLoaded) + successful.countP (·.cacheHit) = successful.length
  locks : successful.countP (·.lockAcquired) + successful.countP (·.waitedForLock) ≤
    successful.length
  loads : useRedis = true →
    successful.countP (·.databaseLoaded) ≤ successful.countP (·.lockAcquired)
  direct : useRedis = false → successful.countP (·.cacheHit) = 0 ∧
    successful.countP (·.lockAcquired) = 0 ∧ successful.countP (·.waitedForLock) = 0

theorem tallied {successful : List SeatingMapExecutionMeta}
    (h : ∀ m ∈ successful, ∃ k, m.Tells useRedis k) : Tallied useRedis successful where
  hits := by
    rw [List.length_eq_countP_add_countP (·.databaseLoaded)]
    congr 1
    apply List.countP_congr
    intro m hm
    obtain ⟨k, htells⟩ := h m hm
    simp [htells.hit]
  locks := by
    have hwaited : successful.countP (·.waitedForLock) ≤
        successful.countP fun m => ¬ m.lockAcquired = true := by
      apply List.countP_mono_left
      intro m hm hwait
      obtain ⟨k, htells⟩ := h m hm
      have hlock : m.lockAcquired ≠ true := fun hl => by
        rw [htells.lock hl] at hwait
        cases hwait
      simp [hlock]
    have hsplit := List.length_eq_countP_add_countP (fun m => m.lockAcquired) (l := successful)
    omega
  loads := by
    intro hredis
    apply List.countP_mono_left
    intro m hm hloaded
    obtain ⟨k, htells⟩ := h m hm
    rw [htells.load hloaded]
    exact hredis
  direct := by
    intro hdirect
    simp only [List.countP_eq_zero]
    refine ⟨fun m hm => ?_, fun m hm => ?_, fun m hm => ?_⟩
    · obtain ⟨k, htells⟩ := h m hm
      simp [htells.hit, (htells.direct hdirect).1]
    · obtain ⟨k, htells⟩ := h m hm
      simp [htells.load (htells.direct hdirect).1, hdirect]
    · obtain ⟨k, htells⟩ := h m hm
      simp [(htells.direct hdirect).2]

/-- The fulfilled calls account for their reads, and a rejected one for at most one read. -/
theorem reads_tallied (h : List.Forall₂ (fun n result =>
    Told useRedis startedAt (reads n) now result) ns results) :
    (fulfilled results).length ≤ results.length ∧
      (fulfilled results).countP (·.databaseLoaded) ≤ (ns.map reads).sum ∧
      (ns.map reads).sum + (fulfilled results).length ≤
        (fulfilled results).countP (·.databaseLoaded) + results.length := by
  induction h with
  | nil => exact ⟨le_refl _, le_refl _, le_refl _⟩
  | @cons n result ns results htold _ ih =>
    obtain ⟨hlength, hlow, hhigh⟩ := ih
    cases result with
    | error message =>
      have hone : reads n ≤ 1 := htold
      show (fulfilled results).length ≤ results.length + 1 ∧ _ ≤ reads n + (ns.map reads).sum ∧
        reads n + (ns.map reads).sum + (fulfilled results).length ≤ _ + (results.length + 1)
      refine ⟨?_, ?_, ?_⟩
      · omega
      · exact hlow.trans (Nat.le_add_left _ _)
      · have hcount : (fulfilled (.error message :: results)).countP (·.databaseLoaded) =
            (fulfilled results).countP (·.databaseLoaded) := rfl
        rw [hcount]
        omega
    | ok value =>
      have hreads := htold.1.reads
      have hcount : (fulfilled (.ok value :: results)).countP (·.databaseLoaded) =
          (fulfilled results).countP (·.databaseLoaded) +
            value.execution.databaseLoaded.toNat := by
        show (value.execution :: fulfilled results).countP (·.databaseLoaded) = _
        rw [List.countP_cons]
        cases value.execution.databaseLoaded with
        | true => rfl
        | false => rfl
      have hmore : (fulfilled (.ok value :: results)).length = (fulfilled results).length + 1 :=
        rfl
      rw [hcount, hmore, List.map_cons, List.sum_cons, List.length_cons]
      omega

theorem fulfilled_told (h : List.Forall₂ (fun n result =>
    Told useRedis startedAt (reads n) now result) ns results) :
    ∀ m ∈ fulfilled results, (∃ k, m.Tells useRedis k) ∧ startedAt + m.durationMs ≤ now := by
  induction h with
  | nil =>
    intro m hm
    cases hm
  | @cons n result ns results htold _ ih =>
    cases result with
    | error message => exact ih
    | ok value =>
      intro m hm
      rcases List.mem_cons.mp hm with rfl | hmem
      · exact ⟨⟨_, htold.1⟩, htold.2⟩
      · exact ih m hmem

theorem min_le_max (durations : List Nat) : durations.min?.getD 0 ≤ durations.max?.getD 0 := by
  cases hmin : durations.min? with
  | none => exact Nat.zero_le _
  | some least =>
    have hmem := List.min?_mem hmin
    obtain ⟨most, hmax⟩ := Option.isSome_iff_exists.mp (List.isSome_max?_of_mem hmem)
    rw [hmax]
    exact (List.max?_eq_some_iff.mp hmax).2 least hmem

theorem max_le {durations : List Nat} {bound : Nat} (h : ∀ d ∈ durations, d ≤ bound) :
    durations.max?.getD 0 ≤ bound := by
  cases hmax : durations.max? with
  | none => exact Nat.zero_le _
  | some most => exact h most (List.max?_mem hmax)

end Report

section Report

variable {env : MapEnv} {request : SeatingMapBenchmarkRequest} {world : MapWorld}
  (bench : SeatingMapBenchmarkRun env request world)

theorem benchmark_reads (hv : mapOutline.Valid world) :
    bench.response.result.successfulRequests + bench.response.result.failedRequests =
        request.concurrency ∧
      bench.response.result.databaseLoads ≤ bench.reads ∧
      bench.reads ≤ bench.response.result.databaseLoads + bench.response.result.failedRequests := by
  have htold := benchmark_told bench hv
  obtain ⟨hlength, hlow, hhigh⟩ := reads_tallied htold
  have hcount : bench.results.length = request.concurrency :=
    htold.length_eq.symm.trans bench.all
  have hsuccessful : bench.response.result.successfulRequests =
      (fulfilled bench.results).length := rfl
  have hfailed : bench.response.result.failedRequests =
      bench.results.length - (fulfilled bench.results).length := rfl
  have hloads : bench.response.result.databaseLoads =
      (fulfilled bench.results).countP (·.databaseLoaded) := rfl
  have hreads : bench.reads = (bench.ns.map fun n =>
      ((seatingMaps env).trace (databaseRead n) bench.begun bench.ls).length).sum := rfl
  refine ⟨?_, ?_, ?_⟩
  · omega
  · omega
  · omega

theorem benchmark_phase2 (hv : mapOutline.Valid world) : bench.response.phase2Passed = true ↔
    request.useRedis = true ∧ bench.response.result.failedRequests = 0 ∧ bench.reads ≤ 1 := by
  obtain ⟨hall, hlow, hhigh⟩ := benchmark_reads bench hv
  have hpassed : bench.response.phase2Passed = (request.useRedis &&
      bench.response.result.successfulRequests = request.concurrency &&
      bench.response.result.databaseLoads ≤ 1) := rfl
  rw [hpassed, Bool.and_eq_true, Bool.and_eq_true, decide_eq_true_iff, decide_eq_true_iff]
  constructor
  · rintro ⟨⟨hredis, hsuccessful⟩, hone⟩
    refine ⟨hredis, ?_, ?_⟩
    · omega
    · omega
  · rintro ⟨hredis, hnone, hone⟩
    refine ⟨⟨hredis, ?_⟩, ?_⟩
    · omega
    · omega

end Report

/-- The report of the benchmark is exact, whatever else the service does meanwhile: its requests
succeed or fail, a successful one is a load or a hit, and the loads it counts are the database
reads that its calls sent, up to one for each failed request. So phase 2 is passed exactly when
in protected mode all requests succeed and at most one of them has read the database. -/
theorem seating_map_benchmark_exact {env : MapEnv} {request : SeatingMapBenchmarkRequest}
    {start world : MapWorld} (hinit : start.Initial)
    (hreach : (seatingMaps env).Reach start world)
    (bench : SeatingMapBenchmarkRun env request world) :
    let report := bench.response
    let result := report.result
    result.successfulRequests + result.failedRequests = request.concurrency ∧
      result.databaseLoads + result.cacheHits = result.successfulRequests ∧
      result.mutexAcquired + result.mutexWaiters ≤ result.successfulRequests ∧
      (request.useRedis = true → result.databaseLoads ≤ result.mutexAcquired) ∧
      (request.useRedis = false →
        result.cacheHits = 0 ∧ result.mutexAcquired = 0 ∧ result.mutexWaiters = 0) ∧
      result.databaseLoads ≤ bench.reads ∧
      bench.reads ≤ result.databaseLoads + result.failedRequests ∧
      result.minDurationMs ≤ result.maxDurationMs ∧
      result.maxDurationMs ≤ result.totalDurationMs ∧
      (report.phase2Passed = true ↔
        request.useRedis = true ∧ result.failedRequests = 0 ∧ bench.reads ≤ 1) := by
  intro report result
  have hv := map_reach_valid hinit hreach
  have htold := benchmark_told bench hv
  have hsum := tallied fun m hm => (fulfilled_told htold m hm).1
  obtain ⟨hall, hlow, hhigh⟩ := benchmark_reads bench hv
  refine ⟨hall, hsum.hits, hsum.locks, hsum.loads, hsum.direct, hlow, hhigh, min_le_max _, ?_,
    benchmark_phase2 bench hv⟩
  apply max_le
  intro d hd
  obtain ⟨m, hm, rfl⟩ := List.mem_map.mp hd
  have hmade := (fulfilled_told htold m hm).2
  show m.durationMs ≤ bench.settled.shared.now - bench.ready.shared.now
  omega

/-- Two protected requests on a cold cache. -/
def twoRequests : SeatingMapBenchmarkRequest := ⟨"e", true, 2, true⟩

/-- The first call fills the cache while the second waits for it. -/
def oneLoads : List MapLabel :=
  mapActs 0 ["", "t0"] ++ mapActs 1 ["", "t1"] ++ mapActs 0 ["", "", "", ""] ++ [.advance 25] ++
    mapActs 1 ["", ""]

/-- The service with both calls in. -/
def twoBegun : MapWorld where
  shared := coldCache.shared.setKey (seatingMapCacheKey "e") none
  point := Function.update (Function.update coldCache.point 0 (.readCache ⟨"e", 0⟩)) 1
    (.readCache ⟨"e", 0⟩)

theorem twoRequests_bench :
    ∃ bench : SeatingMapBenchmarkRun plainEnv twoRequests coldCache,
      bench.begun = twoBegun ∧ bench.ls = oneLoads ∧
        (fulfilled bench.results).map (·.databaseLoaded) = [true, false] := by
  have hview : ((seatingMaps plainEnv).run twoBegun oneLoads).map (fun world =>
      ((world.point 0).resolved.map fun p => p.2.execution.databaseLoaded,
        (world.point 1).resolved.map fun p => p.2.execution.databaseLoaded)) =
      some (some true, some false) := by
    decide +kernel
  obtain ⟨settled, hsettles, hview⟩ := Option.map_eq_some_iff.mp hview
  obtain ⟨hfirst, hsecond⟩ := Prod.mk.inj hview
  obtain ⟨⟨e₀, r₀⟩, hzero, hloaded⟩ := Option.map_eq_some_iff.mp hfirst
  obtain ⟨⟨e₁, r₁⟩, hone, hwaited⟩ := Option.map_eq_some_iff.mp hsecond
  refine ⟨{
    gap := []
    ls := oneLoads
    ns := [0, 1]
    ready := ⟨coldCache.shared.setKey (seatingMapCacheKey "e") none, coldCache.point⟩
    begun := twoBegun
    settled := settled
    results := [.ok r₀, .ok r₁]
    clears := rfl
    begins := rfl
    settles := hsettles
    all := rfl
    outcomes := .cons ⟨e₀, ended_of_resolved hzero⟩ (.cons ⟨e₁, ended_of_resolved hone⟩ .nil)
    }, rfl, rfl, ?_⟩
  show [r₀.execution.databaseLoaded, r₁.execution.databaseLoaded] = [true, false]
  rw [hloaded, hwaited]

theorem seating_map_benchmark_exact_twoRequests :
    ∃ bench : SeatingMapBenchmarkRun plainEnv twoRequests coldCache,
      bench.response.result.databaseLoads = 1 ∧ 1 ≤ bench.reads := by
  obtain ⟨bench, -, -, hloaded⟩ := twoRequests_bench
  obtain ⟨-, -, -, -, -, hreads, -⟩ :=
    seating_map_benchmark_exact coldCache_initial (Machine.Reach.refl _ _) bench
  have hloads : bench.response.result.databaseLoads = 1 := by
    show (fulfilled bench.results).countP (·.databaseLoaded) = 1
    have hcount := congrArg (List.countP id) hloaded
    rw [List.countP_map] at hcount
    exact hcount
  exact ⟨bench, hloads, hloads.ge.trans hreads⟩

/-! ## Under the shield -/

/-- A protected call on the event. -/
def MapFrame.Protects (eventId : String) : MapFrame → Prop
  | .readCache call | .acquireMutex call | .owner call _ _ => call.eventId = eventId
  | .sleep call _ _ _ | .waitRead call _ _ => call.eventId = eventId
  | .ended _ _ => True
  | .getSeatingMapDirect _ | .idle => False

section Shielded

variable {env : MapEnv} {s s' : MapStore} {n : Nat} {c : Choice} {f f' : MapFrame}
  {eventId : String} {world world' : MapWorld} {l : MapLabel} {ls : List MapLabel} {ns : List Nat}

theorem MapStep.protects (h : MapStep env s n c f s' f') (hf : f.Protects eventId) :
    f'.Protects eventId := by
  cases h with
  | direct_error | direct_found => exact hf.elim
  | read_error | read_hit | acquire_error | release_error | release_done => trivial
  | wait_error | wait_hit | wait_over => trivial
  | _ => exact hf

/-- A read of a protected call counts as a load of its event. -/
theorem MapStep.reads_le (h : MapStep env s n c f s' f') (hholds : f.Holds n s)
    (hf : f.Protects eventId) : f.reads.toList.length + s.loads eventId ≤ s'.loads eventId := by
  have hloads := (h.change hholds).loads eventId
  cases h with
  | direct_error | direct_found => exact hf.elim
  | load_error | load_found =>
    have hcall : _ = eventId := hf
    subst hcall
    show 1 + s.loads _ ≤ Function.update s.loads _ _ _
    rw [Function.update_self, Nat.add_comm]
  | _ => exact (Nat.zero_add _).le.trans hloads

theorem protects_step (h : MapWorld.step env world l = some world')
    (hp : (world.point n).Protects eventId) : (world'.point n).Protects eventId := by
  rcases map_step_cases h with ⟨m, c, s, f, rfl, hmove, rfl⟩ | ⟨-, hquiet⟩
  · by_cases hm : n = m
    · subst hm
      simp only [Function.update_self]
      exact hmove.protects hp
    · simp only [Function.update_of_ne hm]
      exact hp
  · rcases hquiet with ⟨m, e, useRedis, hidle, rfl⟩ | ⟨s, -, rfl⟩
    · have hm : n ≠ m := by
        intro heq
        rw [heq, hidle] at hp
        exact hp
      simp only [Function.update_of_ne hm]
      exact hp
    · exact hp

/-- One step reads the database for at most one of the calls. -/
theorem reads_step (hv : mapOutline.Valid world) (hns : ns.Nodup)
    (hp : ∀ n ∈ ns, (world.point n).Protects eventId)
    (h : MapWorld.step env world l = some world') :
    (ns.map fun n => (databaseRead n world l).toList.length).sum + world.shared.loads eventId ≤
      world'.shared.loads eventId := by
  rcases map_step_cases h with ⟨m, c, s, f, rfl, hmove, rfl⟩ | ⟨hother, hquiet⟩
  · have hread : (fun n => (databaseRead n world (.act m c)).toList.length) = fun n =>
        if m = n then (world.point n).reads.toList.length else 0 := by
      funext n
      by_cases hm : m = n
      · simp [databaseRead, hm]
      · simp [databaseRead, hm]
    rw [hread, ← List.sum_toFinset _ hns, Finset.sum_ite_eq]
    split_ifs with hmem
    · exact hmove.reads_le (hv.2 m) (hp m (List.mem_toFinset.mp hmem))
    · have hloads := (hmove.change (hv.2 m)).loads eventId
      exact (Nat.zero_add _).le.trans hloads
  · have hnone : (fun n => (databaseRead n world l).toList.length) = fun _ => 0 := by
      funext n
      cases l with
      | act m c => exact absurd rfl (hother m c)
      | _ => rfl
    have hloads : world.shared.loads eventId = world'.shared.loads eventId := by
      rcases hquiet with ⟨m, e, useRedis, -, rfl⟩ | ⟨s, hq, rfl⟩
      · rfl
      · exact (congrFun hq.loads eventId).symm
    rw [hnone, hloads]
    simp

theorem reads_run (hv : mapOutline.Valid world) (hns : ns.Nodup)
    (hp : ∀ n ∈ ns, (world.point n).Protects eventId)
    (hrun : (seatingMaps env).run world ls = some world') :
    (ns.map fun n => ((seatingMaps env).trace (databaseRead n) world ls).length).sum +
      world.shared.loads eventId ≤ world'.shared.loads eventId := by
  induction ls generalizing world with
  | nil =>
    cases hrun
    simp [Machine.trace]
  | cons l ls ih =>
    obtain ⟨next, hnext, hrun⟩ := Machine.run_cons_some _ hrun
    have hstep : MapWorld.step env world l = some next := hnext
    have hfirst := reads_step hv hns hp hstep
    have hrest := ih (map_valid_step env world l next hv hnext)
      (fun n hn => protects_step hstep (hp n hn)) hrun
    simp only [Machine.trace_cons hnext, List.length_append, List.sum_map_add]
    omega

/-- Under the conditions of the stampede shield the calls of the benchmark read the database at
most once, so it passes phase 2 exactly when none of its requests is rejected. -/
theorem seating_map_benchmark_shielded {request : SeatingMapBenchmarkRequest}
    {start : MapWorld} (hinit : start.Initial) (hreach : (seatingMaps env).Reach start world)
    (bench : SeatingMapBenchmarkRun env request world) (hredis : request.useRedis = true)
    (hok : (seatingMaps env).Along (NoFailure env request.eventId) bench.begun bench.ls)
    (hleased : (seatingMaps env).Every (OwnersLeased request.eventId) bench.begun bench.ls)
    (hkept : (seatingMaps env).Along (CacheKept request.eventId
      (bench.begun.shared.writes request.eventId).length) bench.begun bench.ls) :
    bench.reads ≤ 1 ∧
      (bench.response.phase2Passed = true ↔ bench.response.result.failedRequests = 0) := by
  have hvalid := map_reach_valid hinit hreach
  have hready := Machine.run_invariant _ (map_valid_step env) hvalid bench.clears
  have hbegun := Machine.run_invariant _ (map_valid_step env) hready bench.begins
  obtain ⟨hshared, hstarted, -, hns⟩ := calls_begun bench.begins
  have hprotects : ∀ n ∈ bench.ns, (bench.begun.point n).Protects request.eventId := by
    intro n hn
    rw [(hstarted n hn).2, hredis]
    exact rfl
  have hreads : bench.reads + bench.begun.shared.loads request.eventId ≤
      bench.settled.shared.loads request.eventId := reads_run hbegun hns hprotects bench.settles
  have hcond := Machine.Along.and _ (Machine.Along.and _ hok hkept) (Machine.Every.along _ hleased)
  have hevery := Machine.every_of_along (seatingMaps env) (I := fun w => mapOutline.Valid w ∧
      Shield request.eventId (bench.begun.shared.loads request.eventId)
        (bench.begun.shared.writes request.eventId).length w)
    (fun w l w' hw hstep hc => ⟨map_valid_step env w l w' hw.1 hstep,
      shield_step hw.2 hw.1 hc.2.1 hc.1.1 hc.1.2 hstep⟩) ⟨hbegun, le_refl _, .inl rfl⟩ hcond
  obtain ⟨-, -, hloads⟩ := Machine.Every.last _ hevery bench.settles
  have hone : bench.reads ≤ 1 := by
    rcases hloads with hzero | ⟨hplus, -⟩
    · omega
    · omega
  rw [benchmark_phase2 bench hvalid]
  exact ⟨hone, fun h => h.2.1, fun h => ⟨hredis, h, hone⟩⟩

end Shielded

theorem seating_map_benchmark_shielded_twoRequests :
    ∃ bench : SeatingMapBenchmarkRun plainEnv twoRequests coldCache,
      (fulfilled bench.results).length = 2 ∧ bench.reads ≤ 1 := by
  obtain ⟨bench, hbegun, hls, hloaded⟩ := twoRequests_bench
  have hlength : (fulfilled bench.results).length = 2 := by
    have hcount := congrArg List.length hloaded
    rw [List.length_map] at hcount
    exact hcount
  have hok : (seatingMaps plainEnv).Along (NoFailure plainEnv twoRequests.eventId) bench.begun
      bench.ls := by
    rw [hbegun, hls]
    decide +kernel
  have hleased : (seatingMaps plainEnv).Every (OwnersLeased twoRequests.eventId) bench.begun
      bench.ls := by
    rw [hbegun, hls]
    apply every_ownersLeased
    decide +kernel
  have hkept : (seatingMaps plainEnv).Along (CacheKept twoRequests.eventId
      (bench.begun.shared.writes twoRequests.eventId).length) bench.begun bench.ls := by
    rw [hbegun, hls]
    decide +kernel
  have hshield := seating_map_benchmark_shielded coldCache_initial (Machine.Reach.refl _ _) bench
    rfl hok hleased hkept
  exact ⟨bench, hlength, hshield.1⟩

end TicketEngine
