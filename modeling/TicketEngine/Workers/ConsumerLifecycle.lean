import TicketEngine.Framework.Machine
import TicketEngine.Scripts.Lua

namespace TicketEngine

/-- Where one call of `startOrderConsumer` waits, or how its promise has settled. -/
inductive ConsumerCall
  | initializing
  | claiming
  | reading (claimed : Nat)
  | processing (count : Nat)
  | resolved
  | rejected (error : String)
  deriving DecidableEq

namespace ConsumerCall

/-- The call is inside its `while` loop. -/
def polling : ConsumerCall → Bool
  | claiming => true
  | reading _ => true
  | processing _ => true
  | _ => false

def settled : ConsumerCall → Bool
  | resolved => true
  | rejected _ => true
  | _ => false

end ConsumerCall

/-- The module `stream-consumer.worker` in one process: its flag, and every call of
`startOrderConsumer` so far. -/
structure ConsumerProcess where
  consumerRunning : Bool
  calls : List ConsumerCall
  deriving DecidableEq

/-- A call from outside, or the outcome of a command that call `n` awaits. -/
inductive ConsumerLabel
  | startOrderConsumer
  | stopOrderConsumer
  | groupReply (n : Nat) (c : Choice)
  | claimReply (n : Nat) (reply : Except String Nat)
  | readReply (n : Nat) (reply : Except String Nat)
  | batchDone (n : Nat)

/-- BUSYGROUP is an idempotent startup result. -/
def initializeOrderConsumerGroup : Choice → Except String Unit
  | .ok _ => .ok ()
  | .fail message =>
    if includes message "BUSYGROUP" then .ok () else .error message

namespace ConsumerProcess

def initial : ConsumerProcess := ⟨false, []⟩

def goto (s : ConsumerProcess) (n : Nat) (call : ConsumerCall) : ConsumerProcess :=
  { s with calls := s.calls.set n call }

/-- The `finally` block, and the end of the call. -/
def finish (s : ConsumerProcess) (n : Nat) (call : ConsumerCall) : ConsumerProcess :=
  ⟨false, s.calls.set n call⟩

def startOrderConsumer (s : ConsumerProcess) : ConsumerProcess :=
  if s.consumerRunning then { s with calls := s.calls ++ [.resolved] }
  else ⟨true, s.calls ++ [.initializing]⟩

def stopOrderConsumer (s : ConsumerProcess) : ConsumerProcess :=
  { s with consumerRunning := false }

/-- The test of the `while` loop. -/
def poll (s : ConsumerProcess) (n : Nat) : ConsumerProcess :=
  if s.consumerRunning then s.goto n .claiming else s.finish n .resolved

/-- The initialization is awaited before the `try` block: its error leaves the flag as it is. -/
def groupReply (s : ConsumerProcess) (n : Nat) (c : Choice) : ConsumerProcess :=
  match initializeOrderConsumerGroup c with
  | .ok () => s.poll n
  | .error message => s.goto n (.rejected message)

def claimReply (s : ConsumerProcess) (n : Nat) : Except String Nat → ConsumerProcess
  | .ok claimed => s.goto n (.reading claimed)
  | .error message => s.finish n (.rejected message)

def readReply (s : ConsumerProcess) (n claimed : Nat) : Except String Nat → ConsumerProcess
  | .ok read =>
    let messages := claimed + read
    if messages = 0 then s.poll n else s.goto n (.processing messages)
  | .error message => s.finish n (.rejected message)

def step (s : ConsumerProcess) : ConsumerLabel → Option ConsumerProcess
  | .startOrderConsumer => some s.startOrderConsumer
  | .stopOrderConsumer => some s.stopOrderConsumer
  | .groupReply n c =>
    match s.calls[n]? with
    | some .initializing => some (s.groupReply n c)
    | _ => none
  | .claimReply n reply =>
    match s.calls[n]? with
    | some .claiming => some (s.claimReply n reply)
    | _ => none
  | .readReply n reply =>
    match s.calls[n]? with
    | some (.reading claimed) => some (s.readReply n claimed reply)
    | _ => none
  | .batchDone n =>
    match s.calls[n]? with
    | some (.processing _) => some (s.poll n)
    | _ => none

end ConsumerProcess

/-- The calls of one process, in every order in which their commands can be answered. -/
def consumerLoop : Machine ConsumerProcess ConsumerLabel where
  step := ConsumerProcess.step

namespace ConsumerProcess

/-- The number of poll loops that are alive. -/
def loops (s : ConsumerProcess) : Nat := s.calls.countP ConsumerCall.polling

/-- No call is in progress, so none polls. -/
def Quiet (s : ConsumerProcess) : Prop := ∀ call ∈ s.calls, call.settled = true

instance (s : ConsumerProcess) : Decidable s.Quiet := List.decidableBAll _ _

/-- At most one loop is alive, and in a quiet process the next start finds the flag cleared. -/
structure Ordered (s : ConsumerProcess) : Prop where
  single : s.loops ≤ 1
  cleared : s.Quiet → s.consumerRunning = false

instance (s : ConsumerProcess) : Decidable s.Ordered :=
  decidable_of_iff (s.loops ≤ 1 ∧ (s.Quiet → s.consumerRunning = false))
    ⟨fun h => ⟨h.1, h.2⟩, fun h => ⟨h.single, h.cleared⟩⟩

def OthersSettled (s : ConsumerProcess) (n : Nat) : Prop :=
  ∀ m call, m ≠ n → s.calls[m]? = some call → call.settled = true

/-- How an initialization may end: with success, when no loop is alive or the call is to stop at
once; with an error, when the flag is cleared already or some other call is in progress. -/
def InitializedAlone (s : ConsumerProcess) : ConsumerLabel → Prop
  | .groupReply n c =>
    match initializeOrderConsumerGroup c with
    | .ok () => s.consumerRunning = true → s.loops = 0
    | .error _ => s.OthersSettled n → s.consumerRunning = false
  | _ => True

theorem startOrderConsumer_starts {s : ConsumerProcess} (h : s.Ordered) (hquiet : s.Quiet) :
    s.startOrderConsumer = ⟨true, s.calls ++ [.initializing]⟩ := by
  have hflag := h.cleared hquiet
  simp only [startOrderConsumer, hflag, Bool.false_eq_true, if_false]

theorem loops_goto {s : ConsumerProcess} {n : Nat} {call : ConsumerCall}
    (h : s.calls[n]? = some call) (next : ConsumerCall) :
    (s.goto n next).loops + (if call.polling then 1 else 0) =
      s.loops + (if next.polling then 1 else 0) := by
  obtain ⟨hn, hcall⟩ := List.getElem?_eq_some_iff.mp h
  have hcount : (if call.polling then 1 else 0) ≤ s.loops := by
    cases hp : call.polling with
    | false => simp
    | true =>
      have hmem : call ∈ s.calls := hcall ▸ List.getElem_mem hn
      exact List.countP_pos_iff.mpr ⟨call, hmem, hp⟩
  have hset := List.countP_set (p := ConsumerCall.polling) (a := next) hn
  rw [hcall] at hset
  simp only [loops, goto] at hcount ⊢
  omega

theorem mem_goto {s : ConsumerProcess} {n : Nat} {call : ConsumerCall}
    (h : s.calls[n]? = some call) (next : ConsumerCall) : next ∈ (s.goto n next).calls :=
  List.mem_set (List.getElem?_eq_some_iff.mp h).1 next

/-- A call that goes on keeps the order, when it polls already or polls not yet. -/
theorem ordered_goto {s : ConsumerProcess} {n : Nat} {call next : ConsumerCall} (hs : s.Ordered)
    (h : s.calls[n]? = some call) (hp : next.polling = call.polling)
    (hnext : next.settled = false) : (s.goto n next).Ordered := by
  constructor
  · have hcount := loops_goto h next
    have hsingle := hs.single
    rw [hp] at hcount
    omega
  · intro hquiet
    have hsettled := hquiet next (mem_goto h next)
    rw [hnext] at hsettled
    cases hsettled

/-- The `finally` block keeps the order. -/
theorem ordered_finish {s : ConsumerProcess} {n : Nat} {call next : ConsumerCall}
    (hs : s.Ordered) (h : s.calls[n]? = some call) (hnext : next.polling = false) :
    (s.finish n next).Ordered := by
  constructor
  · have hcount := loops_goto h next
    have hsingle := hs.single
    have hsame : (s.finish n next).loops = (s.goto n next).loops := rfl
    rw [hnext] at hcount
    simp only [Bool.false_eq_true, if_false] at hcount
    omega
  · intro _
    rfl

theorem ordered_poll {s : ConsumerProcess} {n : Nat} {call : ConsumerCall} (hs : s.Ordered)
    (h : s.calls[n]? = some call) (hp : call.polling = true) : (s.poll n).Ordered := by
  unfold poll
  split
  · exact ordered_goto hs h hp.symm rfl
  · exact ordered_finish hs h rfl

theorem ordered_startOrderConsumer {s : ConsumerProcess} (hs : s.Ordered) :
    s.startOrderConsumer.Ordered := by
  unfold startOrderConsumer
  split
  next hflag =>
    constructor
    · simpa [loops, ConsumerCall.polling] using hs.single
    · intro hquiet
      exact hs.cleared fun call hcall => hquiet call (List.mem_append_left _ hcall)
  next =>
    constructor
    · simpa [loops, ConsumerCall.polling] using hs.single
    · intro hquiet
      have hsettled := hquiet .initializing (by simp)
      cases hsettled

/-- A call whose initialization succeeds adds a loop, unless it is to stop. -/
theorem ordered_entered_iff {s : ConsumerProcess} {n : Nat} (hs : s.Ordered)
    (h : s.calls[n]? = some .initializing) :
    (s.poll n).Ordered ↔ (s.consumerRunning = true → s.loops = 0) := by
  unfold poll
  split
  next hflag =>
    have hcount : (s.goto n .claiming).loops = s.loops + 1 := loops_goto h .claiming
    constructor
    · intro ht _
      have hsingle := ht.single
      omega
    · intro halone
      constructor
      · have hzero := halone hflag
        omega
      · intro hquiet
        have hsettled := hquiet .claiming (mem_goto h .claiming)
        cases hsettled
  next hflag => exact iff_of_true (ordered_finish hs h rfl) fun hrunning => absurd hrunning hflag

theorem quiet_rejected_iff {s : ConsumerProcess} {n : Nat} {call : ConsumerCall}
    (h : s.calls[n]? = some call) (message : String) :
    (s.goto n (.rejected message)).Quiet ↔ s.OthersSettled n := by
  obtain ⟨hn, _⟩ := List.getElem?_eq_some_iff.mp h
  constructor
  · intro hquiet m other hm hother
    have hsame : (s.goto n (.rejected message)).calls[m]? = some other := by
      rw [← hother]
      exact List.getElem?_set_ne hm.symm
    exact hquiet other (List.mem_of_getElem? hsame)
  · intro hothers other hmem
    obtain ⟨m, hm⟩ := List.getElem?_of_mem hmem
    by_cases heq : m = n
    · subst heq
      have hset : (s.goto m (.rejected message)).calls[m]? = some (.rejected message) :=
        List.getElem?_set_self hn
      cases hset.symm.trans hm
      rfl
    · have hset : (s.goto n (.rejected message)).calls[m]? = s.calls[m]? :=
        List.getElem?_set_ne (Ne.symm heq)
      exact hothers m other heq (hset ▸ hm)

/-- A call whose initialization fails leaves the flag, which only another call in progress can
still clear. -/
theorem ordered_rejected_iff {s : ConsumerProcess} {n : Nat} (hs : s.Ordered)
    (h : s.calls[n]? = some .initializing) (message : String) :
    (s.goto n (.rejected message)).Ordered ↔ (s.OthersSettled n → s.consumerRunning = false) := by
  have hcount : (s.goto n (.rejected message)).loops = s.loops := loops_goto h (.rejected message)
  constructor
  · intro ht hothers
    exact ht.cleared ((quiet_rejected_iff h message).mpr hothers)
  · intro hcleared
    constructor
    · rw [hcount]
      exact hs.single
    · intro hquiet
      exact hcleared ((quiet_rejected_iff h message).mp hquiet)

/-- One step keeps the order exactly when the initialization it may end is alone. -/
theorem ordered_step_iff {s t : ConsumerProcess} {l : ConsumerLabel} (hs : s.Ordered)
    (ht : s.step l = some t) : t.Ordered ↔ s.InitializedAlone l := by
  cases l with
  | startOrderConsumer =>
    cases ht
    exact iff_of_true (ordered_startOrderConsumer hs) trivial
  | stopOrderConsumer =>
    cases ht
    exact iff_of_true ⟨hs.single, fun _ => rfl⟩ trivial
  | groupReply n c =>
    simp only [step] at ht
    split at ht
    next h =>
      cases ht
      simp only [groupReply, InitializedAlone]
      cases initializeOrderConsumerGroup c with
      | ok => exact ordered_entered_iff hs h
      | error message => exact ordered_rejected_iff hs h message
    next => cases ht
  | claimReply n reply =>
    simp only [step] at ht
    split at ht
    next h =>
      cases ht
      cases reply with
      | ok claimed => exact iff_of_true (ordered_goto hs h rfl rfl) trivial
      | error message => exact iff_of_true (ordered_finish hs h rfl) trivial
    next => cases ht
  | readReply n reply =>
    simp only [step] at ht
    split at ht
    next claimed h =>
      cases ht
      refine iff_of_true ?_ trivial
      cases reply with
      | ok read =>
        simp only [readReply]
        split
        · exact ordered_poll hs h rfl
        · exact ordered_goto hs h rfl rfl
      | error message => exact ordered_finish hs h rfl
    next => cases ht
  | batchDone n =>
    simp only [step] at ht
    split at ht
    next h =>
      cases ht
      exact iff_of_true (ordered_poll hs h rfl) trivial
    next => cases ht

theorem ordered_initial : initial.Ordered := ⟨Nat.zero_le 1, fun _ => rfl⟩

/-- A process is in order all along exactly when every initialization ends alone. -/
theorem consumer_ordered_iff (ls : List ConsumerLabel) :
    consumerLoop.Every Ordered initial ls ↔
      consumerLoop.Along (fun s l _ => s.InitializedAlone l) initial ls := by
  have hstep : ∀ s l t, True → Ordered s → consumerLoop.step s l = some t →
      (Ordered t ↔ s.InitializedAlone l) :=
    fun s l t _ hs ht => ordered_step_iff hs ht
  exact consumerLoop.every_iff_along (fun _ _ _ _ _ => trivial) hstep ls trivial ordered_initial

/-- The group cannot be created at the first start. -/
def failedStart : List ConsumerLabel :=
  [.startOrderConsumer, .groupReply 0 (.fail "Connection is closed.")]

/-- A stop and a start while the first loop waits for its messages. -/
def overtakenStop : List ConsumerLabel :=
  [.startOrderConsumer, .groupReply 0 (.ok ""), .claimReply 0 (.ok 0), .stopOrderConsumer,
    .startOrderConsumer, .groupReply 1 (.ok ""), .readReply 0 (.ok 0)]

/-- After the failed start the flag stays set with no call in progress; after the stop that was
overtaken two loops claim side by side. -/
theorem consumer_disordered :
    ¬ consumerLoop.Every Ordered initial failedStart ∧
      ¬ consumerLoop.Every Ordered initial overtakenStop := by
  decide +kernel

end ConsumerProcess

end TicketEngine
