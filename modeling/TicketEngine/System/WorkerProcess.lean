import TicketEngine.System.Course
import TicketEngine.Websocket.PubSubAdapter

namespace TicketEngine

/-- How far `startWorker` has come. -/
inductive Startup
  | connectDatabase
  | connectRedis
  | startOrderConsumer
  | started
  | exited
  deriving DecidableEq

/-- A worker process: its startup and its own instance of the adapter. -/
structure WorkerProcess where
  startup : Startup
  adapter : RedisPubSubAdapter

namespace WorkerProcess

def launch : WorkerProcess := ⟨.connectDatabase, .constructor⟩

/-- One awaited command of `startWorker` up to the call of `startOrderConsumer`; a failure ends
in `process.exit(1)`. -/
def boot (p : WorkerProcess) (c : Choice) : WorkerProcess :=
  match p.startup, c with
  | .connectDatabase, .ok _ => { p with startup := .connectRedis }
  | .connectRedis, .ok _ => { p with startup := .startOrderConsumer }
  | .connectDatabase, .fail _ => { p with startup := .exited }
  | .connectRedis, .fail _ => { p with startup := .exited }
  | _, _ => p

end WorkerProcess

/-- The engine with its dedicated worker processes. The API processes call no consumer. -/
structure Deployment where
  world : World
  process : Nat → WorkerProcess

inductive Deployment.Label
  | boot (w : Nat) (c : Choice)
  | engine (l : TicketEngine.Label)

namespace Deployment

/-- A command as the process of its thread sends it: the event of a settled order goes through
the adapter of the worker. -/
def sent (d : Deployment) : TicketEngine.Label → TicketEngine.Label
  | .act (.task w i) c =>
    match d.world.point (.task w i) with
    | .publishBooked _ _ => .act (.task w i) ((d.process w).adapter.publishSeatEvent c)
    | _ => .act (.task w i) c
  | l => l

def step (digests : ScriptDigests) (d : Deployment) : Label → Option Deployment
  | .boot w c =>
    match (d.process w).startup with
    | .startOrderConsumer =>
      (TicketEngine.step digests d.world (.startOrderConsumer w)).map fun world =>
        ⟨world, Function.update d.process w { d.process w with startup := .started }⟩
    | _ => some ⟨d.world, Function.update d.process w ((d.process w).boot c)⟩
  | .engine (.startOrderConsumer _) => none
  | .engine (.processAvailableOrderMessages _) => none
  | .engine (.crashWorker w) =>
    (TicketEngine.step digests d.world (.crashWorker w)).map fun world =>
      ⟨world, Function.update d.process w .launch⟩
  | .engine l => (TicketEngine.step digests d.world (d.sent l)).map fun world => ⟨world, d.process⟩

end Deployment

/-- The deployment under a registry of script digests. -/
def deployment (digests : ScriptDigests) : Machine Deployment Deployment.Label where
  step := Deployment.step digests

namespace Deployment

/-- Before the processes start. The rows, the holds, the clock and the stream are arbitrary. -/
structure Starting (d : Deployment) : Prop where
  launched : ∀ w, d.process w = .launch
  idle : ∀ t, d.world.point t = .idle
  channel : d.world.shared.channel = []

def NoneBooked (channel : List WebSocketSeatEvent) : Prop :=
  ∀ event ∈ channel, ∀ eventId seatId orderId, event.payload ≠ .booked eventId seatId orderId

/-- What no command of this deployment changes. -/
structure Unconnected (d : Deployment) : Prop where
  adapters : ∀ w, (d.process w).adapter.connected = false
  calls : ∀ n, (d.world.point (.call n)).processing = false
  channel : NoneBooked d.world.shared.channel

section Step

variable {digests : ScriptDigests} {d d' : Deployment}

theorem Starting.unconnected (h : d.Starting) : d.Unconnected := by
  constructor
  · intro w
    rw [h.launched w]
    rfl
  · intro n
    rw [h.idle]
    rfl
  · intro event hevent
    rw [h.channel] at hevent
    exact absurd hevent List.not_mem_nil

theorem boot_connected (p : WorkerProcess) (c : Choice) :
    (p.boot c).adapter.connected = p.adapter.connected := by
  unfold WorkerProcess.boot
  split
  all_goals rfl

theorem requested_processing {f : Frame} (h : f.Requested) : f.processing = false := by
  have hcases : (∃ e, f = .rejected e) ∨ (∃ caller request, f = .findEvent caller request) ∨
      ∃ request holdId, f = .findOrder request holdId := by
    cases h with
    | holdSeat payload =>
      unfold holdSeat
      cases normalizeHoldRequest payload with
      | error e => exact .inl ⟨e, rfl⟩
      | ok request => exact .inr (.inl ⟨_, request, rfl⟩)
    | createOrder payload =>
      unfold createOrder
      cases normalizeHoldRequest payload with
      | error e => exact .inl ⟨e, rfl⟩
      | ok request => exact .inr (.inl ⟨_, request, rfl⟩)
    | releaseSeat payload holdId =>
      unfold releaseSeat
      cases normalizeHoldRequest payload with
      | error e => exact .inl ⟨e, rfl⟩
      | ok request =>
        simp only
        split_ifs
        · exact .inl ⟨_, rfl⟩
        · exact .inr (.inr ⟨request, holdId, rfl⟩)
  rcases hcases with ⟨e, rfl⟩ | ⟨caller, request, rfl⟩ | ⟨request, holdId, rfl⟩
  · rfl
  · rfl
  · rfl

/-- Calls process no message, whatever the engine does. -/
theorem call_processing {world world' : World} {l : TicketEngine.Label} {n : Nat}
    (hcall : (world.point (.call n)).processing = false)
    (h : TicketEngine.step digests world l = some world') :
    (world'.point (.call n)).processing = false := by
  by_cases hown : ∃ c, l = .act (.call n) c
  · obtain ⟨c, rfl⟩ := hown
    obtain ⟨p, hp, rfl⟩ := Option.map_eq_some_iff.mp h
    have hcourse := act_course hp
    simp only [Function.update_self]
    by_contra hne
    have htrue := hcourse.processing (Bool.of_not_eq_false hne)
    rw [hcall] at htrue
    cases htrue
  · have hother : ∀ c, l ≠ .act (.call n) c := fun c hc => hown ⟨c, hc⟩
    rcases call_cases h n hother with hsame | ⟨-, hidle⟩ | ⟨-, hrequested⟩
    · rw [hsame]
      exact hcall
    · rw [hidle]
      rfl
    · exact requested_processing hrequested

theorem announces_booked {f f' : Frame} {eventId seatId orderId : String}
    (h : f.announces = some (.booked eventId seatId orderId, f')) :
    ∃ message payload, f = .publishBooked message payload := by
  cases f with
  | publishBooked message payload => exact ⟨message, payload, rfl⟩
  | _ => cases h

/-- Only `publishBooked` announces a sale. -/
theorem course_channel {s s' : Store} {t : Thread} {c : Choice} {f f' : Frame}
    (h : Course s t c f s' f') (hf : ∀ message payload, f ≠ .publishBooked message payload)
    (hchannel : NoneBooked s.channel) : NoneBooked s'.channel := by
  rcases h.channel with hsame | ⟨payload, published, hannounces, hevent, hnew⟩
  · rw [hsame]
    exact hchannel
  · intro event hmem eventId seatId orderId hbooked
    rw [hnew] at hmem
    rcases List.mem_append.mp hmem with hold | hlast
    · exact hchannel event hold eventId seatId orderId hbooked
    · rw [List.mem_singleton.mp hlast, hevent] at hbooked
      rw [hbooked] at hannounces
      obtain ⟨message, payload, hpublish⟩ := announces_booked hannounces
      exact hf message payload hpublish

theorem task_channel {w i : Nat} {c : Choice} {world : World}
    (hd : d.Unconnected)
    (h : TicketEngine.step digests d.world (d.sent (.act (.task w i) c)) = some world) :
    NoneBooked world.shared.channel := by
  by_cases hpublish : ∃ message payload, d.world.point (.task w i) = .publishBooked message payload
  · obtain ⟨message, payload, hpoint⟩ := hpublish
    have hlost : d.sent (.act (.task w i) c) = .act (.task w i)
        (.fail "Redis WebSocket Pub/Sub adapter is not connected") := by
      simp only [sent, hpoint, RedisPubSubAdapter.publishSeatEvent_unconnected (hd.adapters w)]
    rw [hlost] at h
    obtain ⟨p, hp, rfl⟩ := Option.map_eq_some_iff.mp h
    rw [hpoint] at hp
    cases hp
    exact hd.channel
  · have hf : ∀ message payload, d.world.point (.task w i) ≠ .publishBooked message payload :=
      fun message payload hpoint => hpublish ⟨message, payload, hpoint⟩
    have hsent : d.sent (.act (.task w i) c) = .act (.task w i) c := by
      simp only [sent]
    rw [hsent] at h
    obtain ⟨p, hp, rfl⟩ := Option.map_eq_some_iff.mp h
    exact course_channel (act_course hp) hf hd.channel

theorem call_channel {n : Nat} {c : Choice} {world : World} (hd : d.Unconnected)
    (h : TicketEngine.step digests d.world (.act (.call n) c) = some world) :
    NoneBooked world.shared.channel := by
  obtain ⟨p, hp, rfl⟩ := Option.map_eq_some_iff.mp h
  apply course_channel (act_course hp)
  · intro message payload hpoint
    have hcall := hd.calls n
    rw [hpoint] at hcall
    cases hcall
  · exact hd.channel

/-- A label of the engine that is no command of a call or of a task leaves the channel alone. -/
theorem other_channel {world world' : World} {l : TicketEngine.Label}
    (hl : ∀ t c, l = .act t c → ∃ w, t = .worker w)
    (h : TicketEngine.step digests world l = some world') :
    world'.shared.channel = world.shared.channel := by
  rcases step_course h with ⟨t, c, f', rfl, -, -⟩ | ⟨⟨hcalm, -⟩, -⟩
  · obtain ⟨w, rfl⟩ := hl t c rfl
    exact (actWorker_enters (l := .act (.worker w) c) h).1.channel
  · exact hcalm.channel

theorem engine_unconnected {l : TicketEngine.Label} {world : World} (hd : d.Unconnected)
    (h : TicketEngine.step digests d.world (d.sent l) = some world) :
    (∀ n, (world.point (.call n)).processing = false) ∧ NoneBooked world.shared.channel := by
  refine ⟨fun n => call_processing (hd.calls n) h, ?_⟩
  have other (hl : d.sent l = l) (hact : ∀ t c, l = .act t c → ∃ w, t = .worker w) :
      NoneBooked world.shared.channel := by
    rw [hl] at h
    rw [other_channel hact h]
    exact hd.channel
  cases l with
  | act t c =>
    cases t with
    | call n => exact call_channel hd h
    | task w i => exact task_channel hd h
    | worker w => exact other rfl fun t c ht => by cases ht; exact ⟨w, rfl⟩
  | _ => exact other rfl (fun t c ht => nomatch ht)

/-- The step lemma. -/
theorem unconnected_step {l : Label} (hd : d.Unconnected)
    (h : (deployment digests).step d l = some d') : d'.Unconnected := by
  have engine {l : TicketEngine.Label} {world : World} {process : Nat → WorkerProcess}
      (hprocess : ∀ w, (process w).adapter.connected = false)
      (h : TicketEngine.step digests d.world (d.sent l) = some world) :
      Unconnected ⟨world, process⟩ :=
    have hworld := engine_unconnected hd h
    ⟨hprocess, hworld.1, hworld.2⟩
  have updated {w : Nat} {p : WorkerProcess} (hp : p.adapter.connected = false) :
      ∀ v, (Function.update d.process w p v).adapter.connected = false := by
    intro v
    by_cases hv : v = w
    · subst hv
      rw [Function.update_self]
      exact hp
    · rw [Function.update_of_ne hv]
      exact hd.adapters v
  cases l with
  | boot w c =>
    simp only [deployment, step] at h
    split at h
    · obtain ⟨world, hworld, rfl⟩ := Option.map_eq_some_iff.mp h
      exact engine (l := .startOrderConsumer w) (updated (hd.adapters w)) hworld
    · cases h
      refine ⟨updated ?_, hd.calls, hd.channel⟩
      rw [boot_connected]
      exact hd.adapters w
  | engine l =>
    simp only [deployment, step] at h
    cases l with
    | startOrderConsumer w => cases h
    | processAvailableOrderMessages w => cases h
    | crashWorker w =>
      obtain ⟨world, hworld, rfl⟩ := Option.map_eq_some_iff.mp h
      exact engine (l := .crashWorker w) (updated rfl) hworld
    | _ =>
      obtain ⟨world, hworld, rfl⟩ := Option.map_eq_some_iff.mp h
      exact engine hd.adapters hworld

end Step

/-- Since the start, an order has gone from PROCESSING to BOOKED and an entry of it has been
acknowledged. -/
structure SaleSettled (start d : Deployment) (o : Order) : Prop where
  unsold : ∀ p, start.world.shared.orders.row o.holdId = some p → p.status = .PROCESSING
  row : d.world.shared.orders.row o.holdId = some o
  booked : o.status = .BOOKED
  acknowledged : ∃ entry ∈ d.world.shared.stream.entries, ∃ payload,
    readEvent (toMessage entry) = .ok payload ∧ payload.holdId = o.holdId ∧
      d.world.shared.stream.Acked entry.1 ∧ ¬ start.world.shared.stream.Acked entry.1

/-- A `seat.booked` event of the order has been published. -/
def Announced (d : Deployment) (o : Order) : Prop :=
  ∃ event ∈ d.world.shared.channel, ∃ eventId seatId,
    event.payload = .booked eventId seatId o.id

/-- No worker process ever announces a sale: in every state of every run the announcements are
complete only if no sale has been settled. -/
theorem sales_announced_iff {digests : ScriptDigests} {start d : Deployment}
    {ls : List Label} (hstart : start.Starting)
    (hr : (deployment digests).run start ls = some d) :
    (∀ o, SaleSettled start d o → Announced d o) ↔ ∀ o, ¬ SaleSettled start d o := by
  have hd : d.Unconnected := (deployment digests).run_invariant
    (fun _ _ _ hs hst => unconnected_step hs hst) hstart.unconnected hr
  have hsilent : ∀ o, ¬ Announced d o := by
    rintro o ⟨event, hevent, eventId, seatId, hbooked⟩
    exact hd.channel event hevent eventId seatId o.id hbooked
  constructor
  · intro h o hsold
    exact hsilent o (h o hsold)
  · intro h o hsold
    exact absurd hsold (h o)

/-- The free seat with every worker process still to start. -/
def unstarted : Deployment := ⟨oneSeat, fun _ => .launch⟩

theorem unstarted_starting : unstarted.Starting := ⟨fun _ => rfl, fun _ => rfl, rfl⟩

/-- The worker starts, waits on the stream, and sells the seat to `u`. -/
def bootedPurchase : List Label :=
  [.boot 0 (.ok ""), .boot 0 (.ok ""), .boot 0 (.ok "")] ++
    ((purchase "u" "h" "o").drop 1).map .engine

def soldToU : Order := ⟨"o", "h", "e", "s", "u", 600000, .BOOKED⟩

/-- What a run shows of its last state. -/
structure Report where
  row : Option Order
  entries : List (Nat × Option String)
  group : Option ConsumerGroup
  channel : List String
  deriving DecidableEq

def report (d : Deployment) : Report where
  row := d.world.shared.orders.row "h"
  entries := d.world.shared.stream.entries.map fun entry =>
    (entry.1, (readEvent (toMessage entry)).toOption.map OrderCreatedEventPayload.holdId)
  group := d.world.shared.stream.group
  channel := d.world.shared.channel.map fun event => event.payload.eventType

def soldReport : Report := ⟨some soldToU, [(1, some "h")], some ⟨1, [], [1]⟩, ["seat.held"]⟩

theorem bootedPurchase_run :
    ∃ d, (deployment fun _ => true).run unstarted bootedPurchase = some d ∧
      report d = soldReport := by
  have hreport : ((deployment fun _ => true).run unstarted bootedPurchase).map report =
      some soldReport := by decide +kernel
  exact Option.map_eq_some_iff.mp hreport

theorem soldReport_settled {d : Deployment} (hd : report d = soldReport) :
    SaleSettled unstarted d soldToU := by
  have hrow : d.world.shared.orders.row "h" = some soldToU := congrArg Report.row hd
  have hgroup : d.world.shared.stream.group = some ⟨1, [], [1]⟩ := congrArg Report.group hd
  have hentries : (1, some "h") ∈ (report d).entries := by
    rw [hd]
    exact List.mem_singleton.mpr rfl
  obtain ⟨entry, hentry, heq⟩ := List.mem_map.mp hentries
  obtain ⟨hid, hread⟩ := Prod.mk.inj heq
  have hunsold : ∀ p, unstarted.world.shared.orders.row soldToU.holdId = some p →
      p.status = .PROCESSING := fun p hp => nomatch hp
  refine ⟨hunsold, hrow, rfl, entry, hentry, ?_⟩
  cases hevent : readEvent (toMessage entry) with
  | error e =>
    rw [hevent] at hread
    cases hread
  | ok payload =>
    rw [hevent] at hread
    refine ⟨payload, rfl, Option.some.inj hread, ⟨_, hgroup, ?_⟩, ?_⟩
    · rw [hid]
      exact List.mem_singleton.mpr rfl
    · rintro ⟨g, hg, -⟩
      cases hg

theorem soldReport_unannounced {d : Deployment} (hd : report d = soldReport) (o : Order) :
    ¬ Announced d o := by
  rintro ⟨event, hevent, eventId, seatId, hbooked⟩
  have htype : event.payload.eventType ∈ (report d).channel :=
    List.mem_map.mpr ⟨event, hevent, rfl⟩
  rw [hd] at htype
  have hheld : event.payload.eventType = "seat.held" := List.mem_singleton.mp htype
  rw [hbooked] at hheld
  exact absurd hheld (by decide : "seat.booked" ≠ "seat.held")

/-- Redis accepts every command of this run, the sale is settled, and only the hold of the seat
has been announced. -/
theorem sales_announced_fails_bootedPurchase :
    ∃ d, (deployment fun _ => true).run unstarted bootedPurchase = some d ∧
      SaleSettled unstarted d soldToU ∧ ¬ Announced d soldToU := by
  obtain ⟨d, hrun, hreport⟩ := bootedPurchase_run
  exact ⟨d, hrun, soldReport_settled hreport, soldReport_unannounced hreport soldToU⟩

theorem sales_announced_iff_bootedPurchase :
    ∃ d, (deployment fun _ => true).run unstarted bootedPurchase = some d ∧
      ((∀ o, SaleSettled unstarted d o → Announced d o) ↔ ∀ o, ¬ SaleSettled unstarted d o) := by
  obtain ⟨d, hrun, -⟩ := bootedPurchase_run
  exact ⟨d, hrun, sales_announced_iff unstarted_starting hrun⟩

end Deployment

end TicketEngine
