import Mathlib.Algebra.Group.Nat.Defs
import Mathlib.Data.List.Basic
import Mathlib.Data.List.Pairwise
import Mathlib.Order.Nat
import Mathlib.Tactic.Common

namespace TicketEngine

/-- One line of a pending entries list. -/
structure Delivery where
  id : Nat
  consumer : Nat
  time : Nat
  deriving DecidableEq

/-- A consumer group. `acked` records the entries an XACK has taken off the pending list. -/
structure ConsumerGroup where
  lastDelivered : Nat
  pending : List Delivery
  acked : List Nat
  deriving DecidableEq

/-- An append-only Redis stream with at most one consumer group. An id is the 128-bit number
`milliseconds * 2 ^ 64 + sequence`. -/
structure Stream (α : Type*) where
  entries : List (Nat × α)
  lastId : Nat
  group : Option ConsumerGroup

namespace Stream

variable {α : Type*}

def empty : Stream α := ⟨[], 0, none⟩

/-- The id of `XADD *`: the clock, unless an id of this millisecond is already taken. -/
def nextId (now lastId : Nat) : Nat := max (now * 2 ^ 64) (lastId + 1)

/-- XADD with an automatic id. -/
def append (s : Stream α) (now : Nat) (x : α) : Stream α :=
  { s with
    entries := s.entries ++ [(nextId now s.lastId, x)]
    lastId := nextId now s.lastId }

/-- XGROUP CREATE at `$` with MKSTREAM; an existing group is the BUSYGROUP reply. -/
def createGroup (s : Stream α) : Stream α :=
  match s.group with
  | some _ => s
  | none => { s with group := some ⟨s.lastId, [], []⟩ }

/-- The entries XREADGROUP `>` with COUNT delivers to a group. -/
def undelivered (s : Stream α) (g : ConsumerGroup) (count : Nat) : List (Nat × α) :=
  (s.entries.filter fun e => g.lastDelivered < e.1).take count

def lastOf (ids : List (Nat × α)) (last : Nat) : Nat :=
  match ids.getLast? with
  | some e => e.1
  | none => last

/-- XREADGROUP `>`; `none` is the NOGROUP error. -/
def read (s : Stream α) (now consumer count : Nat) : Option (Stream α × List (Nat × α)) :=
  s.group.map fun g =>
    let delivered := s.undelivered g count
    let pending := g.pending ++ delivered.map fun e => ⟨e.1, consumer, now⟩
    ({ s with group := some ⟨lastOf delivered g.lastDelivered, pending, g.acked⟩ }, delivered)

/-- The pending ids XAUTOCLAIM from `0-0` takes over: of the first `10 * count` lines, the first
`count` that have been idle long enough. -/
def idle (g : ConsumerGroup) (now minIdle count : Nat) : List Nat :=
  (((g.pending.take (10 * count)).filter fun d => d.time + minIdle ≤ now).take count).map
    Delivery.id

/-- XAUTOCLAIM from `0-0`; `none` is the NOGROUP error. -/
def autoclaim (s : Stream α) (now consumer minIdle count : Nat) :
    Option (Stream α × List (Nat × α)) :=
  s.group.map fun g =>
    let claimed := idle g now minIdle count
    let pending := g.pending.map fun d => if d.id ∈ claimed then ⟨d.id, consumer, now⟩ else d
    ({ s with group := some { g with pending } }, s.entries.filter fun e => e.1 ∈ claimed)

/-- XACK: an id that is not pending is ignored. -/
def ack (s : Stream α) (id : Nat) : Stream α :=
  match s.group with
  | none => s
  | some g =>
    if id ∈ g.pending.map Delivery.id then
      { s with
        group := some ⟨g.lastDelivered, g.pending.filter fun d => d.id ≠ id, id :: g.acked⟩ }
    else s

/-! ## Ids -/

/-- The ids a group has in its books. -/
def books (g : ConsumerGroup) : List Nat := g.acked ++ g.pending.map Delivery.id

/-- Ids grow along the stream up to `lastId`, and a group has not run past it. -/
structure Ordered (s : Stream α) : Prop where
  increasing : s.entries.Pairwise fun a b => a.1 < b.1
  bounded : ∀ e ∈ s.entries, e.1 ≤ s.lastId
  behind : ∀ g, s.group = some g → g.lastDelivered ≤ s.lastId
  known : ∀ g, s.group = some g → ∀ id ∈ books g, id ≤ s.lastId

theorem ordered_empty : (empty : Stream α).Ordered :=
  ⟨List.Pairwise.nil, fun _ h => absurd h List.not_mem_nil, (fun _ h => nomatch h),
    (fun _ h => nomatch h)⟩

theorem lastId_lt_nextId (now lastId : Nat) : lastId < nextId now lastId :=
  lt_of_lt_of_le (Nat.lt_succ_self lastId) (le_max_right _ _)

/-- An id names one entry. -/
theorem Ordered.unique {s : Stream α} (h : s.Ordered) {e f : Nat × α} (he : e ∈ s.entries)
    (hf : f ∈ s.entries) (hid : e.1 = f.1) : e = f := by
  by_contra hne
  have hpair : s.entries.Pairwise fun a b => a.1 ≠ b.1 := h.increasing.imp fun hab => hab.ne
  have : Std.Symm fun a b : Nat × α => a.1 ≠ b.1 := ⟨fun _ _ hab => hab.symm⟩
  exact hpair.forall he hf hne hid

theorem Ordered.append {s : Stream α} (h : s.Ordered) (now : Nat) (x : α) :
    (s.append now x).Ordered := by
  have hlt := lastId_lt_nextId now s.lastId
  constructor
  · refine List.pairwise_append.mpr ⟨h.increasing, List.pairwise_singleton _ _, ?_⟩
    intro a ha b hb
    rw [List.mem_singleton.mp hb]
    exact lt_of_le_of_lt (h.bounded a ha) hlt
  · intro e he
    rcases List.mem_append.mp he with he | he
    · exact (h.bounded e he).trans hlt.le
    · rw [List.mem_singleton.mp he]
      exact le_refl _
  · intro g hg
    exact (h.behind g hg).trans hlt.le
  · intro g hg id hid
    exact (h.known g hg id hid).trans hlt.le

theorem Ordered.createGroup {s : Stream α} (h : s.Ordered) : s.createGroup.Ordered := by
  unfold Stream.createGroup
  cases hg : s.group with
  | some g => exact h
  | none =>
    refine ⟨h.increasing, h.bounded, fun g hg' => ?_, fun g hg' id hid => ?_⟩
    · cases hg'
      exact le_refl _
    · cases hg'
      exact absurd hid List.not_mem_nil

theorem mem_undelivered {s : Stream α} {g : ConsumerGroup} {count : Nat} {e : Nat × α}
    (h : e ∈ s.undelivered g count) : e ∈ s.entries ∧ g.lastDelivered < e.1 := by
  have hf := List.mem_of_mem_take h
  exact ⟨List.mem_of_mem_filter hf, by simpa using List.of_mem_filter hf⟩

theorem lastOf_eq (ids : List (Nat × α)) (last : Nat) :
    lastOf ids last = last ∨ ∃ e ∈ ids, lastOf ids last = e.1 := by
  unfold lastOf
  cases h : ids.getLast? with
  | none => exact .inl rfl
  | some e => exact .inr ⟨e, List.mem_of_getLast? h, rfl⟩

theorem claimed_ids (g : ConsumerGroup) (now consumer minIdle count : Nat) :
    (g.pending.map fun d =>
      if d.id ∈ idle g now minIdle count then ⟨d.id, consumer, now⟩ else d).map Delivery.id =
      g.pending.map Delivery.id := by
  rw [List.map_map]
  refine List.map_congr_left fun d _ => ?_
  simp only [Function.comp_apply]
  split_ifs <;> rfl

theorem Ordered.read {s s' : Stream α} (h : s.Ordered) {now consumer count : Nat}
    {delivered : List (Nat × α)} (hr : s.read now consumer count = some (s', delivered)) :
    s'.Ordered := by
  obtain ⟨g, hg, heq⟩ := Option.map_eq_some_iff.mp hr
  cases heq
  refine ⟨h.increasing, h.bounded, fun g' hg' => ?_, fun g' hg' id hid => ?_⟩
  · cases hg'
    rcases lastOf_eq (s.undelivered g count) g.lastDelivered with hl | ⟨e, he, hl⟩
    · rw [hl]; exact h.behind g hg
    · rw [hl]; exact h.bounded e (mem_undelivered he).1
  · cases hg'
    simp only [books, List.map_append, List.map_map, List.mem_append] at hid
    rcases hid with ha | hp | hn
    · exact h.known g hg id (List.mem_append_left _ ha)
    · exact h.known g hg id (List.mem_append_right _ hp)
    · obtain ⟨e, he, rfl⟩ := List.mem_map.mp hn
      exact h.bounded e (mem_undelivered he).1

theorem Ordered.autoclaim {s s' : Stream α} (h : s.Ordered) {now consumer minIdle count : Nat}
    {claimed : List (Nat × α)}
    (hr : s.autoclaim now consumer minIdle count = some (s', claimed)) : s'.Ordered := by
  obtain ⟨g, hg, heq⟩ := Option.map_eq_some_iff.mp hr
  cases heq
  refine ⟨h.increasing, h.bounded, fun g' hg' => ?_, fun g' hg' id hid => ?_⟩
  · cases hg'
    exact h.behind g hg
  · cases hg'
    simp only [books] at hid
    rw [claimed_ids] at hid
    exact h.known g hg id hid

theorem Ordered.ack {s : Stream α} (h : s.Ordered) (id : Nat) : (s.ack id).Ordered := by
  unfold Stream.ack
  cases hg : s.group with
  | none => exact h
  | some g =>
    simp only
    split_ifs with hmem
    · refine ⟨h.increasing, h.bounded, fun g' hg' => ?_, fun g' hg' i hi => ?_⟩
      · cases hg'
        exact h.behind g hg
      · cases hg'
        refine h.known g hg i ?_
        simp only [books, List.cons_append, List.mem_cons, List.mem_append] at hi ⊢
        rcases hi with rfl | ha | hp
        · exact .inr hmem
        · exact .inl ha
        · obtain ⟨d, hd, rfl⟩ := List.mem_map.mp hp
          exact .inr (List.mem_map.mpr ⟨d, List.mem_of_mem_filter hd, rfl⟩)
    · exact h

theorem createGroup_entries (s : Stream α) : s.createGroup.entries = s.entries := by
  unfold Stream.createGroup
  cases s.group <;> rfl

theorem read_entries {s s' : Stream α} {now consumer count : Nat} {delivered : List (Nat × α)}
    (h : s.read now consumer count = some (s', delivered)) :
    s'.entries = s.entries ∧ ∀ e ∈ delivered, e ∈ s.entries := by
  obtain ⟨g, -, heq⟩ := Option.map_eq_some_iff.mp h
  cases heq
  exact ⟨rfl, fun e he => (mem_undelivered he).1⟩

theorem autoclaim_entries {s s' : Stream α} {now consumer minIdle count : Nat}
    {claimed : List (Nat × α)} (h : s.autoclaim now consumer minIdle count = some (s', claimed)) :
    s'.entries = s.entries ∧ ∀ e ∈ claimed, e ∈ s.entries := by
  obtain ⟨g, -, heq⟩ := Option.map_eq_some_iff.mp h
  cases heq
  exact ⟨rfl, fun e he => List.mem_of_mem_filter he⟩

theorem ack_entries (s : Stream α) (id : Nat) : (s.ack id).entries = s.entries := by
  unfold Stream.ack
  cases s.group with
  | none => rfl
  | some g => simp only; split_ifs <;> rfl

/-! ## Acknowledgements -/

def Acked (s : Stream α) (id : Nat) : Prop := ∃ g, s.group = some g ∧ id ∈ g.acked

theorem Ordered.acked_le {s : Stream α} (h : s.Ordered) {id : Nat} (ha : s.Acked id) :
    id ≤ s.lastId := by
  obtain ⟨g, hg, hid⟩ := ha
  exact h.known g hg id (List.mem_append_left _ hid)

theorem acked_createGroup {s : Stream α} {id : Nat} : s.createGroup.Acked id ↔ s.Acked id := by
  unfold Stream.createGroup Acked
  cases hg : s.group with
  | some g => simp only [hg]
  | none => simp

theorem acked_read {s s' : Stream α} {now consumer count : Nat} {delivered : List (Nat × α)}
    (h : s.read now consumer count = some (s', delivered)) {id : Nat} :
    s'.Acked id ↔ s.Acked id := by
  obtain ⟨g, hg, heq⟩ := Option.map_eq_some_iff.mp h
  cases heq
  simp [Acked, hg]

theorem acked_autoclaim {s s' : Stream α} {now consumer minIdle count : Nat}
    {claimed : List (Nat × α)} (h : s.autoclaim now consumer minIdle count = some (s', claimed))
    {id : Nat} : s'.Acked id ↔ s.Acked id := by
  obtain ⟨g, hg, heq⟩ := Option.map_eq_some_iff.mp h
  cases heq
  simp [Acked, hg]

theorem acked_ack {s : Stream α} {id i : Nat} (h : (s.ack id).Acked i) : s.Acked i ∨ i = id := by
  unfold Stream.ack at h
  cases hg : s.group with
  | none =>
    rw [hg] at h
    exact .inl h
  | some g =>
    simp only [hg] at h
    split_ifs at h
    · obtain ⟨g', hg', hi⟩ := h
      cases hg'
      rcases List.mem_cons.mp hi with rfl | hi
      · exact .inr rfl
      · exact .inl ⟨g, hg, hi⟩
    · exact .inl h

/-- Delivered and not acknowledged. -/
def Pending (s : Stream α) (id : Nat) : Prop :=
  ∃ g, s.group = some g ∧ id ∈ g.pending.map Delivery.id

theorem acked_ack_iff {s : Stream α} {id : Nat} (h : s.Pending id ∨ s.Acked id) (i : Nat) :
    (s.ack id).Acked i ↔ s.Acked i ∨ i = id := by
  constructor
  · exact acked_ack
  · intro hi
    unfold Stream.ack
    cases hg : s.group with
    | none =>
      rcases h with ⟨g, hg', -⟩ | ⟨g, hg', -⟩
      · exact nomatch hg.symm.trans hg'
      · exact nomatch hg.symm.trans hg'
    | some g =>
      simp only
      split_ifs with hmem
      · refine ⟨_, rfl, ?_⟩
        rcases hi with ⟨g', hg', hi⟩ | rfl
        · cases hg.symm.trans hg'
          exact List.mem_cons_of_mem _ hi
        · exact List.mem_cons_self
      · rcases hi with hi | rfl
        · exact hi
        · rcases h with ⟨g', hg', hpending⟩ | hacked
          · cases hg.symm.trans hg'
            exact absurd hpending hmem
          · exact hacked

theorem pending_ack {s : Stream α} {i : Nat} (h : s.Pending i) (id : Nat) :
    i = id ∨ (s.ack id).Pending i := by
  by_cases hi : i = id
  · exact .inl hi
  · right
    obtain ⟨g, hg, hmem⟩ := h
    unfold Stream.ack
    simp only [hg]
    split_ifs
    · refine ⟨_, rfl, ?_⟩
      obtain ⟨d, hd, rfl⟩ := List.mem_map.mp hmem
      exact List.mem_map_of_mem (List.mem_filter.mpr ⟨hd, by simpa using hi⟩)
    · exact ⟨g, hg, hmem⟩

/-! ## What a group owes its stream -/

/-- The entry is acknowledged, pending, or still ahead of the group. -/
def Owed (s : Stream α) (e : Nat × α) : Prop :=
  ∀ g, s.group = some g →
    e.1 ∈ g.acked ∨ e.1 ∈ g.pending.map Delivery.id ∨ g.lastDelivered < e.1

/-- No entry has fallen out of the stream. -/
def Accounted (s : Stream α) : Prop := ∀ e ∈ s.entries, s.Owed e

theorem accounted_empty : (empty : Stream α).Accounted := fun _ h => absurd h List.not_mem_nil

theorem Accounted.append {s : Stream α} (h : s.Accounted) (ho : s.Ordered) (now : Nat) (x : α) :
    (s.append now x).Accounted := by
  intro e he g hg
  rcases List.mem_append.mp he with he | he
  · exact h e he g hg
  · rw [List.mem_singleton.mp he]
    exact .inr (.inr (lt_of_le_of_lt (ho.behind g hg) (lastId_lt_nextId now s.lastId)))

/-- Delivery moves entries onto the pending list and leaves the rest ahead of the group. -/
theorem Accounted.read {s s' : Stream α} (h : s.Accounted) (ho : s.Ordered)
    {now consumer count : Nat} {delivered : List (Nat × α)}
    (hr : s.read now consumer count = some (s', delivered)) : s'.Accounted := by
  obtain ⟨g, hg, heq⟩ := Option.map_eq_some_iff.mp hr
  cases heq
  intro e he g' hg'
  cases hg'
  rcases h e he g hg with ha | hp | hlt
  · exact .inl ha
  · exact .inr (.inl (by rw [List.map_append]; exact List.mem_append_left _ hp))
  have hsplit := List.take_append_drop count (s.entries.filter fun e => g.lastDelivered < e.1)
  have hmem : e ∈ s.entries.filter fun e => g.lastDelivered < e.1 :=
    List.mem_filter.mpr ⟨he, by simpa using hlt⟩
  have hpair := ho.increasing.filter fun e => decide (g.lastDelivered < e.1)
  rw [← hsplit] at hmem hpair
  rcases List.mem_append.mp hmem with hd | hd
  · refine .inr (.inl ?_)
    rw [List.map_append, List.map_map]
    exact List.mem_append_right _ (List.mem_map.mpr ⟨e, hd, rfl⟩)
  · refine .inr (.inr ?_)
    rcases lastOf_eq (s.undelivered g count) g.lastDelivered with hl | ⟨d, hdel, hl⟩
    · rw [hl]; exact hlt
    · rw [hl]; exact (List.pairwise_append.mp hpair).2.2 d hdel e hd

theorem Accounted.autoclaim {s s' : Stream α} (h : s.Accounted)
    {now consumer minIdle count : Nat} {claimed : List (Nat × α)}
    (hr : s.autoclaim now consumer minIdle count = some (s', claimed)) : s'.Accounted := by
  obtain ⟨g, hg, heq⟩ := Option.map_eq_some_iff.mp hr
  cases heq
  intro e he g' hg'
  cases hg'
  rw [claimed_ids]
  exact h e he g hg

theorem Accounted.ack {s : Stream α} (h : s.Accounted) (id : Nat) : (s.ack id).Accounted := by
  unfold Stream.ack
  cases hg : s.group with
  | none => exact h
  | some g =>
    simp only
    split_ifs
    · intro e he g' hg'
      cases hg'
      by_cases hid : e.1 = id
      · exact .inl (by simp [hid])
      rcases h e he g hg with ha | hp | hlt
      · exact .inl (List.mem_cons_of_mem _ ha)
      · obtain ⟨d, hd, hde⟩ := List.mem_map.mp hp
        refine .inr (.inl (List.mem_map.mpr ⟨d, List.mem_filter.mpr ⟨hd, ?_⟩, hde⟩))
        simpa [hde] using hid
      · exact .inr (.inr hlt)
    · exact h

/-- Creating the group at `$` gives up exactly what the stream already holds. -/
theorem accounted_createGroup {s : Stream α} (h : s.Accounted) (ho : s.Ordered) :
    s.createGroup.Accounted ↔ (s.group = none → s.entries = []) := by
  unfold Stream.createGroup
  cases hg : s.group with
  | some g => simp [h]
  | none =>
    constructor
    · intro ha _
      by_contra hne
      obtain ⟨e, he⟩ := List.exists_mem_of_ne_nil s.entries hne
      rcases ha e he _ rfl with hk | hk | hk
      · exact absurd hk List.not_mem_nil
      · exact absurd hk List.not_mem_nil
      · exact absurd (ho.bounded e he) (not_le_of_gt hk)
    · intro hn e he
      have hempty : s.entries = [] := hn rfl
      have hmem : e ∈ s.entries := he
      rw [hempty] at hmem
      exact absurd hmem List.not_mem_nil

/-! ## Claims from the head of the list -/

theorem filter_not_mem_take {β γ : Type*} [DecidableEq γ] {f : β → γ} {l : List β}
    (h : (l.map f).Nodup) (n : Nat) :
    (l.filter fun x => f x ∉ (l.take n).map f) = l.drop n := by
  have hsplit : l.map f = (l.take n).map f ++ (l.drop n).map f := by
    rw [← List.map_append, List.take_append_drop]
  rw [hsplit, List.nodup_append] at h
  have htake : ((l.take n).filter fun x => f x ∉ (l.take n).map f) = [] := by
    apply List.filter_eq_nil_iff.mpr
    intro x hx hout
    simp only [decide_eq_true_eq] at hout
    exact hout (List.mem_map_of_mem hx)
  have hdrop : ((l.drop n).filter fun x => f x ∉ (l.take n).map f) = l.drop n := by
    apply List.filter_eq_self.mpr
    intro x hx
    have hne := h.2.2
    simp only [decide_eq_true_eq]
    intro hmem
    exact hne _ hmem _ (List.mem_map_of_mem hx) rfl
  conv_lhs => arg 2; rw [← List.take_append_drop n l]
  rw [List.filter_append, htake, hdrop, List.nil_append]

/-- The lines of `left` were idle long enough at `start` and nobody has claimed them since; every
other line has been claimed since. -/
structure Recovering (g : ConsumerGroup) (start minIdle : Nat) (left : List Nat) : Prop where
  distinct : (g.pending.map Delivery.id).Nodup
  claimed : ∀ d ∈ g.pending, d.time + minIdle ≤ start ∨ start ≤ d.time
  left : (g.pending.filter fun d => d.time + minIdle ≤ start).map Delivery.id = left

/-- The group after XAUTOCLAIM from `0-0`. -/
def afterClaim (g : ConsumerGroup) (now consumer minIdle count : Nat) : ConsumerGroup :=
  { g with
    pending := g.pending.map fun d =>
      if d.id ∈ idle g now minIdle count then ⟨d.id, consumer, now⟩ else d }

section Recovering

variable {g : ConsumerGroup} {start now minIdle count : Nat} {left : List Nat}

theorem idle_mem_scanned {id : Nat} (h : id ∈ idle g now minIdle count) :
    id ∈ (g.pending.map Delivery.id).take (10 * count) := by
  obtain ⟨d, hd, rfl⟩ := List.mem_map.mp h
  have hscanned := List.mem_of_mem_filter (List.mem_of_mem_take hd)
  rw [← List.map_take]
  exact List.mem_map_of_mem hscanned

/-- Within the idle time after `start` a claim takes the head of what is left, if its scan
reaches that far. -/
theorem Recovering.idle_eq (h : Recovering g start minIdle left)
    (hscan : g.pending.length ≤ 10 * count) (hpast : start ≤ now)
    (hsoon : now < start + minIdle) : idle g now minIdle count = left.take count := by
  have hstale : (g.pending.filter fun d => d.time + minIdle ≤ now) =
      g.pending.filter fun d => d.time + minIdle ≤ start := by
    apply List.filter_congr
    intro d hd
    rw [decide_eq_decide]
    cases h.claimed d hd with
    | inl hidle => omega
    | inr hclaimed => omega
  simp only [idle]
  rw [List.take_of_length_le hscan, hstale, List.map_take, h.left]

theorem Recovering.claim (h : Recovering g start minIdle left)
    (hscan : g.pending.length ≤ 10 * count) (hpast : start ≤ now)
    (hsoon : now < start + minIdle) (consumer : Nat) :
    Recovering (afterClaim g now consumer minIdle count) start minIdle (left.drop count) := by
  have hidle := h.idle_eq hscan hpast hsoon
  have hids := claimed_ids g now consumer minIdle count
  let claim (d : Delivery) : Delivery :=
    if d.id ∈ idle g now minIdle count then ⟨d.id, consumer, now⟩ else d
  let stale := g.pending.filter fun d => d.time + minIdle ≤ start
  have hstale : (stale.map Delivery.id).Nodup := h.distinct.sublist (List.filter_sublist.map _)
  refine ⟨?_, ?_, ?_⟩
  · simp only [afterClaim, hids]
    exact h.distinct
  · intro d hd
    obtain ⟨d', hd', heq⟩ := List.mem_map.mp hd
    split_ifs at heq
    · subst heq
      exact .inr hpast
    · subst heq
      exact h.claimed d' hd'
  · have hkept : ((g.pending.map claim).filter fun d => d.time + minIdle ≤ start) =
        (stale.drop count).map claim := by
      have hclaimed : idle g now minIdle count = (stale.take count).map Delivery.id := by
        rw [hidle, ← h.left, List.map_take]
      rw [List.filter_map, ← filter_not_mem_take hstale count, List.filter_filter, ← hclaimed]
      congr 1
      apply List.filter_congr
      intro d _
      by_cases hmem : d.id ∈ idle g now minIdle count
      · simp only [Function.comp_apply, claim, hmem, if_true]
        simp only [not_true_eq_false, decide_false, Bool.false_and, decide_eq_false_iff_not]
        omega
      · simp [claim, hmem]
    have hcomp : Delivery.id ∘ claim = Delivery.id := by
      funext d
      simp only [Function.comp_apply, claim]
      split_ifs
      · rfl
      · rfl
    have hpending : (afterClaim g now consumer minIdle count).pending = g.pending.map claim := rfl
    rw [hpending, hkept, List.map_map, hcomp, List.map_drop, h.left]

end Recovering

end Stream

end TicketEngine
