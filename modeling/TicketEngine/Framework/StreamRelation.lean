import TicketEngine.Framework.ConsumerGroup
import Mathlib.Data.List.Forall2

namespace TicketEngine

namespace Stream

variable {α β : Type*}

/-- Two entries with one id and related payloads. -/
def EntryRel (R : α → β → Prop) (e : Nat × α) (f : Nat × β) : Prop := e.1 = f.1 ∧ R e.2 f.2

/-- Two streams that differ in related payloads alone. -/
structure Rel (R : α → β → Prop) (s : Stream α) (t : Stream β) : Prop where
  entries : List.Forall₂ (EntryRel R) s.entries t.entries
  lastId : s.lastId = t.lastId
  group : s.group = t.group

section Relation

variable {R : α → β → Prop} {s s' : Stream α} {t : Stream β}

theorem rel_empty : Rel R empty empty := ⟨.nil, rfl, rfl⟩

theorem ids_eq {es : List (Nat × α)} {fs : List (Nat × β)} (h : List.Forall₂ (EntryRel R) es fs) :
    es.map Prod.fst = fs.map Prod.fst := by
  induction h with
  | nil => rfl
  | cons hentry _ ih => rw [List.map_cons, List.map_cons, hentry.1, ih]

/-- A selection by ids selects related entries. -/
theorem filter_rel (keep : Nat → Bool) {es : List (Nat × α)} {fs : List (Nat × β)}
    (h : List.Forall₂ (EntryRel R) es fs) :
    List.Forall₂ (EntryRel R) (es.filter fun e => keep e.1) (fs.filter fun f => keep f.1) := by
  apply List.rel_filter _ h
  intro e f hentry
  simp only [hentry.1]

theorem lastOf_ids (es : List (Nat × α)) (last : Nat) :
    lastOf es last = ((es.map Prod.fst).getLast?).getD last := by
  rw [lastOf, List.getLast?_map]
  cases es.getLast? <;> rfl

theorem Rel.append (h : Rel R s t) (now : Nat) {x : α} {y : β} (hxy : R x y) :
    Rel R (s.append now x) (t.append now y) := by
  have hid : nextId now s.lastId = nextId now t.lastId := by rw [h.lastId]
  exact ⟨List.rel_append h.entries (.cons ⟨hid, hxy⟩ .nil), hid, h.group⟩

theorem Rel.createGroup (h : Rel R s t) : Rel R s.createGroup t.createGroup := by
  unfold Stream.createGroup
  rw [← h.group]
  cases s.group with
  | some g => exact h
  | none => exact ⟨h.entries, h.lastId, by rw [h.lastId]⟩

theorem Rel.undelivered (h : Rel R s t) (g : ConsumerGroup) (count : Nat) :
    List.Forall₂ (EntryRel R) (s.undelivered g count) (t.undelivered g count) :=
  List.forall₂_take count (filter_rel (fun id => g.lastDelivered < id) h.entries)

theorem Rel.read (h : Rel R s t) (now consumer count : Nat) :
    Option.Rel (fun p q => Rel R p.1 q.1 ∧ List.Forall₂ (EntryRel R) p.2 q.2)
      (s.read now consumer count) (t.read now consumer count) := by
  unfold Stream.read
  rw [← h.group]
  cases s.group with
  | none => exact .none
  | some g =>
    have hdelivered := h.undelivered g count
    have hids := ids_eq hdelivered
    refine .some ⟨⟨h.entries, h.lastId, ?_⟩, hdelivered⟩
    have hlines : (s.undelivered g count).map (fun e => (⟨e.1, consumer, now⟩ : Delivery)) =
        (t.undelivered g count).map fun e => ⟨e.1, consumer, now⟩ := by
      have hmap := congrArg (List.map fun id => (⟨id, consumer, now⟩ : Delivery)) hids
      rw [List.map_map, List.map_map] at hmap
      exact hmap
    simp only [hlines, lastOf_ids, hids]

theorem Rel.autoclaim (h : Rel R s t) (now consumer minIdle count : Nat) :
    Option.Rel (fun p q => Rel R p.1 q.1 ∧ List.Forall₂ (EntryRel R) p.2 q.2)
      (s.autoclaim now consumer minIdle count) (t.autoclaim now consumer minIdle count) := by
  unfold Stream.autoclaim
  rw [← h.group]
  cases s.group with
  | none => exact .none
  | some g =>
    exact .some ⟨⟨h.entries, h.lastId, rfl⟩,
      filter_rel (fun id => id ∈ idle g now minIdle count) h.entries⟩

theorem Rel.ack (h : Rel R s t) (id : Nat) : Rel R (s.ack id) (t.ack id) := by
  unfold Stream.ack
  rw [← h.group]
  cases s.group with
  | none => exact h
  | some g =>
    simp only
    split_ifs
    · exact ⟨h.entries, h.lastId, rfl⟩
    · exact h

end Relation

end Stream

end TicketEngine
