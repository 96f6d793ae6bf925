import TicketEngine.Services.Geo

namespace TicketEngine

section Sync

variable {Cell : Type} {geohash : Int → Int → Cell}

/-- The index says of each row what the table says, and of nothing else; and the number is that
of its members. -/
structure Rebuilt (geohash : Int → Int → Cell) (table : VenueTable) (index : GeoIndex Cell)
    (count : Nat) : Prop where
  member : ∀ id, index id ≠ none ↔ id ∈ table.rows.map Venue.id
  placed : ∀ venue ∈ table.rows, ∃ cell,
    cellOf geohash venue = some cell ∧ index venue.id = some cell
  counted : ∃ members : List String, members.Nodup ∧
    (∀ id, id ∈ members ↔ index id ≠ none) ∧ count = members.length

/-- Every member of the index is a row of the table. -/
def NoneStale (table : VenueTable) (index : GeoIndex Cell) : Prop :=
  ∀ id, index id ≠ none → id ∈ table.rows.map Venue.id

theorem cellOf_indexable {venue : Venue} (h : venue.Indexable) :
    cellOf geohash venue = some (geohash venue.longitude venue.latitude) := if_pos h

theorem geoadd_self (index : GeoIndex Cell) (venue : Venue) :
    (geoadd geohash index venue).1 venue.id = (cellOf geohash venue).or (index venue.id) := by
  unfold geoadd
  cases cellOf geohash venue with
  | none => rfl
  | some cell => exact Function.update_self ..

theorem geoadd_other (index : GeoIndex Cell) {venue : Venue} {id : String} (h : id ≠ venue.id) :
    (geoadd geohash index venue).1 id = index id := by
  unfold geoadd
  cases cellOf geohash venue with
  | none => rfl
  | some cell => exact Function.update_of_ne h ..

/-- The pipeline leaves every other member alone. -/
theorem execGeoadds_other {venues : List Venue} {id : String} (h : id ∉ venues.map Venue.id)
    (index : GeoIndex Cell) : (execGeoadds geohash index venues).1 id = index id := by
  induction venues generalizing index with
  | nil => rfl
  | cons venue venues ih =>
    rw [List.map_cons, List.mem_cons, not_or] at h
    have hrest := ih h.2 (geoadd geohash index venue).1
    exact hrest.trans (geoadd_other index h.1)

/-- The pipeline moves each of its venues to the venue's cell, if it has one. -/
theorem execGeoadds_mem {venues : List Venue} (hkeyed : (venues.map Venue.id).Nodup)
    {venue : Venue} (hmem : venue ∈ venues) (index : GeoIndex Cell) :
    (execGeoadds geohash index venues).1 venue.id =
      (cellOf geohash venue).or (index venue.id) := by
  induction venues generalizing index with
  | nil => cases hmem
  | cons first venues ih =>
    rw [List.map_cons, List.nodup_cons] at hkeyed
    rcases List.mem_cons.mp hmem with rfl | hrest
    · have hlater : (execGeoadds geohash (geoadd geohash index venue).1 venues).1 venue.id =
          (geoadd geohash index venue).1 venue.id := execGeoadds_other hkeyed.1 _
      exact hlater.trans (geoadd_self index venue)
    · have hne : venue.id ≠ first.id := by
        intro heq
        exact hkeyed.1 (heq ▸ List.mem_map_of_mem hrest)
      have hlater := ih hkeyed.2 hrest (geoadd geohash index first).1
      rw [geoadd_other index hne] at hlater
      exact hlater

theorem sync_index (table : VenueTable) (index : GeoIndex Cell) :
    (syncVenuesToGeoIndex geohash table index).1 = (execGeoadds geohash index table.rows).1 := by
  simp only [syncVenuesToGeoIndex]
  split
  next hempty =>
    rw [List.length_eq_zero_iff] at hempty
    simp only [hempty]
    rfl
  next => rfl

theorem sync_count (table : VenueTable) (index : GeoIndex Cell) :
    (syncVenuesToGeoIndex geohash table index).2 = table.rows.length := by
  simp only [syncVenuesToGeoIndex]
  split
  next hempty => exact hempty.symm
  next => rfl

/-- The call rebuilds the index exactly when the index has no member of a deleted venue and
every venue has a latitude that GEOADD takes. -/
theorem sync_rebuilds_iff (geohash : Int → Int → Cell) (table : VenueTable)
    (index : GeoIndex Cell) :
    Rebuilt geohash table (syncVenuesToGeoIndex geohash table index).1
        (syncVenuesToGeoIndex geohash table index).2 ↔
      NoneStale table index ∧ ∀ venue ∈ table.rows, venue.Indexable := by
  rw [sync_index, sync_count]
  constructor
  · intro h
    constructor
    · intro id hid
      by_contra hstale
      have hkept : (execGeoadds geohash index table.rows).1 id = index id :=
        execGeoadds_other hstale index
      rw [← hkept] at hid
      exact hstale ((h.member id).mp hid)
    · intro venue hmem
      obtain ⟨cell, hcell, -⟩ := h.placed venue hmem
      exact (Option.ite_none_right_eq_some.mp hcell).1
  · rintro ⟨hstale, hindexable⟩
    have hplaced : ∀ venue ∈ table.rows, (execGeoadds geohash index table.rows).1 venue.id =
        some (geohash venue.longitude venue.latitude) := by
      intro venue hmem
      rw [execGeoadds_mem table.keyed hmem, cellOf_indexable (hindexable venue hmem)]
      rfl
    have hmember : ∀ id, (execGeoadds geohash index table.rows).1 id ≠ none ↔
        id ∈ table.rows.map Venue.id := by
      intro id
      constructor
      · intro hid
        by_contra hother
        rw [execGeoadds_other hother] at hid
        exact hother (hstale id hid)
      · intro hid
        obtain ⟨venue, hmem, rfl⟩ := List.mem_map.mp hid
        rw [hplaced venue hmem]
        exact Option.some_ne_none _
    refine ⟨hmember, ?_, table.rows.map Venue.id, table.keyed, fun id => (hmember id).symm, ?_⟩
    · intro venue hmem
      exact ⟨_, cellOf_indexable (hindexable venue hmem), hplaced venue hmem⟩
    · exact (List.length_map _).symm

/-- A table without venues, and one with a venue at the pole. -/
def noVenues : VenueTable := ⟨[], List.nodup_nil⟩

def polarVenue : Venue := ⟨"pole", "Pole", 89000000, 0, by decide, by decide⟩

def polarVenues : VenueTable := ⟨[polarVenue], by decide⟩

/-- An index that has one member, and one that has none. -/
def closedVenue : GeoIndex (Int × Int) := fun id => if id = "closed" then some (0, 0) else none

def noMembers : GeoIndex (Int × Int) := fun _ => none

/-- An emptied table leaves the old members, and a polar venue is counted but not indexed. -/
theorem sync_unfaithful :
    ¬ Rebuilt Prod.mk noVenues (syncVenuesToGeoIndex Prod.mk noVenues closedVenue).1
        (syncVenuesToGeoIndex Prod.mk noVenues closedVenue).2 ∧
      ¬ Rebuilt Prod.mk polarVenues (syncVenuesToGeoIndex Prod.mk polarVenues noMembers).1
        (syncVenuesToGeoIndex Prod.mk polarVenues noMembers).2 := by
  constructor
  · intro h
    have hclosed := (h.member "closed").mp (by decide)
    cases hclosed
  · intro h
    obtain ⟨cell, hcell, -⟩ := h.placed polarVenue List.mem_cons_self
    cases hcell

end Sync

end TicketEngine
