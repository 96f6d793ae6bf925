import TicketEngine.Services.GeoReply
import TicketEngine.Services.GeoSearch

namespace TicketEngine

/-! ## GEOSEARCH over an index that agrees with the venue table -/

/-- The members within the radius of a query, nearest first. -/
structure NearestFirst (venues : VenueTable) (within : String → Bool) (distance : String → ℚ)
    (near : List String) : Prop where
  member : ∀ id, id ∈ near ↔ id ∈ venues.rows.map Venue.id ∧ within id = true
  ascending : near.Pairwise fun a b => distance a ≤ distance b

/-- The reply to `ASC WITHDIST COUNT count`; `text` prints a member's distance. -/
def geosearchReply (text : String → String) (near : List String) (count : Nat) : RedisReply :=
  .array ((near.take count).map fun id => .array [.bulk id, .bulk (text id)])

/-- The active events, not in the past, whose venue lies within the radius. -/
def eventsWithin (venues : VenueTable) (events : EventTable) (within : String → Bool)
    (now : Int) : List Event :=
  events.rows.filter fun event =>
    (match event.venueId.bind venues.find with
      | some venue => within venue.id
      | none => false) && event.isActive && decide (now ≤ event.startsAt)

/-- The search misses nothing: it returns as many events as it may, and the nearest. -/
structure CompleteResults (found : List Event) (distance : String → ℚ) (limit : Nat)
    (results : List NearbyEventResult) : Prop where
  length : results.length = min limit found.length
  nearest : ∀ event ∈ found, event.id ∉ results.map (·.eventId) →
    ∀ id, event.venueId = some id → ∀ result ∈ results, result.distanceKm ≤ distance id

/-- The event is at one of the `count` nearest venues. -/
def Event.atCandidate (event : Event) (near : List String) (count : Nat) : Bool :=
  match event.venueId with
  | some id => decide (id ∈ near.take count)
  | none => false

theorem atCandidate_iff {event : Event} {near : List String} {count : Nat} :
    event.atCandidate near count = true ↔ ∃ id ∈ near.take count, event.venueId = some id := by
  unfold Event.atCandidate
  cases event.venueId with
  | none => simp
  | some id => simp

section Candidates

variable {venues : VenueTable} {events : EventTable} {within : String → Bool}
  {distance : String → ℚ} {near : List String} {text : String → String} {now : Int}

theorem filterMap_finitePair {ids : List String}
    (htext : ∀ id ∈ ids, Number (text id) = .finite (distance id)) :
    (ids.map fun id => (id, text id)).filterMap finitePair =
      ids.map fun id => ⟨id, distance id⟩ := by
  induction ids with
  | nil => rfl
  | cons id ids ih =>
    have hfirst : finitePair (id, text id) = some ⟨id, distance id⟩ :=
      finitePair_some.mpr ⟨rfl, htext id List.mem_cons_self⟩
    rw [List.map_cons, List.filterMap_cons_some hfirst,
      ih fun other hother => htext other (List.mem_cons_of_mem _ hother), List.map_cons]

theorem parse_geosearchReply (htext : ∀ id ∈ near, Number (text id) = .finite (distance id))
    (count : Nat) :
    parseGeoResults (geosearchReply text near count) =
      (near.take count).map fun id => ⟨id, distance id⟩ := by
  have hnested : geosearchReply text near count =
      nestedReply ((near.take count).map fun id => (id, text id)) := by
    rw [geosearchReply, nestedReply, List.map_map]
    rfl
  rw [hnested, parseGeoResults_nested]
  exact filterMap_finitePair fun id hid => htext id (List.mem_of_mem_take hid)

theorem mapGet_candidate {nearby : List GeoVenueDistance} {ids : List String} {id : String}
    {reported : ℚ} (hnearby : nearby = ids.map fun id => ⟨id, distance id⟩)
    (h : mapGet id nearby = some reported) : id ∈ ids ∧ reported = distance id := by
  have hentry := mapGet_mem h
  rw [hnearby] at hentry
  obtain ⟨other, hother, heq⟩ := List.mem_map.mp hentry
  cases heq
  exact ⟨hother, rfl⟩

/-- Within the radius means at one of the near venues. -/
theorem eventsWithin_eq (hnear : NearestFirst venues within distance near) :
    eventsWithin venues events within now =
      events.rows.filter fun event => event.selected near now := by
  unfold eventsWithin
  congr 1
  funext event
  unfold Event.selected
  congr 2
  cases event.venueId with
  | none => rfl
  | some id =>
    rw [Option.bind_some]
    cases hvenue : venues.find id with
    | none =>
      have hout : id ∉ near := by
        intro hid
        have hsome := find_isSome_iff.mpr ((hnear.member id).mp hid).1
        rw [hvenue] at hsome
        cases hsome
      simp [hout]
    | some venue =>
      obtain rfl := find_id hvenue
      have hrow : venue.id ∈ venues.rows.map Venue.id :=
        find_isSome_iff.mp (by rw [hvenue]; rfl)
      have hiff := hnear.member venue.id
      cases hw : within venue.id with
      | false => simp [hiff, hw]
      | true => simp [hiff, hw, hrow]

/-- The query finds the events of the claim that are at a candidate venue. -/
theorem selected_candidates (count : Nat) :
    (events.rows.filter fun event => event.selected (near.take count) now) =
      (events.rows.filter fun event => event.selected near now).filter fun event =>
        event.atCandidate near count := by
  rw [List.filter_filter]
  congr 1
  funext event
  rw [Bool.eq_iff_iff, Bool.and_eq_true, atCandidate_iff, selected_iff, selected_iff]
  constructor
  · rintro ⟨⟨id, hid, hvenueId⟩, hrest⟩
    exact ⟨⟨id, hid, hvenueId⟩, ⟨id, List.mem_of_mem_take hid, hvenueId⟩, hrest⟩
  · rintro ⟨hcandidate, -, hrest⟩
    exact ⟨hcandidate, hrest⟩

theorem length_foundRows (hnear : NearestFirst venues within distance near) (count : Nat) :
    (foundRows venues events (near.take count) now).length =
      ((eventsWithin venues events within now).filter fun event =>
        event.atCandidate near count).length := by
  rw [← List.length_map (f := Prod.fst), foundRows_events, selected_candidates,
    eventsWithin_eq hnear]
  congr 1
  rw [List.filter_eq_self]
  intro event hevent
  obtain ⟨id, hid, hvenueId⟩ := atCandidate_iff.mp (List.mem_filter.mp hevent).2
  rw [hvenueId, Option.bind_some]
  exact find_isSome_iff.mpr ((hnear.member id).mp (List.mem_of_mem_take hid)).1

/-- A candidate is no farther than a venue that is not asked for. -/
theorem candidate_le (hnear : NearestFirst venues within distance near) {count : Nat}
    {id other : String} (hid : id ∈ near.take count) (hother : other ∈ near)
    (hout : other ∉ near.take count) : distance id ≤ distance other := by
  have hascending := hnear.ascending
  rw [← List.take_append_drop count near, List.pairwise_append] at hascending
  rw [← List.take_append_drop count near, List.mem_append] at hother
  rcases hother with hin | hrest
  · exact absurd hin hout
  · exact hascending.2.2 id hid other hrest

/-- The rows of a search over the candidates: no event within the radius that is left out is
nearer than one of them. -/
theorem leastRows_nearest (hnear : NearestFirst venues within distance near) {count limit : Nat}
    {event : Event} (hevent : event ∈ eventsWithin venues events within now) {id : String}
    (hvenueId : event.venueId = some id) {nearby : List GeoVenueDistance}
    (hnearby : nearby = (near.take count).map fun id => ⟨id, distance id⟩)
    (hleft : event.id ∉ (leastRows nearby venues events now limit).map fun row => row.1.id)
    {row : Event × Venue} (hrow : row ∈ leastRows nearby venues events now limit) :
    (rowResult nearby row).distanceKm ≤ distance id := by
  obtain ⟨-, -, -, -, hreported⟩ := mem_leastRows hrow
  have hselected : event.selected near now = true := by
    rw [eventsWithin_eq hnear] at hevent
    exact (List.mem_filter.mp hevent).2
  obtain ⟨⟨own, hown, hownId⟩, hrest⟩ := selected_iff.mp hselected
  obtain rfl : own = id := Option.some.inj (hownId.symm.trans hvenueId)
  have hids : nearby.map (·.venueId) = near.take count := by
    rw [hnearby, List.map_map]
    exact List.map_id _
  by_cases hcandidate : own ∈ near.take count
  · -- The event was sorted with the others, and cut.
    obtain ⟨venue, hvenue⟩ := Option.isSome_iff_exists.mp
      (find_isSome_iff.mpr ((hnear.member own).mp hown).1)
    have hfound : (event, venue) ∈ foundRows venues events (nearby.map (·.venueId)) now := by
      rw [mem_foundRows, hids]
      refine ⟨?_, selected_iff.mpr ⟨⟨own, hcandidate, hvenueId⟩, hrest⟩, ?_⟩
      · exact (List.mem_filter.mp hevent).1
      · rw [hvenueId, Option.bind_some, hvenue]
    have hcut : (event, venue) ∉ leastRows nearby venues events now limit := by
      intro hkept
      exact hleft (List.mem_map_of_mem (f := fun row : Event × Venue => row.1.id) hkept)
    have hle := Selection.least_le rowLe_trans rowLe_total hfound hcut hrow
    have hmem : own ∈ nearby.map GeoVenueDistance.venueId := by
      rw [hids]
      exact hcandidate
    obtain ⟨reported, hownReported⟩ := mapGet_of_mem hmem
    have heq : reported = distance own := (mapGet_candidate hnearby hownReported).2
    have hdistance : rowDistance nearby (event, venue) = some (distance own) := by
      rw [rowDistance, hvenueId, Option.getD_some, hownReported, heq]
    rw [rowLe, rowDistance_leastRows hrow, hdistance] at hle
    simpa [distanceLe] using hle
  · -- Its venue was not asked for, so every candidate is at least as near.
    obtain ⟨hin, heq⟩ := mapGet_candidate hnearby hreported
    rw [heq]
    exact candidate_le hnear hin hown hcandidate

theorem min_filter_iff (limit : Nat) (found : List Event) (p : Event → Bool) :
    min limit (found.filter p).length = min limit found.length ↔
      limit ≤ (found.filter p).length ∨ ∀ event ∈ found, p event = true := by
  have hle : (found.filter p).length ≤ found.length := List.length_filter_le p found
  rw [← List.length_filter_eq_length_iff]
  omega

variable (events now) in
/-- How many events a search over the candidates returns. -/
theorem length_leastRows (hnear : NearestFirst venues within distance near)
    (htext : ∀ id ∈ near, Number (text id) = .finite (distance id)) (count limit : Nat) :
    (leastRows (parseGeoResults (geosearchReply text near count)) venues events now limit).length =
      min limit ((eventsWithin venues events within now).filter fun event =>
        event.atCandidate near count).length := by
  have hids : (parseGeoResults (geosearchReply text near count)).map (·.venueId) =
      near.take count := by
    rw [parse_geosearchReply htext, List.map_map]
    exact List.map_id _
  rw [leastRows, Selection.length_least, ← length_foundRows hnear, hids]

end Candidates

/-- An accepted query misses nothing exactly when `limit` of the events within the radius are at
the `min (4 * limit) 100` nearest venues, or all of them are. -/
theorem search_complete_iff {geosearch : GeoSearchArgs → Except String RedisReply}
    {venues : VenueTable} {events : EventTable} {now : Int} {query : NearbyEventSearchQuery}
    {within : String → Bool} {distance : String → ℚ} {near : List String}
    {text : String → String} (hquery : validateSearchQuery query = .ok ())
    (hnear : NearestFirst venues within distance near)
    (htext : ∀ id ∈ near, Number (text id) = .finite (distance id))
    (hreply : geosearch (geoSearchArgs query) =
      .ok (geosearchReply text near (geoSearchArgs query).count)) :
    (∃ results, searchNearbyEvents geosearch (.ok (venues, events)) now query = .ok results ∧
        CompleteResults (eventsWithin venues events within now) distance query.limit.toNat
          results) ↔
      query.limit.toNat ≤ ((eventsWithin venues events within now).filter fun event =>
          event.atCandidate near (min (query.limit.toNat * 4) 100)).length ∨
        ∀ event ∈ eventsWithin venues events within now,
          event.atCandidate near (min (query.limit.toNat * 4) 100) = true := by
  have hrows := length_leastRows events now hnear htext (min (query.limit.toNat * 4) 100)
    query.limit.toNat
  rw [← min_filter_iff, ← hrows, search_eq hquery hreply]
  constructor
  · rintro ⟨results, hresults, hcomplete⟩
    cases hresults
    rw [← hcomplete.length, List.length_map]
    rfl
  · intro hcount
    refine ⟨_, rfl, ?_, ?_⟩
    · rw [List.length_map]
      exact hcount
    · intro event hevent hleft id hvenueId result hresult
      obtain ⟨row, hrow, rfl⟩ := List.mem_map.mp hresult
      rw [List.map_map] at hleft
      exact leastRows_nearest hnear hevent hvenueId (parse_geosearchReply htext _) hleft hrow

/-- The members of an index that agrees with the table, where all of them are within reach. -/
theorem nearestFirst_all {venues : VenueTable} {distance : String → ℚ}
    (hascending : (venues.rows.map Venue.id).Pairwise fun a b => distance a ≤ distance b) :
    NearestFirst venues (fun _ => true) distance (venues.rows.map Venue.id) :=
  ⟨fun _ => (and_iff_left rfl).symm, hascending⟩

/-- The distances from the query's place, as the index prints them. -/
def harbourText : String → String
  | "harbour" => "95.7325"
  | "arena" => "100.6144"
  | _ => "113.0532"

def harbourDistance (id : String) : ℚ :=
  match Number (harbourText id) with
  | .finite distance => distance
  | .notFinite => 0

/-- Two of the three events are returned, those at the nearest venue. -/
theorem search_complete_harbour :
    (eventsWithin harbourVenues harbourEvents (fun _ => true) 0).length = 3 ∧
      ∃ results, searchNearbyEvents
          (fun args =>
            .ok (geosearchReply harbourText (harbourVenues.rows.map Venue.id) args.count))
          (.ok (harbourVenues, harbourEvents)) 0 harbourQuery = .ok results ∧
        CompleteResults (eventsWithin harbourVenues harbourEvents (fun _ => true) 0)
          harbourDistance harbourQuery.limit.toNat results := by
  refine ⟨by decide +kernel, ?_⟩
  apply (search_complete_iff (by decide +kernel) (nearestFirst_all (by decide +kernel))
    (by decide +kernel) rfl).mpr
  left
  decide +kernel

/-- Five venues on the equator, with an event at the last only, and a query for one event. -/
def eastward : VenueTable where
  rows :=
    [⟨"1", "First", 0, 9000, by decide, by decide⟩,
      ⟨"2", "Second", 0, 18000, by decide, by decide⟩,
      ⟨"3", "Third", 0, 27000, by decide, by decide⟩,
      ⟨"4", "Fourth", 0, 36000, by decide, by decide⟩,
      ⟨"5", "Fifth", 0, 45000, by decide, by decide⟩]
  keyed := by decide

def lastVenueEvent : EventTable := ⟨[⟨"concert", "Concert", 1000, some "5", true⟩], by decide⟩

def oneEventQuery : NearbyEventSearchQuery := ⟨.finite 0, .finite 0, .finite 10, .finite 1⟩

/-- Each venue is a kilometre farther, as its id says. -/
def kilometres (id : String) : ℚ :=
  match Number id with
  | .finite distance => distance
  | .notFinite => 0

/-- The four nearest venues have no event, so the event at the fifth is not found. -/
theorem search_misses_event :
    ¬ ∃ results, searchNearbyEvents
        (fun args => .ok (geosearchReply id (eastward.rows.map Venue.id) args.count))
        (.ok (eastward, lastVenueEvent)) 0 oneEventQuery = .ok results ∧
        CompleteResults (eventsWithin eastward lastVenueEvent (fun _ => true) 0) kilometres
          oneEventQuery.limit.toNat results := by
  rintro ⟨results, hresults, hcomplete⟩
  have hquery : validateSearchQuery oneEventQuery = .ok () := by decide +kernel
  have hnear : NearestFirst eastward (fun _ => true) kilometres (eastward.rows.map Venue.id) :=
    nearestFirst_all (by decide +kernel)
  have htext : ∀ id ∈ eastward.rows.map Venue.id, Number id = .finite (kilometres id) := by
    decide +kernel
  rw [search_eq hquery rfl] at hresults
  cases hresults
  have hreturned := length_leastRows lastVenueEvent 0 hnear htext 4 1
  have hnone : min 1 ((eventsWithin eastward lastVenueEvent (fun _ => true) 0).filter fun event =>
      event.atCandidate (eastward.rows.map Venue.id) 4).length = 0 := by
    decide
  have hone := hcomplete.length
  rw [List.length_map] at hone
  have hcontra : 0 = 1 := hnone.symm.trans (hreturned.symm.trans hone)
  omega

end TicketEngine
