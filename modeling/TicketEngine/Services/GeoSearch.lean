import TicketEngine.Framework.Selection
import TicketEngine.Services.Geo

namespace TicketEngine

section Distances

variable {entries : List GeoVenueDistance} {key : String}

theorem mapGet_mem {distance : ℚ} (h : mapGet key entries = some distance) :
    (⟨key, distance⟩ : GeoVenueDistance) ∈ entries := by
  induction entries with
  | nil => cases h
  | cons entry entries ih =>
    rw [mapGet] at h
    split at h
    next later hlater =>
      cases h
      exact List.mem_cons_of_mem _ (ih hlater)
    next =>
      split_ifs at h with hkey
      cases h
      subst hkey
      exact List.mem_cons_self

theorem mapGet_of_mem (h : key ∈ entries.map GeoVenueDistance.venueId) :
    ∃ distance, mapGet key entries = some distance := by
  induction entries with
  | nil => cases h
  | cons entry entries ih =>
    rw [mapGet]
    cases hlater : mapGet key entries with
    | some distance => exact ⟨distance, rfl⟩
    | none =>
      rcases List.mem_cons.mp h with hkey | hrest
      · exact ⟨entry.distanceKm, if_pos hkey.symm⟩
      · obtain ⟨distance, hdistance⟩ := ih hrest
        rw [hlater] at hdistance
        cases hdistance

theorem distanceLe_trans (a b c : Option ℚ) (hab : distanceLe a b = true)
    (hbc : distanceLe b c = true) : distanceLe a c = true := by
  cases c with
  | none => cases a <;> rfl
  | some c =>
    cases b with
    | none => cases hbc
    | some b =>
      cases a with
      | none => cases hab
      | some a =>
        simp only [distanceLe, tsub_le_iff_right, zero_add, decide_eq_true_eq] at hab hbc ⊢
        exact hab.trans hbc

theorem distanceLe_total (a b : Option ℚ) : (distanceLe a b || distanceLe b a) = true := by
  cases a with
  | none => cases b <;> rfl
  | some a =>
    cases b with
    | none => rfl
    | some b =>
      simp only [distanceLe, tsub_le_iff_right, zero_add, Bool.or_eq_true, decide_eq_true_eq]
      exact le_total a b

end Distances

section Found

variable {venues : VenueTable} {events : EventTable} {venueIds : List String} {now : Int}

theorem selected_iff {event : Event} :
    event.selected venueIds now = true ↔
      (∃ id ∈ venueIds, event.venueId = some id) ∧ event.isActive = true ∧
        now ≤ event.startsAt := by
  unfold Event.selected
  cases event.venueId with
  | none => simp
  | some id => simp [and_assoc]

theorem find_id {id : String} {venue : Venue} (h : venues.find id = some venue) :
    venue.id = id := by
  simpa using List.find?_some h

theorem find_isSome_iff {id : String} :
    (venues.find id).isSome = true ↔ id ∈ venues.rows.map Venue.id := by
  rw [VenueTable.find, List.find?_isSome]
  simp

/-- The rows with a venue that `searchNearbyEvents` sorts. -/
def foundRows (venues : VenueTable) (events : EventTable) (venueIds : List String) (now : Int) :
    List (Event × Venue) :=
  (findEvents venues events venueIds now).filterMap fun (event, venue) =>
    venue.map fun venue => (event, venue)

theorem mem_foundRows {event : Event} {venue : Venue} :
    (event, venue) ∈ foundRows venues events venueIds now ↔
      event ∈ events.rows ∧ event.selected venueIds now = true ∧
        event.venueId.bind venues.find = some venue := by
  simp only [foundRows, findEvents, List.mem_filterMap, List.mem_map, List.mem_filter]
  constructor
  · rintro ⟨_, ⟨found, ⟨hmem, hselected⟩, rfl⟩, hvenue⟩
    obtain ⟨_, hbind, heq⟩ := Option.map_eq_some_iff.mp hvenue
    cases heq
    exact ⟨hmem, hselected, hbind⟩
  · rintro ⟨hmem, hselected, hbind⟩
    exact ⟨_, ⟨event, ⟨hmem, hselected⟩, rfl⟩, by rw [hbind]; rfl⟩

/-- The events of the rows are the selected ones that have a venue. -/
theorem foundRows_events (venues : VenueTable) (events : EventTable) (venueIds : List String)
    (now : Int) :
    (foundRows venues events venueIds now).map Prod.fst =
      (events.rows.filter fun event => event.selected venueIds now).filter fun event =>
        (event.venueId.bind venues.find).isSome := by
  unfold foundRows findEvents
  induction events.rows.filter fun event => event.selected venueIds now with
  | nil => rfl
  | cons event rows ih =>
    cases hvenue : event.venueId.bind venues.find with
    | none =>
      rw [List.filter_cons_of_neg (by simp [hvenue]), ← ih, List.map_cons,
        List.filterMap_cons_none (by simp [hvenue])]
    | some venue =>
      rw [List.filter_cons_of_pos (by simp [hvenue]), ← ih, List.map_cons,
        List.filterMap_cons_some (b := (event, venue)) (by simp [hvenue]), List.map_cons]

theorem foundRows_keyed (venues : VenueTable) (events : EventTable) (venueIds : List String)
    (now : Int) : ((foundRows venues events venueIds now).map fun row => row.1.id).Nodup := by
  have hsub : ((foundRows venues events venueIds now).map Prod.fst).Sublist events.rows := by
    rw [foundRows_events]
    exact List.filter_sublist.trans List.filter_sublist
  have hmap := events.keyed.sublist (hsub.map Event.id)
  rwa [List.map_map] at hmap

/-- A row can be selected only through a venue that has a reported distance. -/
theorem selected_known {nearby : List GeoVenueDistance} {event : Event}
    (h : event.selected (nearby.map (·.venueId)) now = true) :
    ∃ id distance, event.venueId = some id ∧ mapGet id nearby = some distance := by
  obtain ⟨⟨id, hid, hvenueId⟩, -⟩ := selected_iff.mp h
  obtain ⟨distance, hdistance⟩ := mapGet_of_mem hid
  exact ⟨id, distance, hvenueId, hdistance⟩

end Found

section Results

variable {nearby : List GeoVenueDistance} {venues : VenueTable} {events : EventTable} {now : Int}

def rowDistance (nearby : List GeoVenueDistance) (row : Event × Venue) : Option ℚ :=
  mapGet (row.1.venueId.getD "") nearby

def rowLe (nearby : List GeoVenueDistance) (left right : Event × Venue) : Bool :=
  distanceLe (rowDistance nearby left) (rowDistance nearby right)

def rowResult (nearby : List GeoVenueDistance) (row : Event × Venue) : NearbyEventResult where
  eventId := row.1.id
  name := row.1.name
  startsAt := row.1.startsAt
  venue :=
    { id := row.2.id, name := row.2.name, latitude := degrees row.2.latitude,
      longitude := degrees row.2.longitude }
  distanceKm := (rowDistance nearby row).getD 0

/-- The rows the search returns. -/
def leastRows (nearby : List GeoVenueDistance) (venues : VenueTable) (events : EventTable)
    (now : Int) (limit : Nat) : List (Event × Venue) :=
  Selection.least (rowLe nearby) limit
    (foundRows venues events (nearby.map (·.venueId)) now)

theorem rowLe_trans (a b c : Event × Venue) (hab : rowLe nearby a b = true)
    (hbc : rowLe nearby b c = true) : rowLe nearby a c = true :=
  distanceLe_trans _ _ _ hab hbc

theorem rowLe_total (a b : Event × Venue) : (rowLe nearby a b || rowLe nearby b a) = true :=
  distanceLe_total _ _

/-- What an accepted query returns when both stores answer. -/
theorem search_eq {geosearch : GeoSearchArgs → Except String RedisReply} {reply : RedisReply}
    {query : NearbyEventSearchQuery} (hquery : validateSearchQuery query = .ok ())
    (hreply : geosearch (geoSearchArgs query) = .ok reply) :
    searchNearbyEvents geosearch (.ok (venues, events)) now query =
      .ok ((leastRows (parseGeoResults reply) venues events now query.limit.toNat).map
        (rowResult (parseGeoResults reply))) := by
  simp only [searchNearbyEvents, hquery, hreply]
  split
  next hempty =>
    rw [List.length_eq_zero_iff] at hempty
    have hrows : foundRows venues events [] now = [] := by
      rw [List.eq_nil_iff_forall_not_mem]
      rintro ⟨event, venue⟩ hmem
      obtain ⟨-, hselected, -⟩ := mem_foundRows.mp hmem
      obtain ⟨⟨id, hid, -⟩, -⟩ := selected_iff.mp hselected
      cases hid
    simp only [hempty, leastRows, List.map_nil, hrows, Selection.least_nil]
  next => rfl

/-- A row of the result: an event and its venue, with the distance reported for the venue. -/
theorem mem_leastRows {limit : Nat} {row : Event × Venue}
    (h : row ∈ leastRows nearby venues events now limit) :
    row.1 ∈ events.rows ∧ row.1.isActive = true ∧ now ≤ row.1.startsAt ∧
      row.1.venueId = some row.2.id ∧
      mapGet row.2.id nearby = some (rowResult nearby row).distanceKm := by
  obtain ⟨event, venue⟩ := row
  obtain ⟨hmem, hselected, hvenue⟩ := mem_foundRows.mp (Selection.mem_of_mem_least h)
  obtain ⟨id, distance, hvenueId, hdistance⟩ := selected_known hselected
  obtain ⟨-, hactive, hfuture⟩ := selected_iff.mp hselected
  rw [hvenueId, Option.bind_some] at hvenue
  obtain rfl := find_id hvenue
  have hrow : rowDistance nearby (event, venue) = some distance := by
    simp only [rowDistance, hvenueId, Option.getD_some, hdistance]
  have hresult : (rowResult nearby (event, venue)).distanceKm = distance := by
    simp only [rowResult, hrow, Option.getD_some]
  exact ⟨hmem, hactive, hfuture, hvenueId, by rw [hresult, hdistance]⟩

theorem rowDistance_leastRows {limit : Nat} {row : Event × Venue}
    (h : row ∈ leastRows nearby venues events now limit) :
    rowDistance nearby row = some (rowResult nearby row).distanceKm := by
  obtain ⟨-, -, -, hvenueId, hdistance⟩ := mem_leastRows h
  rw [rowDistance, hvenueId, Option.getD_some, hdistance]

/-- What a search may return, given the reply of the index. -/
structure SoundResults (reply : RedisReply) (events : EventTable) (now : Int) (limit : Nat)
    (results : List NearbyEventResult) : Prop where
  bounded : results.length ≤ limit
  distinct : (results.map (·.eventId)).Nodup
  eligible : ∀ result ∈ results, ∃ event ∈ events.rows, event.id = result.eventId ∧
    event.isActive = true ∧ now ≤ event.startsAt ∧ event.venueId = some result.venue.id
  reported : ∀ result ∈ results,
    (⟨result.venue.id, result.distanceKm⟩ : GeoVenueDistance) ∈ parseGeoResults reply ∧
      mapGet result.venue.id (parseGeoResults reply) = some result.distanceKm
  sorted : results.Pairwise fun left right => left.distanceKm ≤ right.distanceKm

theorem leastRows_sound (reply : RedisReply) (venues : VenueTable) (events : EventTable)
    (now : Int) (limit : Nat) :
    SoundResults reply events now limit
      ((leastRows (parseGeoResults reply) venues events now limit).map
        (rowResult (parseGeoResults reply))) where
  bounded := by
    rw [List.length_map, leastRows, Selection.length_least]
    exact Nat.min_le_left _ _
  distinct := by
    rw [List.map_map]
    exact Selection.nodup_map_least (foundRows_keyed venues events _ now)
  eligible := by
    intro result hresult
    obtain ⟨row, hrow, rfl⟩ := List.mem_map.mp hresult
    obtain ⟨hmem, hactive, hfuture, hvenueId, -⟩ := mem_leastRows hrow
    exact ⟨row.1, hmem, rfl, hactive, hfuture, hvenueId⟩
  reported := by
    intro result hresult
    obtain ⟨row, hrow, rfl⟩ := List.mem_map.mp hresult
    obtain ⟨-, -, -, -, hdistance⟩ := mem_leastRows hrow
    exact ⟨mapGet_mem hdistance, hdistance⟩
  sorted := by
    have hsorted : (leastRows (parseGeoResults reply) venues events now limit).Pairwise
        fun left right => rowLe (parseGeoResults reply) left right = true :=
      Selection.pairwise_least rowLe_trans rowLe_total limit _
    rw [List.pairwise_map]
    refine hsorted.imp_of_mem fun {left right} hleft hright hle => ?_
    rw [rowLe, rowDistance_leastRows hleft, rowDistance_leastRows hright] at hle
    simpa [distanceLe] using hle

/-- An accepted query returns sound results, and no row that is sorted lacks a distance. -/
theorem search_sound (reply : RedisReply) (venues : VenueTable) (events : EventTable) (now : Int)
    (query : NearbyEventSearchQuery) (hquery : validateSearchQuery query = .ok ()) :
    (∃ results, searchNearbyEvents (fun _ => .ok reply) (.ok (venues, events)) now query =
        .ok results ∧ SoundResults reply events now query.limit.toNat results) ∧
      ∀ row ∈ findEvents venues events ((parseGeoResults reply).map (·.venueId)) now,
        ∃ distance, mapGet (row.1.venueId.getD "") (parseGeoResults reply) = some distance := by
  constructor
  · exact ⟨_, search_eq hquery rfl, leastRows_sound reply venues events now _⟩
  · intro row hrow
    obtain ⟨event, hevent, rfl⟩ := List.mem_map.mp hrow
    obtain ⟨id, distance, hvenueId, hdistance⟩ := selected_known (List.mem_filter.mp hevent).2
    exact ⟨distance, by rw [hvenueId, Option.getD_some, hdistance]⟩

/-- Three venues, the nearest with two events, and a query for two of the three events to come. -/
def harbourVenues : VenueTable where
  rows :=
    [⟨"harbour", "Harbour Hall", 24860700, 67001100, by decide, by decide⟩,
      ⟨"arena", "Arena", 24900000, 67100000, by decide, by decide⟩,
      ⟨"museum", "Museum", 25000000, 67200000, by decide, by decide⟩]
  keyed := by decide

def harbourEvents : EventTable where
  rows :=
    [⟨"match", "Match", 500, some "arena", true⟩,
      ⟨"gala", "Gala", 2000, some "harbour", true⟩,
      ⟨"concert", "Concert", 1000, some "harbour", true⟩,
      ⟨"exhibition", "Exhibition", 1500, some "museum", false⟩]
  keyed := by decide

def harbourQuery : NearbyEventSearchQuery := ⟨.finite 24, .finite 67, .finite 500, .finite 2⟩

def harbourReply : RedisReply :=
  .array [.array [.bulk "harbour", .bulk "95.7325"], .array [.bulk "arena", .bulk "100.6144"],
    .array [.bulk "museum", .bulk "113.0532"]]

theorem search_sound_harbour :
    (∃ results, searchNearbyEvents (fun _ => .ok harbourReply)
        (.ok (harbourVenues, harbourEvents)) 0 harbourQuery = .ok results ∧
        SoundResults harbourReply harbourEvents 0 harbourQuery.limit.toNat results) ∧
      ∀ row ∈ findEvents harbourVenues harbourEvents
          ((parseGeoResults harbourReply).map (·.venueId)) 0,
        ∃ distance, mapGet (row.1.venueId.getD "") (parseGeoResults harbourReply) =
          some distance :=
  search_sound harbourReply harbourVenues harbourEvents 0 harbourQuery (by decide +kernel)

end Results

end TicketEngine
