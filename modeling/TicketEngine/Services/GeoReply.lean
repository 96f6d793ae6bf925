import TicketEngine.Services.Geo

namespace TicketEngine

/-! ## The two shapes of a GEOSEARCH reply -/

/-- `[[m1, d1], [m2, d2], ...]` -/
def nestedReply (pairs : List (String × String)) : RedisReply :=
  .array (pairs.map fun pair => .array [.bulk pair.1, .bulk pair.2])

/-- `[m1, d1, m2, d2, ...]` -/
def flatReply (pairs : List (String × String)) : RedisReply :=
  .array (pairs.flatMap fun pair => [.bulk pair.1, .bulk pair.2])

/-- A member and its distance as a number, when that is finite. -/
def finitePair (pair : String × String) : Option GeoVenueDistance :=
  match Number pair.2 with
  | .finite distanceKm => some { venueId := pair.1, distanceKm }
  | .notFinite => none

theorem geoEntry_bulk (pair : String × String) :
    geoEntry (some (.bulk pair.1)) (some (.bulk pair.2)) = finitePair pair := by
  cases hnumber : Number pair.2 with
  | finite value => simp only [geoEntry, finitePair, hnumber]
  | notFinite => simp only [geoEntry, finitePair, hnumber]

theorem finitePair_some {pair : String × String} {entry : GeoVenueDistance} :
    finitePair pair = some entry ↔
      pair.1 = entry.venueId ∧ Number pair.2 = .finite entry.distanceKm := by
  obtain ⟨venueId, distanceKm⟩ := entry
  unfold finitePair
  cases hnumber : Number pair.2 with
  | notFinite => simp
  | finite value => simp

theorem filterMap_nested (pairs : List (String × String)) :
    (pairs.map fun pair => RedisReply.array [.bulk pair.1, .bulk pair.2]).filterMap nestedEntry =
      pairs.filterMap finitePair := by
  rw [List.filterMap_map]
  have hentry : nestedEntry ∘ (fun pair : String × String =>
      RedisReply.array [.bulk pair.1, .bulk pair.2]) = finitePair := by
    funext pair
    rw [← geoEntry_bulk, Function.comp_apply]
    rfl
  rw [hentry]

theorem parseGeoResults_nested (pairs : List (String × String)) :
    parseGeoResults (nestedReply pairs) = pairs.filterMap finitePair := by
  have hnested : (pairs.map fun pair => RedisReply.array [.bulk pair.1, .bulk pair.2]).all
      fun result => result.elems?.isSome := by
    rw [List.all_map]
    exact List.all_eq_true.mpr fun _ _ => rfl
  rw [nestedReply, parseGeoResults, if_pos hnested]
  exact filterMap_nested pairs

theorem flatEntries_flatMap (pairs : List (String × String)) :
    flatEntries (pairs.flatMap fun pair => [.bulk pair.1, .bulk pair.2]) =
      pairs.filterMap finitePair := by
  induction pairs with
  | nil => rfl
  | cons pair pairs ih =>
    have hstep : flatEntries ((pair :: pairs).flatMap fun pair =>
          [.bulk pair.1, .bulk pair.2]) =
        (finitePair pair).toList ++
          flatEntries (pairs.flatMap fun pair => [.bulk pair.1, .bulk pair.2]) := by
      rw [← geoEntry_bulk pair]
      rfl
    rw [hstep, ih]
    cases hpair : finitePair pair with
    | none =>
      rw [List.filterMap_cons_none hpair]
      rfl
    | some entry =>
      rw [List.filterMap_cons_some hpair]
      rfl

theorem parseGeoResults_flat (pairs : List (String × String)) :
    parseGeoResults (flatReply pairs) = pairs.filterMap finitePair := by
  cases pairs with
  | nil => rfl
  | cons pair rest =>
    have hflat : ¬((pair :: rest).flatMap fun pair =>
        [RedisReply.bulk pair.1, RedisReply.bulk pair.2]).all
          fun result => result.elems?.isSome := by
      intro hall
      have hfirst := List.all_eq_true.mp hall (.bulk pair.1) List.mem_cons_self
      cases hfirst
    rw [flatReply, parseGeoResults, if_neg hflat]
    exact flatEntries_flatMap (pair :: rest)

theorem finitePair_none {pair : String × String} :
    finitePair pair = none ↔ Number pair.2 = .notFinite := by
  unfold finitePair
  cases Number pair.2 <;> simp

theorem forall₂_finitePair (pairs : List (String × String)) :
    List.Forall₂ (fun pair entry => pair.1 = entry.venueId ∧
        Number pair.2 = .finite entry.distanceKm)
      (pairs.filter fun pair => Number pair.2 ≠ .notFinite) (pairs.filterMap finitePair) := by
  induction pairs with
  | nil => exact .nil
  | cons pair pairs ih =>
    cases hpair : finitePair pair with
    | none =>
      have hnot : Number pair.2 = .notFinite := finitePair_none.mp hpair
      rw [List.filterMap_cons_none hpair, List.filter_cons_of_neg (by simp [hnot])]
      exact ih
    | some entry =>
      have hfinite := finitePair_some.mp hpair
      rw [List.filterMap_cons_some hpair, List.filter_cons_of_pos (by simp [hfinite.2])]
      exact .cons hfinite ih

/-- Both replies give the same entries: one for each pair whose distance is a finite number, in
the order of the pairs and with the pair's own distance. -/
theorem parseGeoResults_shapes (pairs : List (String × String)) :
    parseGeoResults (nestedReply pairs) = parseGeoResults (flatReply pairs) ∧
      List.Forall₂ (fun pair entry => pair.1 = entry.venueId ∧
          Number pair.2 = .finite entry.distanceKm)
        (pairs.filter fun pair => Number pair.2 ≠ .notFinite)
        (parseGeoResults (flatReply pairs)) := by
  rw [parseGeoResults_nested, parseGeoResults_flat]
  exact ⟨rfl, forall₂_finitePair pairs⟩

example : parseGeoResults (flatReply [("a", "1.5"), ("b", "nan"), ("c", "2")]) =
    [⟨"a", 3 / 2⟩, ⟨"c", 2⟩] := by
  decide +kernel

end TicketEngine
