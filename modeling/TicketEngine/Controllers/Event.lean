import TicketEngine.Services.GeoSearch

namespace TicketEngine

/-- A value of `request.query`; a name that is repeated has a list. -/
inductive QueryValue
  | text (value : String)
  | list (values : List String)

/-- `Number(value)` of a parameter: a list is joined first, and `undefined` is not a number. -/
def coerceNumber : Option QueryValue → JsNumber
  | none => .notFinite
  | some (.text value) => Number value
  | some (.list values) => Number (",".intercalate values)

/-- The parameters that the search reads. -/
structure GeoQuery where
  lat : Option QueryValue
  lng : Option QueryValue
  radiusKm : Option QueryValue
  limit : Option QueryValue

/-! ## The schema -/

/-- What a number is checked for; NaN and the infinities are refused before any check, so
`finite()` adds none. -/
inductive NumberCheck
  | min (bound : ℚ)
  | max (bound : ℚ)
  | gt (bound : ℚ)
  | int

/-- An issue names the field, and the bound or the type that was expected. -/
inductive ZodIssue
  | tooSmall (path : String) (minimum : ℚ) (inclusive : Bool)
  | tooBig (path : String) (maximum : ℚ)
  | invalidType (path : String) (expected : String)
  deriving DecidableEq

def ZodIssue.path : ZodIssue → String
  | .tooSmall path _ _ => path
  | .tooBig path _ => path
  | .invalidType path _ => path

/-- An issue of the wrong type ends the checks of its field. -/
def ZodIssue.aborts : ZodIssue → Bool
  | .invalidType _ _ => true
  | _ => false

def MAX_SAFE_INTEGER : ℚ := 2 ^ 53 - 1

/-- The issue that a check finds. An integer has to be a safe one too. -/
def NumberCheck.issue (path : String) (value : ℚ) : NumberCheck → Option ZodIssue
  | .min bound => if value < bound then some (.tooSmall path bound true) else none
  | .max bound => if bound < value then some (.tooBig path bound) else none
  | .gt bound => if value ≤ bound then some (.tooSmall path bound false) else none
  | .int =>
    if value.den ≠ 1 then some (.invalidType path "int")
    else if MAX_SAFE_INTEGER < value then some (.tooBig path MAX_SAFE_INTEGER)
    else if value < -MAX_SAFE_INTEGER then some (.tooSmall path (-MAX_SAFE_INTEGER) true)
    else none

def runChecks (path : String) (value : ℚ) : List NumberCheck → List ZodIssue
  | [] => []
  | check :: checks =>
    match check.issue path value with
    | none => runChecks path value checks
    | some issue => if issue.aborts then [issue] else issue :: runChecks path value checks

/-- `z.coerce.number()` with checks. -/
def numberField (path : String) (checks : List NumberCheck) (value : Option QueryValue) :
    Except (List ZodIssue) JsNumber :=
  match coerceNumber value with
  | .notFinite => .error [.invalidType path "number"]
  | .finite number =>
    match runChecks path number checks with
    | [] => .ok (.finite number)
    | issues => .error issues

/-- `.default(value)`: a field that is not there is not checked. -/
def withDefault (default : ℚ) (field : Option QueryValue → Except (List ZodIssue) JsNumber) :
    Option QueryValue → Except (List ZodIssue) JsNumber
  | none => .ok (.finite default)
  | some value => field (some value)

def latField : Option QueryValue → Except (List ZodIssue) JsNumber :=
  numberField "lat" [.min (-90), .max 90]

def lngField : Option QueryValue → Except (List ZodIssue) JsNumber :=
  numberField "lng" [.min (-180), .max 180]

def radiusKmField : Option QueryValue → Except (List ZodIssue) JsNumber :=
  withDefault 10 (numberField "radiusKm" [.gt 0, .max 500])

def limitField : Option QueryValue → Except (List ZodIssue) JsNumber :=
  withDefault 20 (numberField "limit" [.int, .min 1, .max 100])

def fieldIssues : Except (List ZodIssue) JsNumber → List ZodIssue
  | .ok _ => []
  | .error issues => issues

/-- The parsed query, or the issues of all fields in their order. -/
def geoSearchQuerySchema (query : GeoQuery) : Except (List ZodIssue) NearbyEventSearchQuery :=
  match latField query.lat, lngField query.lng, radiusKmField query.radiusKm,
      limitField query.limit with
  | .ok lat, .ok lng, .ok radiusKm, .ok limit => .ok { lat, lng, radiusKm, limit }
  | lat, lng, radiusKm, limit =>
    .error (fieldIssues lat ++ fieldIssues lng ++ fieldIssues radiusKm ++ fieldIssues limit)

/-- The JSON body of a search. -/
structure GeoSearchBody where
  data : List NearbyEventResult
  query : NearbyEventSearchQuery
  count : Nat

/-- `message` is the text that the schema gives an issue. -/
def searchEventsByGeo (message : ZodIssue → String)
    (geosearch : GeoSearchArgs → Except String RedisReply)
    (database : Except String (VenueTable × EventTable)) (now : Int) (request : GeoQuery) :
    Except ServiceError GeoSearchBody :=
  match geoSearchQuerySchema request with
  | .error issues => .error (.badRequest ("; ".intercalate (issues.map message)))
  | .ok query =>
    match searchNearbyEvents geosearch database now query with
    | .error e => .error e
    | .ok data => .ok { data, query, count := data.length }

structure ErrorBody where
  status : String
  statusCode : Nat
  message : String
  deriving DecidableEq

def errorHandler (production : Bool) : ServiceError → ErrorBody
  | .badRequest message => ⟨"fail", 400, message⟩
  | .notFound message => ⟨"fail", 404, message⟩
  | .conflict message => ⟨"fail", 409, message⟩
  | .other message => ⟨"error", 500, if production then "Internal server error" else message⟩

/-- The status code of the response. -/
def statusCode (production : Bool) : Except ServiceError GeoSearchBody → Nat
  | .ok _ => 200
  | .error e => (errorHandler production e).statusCode

section Checks

variable {path : String} {value : ℚ} {checks : List NumberCheck}

@[simp] theorem issue_min (bound : ℚ) :
    (NumberCheck.min bound).issue path value = none ↔ bound ≤ value := by
  simp [NumberCheck.issue]

@[simp] theorem issue_max (bound : ℚ) :
    (NumberCheck.max bound).issue path value = none ↔ value ≤ bound := by
  simp [NumberCheck.issue]

@[simp] theorem issue_gt (bound : ℚ) :
    (NumberCheck.gt bound).issue path value = none ↔ bound < value := by
  simp [NumberCheck.issue]

@[simp] theorem issue_int :
    NumberCheck.int.issue path value = none ↔
      value.den = 1 ∧ value ≤ MAX_SAFE_INTEGER ∧ -MAX_SAFE_INTEGER ≤ value := by
  unfold NumberCheck.issue
  split_ifs with hden hbig hsmall
  · simp [hden]
  · simp [hbig]
  · simp [hsmall]
  · simp only [not_not, not_lt] at hden hbig hsmall
    simp [hden, hbig, hsmall]

theorem runChecks_nil :
    runChecks path value checks = [] ↔ ∀ check ∈ checks, check.issue path value = none := by
  induction checks with
  | nil => simp [runChecks]
  | cons check checks ih =>
    rw [List.forall_mem_cons, ← ih, runChecks]
    cases hissue : check.issue path value with
    | none => simp
    | some issue =>
      have hne : (if issue.aborts then [issue] else issue :: runChecks path value checks) ≠ [] := by
        split <;> simp
      simpa using hne

theorem path_of_ite {condition : Prop} [Decidable condition] {found issue : ZodIssue}
    (hfound : found.path = path)
    (h : (if condition then some found else none) = some issue) : issue.path = path := by
  simp only [Option.ite_none_right_eq_some, Option.some.injEq] at h
  rw [← h.2, hfound]

theorem issue_path {check : NumberCheck} {issue : ZodIssue}
    (h : check.issue path value = some issue) : issue.path = path := by
  cases check with
  | min bound => exact path_of_ite rfl h
  | max bound => exact path_of_ite rfl h
  | gt bound => exact path_of_ite rfl h
  | int =>
    simp only [NumberCheck.issue] at h
    split_ifs at h with hden hbig hsmall
    · cases h
      rfl
    · cases h
      rfl
    · cases h
      rfl

theorem runChecks_path {issue : ZodIssue} (h : issue ∈ runChecks path value checks) :
    issue.path = path := by
  induction checks with
  | nil => cases h
  | cons check checks ih =>
    rw [runChecks] at h
    cases hissue : check.issue path value with
    | none =>
      rw [hissue] at h
      exact ih h
    | some found =>
      rw [hissue] at h
      have hmem : issue = found ∨ issue ∈ runChecks path value checks := by
        dsimp only at h
        split at h
        · exact .inl (List.mem_singleton.mp h)
        · exact List.mem_cons.mp h
      cases hmem with
      | inl heq => exact heq ▸ issue_path hissue
      | inr hrest => exact ih hrest

theorem numberField_ok {accepts : ℚ → Prop} [DecidablePred accepts]
    (hchecks : ∀ value, runChecks path value checks = [] ↔ accepts value)
    {field : Option QueryValue} {number : JsNumber} :
    numberField path checks field = .ok number ↔
      number = coerceNumber field ∧ number.within (fun value => accepts value) = true := by
  unfold numberField
  cases coerceNumber field with
  | notFinite =>
    constructor
    · intro h
      cases h
    · rintro ⟨rfl, hwithin⟩
      cases hwithin
  | finite value =>
    dsimp only
    cases hissues : runChecks path value checks with
    | nil =>
      have haccepts : accepts value := (hchecks value).mp hissues
      constructor
      · intro h
        cases h
        simpa [JsNumber.within] using haccepts
      · rintro ⟨rfl, -⟩
        rfl
    | cons issue issues =>
      have hrefuses : ¬accepts value := by
        rw [← hchecks, hissues]
        simp
      constructor
      · intro h
        cases h
      · rintro ⟨rfl, hwithin⟩
        simp [JsNumber.within, hrefuses] at hwithin

theorem numberField_issues {field : Option QueryValue} {issues : List ZodIssue}
    (h : numberField path checks field = .error issues) :
    issues ≠ [] ∧ ∀ issue ∈ issues, issue.path = path := by
  unfold numberField at h
  cases hnumber : coerceNumber field with
  | notFinite =>
    rw [hnumber] at h
    cases h
    simp [ZodIssue.path]
  | finite value =>
    rw [hnumber] at h
    dsimp only at h
    split at h
    next => cases h
    next hne =>
      cases h
      exact ⟨hne, fun issue hissue => runChecks_path hissue⟩

/-- A default is taken without a check, so it has to be a value that the checks accept. -/
theorem withDefault_ok {accepts : ℚ → Prop} [DecidablePred accepts]
    (hchecks : ∀ value, runChecks path value checks = [] ↔ accepts value)
    {default : ℚ} (hdefault : accepts default)
    {field : Option QueryValue} {number : JsNumber} :
    withDefault default (numberField path checks) field = .ok number ↔
      number = (field.elim (.finite default) fun value => coerceNumber (some value)) ∧
        number.within (fun value => accepts value) = true := by
  cases field with
  | some value => exact numberField_ok hchecks
  | none =>
    constructor
    · intro h
      cases h
      exact ⟨rfl, by simpa [JsNumber.within] using hdefault⟩
    · rintro ⟨rfl, -⟩
      rfl

end Checks

/-! ## The two validators -/

/-- The numbers of a request, before any check. -/
def GeoQuery.values (request : GeoQuery) : NearbyEventSearchQuery where
  lat := coerceNumber request.lat
  lng := coerceNumber request.lng
  radiusKm := request.radiusKm.elim (.finite 10) fun value => coerceNumber (some value)
  limit := request.limit.elim (.finite 20) fun value => coerceNumber (some value)

/-- Every number lies in its range. -/
structure NearbyEventSearchQuery.InRange (query : NearbyEventSearchQuery) : Prop where
  lat : query.lat.within (fun lat => -90 ≤ lat ∧ lat ≤ 90) = true
  lng : query.lng.within (fun lng => -180 ≤ lng ∧ lng ≤ 180) = true
  radiusKm : query.radiusKm.within (fun km => 0 < km ∧ km ≤ MAX_RADIUS_KM) = true
  limit : query.limit.within
    (fun limit => limit.den = 1 ∧ 1 ≤ limit ∧ limit ≤ MAX_SEARCH_LIMIT) = true

theorem guard_ok {accepted : Bool} {e : ServiceError} {rest : Except ServiceError Unit} :
    (if accepted = false then .error e else rest) = .ok () ↔ accepted = true ∧ rest = .ok () := by
  cases accepted with
  | false => simp
  | true => simp

theorem validateSearchQuery_ok {query : NearbyEventSearchQuery} :
    validateSearchQuery query = .ok () ↔ query.InRange := by
  simp only [validateSearchQuery, guard_ok, and_true]
  constructor
  · rintro ⟨hlat, hlng, hradius, hlimit⟩
    exact ⟨hlat, hlng, hradius, hlimit⟩
  · intro h
    exact ⟨h.lat, h.lng, h.radiusKm, h.limit⟩

section Schema

variable {field : Option QueryValue} {number : JsNumber}

theorem latField_ok :
    latField field = .ok number ↔
      number = coerceNumber field ∧ number.within (fun lat => -90 ≤ lat ∧ lat ≤ 90) = true :=
  numberField_ok fun lat => by simp [runChecks_nil]

theorem lngField_ok :
    lngField field = .ok number ↔
      number = coerceNumber field ∧ number.within (fun lng => -180 ≤ lng ∧ lng ≤ 180) = true :=
  numberField_ok fun lng => by simp [runChecks_nil]

theorem radiusKmField_ok :
    radiusKmField field = .ok number ↔
      number = (field.elim (.finite 10) fun value => coerceNumber (some value)) ∧
        number.within (fun km => 0 < km ∧ km ≤ MAX_RADIUS_KM) = true :=
  withDefault_ok (fun km => by simp [runChecks_nil, MAX_RADIUS_KM]) (by decide +kernel)

/-- The bounds of `limit` imply that it is a safe integer. -/
theorem limitField_checks (limit : ℚ) :
    runChecks "limit" limit [.int, .min 1, .max 100] = [] ↔
      limit.den = 1 ∧ 1 ≤ limit ∧ limit ≤ MAX_SEARCH_LIMIT := by
  have hsafe : 1 ≤ limit → limit ≤ 100 →
      limit ≤ MAX_SAFE_INTEGER ∧ -MAX_SAFE_INTEGER ≤ limit := by
    intro hlow hhigh
    unfold MAX_SAFE_INTEGER
    constructor
    · linarith
    · linarith
  simp only [runChecks_nil, List.forall_mem_cons, issue_int, issue_min, issue_max,
    List.not_mem_nil, false_implies, implies_true, and_true, MAX_SEARCH_LIMIT, Nat.cast_ofNat]
  constructor
  · rintro ⟨⟨hden, -⟩, hlow, hhigh⟩
    exact ⟨hden, hlow, hhigh⟩
  · rintro ⟨hden, hlow, hhigh⟩
    exact ⟨⟨hden, hsafe hlow hhigh⟩, hlow, hhigh⟩

theorem limitField_ok :
    limitField field = .ok number ↔
      number = (field.elim (.finite 20) fun value => coerceNumber (some value)) ∧
        number.within (fun limit => limit.den = 1 ∧ 1 ≤ limit ∧ limit ≤ MAX_SEARCH_LIMIT) =
          true :=
  withDefault_ok limitField_checks (by decide +kernel)

/-- The schema accepts exactly what `validateSearchQuery` does, with the numbers unchanged. -/
theorem geoSearchQuerySchema_ok {request : GeoQuery} {query : NearbyEventSearchQuery} :
    geoSearchQuerySchema request = .ok query ↔ query = request.values ∧ query.InRange := by
  constructor
  · intro h
    unfold geoSearchQuerySchema at h
    split at h
    next lat lng radiusKm limit hlat hlng hradius hlimit =>
      cases h
      obtain ⟨hlat, hlatRange⟩ := latField_ok.mp hlat
      obtain ⟨hlng, hlngRange⟩ := lngField_ok.mp hlng
      obtain ⟨hradius, hradiusRange⟩ := radiusKmField_ok.mp hradius
      obtain ⟨hlimit, hlimitRange⟩ := limitField_ok.mp hlimit
      refine ⟨?_, hlatRange, hlngRange, hradiusRange, hlimitRange⟩
      rw [hlat, hlng, hradius, hlimit]
      rfl
    next => cases h
  · rintro ⟨rfl, hrange⟩
    have hlat := latField_ok.mpr ⟨rfl, hrange.lat⟩
    have hlng := lngField_ok.mpr ⟨rfl, hrange.lng⟩
    have hradius := radiusKmField_ok.mpr ⟨rfl, hrange.radiusKm⟩
    have hlimit := limitField_ok.mpr ⟨rfl, hrange.limit⟩
    simp only [geoSearchQuerySchema, hlat, hlng, hradius, hlimit, GeoQuery.values]

theorem fieldIssues_path {path : String} {checks : List NumberCheck} {issue : ZodIssue}
    (h : issue ∈ fieldIssues (numberField path checks field)) : issue.path = path := by
  cases hfield : numberField path checks field with
  | ok number =>
    rw [hfield] at h
    cases h
  | error issues =>
    rw [hfield] at h
    exact (numberField_issues hfield).2 issue h

theorem withDefault_path {path : String} {checks : List NumberCheck} {default : ℚ}
    {issue : ZodIssue}
    (h : issue ∈ fieldIssues (withDefault default (numberField path checks) field)) :
    issue.path = path := by
  cases field with
  | none => cases h
  | some value => exact fieldIssues_path h

/-- Every issue of a refused request names one of its parameters. -/
theorem geoSearchQuerySchema_issues {request : GeoQuery} {issues : List ZodIssue}
    (h : geoSearchQuerySchema request = .error issues) :
    ∀ issue ∈ issues, issue.path ∈ ["lat", "lng", "radiusKm", "limit"] := by
  unfold geoSearchQuerySchema at h
  split at h
  next => cases h
  next =>
    cases h
    intro issue hissue
    simp only [List.mem_append] at hissue
    obtain ((hlat | hlng) | hradius) | hlimit := hissue
    · simp [fieldIssues_path hlat]
    · simp [fieldIssues_path hlng]
    · simp [withDefault_path hradius]
    · simp [withDefault_path hlimit]

end Schema

/-! ## The domain of GEOSEARCH -/

/-- The latitudes of the index end here. -/
def MAX_LATITUDE : ℚ := 8505112878 / 100000000

structure GeoSearchArgs.InDomain (args : GeoSearchArgs) : Prop where
  longitude : args.longitude.within (fun degrees => -180 ≤ degrees ∧ degrees ≤ 180) = true
  latitude : args.latitude.within
    (fun degrees => -MAX_LATITUDE ≤ degrees ∧ degrees ≤ MAX_LATITUDE) = true
  radiusKm : args.radiusKm.within (fun km => 0 < km) = true
  count : 1 ≤ args.count

theorem inDomain_iff {args : GeoSearchArgs} :
    args.InDomain ↔
      args.longitude.within (fun degrees => -180 ≤ degrees ∧ degrees ≤ 180) = true ∧
        args.latitude.within
          (fun degrees => -MAX_LATITUDE ≤ degrees ∧ degrees ≤ MAX_LATITUDE) = true ∧
        args.radiusKm.within (fun km => 0 < km) = true ∧ 1 ≤ args.count :=
  ⟨fun h => ⟨h.longitude, h.latitude, h.radiusKm, h.count⟩,
    fun h => ⟨h.1, h.2.1, h.2.2.1, h.2.2.2⟩⟩

instance (args : GeoSearchArgs) : Decidable args.InDomain := decidable_of_iff' _ inDomain_iff

/-- Redis answers exactly the commands whose arguments it accepts. -/
def AnswersDomain (geosearch : GeoSearchArgs → Except String RedisReply) : Prop :=
  ∀ args, (∃ reply, geosearch args = .ok reply) ↔ args.InDomain

theorem within_imp {n : JsNumber} {p q : ℚ → Bool} (hpq : ∀ value, p value = true → q value = true)
    (h : n.within p = true) : n.within q = true := by
  cases n with
  | notFinite => cases h
  | finite value => exact hpq value h

/-- Of the arguments of an accepted query only the latitude can be out of the domain. -/
theorem geoSearchArgs_inDomain {query : NearbyEventSearchQuery} (h : query.InRange) :
    (geoSearchArgs query).InDomain ↔
      query.lat.within (fun lat => -MAX_LATITUDE ≤ lat ∧ lat ≤ MAX_LATITUDE) = true := by
  constructor
  · intro hdomain
    exact hdomain.latitude
  · intro hlat
    refine ⟨h.lng, hlat, ?_, ?_⟩
    · refine within_imp (fun km hkm => ?_) h.radiusKm
      rw [decide_eq_true_eq] at hkm ⊢
      exact hkm.1
    · have hlimit : 1 ≤ query.limit.toNat := by
        have hrange := h.limit
        cases hvalue : query.limit with
        | notFinite =>
          rw [hvalue] at hrange
          cases hrange
        | finite value =>
          rw [hvalue, JsNumber.within, decide_eq_true_eq] at hrange
          have hpos : 0 < value.num := Rat.num_pos.mpr (by linarith [hrange.2.1])
          rw [JsNumber.toNat]
          omega
      change 1 ≤ min (query.limit.toNat * 4) MAX_SEARCH_LIMIT
      unfold MAX_SEARCH_LIMIT
      omega

/-! ## How a request ends -/

/-- Every number is in the range of the schema, and the latitude beyond the index. -/
def GeoQuery.BeyondIndex (request : GeoQuery) : Prop :=
  request.values.InRange ∧ request.values.lat.within (fun lat => MAX_LATITUDE < |lat|) = true

section Request

variable {message : ZodIssue → String} {geosearch : GeoSearchArgs → Except String RedisReply}
  {venues : VenueTable} {events : EventTable} {now : Int} {production : Bool}
  {request : GeoQuery}

variable (message geosearch venues events now production request) in
/-- What the schema accepts is accepted all the way down, and the request ends in a 400 or in a
result. -/
structure WellAnswered : Prop where
  validated : ∀ query, geoSearchQuerySchema request = .ok query → validateSearchQuery query = .ok ()
  inDomain : ∀ query, geoSearchQuerySchema request = .ok query → (geoSearchArgs query).InDomain
  answered :
    statusCode production
        (searchEventsByGeo message geosearch (.ok (venues, events)) now request) = 400 ∨
      statusCode production
        (searchEventsByGeo message geosearch (.ok (venues, events)) now request) = 200

theorem beyond_or_inDomain (hrange : request.values.InRange) :
    ¬request.BeyondIndex ↔ (geoSearchArgs request.values).InDomain := by
  rw [geoSearchArgs_inDomain hrange, GeoQuery.BeyondIndex, not_and]
  cases hlat : request.values.lat with
  | notFinite =>
    have hfinite := hrange.lat
    rw [hlat] at hfinite
    cases hfinite
  | finite lat =>
    simp only [JsNumber.within, decide_eq_true_eq, not_lt, abs_le]
    exact ⟨fun h => h hrange, fun h _ => h⟩

theorem accepted_values (h : request.values.InRange) :
    geoSearchQuerySchema request = .ok request.values :=
  geoSearchQuerySchema_ok.mpr ⟨rfl, h⟩

theorem refused_status (h : ¬request.values.InRange) :
    statusCode production
      (searchEventsByGeo message geosearch (.ok (venues, events)) now request) = 400 := by
  cases hschema : geoSearchQuerySchema request with
  | error issues => simp only [searchEventsByGeo, hschema, statusCode, errorHandler]
  | ok query =>
    obtain ⟨rfl, hrange⟩ := geoSearchQuerySchema_ok.mp hschema
    exact absurd hrange h

theorem accepted_status (h : request.values.InRange) {reply : RedisReply}
    (hreply : geosearch (geoSearchArgs request.values) = .ok reply) :
    statusCode production
      (searchEventsByGeo message geosearch (.ok (venues, events)) now request) = 200 := by
  have hsearch : searchNearbyEvents geosearch (.ok (venues, events)) now request.values = .ok _ :=
    search_eq (validateSearchQuery_ok.mpr h) hreply
  simp only [searchEventsByGeo, accepted_values h, hsearch, statusCode]

/-- The request is answered well exactly when its latitude is not beyond the index while all its
numbers are in the range of the schema. -/
theorem geo_request_iff (message : ZodIssue → String) (hredis : AnswersDomain geosearch)
    (venues : VenueTable) (events : EventTable) (now : Int) (production : Bool)
    (request : GeoQuery) :
    WellAnswered message geosearch venues events now production request ↔
      ¬request.BeyondIndex := by
  by_cases hrange : request.values.InRange
  · rw [beyond_or_inDomain hrange]
    constructor
    · intro h
      exact h.inDomain _ (accepted_values hrange)
    · intro hdomain
      obtain ⟨reply, hreply⟩ := (hredis _).mpr hdomain
      refine ⟨?_, ?_, .inr (accepted_status hrange hreply)⟩
      · intro query hquery
        exact validateSearchQuery_ok.mpr (geoSearchQuerySchema_ok.mp hquery).2
      · intro query hquery
        rw [(geoSearchQuerySchema_ok.mp hquery).1]
        exact hdomain
  · have hrefused : ∀ query, geoSearchQuerySchema request ≠ .ok query := by
      intro query hquery
      obtain ⟨rfl, h⟩ := geoSearchQuerySchema_ok.mp hquery
      exact hrange h
    constructor
    · intro _ hbeyond
      exact hrange hbeyond.1
    · intro _
      exact ⟨fun query hquery => absurd hquery (hrefused query),
        fun query hquery => absurd hquery (hrefused query), .inl (refused_status hrange)⟩

end Request

/-- An index that holds one venue, which every accepted command reaches. -/
def harbourSearch (args : GeoSearchArgs) : Except String RedisReply :=
  if args.InDomain then .ok harbourReply else .error "ERR invalid longitude,latitude pair"

theorem harbourSearch_answers : AnswersDomain harbourSearch := by
  intro args
  unfold harbourSearch
  split_ifs with hdomain
  · exact ⟨fun _ => hdomain, fun _ => ⟨_, rfl⟩⟩
  · constructor
    · rintro ⟨reply, hreply⟩
      cases hreply
    · intro h
      exact absurd h hdomain

def harbourRequest : GeoQuery :=
  ⟨some (.text "24"), some (.text "67"), some (.text "500"), none⟩

theorem geo_request_iff_harbour :
    WellAnswered ZodIssue.path harbourSearch harbourVenues harbourEvents 0 true harbourRequest ↔
      ¬harbourRequest.BeyondIndex :=
  geo_request_iff ZodIssue.path harbourSearch_answers harbourVenues harbourEvents 0 true
    harbourRequest

/-- `?lat=86&lng=0` -/
def arcticRequest : GeoQuery := ⟨some (.text "86"), some (.text "0"), none, none⟩

/-- The schema accepts the request, and Redis refuses it: the client receives a 500. -/
theorem geo_request_arctic :
    ¬WellAnswered ZodIssue.path harbourSearch harbourVenues harbourEvents 0 true arcticRequest := by
  intro h
  have hstatus : statusCode true
      (searchEventsByGeo ZodIssue.path harbourSearch (.ok (harbourVenues, harbourEvents)) 0
        arcticRequest) = 500 := by
    decide +kernel
  have hanswered := h.answered
  rw [hstatus] at hanswered
  omega

end TicketEngine
