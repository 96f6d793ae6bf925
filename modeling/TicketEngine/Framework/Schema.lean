import TicketEngine.Framework.Double
import TicketEngine.Framework.Json

namespace TicketEngine

/-- A schema for JSON values. A string passes every check; an object keeps the members of its
shape, in the order of the shape, and drops the others; a union picks its option by the string
under its key. -/
inductive Schema
  | string (checks : List (String → Bool))
  | literal (value : String)
  | number (value : Int)
  | enum (values : List String)
  | object (shape : List (String × Schema))
  | discriminatedUnion (key : String) (options : List (String × Schema))

namespace Schema

/-- `z.string().min(1)`. -/
def nonempty : Schema := .string [fun s => s ≠ ""]

/-- The double that a number of a JSON text is read as. -/
def double (mantissa exponent : Int) : JsNumber := toDouble (mantissa * (10 : ℚ) ^ exponent)

theorem double_odd {n v : Int} (hv : v % 2 = 1) (h : double n 0 = .finite v) : n = v := by
  rw [double, zpow_zero, mul_one] at h
  exact toDouble_odd hv h

mutual

/-- The data of a successful parse; `none` is a failed one. -/
def safeParse : Schema → Json → Option Json
  | .string checks, .str s => if checks.all (· s) then some (.str s) else none
  | .literal value, .str s => if s = value then some (.str s) else none
  | .number value, .num mantissa exponent =>
    if double mantissa exponent = .finite value then some (.num value 0) else none
  | .enum values, .str s => if s ∈ values then some (.str s) else none
  | .object shape, .obj fields => (parseShape shape fields).map .obj
  | .discriminatedUnion key options, .obj fields =>
    match Json.lookup key fields with
    | some (.str tag) => parseOption tag options (.obj fields)
    | _ => none
  | _, _ => none

def parseShape :
    List (String × Schema) → List (String × Json) → Option (List (String × Json))
  | [], _ => some []
  | (key, schema) :: shape, fields =>
    match Json.lookup key fields with
    | none => none
    | some value =>
      match safeParse schema value, parseShape shape fields with
      | some data, some rest => some ((key, data) :: rest)
      | _, _ => none

def parseOption (tag : String) : List (String × Schema) → Json → Option Json
  | [], _ => none
  | (name, schema) :: options, value =>
    if name = tag then safeParse schema value else parseOption tag options value

end

mutual

/-- A value without the members that its schema does not name, a number that is read as the one of
its schema being written like it. -/
def restrict : Schema → Json → Json
  | .number value, .num mantissa exponent =>
    if double mantissa exponent = .finite value then .num value 0 else .num mantissa exponent
  | .object shape, .obj fields => .obj (restrictShape shape fields)
  | .discriminatedUnion key options, .obj fields =>
    match Json.lookup key fields with
    | some (.str tag) => restrictOption tag options (.obj fields)
    | _ => .obj fields
  | _, value => value

def restrictShape : List (String × Schema) → List (String × Json) → List (String × Json)
  | [], _ => []
  | (key, schema) :: shape, fields =>
    match Json.lookup key fields with
    | none => restrictShape shape fields
    | some value => (key, restrict schema value) :: restrictShape shape fields

def restrictOption (tag : String) : List (String × Schema) → Json → Json
  | [], value => value
  | (name, schema) :: options, value =>
    if name = tag then restrict schema value else restrictOption tag options value

end

section Accepted

variable {value data : Json} {fields rest : List (String × Json)}

theorem of_string {checks : List (String → Bool)}
    (h : safeParse (.string checks) value = some data) :
    ∃ s, data = .str s ∧ ∀ check ∈ checks, check s = true := by
  cases value with
  | str s =>
    simp only [safeParse, Option.ite_none_right_eq_some, List.all_eq_true, Option.some.injEq] at h
    exact ⟨s, h.2.symm, h.1⟩
  | _ => cases h

theorem of_literal {name : String} (h : safeParse (.literal name) value = some data) :
    data = .str name := by
  cases value with
  | str s =>
    simp only [safeParse, Option.ite_none_right_eq_some, Option.some.injEq] at h
    rw [← h.2, h.1]
  | _ => cases h

theorem of_number {n : Int} (h : safeParse (.number n) value = some data) : data = .num n 0 := by
  cases value with
  | num mantissa exponent =>
    simp only [safeParse, Option.ite_none_right_eq_some, Option.some.injEq] at h
    exact h.2.symm
  | _ => cases h

theorem of_enum {names : List String} (h : safeParse (.enum names) value = some data) :
    ∃ s ∈ names, data = .str s := by
  cases value with
  | str s =>
    simp only [safeParse, Option.ite_none_right_eq_some, Option.some.injEq] at h
    exact ⟨s, h.1, h.2.symm⟩
  | _ => cases h

theorem of_object {shape : List (String × Schema)}
    (h : safeParse (.object shape) value = some data) :
    ∃ fields kept, parseShape shape fields = some kept ∧ data = .obj kept := by
  cases value with
  | obj fields =>
    obtain ⟨kept, hkept, rfl⟩ := Option.map_eq_some_iff.mp h
    exact ⟨fields, kept, hkept, rfl⟩
  | _ => cases h

theorem of_shape_nil (h : parseShape [] fields = some rest) : rest = [] := by
  cases h
  rfl

/-- The first member of a parsed object. -/
theorem of_shape_cons {key : String} {schema : Schema} {shape : List (String × Schema)}
    (h : parseShape ((key, schema) :: shape) fields = some rest) :
    ∃ value data tail, safeParse schema value = some data ∧ parseShape shape fields = some tail ∧
      rest = (key, data) :: tail := by
  rw [parseShape] at h
  split at h
  next => cases h
  next value _ =>
    split at h
    next data tail hdata htail =>
      cases h
      exact ⟨value, data, tail, hdata, htail, rfl⟩
    next => cases h

/-- The option that parsed a union's value. -/
theorem of_option {tag : String} {options : List (String × Schema)}
    (h : parseOption tag options value = some data) :
    ∃ name schema, (name, schema) ∈ options ∧ safeParse schema value = some data := by
  induction options with
  | nil => cases h
  | cons option options ih =>
    obtain ⟨name, schema⟩ := option
    rw [parseOption] at h
    split_ifs at h with htag
    · exact ⟨name, schema, List.mem_cons_self, h⟩
    · obtain ⟨name', schema', hmem, hparse⟩ := ih h
      exact ⟨name', schema', List.mem_cons_of_mem _ hmem, hparse⟩

theorem of_discriminatedUnion {key : String} {options : List (String × Schema)}
    (h : safeParse (.discriminatedUnion key options) value = some data) :
    ∃ name schema, (name, schema) ∈ options ∧ safeParse schema value = some data := by
  cases value with
  | obj fields =>
    rw [safeParse] at h
    split at h
    next tag _ => exact of_option h
    next => cases h
  | _ => cases h

end Accepted

mutual

/-- A parse returns its value without the unknown members. -/
theorem restrict_eq : ∀ (schema : Schema) (value data : Json),
    safeParse schema value = some data → restrict schema value = data
  | .string _, .str s, data, h => by
    simp only [safeParse, Option.ite_none_right_eq_some, Option.some.injEq] at h
    exact h.2
  | .literal _, .str s, data, h => by
    simp only [safeParse, Option.ite_none_right_eq_some, Option.some.injEq] at h
    exact h.2
  | .number _, .num mantissa exponent, data, h => by
    simp only [safeParse, Option.ite_none_right_eq_some, Option.some.injEq] at h
    rw [restrict, if_pos h.1]
    exact h.2
  | .enum _, .str s, data, h => by
    simp only [safeParse, Option.ite_none_right_eq_some, Option.some.injEq] at h
    exact h.2
  | .object shape, .obj fields, data, h => by
    obtain ⟨kept, hkept, rfl⟩ := Option.map_eq_some_iff.mp h
    rw [restrict, restrictShape_eq shape fields kept hkept]
  | .discriminatedUnion key options, .obj fields, data, h => by
    rw [safeParse] at h
    rw [restrict]
    split at h
    next tag _ => exact restrictOption_eq tag options (.obj fields) data h
    next => cases h

theorem restrictShape_eq :
    ∀ (shape : List (String × Schema)) (fields rest : List (String × Json)),
    parseShape shape fields = some rest → restrictShape shape fields = rest
  | [], _, rest, h => by
    cases h
    rfl
  | (key, schema) :: shape, fields, rest, h => by
    rw [parseShape] at h
    rw [restrictShape]
    split at h
    next => cases h
    next value _ =>
      split at h
      next data tail hdata htail =>
        cases h
        rw [restrict_eq schema value data hdata, restrictShape_eq shape fields tail htail]
      next => cases h

theorem restrictOption_eq (tag : String) :
    ∀ (options : List (String × Schema)) (value data : Json),
    parseOption tag options value = some data → restrictOption tag options value = data
  | [], _, _, h => nomatch h
  | (name, schema) :: options, value, data, h => by
    rw [parseOption] at h
    rw [restrictOption]
    split_ifs at h ⊢ with htag
    · exact restrict_eq schema value data h
    · exact restrictOption_eq tag options value data h

end

end Schema

end TicketEngine
