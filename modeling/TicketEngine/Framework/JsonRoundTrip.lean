import TicketEngine.Framework.Json

namespace TicketEngine.Json

/-! ## Strings -/

theorem joinUnits_small {unit : Nat} (h : unit < 0xD800) (us : List (Char ⊕ Nat)) :
    joinUnits (.inr unit :: us) = Char.ofNat unit :: joinUnits us := by
  have hu : unitChar unit = Char.ofNat unit := by
    rw [unitChar, if_neg]
    omega
  rcases us with _ | ⟨c | lo, us⟩
  · simp only [joinUnits, hu]
  · simp only [joinUnits, hu]
  · have hp : surrogatePair unit lo = none := by
      rw [surrogatePair, if_neg]
      omega
    rw [joinUnits, hp, hu]

theorem hexValue_hexDigit : ∀ n, n < 16 → hexValue (hexDigit n) = some n := by decide

theorem hexUnit_control {n : Nat} (h : n < 32) :
    hexUnit '0' '0' (hexDigit (n / 16)) (hexDigit (n % 16)) = some n := by
  have h1 := hexValue_hexDigit (n / 16) (by omega)
  have h2 := hexValue_hexDigit (n % 16) (by omega)
  have h0 : hexValue '0' = some 0 := by decide
  simp only [hexUnit, h0, h1, h2, Option.bind_eq_bind, Option.bind_some]
  change some _ = some n
  congr 1
  omega

theorem char_eq_ofNat {c : Char} {n : Nat} (h : c.toNat = n) : c = Char.ofNat n := by
  rw [← h, Char.ofNat_toNat]

theorem parseChars_escapeChar (c : Char) (rest : List Char) :
    parseChars (escapeChar c ++ rest) = (parseChars rest).map fun p => (c :: p.1, p.2) := by
  have short (e d : Char) (he : shortEscape e = some d) (hu : e ≠ 'u') :
      parseChars ('\\' :: e :: rest) = (parseChars rest).map fun p => (d :: p.1, p.2) := by
    have hstep : parseUnits ('\\' :: e :: rest) =
        (parseUnits rest).map fun p => (.inl d :: p.1, p.2) := by
      rw [parseUnits]
      · rw [he]; rfl
      · intro a b x y z h
        exact absurd h hu
    rw [parseChars, hstep, parseChars, Option.map_map, Option.map_map]
    rfl
  unfold escapeChar
  split_ifs with h1 h2 h3 h4 h5 h6 h7 h8
  · subst h1; exact short '"' '"' (by decide) (by decide)
  · subst h2; exact short '\\' '\\' (by decide) (by decide)
  · rw [char_eq_ofNat h3]; exact short 'b' _ (by decide) (by decide)
  · rw [char_eq_ofNat h4]; exact short 't' _ (by decide) (by decide)
  · rw [char_eq_ofNat h5]; exact short 'n' _ (by decide) (by decide)
  · rw [char_eq_ofNat h6]; exact short 'f' _ (by decide) (by decide)
  · rw [char_eq_ofNat h7]; exact short 'r' _ (by decide) (by decide)
  · simp only [List.cons_append, List.nil_append, parseChars, parseUnits, hexUnit_control h8,
      Option.bind_some, Option.map_map]
    congr 1
    funext p
    simp only [Function.comp_apply]
    rw [joinUnits_small (by omega), Char.ofNat_toNat]
  · have hstep : parseUnits (c :: rest) =
        (parseUnits rest).map fun p => (.inl c :: p.1, p.2) := by
      rw [parseUnits]
      · rw [if_neg]
        simp [h2, h8]
      · exact h1
      · intro a b x y z h
        exact absurd h h2
      · intro d r h
        exact absurd h h2
    simp only [List.cons_append, List.nil_append]
    rw [parseChars, hstep, parseChars, Option.map_map, Option.map_map]
    rfl

theorem parseChars_escape (cs rest : List Char) :
    parseChars (escape cs ++ '"' :: rest) = some (cs, rest) := by
  induction cs with
  | nil => rfl
  | cons c cs ih => rw [escape, List.append_assoc, parseChars_escapeChar, ih]; rfl

/-! ## Numbers -/

/-- What may follow a number without being read as part of it. -/
def NoDigit (rest : List Char) : Prop := ∀ c cs, rest = c :: cs → c.isDigit = false

theorem spanDigits_append {ds rest : List Char} (hd : ∀ c ∈ ds, c.isDigit = true)
    (hr : NoDigit rest) : spanDigits (ds ++ rest) = (ds, rest) := by
  induction ds with
  | nil =>
    cases rest with
    | nil => rfl
    | cons c cs => simp [spanDigits, hr c cs rfl]
  | cons d ds ih =>
    have htail := ih fun c hc => hd c (List.mem_cons_of_mem d hc)
    simp [spanDigits, hd d List.mem_cons_self, htail]

theorem toDigits_isDigit (n : Nat) : ∀ c ∈ Nat.toDigits 10 n, c.isDigit = true :=
  fun _ hc => Nat.isDigit_of_mem_toDigits (by decide) (by decide) hc

theorem toDigits_leading (n : Nat) {ds : List Char} (h : Nat.toDigits 10 n = '0' :: ds) :
    ds = [] := by
  induction n using Nat.strongRecOn generalizing ds with
  | ind n ih =>
    rw [Nat.toDigits_eq_if (by decide)] at h
    split_ifs at h with hn
    · exact (List.cons.inj h).2.symm
    · cases hq : Nat.toDigits 10 (n / 10) with
      | nil => exact absurd hq Nat.toDigits_ne_nil
      | cons d es =>
        rw [hq, List.cons_append] at h
        obtain ⟨rfl, -⟩ := List.cons.inj h
        have hes := ih (n / 10) (by omega) hq
        have hv := Nat.ofDigitChars_ten_toDigits (n := n / 10)
        rw [hq, hes] at hv
        have hz : Nat.ofDigitChars 10 ['0'] 0 = 0 := by decide
        omega

theorem toDigits_cons (n : Nat) : ∃ d ds, Nat.toDigits 10 n = d :: ds ∧ d.isDigit = true ∧
    (d = '0' → ds = []) := by
  cases h : Nat.toDigits 10 n with
  | nil => exact absurd h Nat.toDigits_ne_nil
  | cons d ds =>
    refine ⟨d, ds, rfl, toDigits_isDigit n d (by simp [h]), fun hd => ?_⟩
    subst hd
    exact toDigits_leading n h

theorem digitsValue_toDigits (n : Nat) : digitsValue (Nat.toDigits 10 n) = n :=
  Nat.ofDigitChars_ten_toDigits

theorem parseNat_toDigits (n : Nat) {rest : List Char} (hr : NoDigit rest) :
    parseNat (Nat.toDigits 10 n ++ rest) = some (n, rest) := by
  have hv := digitsValue_toDigits n
  obtain ⟨d, ds, h, -, -⟩ := toDigits_cons n
  unfold parseNat
  rw [spanDigits_append (toDigits_isDigit n) hr, h]
  rw [h] at hv
  simp only [hv]

theorem parseExponent_renderInt (e : Int) {rest : List Char} (hr : NoDigit rest) :
    parseExponent (renderInt e ++ rest) = some (e, rest) := by
  cases e with
  | negSucc n =>
    simp only [renderInt, List.cons_append, parseExponent, parseNat_toDigits (n + 1) hr,
      Option.map_some, signed, if_true]
    rfl
  | ofNat n =>
    obtain ⟨d, ds, h, hd, -⟩ := toDigits_cons n
    have hp := parseNat_toDigits n hr
    simp only [renderInt]
    rw [h] at hp ⊢
    rw [List.cons_append] at hp ⊢
    rw [parseExponent, hp]
    · rfl
    · intro t ht
      obtain ⟨rfl, -⟩ := List.cons.inj ht
      exact absurd hd (by decide)
    · intro t ht
      obtain ⟨rfl, -⟩ := List.cons.inj ht
      exact absurd hd (by decide)

theorem parseMagnitude_toDigits (negative : Bool) (n : Nat) {rest : List Char}
    (hr : NoDigit rest) (hdot : ∀ cs, rest ≠ '.' :: cs) :
    parseMagnitude negative (Nat.toDigits 10 n ++ rest) =
      parseScale (signed negative n) 0 rest := by
  have hv := digitsValue_toDigits n
  obtain ⟨d, ds, h, -, hz⟩ := toDigits_cons n
  unfold parseMagnitude
  rw [spanDigits_append (toDigits_isDigit n) hr, h]
  rw [h] at hv
  have hlead : ¬(d = '0' ∧ ds ≠ []) := fun hh => hh.2 (hz hh.1)
  simp only [if_neg hlead]
  rw [hv]

theorem parseNumber_renderInt (m : Int) {rest : List Char} (hr : NoDigit rest)
    (hdot : ∀ cs, rest ≠ '.' :: cs) :
    parseNumber (renderInt m ++ rest) = parseScale m 0 rest := by
  cases m with
  | negSucc n =>
    simp only [renderInt, List.cons_append, parseNumber]
    rw [parseMagnitude_toDigits true (n + 1) hr hdot]
    rfl
  | ofNat n =>
    obtain ⟨d, ds, h, hd, -⟩ := toDigits_cons n
    have hp := parseMagnitude_toDigits false n hr hdot
    simp only [renderInt]
    rw [h] at hp ⊢
    rw [List.cons_append] at hp ⊢
    rw [parseNumber, hp]
    · rfl
    · intro t ht
      obtain ⟨rfl, -⟩ := List.cons.inj ht
      exact absurd hd (by decide)

/-- What may follow a value inside a document: the end, or a closing or separating sign. -/
def Closed (rest : List Char) : Prop :=
  rest = [] ∨ ∃ c cs, rest = c :: cs ∧ (c = ',' ∨ c = ']' ∨ c = '}')

theorem Closed.noDigit {rest : List Char} (h : Closed rest) : NoDigit rest := by
  intro c cs heq
  subst heq
  rcases h with h | ⟨d, ds, h, rfl | rfl | rfl⟩
  · cases h
  all_goals
    obtain ⟨rfl, -⟩ := List.cons.inj h
    decide

theorem parseNumber_render (m e : Int) {rest : List Char} (hr : Closed rest) :
    parseNumber (renderNumber m e ++ rest) = some (.num m e, rest) := by
  have hscale : parseScale m 0 rest = some (.num m 0, rest) := by
    rcases hr with rfl | ⟨c, cs, rfl, rfl | rfl | rfl⟩ <;> rfl
  unfold renderNumber
  split_ifs with he
  · subst he
    rw [parseNumber_renderInt m hr.noDigit, hscale]
    intro cs heq
    subst heq
    rcases hr with h | ⟨d, ds, h, rfl | rfl | rfl⟩ <;> cases h
  · rw [List.append_assoc, List.cons_append, parseNumber_renderInt m]
    · simp only [parseScale, true_or, if_true, parseExponent_renderInt e hr.noDigit,
        Option.map_some, Int.zero_add]
    · intro c cs h
      obtain ⟨rfl, -⟩ := List.cons.inj h
      decide
    · intro cs h
      exact absurd (List.cons.inj h).1 (by decide)

/-! ## Documents -/

mutual

/-- Parser fuel that suffices for a rendered value. -/
def cost : Json → Nat
  | .arr elems => 1 + costElems elems
  | .obj fields => 1 + costFields fields
  | _ => 1

def costElems : List Json → Nat
  | [] => 0
  | j :: elems => 1 + cost j + costElems elems

def costFields : List (String × Json) → Nat
  | [] => 0
  | (_, j) :: fields => 1 + cost j + costFields fields

end

theorem renderInt_head (m : Int) :
    ∃ c cs, renderInt m = c :: cs ∧ (c = '-' ∨ c.isDigit = true) := by
  cases m with
  | negSucc n => exact ⟨'-', _, rfl, .inl rfl⟩
  | ofNat n =>
    obtain ⟨d, ds, h, hd, -⟩ := toDigits_cons n
    exact ⟨d, ds, h, .inr hd⟩

theorem renderNumber_head (m e : Int) :
    ∃ c cs, renderNumber m e = c :: cs ∧ (c = '-' ∨ c.isDigit = true) := by
  obtain ⟨c, cs, h, hc⟩ := renderInt_head m
  unfold renderNumber
  split_ifs
  · exact ⟨c, cs, h, hc⟩
  · exact ⟨c, _, by rw [h]; rfl, hc⟩

/-- The first character of a value is neither a space nor a closing sign. -/
def Opens (c : Char) : Prop := isSpace c = false ∧ c ≠ ']' ∧ c ≠ '}'

theorem opens_of_digit {c : Char} (h : c = '-' ∨ c.isDigit = true) : Opens c ∧ c ≠ 'n' ∧ c ≠ 't' ∧
    c ≠ 'f' ∧ c ≠ '"' ∧ c ≠ '[' ∧ c ≠ '{' := by
  rcases h with rfl | h
  · unfold Opens
    decide
  · have hne (d : Char) (hd : d.isDigit = false) : c ≠ d := by
      intro heq
      subst heq
      rw [h] at hd
      cases hd
    have hspace : isSpace c = false := by
      have h1 := hne ' ' (by decide)
      have h9 : c.toNat ≠ 9 := fun e => hne (Char.ofNat 9) (by decide) (char_eq_ofNat e)
      have h10 : c.toNat ≠ 10 := fun e => hne (Char.ofNat 10) (by decide) (char_eq_ofNat e)
      have h13 : c.toNat ≠ 13 := fun e => hne (Char.ofNat 13) (by decide) (char_eq_ofNat e)
      simp [isSpace, h1, h9, h10, h13]
    exact ⟨⟨hspace, hne _ (by decide), hne _ (by decide)⟩, hne _ (by decide), hne _ (by decide),
      hne _ (by decide), hne _ (by decide), hne _ (by decide), hne _ (by decide)⟩

theorem render_head (j : Json) : ∃ c cs, render j = c :: cs ∧ Opens c := by
  cases j with
  | null => exact ⟨_, _, by rw [render], by decide, by decide, by decide⟩
  | bool b => cases b <;> exact ⟨_, _, by rw [render], by decide, by decide, by decide⟩
  | num m e =>
    obtain ⟨c, cs, h, hc⟩ := renderNumber_head m e
    exact ⟨c, cs, by rw [render, h], (opens_of_digit hc).1⟩
  | str s => exact ⟨_, _, by rw [render, renderString], by decide, by decide, by decide⟩
  | arr elems => exact ⟨_, _, by rw [render], by decide, by decide, by decide⟩
  | obj fields => exact ⟨_, _, by rw [render], by decide, by decide, by decide⟩

theorem skipSpace_cons {c : Char} {cs : List Char} (h : isSpace c = false) :
    skipSpace (c :: cs) = c :: cs := by
  rw [skipSpace, h]
  rfl

theorem renderElems_head (j : Json) (elems : List Json) :
    ∃ c cs, renderElems (j :: elems) = c :: cs ∧ Opens c := by
  obtain ⟨c, cs, h, ho⟩ := render_head j
  cases elems with
  | nil => exact ⟨c, cs, by rw [renderElems, h], ho⟩
  | cons k elems => exact ⟨c, _, by rw [renderElems, h]; rfl, ho⟩

theorem renderFields_head (f : String × Json) (fields : List (String × Json)) :
    ∃ cs, renderFields (f :: fields) = '"' :: cs := by
  obtain ⟨key, j⟩ := f
  cases fields with
  | nil => exact ⟨_, by rw [renderFields, renderString]; rfl⟩
  | cons g fields => exact ⟨_, by rw [renderFields, renderString]; rfl⟩

theorem closed_cons {c : Char} {cs : List Char} (h : c = ',' ∨ c = ']' ∨ c = '}') :
    Closed (c :: cs) := .inr ⟨c, cs, rfl, h⟩

/-- One layer of the parser on a list whose first element has begun. -/
theorem parseValue_array {c : Char} {cs : List Char} (ho : Opens c) (fuel : Nat) :
    parseValue (fuel + 1) ('[' :: c :: cs) =
      (parseElems fuel (c :: cs)).map fun p => (.arr p.1, p.2) := by
  rw [parseValue, skipSpace_cons (by decide)]
  simp only [skipSpace_cons ho.1]
  rw [if_neg (by decide), if_neg (by decide), if_neg (by decide), if_neg (by decide),
    if_pos trivial]
  split
  next hc => exact absurd (List.cons.inj hc).1 ho.2.1
  next => rfl

theorem parseValue_object (cs : List Char) (fuel : Nat) :
    parseValue (fuel + 1) ('{' :: '"' :: cs) =
      (parseFields fuel ('"' :: cs)).map fun p => (.obj p.1, p.2) := by
  rw [parseValue, skipSpace_cons (by decide)]
  simp only [skipSpace_cons (c := '"') (by decide)]
  rfl

/-- One layer of the parser on a member whose name is rendered. -/
theorem parseFields_key (key : String) (tail : List Char) (fuel : Nat) :
    parseFields (fuel + 1) ('"' :: (escape key.toList ++ '"' :: ':' :: tail)) =
      (parseValue fuel tail).bind fun p =>
        match skipSpace p.2 with
        | ',' :: rest => (parseFields fuel rest).map fun q => ((key, p.1) :: q.1, q.2)
        | '}' :: rest => some ([(key, p.1)], rest)
        | _ => none := by
  have hcolon : skipSpace (':' :: tail) = ':' :: tail := skipSpace_cons (by decide)
  rw [parseFields, skipSpace_cons (by decide)]
  change (parseChars (escape key.toList ++ '"' :: ':' :: tail)).bind _ = _
  rw [parseChars_escape, Option.bind_some]
  simp only
  rw [hcolon]
  change (parseValue fuel tail).bind _ = _
  have hkey : String.ofList key.toList = key := String.ofList_toList
  generalize String.ofList key.toList = read at hkey
  subst hkey
  rfl

/-! A rendered value is read back, and what follows it is left over. Each case unfolds one layer
of the parser and hands the rest to the parts. -/

mutual

theorem parseValue_render (j : Json) (fuel : Nat) (rest : List Char) (hf : cost j ≤ fuel)
    (hr : Closed rest) : parseValue fuel (render j ++ rest) = some (j, rest) := by
  match fuel with
  | 0 => cases j <;> simp only [cost] at hf <;> omega
  | fuel + 1 =>
    match j with
    | .null => rw [render]; rfl
    | .bool true => rw [render]; rfl
    | .bool false => rw [render]; rfl
    | .num m e =>
      obtain ⟨c, cs, h, hc⟩ := renderNumber_head m e
      obtain ⟨ho, hn, ht, hff, hq, hb, hbr⟩ := opens_of_digit hc
      have hp := parseNumber_render m e hr
      rw [render]
      rw [h, List.cons_append] at hp ⊢
      rw [parseValue, skipSpace_cons ho.1]
      simp only [hn, ht, hff, hq, hb, hbr, if_false]
      exact hp
    | .str s =>
      rw [render, renderString, List.cons_append, List.append_assoc, parseValue,
        skipSpace_cons (by decide)]
      simp only [List.cons_append, List.nil_append, parseChars_escape, Option.map_some,
        String.ofList_toList]
      rfl
    | .arr [] => rw [render, renderElems]; rfl
    | .arr (k :: elems) =>
      simp only [cost] at hf
      have ih := parseElems_render k elems fuel rest (by omega)
      obtain ⟨c, cs, h, ho⟩ := renderElems_head k elems
      rw [render, List.cons_append, List.append_assoc, List.singleton_append]
      rw [h, List.cons_append] at ih ⊢
      rw [parseValue_array ho, ih]
      rfl
    | .obj [] => rw [render, renderFields]; rfl
    | .obj (f :: fields) =>
      simp only [cost] at hf
      have ih := parseFields_render f fields fuel rest (by omega)
      obtain ⟨cs, h⟩ := renderFields_head f fields
      rw [render, List.cons_append, List.append_assoc, List.singleton_append]
      rw [h, List.cons_append] at ih ⊢
      rw [parseValue_object, ih]
      rfl
termination_by fuel

theorem parseElems_render (j : Json) (elems : List Json) (fuel : Nat) (rest : List Char)
    (hf : costElems (j :: elems) ≤ fuel) :
    parseElems fuel (renderElems (j :: elems) ++ ']' :: rest) = some (j :: elems, rest) := by
  match fuel with
  | 0 => simp only [costElems] at hf; omega
  | fuel + 1 =>
    simp only [costElems] at hf
    match elems with
    | [] =>
      have ih := parseValue_render j fuel (']' :: rest) (by omega) (closed_cons (by simp))
      rw [renderElems, parseElems, ih]
      rfl
    | k :: elems =>
      have ih := parseValue_render j fuel (',' :: (renderElems (k :: elems) ++ ']' :: rest))
        (by omega) (closed_cons (by simp))
      have iht := parseElems_render k elems fuel rest (by omega)
      rw [renderElems, List.append_assoc, List.cons_append, parseElems, ih]
      simp only [Option.bind_some, skipSpace_cons (c := ',') (by decide), iht, Option.map_some]
termination_by fuel

theorem parseFields_render (f : String × Json) (fields : List (String × Json)) (fuel : Nat)
    (rest : List Char) (hf : costFields (f :: fields) ≤ fuel) :
    parseFields fuel (renderFields (f :: fields) ++ '}' :: rest) = some (f :: fields, rest) := by
  match fuel with
  | 0 => simp only [costFields] at hf; omega
  | fuel + 1 =>
    obtain ⟨key, j⟩ := f
    simp only [costFields] at hf
    match fields with
    | [] =>
      have ih := parseValue_render j fuel ('}' :: rest) (by omega) (closed_cons (by simp))
      rw [renderFields, renderString]
      simp only [List.cons_append, List.append_assoc, List.nil_append]
      rw [parseFields_key, ih]
      simp only [Option.bind_some, skipSpace_cons (c := '}') (by decide)]
    | g :: fields =>
      have ih := parseValue_render j fuel (',' :: (renderFields (g :: fields) ++ '}' :: rest))
        (by omega) (closed_cons (by simp))
      have iht := parseFields_render g fields fuel rest (by omega)
      rw [renderFields, renderString]
      simp only [List.cons_append, List.append_assoc, List.nil_append]
      rw [parseFields_key, ih]
      simp only [Option.bind_some, skipSpace_cons (c := ',') (by decide), iht, Option.map_some]
termination_by fuel

end

mutual

theorem cost_le_length (j : Json) : cost j ≤ (render j).length := by
  match j with
  | .null => decide
  | .bool true => decide
  | .bool false => decide
  | .num m e =>
    obtain ⟨c, cs, h, -⟩ := renderNumber_head m e
    simp only [render, h, cost, List.length_cons]
    omega
  | .str s =>
    simp only [render, renderString, cost, List.length_cons]
    omega
  | .arr elems =>
    have h := costElems_le_length elems
    rw [render, cost, List.length_cons, List.length_append, List.length_singleton]
    omega
  | .obj fields =>
    have h := costFields_le_length fields
    rw [render, cost, List.length_cons, List.length_append, List.length_singleton]
    omega

theorem costElems_le_length (elems : List Json) :
    costElems elems ≤ (renderElems elems).length + 1 := by
  match elems with
  | [] => rw [costElems]; omega
  | [j] =>
    have h := cost_le_length j
    rw [renderElems, costElems, costElems]
    omega
  | j :: k :: elems =>
    have h := cost_le_length j
    have ht := costElems_le_length (k :: elems)
    rw [renderElems, costElems, List.length_append, List.length_cons]
    omega

theorem costFields_le_length (fields : List (String × Json)) :
    costFields fields ≤ (renderFields fields).length + 1 := by
  match fields with
  | [] => rw [costFields]; omega
  | [(key, j)] =>
    have h := cost_le_length j
    rw [renderFields, costFields, costFields, List.length_append, List.length_cons]
    omega
  | (key, j) :: g :: fields =>
    have h := cost_le_length j
    have ht := costFields_le_length (g :: fields)
    rw [renderFields, costFields]
    simp only [List.length_append, List.length_cons]
    omega

end

/-- `JSON.parse` reads back what `JSON.stringify` wrote. -/
theorem parse_stringify (j : Json) : parse (stringify j) = some j := by
  have hf : cost j ≤ (render j).length + 1 := Nat.le_succ_of_le (cost_le_length j)
  have h := parseValue_render j ((render j).length + 1) [] hf (.inl rfl)
  rw [List.append_nil] at h
  rw [parse, stringify, String.toList_ofList, h]
  rfl

end TicketEngine.Json
