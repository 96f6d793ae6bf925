import TicketEngine.Framework.UrlParser
import Mathlib.Data.List.DropRight

namespace TicketEngine

/-! ## Which inputs the URL parser accepts -/

namespace Url

def authorityText (special : Bool) (cs : List Char) : List Char :=
  cs.takeWhile fun c => !terminates special c

/-- The part of an authority after its last `@`. -/
def hostAndPort (authority : List Char) : List Char := authority.rtakeWhile fun c => c ≠ '@'

/-- A host, and the port after the first colon outside brackets. -/
def splitPort : Bool → List Char → List Char × Option (List Char)
  | _, [] => ([], none)
  | inside, c :: cs =>
    if c = ':' ∧ inside = false then ([], some cs)
    else (c :: (splitPort (bracket inside c) cs).1, (splitPort (bracket inside c) cs).2)

def portAccepted (port : List Char) : Bool := port.all isDigit && Json.digitsValue port ≤ 65535

section Grammar

variable (unicodeToASCII : List UInt8 → Option (List Char))

/-- A host with its port. Only a URL that is not special can do without a host, and only when it
has no port. -/
structure ValidHost (special : Bool) (parts : List Char × Option (List Char)) : Prop where
  named : special = true ∨ parts.2.isSome = true → parts.1 ≠ []
  host : hostAccepted unicodeToASCII special parts.1 = true
  port : ∀ port, parts.2 = some port → portAccepted port = true

/-- Credentials have to be followed by a host. -/
structure ValidAuthority (special : Bool) (authority : List Char) : Prop where
  credentials : '@' ∈ authority → hostAndPort authority ≠ []
  host : ValidHost unicodeToASCII special (splitPort false (hostAndPort authority))

/-- What a reference names as its host. -/
inductive HostReference
  | none
  | authority (special : Bool) (text : List Char)
  | file (host : List Char)

def HostReference.Valid : HostReference → Prop
  | .none => True
  | .authority special text => ValidAuthority unicodeToASCII special text
  | .file host =>
    windowsDriveLetter host = true ∨ host = [] ∨ hostAccepted unicodeToASCII true host = true

end Grammar

/-- The scheme of an absolute reference, and what follows its colon. -/
def schemeOf (cs : List Char) : Option (List Char × List Char) :=
  if (cs.head?.any Char.isAlpha) = true then
    match cs.dropWhile isSchemeChar with
    | ':' :: rest => some (lowercase (cs.takeWhile isSchemeChar), rest)
    | _ => none
  else none

/-- Two slashes of either kind begin an authority. -/
def afterSlashes : List Char → Option (List Char)
  | c :: d :: cs => if isSlash c ∧ isSlash d then some cs else none
  | _ => none

def relativeHost (cs : List Char) : HostReference :=
  match afterSlashes cs with
  | none => .none
  | some rest => .authority true (authorityText true (rest.dropWhile isSlash))

/-- The host that a reference with this scheme names. -/
def schemeHost (base : Base) (scheme rest : List Char) : HostReference :=
  if scheme = fileScheme then
    match afterSlashes rest with
    | none => .none
    | some host => .file (authorityText true host)
  else if isSpecial scheme then
    if scheme = base.scheme then relativeHost rest
    else .authority true (authorityText true (rest.dropWhile isSlash))
  else
    match rest with
    | '/' :: '/' :: authority => .authority false (authorityText false authority)
    | _ => .none

def hostReference (base : Base) (cs : List Char) : HostReference :=
  match schemeOf cs with
  | none => relativeHost cs
  | some (scheme, rest) => schemeHost base scheme rest

section States

variable {unicodeToASCII : List UInt8 → Option (List Char)} {base : Base} {scheme : List Char}
  {special : Bool} {c : Char} {cs : List Char}

theorem authorityText_cons (h : terminates special c = false) :
    authorityText special (c :: cs) = c :: authorityText special cs := by
  simp [authorityText, h]

theorem authorityText_end (h : terminates special c = true) :
    authorityText special (c :: cs) = [] := by
  simp [authorityText, h]

theorem terminates_cases (h : terminates special c = true) :
    c = '/' ∨ c = '?' ∨ c = '#' ∨ c = '\\' := by
  simp only [terminates, Bool.or_eq_true, Bool.and_eq_true, decide_eq_true_eq] at h
  tauto

theorem digit_continues (h : isDigit c = true) : terminates special c = false := by
  by_contra hne
  rcases terminates_cases (Bool.of_not_eq_false hne) with rfl | rfl | rfl | rfl
  · exact absurd h (by decide)
  · exact absurd h (by decide)
  · exact absurd h (by decide)
  · exact absurd h (by decide)

theorem colon_continues (special : Bool) : terminates special ':' = false := by
  cases special with
  | true => rfl
  | false => rfl

theorem at_continues (special : Bool) : terminates special '@' = false := by
  cases special with
  | true => rfl
  | false => rfl

theorem portState_iff (buffer : List Char) :
    (portState scheme buffer cs).isSome = true ↔
      (authorityText (isSpecial scheme) cs).all isDigit = true ∧
        Json.digitsValue (buffer ++ authorityText (isSpecial scheme) cs) ≤ 65535 := by
  induction cs generalizing buffer with
  | nil =>
    rw [portState]
    simp [authorityText]
  | cons c cs ih =>
    rw [portState]
    split_ifs with hdigit hend hport
    · rw [ih, authorityText_cons (digit_continues hdigit)]
      simp [hdigit]
    · simp [authorityText_end hend, hport]
    · simp [authorityText_end hend, hport]
    · rw [authorityText_cons (Bool.of_not_eq_true hend)]
      simp [hdigit]

theorem validHost_single {host : List Char} :
    ValidHost unicodeToASCII special (host, none) ↔
      (special = true → host ≠ []) ∧ hostAccepted unicodeToASCII special host = true := by
  constructor
  · intro h
    exact ⟨fun hspecial => h.named (.inl hspecial), h.host⟩
  · rintro ⟨hnamed, hhost⟩
    exact ⟨fun h => hnamed (by simpa using h), hhost, fun port hport => nomatch hport⟩

theorem endHost_iff (buffer rest : List Char) :
    (endHost unicodeToASCII scheme buffer rest).isSome = true ↔
      ValidHost unicodeToASCII (isSpecial scheme) (buffer, none) := by
  rw [validHost_single, endHost]
  split_ifs with hempty hhost
  · simp [hempty]
  · simp only [Option.isSome_some, hhost, and_true, true_iff]
    intro hspecial hbuffer
    exact hempty ⟨hspecial, hbuffer⟩
  · simp [hhost]

theorem splitPort_colon (cs : List Char) : splitPort false (':' :: cs) = ([], some cs) := by
  rw [splitPort, if_pos ⟨rfl, rfl⟩]

theorem splitPort_cons {inside : Bool} (h : ¬(c = ':' ∧ inside = false)) :
    splitPort inside (c :: cs) =
      (c :: (splitPort (bracket inside c) cs).1, (splitPort (bracket inside c) cs).2) := by
  rw [splitPort, if_neg h]

theorem hostState_iff (inside : Bool) (buffer : List Char) :
    (hostState unicodeToASCII scheme inside buffer cs).isSome = true ↔
      ValidHost unicodeToASCII (isSpecial scheme)
        (buffer ++ (splitPort inside (authorityText (isSpecial scheme) cs)).1,
          (splitPort inside (authorityText (isSpecial scheme) cs)).2) := by
  induction cs generalizing inside buffer with
  | nil =>
    rw [hostState, endHost_iff]
    simp [authorityText, splitPort]
  | cons c cs ih =>
    rw [hostState]
    by_cases hcolon : c = ':' ∧ inside = false
    · obtain ⟨rfl, rfl⟩ := hcolon
      rw [authorityText_cons (colon_continues _), splitPort_colon, if_pos ⟨rfl, rfl⟩,
        List.append_nil]
      split_ifs with hempty hhost
      · constructor
        · intro h
          cases h
        · intro h
          exact absurd hempty (h.named (.inr rfl))
      · rw [portState_iff, List.nil_append]
        constructor
        · rintro ⟨hdigits, hvalue⟩
          refine ⟨fun _ => hempty, hhost, fun port hport => ?_⟩
          cases hport
          simp [portAccepted, hdigits, hvalue]
        · intro h
          simpa [portAccepted] using h.port _ rfl
      · constructor
        · intro h
          cases h
        · intro h
          exact absurd h.host hhost
    · rw [if_neg hcolon]
      split_ifs with hend
      · rw [endHost_iff, authorityText_end hend, splitPort, List.append_nil]
      · rw [ih, authorityText_cons (Bool.of_not_eq_true hend), splitPort_cons hcolon]
        simp only [List.append_assoc, List.singleton_append]

theorem hostAndPort_at (before after : List Char) :
    hostAndPort (before ++ '@' :: after) = hostAndPort after := by
  unfold hostAndPort List.rtakeWhile
  rw [List.reverse_append, List.reverse_cons, List.append_assoc, List.takeWhile_append]
  split_ifs with hall
  · rw [List.singleton_append, List.takeWhile_cons_of_neg (by simp), List.append_nil,
      (List.takeWhile_prefix _).eq_of_length hall]
  · rfl

theorem hostAndPort_self {text : List Char} (h : ∀ c ∈ text, c ≠ '@') :
    hostAndPort text = text :=
  List.rtakeWhile_eq_self_iff.mpr fun c hc => decide_eq_true (h c hc)

theorem authorityText_append {buffer : List Char} (h : ∀ c ∈ buffer, terminates special c = false) :
    authorityText special (buffer ++ cs) = buffer ++ authorityText special cs := by
  unfold authorityText
  exact List.takeWhile_append_of_pos fun c hc => by simp [h c hc]

theorem endAuthority_iff {atSignSeen : Bool} {buffer rest : List Char}
    (hplain : ∀ c ∈ buffer, terminates (isSpecial scheme) c = false)
    (hrest : authorityText (isSpecial scheme) rest = []) :
    (endAuthority unicodeToASCII scheme atSignSeen buffer rest).isSome = true ↔
      (atSignSeen = true → buffer ≠ []) ∧
        ValidHost unicodeToASCII (isSpecial scheme) (splitPort false buffer) := by
  unfold endAuthority
  split_ifs with hempty
  · simp [hempty]
  · rw [hostState_iff, authorityText_append hplain, hrest, List.append_nil, List.nil_append]
    simp only [not_and] at hempty
    exact (and_iff_right hempty).symm

theorem no_plain : ∀ c ∈ ([] : List Char), c ≠ '@' ∧ terminates special c = false :=
  fun _ hc => absurd hc List.not_mem_nil

theorem authorityState_iff (atSignSeen : Bool) {buffer : List Char}
    (hplain : ∀ c ∈ buffer, c ≠ '@' ∧ terminates (isSpecial scheme) c = false) :
    (authorityState unicodeToASCII scheme atSignSeen buffer cs).isSome = true ↔
      ((atSignSeen = true ∨ '@' ∈ authorityText (isSpecial scheme) cs) →
          hostAndPort (buffer ++ authorityText (isSpecial scheme) cs) ≠ []) ∧
        ValidHost unicodeToASCII (isSpecial scheme)
          (splitPort false (hostAndPort (buffer ++ authorityText (isSpecial scheme) cs))) := by
  induction cs generalizing atSignSeen buffer with
  | nil =>
    have hself : hostAndPort buffer = buffer := hostAndPort_self fun c hc => (hplain c hc).1
    rw [authorityState, endAuthority_iff (fun c hc => (hplain c hc).2) rfl]
    simp [authorityText, hself]
  | cons c cs ih =>
    rw [authorityState]
    split_ifs with hat hend
    · subst hat
      rw [ih true no_plain, authorityText_cons (at_continues _), hostAndPort_at, List.nil_append]
      simp
    · have hself : hostAndPort buffer = buffer := hostAndPort_self fun c hc => (hplain c hc).1
      rw [endAuthority_iff (fun c hc => (hplain c hc).2) (authorityText_end hend),
        authorityText_end hend, List.append_nil, hself]
      simp
    · have hcontinues := Bool.of_not_eq_true hend
      have hplain' : ∀ d ∈ buffer ++ [c], d ≠ '@' ∧ terminates (isSpecial scheme) d = false := by
        intro d hd
        rcases List.mem_append.mp hd with hbuffer | hlast
        · exact hplain d hbuffer
        · obtain rfl := List.mem_singleton.mp hlast
          exact ⟨hat, hcontinues⟩
      rw [ih atSignSeen hplain', authorityText_cons hcontinues, List.append_assoc,
        List.singleton_append]
      simp [Ne.symm hat]

theorem authority_iff :
    (authorityState unicodeToASCII scheme false [] cs).isSome = true ↔
      ValidAuthority unicodeToASCII (isSpecial scheme) (authorityText (isSpecial scheme) cs) := by
  rw [authorityState_iff false no_plain, List.nil_append]
  constructor
  · rintro ⟨hcredentials, hhost⟩
    exact ⟨fun hat => hcredentials (.inr hat), hhost⟩
  · intro h
    exact ⟨fun hat => h.credentials (by simpa using hat), h.host⟩

theorem ignoreSlashes_iff :
    (ignoreSlashesState unicodeToASCII scheme cs).isSome = true ↔
      ValidAuthority unicodeToASCII (isSpecial scheme)
        (authorityText (isSpecial scheme) (cs.dropWhile isSlash)) := by
  induction cs with
  | nil => exact authority_iff
  | cons c cs ih =>
    rw [ignoreSlashesState]
    split_ifs with hslash
    · rw [ih, List.dropWhile_cons_of_pos hslash]
    · rw [authority_iff, List.dropWhile_cons_of_neg hslash]

theorem endFileHost_iff (buffer rest : List Char) :
    (endFileHost unicodeToASCII buffer rest).isSome = true ↔
      (HostReference.file buffer).Valid unicodeToASCII := by
  rw [HostReference.Valid, endFileHost]
  split_ifs with hdrive hempty hhost
  · simp [hdrive]
  · simp [hempty]
  · simp [hhost]
  · simp [hdrive, hempty, hhost]

theorem fileHostState_iff (buffer : List Char) :
    (fileHostState unicodeToASCII buffer cs).isSome = true ↔
      (HostReference.file (buffer ++ authorityText true cs)).Valid unicodeToASCII := by
  induction cs generalizing buffer with
  | nil =>
    rw [fileHostState, endFileHost_iff]
    simp [authorityText]
  | cons c cs ih =>
    rw [fileHostState]
    split_ifs with hend
    · rw [endFileHost_iff, authorityText_end hend, List.append_nil]
    · rw [ih, authorityText_cons (Bool.of_not_eq_true hend), List.append_assoc,
        List.singleton_append]

/-- Two slashes, one, or none. -/
theorem afterSlashes_cases (cs : List Char) :
    (∃ c d rest, cs = c :: d :: rest ∧ isSlash c = true ∧ isSlash d = true ∧
        afterSlashes cs = some rest) ∨
      (∃ c rest, cs = c :: rest ∧ isSlash c = true ∧ (∀ d ∈ rest.head?, isSlash d = false) ∧
        afterSlashes cs = none) ∨
      (∀ c ∈ cs.head?, isSlash c = false) ∧ afterSlashes cs = none := by
  cases cs with
  | nil => exact .inr (.inr ⟨by simp, rfl⟩)
  | cons c cs =>
    by_cases hc : isSlash c = true
    · cases cs with
      | nil => exact .inr (.inl ⟨c, [], rfl, hc, by simp, rfl⟩)
      | cons d cs =>
        by_cases hd : isSlash d = true
        · exact .inl ⟨c, d, cs, rfl, hc, hd, if_pos ⟨hc, hd⟩⟩
        · refine .inr (.inl ⟨c, d :: cs, rfl, hc, by simpa using hd, ?_⟩)
          exact if_neg fun h => hd h.2
    · refine .inr (.inr ⟨by simpa using hc, ?_⟩)
      cases cs with
      | nil => rfl
      | cons d cs => exact if_neg fun h => hc h.1

theorem fileHost_iff :
    (fileState unicodeToASCII cs).isSome = true ↔
      (match afterSlashes cs with
        | none => HostReference.none
        | some host => .file (authorityText true host)).Valid unicodeToASCII := by
  rcases afterSlashes_cases cs with
    ⟨c, d, rest, rfl, hc, hd, hafter⟩ | ⟨c, rest, rfl, hc, hrest, hafter⟩ | ⟨hfirst, hafter⟩
  · rw [hafter, fileState, if_pos hc, fileSlashState, if_pos hd]
    exact fileHostState_iff []
  · rw [hafter, fileState, if_pos hc]
    cases rest with
    | nil => simp [fileSlashState, HostReference.Valid]
    | cons d rest =>
      have hd : isSlash d = false := hrest d rfl
      simp [fileSlashState, hd, HostReference.Valid]
  · rw [hafter]
    cases cs with
    | nil => simp [fileState, HostReference.Valid]
    | cons c cs =>
      have hc : isSlash c = false := hfirst c rfl
      simp [fileState, hc, HostReference.Valid]

theorem relativeState_iff :
    (relativeState unicodeToASCII base cs).isSome = true ↔
      (relativeHost cs).Valid unicodeToASCII := by
  unfold relativeHost
  rcases afterSlashes_cases cs with
    ⟨c, d, rest, rfl, hc, hd, hafter⟩ | ⟨c, rest, rfl, hc, hrest, hafter⟩ | ⟨hfirst, hafter⟩
  · rw [hafter, relativeState, if_pos hc, relativeSlashState, if_pos hd, ignoreSlashes_iff,
      base.special]
    rfl
  · rw [hafter, relativeState, if_pos hc]
    cases rest with
    | nil => simp [relativeSlashState, HostReference.Valid]
    | cons d rest =>
      have hd : isSlash d = false := hrest d rfl
      simp [relativeSlashState, hd, HostReference.Valid]
  · rw [hafter]
    cases cs with
    | nil => simp [relativeState, HostReference.Valid]
    | cons c cs =>
      have hc : isSlash c = false := hfirst c rfl
      rw [relativeState, if_neg (by simp [hc])]
      split_ifs
      · simp [HostReference.Valid]
      · simp [HostReference.Valid]

/-- After the scheme of the base, two forward slashes are read as any two slashes are. -/
theorem specialRelativeState_eq :
    specialRelativeState unicodeToASCII base cs = relativeState unicodeToASCII base cs := by
  unfold specialRelativeState
  split
  · rfl
  · rfl

theorem specialAuthoritySlashesState_eq :
    specialAuthoritySlashesState unicodeToASCII scheme cs =
      ignoreSlashesState unicodeToASCII scheme cs := by
  unfold specialAuthoritySlashesState
  split
  · rfl
  · rfl

theorem afterScheme_iff :
    (afterScheme unicodeToASCII base scheme cs).isSome = true ↔
      (schemeHost base scheme cs).Valid unicodeToASCII := by
  unfold afterScheme schemeHost
  split_ifs with hfile hspecial hbase
  · exact fileHost_iff
  · rw [specialRelativeState_eq]
    exact relativeState_iff
  · rw [specialAuthoritySlashesState_eq, ignoreSlashes_iff, hspecial]
    rfl
  · have hplain : isSpecial scheme = false := Bool.of_not_eq_true hspecial
    split
    next rest =>
      unfold pathOrAuthorityState
      split
      next authority =>
        rw [authority_iff, hplain]
        rfl
      next hne =>
        split
        next authority heq =>
          cases heq
          exact absurd rfl (hne authority)
        next => simp [HostReference.Valid]
    next hne =>
      split
      next authority => exact absurd rfl (hne _)
      next => simp [HostReference.Valid]

theorem alpha_schemeChar (h : c.isAlpha = true) : isSchemeChar c = true := by
  simp [isSchemeChar, Char.isAlphanum, h]

/-- The scheme state reads up to a colon, or begins anew. -/
theorem schemeState_iff (input buffer : List Char) :
    (schemeState unicodeToASCII base input buffer cs).isSome = true ↔
      (match cs.dropWhile isSchemeChar with
        | ':' :: rest => schemeHost base (buffer ++ lowercase (cs.takeWhile isSchemeChar)) rest
        | _ => relativeHost input).Valid unicodeToASCII := by
  induction cs generalizing buffer with
  | nil => exact relativeState_iff
  | cons c cs ih =>
    rw [schemeState]
    split_ifs with hscheme hcolon
    · rw [ih, List.dropWhile_cons_of_pos hscheme, List.takeWhile_cons_of_pos hscheme]
      simp [lowercase]
    · rw [afterScheme_iff, List.dropWhile_cons_of_neg hscheme, List.takeWhile_cons_of_neg hscheme,
        hcolon]
      simp [lowercase]
    · rw [relativeState_iff, List.dropWhile_cons_of_neg hscheme]
      split
      next rest heq =>
        cases heq
        exact absurd rfl hcolon
      next => rfl

theorem schemeStartState_iff :
    (schemeStartState unicodeToASCII base cs).isSome = true ↔
      (hostReference base cs).Valid unicodeToASCII := by
  unfold hostReference schemeOf
  cases cs with
  | nil =>
    rw [schemeStartState, relativeState_iff]
    rfl
  | cons c cs =>
    rw [schemeStartState]
    by_cases halpha : c.isAlpha = true
    · rw [if_pos halpha, if_pos (by simpa using halpha), schemeState_iff,
        List.dropWhile_cons_of_pos (alpha_schemeChar halpha),
        List.takeWhile_cons_of_pos (alpha_schemeChar halpha)]
      cases cs.dropWhile isSchemeChar with
      | nil => rfl
      | cons d rest =>
        by_cases hcolon : d = ':'
        · subst hcolon
          rfl
        · simp [hcolon]
    · rw [if_neg halpha, if_neg (by simpa using halpha)]
      exact relativeState_iff

variable (unicodeToASCII base) in
/-- `new URL(input, base)` throws exactly when the input names a host that is not valid. -/
theorem parse_iff (input : String) :
    (parse unicodeToASCII base input).isSome = true ↔
      (hostReference base (cleaned input.toList)).Valid unicodeToASCII :=
  schemeStartState_iff

end States

end Url

end TicketEngine
