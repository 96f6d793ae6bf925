import Mathlib.Data.List.Basic
import Mathlib.Tactic.Common

namespace TicketEngine

/-- A JSON value. A number is `mantissa * 10 ^ exponent`; an object keeps its members in text
order. -/
inductive Json
  | null
  | bool (b : Bool)
  | num (mantissa exponent : Int)
  | str (s : String)
  | arr (elems : List Json)
  | obj (fields : List (String × Json))

namespace Json

def lookup (key : String) : List (String × Json) → Option Json
  | [] => none
  | (k, v) :: fields =>
    match lookup key fields with
    | some w => some w
    | none => if k = key then some v else none

/-- Property access: the last member of that name, as `JSON.parse` keeps it. -/
def get? (j : Json) (key : String) : Option Json :=
  match j with
  | .obj fields => lookup key fields
  | _ => none

def string? : Option Json → Option String
  | some (.str s) => some s
  | _ => none

/-! ## Text -/

def hexDigit (n : Nat) : Char := Nat.digitChar n

def escapeChar (c : Char) : List Char :=
  if c = '"' then ['\\', '"']
  else if c = '\\' then ['\\', '\\']
  else if c.toNat = 8 then ['\\', 'b']
  else if c.toNat = 9 then ['\\', 't']
  else if c.toNat = 10 then ['\\', 'n']
  else if c.toNat = 12 then ['\\', 'f']
  else if c.toNat = 13 then ['\\', 'r']
  else if c.toNat < 32 then
    ['\\', 'u', '0', '0', hexDigit (c.toNat / 16), hexDigit (c.toNat % 16)]
  else [c]

def escape : List Char → List Char
  | [] => []
  | c :: cs => escapeChar c ++ escape cs

def renderString (s : String) : List Char := '"' :: (escape s.toList ++ ['"'])

def renderInt : Int → List Char
  | .ofNat n => Nat.toDigits 10 n
  | .negSucc n => '-' :: Nat.toDigits 10 (n + 1)

def renderNumber (mantissa exponent : Int) : List Char :=
  if exponent = 0 then renderInt mantissa else renderInt mantissa ++ 'e' :: renderInt exponent

mutual

def render : Json → List Char
  | .null => ['n', 'u', 'l', 'l']
  | .bool true => ['t', 'r', 'u', 'e']
  | .bool false => ['f', 'a', 'l', 's', 'e']
  | .num m e => renderNumber m e
  | .str s => renderString s
  | .arr elems => '[' :: (renderElems elems ++ [']'])
  | .obj fields => '{' :: (renderFields fields ++ ['}'])

def renderElems : List Json → List Char
  | [] => []
  | [j] => render j
  | j :: k :: elems => render j ++ ',' :: renderElems (k :: elems)

def renderFields : List (String × Json) → List Char
  | [] => []
  | [(key, j)] => renderString key ++ ':' :: render j
  | (key, j) :: f :: fields =>
    renderString key ++ ':' :: (render j ++ ',' :: renderFields (f :: fields))

end

def stringify (j : Json) : String := String.ofList (render j)

/-! ## Parsing -/

def isSpace (c : Char) : Bool := c = ' ' || c.toNat = 9 || c.toNat = 10 || c.toNat = 13

def skipSpace : List Char → List Char
  | [] => []
  | c :: cs => if isSpace c then skipSpace cs else c :: cs

def hexValue (c : Char) : Option Nat :=
  if '0' ≤ c ∧ c ≤ '9' then some (c.toNat - 48)
  else if 'a' ≤ c ∧ c ≤ 'f' then some (c.toNat - 87)
  else if 'A' ≤ c ∧ c ≤ 'F' then some (c.toNat - 55)
  else none

def hexUnit (a b c d : Char) : Option Nat := do
  let a ← hexValue a
  let b ← hexValue b
  let c ← hexValue c
  let d ← hexValue d
  return ((a * 16 + b) * 16 + c) * 16 + d

/-- A lone surrogate is no character: all of them read as U+FFFD. -/
def unitChar (unit : Nat) : Char :=
  if 0xD800 ≤ unit ∧ unit ≤ 0xDFFF then Char.ofNat 0xFFFD else Char.ofNat unit

def surrogatePair (hi lo : Nat) : Option Char :=
  if 0xD800 ≤ hi ∧ hi ≤ 0xDBFF ∧ 0xDC00 ≤ lo ∧ lo ≤ 0xDFFF then
    some (Char.ofNat (0x10000 + (hi - 0xD800) * 0x400 + (lo - 0xDC00)))
  else none

/-- The character of a one-letter escape. -/
def shortEscape (c : Char) : Option Char :=
  if c = '"' then some '"'
  else if c = '\\' then some '\\'
  else if c = '/' then some '/'
  else if c = 'b' then some (Char.ofNat 8)
  else if c = 't' then some (Char.ofNat 9)
  else if c = 'n' then some (Char.ofNat 10)
  else if c = 'f' then some (Char.ofNat 12)
  else if c = 'r' then some (Char.ofNat 13)
  else none

/-- The body of a string after its opening quote, and what follows the closing one. A character
written as `u` and four digits stays a UTF-16 code unit. -/
def parseUnits : List Char → Option (List (Char ⊕ Nat) × List Char)
  | [] => none
  | '"' :: rest => some ([], rest)
  | '\\' :: 'u' :: a :: b :: c :: d :: rest =>
    (hexUnit a b c d).bind fun unit => (parseUnits rest).map fun p => (.inr unit :: p.1, p.2)
  | '\\' :: c :: rest =>
    (shortEscape c).bind fun c => (parseUnits rest).map fun p => (.inl c :: p.1, p.2)
  | c :: rest =>
    if c = '\\' ∨ c.toNat < 32 then none else (parseUnits rest).map fun p => (.inl c :: p.1, p.2)

def joinUnits : List (Char ⊕ Nat) → List Char
  | [] => []
  | .inl c :: rest => c :: joinUnits rest
  | .inr hi :: .inr lo :: rest =>
    match surrogatePair hi lo with
    | some c => c :: joinUnits rest
    | none => unitChar hi :: joinUnits (.inr lo :: rest)
  | .inr unit :: rest => unitChar unit :: joinUnits rest

def parseChars (cs : List Char) : Option (List Char × List Char) :=
  (parseUnits cs).map fun p => (joinUnits p.1, p.2)

def spanDigits : List Char → List Char × List Char
  | [] => ([], [])
  | c :: cs => if c.isDigit then (c :: (spanDigits cs).1, (spanDigits cs).2) else ([], c :: cs)

def digitsValue (ds : List Char) : Nat := Nat.ofDigitChars 10 ds 0

def parseNat (cs : List Char) : Option (Nat × List Char) :=
  match spanDigits cs with
  | ([], _) => none
  | (ds, rest) => some (digitsValue ds, rest)

def signed (negative : Bool) (n : Nat) : Int := if negative then -(n : Int) else n

def parseExponent : List Char → Option (Int × List Char)
  | '-' :: rest => (parseNat rest).map fun p => (signed true p.1, p.2)
  | '+' :: rest => (parseNat rest).map fun p => (signed false p.1, p.2)
  | rest => (parseNat rest).map fun p => (signed false p.1, p.2)

/-- An optional exponent after the digits `mantissa * 10 ^ shift`. -/
def parseScale (mantissa shift : Int) (cs : List Char) : Option (Json × List Char) :=
  match cs with
  | c :: rest =>
    if c = 'e' ∨ c = 'E' then
      (parseExponent rest).map fun p => (.num mantissa (shift + p.1), p.2)
    else some (.num mantissa shift, cs)
  | [] => some (.num mantissa shift, [])

/-- A number after its sign: no leading zero, then an optional fraction and exponent. -/
def parseMagnitude (negative : Bool) (cs : List Char) : Option (Json × List Char) :=
  match spanDigits cs with
  | ([], _) => none
  | (d :: ds, rest) =>
    if d = '0' ∧ ds ≠ [] then none
    else
      match rest with
      | '.' :: tail =>
        match spanDigits tail with
        | ([], _) => none
        | (fs, rest) =>
          parseScale (signed negative (digitsValue (d :: ds ++ fs))) (-(fs.length : Int)) rest
      | _ => parseScale (signed negative (digitsValue (d :: ds))) 0 rest

def parseNumber : List Char → Option (Json × List Char)
  | '-' :: rest => parseMagnitude true rest
  | rest => parseMagnitude false rest

mutual

def parseValue : Nat → List Char → Option (Json × List Char)
  | 0, _ => none
  | fuel + 1, cs =>
    match skipSpace cs with
    | [] => none
    | c :: rest =>
      if c = 'n' then
        match rest with
        | 'u' :: 'l' :: 'l' :: rest => some (.null, rest)
        | _ => none
      else if c = 't' then
        match rest with
        | 'r' :: 'u' :: 'e' :: rest => some (.bool true, rest)
        | _ => none
      else if c = 'f' then
        match rest with
        | 'a' :: 'l' :: 's' :: 'e' :: rest => some (.bool false, rest)
        | _ => none
      else if c = '"' then (parseChars rest).map fun p => (.str (String.ofList p.1), p.2)
      else if c = '[' then
        match skipSpace rest with
        | ']' :: rest => some (.arr [], rest)
        | _ => (parseElems fuel rest).map fun p => (.arr p.1, p.2)
      else if c = '{' then
        match skipSpace rest with
        | '}' :: rest => some (.obj [], rest)
        | _ => (parseFields fuel rest).map fun p => (.obj p.1, p.2)
      else parseNumber (c :: rest)

/-- One or more elements and the closing bracket. -/
def parseElems : Nat → List Char → Option (List Json × List Char)
  | 0, _ => none
  | fuel + 1, cs =>
    (parseValue fuel cs).bind fun p =>
      match skipSpace p.2 with
      | ',' :: rest => (parseElems fuel rest).map fun q => (p.1 :: q.1, q.2)
      | ']' :: rest => some ([p.1], rest)
      | _ => none

/-- One or more members and the closing brace. -/
def parseFields : Nat → List Char → Option (List (String × Json) × List Char)
  | 0, _ => none
  | fuel + 1, cs =>
    match skipSpace cs with
    | '"' :: rest =>
      (parseChars rest).bind fun key =>
        match skipSpace key.2 with
        | ':' :: rest =>
          (parseValue fuel rest).bind fun p =>
            match skipSpace p.2 with
            | ',' :: rest =>
              (parseFields fuel rest).map fun q => ((String.ofList key.1, p.1) :: q.1, q.2)
            | '}' :: rest => some ([(String.ofList key.1, p.1)], rest)
            | _ => none
        | _ => none
    | _ => none

end

/-- `JSON.parse`; `none` is the SyntaxError. -/
def parse (text : String) : Option Json :=
  match parseValue (text.toList.length + 1) text.toList with
  | some (j, rest) => if skipSpace rest = [] then some j else none
  | none => none

end Json

end TicketEngine
