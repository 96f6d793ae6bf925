import TicketEngine.Framework.Json
import Mathlib.Algebra.Group.Nat.Defs

namespace TicketEngine

namespace Url

def isDigit (c : Char) : Bool := '0' ≤ c && c ≤ '9'

def lowercase (cs : List Char) : List Char := cs.map Char.toLower

/-- The characters that no host may contain. -/
def forbiddenHost (c : Char) : Bool :=
  c.toNat ∈ [0, 9, 10, 13, 32, 35, 47, 58, 60, 62, 63, 64, 91, 92, 93, 94, 124]

/-- Control characters and the percent sign are forbidden in a domain as well. -/
def forbiddenDomain (c : Char) : Bool :=
  forbiddenHost c || c.toNat < 32 || c.toNat = 37 || c.toNat = 127

/-- The value of digits in a radix; no digits are zero. -/
def radixValue (radix : Nat) (cs : List Char) : Option Nat :=
  (cs.mapM fun c => (Json.hexValue c).filter (· < radix)).map fun ds =>
    ds.foldl (fun value d => value * radix + d) 0

/-- A decimal, octal or hexadecimal number. -/
def ipv4Number : List Char → Option Nat
  | [] => none
  | '0' :: c :: rest =>
    if c = 'x' ∨ c = 'X' then radixValue 16 rest else radixValue 8 (c :: rest)
  | cs => radixValue 10 cs

/-- The parts of a domain, without the empty one after a final dot. -/
def domainParts (domain : List Char) : List (List Char) :=
  let parts := domain.splitOn '.'
  if parts.getLast? = some [] ∧ 1 < parts.length then parts.dropLast else parts

def endsInNumber (domain : List Char) : Bool :=
  (domainParts domain).getLast?.any fun last =>
    (last ≠ [] && last.all isDigit) || (ipv4Number last).isSome

/-- At most four numbers, of which the last fills the bytes that the others leave. -/
def ipv4Accepted (domain : List Char) : Bool :=
  let parts := domainParts domain
  parts.length ≤ 4 && (parts.mapM ipv4Number).any fun numbers =>
    numbers.dropLast.all (· ≤ 255) && numbers.getLast?.any (· < 256 ^ (5 - numbers.length))

/-- A decimal byte without leading zeros. -/
def octet (part : List Char) : Bool :=
  part ≠ [] && part.all isDigit && (part.length = 1 || part.head? ≠ some '0') &&
    Json.digitsValue part ≤ 255

/-- The IPv4 address at the end of an IPv6 address. -/
def embeddedIpv4 (cs : List Char) : Bool :=
  let parts := cs.splitOn '.'
  parts.length = 4 && parts.all octet

def hexDigits (cs : List Char) : List Char :=
  (cs.take 4).takeWhile fun c => (Json.hexValue c).isSome

/-- The pieces of an IPv6 address from the one with this index on; `compressed` tells whether
there has been a double colon. Each piece takes at least one character of fuel. -/
def ipv6Pieces : Nat → Nat → Bool → List Char → Bool
  | _, pieceIndex, compressed, [] => compressed || pieceIndex = 8
  | 0, _, _, _ => false
  | fuel + 1, pieceIndex, compressed, c :: cs =>
    if pieceIndex = 8 then false
    else if c = ':' then !compressed && ipv6Pieces fuel (pieceIndex + 1) true cs
    else
      let digits := hexDigits (c :: cs)
      match (c :: cs).drop digits.length with
      | '.' :: _ =>
        digits ≠ [] && pieceIndex ≤ 6 && embeddedIpv4 (c :: cs) && (compressed || pieceIndex = 6)
      | ':' :: rest => rest ≠ [] && ipv6Pieces fuel (pieceIndex + 1) compressed rest
      | [] => compressed || pieceIndex = 7
      | _ => false

/-- An address begins with a piece or with a double colon. -/
def ipv6Accepted : List Char → Bool
  | ':' :: ':' :: rest => ipv6Pieces rest.length 1 true rest
  | ':' :: _ => false
  | cs => ipv6Pieces cs.length 0 false cs

/-- The bytes of a text in which `%` and two hexadecimal digits stand for a byte. -/
def percentDecode : List UInt8 → List UInt8
  | [] => []
  | b :: high :: low :: rest =>
    match Json.hexValue (Char.ofNat high.toNat), Json.hexValue (Char.ofNat low.toNat) with
    | some h, some l =>
      if b = 37 then UInt8.ofNat (h * 16 + l) :: percentDecode rest
      else b :: percentDecode (high :: low :: rest)
    | _, _ => b :: percentDecode (high :: low :: rest)
  | b :: rest => b :: percentDecode rest

/-- Whether a domain of ASCII characters needs no more than lower case. -/
def plainDomain (bytes : List UInt8) : Bool :=
  bytes.all (· < 128) &&
    ((bytes.map fun b => Char.ofNat b.toNat).splitOn '.').all fun label =>
      lowercase (label.take 4) ≠ ['x', 'n', '-', '-']

section Host

-- Unicode ToASCII of the text with these UTF-8 bytes.
variable (unicodeToASCII : List UInt8 → Option (List Char))

def domainToASCII (bytes : List UInt8) : Option (List Char) :=
  if plainDomain bytes then some (lowercase (bytes.map fun b => Char.ofNat b.toNat))
  else unicodeToASCII bytes

def domainAccepted (cs : List Char) : Bool :=
  match domainToASCII unicodeToASCII (percentDecode (cs.flatMap String.utf8EncodeChar)) with
  | none => false
  | some domain =>
    domain ≠ [] && !domain.any forbiddenDomain && (!endsInNumber domain || ipv4Accepted domain)

/-- Whether the host parser returns a host. A URL that is not special takes any text without
forbidden characters. -/
def hostAccepted (special : Bool) : List Char → Bool
  | '[' :: rest => rest.getLast? = some ']' && ipv6Accepted rest.dropLast
  | cs => if special then domainAccepted unicodeToASCII cs else !cs.any forbiddenHost

end Host

example : hostAccepted (fun _ => none) true "[::ffff:1.2.3.4]".toList = true ∧
    hostAccepted (fun _ => none) true "[1:2:3]".toList = false ∧
    hostAccepted (fun _ => none) true "0x7f.1".toList = true ∧
    hostAccepted (fun _ => none) true "256.1.1.1".toList = false ∧
    hostAccepted (fun _ => none) true "a%41.example.".toList = true ∧
    hostAccepted (fun _ => none) true "a b".toList = false := by
  decide +kernel

end Url

end TicketEngine
