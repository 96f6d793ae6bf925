import TicketEngine.Framework.PercentEncoding
import TicketEngine.Framework.UrlHost

namespace TicketEngine

/-! ## The URL parser

Each state of the parser is a function of the rest of the input. A query and a fragment are read
without effect on the path, so the states that read them are left out. -/

namespace Url

inductive Path
  | text (cs : List Char)
  | segments (path : List (List Char))
  deriving DecidableEq

end Url

/-- What a parsed URL is read for. -/
structure Url where
  scheme : List Char
  path : Url.Path
  deriving DecidableEq

namespace Url

def fileScheme : List Char := "file".toList

def isSpecial (scheme : List Char) : Bool :=
  scheme ∈ ["ftp", "file", "http", "https", "ws", "wss"].map String.toList

/-- A base URL: it is special, and no file. -/
structure Base where
  scheme : List Char
  path : List (List Char)
  special : isSpecial scheme = true
  web : scheme ≠ fileScheme

def isSlash (c : Char) : Bool := c = '/' || c = '\\'

/-- The end of a host, a port or a segment. -/
def terminates (special : Bool) (c : Char) : Bool :=
  c = '/' || c = '?' || c = '#' || (special && c = '\\')

/-! ### Paths -/

def controlSet (c : Char) : Bool := c.toNat < 32 || 126 < c.toNat

def pathSet (c : Char) : Bool :=
  controlSet c || c.toNat ∈ [32, 34, 35, 60, 62, 63, 96, 123, 125]

def percentEncode (set : Char → Bool) (c : Char) : List Char :=
  if set c then (String.utf8EncodeChar c).flatMap Percent.encodeByte else [c]

def singleDot (buffer : List Char) : Bool :=
  lowercase buffer ∈ [".", "%2e"].map String.toList

def doubleDot (buffer : List Char) : Bool :=
  lowercase buffer ∈ ["..", ".%2e", "%2e.", "%2e%2e"].map String.toList

/-- A letter, and a colon or a bar. -/
def windowsDriveLetter : List Char → Bool
  | [letter, mark] => letter.isAlpha && (mark = ':' || mark = '|')
  | _ => false

def shorten (scheme : List Char) (path : List (List Char)) : List (List Char) :=
  match path with
  | [[letter, ':']] => if scheme = fileScheme ∧ letter.isAlpha then path else []
  | _ => path.dropLast

/-- A segment is complete, and a slash follows or the path ends. -/
def endSegment (scheme : List Char) (path : List (List Char)) (buffer : List Char)
    (slash : Bool) : List (List Char) :=
  if doubleDot buffer then
    if slash then shorten scheme path else shorten scheme path ++ [[]]
  else if singleDot buffer then
    if slash then path else path ++ [[]]
  else if scheme = fileScheme ∧ path = [] ∧ windowsDriveLetter buffer then
    [buffer.take 1 ++ [':']]
  else path ++ [buffer]

def pathState (scheme : List Char) (path : List (List Char)) (buffer : List Char) :
    List Char → Url
  | [] => ⟨scheme, .segments (endSegment scheme path buffer false)⟩
  | c :: cs =>
    if c = '?' ∨ c = '#' then ⟨scheme, .segments (endSegment scheme path buffer false)⟩
    else if terminates (isSpecial scheme) c then
      pathState scheme (endSegment scheme path buffer true) [] cs
    else pathState scheme path (buffer ++ percentEncode pathSet c) cs

def pathStartState (scheme : List Char) : List Char → Url
  | [] => if isSpecial scheme then pathState scheme [] [] [] else ⟨scheme, .segments []⟩
  | c :: cs =>
    if c = '/' ∨ (isSpecial scheme ∧ c = '\\') then pathState scheme [] [] cs
    else if isSpecial scheme = false ∧ (c = '?' ∨ c = '#') then ⟨scheme, .segments []⟩
    else pathState scheme [] [] (c :: cs)

/-- The path of a URL without slashes after its scheme. -/
def plainPathState (scheme : List Char) (cs : List Char) : Url :=
  ⟨scheme, .text ((cs.takeWhile fun c => c ≠ '?' ∧ c ≠ '#').flatMap (percentEncode controlSet))⟩

section States

variable (unicodeToASCII : List UInt8 → Option (List Char)) (base : Base)

/-- The largest port is 65535. -/
def portState (scheme : List Char) (buffer : List Char) : List Char → Option Url
  | [] => if Json.digitsValue buffer ≤ 65535 then some (pathStartState scheme []) else none
  | c :: cs =>
    if isDigit c then portState scheme (buffer ++ [c]) cs
    else if terminates (isSpecial scheme) c then
      if Json.digitsValue buffer ≤ 65535 then some (pathStartState scheme (c :: cs)) else none
    else none

/-- Whether the next character is inside brackets. -/
def bracket (inside : Bool) (c : Char) : Bool :=
  if c = '[' then true else if c = ']' then false else inside

/-- The end of a host without a port. -/
def endHost (scheme : List Char) (buffer rest : List Char) : Option Url :=
  if isSpecial scheme ∧ buffer = [] then none
  else if hostAccepted unicodeToASCII (isSpecial scheme) buffer then
    some (pathStartState scheme rest)
  else none

def hostState (scheme : List Char) (inside : Bool) (buffer : List Char) :
    List Char → Option Url
  | [] => endHost unicodeToASCII scheme buffer []
  | c :: cs =>
    if c = ':' ∧ inside = false then
      if buffer = [] then none
      else if hostAccepted unicodeToASCII (isSpecial scheme) buffer then portState scheme [] cs
      else none
    else if terminates (isSpecial scheme) c then endHost unicodeToASCII scheme buffer (c :: cs)
    else hostState scheme (bracket inside c) (buffer ++ [c]) cs

/-- The text after the last `@` is read again, as host and port. -/
def endAuthority (scheme : List Char) (atSignSeen : Bool) (buffer rest : List Char) :
    Option Url :=
  if atSignSeen ∧ buffer = [] then none
  else hostState unicodeToASCII scheme false [] (buffer ++ rest)

/-- Credentials end at an `@`. -/
def authorityState (scheme : List Char) (atSignSeen : Bool) (buffer : List Char) :
    List Char → Option Url
  | [] => endAuthority unicodeToASCII scheme atSignSeen buffer []
  | c :: cs =>
    if c = '@' then authorityState scheme true [] cs
    else if terminates (isSpecial scheme) c then
      endAuthority unicodeToASCII scheme atSignSeen buffer (c :: cs)
    else authorityState scheme atSignSeen (buffer ++ [c]) cs

def ignoreSlashesState (scheme : List Char) : List Char → Option Url
  | [] => authorityState unicodeToASCII scheme false [] []
  | c :: cs =>
    if isSlash c then ignoreSlashesState scheme cs
    else authorityState unicodeToASCII scheme false [] (c :: cs)

def endFileHost (buffer rest : List Char) : Option Url :=
  if windowsDriveLetter buffer then some (pathState fileScheme [] buffer rest)
  else if buffer = [] then some (pathStartState fileScheme rest)
  else if hostAccepted unicodeToASCII true buffer then some (pathStartState fileScheme rest)
  else none

def fileHostState (buffer : List Char) : List Char → Option Url
  | [] => endFileHost unicodeToASCII buffer []
  | c :: cs =>
    if terminates true c then endFileHost unicodeToASCII buffer (c :: cs)
    else fileHostState (buffer ++ [c]) cs

def fileSlashState : List Char → Option Url
  | [] => some (pathState fileScheme [] [] [])
  | c :: cs =>
    if isSlash c then fileHostState unicodeToASCII [] cs
    else some (pathState fileScheme [] [] (c :: cs))

def fileState : List Char → Option Url
  | [] => some (pathState fileScheme [] [] [])
  | c :: cs =>
    if isSlash c then fileSlashState unicodeToASCII cs
    else some (pathState fileScheme [] [] (c :: cs))

/-! ### References and schemes -/

def relativeSlashState : List Char → Option Url
  | [] => some (pathState base.scheme [] [] [])
  | c :: cs =>
    if isSlash c then ignoreSlashesState unicodeToASCII base.scheme cs
    else some (pathState base.scheme [] [] (c :: cs))

def relativeState : List Char → Option Url
  | [] => some ⟨base.scheme, .segments base.path⟩
  | c :: cs =>
    if isSlash c then relativeSlashState unicodeToASCII base cs
    else if c = '?' ∨ c = '#' then some ⟨base.scheme, .segments base.path⟩
    else some (pathState base.scheme (shorten base.scheme base.path) [] (c :: cs))

/-- After the scheme of the base. -/
def specialRelativeState : List Char → Option Url
  | '/' :: '/' :: cs => ignoreSlashesState unicodeToASCII base.scheme cs
  | cs => relativeState unicodeToASCII base cs

/-- After another special scheme. -/
def specialAuthoritySlashesState (scheme : List Char) : List Char → Option Url
  | '/' :: '/' :: cs => ignoreSlashesState unicodeToASCII scheme cs
  | cs => ignoreSlashesState unicodeToASCII scheme cs

/-- After a scheme that is not special, and a slash. -/
def pathOrAuthorityState (scheme : List Char) : List Char → Option Url
  | '/' :: cs => authorityState unicodeToASCII scheme false [] cs
  | cs => some (pathState scheme [] [] cs)

/-- The state that the colon after a scheme leads to. -/
def afterScheme (scheme : List Char) (cs : List Char) : Option Url :=
  if scheme = fileScheme then fileState unicodeToASCII cs
  else if isSpecial scheme then
    if scheme = base.scheme then specialRelativeState unicodeToASCII base cs
    else specialAuthoritySlashesState unicodeToASCII scheme cs
  else
    match cs with
    | '/' :: rest => pathOrAuthorityState unicodeToASCII scheme rest
    | _ => some (plainPathState scheme cs)

def isSchemeChar (c : Char) : Bool := c.isAlphanum || c = '+' || c = '-' || c = '.'

/-- Without a colon after it, what looked like a scheme is the beginning of a path. -/
def schemeState (input : List Char) (buffer : List Char) : List Char → Option Url
  | [] => relativeState unicodeToASCII base input
  | c :: cs =>
    if isSchemeChar c then schemeState input (buffer ++ [c.toLower]) cs
    else if c = ':' then afterScheme unicodeToASCII base buffer cs
    else relativeState unicodeToASCII base input

def schemeStartState : List Char → Option Url
  | [] => relativeState unicodeToASCII base []
  | c :: cs =>
    if c.isAlpha then schemeState unicodeToASCII base (c :: cs) [c.toLower] cs
    else relativeState unicodeToASCII base (c :: cs)

/-- The input without spaces and control characters at its ends, and without tabs and newlines. -/
def cleaned (input : List Char) : List Char :=
  let outer (c : Char) : Bool := c.toNat ≤ 32
  ((input.dropWhile outer).reverse.dropWhile outer).reverse.filter fun c =>
    c.toNat ∉ [9, 10, 13]

/-- `new URL(input, base)`; `none` is the TypeError that it throws. -/
def parse (input : String) : Option Url :=
  schemeStartState unicodeToASCII base (cleaned input.toList)

end States

/-- The getter of `pathname`. -/
def pathname (url : Url) : String :=
  match url.path with
  | .text cs => String.ofList cs
  | .segments path => String.ofList (path.flatMap fun segment => '/' :: segment)

end Url

end TicketEngine
