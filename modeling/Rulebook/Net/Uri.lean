/-
  The parts of a URI, and the texts that pass for one.

      scheme : // authority path ? query # fragment

  1. `Parts`, `Fault`: the outcome of taking a text apart;
  2. `clean`: control characters in front, tabs and line ends anywhere are dropped first;
  3. `split`: scheme, authority and path;
  4. `isUri`: a scheme, and an authority or a path, without white space.
-/
import Rulebook.Net.Address
import Rulebook.Text.Blank
import Rulebook.Text.Letter
import Rulebook.Text.Quoted

namespace Rulebook.Net.Uri

open Rulebook.Text

/-! ## Parts and faults -/

/-- What a URI consists of, as far as its acceptance depends on it; the `path` is given without
    parameters, query and fragment. -/
structure Parts where
  scheme : List Char
  authority : List Char
  path : List Char
deriving DecidableEq, Repr

/-- Why an authority is refused outright. -/
inductive Fault
  | brackets
  | notAnAddress (host : String)
  | futureAddress
  | bracketedFour
  | unsafeCharacters (authority : String)
deriving DecidableEq, Repr

/-- The wording of a refusal. -/
def Fault.message : Fault → String
  | brackets => "Invalid IPv6 URL"
  | notAnAddress host => quoted host ++ " does not appear to be an IPv4 or IPv6 address"
  | futureAddress => "IPvFuture address is invalid"
  | bracketedFour => "An IPv4 address cannot be in brackets"
  | unsafeCharacters authority =>
    "netloc '" ++ authority ++ "' contains invalid characters under NFKC normalization"

/-! ## Cleaning -/

/-- Is `c` a control character of ASCII, or the space? -/
def isControlOrSpace (c : Char) : Bool := c.toNat ≤ 0x20

/-- Is `c` dropped wherever it stands? -/
def isLayout (c : Char) : Bool := c == '\t' || c == '\n' || c == '\r'

/-- The text that `cs` is taken for when it is taken apart: without `isControlOrSpace` in front and
    without `isLayout` anywhere. -/
def clean (cs : List Char) : List Char :=
  (cs.dropWhile isControlOrSpace).filter fun c => !isLayout c

/-! ## The authority -/

/-- A version number in hexadecimal digits, a dot, and something more, behind the letter `v`. -/
def isFutureAddress : List Char → Bool
  | 'v' :: cs =>
    let version := cs.takeWhile isHexDigit
    match cs.dropWhile isHexDigit with
    | '.' :: rest => !version.isEmpty && !rest.isEmpty && !rest.contains '\n'
    | _ => false
  | _ => false

/-- A `host` in brackets is an address of version 6, or of a version to come. -/
def checkBracketedHost (host : List Char) : Except Fault Unit :=
  if host.head? = some 'v' then
    if isFutureAddress host then .ok () else .error .futureAddress
  else
    match Address.read? host with
    | none => .error (.notAnAddress (String.ofList host))
    | some (.four _) => .error .bracketedFour
    | some (.six _ _) => .ok ()

/-- What stands in `cs` behind the last at sign, or all of `cs`. -/
def behindLastAt (cs : List Char) : List Char := (cs.reverse.takeWhile (· != '@')).reverse

/-- An `authority` with both brackets has nothing before the opening one, only a port behind the
    closing one, and an address between them. -/
def checkBrackets (authority : List Char) : Except Fault Unit :=
  let hostAndPort := behindLastAt authority
  match cut '[' hostAndPort with
  | (before, some bracketed) =>
    if !before.isEmpty then .error .brackets
    else
      let (host, port) := cut ']' bracketed
      let port := port.getD []
      if !port.isEmpty && port.head? != some ':' then .error .brackets
      else checkBracketedHost host
  | (_, none) => checkBracketedHost (cut ':' hostAndPort).1

/-- The characters that decompose into one that separates the parts of a URI. -/
def separatorLookalikes : List Nat :=
  [0x2047, 0x2048, 0x2049, 0x2100, 0x2101, 0x2105, 0x2106, 0x2A74, 0xFE13, 0xFE16, 0xFE55,
    0xFE56, 0xFE5F, 0xFE6B, 0xFF03, 0xFF0F, 0xFF1A, 0xFF1F, 0xFF20]

/-- The `authority` must not hold one of the `separatorLookalikes`. -/
def checkLookalikes (authority : List Char) : Except Fault Unit :=
  if authority.any fun c => separatorLookalikes.contains c.toNat then
    .error (.unsafeCharacters (String.ofList authority))
  else .ok ()

/-! ## Taking apart -/

/-- What a scheme is made of: ASCII letters and digits, `+`, `-` and the dot. -/
def isSchemeChar (c : Char) : Bool :=
  isAsciiAlphanumeric c || c == '+' || c == '-' || c == '.'

/-- A letter, and then nothing but `isSchemeChar`. -/
def isScheme : List Char → Bool
  | [] => false
  | c :: cs => isAsciiLetter c && cs.all isSchemeChar

/-- The scheme, in lower case, and what stands behind its colon; no scheme if what stands in `cs`
    before the first colon is none. -/
def splitScheme (cs : List Char) : List Char × List Char :=
  match cut ':' cs with
  | (scheme, some rest) => if isScheme scheme then (scheme.map Char.toLower, rest) else ([], cs)
  | (_, none) => ([], cs)

/-- Does `c` end an authority? -/
def isAuthorityEnd (c : Char) : Bool := c == '/' || c == '?' || c == '#'

/-- The authority, which stands behind two slashes at the front of `cs`, and the rest. -/
def splitAuthority (cs : List Char) : Except Fault (List Char × List Char) :=
  match cs with
  | '/' :: '/' :: rest =>
    let authority := rest.takeWhile fun c => !isAuthorityEnd c
    let path := rest.dropWhile fun c => !isAuthorityEnd c
    if authority.contains '[' != authority.contains ']' then .error .brackets
    else if authority.contains '[' then
      match checkBrackets authority with
      | .ok () => .ok (authority, path)
      | .error e => .error e
    else .ok (authority, path)
  | _ => .ok ([], cs)

/-- The schemes whose last path segment may carry parameters behind a semicolon. -/
def schemesWithParameters : List String :=
  ["", "ftp", "hdl", "prospero", "http", "imap", "https", "shttp", "rtsp", "rtspu", "sip",
    "sips", "mms", "sftp", "tel"]

/-- The `path` without the parameters of its last segment. -/
def dropParameters (path : List Char) : List Char :=
  let last := (path.reverse.takeWhile (· != '/')).reverse
  let before := path.take (path.length - last.length)
  before ++ (cut ';' last).1

/-- Takes `text` apart; a `Fault` if its authority is refused. -/
def split (text : List Char) : Except Fault Parts := do
  let (scheme, rest) := splitScheme (clean text)
  let (authority, rest) ← splitAuthority rest
  let path := (cut '?' (cut '#' rest).1).1
  checkLookalikes authority
  let path :=
    if schemesWithParameters.contains (String.ofList scheme) then dropParameters path else path
  return ⟨scheme, authority, path⟩

/-! ## Acceptance -/

/-- Is `text` a URI: no white space, a scheme, and an authority or a path? -/
def isUri (text : List Char) : Except Fault Bool :=
  if text.any isBlank then .ok false
  else do
    let parts ← split text
    return isScheme parts.scheme && !(parts.authority.isEmpty && parts.path.isEmpty)

end Rulebook.Net.Uri
