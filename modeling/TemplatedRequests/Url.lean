import TemplatedRequests.Numeral
import TemplatedRequests.Text.Blank
import TemplatedRequests.Text.Case
import TemplatedRequests.Text.Quoted
import TemplatedRequests.Url.Host

/-!
Addresses of requests, read from text and written in normal form: scheme and host in lower case, no
number after the host that the scheme implies, no dot segments, unsafe characters escaped.
-/

namespace TemplatedRequests

/-- An address in normal form. The host stands without brackets. -/
structure Url where
  scheme : List Char := []
  user : List Char := []
  host : List Char := []
  port : Option Int := none
  path : List Char := []
  query : Option (List Char) := none
  fragment : Option (List Char) := none
  deriving DecidableEq, Repr

namespace Url

inductive Problem where
  | tooLong
  | partTooLong (name : String)
  | unprintable (c : Char) (position : Nat)
  | unprintablePart (name : String) (c : Char) (position : Nat)
  | badPort (text : List Char)
  | badHost (host : BadHost)
  | barePath
  | relativePath (start : String)
  deriving DecidableEq, Repr

def BadHost.message : BadHost → String
  | quad text => "Invalid IPv4 address: " ++ String.ofList (Text.quoted text)
  | ipv6 text => "Invalid IPv6 address: " ++ String.ofList (Text.quoted text)
  | name text => "Invalid IDNA hostname: " ++ String.ofList (Text.quoted text)

def unprintableText (place : String) (c : Char) (position : Nat) : String :=
  "Invalid non-printable ASCII character in URL" ++ place ++ ", "
    ++ String.ofList (Text.quoted [c]) ++ " at position " ++ toString position ++ "."

def Problem.message : Problem → String
  | tooLong => "URL too long"
  | partTooLong name => "URL component '" ++ name ++ "' too long"
  | unprintable c n => unprintableText "" c n
  | unprintablePart name c n => unprintableText (" " ++ name ++ " component") c n
  | badPort text => "Invalid port: " ++ String.ofList (Text.quoted text)
  | badHost host => host.message
  | barePath => "For absolute URLs, path must be empty or begin with '/'"
  | relativePath start => "Relative URLs cannot have a path starting with '" ++ start ++ "'"

def lengthLimit : Nat := 65536

def unprintable? (n : Nat) : List Char → Option (Char × Nat)
  | [] => none
  | c :: r => if c.toNat < 0x20 || c.toNat == 0x7f then some (c, n) else unprintable? (n + 1) r

def splitLast (sep : Char) (cs : List Char) : Option (List Char × List Char) :=
  let after := (cs.reverse.takeWhile (· != sep)).reverse
  match cs.reverse.dropWhile (· != sep) with
  | _ :: before => some (before.reverse, after)
  | [] => none

/-- Splits at the first occurrence of a character; the part after it may be absent. -/
def cut (sep : Char) (cs : List Char) : List Char × Option (List Char) :=
  match cs.dropWhile (· != sep) with
  | [] => (cs, none)
  | _ :: r => (cs.takeWhile (· != sep), some r)

structure Parts where
  scheme : List Char := []
  authority : List Char := []
  path : List Char := []
  query : Option (List Char) := none
  fragment : Option (List Char) := none

def isSchemeChar (c : Char) : Bool := c.isAlphanum || c == '+' || c == '.' || c == '-'

/-- A scheme starts with a letter and ends at a colon. -/
def splitScheme (cs : List Char) : List Char × List Char :=
  let name := cs.takeWhile isSchemeChar
  match cs.dropWhile isSchemeChar with
  | ':' :: r => if name.head?.all Char.isAlpha then (name, r) else ([], cs)
  | _ => ([], cs)

def isAuthorityChar (c : Char) : Bool := c != '/' && c != '?' && c != '#'

def splitAuthority : List Char → List Char × List Char
  | '/' :: '/' :: r => (r.takeWhile isAuthorityChar, r.dropWhile isAuthorityChar)
  | cs => ([], cs)

def Parts.ofText (cs : List Char) : Parts :=
  let (scheme, r) := splitScheme cs
  let (authority, r) := splitAuthority r
  let (r, fragment) := cut '#' r
  let (path, query) := cut '?' r
  { scheme, authority, path, query, fragment }

/-- The host and what follows it. A host in brackets holds colons. -/
def splitHost (cs : List Char) : List Char × List Char :=
  let isInside := fun c => c != ':' && c != '@'
  let plain := (cs.takeWhile isInside, cs.dropWhile isInside)
  match cs with
  | '[' :: _ => match splitLast ']' cs with
    | some (inside, r) => (inside ++ [']'], r)
    | none => plain
  | _ => plain

def portDigits : List Char → Option (List Nat)
  | [] => some []
  | '_' :: c :: r => if c = '_' then none else portDigits (c :: r)
  | ['_'] => none
  | c :: r => match Text.digitValue? c with
    | some d => (portDigits r).map (d :: ·)
    | none => none

def portNumber? (cs : List Char) : Option Int :=
  let (negative, digits) := match Text.trim cs with
    | '-' :: r => (true, r)
    | '+' :: r => (false, r)
    | r => (false, r)
  match digits with
  | [] => none
  | '_' :: _ => none
  | _ => match portDigits digits with
    | none => none
    | some ds => match Numeral.limited ds with
      | .ok n => some (if negative then -(n : Int) else n)
      | .error _ => none

def defaultPort? (scheme : List Char) : Option Int :=
  if scheme = "http".toList ∨ scheme = "ws".toList then some 80
  else if scheme = "https".toList ∨ scheme = "wss".toList then some 443
  else if scheme = "ftp".toList then some 21
  else none

/-- The number after the host, unless it is absent or the scheme's own. The scheme counts as it is
written, so one in capitals has none. -/
def readPort (scheme cs : List Char) : Except Problem (Option Int) :=
  match cs with
  | [] => .ok none
  | _ => match portNumber? cs with
    | none => .error (.badPort cs)
    | some n => .ok (if defaultPort? scheme = some n then none else some n)

/-- Removes segments of one point, and with a segment of two points the one before it. -/
def removeDots (path : List Char) : List Char :=
  let segments := path.splitOn '/'
  let kept := segments.foldl (fun out s =>
    if s = ['.'] then out
    else if s = ['.', '.'] then (if out.isEmpty || out == [[]] then out else out.dropLast)
    else out ++ [s]) []
  ['/'].intercalate kept

/-- A path after a host starts with a slash; without scheme and host it must not be taken for
either. -/
def pathProblem? (hasScheme hasAuthority : Bool) (path : List Char) : Option Problem :=
  if hasAuthority then if path.head?.any (· != '/') then some .barePath else none
  else if hasScheme then none
  else if "//".toList.isPrefixOf path then some (.relativePath "//")
  else if path.head? = some ':' then some (.relativePath ":")
  else none

/-- Brings the parts of an address to normal form. A host that is given takes the place of the one
in the authority. -/
def ofParts (p : Parts) (givenHost? : Option (List Char)) : Except Problem Url := do
  let (user, hostPort) := (splitLast '@' p.authority).getD ([], p.authority)
  let (ownHost, portText) := splitHost hostPort
  let user := escape userSafe user
  let host ← (readHost (givenHost?.getD ownHost)).mapError .badHost
  let port ← readPort p.scheme (match portText with
    | ':' :: r => r
    | r => r)
  let scheme := Text.lower p.scheme
  let hasAuthority := !user.isEmpty || !host.isEmpty || port.isSome
  if let some problem := pathProblem? (!scheme.isEmpty) hasAuthority p.path then throw problem
  let path := if scheme.isEmpty && !hasAuthority then p.path else removeDots p.path
  return {
    scheme, user, host, port
    path := escape pathSafe path
    query := p.query.map (escape querySafe)
    fragment := p.fragment.map (escape fragmentSafe) }

def read (cs : List Char) : Except Problem Url := do
  if lengthLimit < cs.length then throw .tooLong
  if let some (c, n) := unprintable? 0 cs then throw (.unprintable c n)
  ofParts (.ofText cs) none

def authority (u : Url) : List Char :=
  (if u.user.isEmpty then [] else u.user ++ ['@']) ++ hostText u.host
    ++ (match u.port with
      | some n => ':' :: (toString n).toList
      | none => [])

def place (u : Url) : List Char := authority { u with user := [] }

def parts (u : Url) : Parts :=
  { scheme := u.scheme, authority := u.authority, path := u.path, query := u.query,
    fragment := u.fragment }

def partProblem? (name : String) (cs : List Char) : Option Problem :=
  if lengthLimit < cs.length then some (.partTooLong name)
  else (unprintable? 0 cs).map fun found => .unprintablePart name found.1 found.2

/-- Parts by name, in the order in which they are looked at. -/
def namedParts (p : Parts) (givenHost? : Option (List Char)) :
    List (String × Option (List Char)) :=
  [("scheme", some p.scheme), ("authority", some p.authority), ("path", some p.path),
    ("query", p.query), ("fragment", p.fragment), ("host", givenHost?)]

/-- An address from parts that are given one by one. Each is bounded like a whole text. -/
def build (p : Parts) (givenHost? : Option (List Char)) : Except Problem Url :=
  match (namedParts p givenHost?).findSome? fun part => part.2.bind (partProblem? part.1) with
  | some problem => .error problem
  | none => ofParts p givenHost?

def isAbsolute (u : Url) : Bool := !u.scheme.isEmpty && !u.host.isEmpty

/-- What is sent for an address: one that is not absolute keeps its path and query alone. -/
def resolved (u : Url) : Except Problem Url :=
  if u.isAbsolute then .ok u
  else build { path := '/' :: u.path.dropWhile (· == '/'), query := u.query } none

def withQuery (u : Url) (query : List Char) : Except Problem Url :=
  build { u.parts with query := some query } none

def toText (u : Url) : String :=
  let authority := u.authority
  String.ofList ((if u.scheme.isEmpty then [] else u.scheme ++ [':'])
    ++ (if authority.isEmpty then [] else '/' :: '/' :: authority)
    ++ u.path
    ++ (match u.query with
      | some q => '?' :: q
      | none => [])
    ++ (match u.fragment with
      | some f => '#' :: f
      | none => []))

def credentials (u : Url) : List Char × List Char :=
  let (name, password?) := cut ':' u.user
  (unescape name, unescape (password?.getD []))

/-- Why an address cannot be sent to over the network, if its scheme is none of the web's. -/
def unsupported? (u : Url) : Option String :=
  if u.scheme.isEmpty then some "Request URL is missing an 'http://' or 'https://' protocol."
  else if ["http", "https", "ws", "wss"].contains (String.ofList u.scheme) then none
  else some ("Request URL has an unsupported protocol '" ++ String.ofList u.scheme ++ "://'.")

end Url

end TemplatedRequests
