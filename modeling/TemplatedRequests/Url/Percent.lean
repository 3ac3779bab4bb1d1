import TemplatedRequests.Text.Utf8

/-!
Percent encoding. Characters outside a safe set are written as the bytes of their UTF-8 form; an
escape that is already there stays as it is.
-/

namespace TemplatedRequests.Url

def isUnreserved (c : Char) : Bool :=
  c.isAlphanum || c == '-' || c == '.' || c == '_' || c == '~'

def printableBut (unsafeChars : List Char) (c : Char) : Bool :=
  0x20 < c.toNat && c.toNat < 0x7f && !unsafeChars.contains c

def fragmentSafe : Char → Bool := printableBut ['"', '<', '>', '\x60']

def querySafe : Char → Bool := printableBut ['"', '#', '<', '>']

def pathSafe : Char → Bool :=
  printableBut ['"', '#', '<', '>', '?', '\x60', '\x7b', '\x7d']

def userSafe : Char → Bool :=
  printableBut ['"', '#', '<', '>', '?', '\x60', '\x7b', '\x7d', '/', ';', '=', '@', '[', '\\',
    ']', '^', '|']

def hostSafe (c : Char) : Bool :=
  isUnreserved c || "!$&'()*+,;=".toList.contains c
    || ['"', '\x60', '\x7b', '\x7d', '%', '|', '\\'].contains c

def escapeByte (b : UInt8) : List Char :=
  '%' :: (Text.hex 2 b.toNat).map Char.toUpper

def escapeChar (c : Char) : List Char := (Text.Utf8.encodeChar c).flatMap escapeByte

def isHex (c : Char) : Bool := (Text.hexDigit? c).isSome

def escape (safe : Char → Bool) : List Char → List Char
  | [] => []
  | '%' :: a :: b :: r =>
    if isHex a && isHex b then '%' :: a :: b :: escape safe r
    else (if safe '%' then ['%'] else escapeChar '%') ++ escape safe (a :: b :: r)
  | c :: r => (if safe c then [c] else escapeChar c) ++ escape safe r

def unescapeBytes : List Char → List UInt8
  | [] => []
  | '%' :: a :: b :: r => match Text.hexDigit? a, Text.hexDigit? b with
    | some x, some y => UInt8.ofNat (16 * x + y) :: unescapeBytes r
    | _, _ => Text.Utf8.encodeChar '%' ++ unescapeBytes (a :: b :: r)
  | c :: r => Text.Utf8.encodeChar c ++ unescapeBytes r

def unescape (cs : List Char) : List Char := Text.Utf8.decodeReplacing (unescapeBytes cs)

/-- A text in a form: blanks become plus signs, and only unreserved characters stay. -/
def formText (s : String) : List Char :=
  s.toList.flatMap fun c =>
    if c = ' ' then ['+'] else if isUnreserved c then [c] else escapeChar c

def formEncode (pairs : List (String × String)) : List Char :=
  ['&'].intercalate (pairs.map fun p => formText p.1 ++ '=' :: formText p.2)

def plainText (form : List Char) : String :=
  String.ofList (unescape (form.map fun c => if c = '+' then ' ' else c))

/-- Reads names and values of a form. A name without an equals sign has the empty value. -/
def formDecode (form : List Char) : List (String × String) :=
  ((form.splitOn '&').filter (!·.isEmpty)).map fun pair =>
    (plainText (pair.takeWhile (· != '=')), plainText ((pair.dropWhile (· != '=')).drop 1))

end TemplatedRequests.Url
