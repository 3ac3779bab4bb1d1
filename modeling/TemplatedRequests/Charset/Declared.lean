import TemplatedRequests.Charset
import TemplatedRequests.Text.Ascii
import TemplatedRequests.Text.Blank
import TemplatedRequests.Text.Case
import TemplatedRequests.Url.Percent

/-!
The set of characters that a content type declares. A parameter may be written in numbered parts,
and its value with escapes, after the names of a set and of a language between single quotes.
-/

namespace TemplatedRequests.Charset

/-- Cuts a header at its semicolons, save those between double quotes. -/
def sections : (quoted : Bool) → (previous : Char) → List Char → List (List Char)
  | _, _, [] => [[]]
  | quoted, previous, c :: r =>
    if c = ';' && !quoted then [] :: sections false ';' r
    else match sections (quoted != (c == '"' && previous != '\\')) c r with
      | [] => [[c]]
      | s :: rest => (c :: s) :: rest

structure Parameter where
  name : List Char
  value : List Char

def Parameter.ofSection (cs : List Char) : Parameter where
  name := Text.lower (Text.trim (cs.takeWhile (· != '=')))
  value := (cs.dropWhile (· != '=')).drop 1

/-- A part of a value: its number, if it has one, and whether escapes stand in it. -/
structure Portion where
  number : Option Nat
  text : List Char
  isEscaped : Bool

def Portion.of? (rest value : List Char) : Option Portion :=
  let digits := rest.takeWhile Char.isDigit
  let tail := rest.dropWhile Char.isDigit
  if digits.isEmpty then if tail.isEmpty then some ⟨none, value, true⟩ else none
  else if tail.isEmpty || tail == ['*'] then
    some ⟨(String.ofList digits).toNat?, value, !tail.isEmpty⟩
  else none

def Portion.precedes (a b : Portion) : Bool :=
  let m := a.number.getD 0
  let n := b.number.getD 0
  m < n || m == n && String.ofList a.text ≤ String.ofList b.text

def Portion.plain (p : Portion) : List Char :=
  if p.isEscaped then (Url.unescapeBytes p.text).map fun b => Char.ofNat b.toNat else p.text

def joined (portions : List Portion) : List Char :=
  let value := (portions.mergeSort Portion.precedes).flatMap Portion.plain
  if portions.any (·.isEscaped) then
    match value.splitOn '\'' with
    | _ :: _ :: first :: rest => ['\''].intercalate (first :: rest)
    | _ => value
  else value

def key : List Char := "charset".toList

/-- The value of the parameter. One that is written whole comes before one in parts, and the first
section is never such a part. -/
def parameter? (header : List Char) : Option (List Char) :=
  let parameters := (sections false ' ' header).map Parameter.ofSection
  match parameters.find? (·.name == key) with
  | some p => some p.value
  | none =>
    let portions := (parameters.drop 1).filterMap fun p =>
      if (key ++ ['*']).isPrefixOf p.name then Portion.of? (p.name.drop (key.length + 1)) p.value
      else none
    if portions.isEmpty then none else some (joined portions)

/-- The set that a content type declares, UTF-8 if it declares none that is known. Quotes around a
name and blanks play no part, as a name is told by its letters. -/
def declaredBy (contentType? : Option String) : Charset :=
  ((contentType?.bind fun header => parameter? header.toList).bind fun name =>
    if name.all Text.Ascii.holds then ofName? name else none).getD utf8

end TemplatedRequests.Charset
