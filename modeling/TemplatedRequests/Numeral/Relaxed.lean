import TemplatedRequests.Binary64
import TemplatedRequests.Numeral
import TemplatedRequests.Text.Blank
import TemplatedRequests.Text.Case

/-!
Numbers as people write them: white space around them, single underscores between digits, zeros in
front, a point with zeros after an integer.
-/

namespace TemplatedRequests.Numeral

inductive Misread where
  | notInteger
  | tooLong
  deriving DecidableEq, Repr

namespace Misread

def code : Misread → String
  | notInteger => "int_parsing"
  | tooLong => "int_parsing_size"

def message : Misread → String
  | notInteger => "Input should be a valid integer, unable to parse string as an integer"
  | tooLong => "Unable to parse input string as an integer, exceeded maximum size"

end Misread

def trimWhiteSpace (cs : List Char) : List Char :=
  ((cs.dropWhile Text.isWhiteSpace).reverse.dropWhile Text.isWhiteSpace).reverse

def splitSign : List Char → Bool × List Char
  | '-' :: r => (true, r)
  | '+' :: r => (false, r)
  | r => (false, r)

def latinDigit? (c : Char) : Option Nat :=
  if Text.isLatinDigit c then some (c.toNat - '0'.toNat) else none

def spanDigits (cs : List Char) : List Nat × List Char :=
  ((cs.takeWhile Text.isLatinDigit).filterMap latinDigit?, cs.dropWhile Text.isLatinDigit)

/-- The plain form: perhaps a minus, then digits without a zero in front. Its length, the minus
counted, is looked at before what follows the digits. -/
def plain (cs : List Char) : Except Misread Int :=
  let (minus, unsigned) := match cs with
    | '-' :: r => ([()], r)
    | r => ([], r)
  match spanDigits unsigned with
  | ([0], []) => .ok 0
  | ([], _) => .error .notInteger
  | (0 :: _, _) => .error .notInteger
  | (ds, rest) =>
    if digitLimit < minus.length + ds.length then .error .tooLong
    else if !rest.isEmpty then .error .notInteger
    else .ok (if minus.isEmpty then ofDigits ds else -(ofDigits ds : Int))

/-- Skips zeros and underscores after a first zero; the last of them stays before a point and at
the end of the text. -/
def afterZeros? (last : Char) : List Char → Option (List Char)
  | [] => some [last]
  | '.' :: r => some (last :: '.' :: r)
  | c :: r =>
    if c = '0' ∨ c = '_' then afterZeros? c r
    else if Text.isLatinDigit c ∨ c = '-' then some (c :: r)
    else none

def dropZeros? : List Char → Option (List Char)
  | '0' :: r => afterZeros? '0' r
  | c :: r => if Text.isLatinDigit c ∨ c = '-' then some (c :: r) else none
  | [] => none

/-- Leaves out a point with nothing but zeros after it, and at least one of them. -/
def dropPointZeros (cs : List Char) : List Char :=
  match cs.dropWhile (· != '.') with
  | '.' :: '0' :: r => if r.all (· == '0') then cs.takeWhile (· != '.') else cs
  | _ => cs

def underscoresInside : List Char → Bool
  | [] => true
  | ['_'] => false
  | '_' :: '_' :: _ => false
  | _ :: r => underscoresInside r

/-- Leaves out underscores, if each stands between two other characters. -/
def dropUnderscores (cs : List Char) : List Char :=
  if cs.head? != some '_' && underscoresInside cs then cs.filter (· != '_') else cs

/-- Leaves out a plus in front, unless a minus follows it. -/
def dropPlus? : List Char → Option (List Char)
  | '+' :: '-' :: _ => none
  | '+' :: r => some r
  | cs => some cs

def cleaned? (cs : List Char) : Option (List Char) := do
  let unsigned ← dropPlus? (trimWhiteSpace cs)
  let bare ← dropZeros? unsigned
  return dropUnderscores (dropPointZeros bare)

/-- Reads an integer as it stands, else after it was brought to the plain form. -/
def relaxed (cs : List Char) : Except Misread Int :=
  match plain cs with
  | .error .notInteger =>
    ((cleaned? cs).bind fun bare => (plain bare).toOption).elim (.error .notInteger) .ok
  | read => read

/-- The power of ten after a decimal; nothing may follow it. -/
def power? : List Char → Option Int
  | [] => some 0
  | c :: r =>
    if c = 'e' ∨ c = 'E' then
      let (negative, digits) := splitSign r
      match spanDigits digits with
      | ([], _) => none
      | (ds, []) => some (if negative then -(ofDigits ds : Int) else ofDigits ds)
      | _ => none
    else none

/-- A decimal has digits before or after its point, and perhaps a power of ten. -/
def decimal? (negative : Bool) (cs : List Char) : Option Binary64 :=
  let (whole, r) := spanDigits cs
  let (part, r) := match r with
    | '.' :: r => spanDigits r
    | r => ([], r)
  if whole.isEmpty && part.isEmpty then none
  else (power? r).map fun power =>
    .ofDecimal negative (ofDigits (whole ++ part)) (power - part.length)

def number? (cs : List Char) : Option Binary64 :=
  let (negative, unsigned) := splitSign cs
  let word := String.ofList (Text.lower unsigned)
  if word = "inf" ∨ word = "infinity" then some (.infinite negative)
  else if word = "nan" then some .nan
  else decimal? negative unsigned

def relaxedNumber? (cs : List Char) : Option Binary64 :=
  (number? (trimWhiteSpace cs)).or
    (if cs.contains '_' then number? (dropUnderscores cs) else none)

end TemplatedRequests.Numeral
