import TemplatedRequests.Json.Value
import TemplatedRequests.Numeral.Relaxed

/-!
Checks of documents against what a service expects. All problems are found, in the order in which
fields are declared, each with its place.
-/

namespace TemplatedRequests.Service

structure Issue where
  place : List String
  message : String
  deriving DecidableEq, Repr

def Issue.text (i : Issue) : String := " -> ".intercalate i.place ++ ": " ++ i.message

abbrev Checked (α : Type) := Except (List Issue) α

namespace Checked

variable {α β : Type}

def fail (message : String) : Checked α := .error [⟨[], message⟩]

def within (place : String) : Checked α → Checked α
  | .ok a => .ok a
  | .error is => .error (is.map fun i => { i with place := place :: i.place })

def both : Checked α → Checked β → Checked (α × β)
  | .ok a, .ok b => .ok (a, b)
  | .ok _, .error js => .error js
  | .error is, .ok _ => .error is
  | .error is, .error js => .error (is ++ js)

def all : List (Checked α) → Checked (List α)
  | [] => .ok []
  | c :: cs => (both c (all cs)).map fun p => p.1 :: p.2

end Checked

abbrev Check (α : Type) := Json.Value → Checked α

namespace Check

variable {α : Type}

def text : Check String
  | .text s => .ok s
  | _ => .fail "Input should be a valid string"

def characters (n : Nat) : String := toString n ++ (if n = 1 then " character" else " characters")

def sized (least most : Nat) : Check String := fun v => do
  let s ← text v
  let n := s.length
  if n < least then .fail ("String should have at least " ++ characters least)
  else if most < n then .fail ("String should have at most " ++ characters most)
  else .ok s

def isKeyChar (c : Char) : Bool := !Text.isWhiteSpace c && c != '\x7b' && c != '\x7d'

/-- A key can stand in a placeholder: no white space, no braces, no dollar sign in front. -/
def isKey (s : String) : Bool :=
  match s.toList with
  | [] => false
  | c :: r => isKeyChar c && c != '$' && r.all isKeyChar

def key : Check String := fun v => do
  let s ← sized 1 255 v
  if isKey s then .ok s
  else .fail "String should match pattern '^[^\\s\x7b\x7d$][^\\s\x7b\x7d]*$'"

def trueTexts : List String := ["1", "true", "t", "yes", "y", "on"]

def falseTexts : List String := ["0", "false", "f", "no", "n", "off"]

def asciiLower (s : String) : String := String.ofList (s.toList.map Char.toLower)

def isWord (n : Int) : Bool := Int64.minValue.toInt ≤ n && n ≤ Int64.maxValue.toInt

/-- The value of a floating point number that is an integer strictly between the bounds of words. -/
def word? (x : Binary64) : Option Int :=
  if x.isInteger then x.truncate?.filter fun n => isWord n && n != Int64.minValue.toInt else none

/-- One and zero are truth values; other words might have been meant as such. -/
def flagOfWord : Int → Checked Bool
  | 0 => .ok false
  | 1 => .ok true
  | _ => .fail "Input should be a valid boolean, unable to interpret input"

/-- Truth values also come as the numbers one and zero and as certain words. -/
def flag : Check Bool
  | .bool b => .ok b
  | .int n => if isWord n then flagOfWord n else .fail "Input should be a valid boolean"
  | .float x => match word? x with
    | some n => flagOfWord n
    | none => .fail "Input should be a valid boolean"
  | .text s =>
    if trueTexts.contains (asciiLower s) then .ok true
    else if falseTexts.contains (asciiLower s) then .ok false
    else .fail "Input should be a valid boolean, unable to interpret input"
  | _ => .fail "Input should be a valid boolean"

def integerText (s : String) : Checked Int :=
  match Numeral.relaxed s.toList with
  | .ok n => .ok n
  | .error misread => .fail misread.message

def integer : Check Int
  | .int n => .ok n
  | .bool b => .ok (if b then 1 else 0)
  | .text s => integerText s
  | .float x => match x.truncate? with
    | none => .fail "Input should be a finite number"
    | some _ =>
      if !x.isInteger then
        .fail "Input should be a valid integer, got a number with a fractional part"
      else (word? x).elim (.fail Numeral.Misread.tooLong.message) .ok
  | _ => .fail "Input should be a valid integer"

def nullable (check : Check α) : Check (Option α)
  | .null => .ok none
  | v => (check v).map some

def listOf (check : Check α) : Check (List α)
  | .array items => .all (items.mapIdx fun i v => (check v).within (toString i))
  | _ => .fail "Input should be a valid list"

def texts : Check Bindings
  | .object fields =>
    (Checked.all (fields.map fun f => ((text f.2).within f.1).map fun s => (f.1, s))).map .ofEntries
  | _ => .fail "Input should be a valid dictionary"

/-- Labels in quotes, the last after "or". -/
def choices (labels : List String) : String :=
  let quotedLabels := labels.map fun l => "'" ++ l ++ "'"
  ", ".intercalate quotedLabels.dropLast ++ " or " ++ (quotedLabels.getLast?).getD ""

def choice (ofLabel? : String → Option α) (labels : List String) : Check α := fun v =>
  match (match v with
    | .text s => ofLabel? s
    | _ => none) with
  | some a => .ok a
  | none => .fail ("Input should be " ++ choices labels)

/-- The fields of an object, by a check that looks at them. -/
def fields (check : List (String × Json.Value) → Checked α) : Check α
  | .object fs => check fs
  | _ => .fail "Input should be a valid dictionary or object to extract fields from"

end Check

abbrev Fields := List (String × Json.Value)

variable {α : Type}

def required (name : String) (check : Check α) (fs : Fields) : Checked α :=
  (match OrderedMap.look name fs with
    | some v => check v
    | none => .fail "Field required").within name

def optional (name : String) (default : α) (check : Check α) (fs : Fields) : Checked α :=
  match OrderedMap.look name fs with
  | some v => (check v).within name
  | none => .ok default

end TemplatedRequests.Service
