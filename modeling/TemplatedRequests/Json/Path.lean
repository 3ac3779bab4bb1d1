import TemplatedRequests.Fault
import TemplatedRequests.Json.Value
import TemplatedRequests.Text.Blank

/-!
Paths into documents: names of fields after points, and indexes in brackets.
-/

namespace TemplatedRequests.Json

inductive Step where
  | field (name : String)
  | index (n : Nat)
  deriving DecidableEq, Repr

abbrev Path := List Step

/-- A part of a path before it is known whether brackets hold an index. -/
inductive Part where
  | name (cs : List Char)
  | brackets (cs : List Char)
  deriving DecidableEq, Repr

def Part.ofName (cs : List Char) : List Part := if cs.isEmpty then [] else [.name cs]

mutual

/-- Parts of a path outside brackets, after the beginning of a name. -/
def partsAfter (name : List Char) : List Char → List Part
  | [] => Part.ofName name
  | c :: r =>
    if c = '.' then Part.ofName name ++ partsAfter [] r
    else if c = '[' then Part.ofName name ++ partsIn [] r
    else partsAfter (name ++ [c]) r

/-- Parts of a path inside brackets; the end of the path closes them as well. -/
def partsIn (inside : List Char) : List Char → List Part
  | [] => [.brackets inside]
  | c :: r => if c = ']' then .brackets inside :: partsAfter [] r else partsIn (inside ++ [c]) r

end

/-- Drops the root sign and one point after it. -/
def dropRoot (cs : List Char) : List Char :=
  let r := match cs with
    | '$' :: r => r
    | '@' :: r => r
    | r => r
  match r with
  | '.' :: s => s
  | s => s

def isIndex (cs : List Char) : Bool := !cs.isEmpty && cs.all fun c => '0' ≤ c && c ≤ '9'

/-- Brackets that hold no index are left out. -/
def Part.step? : Part → Except Numeral.TooLong (Option Step)
  | .name cs => .ok (some (.field (String.ofList cs)))
  | .brackets cs =>
    let digits := Text.trim cs
    if isIndex digits then
      (Numeral.limited (digits.map fun c => c.toNat - '0'.toNat)).map (some <| .index ·)
    else .ok none

def Path.parse (cs : List Char) : Except Numeral.TooLong Path :=
  (partsAfter [] (dropRoot (Text.trim cs))).filterMapM Part.step?

def Step.follow (document : Value) : Step → Except Fault Value
  | .field name => match document.field? name with
    | some v => .ok v
    | none => .error (.fieldMissing name)
  | .index n => match document.item? n with
    | some v => .ok v
    | none => .error (.indexOutOfBounds n)

def Path.follow (document : Value) : Path → Except Fault Value
  | [] => .ok document
  | s :: p => match s.follow document with
    | .ok v => Path.follow v p
    | .error f => .error f

@[simp] theorem Path.follow_nil (document : Value) : Path.follow document [] = .ok document := rfl

end TemplatedRequests.Json
