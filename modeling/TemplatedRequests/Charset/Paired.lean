import TemplatedRequests.Text.Utf8

/-!
Texts in which ASCII stands as it is and most other characters are pairs of bytes. A flaw gives one
replacement character and takes one byte along; what is broken off at the end gives one as well.
-/

namespace TemplatedRequests.Charset

inductive Front where
  /-- A character of so many bytes more than one. -/
  | char (c : Char) (more : Nat)
  | brokenOff
  | flawed

/-- Characters by the two bytes that stand for them, as one number. -/
structure Pairs where
  cells : Array Char

/-- Later cells replace earlier ones. The replacement character marks a cell without a character. -/
def Pairs.ofCells (cells : List (Nat × Char)) : Pairs where
  cells :=
    let place (all : Array Char) (cell : Nat × Char) :=
      if cell.2 = Text.Utf8.replacement then all else all.setIfInBounds cell.1 cell.2
    cells.foldl place (Array.replicate 65536 Text.Utf8.replacement)

def Pairs.at? (p : Pairs) (n : Nat) : Option Char :=
  match p.cells[n]? with
  | some c => if c = Text.Utf8.replacement then none else some c
  | none => none

def pairOf (a b : UInt8) : Nat := 256 * a.toNat + b.toNat

def Pairs.front (p : Pairs) (a b : UInt8) : Front :=
  match p.at? (pairOf a b) with
  | some c => .char c 1
  | none => .flawed

def cellsFrom (n : Nat) (chars : String) : List (Nat × Char) :=
  chars.toList.zipIdx.map fun (c, i) => (n + i, c)

/-- Rows of 94, in which both bytes are above 160. -/
def squareCells (rows : List (Nat × String)) : List (Nat × Char) :=
  rows.flatMap fun (row, chars) => cellsFrom (256 * (0xa0 + row) + 0xa1) chars

def area (first second : List Nat) : List Nat :=
  first.flatMap fun a => second.map fun b => 256 * a + b

def span (a b : Nat) : List Nat := List.range' a (b + 1 - a)

/-- The characters from one number to another that stand in none of the cells. -/
def absentFrom (cells : List (Nat × Char)) (a b : Nat) : List Char :=
  let chars := (cells.map (·.2)).filter (· != Text.Utf8.replacement)
  let present := Pairs.ofCells (chars.map fun c => (c.toNat, 'x'))
  ((span a b).filter fun n => n.isValidChar && (present.at? n).isNone).map Char.ofNat

structure Paired where
  name : String
  others : List String
  /-- What a text starts with whose first byte is not ASCII. -/
  front : UInt8 → List UInt8 → Front

def Paired.decode (p : Paired) : List UInt8 → List Char
  | [] => []
  | b :: r =>
    if b < 0x80 then Char.ofNat b.toNat :: p.decode r
    else
      match p.front b r with
      | .char c more => c :: p.decode (r.drop more)
      | .brokenOff => [Text.Utf8.replacement]
      | .flawed => Text.Utf8.replacement :: p.decode r
  termination_by bytes => bytes.length
  decreasing_by all_goals (simp only [List.length_cons, List.length_drop]; omega)

def Pairs.only (p : Pairs) (a : UInt8) : List UInt8 → Front
  | [] => .brokenOff
  | b :: _ => p.front a b

end TemplatedRequests.Charset
