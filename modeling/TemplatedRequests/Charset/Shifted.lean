import TemplatedRequests.Charset.Wide

/-!
Texts in ASCII in which other characters stand as runs of letters between a plus and a minus sign.
Each letter gives six bits of units of two bytes.
-/

namespace TemplatedRequests.Charset

def letterValue? (c : Char) : Option Nat :=
  if c.isUpper then some (c.toNat - 'A'.toNat)
  else if c.isLower then some (c.toNat - 'a'.toNat + 26)
  else if c.isDigit then some (c.toNat - '0'.toNat + 52)
  else if c = '+' then some 62
  else if c = '/' then some 63
  else none

/-- Where in a run reading is: bits that are not yet used up, and a leading unit. -/
structure Run where
  bits : List Bool := []
  leading : Option Nat := none

def sixBits (n : Nat) : List Bool := (List.range 6).map fun i => (n >>> (5 - i)) % 2 == 1

def bitsValue (bits : List Bool) : Nat := bits.foldl (fun n b => 2 * n + b.toNat) 0

/-- Takes a unit: a character of its own, half of one, or the end of one. -/
def Run.take (leading : Option Nat) (n : Nat) : List Char × Option Nat :=
  match leading with
  | some l =>
    if isTrailing n then ([ofSurrogates l n], none)
    else if isLeading n then ([Text.Utf8.replacement], some n)
    else ([Text.Utf8.replacement, Char.ofNat n], none)
  | none =>
    if isLeading n then ([], some n)
    else if isTrailing n then ([Text.Utf8.replacement], none)
    else ([Char.ofNat n], none)

def Run.add (r : Run) (letter : Nat) : List Char × Run :=
  let bits := r.bits ++ sixBits letter
  if bits.length < 16 then ([], { r with bits })
  else
    let (cs, leading) := Run.take r.leading (bitsValue (bits.take 16))
    (cs, { bits := bits.drop 16, leading })

/-- A run may not end within a unit, and the bits left over are zero. -/
def Run.isFlawed (r : Run) : Bool := 6 ≤ r.bits.length || r.bits.contains true

def isDirect (c : Char) : Bool := c.toNat < 0x80 && c != '+'

/-- Reads on outside of runs, or inside of one. A flawed run takes the character after it along. -/
def decodeShifted : (run? : Option Run) → List Char → List Char
  | none, [] => []
  | some r, [] => if r.isFlawed || r.leading.isSome then [Text.Utf8.replacement] else []
  | none, '+' :: '-' :: cs => '+' :: decodeShifted none cs
  | none, ['+'] => []
  | none, '+' :: c :: cs =>
    match letterValue? c with
    | some n =>
      let (out, r) := Run.add {} n
      out ++ decodeShifted (some r) cs
    | none => Text.Utf8.replacement :: decodeShifted none cs
  | none, c :: cs => (if isDirect c then c else Text.Utf8.replacement) :: decodeShifted none cs
  | some r, c :: cs =>
    match letterValue? c with
    | some n =>
      let (out, r) := r.add n
      out ++ decodeShifted (some r) cs
    | none =>
      if r.isFlawed then Text.Utf8.replacement :: decodeShifted none cs
      else
        (if r.leading.isSome && isDirect c then [Text.Utf8.replacement] else [])
          ++ (if c = '-' then [] else [if isDirect c then c else Text.Utf8.replacement])
          ++ decodeShifted none cs

end TemplatedRequests.Charset
