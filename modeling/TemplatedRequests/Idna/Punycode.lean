/-!
Text as letters, digits and hyphens. The characters of ASCII stand in front; the others follow in
the order of their code points, each as one number that tells how far on it is inserted.
-/

namespace TemplatedRequests.Idna.Punycode

/-- Small letters are the first digits, decimal digits the last ten of thirty-six. -/
def digitChar (d : Nat) : Char :=
  if d < 26 then Char.ofNat ('a'.toNat + d) else Char.ofNat ('0'.toNat + (d - 26))

def digitValue? (c : Char) : Option Nat :=
  if 'a' ≤ c ∧ c ≤ 'z' then some (c.toNat - 'a'.toNat)
  else if '0' ≤ c ∧ c ≤ '9' then some (c.toNat - '0'.toNat + 26)
  else none

/-- A digit below the threshold ends its number. -/
def threshold (place bias : Nat) : Nat := min 26 (max 1 (place - bias))

theorem threshold_pos (place bias : Nat) : 0 < threshold place bias := by
  simp only [threshold]; omega

/-- Divides until a step is small, and counts thirty-six for each division. -/
def shrink (step places : Nat) : Nat × Nat :=
  if 455 < step then shrink (step / 35) (places + 36) else (step, places)
termination_by step
decreasing_by omega

/-- The bias after a step; the first one is made smaller than the others. -/
def nextBias (step count : Nat) (first : Bool) : Nat :=
  let step := if first then step / 700 else step / 2
  let (step, places) := shrink (step + step / count) 0
  places + 36 * step / (step + 38)

def digits (bias place n : Nat) : List Char :=
  let t := threshold place bias
  if n < t then [digitChar n]
  else digitChar (t + (n - t) % (36 - t)) :: digits bias (place + 36) ((n - t) / (36 - t))
termination_by n
decreasing_by
  have := threshold_pos place bias
  have : (n - threshold place bias) / (36 - threshold place bias) ≤ n - threshold place bias :=
    Nat.div_le_self _ _
  omega

/-- How far a text is written: the digits so far, the distance gone since the last insertion, the
bias, and how many characters stand in the text. -/
structure Progress where
  written : List Char := []
  step : Nat := 0
  bias : Nat := 72
  count : Nat

/-- Passes one character on the way to the insertions of the code point `wanted`. -/
def Progress.pass (basic wanted : Nat) (p : Progress) (c : Nat) : Progress :=
  if c < wanted then { p with step := p.step + 1 }
  else if c = wanted then {
    written := p.written ++ digits p.bias 36 p.step
    step := 0
    bias := nextBias p.step (p.count + 1) (p.count == basic)
    count := p.count + 1 }
  else p

/-- Writes the insertions of code points, given in increasing order, from the code point `n` on. -/
def insertions (text : List Nat) (basic : Nat) : (wanted : List Nat) → (n : Nat) → Progress →
    List Char
  | [], _, p => p.written
  | c :: cs, n, p =>
    let p := text.foldl (Progress.pass basic c) { p with step := p.step + (c - n) * (p.count + 1) }
    insertions text basic cs (c + 1) { p with step := p.step + 1 }

def isBasic (c : Nat) : Bool := c < 0x80

def encode (text : List Nat) : List Char :=
  let basic := text.filter isBasic
  let wanted := ((text.filter (!isBasic ·)).mergeSort (· ≤ ·)).eraseDups
  basic.map Char.ofNat ++ (if basic.isEmpty then [] else ['-'])
    ++ insertions text basic.length wanted 0x80 { count := basic.length }

/-- Reads a number: its value and the text after it. `weight` is what a digit counts. -/
def number? (bias place weight : Nat) : List Char → Option (Nat × List Char)
  | [] => none
  | c :: r => match digitValue? c with
    | none => none
    | some d =>
      let t := threshold place bias
      if d < t then some (d * weight, r)
      else (number? bias (place + 36) (weight * (36 - t)) r).map fun p => (d * weight + p.1, p.2)

/-- Makes insertions, the next one counted from the start of the text at the code point `n`. Each
takes at least one digit. -/
def inserted? (text : List Nat) (n position bias : Nat) (first : Bool) :
    (bound : Nat) → List Char → Option (List Nat)
  | _, [] => some text
  | 0, _ => none
  | bound + 1, cs => match number? bias 36 1 cs with
    | none => none
    | some (step, r) =>
      let whole := position + step
      let c := n + whole / (text.length + 1)
      let place := whole % (text.length + 1)
      if 0x10ffff < c then none
      else
        let longer := text.insertIdx place c
        inserted? longer c (place + 1) (nextBias step longer.length first) false bound r

/-- The last hyphen ends the characters of ASCII. -/
def decode? (cs : List Char) : Option (List Nat) :=
  let numbers := (cs.reverse.takeWhile (· != '-')).reverse
  let basic := cs.take (cs.length - numbers.length - 1)
  inserted? (basic.map Char.toNat) 0x80 0 72 true numbers.length numbers

end TemplatedRequests.Idna.Punycode
