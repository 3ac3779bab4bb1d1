import TemplatedRequests.Text.Case.Table

/-!
Lower and upper case of a text. A capital sigma that ends a word becomes the final small sigma.
-/

namespace TemplatedRequests.Text

namespace Case

def isCased (c : Char) : Bool := cased.any fun r => r.1 ≤ c.toNat && c.toNat ≤ r.2

def isIgnorable (c : Char) : Bool := ignorable.any fun r => r.1 ≤ c.toNat && c.toNat ≤ r.2

def shiftBy (table : List Shift) (c : Char) : Char :=
  match table.find? (·.covers c.toNat) with
  | some s => Char.ofNat (c.toNat + s.offset).toNat
  | none => c

/-- The nearest character that case rules do not look through has case. -/
def seesCased (cs : List Char) : Bool := (cs.find? (!isIgnorable ·)).any isCased

def capitalSigma : Char := 'Σ'

/-- Small letter of `c` between the reversed text before it and the text after it. -/
def lowerAt (before : List Char) (c : Char) (after : List Char) : List Char :=
  if c = 'İ' then ['i', Char.ofNat 0x307]
  else if c = capitalSigma then [if seesCased before && !seesCased after then 'ς' else 'σ']
  else [shiftBy toLower c]

def lowerFrom (before : List Char) : List Char → List Char
  | [] => []
  | c :: r => lowerAt before c r ++ lowerFrom (c :: before) r

def upperOf (c : Char) : List Char :=
  match toUpperMany.find? (·.1 == c.toNat) with
  | some e => e.2.map Char.ofNat
  | none => [shiftBy toUpper c]

end Case

def lower (cs : List Char) : List Char := Case.lowerFrom [] cs

def upper (cs : List Char) : List Char := cs.flatMap Case.upperOf

def lowerCase (s : String) : String := String.ofList (lower s.toList)

def upperCase (s : String) : String := String.ofList (upper s.toList)

@[simp] theorem lower_nil : lower [] = [] := rfl

@[simp] theorem upper_nil : upper [] = [] := rfl

end TemplatedRequests.Text
