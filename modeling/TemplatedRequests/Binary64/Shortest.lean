import TemplatedRequests.Binary64

/-!
The fewest decimal digits that read back as a number. Of the decimals with that many digits the
nearest one is taken.
-/

namespace TemplatedRequests.Binary64

structure Decimal where
  coefficient : Nat
  exponent : Int
  deriving DecidableEq, Repr

/-- The numbers that round to a given one lie between `low / den` and `high / den`; the number
itself is `mid / den`. -/
structure Interval where
  low : Nat
  mid : Nat
  high : Nat
  den : Nat
  closed : Bool

/-- The gap below a power of two is half the gap above it. -/
def interval (m : Nat) (e : Int) : Interval :=
  let below := if m = leastFull ∧ leastExponent < e then 1 else 2
  let (num, den) := scaled 1 1 (2 - e)
  ⟨(4 * m - below) * num, 4 * m * num, (4 * m + 2) * num, den, m % 2 == 0⟩

def Interval.holds (i : Interval) (num den : Nat) : Bool :=
  let a := num * i.den
  if i.closed then i.low * den ≤ a && a ≤ i.high * den
  else i.low * den < a && a < i.high * den

/-- How many times a quotient below one is multiplied by ten until it reaches one. -/
def leadingZeros : (bound : Nat) → (num den : Nat) → Nat
  | 0, _, _ => 0
  | b + 1, num, den => if den ≤ num then 0 else leadingZeros b (num * 10) den + 1

def magnitude (num den : Nat) : Int :=
  if den ≤ num then ((Nat.toDigits 10 (num / den)).length : Int)
  else 1 - (leadingZeros 400 num den : Int)

def scaledByTen (num den : Nat) : Int → Nat × Nat
  | .ofNat e => (num, den * Nat.pow 10 e)
  | .negSucc e => (num * Nat.pow 10 (e + 1), den)

/-- The neighbours of the number on the grid of multiples of `10 ^ exponent`, where they lie in
the interval; the nearer of two. -/
def onGrid? (i : Interval) (exponent : Int) : Option Decimal :=
  let (n, d) := scaledByTen i.mid i.den exponent
  let fits (c : Nat) : Bool :=
    let (cn, cd) := scaledByTen c 1 (-exponent)
    i.holds cn cd
  let below := n / d
  let above := below + 1
  let nearBelow := 2 * (n % d) < d || (2 * (n % d) == d && below % 2 == 0)
  match fits below, fits above with
  | true, true => some ⟨if nearBelow then below else above, exponent⟩
  | true, false => some ⟨below, exponent⟩
  | false, true => some ⟨above, exponent⟩
  | false, false => none

def Decimal.stripped : (bound : Nat) → (d : Decimal) → Decimal
  | 0, d => d
  | b + 1, d =>
    if d.coefficient % 10 = 0 then stripped b ⟨d.coefficient / 10, d.exponent + 1⟩ else d

def shortest (m : Nat) (e : Int) : Decimal :=
  let i := interval m e
  let p := magnitude i.mid i.den
  match (List.range 17).findSome? fun n : Nat => onGrid? i (p - (n + 1)) with
  | some d => Decimal.stripped 18 d
  | none => ⟨0, 0⟩

end TemplatedRequests.Binary64
