/-!
Binary floating point numbers of 53 bits, held exactly. Quotients and decimals are rounded to the
nearest of them, a tie to the even one.
-/

namespace TemplatedRequests

/-- A finite number is `± mantissa · 2 ^ exponent`. Its mantissa has 53 bits, or fewer at the least
exponent. -/
inductive Binary64 where
  | finite (negative : Bool) (mantissa : Nat) (exponent : Int)
  | infinite (negative : Bool)
  | nan
  deriving DecidableEq, Repr

namespace Binary64

def leastExponent : Int := -1074

def greatestExponent : Int := 971

def leastFull : Nat := 1 <<< 52

/-- The quotient to the nearest integer, a tie to the even one. -/
def roundQuotient (num den : Nat) : Nat :=
  let q := num / den
  let r := num % den
  if 2 * r < den then q else if den < 2 * r then q + 1 else q + q % 2

/-- Numerator and denominator of `num / den` divided by a power of two. -/
def scaled (num den : Nat) : Int → Nat × Nat
  | .ofNat e => (num, den <<< e)
  | .negSucc e => (num <<< (e + 1), den)

/-- The exponent at which a positive quotient has 53 bits before the point. -/
def exponentOf (num den : Nat) : Int :=
  let guess := (Nat.log2 num : Int) - Nat.log2 den - 52
  let (n, d) := scaled num den guess
  if n < leastFull * d then guess - 1 else guess

def ofQuotient (negative : Bool) (num den : Nat) : Binary64 :=
  if num = 0 then .finite negative 0 leastExponent
  else
    let e := max (exponentOf num den) leastExponent
    let (n, d) := scaled num den e
    let m := roundQuotient n d
    let (m, e) := if m = 2 * leastFull then (leastFull, e + 1) else (m, e)
    if greatestExponent < e then .infinite negative else .finite negative m e

/-- Past this many digits before or after the point a decimal is infinite or zero for certain. -/
def decimalReach : Int := 400

def ofDecimal (negative : Bool) (coefficient : Nat) (exponent : Int) : Binary64 :=
  if coefficient = 0 then .finite negative 0 leastExponent
  else
    let size := exponent + (Nat.log2 coefficient * 3 / 10 : Nat)
    if decimalReach < size then .infinite negative
    else if size + (Nat.log2 coefficient : Int) / 10 < -decimalReach then
      .finite negative 0 leastExponent
    else match exponent with
      | .ofNat e => ofQuotient negative (coefficient * Nat.pow 10 e) 1
      | .negSucc e => ofQuotient negative coefficient (Nat.pow 10 (e + 1))

def truncate? : Binary64 → Option Int
  | finite negative m e =>
    let n : Nat := match e with
      | .ofNat e => m <<< e
      | .negSucc e => m >>> (e + 1)
    some (if negative then -n else n)
  | _ => none

def isFinite : Binary64 → Bool
  | finite .. => true
  | _ => false

def isInteger : Binary64 → Bool
  | finite _ m (.negSucc e) => (m >>> (e + 1)) <<< (e + 1) == m
  | finite _ _ (.ofNat _) => true
  | _ => false

end Binary64

end TemplatedRequests
