/-!
Digits to base sixteen: written in lower case, read in either case.
-/

namespace TemplatedRequests.Text

/-- `width` digits of `n` to base sixteen, leading zeros kept. -/
def hex : (width : Nat) → (n : Nat) → List Char
  | 0, _ => []
  | w + 1, n => hex w (n / 16) ++ [Nat.digitChar (n % 16)]

def hexDigit? (c : Char) : Option Nat :=
  if '0' ≤ c ∧ c ≤ '9' then some (c.toNat - '0'.toNat)
  else if 'a' ≤ c ∧ c ≤ 'f' then some (c.toNat - 'a'.toNat + 10)
  else if 'A' ≤ c ∧ c ≤ 'F' then some (c.toNat - 'A'.toNat + 10)
  else none

end TemplatedRequests.Text
