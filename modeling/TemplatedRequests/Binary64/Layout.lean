import TemplatedRequests.Binary64.Shortest

/-!
Numbers as text: the shortest digits, with a point in place or with a power of ten.
-/

namespace TemplatedRequests.Binary64

/-- Where the point may stand, counted in digits before it, for a number to be written without a
power of ten, and how many digits a power has at least. -/
structure Layout where
  leastPoint : Int
  greatestPoint : Int
  powerDigits : Nat
  infinity : String
  notANumber : String

/-- Plain notation reaches from `0.0001` up to sixteen digits before the point. -/
def Layout.plain : Layout := ⟨-3, 16, 2, "inf", "nan"⟩

def zeros (n : Nat) : String := String.ofList (List.replicate n '0')

def powerText (width : Nat) (power : Int) : String :=
  let digits := toString power.natAbs
  "e" ++ (if power < 0 then "-" else "+") ++ zeros (width - digits.length) ++ digits

def Layout.write (l : Layout) (d : Decimal) : String :=
  let digits := Nat.toDigits 10 d.coefficient
  let point := (digits.length : Int) + d.exponent
  if l.leastPoint ≤ point ∧ point ≤ l.greatestPoint then
    if point ≤ 0 then "0." ++ zeros (-point).toNat ++ String.ofList digits
    else if (digits.length : Int) ≤ point then
      String.ofList digits ++ zeros (point - digits.length).toNat ++ ".0"
    else
      String.ofList (digits.take point.toNat) ++ "." ++ String.ofList (digits.drop point.toNat)
  else
    let (first, rest) := (digits.take 1, digits.drop 1)
    String.ofList first ++ (if rest.isEmpty then "" else "." ++ String.ofList rest)
      ++ powerText l.powerDigits (point - 1)

def Layout.render (l : Layout) : Binary64 → String
  | nan => l.notANumber
  | infinite negative => (if negative then "-" else "") ++ l.infinity
  | finite negative 0 _ => (if negative then "-" else "") ++ "0.0"
  | finite negative m e => (if negative then "-" else "") ++ l.write (shortest m e)

end TemplatedRequests.Binary64
