import TemplatedRequests.Fault

/-!
Offsets in time: a signed integer and a unit.
-/

namespace TemplatedRequests.Clock

inductive TimeUnit where
  | second
  | minute
  | hour
  | day
  deriving DecidableEq, Repr

namespace TimeUnit

def ofText? : String → Option TimeUnit
  | "s" => some second
  | "m" => some minute
  | "h" => some hour
  | "d" => some day
  | _ => none

def seconds : TimeUnit → Int
  | second => 1
  | minute => 60
  | hour => 3600
  | day => 86400

end TimeUnit

/-- A span of time in whole days, which may be negative, and the seconds left of a day. -/
structure Offset where
  days : Int
  seconds : Nat
  seconds_lt : seconds < 86400
  deriving DecidableEq, Repr

namespace Offset

def maxDays : Int := 999999999

def ofSeconds (n : Int) : Offset :=
  ⟨n / 86400, (n % 86400).toNat, by omega⟩

def toSeconds (o : Offset) : Int := o.days * 86400 + o.seconds

def inRange (o : Offset) : Bool := -maxDays ≤ o.days && o.days ≤ maxDays

@[simp] theorem toSeconds_ofSeconds (n : Int) : (ofSeconds n).toSeconds = n := by
  simp only [ofSeconds, toSeconds]
  omega

/-- Reads an amount and a unit; arguments after them are left alone. -/
def parse : (args : List String) → Except Fault Offset
  | amount :: unit :: _ =>
    match Numeral.parse amount.toList with
    | .error long => .error (.numeral long)
    | .ok none => .error (.badAmount amount)
    | .ok (some n) => match TimeUnit.ofText? unit with
      | none => .error (.badUnit unit)
      | some u =>
        let o := ofSeconds (n * u.seconds)
        if o.inRange then .ok o else .error (.offsetOutOfRange amount unit)
  | _ => .error .offsetWithoutUnit

end Offset

end TemplatedRequests.Clock
