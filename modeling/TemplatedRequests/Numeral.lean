import TemplatedRequests.Text.Digit

/-!
Integers as text: an optional sign and decimal digits of any script. A text of more than 4300
digits is refused.
-/

namespace TemplatedRequests.Numeral

def digitLimit : Nat := 4300

def digits? : List Char → Option (List Nat)
  | [] => some []
  | c :: r => match Text.digitValue? c with
    | some d => (digits? r).map (d :: ·)
    | none => none

def ofDigits (ds : List Nat) : Nat := ds.foldl (fun n d => 10 * n + d) 0

/-- A text of digits that is too long to be converted. -/
structure TooLong where
  digits : Nat
  deriving DecidableEq, Repr

def TooLong.message (t : TooLong) : String :=
  "Exceeds the limit (" ++ toString digitLimit ++ " digits) for integer string conversion: value "
    ++ "has " ++ toString t.digits
    ++ " digits; use sys.set_int_max_str_digits() to increase the limit"

def limited (ds : List Nat) : Except TooLong Nat :=
  if ds.length ≤ digitLimit then .ok (ofDigits ds) else .error ⟨ds.length⟩

def unsigned? (cs : List Char) : Option (List Nat) :=
  match digits? cs with
  | some (d :: ds) => some (d :: ds)
  | _ => none

/-- One line feed may follow the digits. -/
def dropFinalLineFeed : List Char → List Char
  | [] => []
  | ['\n'] => []
  | c :: r => c :: dropFinalLineFeed r

def parse (cs : List Char) : Except TooLong (Option Int) :=
  let (negative, rest) := match cs with
    | '-' :: r => (true, r)
    | '+' :: r => (false, r)
    | r => (false, r)
  match unsigned? (dropFinalLineFeed rest) with
  | none => .ok none
  | some ds => (limited ds).map fun n => some (if negative then -(n : Int) else n)

@[simp] theorem digits?_nil : digits? [] = some [] := rfl

theorem length_digits? {cs : List Char} {ds : List Nat} (h : digits? cs = some ds) :
    ds.length = cs.length := by
  induction cs generalizing ds with
  | nil => cases h; rfl
  | cons c r ih =>
    rw [digits?] at h
    split at h
    · obtain ⟨t, ht, rfl⟩ := Option.map_eq_some_iff.1 h
      simp [ih ht]
    · cases h

end TemplatedRequests.Numeral
