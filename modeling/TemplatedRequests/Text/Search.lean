/-!
Whether one text occurs in another.
-/

namespace TemplatedRequests.Text

def occurs (pattern : List Char) : List Char → Bool
  | [] => pattern.isEmpty
  | c :: r => pattern.isPrefixOf (c :: r) || occurs pattern r

def after? : (beginning : List Char) → List Char → Option (List Char)
  | [], cs => some cs
  | _ :: _, [] => none
  | b :: bs, c :: cs => if b = c then after? bs cs else none

theorem after?_eq_some_iff {bs cs r : List Char} : after? bs cs = some r ↔ cs = bs ++ r := by
  induction bs generalizing cs with
  | nil => simp [after?, eq_comm]
  | cons b bs ih =>
    cases cs with
    | nil => simp [after?]
    | cons c cs =>
      by_cases h : b = c
      · simp [after?, h, ih]
      · have h2 : ¬ c = b := fun t => h t.symm
        simp [after?, h, h2]

theorem occurs_iff {pattern cs : List Char} : occurs pattern cs = true ↔ pattern <:+: cs := by
  induction cs with
  | nil => simp [occurs]
  | cons c r ih =>
    rw [occurs, Bool.or_eq_true, List.isPrefixOf_iff_prefix, ih, List.infix_cons_iff]

end TemplatedRequests.Text
