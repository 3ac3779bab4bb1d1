/-!
Lines of a text. A line ends at a break; a carriage return with its line feed is one break, and a
break at the very end starts no further line.
-/

namespace TemplatedRequests.Text

def isBreak (c : Char) : Bool :=
  (0x0a ≤ c.toNat && c.toNat ≤ 0x0d) || (0x1c ≤ c.toNat && c.toNat ≤ 0x1e)
    || c.toNat == 0x85 || c.toNat == 0x2028 || c.toNat == 0x2029

def consFirst (c : Char) : List (List Char) → List (List Char)
  | [] => [[c]]
  | l :: ls => (c :: l) :: ls

def lines : List Char → List (List Char)
  | [] => []
  | '\r' :: '\n' :: r => [] :: lines r
  | c :: r => if isBreak c then [] :: lines r else consFirst c (lines r)

/-- Writes every line end of a file as one line feed. -/
def unifyLineEnds : List Char → List Char
  | [] => []
  | '\r' :: '\n' :: r => '\n' :: unifyLineEnds r
  | c :: r => (if c = '\r' then '\n' else c) :: unifyLineEnds r

@[simp] theorem unifyLineEnds_nil : unifyLineEnds [] = [] := rfl

@[simp] theorem lines_nil : lines [] = [] := rfl

theorem lines_cons_of_break {c : Char} {r : List Char} (h : isBreak c = true)
    (hr : ∀ s, c = '\r' → r = '\n' :: s → False) : lines (c :: r) = [] :: lines r := by
  rw [lines, if_pos h]
  exact hr

theorem lines_cons_of_no_break {c : Char} {r : List Char} (h : isBreak c = false) :
    lines (c :: r) = consFirst c (lines r) := by
  have hc : c ≠ '\r' := by
    rintro rfl
    cases h
  rw [lines, if_neg (by simp [h])]
  exact fun _ h => absurd h hc

theorem lines_of_no_break {cs : List Char} (h : ∀ c ∈ cs, isBreak c = false) (hn : cs ≠ []) :
    lines cs = [cs] := by
  induction cs with
  | nil => exact absurd rfl hn
  | cons c r ih =>
    rw [lines_cons_of_no_break (h c (by simp))]
    cases r with
    | nil => rfl
    | cons d s => rw [ih (fun e he => h e (by simp [he])) (by simp)]; rfl

end TemplatedRequests.Text
