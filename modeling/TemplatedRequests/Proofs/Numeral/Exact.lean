import Mathlib.Data.Nat.Digits.Defs
import TemplatedRequests.Proofs.Numeral.Written
import TemplatedRequests.Text.Blank

/-!
Which texts are integers to the letter, and which of them are read. An integer is a sign, which may be
missing, and digits of any script, and it is the number that the digits denote. Nothing else is read,
no blanks around an integer either, except that one line feed after it goes unnoticed.
-/

namespace TemplatedRequests.Numeral

/-- A sign, which may be missing, and digits, and nothing else. -/
structure IsSigned (cs sign digits : List Char) : Prop where
  sign_eq : sign = [] ∨ sign = ['+'] ∨ sign = ['-']
  isDigit : ∀ c ∈ digits, Text.isDigit c = true
  ne_nil : digits ≠ []
  eq_append : cs = sign ++ digits

/-- The integer that decimal digits denote after a sign, the last digit standing for ones. -/
def denoted (sign digits : List Char) : Int :=
  let n : Nat := Nat.ofDigits 10 (digits.filterMap Text.digitValue?).reverse
  if sign = ['-'] then -(n : Int) else n

/-- The text is read if it is a signed integer and not otherwise, and then as the integer that its digits
denote. In particular printed integers are read back, and blanks at either end keep a text from being read. -/
structure IsReadExactly (cs : List Char) : Prop where
  none_iff : parse cs = .ok none ↔ ¬∃ sign digits, IsSigned cs sign digits
  value : ∀ sign digits, IsSigned cs sign digits → parse cs = .ok (some (denoted sign digits))
  printed : ∀ n : Int, cs = (toString n).toList → parse cs = .ok (some n)
  blank : Text.trim cs ≠ cs → parse cs = .ok none

/-- A signed integer with a line feed after it. -/
def IsBroken (cs : List Char) : Prop :=
  ∃ body sign digits, cs = body ++ ['\n'] ∧ IsSigned body sign digits

variable {cs body sign digits : List Char}

theorem ofDigits_eq (ds : List Nat) : ofDigits ds = Nat.ofDigits 10 ds.reverse := by
  rw [Nat.ofDigits_eq_foldr, List.foldr_reverse, ofDigits]
  simp only [Nat.cast_id, Nat.add_comm]

theorem signedValue_eq_denoted (sign digits : List Char) :
    signedValue sign digits = denoted sign digits := by
  rw [signedValue, denoted, ofDigits_eq]

theorem isBlank_eq_false_of_isDigit {c : Char} (h : Text.isDigit c = true) :
    Text.isBlank c = false := by
  obtain ⟨n, hn⟩ := Text.isDigit_eq_true_iff.1 h
  obtain ⟨z, hz, -⟩ := Option.map_eq_some_iff.1 hn
  have hrange : z ≤ c.toNat ∧ c.toNat < z + 10 := by simpa using List.find?_some hz
  have hapart : ∀ z ∈ Text.digitZeros, ∀ r ∈ Text.blanks, r.2 < z ∨ z + 9 < r.1 := by decide
  exact Text.isBlank_eq_false_of_range (hapart z (List.mem_of_find?_eq_some hz)) hrange.1
    (Nat.le_of_lt_succ hrange.2)

namespace IsSigned

variable (h : IsSigned cs sign digits)
include h

theorem isWritten_append {tail : List Char} (htail : tail = [] ∨ tail = ['\n']) :
    IsWritten (cs ++ tail) sign digits where
  sign_eq := h.sign_eq
  isDigit := h.isDigit
  ne_nil := h.ne_nil
  eq_append := ⟨tail, htail, by rw [h.eq_append, List.append_assoc]⟩

theorem isWritten : IsWritten cs sign digits := by
  simpa using h.isWritten_append (.inl rfl)

theorem getLast?_isDigit {c : Char} (hc : cs.getLast? = some c) : Text.isDigit c = true := by
  rw [h.eq_append, List.getLast?_append_of_ne_nil _ h.ne_nil] at hc
  exact h.isDigit c (List.mem_of_getLast? hc)

theorem isBlank_eq_false_of_head? {c : Char} (hc : cs.head? = some c) : Text.isBlank c = false := by
  rw [h.eq_append] at hc
  obtain hs | hs | hs := h.sign_eq
  · rw [hs, List.nil_append] at hc
    exact isBlank_eq_false_of_isDigit (h.isDigit c (List.mem_of_head? hc))
  · rw [hs] at hc
    cases hc
    decide
  · rw [hs] at hc
    cases hc
    decide

theorem trim_eq : Text.trim cs = cs :=
  Text.trim_eq_self_iff.2
    ⟨fun _ hc => h.isBlank_eq_false_of_head? hc,
      fun _ hc => isBlank_eq_false_of_isDigit (h.getLast?_isDigit hc)⟩

end IsSigned

theorem isWritten_iff : IsWritten cs sign digits ↔
    IsSigned cs sign digits ∨ ∃ body, cs = body ++ ['\n'] ∧ IsSigned body sign digits := by
  constructor
  · rintro ⟨hs, hd, hne, tail, rfl | rfl, heq⟩
    · exact .inl ⟨hs, hd, hne, by rw [heq, List.append_nil]⟩
    · exact .inr ⟨sign ++ digits, by rw [heq, List.append_assoc], hs, hd, hne, rfl⟩
  · rintro (h | ⟨body, rfl, h⟩)
    · exact h.isWritten
    · exact h.isWritten_append (.inr rfl)

theorem not_isSigned_lineFeed : ¬IsSigned (body ++ ['\n']) sign digits := fun h =>
  (ne_of_isDigit (h.getLast?_isDigit List.getLast?_concat)).2.2 rfl

theorem IsWritten.parse_eq (h : IsWritten cs sign digits) (hlimit : cs.countP Text.isDigit ≤ digitLimit) :
    parse cs = .ok (some (denoted sign digits)) := by
  rw [parse_of_isWritten h, if_pos (h.length_le_countP.trans hlimit), signedValue_eq_denoted]

theorem isReadExactly_of_not_isBroken (hlimit : cs.countP Text.isDigit ≤ digitLimit)
    (h : ¬IsBroken cs) : IsReadExactly cs := by
  have hnone : parse cs = .ok none ↔ ¬∃ sign digits, IsSigned cs sign digits := by
    rw [parse_eq_none_iff, not_iff_not]
    constructor
    · rintro ⟨sign, digits, hw⟩
      obtain hsigned | ⟨body, heq, hsigned⟩ := isWritten_iff.1 hw
      · exact ⟨sign, digits, hsigned⟩
      · exact absurd ⟨body, sign, digits, heq, hsigned⟩ h
    · rintro ⟨sign, digits, hsigned⟩
      exact ⟨sign, digits, hsigned.isWritten⟩
  refine ⟨hnone, fun sign digits hsigned => hsigned.isWritten.parse_eq hlimit, ?_, fun htrim => ?_⟩
  · rintro n rfl
    exact parse_toString ((isWritten_toString n).length_le_countP.trans hlimit)
  · rw [hnone]
    rintro ⟨sign, digits, hsigned⟩
    exact htrim hsigned.trim_eq

/-- A text is read as it should be unless it is a signed integer with a line feed after it. Then the
integer before the line feed is read. -/
theorem isReadExactly_iff_not_isBroken (hlimit : cs.countP Text.isDigit ≤ digitLimit) :
    (IsReadExactly cs ↔ ¬IsBroken cs) ∧
    ∀ body sign digits, cs = body ++ ['\n'] → IsSigned body sign digits →
      parse cs = .ok (some (denoted sign digits)) := by
  have hbroken : ∀ body sign digits, cs = body ++ ['\n'] → IsSigned body sign digits →
      parse cs = .ok (some (denoted sign digits)) := by
    rintro body sign digits rfl hsigned
    exact (hsigned.isWritten_append (.inr rfl)).parse_eq hlimit
  refine ⟨⟨?_, isReadExactly_of_not_isBroken hlimit⟩, hbroken⟩
  rintro hread ⟨body, sign, digits, rfl, hsigned⟩
  have hnone : parse (body ++ ['\n']) = .ok none :=
    hread.none_iff.2 fun ⟨_, _, h⟩ => not_isSigned_lineFeed h
  cases hnone.symm.trans (hbroken body sign digits rfl hsigned)

/-- Digits of two scripts after a sign. -/
theorem isReadExactly_twoScripts :
    IsReadExactly ['-', '٣', '4'] ∧ parse ['-', '٣', '4'] = .ok (some (-34)) := by
  have hsigned : IsSigned ['-', '٣', '4'] ['-'] ['٣', '4'] :=
    ⟨by decide, List.all_eq_true.1 (by decide), by decide, rfl⟩
  have hread : IsReadExactly ['-', '٣', '4'] :=
    (isReadExactly_iff_not_isBroken (by decide)).1.2 fun ⟨_, _, _, heq, _⟩ => by
      have := congrArg List.getLast? heq
      simp at this
  have hvalue : denoted ['-'] ['٣', '4'] = -34 := by decide
  exact ⟨hread, hvalue ▸ hread.value _ _ hsigned⟩

/-- The line feed after the digit is blank, and the text is read nevertheless. -/
theorem not_forall_isReadExactly :
    ¬ ∀ cs : List Char, cs.countP Text.isDigit ≤ digitLimit → IsReadExactly cs := by
  intro h
  have hnone := (h ['1', '\n'] (by decide)).blank (by decide)
  have hone : parse ['1', '\n'] = .ok (some 1) := by decide
  cases hnone.symm.trans hone

end TemplatedRequests.Numeral
