import Mathlib.Data.List.TakeWhile
import TemplatedRequests.Json.Writer
import TemplatedRequests.Proofs.Json.Fitting

/-!
Strings and numbers as they are written, and that they are read again.
-/

namespace TemplatedRequests.Json

section Strings

variable {c : Char} {rest : List Char}

theorem hexDigit?_digitChar : ∀ d < 16, Text.hexDigit? (Nat.digitChar d) = some d := by decide

theorem hexFour?_hex {n : Nat} (h : n < 0x10000) :
    hexFour? (Nat.digitChar (n / 16 / 16 / 16 % 16)) (Nat.digitChar (n / 16 / 16 % 16))
      (Nat.digitChar (n / 16 % 16)) (Nat.digitChar (n % 16)) = some n := by
  have hdigit : ∀ m, Text.hexDigit? (Nat.digitChar (m % 16)) = some (m % 16) := fun m =>
    hexDigit?_digitChar _ (Nat.mod_lt _ (by decide))
  have hsum : n / 16 / 16 / 16 % 16 * 4096 + n / 16 / 16 % 16 * 256 + n / 16 % 16 * 16 + n % 16
      = n := by omega
  simp [hexFour?, hdigit, hsum]

theorem isHighSurrogate_eq_false {n : Nat} (h : n < 0xd800) : isHighSurrogate n = false := by
  simp only [isHighSurrogate, Bool.and_eq_false_iff, decide_eq_false_iff_not]
  omega

theorem charOfCode_toNat (h : c.toNat < 0xd800) : charOfCode c.toNat = c := by
  have hlow : isLowSurrogate c.toNat = false := by
    simp only [isLowSurrogate, Bool.and_eq_false_iff, decide_eq_false_iff_not]
    omega
  simp [charOfCode, isHighSurrogate_eq_false h, hlow]

/-- The text goes on after the four digits, as they may not end it. -/
theorem readCode_hex (h : c.toNat < 0xd800) (hrest : rest ≠ []) :
    readCode (Text.hex 4 c.toNat ++ rest) = .ok (c, rest) := by
  have hcode : c.toNat < 0x10000 := by omega
  simp [Text.hex, readCode, hexFour?_hex hcode, hrest, isHighSurrogate_eq_false h,
    charOfCode_toNat h]

theorem escaped_cases (c : Char) :
    (∃ e, escaped c = ['\\', e] ∧ escapeOf? e = some c) ∨
    (escaped c = '\\' :: 'u' :: Text.hex 4 c.toNat ∧ c.toNat < 0x20) ∨
    escaped c = [c] ∧ c ≠ '"' ∧ c ≠ '\\' ∧ ¬c.toNat < 0x20 := by
  unfold escaped
  split
  · rename_i h
    obtain rfl | rfl := h <;> exact .inl ⟨_, rfl, rfl⟩
  iterate 5
    split
    · subst_vars
      exact .inl ⟨_, rfl, rfl⟩
  split
  · exact .inr (.inl ⟨rfl, ‹_›⟩)
  · rename_i hspecial _ _ _ _ _ hcontrol
    obtain ⟨hquote, hbackslash⟩ := not_or.1 hspecial
    exact .inr (.inr ⟨rfl, hquote, hbackslash, hcontrol⟩)

theorem readString_escaped (start : List Char) (c : Char) (hrest : rest ≠ []) :
    readString start (escaped c ++ rest) =
      (readString start rest).map fun p => (c :: p.1, p.2) := by
  rcases escaped_cases c with ⟨e, hc, he⟩ | ⟨hc, hcontrol⟩ | ⟨hc, hquote, hbackslash, hcontrol⟩
  · have hu : e ≠ 'u' := by
      rintro rfl
      cases he
    -- `readString` tells a short escape from four digits by `hu`
    simp [hc, readString, he]
  · rw [hc, List.cons_append, List.cons_append, readString, readCode_hex (by omega) hrest]
  · simp [hc, readString, hbackslash, hcontrol]

theorem readString_quoted (start cs rest : List Char) :
    readString start (cs.flatMap escaped ++ '"' :: rest) = .ok (cs, rest) := by
  induction cs with
  | nil => rw [List.flatMap_nil, List.nil_append, readString]
  | cons c cs ih =>
    rw [List.flatMap_cons, List.append_assoc, readString_escaped start c (by simp), ih]
    rfl

end Strings

section Numbers

variable {numbers : Numbers} {cs rest : List Char} {n : Int}

/-- The text after a value in an object or an array, or at the end of a text. -/
inductive IsEnd : List Char → Prop
  | nil : IsEnd []
  | comma (r) : IsEnd (',' :: r)
  | bracket (r) : IsEnd (']' :: r)
  | brace (r) : IsEnd ('}' :: r)

theorem takeWhile_of_isEnd (h : IsEnd rest) : rest.takeWhile isDigit = [] := by
  cases h <;> rfl

theorem dropWhile_of_isEnd (h : IsEnd rest) : rest.dropWhile isDigit = rest := by
  cases h <;> rfl

theorem takeWhile_append_of_isEnd (h : IsEnd rest) (cs : List Char) :
    (cs ++ rest).takeWhile isDigit = cs.takeWhile isDigit := by
  induction cs with
  | nil => exact takeWhile_of_isEnd h
  | cons c cs ih => simp only [List.cons_append, List.takeWhile_cons, ih]

theorem dropWhile_append_of_isEnd (h : IsEnd rest) (cs : List Char) :
    (cs ++ rest).dropWhile isDigit = cs.dropWhile isDigit ++ rest := by
  induction cs with
  | nil => exact dropWhile_of_isEnd h
  | cons c cs ih =>
    simp only [List.cons_append, List.dropWhile_cons, ih]
    split <;> rfl

theorem wholePart_of_head?_ne (h : cs.head? ≠ some '0') :
    wholePart cs = (cs.takeWhile isDigit, cs.dropWhile isDigit) := by
  unfold wholePart
  split
  · exact absurd rfl h
  · rfl

theorem fractionPart_of_head?_ne (h : cs.head? ≠ some '.') : fractionPart cs = ([], cs) := by
  unfold fractionPart
  split
  · exact absurd rfl h
  · rfl

theorem wholePart_append (h : IsEnd rest) (cs : List Char) :
    wholePart (cs ++ rest) = (wholePart cs).map id (· ++ rest) := by
  cases cs with
  | nil => cases h <;> rfl
  | cons c cs =>
    by_cases hc : c = '0'
    · subst hc
      rfl
    · have hne : (c :: cs).head? ≠ some '0' := by simpa using hc
      have hne' : (c :: cs ++ rest).head? ≠ some '0' := by simpa using hc
      rw [wholePart_of_head?_ne hne, wholePart_of_head?_ne hne', takeWhile_append_of_isEnd h,
        dropWhile_append_of_isEnd h]
      rfl

theorem fractionPart_append (h : IsEnd rest) (cs : List Char) :
    fractionPart (cs ++ rest) = (fractionPart cs).map id (· ++ rest) := by
  cases cs with
  | nil => cases h <;> rfl
  | cons c cs =>
    by_cases hc : c = '.'
    · subst hc
      simp only [List.cons_append, fractionPart, takeWhile_append_of_isEnd h,
        dropWhile_append_of_isEnd h]
      split <;> rfl
    · have hne : (c :: cs).head? ≠ some '.' := by simpa using hc
      have hne' : (c :: cs ++ rest).head? ≠ some '.' := by simpa using hc
      rw [fractionPart_of_head?_ne hne, fractionPart_of_head?_ne hne']
      rfl

theorem powerSignPart_of_ne {e : Char} (h : ¬(e = 'e' ∨ e = 'E')) (cs : List Char) :
    powerSignPart (e :: cs) = ([], e :: cs) := by
  unfold powerSignPart
  split <;> simp_all

theorem powerSignPart_append (h : IsEnd rest) (cs : List Char) :
    powerSignPart (cs ++ rest) = (powerSignPart cs).map id (· ++ rest) := by
  cases cs with
  | nil => cases h <;> first | rfl | exact powerSignPart_of_ne (by decide) _
  | cons e cs =>
    by_cases he : e = 'e' ∨ e = 'E'
    · cases cs with
      | nil => cases h <;> simp [powerSignPart, he]
      | cons s cs =>
        by_cases hplus : s = '+'
        · simp [powerSignPart, he, hplus]
        · by_cases hminus : s = '-'
          · simp [powerSignPart, he, hminus]
          · simp [powerSignPart, he, hplus, hminus]
    · rw [List.cons_append, powerSignPart_of_ne he, powerSignPart_of_ne he]
      rfl

theorem powerPart_append (h : IsEnd rest) (cs : List Char) :
    powerPart (cs ++ rest) = (powerPart cs).map id (· ++ rest) := by
  unfold powerPart
  rw [powerSignPart_append h, apply_ite (Prod.map id (· ++ rest))]
  simp only [Prod.map, id, takeWhile_append_of_isEnd h, dropWhile_append_of_isEnd h]

def literalAfter? (negative : Bool) (cs : List Char) : Option (Literal × List Char) :=
  let (whole, r) := wholePart cs
  if whole.isEmpty then none
  else
    let (fraction, r) := fractionPart r
    let ((powerSign, power), r) := powerPart r
    some (⟨negative, whole, fraction, powerSign, power⟩, r)

theorem readLiteral?_minus (cs : List Char) : readLiteral? ('-' :: cs) = literalAfter? true cs := rfl

theorem readLiteral?_of_head?_ne (h : cs.head? ≠ some '-') :
    readLiteral? cs = literalAfter? false cs := by
  unfold readLiteral?
  split
  rename_i hsign
  split at hsign
  · exact absurd rfl h
  · cases hsign
    rfl

theorem literalAfter?_append (h : IsEnd rest) (negative : Bool) (cs : List Char) :
    literalAfter? negative (cs ++ rest) =
      (literalAfter? negative cs).map fun p => (p.1, p.2 ++ rest) := by
  simp only [literalAfter?, wholePart_append h, Prod.map_fst, Prod.map_snd, fractionPart_append h,
    powerPart_append h, id]
  split <;> rfl

theorem readLiteral?_append (h : IsEnd rest) (cs : List Char) :
    readLiteral? (cs ++ rest) = (readLiteral? cs).map fun p => (p.1, p.2 ++ rest) := by
  cases cs with
  | nil => cases h <;> rfl
  | cons c cs =>
    by_cases hc : c = '-'
    · subst hc
      exact literalAfter?_append h true cs
    · have hne : (c :: cs).head? ≠ some '-' := by simpa using hc
      have hne' : (c :: cs ++ rest).head? ≠ some '-' := by simpa using hc
      rw [readLiteral?_of_head?_ne hne, readLiteral?_of_head?_ne hne']
      exact literalAfter?_append h false (c :: cs)

theorem readNumber_append {v : Value} (h : IsEnd rest) (hv : readNumber numbers cs = .ok (v, [])) :
    readNumber numbers (cs ++ rest) = .ok (v, rest) := by
  unfold readNumber at hv ⊢
  rw [readLiteral?_append h]
  cases hl : readLiteral? cs with
  | none =>
    rw [hl] at hv
    cases hv
  | some p =>
    obtain ⟨l, r⟩ := p
    rw [hl] at hv
    cases hvalue : l.value numbers with
    | error fault => simp [hvalue] at hv
    | ok u => simp_all

theorem isDigit_of_mem_toString {n : Nat} {c : Char} (h : c ∈ (toString n).toList) :
    isDigit c = true := by
  simp only [isDigit, Bool.and_eq_true, decide_eq_true_eq]
  exact Numeral.digit_of_mem_toString h

/-- A zero in front would leave fewer digits than the number has. -/
theorem wholePart_toString (n : Nat) : wholePart (toString n).toList = ((toString n).toList, []) := by
  have hdigits : ∀ c ∈ (toString n).toList, isDigit c = true := fun c => isDigit_of_mem_toString
  by_cases h : (toString n).toList.head? = some '0'
  · obtain ⟨cs, hcs⟩ := List.head?_eq_some_iff.1 h
    cases cs with
    | nil =>
      rw [hcs]
      rfl
    | cons c cs =>
      rw [hcs] at hdigits
      have hlt := Numeral.ofDigits_lt (forall_digitsOf_lt (List.forall_mem_cons.1 hdigits).2)
      have hn : Numeral.ofDigits (digitsOf (c :: cs)) = n := by
        have := Numeral.ofDigits_toString n
        rwa [hcs] at this
      rw [hn, digitsOf, List.length_map, ← Numeral.length_toString_le_iff (by simp), hcs,
        List.length_cons] at hlt
      omega
  · rw [wholePart_of_head?_ne h, List.takeWhile_eq_self_iff.2 hdigits,
      List.dropWhile_eq_nil_iff.2 hdigits]

theorem literalAfter?_toString (negative : Bool) (n : Nat) :
    literalAfter? negative (toString n).toList =
      some (⟨negative, (toString n).toList, [], [], []⟩, []) := by
  simp only [literalAfter?, wholePart_toString]
  simp [fractionPart, powerPart, powerSignPart]

theorem readLiteral?_toString (n : Int) : readLiteral? (toString n).toList =
    some (⟨decide (n < 0), (toString n.natAbs).toList, [], [], []⟩, []) := by
  by_cases h : n < 0
  · rw [Numeral.toList_toString_of_neg h, readLiteral?_minus, literalAfter?_toString, decide_eq_true h]
  · rw [Numeral.toString_of_nonneg (by omega), readLiteral?_of_head?_ne, literalAfter?_toString,
      decide_eq_false h]
    intro hminus
    have := isDigit_of_mem_toString (List.mem_of_mem_head? hminus)
    revert this
    decide

theorem readNumber_toString (h : IsShort n) :
    readNumber numbers (toString n).toList = .ok (.int n, []) := by
  have hlimited : Numeral.limited (digitsOf (toString n.natAbs).toList) = .ok n.natAbs := by
    have hlength : (digitsOf (toString n.natAbs).toList).length ≤ Numeral.digitLimit := by
      rwa [digitsOf, List.length_map]
    rw [Numeral.limited, if_pos hlength, digitsOf, Numeral.ofDigits_toString]
  have hn : (if n < 0 then -(n.natAbs : Int) else n.natAbs) = n := by
    split <;> omega
  rw [readNumber, readLiteral?_toString]
  simp only [Literal.value, Literal.isInteger, List.isEmpty_nil, Bool.and_self, if_true, hlimited,
    decide_eq_true_eq, hn]

def ReadsBack (numbers : Numbers) (x : Binary64) : Prop :=
  readNumber numbers (numberLayout.render x).toList = .ok (.float x, [])

end Numbers

section Values

variable {numbers : Numbers} {room fuel : Nat} {cs r : List Char} {v : Value}

theorem readValue_of_readNumber (h : readNumber numbers cs = .ok (v, r)) (room fuel : Nat) :
    readValue numbers room (fuel + 1) cs = .ok (v, r) := by
  unfold readValue
  split
  all_goals first
    | cases h
    | exact h

theorem head_of_readNumber (h : readNumber numbers cs = .ok (v, r)) :
    ∃ c, cs.head? = some c ∧ isBlank c = false ∧ c ≠ ']' ∧ c ≠ '\ufeff' := by
  cases cs with
  | nil => cases h
  | cons c cs =>
    refine ⟨c, rfl, ?_, ?_, ?_⟩
    · rw [Bool.eq_false_iff]
      intro hblank
      simp only [isBlank, Bool.or_eq_true, decide_eq_true_eq] at hblank
      obtain ((rfl | rfl) | rfl) | rfl := hblank <;> cases h
    · rintro rfl
      cases h
    · rintro rfl
      cases h

theorem head_of_readValue (h : readValue numbers room fuel cs = .ok (v, r)) :
    ∃ c, cs.head? = some c ∧ isBlank c = false ∧ c ≠ ']' ∧ c ≠ '\ufeff' := by
  cases fuel with
  | zero => cases h
  | succ fuel =>
    unfold readValue at h
    split at h
    all_goals first
      | exact head_of_readNumber h
      | exact ⟨_, rfl, rfl, by decide, by decide⟩

theorem skipBlanks_of_readValue (h : readValue numbers room fuel cs = .ok (v, r)) :
    skipBlanks cs = cs := by
  obtain ⟨c, hc, hblank, -⟩ := head_of_readValue h
  obtain ⟨cs, rfl⟩ := List.head?_eq_some_iff.1 hc
  rw [skipBlanks, List.dropWhile_cons_of_neg (by simp [hblank])]

end Values

end TemplatedRequests.Json
