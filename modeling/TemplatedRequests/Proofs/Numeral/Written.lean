import Mathlib.Data.List.Basic
import TemplatedRequests.Numeral

/-!
How integers are written: a sign, which may be missing, and digits, with one line feed allowed after
them. Any other text is no integer, and one of more digits than the limit is refused. Numbers are
printed in decimal digits.
-/

namespace TemplatedRequests.Numeral

/-- A text is made of a sign, digits and perhaps a line feed. -/
structure IsWritten (cs sign digits : List Char) : Prop where
  sign_eq : sign = [] ∨ sign = ['+'] ∨ sign = ['-']
  isDigit : ∀ c ∈ digits, Text.isDigit c = true
  ne_nil : digits ≠ []
  eq_append : ∃ tail, (tail = [] ∨ tail = ['\n']) ∧ cs = sign ++ (digits ++ tail)

def signedValue (sign digits : List Char) : Int :=
  let n := ofDigits (digits.filterMap Text.digitValue?)
  if sign = ['-'] then -(n : Int) else n

section Digits

variable {cs : List Char}

theorem digits?_of_forall (h : ∀ c ∈ cs, Text.isDigit c = true) :
    digits? cs = some (cs.filterMap Text.digitValue?) := by
  induction cs with
  | nil => rfl
  | cons c r ih =>
    obtain ⟨hc, hr⟩ := List.forall_mem_cons.1 h
    obtain ⟨n, hn⟩ := Text.isDigit_eq_true_iff.1 hc
    simp [digits?, hn, ih hr]

theorem forall_of_digits? {ds : List Nat} (h : digits? cs = some ds) :
    ∀ c ∈ cs, Text.isDigit c = true := by
  induction cs generalizing ds with
  | nil => simp
  | cons c r ih =>
    rw [digits?] at h
    split at h
    · rename_i d hd
      obtain ⟨t, ht, -⟩ := Option.map_eq_some_iff.1 h
      exact List.forall_mem_cons.2 ⟨Text.isDigit_eq_true_iff.2 ⟨d, hd⟩, ih ht⟩
    · cases h

theorem unsigned?_of_forall (h : ∀ c ∈ cs, Text.isDigit c = true) (hne : cs ≠ []) :
    unsigned? cs = some (cs.filterMap Text.digitValue?) := by
  have hd := digits?_of_forall h
  have hlength := length_digits? hd
  unfold unsigned?
  rw [hd]
  cases hds : cs.filterMap Text.digitValue? with
  | nil =>
    rw [hds] at hlength
    exact absurd (List.eq_nil_of_length_eq_zero hlength.symm) hne
  | cons d ds => rfl

theorem forall_of_unsigned? {ds : List Nat} (h : unsigned? cs = some ds) :
    (∀ c ∈ cs, Text.isDigit c = true) ∧ cs ≠ [] := by
  unfold unsigned? at h
  split at h
  · rename_i d ds hd
    refine ⟨forall_of_digits? hd, ?_⟩
    rintro rfl
    cases hd
  · cases h

theorem dropFinalLineFeed_append_lineFeed (cs : List Char) :
    dropFinalLineFeed (cs ++ ['\n']) = cs := by
  induction cs with
  | nil => rfl
  | cons c r ih =>
    rw [List.cons_append, dropFinalLineFeed, ih]
    simp

theorem dropFinalLineFeed_eq_self (h : '\n' ∉ cs) : dropFinalLineFeed cs = cs := by
  induction cs with
  | nil => rfl
  | cons c r ih =>
    obtain ⟨hc, hr⟩ := not_or.1 (mt List.mem_cons.2 h)
    rw [dropFinalLineFeed, ih hr]
    rintro rfl -
    exact hc rfl

theorem eq_dropFinalLineFeed (cs : List Char) :
    cs = dropFinalLineFeed cs ∨ cs = dropFinalLineFeed cs ++ ['\n'] := by
  fun_induction dropFinalLineFeed cs with
  | case1 => exact .inl rfl
  | case2 => exact .inr rfl
  | case3 c r _ ih =>
    rcases ih with h | h
    · exact .inl (congrArg _ h)
    · exact .inr (congrArg _ h)

end Digits

section Decimal

theorem toList_toString (n : Nat) : (toString n).toList = Nat.toDigits 10 n :=
  Nat.toList_repr

theorem digit_of_mem_toString {n : Nat} {c : Char} (h : c ∈ (toString n).toList) :
    48 ≤ c.toNat ∧ c.toNat ≤ 57 := by
  rw [toList_toString] at h
  have := Nat.isDigit_of_mem_toDigits (by decide) (by decide) h
  simpa [Char.isDigit, UInt32.le_iff_toNat_le] using this

theorem ofDigits_toString (n : Nat) :
    ofDigits ((toString n).toList.map fun c => c.toNat - '0'.toNat) = n := by
  rw [ofDigits, List.foldl_map, toList_toString, ← Nat.ofDigitChars_eq_foldl,
    Nat.ofDigitChars_ten_toDigits]

theorem toString_of_nonneg {n : Int} (h : 0 ≤ n) : toString n = toString n.natAbs := by
  cases n with
  | ofNat n => rfl
  | negSucc n => omega

theorem toList_toString_of_neg {n : Int} (h : n < 0) :
    (toString n).toList = '-' :: (toString n.natAbs).toList := by
  cases n with
  | ofNat n => exact absurd h (Int.not_lt.2 (Int.natCast_nonneg n))
  | negSucc n => simp [Int.toString_eq_repr, Int.repr_eq_if]

theorem foldl_digits_lt {ds : List Nat} (h : ∀ d ∈ ds, d < 10) (n : Nat) :
    ds.foldl (fun n d => 10 * n + d) n < (n + 1) * Nat.pow 10 ds.length := by
  induction ds generalizing n with
  | nil => simp
  | cons d ds ih =>
    obtain ⟨hd, hds⟩ := List.forall_mem_cons.1 h
    calc (d :: ds).foldl (fun n d => 10 * n + d) n
      _ < (10 * n + d + 1) * Nat.pow 10 ds.length := ih hds _
      _ ≤ 10 * (n + 1) * Nat.pow 10 ds.length := Nat.mul_le_mul_right _ (by omega)
      _ = (n + 1) * (Nat.pow 10 ds.length * 10) := by
        rw [Nat.mul_comm 10, Nat.mul_assoc, Nat.mul_comm 10]
      _ = (n + 1) * Nat.pow 10 (d :: ds).length := rfl

theorem ofDigits_lt {ds : List Nat} (h : ∀ d ∈ ds, d < 10) :
    ofDigits ds < Nat.pow 10 ds.length := by
  simpa [ofDigits] using foldl_digits_lt h 0

theorem length_toString_le_iff {n k : Nat} (hk : 0 < k) :
    (toString n).toList.length ≤ k ↔ n < Nat.pow 10 k := by
  rw [toList_toString]
  exact Nat.length_toDigits_le_iff (by decide) hk

end Decimal

section Parse

variable {cs sign digits : List Char}

theorem IsWritten.length_le_countP (h : IsWritten cs sign digits) :
    digits.length ≤ cs.countP Text.isDigit := by
  obtain ⟨tail, -, heq⟩ := h.eq_append
  have hall := List.countP_eq_length.2 h.isDigit
  rw [heq, List.countP_append, List.countP_append, hall]
  omega

theorem ne_of_isDigit {c : Char} (h : Text.isDigit c = true) : c ≠ '+' ∧ c ≠ '-' ∧ c ≠ '\n' := by
  refine ⟨?_, ?_, ?_⟩ <;>
  · rintro rfl
    revert h
    decide

def parseAfter (sign rest : List Char) : Except TooLong (Option Int) :=
  match unsigned? (dropFinalLineFeed rest) with
  | none => .ok none
  | some ds => (limited ds).map fun n => some (if sign = ['-'] then -(n : Int) else n)

theorem parse_eq_parseAfter (cs : List Char) : ∃ sign rest, cs = sign ++ rest ∧
    (sign = [] ∨ sign = ['+'] ∨ sign = ['-']) ∧ parse cs = parseAfter sign rest := by
  unfold parse
  split
  rename_i negative rest h
  split at h <;> cases h
  · exact ⟨['-'], _, rfl, by simp, rfl⟩
  · exact ⟨['+'], _, rfl, by simp, rfl⟩
  · exact ⟨[], _, rfl, by simp, rfl⟩

theorem parse_append {rest : List Char} (hs : sign = [] ∨ sign = ['+'] ∨ sign = ['-'])
    (hr : ∀ c, rest.head? = some c → Text.isDigit c = true) :
    parse (sign ++ rest) = parseAfter sign rest := by
  rcases hs with rfl | rfl | rfl
  · cases rest with
    | nil => rfl
    | cons c r =>
      obtain ⟨hplus, hminus, -⟩ := ne_of_isDigit (hr c rfl)
      unfold parse
      split
      rename_i h
      split at h
      · rename_i heq
        exact absurd (List.cons.inj heq).1 hminus
      · rename_i heq
        exact absurd (List.cons.inj heq).1 hplus
      · cases h
        rfl
  · rfl
  · rfl

theorem parse_of_isWritten (h : IsWritten cs sign digits) :
    parse cs = if digits.length ≤ digitLimit then .ok (some (signedValue sign digits))
      else .error ⟨digits.length⟩ := by
  obtain ⟨tail, htail, rfl⟩ := h.eq_append
  have hdrop : dropFinalLineFeed (digits ++ tail) = digits := by
    rcases htail with rfl | rfl
    · rw [List.append_nil]
      exact dropFinalLineFeed_eq_self fun hm => (ne_of_isDigit (h.isDigit _ hm)).2.2 rfl
    · exact dropFinalLineFeed_append_lineFeed digits
  have hds := unsigned?_of_forall h.isDigit h.ne_nil
  have hlength : (digits.filterMap Text.digitValue?).length = digits.length :=
    length_digits? (digits?_of_forall h.isDigit)
  rw [parse_append h.sign_eq, parseAfter, hdrop, hds]
  · simp only [limited, hlength, signedValue]
    by_cases hle : digits.length ≤ digitLimit
    · rw [if_pos hle, if_pos hle]
      rfl
    · rw [if_neg hle, if_neg hle]
      rfl
  · intro c hc
    obtain ⟨d, r, hdr⟩ := List.exists_cons_of_ne_nil h.ne_nil
    refine h.isDigit c ?_
    rw [hdr] at hc ⊢
    cases hc
    exact List.mem_cons_self

theorem isWritten_of_parse (h : parse cs ≠ .ok none) : ∃ sign digits, IsWritten cs sign digits := by
  obtain ⟨sign, rest, rfl, hs, hp⟩ := parse_eq_parseAfter cs
  rw [hp, parseAfter] at h
  cases hu : unsigned? (dropFinalLineFeed rest) with
  | none =>
    rw [hu] at h
    exact absurd rfl h
  | some ds =>
    obtain ⟨hd, hne⟩ := forall_of_unsigned? hu
    refine ⟨sign, dropFinalLineFeed rest, hs, hd, hne, ?_⟩
    rcases eq_dropFinalLineFeed rest with h | h
    · exact ⟨[], .inl rfl, by rw [List.append_nil, ← h]⟩
    · exact ⟨['\n'], .inr rfl, by rw [← h]⟩

theorem parse_eq_error_iff {long : TooLong} : parse cs = .error long ↔
    ∃ sign digits, IsWritten cs sign digits ∧ digitLimit < digits.length ∧
      long = ⟨digits.length⟩ := by
  constructor
  · intro h
    have hp : parse cs ≠ .ok none := by simp [h]
    obtain ⟨sign, digits, hw⟩ := isWritten_of_parse hp
    rw [parse_of_isWritten hw] at h
    split at h
    · cases h
    · cases h
      exact ⟨sign, digits, hw, by omega, rfl⟩
  · rintro ⟨sign, digits, hw, hlong, rfl⟩
    rw [parse_of_isWritten hw, if_neg (by omega)]

theorem parse_eq_none_iff : parse cs = .ok none ↔ ¬∃ sign digits, IsWritten cs sign digits := by
  constructor
  · rintro h ⟨sign, digits, hw⟩
    rw [parse_of_isWritten hw] at h
    split at h <;> cases h
  · exact fun h => Classical.byContradiction fun hp => h (isWritten_of_parse hp)

theorem limited_eq_error_iff {ds : List Nat} {long : TooLong} :
    limited ds = .error long ↔ digitLimit < ds.length ∧ long = ⟨ds.length⟩ := by
  rw [limited]
  split
  · simp [Nat.not_lt.2 ‹_›]
  · simp [Nat.lt_of_not_le ‹_›, eq_comm]

theorem digitValue?_of_latin {c : Char} (h : 48 ≤ c.toNat ∧ c.toNat ≤ 57) :
    Text.digitValue? c = some (c.toNat - '0'.toNat) := by
  have hfirst : (48 ≤ c.toNat && c.toNat < 48 + 10) = true := by
    rw [Bool.and_eq_true, decide_eq_true_eq, decide_eq_true_eq]
    omega
  have hfind : Text.digitZeros.find? (fun z => z ≤ c.toNat && c.toNat < z + 10) = some 48 := by
    obtain ⟨zeros, hzeros⟩ : ∃ zeros, Text.digitZeros = 48 :: zeros := ⟨_, rfl⟩
    rw [hzeros]
    exact List.find?_cons_of_pos hfirst
  rw [Text.digitValue?, hfind]
  rfl

theorem filterMap_digitValue?_toString (n : Nat) : (toString n).toList.filterMap Text.digitValue? =
    (toString n).toList.map fun c => c.toNat - '0'.toNat :=
  List.filterMap_eq_map_iff_forall_eq_some.2 fun _ hc => digitValue?_of_latin (digit_of_mem_toString hc)

theorem isWritten_toString (n : Int) : IsWritten (toString n).toList (if n < 0 then ['-'] else [])
    (toString n.natAbs).toList where
  sign_eq := by
    split <;> simp
  isDigit c hc := Text.isDigit_eq_true_iff.2 ⟨_, digitValue?_of_latin (digit_of_mem_toString hc)⟩
  ne_nil := by
    rw [toList_toString]
    exact Nat.toDigits_ne_nil
  eq_append := by
    refine ⟨[], .inl rfl, ?_⟩
    rw [List.append_nil]
    split
    · exact toList_toString_of_neg ‹_›
    · rw [toString_of_nonneg (by omega)]
      rfl

theorem parse_toString {n : Int} (h : (toString n.natAbs).toList.length ≤ digitLimit) :
    parse (toString n).toList = .ok (some n) := by
  have hvalue : signedValue (if n < 0 then ['-'] else []) (toString n.natAbs).toList = n := by
    rw [signedValue, filterMap_digitValue?_toString, ofDigits_toString]
    split
    · rw [if_pos rfl, Int.ofNat_natAbs_of_nonpos (by omega), Int.neg_neg]
    · rw [if_neg (by simp), Int.natAbs_of_nonneg (by omega)]
  rw [parse_of_isWritten (isWritten_toString n), if_pos h, hvalue]

end Parse

end TemplatedRequests.Numeral
