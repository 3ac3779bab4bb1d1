import Mathlib.Tactic.Ring
import TemplatedRequests.Binary64

/-!
The integer part of a quotient that was rounded to 53 bits. It is the integer part of the quotient
itself, unless the next integer is no farther off than half the gap between neighbouring numbers.
-/

namespace TemplatedRequests.Binary64

/-- Half the gap between neighbouring numbers whose integer part is `q`, where one is `den`. -/
def halfGap (q den : Nat) : Nat := den / 2 ^ (53 - q.log2)

section Gap

variable {q den k : Nat}

theorem log2_lt_of_lt (hq : q < 2 ^ k) (hk : 0 < k) : q.log2 < k := by
  by_cases hzero : q = 0
  · rwa [hzero, Nat.log2_zero]
  · exact (Nat.log2_lt hzero).2 hq

theorem halfGap_lt (hq : q < 2 ^ 53) (hden : 0 < den) : halfGap q den < den := by
  have := log2_lt_of_lt hq (by decide)
  exact Nat.div_lt_self hden (Nat.one_lt_two_pow (by omega))

theorem halfGap_eq_zero (hq : q < 2 ^ k) (hk : 0 < k) (hden : den < 2 ^ (54 - k)) :
    halfGap q den = 0 := by
  have := log2_lt_of_lt hq hk
  exact Nat.div_eq_of_lt (hden.trans_le (Nat.pow_le_pow_right Nat.two_pos (by omega)))

end Gap

variable {num den : Nat}

section Round

theorem roundQuotient_eq (num den : Nat) : roundQuotient num den =
    num / den +
      if den < 2 * (num % den) ∨ 2 * (num % den) = den ∧ num / den % 2 = 1 then 1 else 0 := by
  unfold roundQuotient
  dsimp only
  split
  · rw [if_neg (by omega), Nat.add_zero]
  · split
    · rw [if_pos (by omega)]
    · split <;> omega

/-- The next integer is some units of `2 ^ -k` above the quotient with `k` bits after the point. They
are made up of what this quotient leaves out and of what the quotient lacks to the next integer. -/
theorem exists_below_next (hden : 0 < den) (num k : Nat) :
    ∃ t, (num / den + 1) * 2 ^ k = num * 2 ^ k / den + (t + 1) ∧
      (t + 1) * den = num * 2 ^ k % den + (den - num % den) * 2 ^ k := by
  have hpart : num % den < den := Nat.mod_lt num hden
  have hnum : den * (num / den) + num % den = num := Nat.div_add_mod num den
  have hscaled : den * (num * 2 ^ k / den) + num * 2 ^ k % den = num * 2 ^ k :=
    Nat.div_add_mod (num * 2 ^ k) den
  have hnext : den * ((num / den + 1) * 2 ^ k) =
      den * (num * 2 ^ k / den) + (num * 2 ^ k % den + (den - num % den) * 2 ^ k) := by
    calc den * ((num / den + 1) * 2 ^ k)
      _ = (den * (num / den) + num % den + (den - num % den)) * 2 ^ k := by
        rw [Nat.add_assoc, Nat.add_sub_cancel' hpart.le]
        ring
      _ = den * (num * 2 ^ k / den) + (num * 2 ^ k % den + (den - num % den) * 2 ^ k) := by
        rw [hnum, Nat.add_mul, ← Nat.add_assoc, hscaled]
  have hpos : 0 < (den - num % den) * 2 ^ k := Nat.mul_pos (by omega) (Nat.two_pow_pos k)
  have hlt : num * 2 ^ k / den < (num / den + 1) * 2 ^ k :=
    Nat.lt_of_mul_lt_mul_left (a := den) (by omega)
  obtain ⟨t, ht⟩ : ∃ t, (num / den + 1) * 2 ^ k = num * 2 ^ k / den + (t + 1) :=
    ⟨(num / den + 1) * 2 ^ k - num * 2 ^ k / den - 1, by omega⟩
  refine ⟨t, ht, ?_⟩
  rw [ht, Nat.mul_add] at hnext
  rw [Nat.mul_comm]
  exact Nat.add_left_cancel hnext

theorem mul_pow_le_div (hden : 0 < den) (k : Nat) : num / den * 2 ^ k ≤ num * 2 ^ k / den := by
  rw [Nat.le_div_iff_mul_le hden, Nat.mul_right_comm]
  exact Nat.mul_le_mul_right _ (Nat.div_mul_le_self num den)

/-- Rounding with `k` bits after the point reaches the next integer from one unit below it, and from
no farther. In the middle of that unit it goes up too, as the next integer is an even number of
units. -/
theorem roundQuotient_div_pow (hden : 0 < den) {k : Nat} (hk : 0 < k) :
    roundQuotient (num * 2 ^ k) den / 2 ^ k =
      num / den + if (den - num % den) * 2 ^ (k + 1) ≤ den then 1 else 0 := by
  obtain ⟨t, ht, hgap⟩ := exists_below_next hden num k
  have hlow : num / den * 2 ^ k ≤ num * 2 ^ k / den := mul_pow_le_div hden k
  have hrest : num * 2 ^ k % den < den := Nat.mod_lt _ hden
  have hpos : 0 < 2 ^ k := Nat.two_pow_pos k
  have heven : (num / den + 1) * 2 ^ k % 2 = 0 := by
    rw [← Nat.sub_add_cancel hk, Nat.pow_succ, ← Nat.mul_assoc]
    exact Nat.mul_mod_left _ 2
  have hnext : (num / den + 1) * 2 ^ k = num / den * 2 ^ k + 2 ^ k := Nat.succ_mul _ _
  rw [roundQuotient_eq, Nat.pow_succ, ← Nat.mul_assoc]
  by_cases hnear : t = 0
  · subst hnear
    rw [Nat.zero_add, Nat.one_mul] at hgap
    by_cases hup : (den - num % den) * 2 ^ k * 2 ≤ den
    · rw [if_pos hup, if_pos (by omega), ← ht, Nat.mul_div_cancel _ hpos]
    · rw [if_neg hup, if_neg (by omega), Nat.add_zero, Nat.add_zero,
        Nat.div_eq_of_lt_le hlow (by omega)]
  · have htwo : 2 * den ≤ (t + 1) * den := Nat.mul_le_mul_right den (by omega)
    have hfar : ¬(den - num % den) * 2 ^ k * 2 ≤ den := by omega
    rw [if_neg hfar, Nat.add_zero]
    refine Nat.div_eq_of_lt_le (by omega) ?_
    split <;> omega

end Round

section Exponent

theorem scaled_neg (num den k : Nat) : scaled num den (-(k : Int)) = (num * 2 ^ k, den) := by
  cases k with
  | zero => simp [scaled]
  | succ k =>
    change (num <<< (k + 1), den) = _
    rw [Nat.shiftLeft_eq]

theorem truncate?_finite_neg (negative : Bool) (m k : Nat) :
    (finite negative m (-(k : Int))).truncate? =
      some (if negative then -((m / 2 ^ k : Nat) : Int) else (m / 2 ^ k : Nat)) := by
  cases k with
  | zero => simp [truncate?]
  | succ k =>
    change some (if negative then -((m >>> (k + 1) : Nat) : Int) else (m >>> (k + 1) : Nat)) = _
    rw [Nat.shiftRight_eq_div_pow]

theorem exponentOf_eq_neg (hnum : num ≠ 0) (hden : den ≠ 0) (h : num.log2 < 52 + den.log2) :
    ∃ k, 0 < k ∧ k ≤ 53 + den.log2 ∧ exponentOf num den = -(k : Int) ∧
      leastFull * den ≤ num * 2 ^ k ∧ num * 2 ^ k < 2 * leastFull * den := by
  obtain ⟨g, hg⟩ : ∃ g, 52 + den.log2 = num.log2 + g := ⟨52 + den.log2 - num.log2, by omega⟩
  have hguess : (num.log2 : Int) - den.log2 - 52 = -(g : Int) := by omega
  have hlow : leastFull * den < 2 * (num * 2 ^ g) := by
    calc leastFull * den
      _ < 2 ^ 52 * 2 ^ (den.log2 + 1) := Nat.mul_lt_mul_of_pos_left Nat.lt_log2_self (by decide)
      _ = 2 * (2 ^ num.log2 * 2 ^ g) := by
        rw [← Nat.pow_add, ← Nat.pow_add, ← hg, ← Nat.pow_succ']
        congr 1
      _ ≤ 2 * (num * 2 ^ g) :=
        Nat.mul_le_mul_left 2 (Nat.mul_le_mul_right _ (Nat.log2_self_le hnum))
  have hhigh : num * 2 ^ g < 2 * leastFull * den := by
    have hfull : 2 * leastFull = 2 ^ 53 := rfl
    calc num * 2 ^ g
      _ < 2 ^ (num.log2 + 1) * 2 ^ g :=
        Nat.mul_lt_mul_of_pos_right Nat.lt_log2_self (Nat.two_pow_pos g)
      _ = 2 * leastFull * 2 ^ den.log2 := by
        rw [hfull, ← Nat.pow_add, ← Nat.pow_add]
        congr 1
        omega
      _ ≤ 2 * leastFull * den := Nat.mul_le_mul_left _ (Nat.log2_self_le hden)
  unfold exponentOf
  rw [hguess]
  simp only [scaled_neg]
  split
  · refine ⟨g + 1, by omega, by omega, by omega, ?_, ?_⟩
    · rw [Nat.pow_succ, ← Nat.mul_assoc]
      omega
    · rw [Nat.pow_succ, ← Nat.mul_assoc, Nat.mul_assoc 2]
      omega
  · exact ⟨g, by omega, by omega, rfl, by omega, hhigh⟩

variable {k : Nat} (hlow : leastFull * den ≤ num * 2 ^ k)
variable (hhigh : num * 2 ^ k < 2 * leastFull * den)
include hlow hhigh

theorem log2_of_full (hden : 0 < den) (hq : num / den ≠ 0) : 53 - (num / den).log2 = k + 1 := by
  have hpos : 0 < 2 ^ k := Nat.two_pow_pos k
  have hfull : 2 * leastFull = 2 ^ 53 := rfl
  have hle : k ≤ 52 := by
    by_contra hk
    have hfew : 2 ^ 53 ≤ 2 ^ k := Nat.pow_le_pow_right Nat.two_pos (by omega)
    have hlt : num * 2 ^ k < den * 2 ^ k :=
      hhigh.trans_le (by rw [Nat.mul_comm]; exact Nat.mul_le_mul_left den hfew)
    exact hq (Nat.div_eq_of_lt (Nat.lt_of_mul_lt_mul_right hlt))
  have hfirst : 2 ^ (52 - k) ≤ num / den := by
    rw [Nat.le_div_iff_mul_le hden]
    refine Nat.le_of_mul_le_mul_right ?_ hpos
    rwa [Nat.mul_right_comm, ← Nat.pow_add, Nat.sub_add_cancel hle]
  have hlast : num / den < 2 ^ (52 - k + 1) := by
    rw [Nat.div_lt_iff_lt_mul hden]
    refine Nat.lt_of_mul_lt_mul_right (a := 2 ^ k) ?_
    rwa [Nat.mul_right_comm, ← Nat.pow_add, Nat.add_right_comm, Nat.sub_add_cancel hle, ← hfull]
  have hlog := (Nat.log2_eq_iff hq).2 ⟨hfirst, hlast⟩
  omega

theorem near_next_iff (hden : den ≠ 0) (hsmall : den < 2 ^ 53) :
    (den - num % den) * 2 ^ (k + 1) ≤ den ↔ den ≤ num % den + halfGap (num / den) den := by
  have hpos : 0 < den := Nat.pos_of_ne_zero hden
  have hpart : num % den < den := Nat.mod_lt num hpos
  rw [← Nat.le_div_iff_mul_le (Nat.two_pow_pos _), halfGap]
  by_cases hq : num / den = 0
  · -- Below one the gaps are too narrow to hold the next integer.
    have hlt : num < den := (Nat.div_eq_zero_iff_lt hpos).1 hq
    have hfull : 2 ^ 52 < 2 ^ k := by
      refine Nat.lt_of_mul_lt_mul_right (a := den) (hlow.trans_lt ?_)
      rw [Nat.mul_comm]
      exact Nat.mul_lt_mul_of_pos_left hlt (Nat.two_pow_pos k)
    have hk : 52 < k := (Nat.pow_lt_pow_iff_right Nat.one_lt_two).1 hfull
    have hnone : den / 2 ^ (k + 1) = 0 :=
      Nat.div_eq_of_lt (hsmall.trans_le (Nat.pow_le_pow_right Nat.two_pos (by omega)))
    have hgap : den / 2 ^ (53 - (0 : Nat).log2) = 0 := Nat.div_eq_of_lt hsmall
    rw [hq, hnone, hgap]
    omega
  · rw [log2_of_full hlow hhigh hpos hq]
    omega

end Exponent

theorem exists_truncate?_ofQuotient (negative : Bool) (hnum : num ≠ 0) (hden : den ≠ 0)
    (hfew : den.log2 ≤ 1000) (h : num.log2 < 52 + den.log2) :
    ∃ k, 0 < k ∧ leastFull * den ≤ num * 2 ^ k ∧ num * 2 ^ k < 2 * leastFull * den ∧
      (ofQuotient negative num den).truncate? =
        some (if negative then -((roundQuotient (num * 2 ^ k) den / 2 ^ k : Nat) : Int)
          else (roundQuotient (num * 2 ^ k) den / 2 ^ k : Nat)) := by
  obtain ⟨k, hk, hle, he, hlow, hhigh⟩ := exponentOf_eq_neg hnum hden h
  refine ⟨k, hk, hlow, hhigh, ?_⟩
  have hmax : max (-(k : Int)) leastExponent = -(k : Int) :=
    Int.max_eq_left (by unfold leastExponent; omega)
  unfold ofQuotient
  rw [if_neg hnum, he, hmax]
  dsimp only
  rw [scaled_neg]
  dsimp only
  split
  · rename_i hlong
    have hhalved : -(k : Int) + 1 = -((k - 1 : Nat) : Int) := by omega
    have hgreat : ¬greatestExponent < -(k : Int) + 1 := by unfold greatestExponent; omega
    have hsame : 2 * leastFull / 2 ^ k = leastFull / 2 ^ (k - 1) := by
      rw [← Nat.sub_add_cancel hk, Nat.pow_succ', Nat.mul_div_mul_left _ _ (by decide),
        Nat.add_sub_cancel]
    dsimp only
    rw [if_neg hgreat, hhalved, truncate?_finite_neg, hlong, hsame]
  · have hgreat : ¬greatestExponent < -(k : Int) := by unfold greatestExponent; omega
    dsimp only
    rw [if_neg hgreat, truncate?_finite_neg]

theorem truncate?_ofQuotient (negative : Bool) (hden : den ≠ 0) (hsmall : den < 2 ^ 53)
    (h : num.log2 < 52 + den.log2) : (ofQuotient negative num den).truncate? =
    let n := num / den + if den ≤ num % den + halfGap (num / den) den then 1 else 0
    some (if negative then -(n : Int) else n) := by
  dsimp only
  by_cases hnum : num = 0
  · have hleast : leastExponent = -((1074 : Nat) : Int) := rfl
    have hgap : halfGap 0 den = 0 := halfGap_eq_zero (k := 1) (by decide) (by decide) hsmall
    have hnot : ¬den ≤ 0 + 0 := by omega
    rw [hnum, ofQuotient, if_pos rfl, hleast, truncate?_finite_neg, Nat.zero_div, Nat.zero_div,
      Nat.zero_mod, hgap, if_neg hnot]
  · have hfew : den.log2 ≤ 1000 := by
      have := (Nat.log2_lt hden).2 hsmall
      omega
    obtain ⟨k, hk, hlow, hhigh, heq⟩ := exists_truncate?_ofQuotient negative hnum hden hfew h
    rw [heq, roundQuotient_div_pow (Nat.pos_of_ne_zero hden) hk]
    simp only [near_next_iff hlow hhigh hden hsmall]

end TemplatedRequests.Binary64
