import Mathlib.Data.List.Nodup
import TemplatedRequests.Capture.Path

/-!
Which texts pass as paths. The brackets of a path, taken out of it in order, form a Dyck word: every
closing bracket matches the last one that is open, and none stays open. Nothing else is asked but how a
path starts.
-/

namespace TemplatedRequests.Capture

variable (pairs : List (Char × Char))

/-- Words in which every closing bracket matches the last one that is open, and none stays open. -/
inductive IsDyck : List Char → Prop
  | nil : IsDyck []
  | wrap {p : Char × Char} {inside after : List Char} (hp : p ∈ pairs) (hi : IsDyck inside)
      (ha : IsDyck after) : IsDyck (p.1 :: inside ++ p.2 :: after)

/-- What may follow where brackets are open: for each, from the innermost one on, a Dyck word and the
closing bracket that is due, and a Dyck word at the end. -/
def Closes : (stack : List Char) → List Char → Prop
  | [], w => IsDyck pairs w
  | due :: stack, w => ∃ inside rest, w = inside ++ due :: rest ∧ IsDyck pairs inside ∧ Closes stack rest

def isBracket (c : Char) : Bool := pairs.any fun p => p.1 == c || p.2 == c

/-- Each opening bracket belongs to one pair only, and none is a closing one. -/
structure IsApart : Prop where
  openings : (pairs.map (·.1)).Nodup
  closings : ∀ p ∈ pairs, ∀ q ∈ pairs, p.1 ≠ q.2

variable {pairs} {p : Char × Char} {c due : Char} {stack w rest : List Char}

theorem isBracket_iff : isBracket pairs c = true ↔ ∃ p ∈ pairs, p.1 = c ∨ p.2 = c := by
  simp [isBracket]

theorem IsDyck.eq_nil_or (h : IsDyck pairs w) : w = [] ∨
    ∃ p ∈ pairs, ∃ inside after, w = p.1 :: (inside ++ p.2 :: after) ∧
      IsDyck pairs inside ∧ IsDyck pairs after := by
  cases h with
  | nil => exact .inl rfl
  | wrap hp hi ha => exact .inr ⟨_, hp, _, _, rfl, hi, ha⟩

section Steps

theorem balanced_of_opening (h : pairs.find? (·.1 == c) = some p) :
    balanced pairs stack (c :: rest) = balanced pairs (p.2 :: stack) rest := by
  rw [balanced.eq_def]
  dsimp only
  rw [h]

variable (h : pairs.find? (·.1 == c) = none)
include h

theorem balanced_of_due (hc : pairs.any (·.2 == c) = true) :
    balanced pairs (due :: stack) (c :: rest) = (due == c && balanced pairs stack rest) := by
  rw [balanced.eq_def]
  dsimp only
  rw [h, hc]
  rfl

theorem balanced_of_not_due (hc : pairs.any (·.2 == c) = true) :
    balanced pairs [] (c :: rest) = false := by
  rw [balanced.eq_def]
  dsimp only
  rw [h, hc]
  rfl

theorem balanced_of_other (hc : pairs.any (·.2 == c) = false) :
    balanced pairs stack (c :: rest) = balanced pairs stack rest := by
  rw [balanced.eq_def]
  dsimp only
  rw [h, hc]
  rfl

end Steps

theorem closes_nil_iff : Closes pairs stack [] ↔ stack = [] := by
  cases stack with
  | nil => exact iff_of_true .nil rfl
  | cons due stack =>
    refine iff_of_false ?_ (List.cons_ne_nil due stack)
    rintro ⟨inside, rest, hw, -⟩
    simp at hw

namespace IsApart

variable (h : IsApart pairs)
include h

theorem eq_of_opening {q : Char × Char} (hp : p ∈ pairs) (hq : q ∈ pairs) (hpq : p.1 = q.1) : p = q :=
  List.inj_on_of_nodup_map h.openings hp hq hpq

theorem find?_opening (hp : p ∈ pairs) : pairs.find? (·.1 == p.1) = some p := by
  cases hf : pairs.find? (·.1 == p.1) with
  | none => simpa using List.find?_eq_none.1 hf p hp
  | some q =>
    have hq := List.mem_of_find?_eq_some hf
    have hname : q.1 = p.1 := by simpa using List.find?_some hf
    rw [h.eq_of_opening hq hp hname]

theorem closes_opening_iff (hp : p ∈ pairs) (hs : ∀ due ∈ stack, ∃ q ∈ pairs, q.2 = due) :
    Closes pairs stack (p.1 :: w) ↔ Closes pairs (p.2 :: stack) w := by
  have htake : ∀ v, IsDyck pairs (p.1 :: v) →
      ∃ inside after, v = inside ++ p.2 :: after ∧ IsDyck pairs inside ∧ IsDyck pairs after := by
    intro v hv
    obtain hv | ⟨q, hq, inside, after, hv, hi, ha⟩ := hv.eq_nil_or
    · cases hv
    · obtain ⟨hpq, rfl⟩ := List.cons_eq_cons.1 hv
      obtain rfl := h.eq_of_opening hp hq hpq
      exact ⟨inside, after, rfl, hi, ha⟩
  cases stack with
  | nil =>
    constructor
    · exact htake w
    · rintro ⟨inside, after, rfl, hi, ha⟩
      exact .wrap hp hi ha
  | cons due stack =>
    constructor
    · rintro ⟨inside, rest, hw, hi, hr⟩
      cases inside with
      | nil =>
        -- The bracket that is due closes, so that it is no opening one.
        obtain ⟨q, hq, rfl⟩ := hs due List.mem_cons_self
        exact absurd (List.cons_eq_cons.1 hw).1 (h.closings p hp q hq)
      | cons c inside =>
        obtain ⟨rfl, rfl⟩ := List.cons_eq_cons.1 hw
        obtain ⟨inner, after, rfl, hinner, ha⟩ := htake inside hi
        exact ⟨inner, after ++ due :: rest, by simp, hinner, after, rest, rfl, ha, hr⟩
    · rintro ⟨inner, w, rfl, hinner, after, rest, rfl, ha, hr⟩
      exact ⟨p.1 :: inner ++ p.2 :: after, rest, by simp, .wrap hp hinner ha, hr⟩

theorem closes_closing_iff (hp : p ∈ pairs) : Closes pairs (due :: stack) (p.2 :: w) ↔
    due = p.2 ∧ Closes pairs stack w := by
  constructor
  · rintro ⟨inside, rest, hw, hi, hr⟩
    obtain rfl | ⟨q, hq, inner, after, rfl, -⟩ := hi.eq_nil_or
    · obtain ⟨hdue, rfl⟩ := List.cons_eq_cons.1 hw
      exact ⟨hdue.symm, hr⟩
    · exact absurd (List.cons_eq_cons.1 hw).1.symm (h.closings q hq p hp)
  · rintro ⟨rfl, hw⟩
    exact ⟨[], w, rfl, .nil, hw⟩

theorem not_closes_closing (hp : p ∈ pairs) : ¬Closes pairs [] (p.2 :: w) := by
  intro hw
  obtain hw | ⟨q, hq, inside, after, hw, -⟩ := IsDyck.eq_nil_or hw
  · cases hw
  · exact h.closings q hq p hp (List.cons_eq_cons.1 hw).1.symm

theorem balanced_iff_closes (hs : ∀ due ∈ stack, ∃ q ∈ pairs, q.2 = due) (cs : List Char) :
    balanced pairs stack cs = true ↔ Closes pairs stack (cs.filter (isBracket pairs)) := by
  -- By induction on the text, for all brackets that may be open.
  induction cs generalizing stack with
  | nil => rw [balanced, List.isEmpty_iff, List.filter_nil, closes_nil_iff]
  | cons c r ih =>
    by_cases ho : ∃ p ∈ pairs, p.1 = c
    · obtain ⟨p, hp, rfl⟩ := ho
      have hbracket : isBracket pairs p.1 = true := isBracket_iff.2 ⟨p, hp, .inl rfl⟩
      rw [balanced_of_opening (h.find?_opening hp), List.filter_cons_of_pos hbracket,
        h.closes_opening_iff hp hs]
      exact ih (List.forall_mem_cons.2 ⟨⟨p, hp, rfl⟩, hs⟩)
    · have hfind : pairs.find? (·.1 == c) = none := by
        rw [List.find?_eq_none]
        intro p hp hpc
        exact ho ⟨p, hp, by simpa using hpc⟩
      by_cases hc : ∃ p ∈ pairs, p.2 = c
      · obtain ⟨p, hp, rfl⟩ := hc
        have hbracket : isBracket pairs p.2 = true := isBracket_iff.2 ⟨p, hp, .inr rfl⟩
        have hany : pairs.any (·.2 == p.2) = true := List.any_eq_true.2 ⟨p, hp, beq_self_eq_true _⟩
        rw [List.filter_cons_of_pos hbracket]
        cases stack with
        | nil =>
          rw [balanced_of_not_due hfind hany]
          exact iff_of_false Bool.false_ne_true (h.not_closes_closing hp)
        | cons due stack =>
          rw [balanced_of_due hfind hany, Bool.and_eq_true, beq_iff_eq,
            ih (List.forall_mem_cons.1 hs).2, h.closes_closing_iff hp]
      · have hbracket : isBracket pairs c = false := by
          rw [← Bool.not_eq_true, isBracket_iff]
          rintro ⟨p, hp, hpc | hpc⟩
          · exact ho ⟨p, hp, hpc⟩
          · exact hc ⟨p, hp, hpc⟩
        have hany : pairs.any (·.2 == c) = false := by
          rw [← Bool.not_eq_true, List.any_eq_true]
          rintro ⟨p, hp, hpc⟩
          exact hc ⟨p, hp, by simpa using hpc⟩
        rw [balanced_of_other hfind hany, List.filter_cons_of_neg (by simp [hbracket])]
        exact ih hs

theorem balanced_iff_isDyck (cs : List Char) :
    balanced pairs [] cs = true ↔ IsDyck pairs (cs.filter (isBracket pairs)) :=
  h.balanced_iff_closes (fun _ hdue => absurd hdue List.not_mem_nil) cs

end IsApart

theorem isApart_squareBrackets : IsApart squareBrackets where
  openings := by decide
  closings := by decide

theorem isApart_allBrackets : IsApart allBrackets where
  openings := by decide
  closings := by decide

theorem filter_squareBrackets (cs : List Char) :
    cs.filter (isBracket squareBrackets) = cs.filter (· ∈ ['[', ']']) := by
  refine List.filter_congr fun c _ => Bool.eq_iff_iff.2 ?_
  simp only [isBracket_iff, squareBrackets, exists_eq_left, List.mem_cons,
    List.not_mem_nil, or_false, decide_eq_true_eq, @eq_comm _ c]

theorem filter_allBrackets (cs : List Char) :
    cs.filter (isBracket allBrackets) = cs.filter (· ∈ ['[', ']', '(', ')']) := by
  refine List.filter_congr fun c _ => Bool.eq_iff_iff.2 ?_
  simp only [isBracket_iff, allBrackets, List.mem_cons, List.not_mem_nil, or_false,
    exists_eq_or_imp, exists_eq_left, decide_eq_true_eq, @eq_comm _ c, or_assoc]

/-- A text passes as a path in a page if it is not empty and its brackets of both kinds form a Dyck
word, and as a path in a document if it starts with a root sign and its square brackets form one. -/
theorem isPath_iff_isDyck (text : String) :
    (isXPath text = true ↔ text ≠ "" ∧
      IsDyck allBrackets (text.toList.filter (· ∈ ['[', ']', '(', ')']))) ∧
    (isJsonPath text = true ↔ (text.toList.head? = some '$' ∨ text.toList.head? = some '@') ∧
      IsDyck squareBrackets (text.toList.filter (· ∈ ['[', ']']))) := by
  constructor
  · rw [← filter_allBrackets, ← isApart_allBrackets.balanced_iff_isDyck, isXPath]
    simp
  · rw [← filter_squareBrackets, ← isApart_squareBrackets.balanced_iff_isDyck, isJsonPath]
    cases text.toList with
    | nil => simp
    | cons c r => simp

/-- Brackets that cross. -/
example : isXPath "//a[(1])" = false := by decide

end TemplatedRequests.Capture
