import TemplatedRequests.Text.Blank
import TemplatedRequests.Text.Lines

/-!
Lines of a text that is put together from two, or from lines. A line feed between them ends the last line
of the first one, so that the lines of the second one begin anew.
-/

namespace TemplatedRequests.Text

variable {c : Char} {a r : List Char} {ls ms : List (List Char)}

theorem isBlank_of_isBreak (h : isBreak c = true) : isBlank c = true := by
  simp only [isBreak, Bool.or_eq_true, Bool.and_eq_true, decide_eq_true_eq, beq_iff_eq] at h
  simp only [isBlank, blanks, List.any_cons, List.any_nil, Bool.or_false, Bool.or_eq_true,
    Bool.and_eq_true, decide_eq_true_eq]
  omega

theorem consFirst_append (h : ls ≠ []) : consFirst c (ls ++ ms) = consFirst c ls ++ ms := by
  cases ls with
  | nil => exact absurd rfl h
  | cons l ls => rfl

theorem lines_ne_nil (h : a ≠ []) : lines a ≠ [] := by
  fun_cases lines a with
  | case1 => exact absurd rfl h
  | case2 r => exact List.cons_ne_nil _ _
  | case3 c r hr hc => exact List.cons_ne_nil _ _
  | case4 c r hr hc => cases lines r <;> exact List.cons_ne_nil _ _

/-- A break ends its line whatever follows, unless it is a carriage return at the end. -/
theorem lines_break_append (h : isBreak c = true) (hr : ∀ s, c = '\r' → r = '\n' :: s → False)
    (hend : ¬(c = '\r' ∧ r = [])) (t : List Char) : lines (c :: r ++ t) = [] :: lines (r ++ t) := by
  refine lines_cons_of_break h ?_
  rintro s rfl hs
  cases r with
  | nil => exact hend ⟨rfl, rfl⟩
  | cons d r => exact hr r rfl (by rw [(List.cons.inj hs).1])

theorem lines_append_lineFeed (a b : List Char) :
    lines (a ++ '\n' :: b) = lines (a ++ ['\n']) ++ lines b := by
  fun_induction lines a with
  | case1 => rfl
  | case2 r ih => simp only [List.cons_append, lines, ih]
  | case3 c r hr hc ih =>
    by_cases hend : c = '\r' ∧ r = []
    · -- The carriage return and the line feed are one break.
      obtain ⟨rfl, rfl⟩ := hend
      rfl
    · rw [lines_break_append hc hr hend, lines_break_append hc hr hend, ih, List.cons_append]
  | case4 c r hr hc ih =>
    have hc : isBreak c = false := by simpa using hc
    rw [List.cons_append, List.cons_append, lines_cons_of_no_break hc, lines_cons_of_no_break hc,
      ih, consFirst_append (lines_ne_nil (by simp))]

/-- A line feed at the end adds a line only where none is left open, and then an empty one. -/
theorem lines_concat_lineFeed (a : List Char) :
    lines (a ++ ['\n']) = lines a ∨ lines (a ++ ['\n']) = lines a ++ [[]] := by
  fun_induction lines a with
  | case1 => exact .inr rfl
  | case2 r ih =>
    simp only [List.cons_append, lines, List.cons.injEq, true_and]
    exact ih
  | case3 c r hr hc ih =>
    by_cases hend : c = '\r' ∧ r = []
    · obtain ⟨rfl, rfl⟩ := hend
      exact .inl rfl
    · rw [lines_break_append hc hr hend, List.cons_append]
      exact ih.imp (congrArg _) (congrArg _)
  | case4 c r hr hc ih =>
    have hc : isBreak c = false := by simpa using hc
    rw [List.cons_append, lines_cons_of_no_break hc]
    cases r with
    | nil => exact .inl rfl
    | cons d r =>
      rw [← consFirst_append (lines_ne_nil (List.cons_ne_nil d r))]
      exact ih.imp (congrArg _) (congrArg _)

section Unbroken

theorem isBreak_of_mem_lines {l : List Char} (hl : l ∈ lines a) : ∀ d ∈ l, isBreak d = false := by
  fun_induction lines a generalizing l with
  | case1 => cases hl
  | case2 r ih =>
    rcases List.mem_cons.1 hl with rfl | hl
    · exact List.forall_mem_nil _
    · exact ih hl
  | case3 c r hr hc ih =>
    rcases List.mem_cons.1 hl with rfl | hl
    · exact List.forall_mem_nil _
    · exact ih hl
  | case4 c r hr hc ih =>
    have hc : isBreak c = false := by simpa using hc
    cases hls : lines r with
    | nil =>
      rw [hls] at hl
      rw [List.mem_singleton.1 hl]
      exact List.forall_mem_singleton.2 hc
    | cons m ms =>
      rw [hls] at hl ih
      rcases List.mem_cons.1 hl with rfl | hl
      · exact List.forall_mem_cons.2 ⟨hc, ih List.mem_cons_self⟩
      · exact ih (List.mem_cons_of_mem m hl)

theorem lines_unbroken_lineFeed {l : List Char} (h : ∀ d ∈ l, isBreak d = false) :
    lines (l ++ ['\n']) = [l] := by
  induction l with
  | nil => rfl
  | cons d l ih =>
    obtain ⟨hd, hl⟩ := List.forall_mem_cons.1 h
    rw [List.cons_append, lines_cons_of_no_break hd, ih hl]
    rfl

theorem lines_intercalate (h : ∀ l ∈ ls, l ≠ [] ∧ ∀ d ∈ l, isBreak d = false) :
    lines (['\n'].intercalate ls) = ls := by
  induction ls with
  | nil => rfl
  | cons l ls ih =>
    obtain ⟨⟨hne, hl⟩, hls⟩ := List.forall_mem_cons.1 h
    cases ls with
    | nil => rw [List.intercalate_singleton, lines_of_no_break hl hne]
    | cons m ms =>
      rw [List.intercalate_cons_cons, List.append_assoc, List.singleton_append, lines_append_lineFeed,
        lines_unbroken_lineFeed hl, ih hls, List.singleton_append]

end Unbroken

end TemplatedRequests.Text
