import TemplatedRequests.Proofs.Capture.Layout
import TemplatedRequests.Proofs.Text.Lines

/-!
Texts with lines that capture. What a text captures is what its lines capture, one after another, and a
line with a path is read for this path, be it blank.
-/

namespace TemplatedRequests.Capture

def line (name path : String) : String := "# @capture " ++ name ++ " = " ++ path

section Path

variable {cs : List Char}

theorem ofChars_trim (cs : List Char) : Path.ofChars (Text.trim cs) = Path.ofChars cs := by
  rw [Path.ofChars, Path.ofChars, Text.trim_trim]

theorem ofChars_blank_cons {c : Char} (h : Text.isBlank c = true) (cs : List Char) :
    Path.ofChars (c :: cs) = Path.ofChars cs := by
  have htrim : Text.trim (c :: cs) = Text.trim cs := by
    rw [Text.trim, Text.trimLeft, List.dropWhile_cons_of_pos h]
    rfl
  rw [Path.ofChars, Path.ofChars, htrim]

theorem exists_expression? (hne : cs ≠ []) (hn : '\n' ∉ cs) :
    ∃ e, expression? cs = some e ∧ Path.ofChars e = Path.ofChars cs := by
  by_cases ht : Text.trim cs = []
  · have hblanks := Text.trim_eq_nil_iff.1 ht
    obtain ⟨c, hc⟩ := Option.isSome_iff_exists.1 (List.getLast?_isSome.2 hne)
    have hblank : Text.isBlank c = true := hblanks c (List.mem_of_getLast? hc)
    refine ⟨[c], by rw [expression?_of_isBlanks hblanks hn, hc]; rfl, ?_⟩
    rw [ofChars_of_isBlanks (List.forall_mem_singleton.2 hblank), ofChars_of_isBlanks hblanks]
  · obtain ⟨left, right, hl, hr, hcs, he⟩ := exists_trim cs ht
    rw [hcs] at hn
    have hread := expression?_of_isExpression he hl hr hn
    rw [← hcs] at hread
    exact ⟨Text.trim cs, hread, ofChars_trim cs⟩

end Path

section Line

variable {name path : String}

theorem isBreak_eq_false_of_isName {cs : List Char} (h : IsName cs) :
    ∀ c ∈ cs, Text.isBreak c = false := by
  obtain ⟨c, r, rfl, hc, hr⟩ := h
  have hletter : ∀ d, IsLetterOrDigit d → Text.isBreak d = false := fun d hd => by
    have hblank := isBlank_eq_false_of_isLetterOrDigit hd
    exact Bool.eq_false_iff.2 fun hb => by simp [Text.isBlank_of_isBreak hb] at hblank
  exact List.forall_mem_cons.2 ⟨hletter c (.inl hc), fun d hd => hletter d (hr d hd)⟩

def lineHead (name : List Char) : Head := ⟨[], [' '], [' '], name, [' ']⟩

theorem isSound_lineHead {name : List Char} (h : IsName name) : (lineHead name).IsSound := by
  have hblank : IsBlanks [' '] := by simp [IsBlanks]; decide
  exact ⟨nofun, hblank, hblank, List.cons_ne_nil _ _, h, hblank⟩

theorem toList_line : (line name path).toList = (lineHead name.toList).chars ++ ' ' :: path.toList := by
  simp [line, lineHead, Head.chars]

theorem directives_line (hn : IsName name.toList) (hp : ∀ c ∈ path.toList, Text.isBreak c = false) :
    directives (line name path) = [⟨name, .ofText path⟩] := by
  have hbreaks : ∀ c ∈ (line name path).toList, Text.isBreak c = false := by
    simp only [line, String.toList_append, List.forall_mem_append]
    exact ⟨⟨⟨isBreak_eq_false_of_any (by decide), isBreak_eq_false_of_isName hn⟩,
      isBreak_eq_false_of_any (by decide)⟩, hp⟩
  have hfeed : '\n' ∉ ' ' :: path.toList := by
    rw [List.mem_cons, not_or]
    exact ⟨by decide, fun hm => absurd (hp _ hm) (by decide)⟩
  obtain ⟨e, he, hpath⟩ := exists_expression? (List.cons_ne_nil ' ' path.toList) hfeed
  have hread : Directive.ofChars? (line name path).toList = some ⟨name, .ofText path⟩ := by
    rw [toList_line, ofChars?_chars_append (isSound_lineHead hn), he, Option.map_some, hpath,
      ofChars_blank_cons (by decide)]
    simp [lineHead, Path.ofText]
  have hne : (line name path).toList ≠ [] := by simp [toList_line]
  rw [directives, Text.lines_of_no_break hbreaks hne, List.filterMap_cons, hread, List.filterMap_nil]

end Line

theorem directives_append (a b : String) :
    directives (a ++ "\n" ++ b) = directives a ++ directives b := by
  have hlines : Text.lines (a ++ "\n" ++ b).toList =
      Text.lines (a.toList ++ ['\n']) ++ Text.lines b.toList := by
    rw [← Text.lines_append_lineFeed]
    simp
  have hempty : Directive.ofChars? [] = none := rfl
  rw [directives, hlines, List.filterMap_append]
  rcases Text.lines_concat_lineFeed a.toList with h | h
  · rw [h]
    rfl
  · rw [h, List.filterMap_append, List.filterMap_cons, hempty, List.filterMap_nil, List.append_nil]
    rfl

end TemplatedRequests.Capture
