import TemplatedRequests.Dotenv.Parse
import TemplatedRequests.Proofs.OrderedMap.Merged
import TemplatedRequests.Proofs.Text.Lines

/-!
What a text says of variables, line by line. A line declares a value, is reported with its number, or
says nothing, wherever it stands. So a text under another one lays its values over those before it, and
its warnings come after those before them.
-/

namespace TemplatedRequests.Dotenv

/-- A line that is neither blank nor a comment and has no equals sign. -/
def isMalformed (l : List Char) : Bool :=
  !l.all Text.isBlank && (Text.trimLeft l).head? != some '#' && !l.contains '='

def Line.declared? : Line → Option (String × String)
  | .declaration name value => some (name, value)
  | _ => none

def warning? (l : List Char × Nat) : Option Warning :=
  if isMalformed l.1 then some ⟨l.2, String.ofList (Text.trim l.1)⟩ else none

/-- A warning of lines that stand under a number of other lines. -/
def Warning.under (n : Nat) (w : Warning) : Warning := { w with line := w.line + n }

def File.ofLines (ls : List (List Char)) : File := File.addLines {} 1 (ls.map Line.ofText)

theorem splitFirst_eq_some_iff {sep : Char} {cs a b : List Char} :
    splitFirst sep cs = some (a, b) ↔ cs = a ++ sep :: b ∧ sep ∉ a := by
  induction cs generalizing a with
  | nil => simp [splitFirst]
  | cons c r ih =>
    rw [splitFirst]
    split <;> rename_i hc
    · subst hc
      cases a with
      | nil => simp
      | cons d a =>
        simp only [Option.some.injEq, Prod.mk.injEq, reduceCtorEq, false_and, List.cons_append,
          List.cons.injEq, List.mem_cons, not_or, false_iff, not_and]
        rintro ⟨rfl, -⟩ hd
        exact absurd rfl hd
    · cases a with
      | nil => simp [hc]
      | cons d a =>
        simp only [Option.map_eq_some_iff, Prod.mk.injEq, List.cons.injEq, List.cons_append,
          List.mem_cons, not_or]
        constructor
        · rintro ⟨⟨a', b'⟩, hp, ⟨rfl, rfl⟩, rfl⟩
          obtain ⟨hr, ha⟩ := ih.1 hp
          exact ⟨⟨rfl, hr⟩, Ne.symm hc, ha⟩
        · rintro ⟨⟨rfl, hr⟩, -, ha⟩
          exact ⟨(a, b), ih.2 ⟨hr, ha⟩, ⟨rfl, rfl⟩, rfl⟩

theorem splitFirst_eq_none_iff {sep : Char} {cs : List Char} :
    splitFirst sep cs = none ↔ sep ∉ cs := by
  induction cs with
  | nil => simp [splitFirst]
  | cons c r ih =>
    rw [splitFirst]
    split <;> rename_i hc
    · simp [hc]
    · simp [ih, Ne.symm hc]

section Line

variable {l : List Char}

theorem isMalformed_iff : isMalformed l = true ↔ Text.trim l ≠ [] ∧
    (Text.trim l).head? ≠ some '#' ∧ '=' ∉ Text.trim l := by
  have hblank : l.all Text.isBlank = true ↔ Text.trim l = [] := by
    rw [List.all_eq_true, Text.trim_eq_nil_iff]
  have hsign : '=' ∈ Text.trim l ↔ '=' ∈ l := Text.mem_trim_iff (by decide) l
  simp only [isMalformed, Bool.and_eq_true, Bool.not_eq_true', ← Bool.not_eq_true, hblank, bne_iff_ne,
    List.contains_iff_mem, hsign, and_assoc]
  refine and_congr_right fun hne => ?_
  rw [Text.head?_trim hne]

theorem isMalformed_eq_false_iff : isMalformed l = false ↔
    (Text.trim l = [] ∨ (Text.trim l).head? = some '#') ∨ '=' ∈ Text.trim l := by
  rw [← Bool.not_eq_true, isMalformed_iff]
  tauto

theorem Line.ofText_of_silent (h : Text.trim l = [] ∨ (Text.trim l).head? = some '#') :
    Line.ofText l = .nothing := by
  unfold Line.ofText
  split
  · rfl
  · rfl
  · rename_i hne hhash
    rcases h with h | h
    · exact (hne h).elim
    · obtain ⟨r, hr⟩ := List.head?_eq_some_iff.1 h
      exact (hhash r hr).elim

theorem Line.ofText_of_isMalformed (h : isMalformed l = true) :
    Line.ofText l = .malformed (String.ofList (Text.trim l)) := by
  obtain ⟨hne, hc, hs⟩ := isMalformed_iff.1 h
  unfold Line.ofText
  split <;> rename_i ht
  · exact absurd ht hne
  · simp [ht] at hc
  · rw [splitFirst_eq_none_iff.2 hs]

theorem Line.ofText_of_split {before after : List Char} (h : Text.trim l = before ++ '=' :: after)
    (hb : '=' ∉ before) (hc : (Text.trim l).head? ≠ some '#') :
    Line.ofText l = .declaration (String.ofList (Text.trim before))
      (String.ofList (unquote (Text.trim after))) := by
  unfold Line.ofText
  split <;> rename_i ht
  · simp [h] at ht
  · simp [ht] at hc
  · rw [h, splitFirst_eq_some_iff.2 ⟨rfl, hb⟩]

theorem Line.ofText_cases (l : List Char) :
    Line.ofText l = .nothing ∧ isMalformed l = false ∨
    Line.ofText l = .malformed (String.ofList (Text.trim l)) ∧ isMalformed l = true ∨
    ∃ before after, Text.trim l = before ++ '=' :: after ∧ '=' ∉ before ∧
      (Text.trim l).head? ≠ some '#' ∧ isMalformed l = false := by
  by_cases hs : Text.trim l = [] ∨ (Text.trim l).head? = some '#'
  · exact .inl ⟨Line.ofText_of_silent hs, isMalformed_eq_false_iff.2 (.inl hs)⟩
  · cases hsplit : splitFirst '=' (Text.trim l) with
    | none =>
      obtain ⟨hne, hc⟩ := not_or.1 hs
      have hm := isMalformed_iff.2 ⟨hne, hc, splitFirst_eq_none_iff.1 hsplit⟩
      exact .inr (.inl ⟨Line.ofText_of_isMalformed hm, hm⟩)
    | some p =>
      obtain ⟨h, hb⟩ := splitFirst_eq_some_iff.1 hsplit
      have hsign : '=' ∈ Text.trim l := by simp [h]
      exact .inr (.inr ⟨p.1, p.2, h, hb, (not_or.1 hs).2, isMalformed_eq_false_iff.2 (.inr hsign)⟩)

end Line

section File

@[simp] theorem declared?_nothing : Line.nothing.declared? = none := rfl

@[simp] theorem declared?_malformed (text : String) : (Line.malformed text).declared? = none := rfl

@[simp] theorem declared?_declaration (name value : String) :
    (Line.declaration name value).declared? = some (name, value) := rfl

theorem addLines_concat (f : File) (number : Nat) (ls : List Line) (l : Line) :
    f.addLines number (ls ++ [l]) = (f.addLines number ls).addLine (number + ls.length) l := by
  induction ls generalizing f number with
  | nil => rfl
  | cons m ls ih =>
    rw [List.cons_append, File.addLines, File.addLines, ih, List.length_cons, Nat.add_right_comm,
      Nat.add_assoc]

theorem ofLines_concat (ls : List (List Char)) (l : List Char) :
    File.ofLines (ls ++ [l]) = (File.ofLines ls).addLine (1 + ls.length) (Line.ofText l) := by
  rw [File.ofLines, File.ofLines, List.map_append, List.map_singleton, addLines_concat, List.length_map]

theorem ofLines_eq (ls : List (List Char)) : File.ofLines ls =
    ⟨.ofEntries (ls.filterMap fun l => (Line.ofText l).declared?), (ls.zipIdx 1).filterMap warning?⟩ := by
  -- By induction on the lines, the last one first, and by what this one says.
  induction ls using List.reverseRecOn with
  | nil => rfl
  | append_singleton ls l ih =>
    rw [ofLines_concat, ih, List.filterMap_append, List.zipIdx_append, List.filterMap_append]
    rcases Line.ofText_cases l with ⟨hl, hm⟩ | ⟨hl, hm⟩ | ⟨before, after, h, hb, hc, hm⟩
    · simp [hl, hm, File.addLine, warning?]
    · simp [hl, hm, File.addLine, warning?]
    · have hl := Line.ofText_of_split h hb hc
      simp [hl, hm, File.addLine, warning?, OrderedMap.ofEntries_concat]

theorem warnings_append (ls ms : List (List Char)) :
    ((ls ++ ms).zipIdx 1).filterMap warning? = (ls.zipIdx 1).filterMap warning? ++
      ((ms.zipIdx 1).filterMap warning?).map (Warning.under ls.length) := by
  rw [List.zipIdx_append, List.filterMap_append, List.map_filterMap, Nat.add_comm 1,
    ← List.map_snd_add_zipIdx_eq_zipIdx, List.filterMap_map]
  congr 2
  funext p
  by_cases hm : isMalformed p.1 = true <;> simp [warning?, hm, Warning.under]

theorem declared?_of_isMalformed {l : List Char} (h : isMalformed l = true) :
    (Line.ofText l).declared? = none := by
  rw [Line.ofText_of_isMalformed h, declared?_malformed]

theorem values_filter (ls : List (List Char)) :
    (File.ofLines (ls.filter (!isMalformed ·))).values = (File.ofLines ls).values := by
  have hsame : (fun l => if (!isMalformed l) = true then (Line.ofText l).declared? else none) =
      fun l => (Line.ofText l).declared? := by
    funext l
    cases hm : isMalformed l with
    | false => rfl
    | true => exact (declared?_of_isMalformed hm).symm
  rw [ofLines_eq, ofLines_eq, List.filterMap_filter, hsame]

theorem ofText_append (a b : List Char) : File.ofText (a ++ '\n' :: b) =
    ⟨(File.ofText a).values.update (File.ofText b).values, (File.ofText a).warnings ++
      (File.ofText b).warnings.map (Warning.under (Text.lines (a ++ ['\n'])).length)⟩ := by
  have hfirst : File.ofLines (Text.lines (a ++ ['\n'])) = File.ofText a := by
    rcases Text.lines_concat_lineFeed a with h | h
    · rw [h]
      rfl
    · rw [h, ofLines_concat]
      rfl
  have htext : ∀ cs, File.ofText cs = File.ofLines (Text.lines cs) := fun _ => rfl
  rw [← hfirst, htext, htext, Text.lines_append_lineFeed, ofLines_eq, ofLines_eq, ofLines_eq,
    List.filterMap_append, OrderedMap.ofEntries_append, warnings_append]

theorem warnings_ofText (cs : List Char) :
    (File.ofText cs).warnings = ((Text.lines cs).zipIdx 1).filterMap warning? :=
  congrArg File.warnings (ofLines_eq (Text.lines cs))

theorem values_ofText (cs : List Char) :
    (File.ofText cs).values = (File.ofLines ((Text.lines cs).filter (!isMalformed ·))).values :=
  (values_filter (Text.lines cs)).symm

theorem values_append (a b : List Char) : (File.ofText (a ++ '\n' :: b)).values =
    (File.ofText a).values.update (File.ofText b).values := by
  rw [ofText_append]

theorem names_values_append (a b : List Char) : (File.ofText (a ++ '\n' :: b)).values.names =
    (File.ofText a).values.names ++
      (File.ofText b).values.names.filter (· ∉ (File.ofText a).values.names) := by
  rw [values_append, OrderedMap.names_update]

theorem get?_values_append (a b : List Char) (name : String) :
    (File.ofText (a ++ '\n' :: b)).values.get? name =
      ((File.ofText b).values.get? name).or ((File.ofText a).values.get? name) := by
  rw [values_append, OrderedMap.get?_update]

theorem warnings_ofText_append (a b : List Char) : (File.ofText (a ++ '\n' :: b)).warnings =
    (File.ofText a).warnings ++
      (File.ofText b).warnings.map (Warning.under (Text.lines (a ++ ['\n'])).length) := by
  rw [ofText_append]

end File

/-- The values of a text under another one are laid over those before them: a name keeps its first place
and takes its last value. Its warnings come behind the others, with their numbers moved on. In any text
each malformed line is reported once, with its number, and the values are those of the other lines. -/
theorem values_and_warnings_append (a b : List Char) :
    let first := File.ofText a
    let second := File.ofText b
    let both := File.ofText (a ++ '\n' :: b)
    both.values = first.values.update second.values ∧
    both.values.names = first.values.names ++ second.values.names.filter (· ∉ first.values.names) ∧
    (∀ name, both.values.get? name = (second.values.get? name).or (first.values.get? name)) ∧
    both.warnings =
      first.warnings ++ second.warnings.map (Warning.under (Text.lines (a ++ ['\n'])).length) ∧
    ∀ cs, (File.ofText cs).warnings = ((Text.lines cs).zipIdx 1).filterMap warning? ∧
      (File.ofText cs).values = (File.ofLines ((Text.lines cs).filter (!isMalformed ·))).values :=
  ⟨values_append a b, names_values_append a b, get?_values_append a b, warnings_ofText_append a b,
    fun cs => ⟨warnings_ofText cs, values_ofText cs⟩⟩

/-- The carriage return and the line feed are one break, so that two lines stand above the second text. -/
example : (File.ofText "A=1\nB=2\r\nno sign\nA=3".toList).values.entries = [("A", "3"), ("B", "2")] ∧
    (File.ofText "A=1\nB=2\r\nno sign\nA=3".toList).warnings = [⟨3, "no sign"⟩] := by
  decide

end TemplatedRequests.Dotenv
