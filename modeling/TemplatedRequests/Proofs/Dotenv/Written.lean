import Mathlib.Data.List.Basic
import TemplatedRequests.Proofs.Dotenv.Lines

/-!
Variables written as lines, each value in double quotes, and read back. What can be written so that it
reads back is just what can be read from any text.
-/

namespace TemplatedRequests.Dotenv

/-- A line that declares a value, in double quotes whatever stands in it. -/
def declaration (e : String × String) : String := e.1 ++ "=\"" ++ e.2 ++ "\""

def written (b : Bindings) : String := "\n".intercalate (b.entries.map declaration)

/-- A name that a line declares as it stands. -/
structure IsDeclarable (name : String) : Prop where
  trimmed : Text.trim name.toList = name.toList
  unsigned : '=' ∉ name.toList
  unbroken : ∀ c ∈ name.toList, Text.isBreak c = false
  noComment : name.toList.head? ≠ some '#'

/-- Any value can be written on a line if it has no break. -/
def IsWritable (b : Bindings) : Prop :=
  ∀ e ∈ b.entries, IsDeclarable e.1 ∧ ∀ c ∈ e.2.toList, Text.isBreak c = false

section Read

variable {l before after : List Char}

theorem unquote_sublist (cs : List Char) : (unquote cs).Sublist cs := by
  unfold unquote
  split
  · split
    · exact (List.dropLast_sublist _).trans (List.sublist_cons_self _ _)
    · exact List.Sublist.refl _
  · exact List.Sublist.refl _

theorem isDeclarable_of_split (hl : ∀ c ∈ l, Text.isBreak c = false)
    (h : Text.trim l = before ++ '=' :: after) (hb : '=' ∉ before)
    (hc : (Text.trim l).head? ≠ some '#') : IsDeclarable (String.ofList (Text.trim before)) where
  trimmed := by rw [String.toList_ofList, Text.trim_trim]
  unsigned := by
    rw [String.toList_ofList, Text.mem_trim_iff (by decide)]
    exact hb
  unbroken := by
    rw [String.toList_ofList]
    intro c hm
    have hm : c ∈ Text.trim l := h ▸ List.mem_append_left _ ((Text.trim_infix before).mem hm)
    exact hl c ((Text.trim_infix l).mem hm)
  noComment := by
    rw [String.toList_ofList]
    intro hhead
    cases before with
    | nil => cases hhead
    | cons d r =>
      have hfirst : (Text.trim l).head? = some d := by rw [h]; rfl
      have hd := Text.isBlank_head_trim l d hfirst
      have hne : Text.trim (d :: r) ≠ [] := by
        intro hnil
        simp [hnil] at hhead
      rw [Text.head?_trim hne, Text.trimLeft, List.dropWhile_cons_of_neg (by simp [hd])] at hhead
      exact hc (hfirst.trans hhead)

theorem unbroken_of_split (hl : ∀ c ∈ l, Text.isBreak c = false)
    (h : Text.trim l = before ++ '=' :: after) :
    ∀ c ∈ unquote (Text.trim after), Text.isBreak c = false := by
  intro c hm
  have hm : c ∈ after := (Text.trim_infix after).mem ((unquote_sublist _).mem hm)
  have hm : c ∈ Text.trim l := h ▸ List.mem_append_right _ (List.mem_cons_of_mem _ hm)
  exact hl c ((Text.trim_infix l).mem hm)

theorem isWritable_ofText (cs : List Char) : IsWritable (File.ofText cs).values := by
  intro e he
  have hvalues : (File.ofText cs).values =
      .ofEntries ((Text.lines cs).filterMap fun l => (Line.ofText l).declared?) :=
    congrArg File.values (ofLines_eq (Text.lines cs))
  rw [hvalues] at he
  obtain ⟨l, hl, hdeclared⟩ := List.mem_filterMap.1 (OrderedMap.mem_of_mem_ofEntries he)
  have hbreak := Text.isBreak_of_mem_lines hl
  rcases Line.ofText_cases l with ⟨hl, -⟩ | ⟨hl, -⟩ | ⟨before, after, h, hb, hc, -⟩
  · rw [hl] at hdeclared
    cases hdeclared
  · rw [hl] at hdeclared
    cases hdeclared
  · rw [Line.ofText_of_split h hb hc] at hdeclared
    cases hdeclared
    refine ⟨isDeclarable_of_split hbreak h hb hc, ?_⟩
    rw [String.toList_ofList]
    exact unbroken_of_split hbreak h

end Read

section Write

def quoted (cs : List Char) : List Char := '"' :: (cs ++ ['"'])

theorem getLast?_quoted (cs : List Char) : (quoted cs).getLast? = some '"' :=
  List.getLast?_concat (l := '"' :: cs)

theorem unquote_quoted (cs : List Char) : unquote (quoted cs) = cs := by
  simp [unquote, quoted]

theorem trim_quoted (cs : List Char) : Text.trim (quoted cs) = quoted cs := by
  refine Text.trim_eq_self_iff.2 ⟨fun c hc => ?_, fun c hc => ?_⟩
  · cases hc
    decide
  · rw [getLast?_quoted] at hc
    cases hc
    decide

variable {e : String × String}

theorem toList_declaration (e : String × String) :
    (declaration e).toList = e.1.toList ++ '=' :: quoted e.2.toList := by
  simp [declaration, quoted]

theorem head?_declaration_ne (h : IsDeclarable e.1) {c : Char}
    (hc : (declaration e).toList.head? = some c) : c ≠ '#' ∧ Text.isBlank c = false := by
  rw [toList_declaration] at hc
  cases hn : e.1.toList with
  | nil =>
    rw [hn] at hc
    cases hc
    decide
  | cons d r =>
    rw [hn] at hc
    cases hc
    have hfirst := (Text.trim_eq_self_iff.1 h.trimmed).1
    have hcomment := h.noComment
    rw [hn] at hfirst hcomment
    exact ⟨fun heq => hcomment (congrArg some heq), hfirst c rfl⟩

theorem trim_declaration (h : IsDeclarable e.1) :
    Text.trim (declaration e).toList = (declaration e).toList := by
  refine Text.trim_eq_self_iff.2 ⟨fun c hc => (head?_declaration_ne h hc).2, fun c hc => ?_⟩
  have hlast : (declaration e).toList.getLast? = some '"' := by
    rw [toList_declaration, List.getLast?_append, List.getLast?_cons, getLast?_quoted]
    rfl
  rw [hlast] at hc
  cases hc
  decide

theorem ofText_declaration (h : IsDeclarable e.1) :
    Line.ofText (declaration e).toList = .declaration e.1 e.2 := by
  have htrim := trim_declaration h
  have hcomment : (Text.trim (declaration e).toList).head? ≠ some '#' := by
    rw [htrim]
    exact fun hc => (head?_declaration_ne h hc).1 rfl
  rw [Line.ofText_of_split (htrim.trans (toList_declaration e)) h.unsigned hcomment, h.trimmed,
    trim_quoted, unquote_quoted, String.ofList_toList, String.ofList_toList]

theorem unbroken_declaration (h : IsDeclarable e.1) (hv : ∀ c ∈ e.2.toList, Text.isBreak c = false) :
    ∀ c ∈ (declaration e).toList, Text.isBreak c = false := by
  rw [toList_declaration]
  simp only [quoted, List.forall_mem_append, List.forall_mem_cons]
  exact ⟨h.unbroken, by decide, by decide, hv, by decide, List.forall_mem_nil _⟩

variable {b : Bindings}

theorem lines_written (h : IsWritable b) :
    Text.lines (written b).toList = b.entries.map fun e => (declaration e).toList := by
  rw [written, String.toList_intercalate, List.map_map]
  refine Text.lines_intercalate fun l hl => ?_
  obtain ⟨e, he, rfl⟩ := List.mem_map.1 hl
  obtain ⟨hname, hvalue⟩ := h e he
  refine ⟨?_, unbroken_declaration hname hvalue⟩
  simp [toList_declaration]

theorem isMalformed_declaration (h : IsDeclarable e.1) :
    isMalformed (declaration e).toList = false := by
  refine isMalformed_eq_false_iff.2 (.inr ?_)
  rw [trim_declaration h, toList_declaration]
  exact List.mem_append_right _ List.mem_cons_self

theorem ofText_written (h : IsWritable b) : File.ofText (written b).toList = ⟨b, []⟩ := by
  have hvalues : (b.entries.map fun e => (declaration e).toList).filterMap
      (fun l => (Line.ofText l).declared?) = b.entries := by
    rw [List.filterMap_map]
    calc b.entries.filterMap _
        = b.entries.filterMap some := List.filterMap_congr fun e he => by
          rw [Function.comp_apply, ofText_declaration (h e he).1, declared?_declaration]
      _ = b.entries := List.filterMap_some
  have hwarnings : ((b.entries.map fun e => (declaration e).toList).zipIdx 1).filterMap warning? = [] := by
    refine List.filterMap_eq_nil_iff.2 fun p hp => ?_
    obtain ⟨e, he, hl⟩ := List.mem_map.1 (List.fst_mem_of_mem_zipIdx hp)
    rw [warning?, ← hl, isMalformed_declaration (h e he).1, if_neg Bool.false_ne_true]
  change File.ofLines (Text.lines (written b).toList) = _
  rw [lines_written h, ofLines_eq, hvalues, hwarnings, OrderedMap.ofEntries_entries]

end Write

/-- Variables read back from what is written for them, in their order and without a warning, exactly if
their names can be declared and neither names nor values have a break. -/
theorem ofText_written_eq_iff (b : Bindings) :
    File.ofText (written b).toList = ⟨b, []⟩ ↔ IsWritable b := by
  constructor
  · intro h
    have hread := isWritable_ofText (written b).toList
    rwa [h] at hread
  · exact ofText_written

/-- Just the outer quotes are taken off, and a name may be empty. -/
example : written (.ofEntries [("b c", " =\"#' "), ("", "\"")]) = "b c=\" =\"#' \"\n=\"\"\"" ∧
    (File.ofText "b c=\" =\"#' \"\n=\"\"\"".toList).values.entries =
      [("b c", " =\"#' "), ("", "\"")] := by
  decide

end TemplatedRequests.Dotenv
