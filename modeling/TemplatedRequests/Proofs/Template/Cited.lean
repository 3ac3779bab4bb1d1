import TemplatedRequests.Proofs.Template.Plain
import TemplatedRequests.Proofs.Template.Undefined

/-!
Names of placeholders against the text they stand in. A name is the inside of its placeholder,
trimmed, and so a part of the text, unless there is an escape in it: the name then holds the
character that the escape was hidden behind, and the text does not hold such a name.
-/

namespace TemplatedRequests.Template

def Token.source : Token → List Char
  | .plain c => [c]
  | .opening => ['\\', '{', '{']
  | .closing => ['\\', '}', '}']
  | .slot inside => '{' :: '{' :: (inside ++ ['}', '}'])

def Token.inside? : Token → Option (List Char)
  | .slot inside => some inside
  | _ => none

/-- What stands between the braces of each placeholder, as it is written. -/
def insides (text : String) : List (List Char) := (tokens text.toList).filterMap Token.inside?

/-- How many escapes there are, from the left. -/
def escapes : List Char → Nat
  | [] => 0
  | '\\' :: '{' :: '{' :: r => escapes r + 1
  | '\\' :: '}' :: '}' :: r => escapes r + 1
  | _ :: r => escapes r

section Source

variable {cs inside : List Char} {text : String}

theorem flatMap_source_tokens (cs : List Char) : (tokens cs).flatMap Token.source = cs := by
  fun_induction tokens cs with
  | case1 => rfl
  | case2 r ih => rw [List.flatMap_cons, ih]; rfl
  | case3 r ih => rw [List.flatMap_cons, ih]; rfl
  | case4 r inside rest h ih =>
    rw [List.flatMap_cons, ih, ← append_of_slot? h]
    simp [Token.source]
  | case5 r h ih => rw [List.flatMap_cons, ih]; rfl
  | case6 c r _ _ _ ih => rw [List.flatMap_cons, ih]; rfl

theorem mem_insides_iff : inside ∈ insides text ↔ Token.slot inside ∈ tokens text.toList := by
  rw [insides, List.mem_filterMap]
  constructor
  · rintro ⟨t, ht, hi⟩
    cases t with
    | slot i => cases hi; exact ht
    | _ => cases hi
  · exact fun h => ⟨_, h, rfl⟩

theorem isInfix_source {t : Token} (h : t ∈ tokens cs) : t.source <:+: cs := by
  obtain ⟨before, after, hs⟩ := List.append_of_mem h
  refine ⟨before.flatMap Token.source, after.flatMap Token.source, ?_⟩
  rw [← flatMap_source_tokens cs, hs, List.flatMap_append, List.flatMap_cons, List.append_assoc]

theorem isInfix_inside (h : inside ∈ insides text) : inside <:+: text.toList :=
  List.IsInfix.trans ⟨['{', '{'], ['}', '}'], rfl⟩ (isInfix_source (mem_insides_iff.1 h))

theorem hasOpening_cons {r : List Char} (h : hasOpening r = true) (c : Char) :
    hasOpening (c :: r) = true := by
  unfold hasOpening
  split
  · rfl
  · rename_i hr
    cases hr
    exact h
  · rename_i hr
    cases hr

theorem hasOpening_of_slot_mem (h : Token.slot inside ∈ tokens cs) : hasOpening cs = true := by
  fun_induction tokens cs with
  | case1 => cases h
  | case2 r => rfl
  | case3 r ih =>
    have hr := ih (by simpa using h)
    exact hasOpening_cons (hasOpening_cons (hasOpening_cons hr _) _) _
  | case4 r => rfl
  | case5 r => rfl
  | case6 c r _ _ _ ih => exact hasOpening_cons (ih (by simpa using h)) c

theorem names_eq_map_insides (text : String) :
    names text = (insides text).map fun inside => nameOf (hide inside) := by
  have hname : ∀ t : Token, t.hidden.name? = t.inside?.map fun inside => nameOf (hide inside) := by
    intro t
    cases t <;> rfl
  rw [names, namesIn]
  split <;> rename_i ho
  · rw [pieces_hide, List.filterMap_map, insides, List.map_filterMap]
    exact congrArg (List.filterMap · _) (funext hname)
  · have hnone : insides text = [] := by
      refine List.eq_nil_iff_forall_not_mem.2 fun inside h => ho ?_
      exact hasOpening_of_slot_mem (mem_insides_iff.1 h)
    rw [hnone, List.map_nil]

end Source

section Hidden

variable {cs : List Char}

theorem countP_backslash_hide (cs : List Char) :
    (hide cs).countP (· == '\\') + escapes cs = cs.countP (· == '\\') := by
  have hopening : hiddenOpening ≠ '\\' := by decide
  have hclosing : hiddenClosing ≠ '\\' := by decide
  fun_induction escapes cs with
  | case1 => rfl
  | case2 r ih =>
    simp [hide_opening, hopening]
    omega
  | case3 r ih =>
    simp [hide_closing, hclosing]
    omega
  | case4 c r ho hc ih =>
    rw [hide_cons ho hc, List.countP_cons, List.countP_cons]
    omega

theorem length_hide (cs : List Char) : (hide cs).length + 2 * escapes cs = cs.length := by
  fun_induction escapes cs with
  | case1 => rfl
  | case2 r ih =>
    simp only [hide_opening, List.length_cons]
    omega
  | case3 r ih =>
    simp only [hide_closing, List.length_cons]
    omega
  | case4 c r ho hc ih =>
    rw [hide_cons ho hc, List.length_cons, List.length_cons]
    omega

theorem countP_isHidden_hide (cs : List Char) :
    (hide cs).countP isHidden = cs.countP isHidden + escapes cs := by
  have hbraces : isHidden '\\' = false ∧ isHidden '{' = false ∧ isHidden '}' = false := by decide
  fun_induction escapes cs with
  | case1 => rfl
  | case2 r ih =>
    have hopening : isHidden hiddenOpening = true := rfl
    simp [hide_opening, hopening, hbraces, ih]
    omega
  | case3 r ih =>
    have hclosing : isHidden hiddenClosing = true := by decide
    simp [hide_closing, hclosing, hbraces, ih]
    omega
  | case4 c r ho hc ih =>
    rw [hide_cons ho hc, List.countP_cons, List.countP_cons]
    omega

theorem escapes_eq_zero_iff : escapes cs = 0 ↔ holdsEscape cs = false := by
  fun_induction escapes cs with
  | case1 => simp [holdsEscape, Text.occurs]
  | case2 r ih => simp [holdsEscape, Text.occurs]
  | case3 r ih => simp [holdsEscape, Text.occurs]
  | case4 c r ho hc ih =>
    rw [ih]
    have hopening : ['\\', '{', '{'].isPrefixOf (c :: r) = false := by
      rw [Bool.eq_false_iff, Ne, List.isPrefixOf_iff_prefix]
      rintro ⟨s, hs⟩
      cases hs
      exact ho s rfl rfl
    have hclosing : ['\\', '}', '}'].isPrefixOf (c :: r) = false := by
      rw [Bool.eq_false_iff, Ne, List.isPrefixOf_iff_prefix]
      rintro ⟨s, hs⟩
      cases hs
      exact hc s rfl rfl
    simp only [holdsEscape, Text.occurs, hopening, hclosing, Bool.false_or]

variable {inside : List Char}

theorem isHidden_of_isBlank {c : Char} (h : Text.isBlank c = true) : isHidden c = false := by
  cases hc : isHidden c with
  | false => rfl
  | true => rcases eq_of_isHidden hc with rfl | rfl <;> exact absurd h (by decide)

theorem nameOf_hide_eq_iff : nameOf (hide inside) = nameOf inside ↔ holdsEscape inside = false := by
  -- By counting: trimming keeps the backslashes, and hiding takes one for each escape.
  refine ⟨fun h => ?_, fun h => by rw [hide_eq_self h]⟩
  have hblank : ∀ c, Text.isBlank c = true → (c == '\\') = false := by
    rintro c hc
    rw [beq_eq_false_iff_ne]
    rintro rfl
    exact absurd hc (by decide)
  have htrim : Text.trim (hide inside) = Text.trim inside := by
    simpa [nameOf, ← String.toList_inj] using h
  have hcount := congrArg (List.countP (· == '\\')) htrim
  rw [Text.countP_trim hblank, Text.countP_trim hblank] at hcount
  have hhide := countP_backslash_hide inside
  exact escapes_eq_zero_iff.1 (by omega)

theorem nameOf_hide_infix_iff {text : String} (hi : inside ∈ insides text)
    (h : ∀ c ∈ text.toList, isHidden c = false) :
    (nameOf (hide inside)).toList <:+: text.toList ↔ holdsEscape inside = false := by
  have hname : (nameOf (hide inside)).toList = Text.trim (hide inside) := String.toList_ofList
  constructor
  · intro hpart
    have hnone : (Text.trim (hide inside)).countP isHidden = 0 :=
      List.countP_eq_zero.2 fun c hc => by simp [h c (hpart.subset (hname ▸ hc))]
    rw [Text.countP_trim fun c hc => isHidden_of_isBlank hc, countP_isHidden_hide] at hnone
    exact escapes_eq_zero_iff.1 (by omega)
  · intro he
    rw [hname, hide_eq_self he]
    exact (Text.trim_infix inside).trans (isInfix_inside hi)

end Hidden

/-- Names are as written exactly where no placeholder holds an escape. What stands between the braces
is a part of the text in any case. A text without the characters that stand for escapes holds all its
names exactly where they are as written. Names without definition are names of the text. -/
theorem names_asWritten_iff (text : String) :
    (names text = (insides text).map nameOf ↔
      ∀ inside ∈ insides text, holdsEscape inside = false) ∧
    (∀ inside ∈ insides text, (nameOf inside).toList <:+: text.toList) ∧
    ((∀ c ∈ text.toList, isHidden c = false) →
      ((∀ name ∈ names text, name.toList <:+: text.toList) ↔
        ∀ inside ∈ insides text, holdsEscape inside = false)) ∧
    ∀ scopes, ∀ name ∈ undefinedNames text scopes, name ∈ names text := by
  refine ⟨?_, fun inside hi => ?_, fun h => ?_, fun scopes name hn => (mem_missingOf_iff.1 hn).1⟩
  · rw [names_eq_map_insides, List.map_inj_left]
    exact forall₂_congr fun inside _ => nameOf_hide_eq_iff
  · rw [nameOf, String.toList_ofList]
    exact (Text.trim_infix inside).trans (isInfix_inside hi)
  · rw [names_eq_map_insides, List.forall_mem_map]
    exact forall₂_congr fun inside hi => nameOf_hide_infix_iff hi h

section Literal

/-- Blanks around a name, a backslash in it, an escaped placeholder, and a call. -/
def quotable : String := "\x7b\x7b a\\b \x7d\x7d\\\x7b\x7bx\\\x7d\x7d\x7b\x7b$f 1\x7d\x7d"

theorem names_quotable : (∀ c ∈ quotable.toList, isHidden c = false) ∧
    names quotable = (insides quotable).map nameOf ∧
    ∀ name ∈ names quotable, name.toList <:+: quotable.toList := by
  obtain ⟨hwritten, -, hheld, -⟩ := names_asWritten_iff quotable
  have hinsides : insides quotable = [" a\\b ".toList, "$f 1".toList] := by decide +kernel
  have hclear : ∀ inside ∈ insides quotable, holdsEscape inside = false := by
    rw [hinsides]
    decide
  have hplain : ∀ c ∈ quotable.toList, isHidden c = false := by
    simp [quotable, isHidden, hiddenOpening, hiddenClosing]
  exact ⟨hplain, hwritten.2 hclear, (hheld hplain).2 hclear⟩

/-- The name of a placeholder with an escape holds a character that is not in the text. -/
theorem not_forall_names_infix : ¬∀ text, ∀ name ∈ names text, name.toList <:+: text.toList := by
  intro h
  have hnames : names "\x7b\x7ba\\\x7d\x7db\x7d\x7d" = ["a\ue001b"] := by decide +kernel
  have hpart := h "\x7b\x7ba\\\x7d\x7db\x7d\x7d" "a\ue001b" (by simp [hnames])
  have hname : hiddenClosing ∈ "a\ue001b".toList := by decide
  exact absurd (hpart.subset hname) (by decide)

end Literal

end TemplatedRequests.Template
