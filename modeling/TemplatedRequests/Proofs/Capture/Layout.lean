import Mathlib.Data.List.Basic
import Mathlib.Data.List.TakeWhile
import TemplatedRequests.Capture.Directive

/-!
The form of a line that captures a value, and how far the reader keeps to it: a line is read by its
one layout, except where nothing but blanks follows the equals sign.
-/

namespace TemplatedRequests.Capture

def IsBlanks (cs : List Char) : Prop := ∀ c ∈ cs, Text.isBlank c = true

def IsLetter (c : Char) : Prop := 'a' ≤ c ∧ c ≤ 'z' ∨ 'A' ≤ c ∧ c ≤ 'Z' ∨ c = '_'

def IsLetterOrDigit (c : Char) : Prop := IsLetter c ∨ '0' ≤ c ∧ c ≤ '9'

def IsName (cs : List Char) : Prop := ∃ c r, cs = c :: r ∧ IsLetter c ∧ ∀ d ∈ r, IsLetterOrDigit d

/-- Something without blanks at its ends. -/
structure IsExpression (cs : List Char) : Prop where
  first : ∃ c, cs.head? = some c ∧ Text.isBlank c = false
  last : ∃ c, cs.getLast? = some c ∧ Text.isBlank c = false

/-- What stands before the equals sign of a line. -/
structure Head where
  indent : List Char
  gap : List Char
  space : List Char
  name : List Char
  beforeSign : List Char

structure Layout extends Head where
  afterSign : List Char
  expression : List Char
  trail : List Char

def Head.chars (h : Head) : List Char :=
  h.indent ++ '#' :: (h.gap ++ ("@capture".toList ++ (h.space ++ (h.name ++ (h.beforeSign ++ ['='])))))

def Layout.line (l : Layout) : List Char :=
  l.toHead.chars ++ (l.afterSign ++ (l.expression ++ l.trail))

/-- Blanks may stand between the parts; one at least stands before the name. -/
structure Head.IsSound (h : Head) : Prop where
  indent : IsBlanks h.indent
  gap : IsBlanks h.gap
  space : IsBlanks h.space
  spaced : h.space ≠ []
  name : IsName h.name
  beforeSign : IsBlanks h.beforeSign

structure Layout.IsSound (l : Layout) : Prop where
  head : l.toHead.IsSound
  afterSign : IsBlanks l.afterSign
  expression : IsExpression l.expression
  trail : IsBlanks l.trail

def Layout.directive (l : Layout) : Directive := ⟨String.ofList l.name, .ofChars l.expression⟩

/-- A line on which nothing but blanks follows the equals sign, and one blank at least. -/
def IsOpenEnded (line : List Char) : Prop :=
  ∃ (h : Head) (blanks : List Char), h.IsSound ∧ IsBlanks blanks ∧ blanks ≠ [] ∧ line = h.chars ++ blanks

section Spans

variable {p : Char → Bool} {as bs r s : List Char}

theorem dropWhile_append_of_head (ha : ∀ c ∈ as, p c = true)
    (hr : ∀ c, r.head? = some c → p c = false) : (as ++ r).dropWhile p = r := by
  rw [List.dropWhile_append_of_pos ha]
  cases r with
  | nil => rfl
  | cons c r => simp [hr c rfl]

theorem span_unique (ha : ∀ c ∈ as, p c = true) (hb : ∀ c ∈ bs, p c = true)
    (hr : ∀ c, r.head? = some c → p c = false) (hs : ∀ c, s.head? = some c → p c = false)
    (h : as ++ r = bs ++ s) : as = bs ∧ r = s := by
  have hrest : r = s := by
    rw [← dropWhile_append_of_head ha hr, h, dropWhile_append_of_head hb hs]
  rw [hrest] at h
  exact ⟨List.append_cancel_right h, hrest⟩

theorem head?_dropWhile_eq_false (cs : List Char) :
    ∀ c, (cs.dropWhile p).head? = some c → p c = false := by
  intro c hc
  have := List.head?_dropWhile_not p cs
  rw [hc] at this
  simpa using this

theorem trimLeft_eq_iff : Text.trimLeft s = r ↔
    ∃ bs, IsBlanks bs ∧ s = bs ++ r ∧ ∀ c, r.head? = some c → Text.isBlank c = false := by
  constructor
  · rintro rfl
    exact ⟨s.takeWhile Text.isBlank, fun c hc => List.mem_takeWhile_imp hc,
      List.takeWhile_append_dropWhile.symm, head?_dropWhile_eq_false s⟩
  · rintro ⟨bs, hb, rfl, hr⟩
    exact dropWhile_append_of_head hb hr

end Spans

section Name

variable {c : Char} {cs name r : List Char}

theorem isNameStart_iff : isNameStart c = true ↔ IsLetter c := by
  delta isNameStart Char.isAlpha Char.isUpper Char.isLower
  simp [IsLetter, Char.le_def]
  grind

theorem isNameChar_iff : isNameChar c = true ↔ IsLetterOrDigit c := by
  delta isNameChar Char.isAlphanum Char.isAlpha Char.isUpper Char.isLower Char.isDigit
  simp [IsLetterOrDigit, IsLetter, Char.le_def]
  grind

theorem name?_eq_some_iff : name? cs = some (name, r) ↔
    IsName name ∧ cs = name ++ r ∧ ∀ c, r.head? = some c → isNameChar c = false := by
  cases cs with
  | nil =>
    refine ⟨nofun, ?_⟩
    rintro ⟨⟨c, s, rfl, -⟩, h, -⟩
    cases h
  | cons c s =>
    constructor
    · intro h
      rw [name?] at h
      split at h
      · rename_i hc
        cases h
        refine ⟨⟨c, _, rfl, isNameStart_iff.1 hc, fun d hd => ?_⟩, ?_, head?_dropWhile_eq_false s⟩
        · exact isNameChar_iff.1 (List.mem_takeWhile_imp hd)
        · rw [List.cons_append, List.takeWhile_append_dropWhile]
      · cases h
    · rintro ⟨⟨d, t, rfl, hd, ht⟩, h, hr⟩
      rw [List.cons_append] at h
      obtain ⟨rfl, rfl⟩ := List.cons.inj h
      have ht : ∀ e ∈ t, isNameChar e = true := fun e he => isNameChar_iff.2 (ht e he)
      have hdrop : (t ++ r).dropWhile isNameChar = r := dropWhile_append_of_head ht hr
      have htake : (t ++ r).takeWhile isNameChar = t := by
        have := List.takeWhile_append_dropWhile (p := isNameChar) (l := t ++ r)
        rw [hdrop] at this
        exact List.append_cancel_right this
      rw [name?, if_pos (isNameStart_iff.2 hd), htake, hdrop]

end Name

section Head

variable {line cs name r s : List Char}

theorem skipSomeBlanks?_eq_some_iff : skipSomeBlanks? cs = some r ↔
    ∃ bs, IsBlanks bs ∧ bs ≠ [] ∧ cs = bs ++ r ∧ ∀ c, r.head? = some c → Text.isBlank c = false := by
  cases cs with
  | nil =>
    refine ⟨nofun, ?_⟩
    rintro ⟨bs, -, hne, h, -⟩
    exact absurd (List.append_eq_nil_iff.1 h.symm).1 hne
  | cons c s =>
    cases hc : Text.isBlank c with
    | true =>
      simp only [skipSomeBlanks?, hc, if_true, Option.some.injEq, trimLeft_eq_iff]
      constructor
      · rintro ⟨bs, hb, rfl, hr⟩
        exact ⟨c :: bs, List.forall_mem_cons.2 ⟨hc, hb⟩, List.cons_ne_nil c bs, rfl, hr⟩
      · rintro ⟨_ | ⟨d, bs⟩, hb, hne, h, hr⟩
        · exact absurd rfl hne
        · obtain ⟨-, rfl⟩ := List.cons.inj h
          exact ⟨bs, (List.forall_mem_cons.1 hb).2, rfl, hr⟩
    | false =>
      simp only [skipSomeBlanks?, hc]
      refine ⟨nofun, ?_⟩
      rintro ⟨_ | ⟨d, bs⟩, hb, hne, h, -⟩
      · exact absurd rfl hne
      · obtain ⟨rfl, -⟩ := List.cons.inj h
        exact absurd (hb _ List.mem_cons_self) (by simp [hc])

theorem isBlank_eq_false_of_isLetterOrDigit {c : Char} (h : IsLetterOrDigit c) :
    Text.isBlank c = false := by
  have hc : 48 ≤ c.toNat ∧ c.toNat ≤ 122 := by
    rcases h with (⟨ha, hz⟩ | ⟨ha, hz⟩ | rfl) | ⟨ha, hz⟩
    · exact ⟨Nat.le_trans (by decide) ha, hz⟩
    · exact ⟨Nat.le_trans (by decide) ha, Nat.le_trans hz (by decide)⟩
    · decide
    · exact ⟨ha, Nat.le_trans hz (by decide)⟩
  exact Text.isBlank_eq_false_of_range (by decide) hc.1 hc.2

theorem isNameChar_eq_false_of_isBlank {c : Char} (h : Text.isBlank c = true) :
    isNameChar c = false := by
  cases hc : isNameChar c with
  | false => rfl
  | true => cases h.symm.trans (isBlank_eq_false_of_isLetterOrDigit (isNameChar_iff.1 hc))

namespace Head.IsSound

variable {h : Head} (hs : h.IsSound)
include hs

theorem name_first : ∀ c, (h.name ++ r).head? = some c → Text.isBlank c = false := by
  obtain ⟨d, s, hname, hd, -⟩ := hs.name
  rw [hname]
  rintro c ⟨⟩
  exact isBlank_eq_false_of_isLetterOrDigit (.inl hd)

theorem isNameChar_of_mem : ∀ c ∈ h.name, isNameChar c = true := by
  obtain ⟨d, s, hname, hd, hs⟩ := hs.name
  rw [hname, List.forall_mem_cons]
  exact ⟨isNameChar_iff.2 (.inl hd), fun c hc => isNameChar_iff.2 (hs c hc)⟩

theorem name_end : ∀ c, (h.beforeSign ++ '=' :: r).head? = some c → isNameChar c = false := by
  intro c hc
  rcases h with ⟨_, _, _, _, _ | ⟨e, before⟩⟩
  · cases hc
    decide
  · cases hc
    exact isNameChar_eq_false_of_isBlank (hs.beforeSign _ List.mem_cons_self)

end Head.IsSound

theorem isBlank_hash : ∀ c, ('#' :: r).head? = some c → Text.isBlank c = false := by
  rintro c ⟨⟩
  decide

theorem isBlank_keyword : ∀ c, ("@capture".toList ++ r).head? = some c → Text.isBlank c = false := by
  rintro c ⟨⟩
  decide

theorem isBlank_sign : ∀ c, ('=' :: r).head? = some c → Text.isBlank c = false := by
  rintro c ⟨⟩
  decide

/-- Each part of a line ends where something begins that does not belong to it. -/
theorem header?_eq_some_iff : header? line = some (name, r) ↔
    ∃ h : Head, h.IsSound ∧ h.name = name ∧ line = h.chars ++ r := by
  simp only [header?, Option.bind_eq_bind, Option.bind_eq_some_iff, Text.after?_eq_some_iff,
    trimLeft_eq_iff, skipSomeBlanks?_eq_some_iff, Prod.exists, name?_eq_some_iff, Option.pure_def,
    Option.some.injEq, Prod.mk.injEq]
  constructor
  · rintro ⟨_, ⟨indent, hi, rfl, -⟩, _, ⟨gap, hg, rfl, -⟩, _, ⟨space, hs, hne, rfl, -⟩, _, _,
      ⟨hn, rfl, -⟩, _, ⟨before, hb, rfl, -⟩, rfl, rfl⟩
    exact ⟨⟨indent, gap, space, _, before⟩, ⟨hi, hg, hs, hne, hn, hb⟩, rfl, by simp [Head.chars]⟩
  · rintro ⟨h, hs, rfl, rfl⟩
    exact ⟨_, ⟨h.indent, hs.indent, by simp [Head.chars], isBlank_hash⟩,
      _, ⟨h.gap, hs.gap, rfl, isBlank_keyword⟩, _, ⟨h.space, hs.space, hs.spaced, rfl, hs.name_first⟩,
      _, _, ⟨hs.name, rfl, hs.name_end⟩, _, ⟨h.beforeSign, hs.beforeSign, rfl, isBlank_sign⟩, rfl, rfl⟩

/-- The parts can be cut off in one way, for each ends where the next one begins. -/
theorem Head.unique {h g : Head} (hh : h.IsSound) (hg : g.IsSound)
    (heq : h.chars ++ r = g.chars ++ s) : h = g ∧ r = s := by
  simp only [Head.chars, List.append_assoc, List.cons_append, List.nil_append] at heq
  obtain ⟨hindent, heq⟩ := span_unique hh.indent hg.indent isBlank_hash isBlank_hash heq
  obtain ⟨hgap, heq⟩ := span_unique hh.gap hg.gap isBlank_keyword isBlank_keyword (List.cons.inj heq).2
  have heq := List.append_cancel_left heq
  obtain ⟨hspace, heq⟩ := span_unique hh.space hg.space hh.name_first hg.name_first heq
  obtain ⟨hname, heq⟩ := span_unique hh.isNameChar_of_mem hg.isNameChar_of_mem hh.name_end
    hg.name_end heq
  obtain ⟨hbefore, heq⟩ := span_unique hh.beforeSign hg.beforeSign isBlank_sign isBlank_sign heq
  refine ⟨?_, (List.cons.inj heq).2⟩
  rcases h with ⟨⟩
  rcases g with ⟨⟩
  simp only at hindent hgap hspace hname hbefore
  simp only [hindent, hgap, hspace, hname, hbefore]

end Head

section Expression

variable {cs r left right : List Char}

theorem trim_of_isExpression (h : IsExpression cs) : Text.trim cs = cs := by
  obtain ⟨⟨c, hc, hcb⟩, ⟨d, hd, hdb⟩⟩ := h
  refine Text.trim_eq_self_iff.2 ⟨fun e he => ?_, fun e he => ?_⟩
  · exact Option.some.inj (hc.symm.trans he) ▸ hcb
  · exact Option.some.inj (hd.symm.trans he) ▸ hdb

theorem ne_nil_of_isExpression (h : IsExpression cs) : cs ≠ [] := by
  rintro rfl
  obtain ⟨c, hc, -⟩ := h.first
  cases hc

theorem first_of_isExpression (h : IsExpression cs) :
    ∀ c, (cs ++ r).head? = some c → Text.isBlank c = false := by
  obtain ⟨c, hc, hb⟩ := h.first
  obtain ⟨t, rfl⟩ := List.head?_eq_some_iff.1 hc
  rintro d ⟨⟩
  exact hb

theorem last_of_isExpression (h : IsExpression cs) :
    ∀ c, cs.getLast? = some c → Text.isBlank c = false :=
  (Text.trim_eq_self_iff.1 (trim_of_isExpression h)).2

theorem exists_trim (cs : List Char) (h : Text.trim cs ≠ []) : ∃ left right, IsBlanks left ∧
    IsBlanks right ∧ cs = left ++ (Text.trim cs ++ right) ∧ IsExpression (Text.trim cs) := by
  obtain ⟨left, hl, hcs, hfirst⟩ := trimLeft_eq_iff.1 (Eq.refl (Text.trimLeft cs))
  obtain ⟨right, hr, hright⟩ := Text.exists_eq_trimRight_append (Text.trimLeft cs)
  have hlast := Text.isBlank_getLast_trimRight (Text.trimLeft cs)
  rw [hright] at hfirst
  rw [hright] at hcs
  refine ⟨left, right, hl, hr, hcs, ?_⟩
  change Text.trimRight (Text.trimLeft cs) ≠ [] at h
  change IsExpression (Text.trimRight (Text.trimLeft cs))
  obtain ⟨c, r, hc⟩ := List.exists_cons_of_ne_nil h
  obtain ⟨d, hd⟩ := Option.isSome_iff_exists.1 (List.getLast?_isSome.2 h)
  exact ⟨⟨c, by rw [hc]; rfl, hfirst c (by rw [hc]; rfl)⟩, ⟨d, hd, hlast d hd⟩⟩

theorem expression?_of_isExpression (he : IsExpression cs) (hl : IsBlanks left)
    (hr : IsBlanks right) (hn : '\n' ∉ left ++ (cs ++ right)) :
    expression? (left ++ (cs ++ right)) = some cs := by
  have hne := ne_nil_of_isExpression he
  rw [expression?, Text.trim_between_blanks hl hr (trim_of_isExpression he) hne]
  split
  · exact absurd rfl hne
  · rw [if_neg]
    simp only [List.mem_append, not_or] at hn
    simp [hn.2.1]

/-- Of blanks alone the last one is taken for the expression. -/
theorem expression?_of_isBlanks (hb : IsBlanks cs) (hn : '\n' ∉ cs) :
    expression? cs = cs.getLast?.map ([·]) := by
  rw [expression?, Text.trim_eq_nil_iff.2 hb]
  rcases cs.eq_nil_or_concat with rfl | ⟨front, c, rfl⟩
  · rfl
  · rw [List.concat_eq_append] at hn ⊢
    have hc : c ≠ '\n' := fun h => hn (by simp [h])
    simp [hc]

theorem ofChars_of_isBlanks (h : IsBlanks cs) : Path.ofChars cs = ⟨.xpath, ""⟩ := by
  rw [Path.ofChars, Text.trim_eq_nil_iff.2 h]
  rfl

end Expression

section Line

variable {line r : List Char} {h : Head}

theorem ofChars?_chars_append (hs : h.IsSound) : Directive.ofChars? (h.chars ++ r) =
    (expression? r).map fun path => ⟨String.ofList h.name, .ofChars path⟩ := by
  rw [Directive.ofChars?, header?_eq_some_iff.2 ⟨h, hs, rfl, rfl⟩]
  simp only [Option.bind_eq_bind, Option.bind_some]
  cases expression? r <;> rfl

theorem ofChars?_layout {l : Layout} (hl : l.IsSound) (hn : '\n' ∉ l.line) :
    Directive.ofChars? l.line = some l.directive := by
  rw [Layout.line, List.mem_append, not_or] at hn
  rw [Layout.line, ofChars?_chars_append hl.head,
    expression?_of_isExpression hl.expression hl.afterSign hl.trail hn.2]
  rfl

theorem ofChars?_openEnded (hs : h.IsSound) {blanks : List Char} (hb : IsBlanks blanks)
    (hne : blanks ≠ []) (hn : '\n' ∉ h.chars ++ blanks) :
    Directive.ofChars? (h.chars ++ blanks) = some ⟨String.ofList h.name, ⟨.xpath, ""⟩⟩ := by
  rw [List.mem_append, not_or] at hn
  obtain ⟨c, hc⟩ := Option.isSome_iff_exists.1 (List.getLast?_isSome.2 hne)
  rw [ofChars?_chars_append hs, expression?_of_isBlanks hb hn.2, hc, Option.map_some, Option.map_some,
    ofChars_of_isBlanks (List.forall_mem_singleton.2 (hb c (List.mem_of_getLast? hc)))]

theorem layout_or_openEnded {d : Directive} (hn : '\n' ∉ line) (hd : Directive.ofChars? line = some d) :
    (∃ l : Layout, l.IsSound ∧ l.line = line ∧ d = l.directive) ∨ IsOpenEnded line := by
  have hhead : ∃ name r, header? line = some (name, r) := by
    simp only [Directive.ofChars?, Option.bind_eq_bind, Option.bind_eq_some_iff] at hd
    obtain ⟨p, hp, -⟩ := hd
    exact ⟨p.1, p.2, hp⟩
  obtain ⟨name, r, hr⟩ := hhead
  obtain ⟨h, hs, -, rfl⟩ := header?_eq_some_iff.1 hr
  by_cases ht : Text.trim r = []
  · refine .inr ⟨h, r, hs, Text.trim_eq_nil_iff.1 ht, ?_, rfl⟩
    rintro rfl
    rw [ofChars?_chars_append hs] at hd
    cases hd
  · obtain ⟨left, right, hl, hright, hcs, he⟩ := exists_trim r ht
    let l : Layout := ⟨h, left, Text.trim r, right⟩
    have hline : l.line = h.chars ++ r := congrArg (h.chars ++ ·) hcs.symm
    have hsound : l.IsSound := ⟨hs, hl, he, hright⟩
    refine .inl ⟨l, hsound, hline, ?_⟩
    rw [← hline] at hd hn
    exact Option.some.inj (hd.symm.trans (ofChars?_layout hsound hn))

theorem Layout.unique {l m : Layout} (hl : l.IsSound) (hm : m.IsSound) (heq : l.line = m.line) :
    l = m := by
  obtain ⟨hhead, heq⟩ := Head.unique hl.head hm.head heq
  obtain ⟨hafter, heq⟩ := span_unique hl.afterSign hm.afterSign (first_of_isExpression hl.expression)
    (first_of_isExpression hm.expression) heq
  have hexpression := congrArg Text.trimRight heq
  rw [Text.trimRight_append_blanks _ hl.trail, Text.trimRight_append_blanks _ hm.trail,
    Text.trimRight_eq_self (last_of_isExpression hl.expression),
    Text.trimRight_eq_self (last_of_isExpression hm.expression)] at hexpression
  rw [hexpression] at heq
  have htrail := List.append_cancel_left heq
  rcases l with ⟨⟩
  rcases m with ⟨⟩
  simp only at hhead hafter hexpression htrail
  simp only [hhead, hafter, hexpression, htrail]

theorem trimRight_chars (h : Head) : Text.trimRight h.chars = h.chars := by
  refine Text.trimRight_eq_self fun c hc => ?_
  have hchars : h.chars = h.indent ++ '#' :: (h.gap ++ ("@capture".toList ++ (h.space ++
      (h.name ++ h.beforeSign)))) ++ ['='] := by simp [Head.chars]
  rw [hchars, List.getLast?_concat] at hc
  cases hc
  decide

theorem not_mem_trimRight {c : Char} (h : c ∉ line) : c ∉ Text.trimRight line := by
  obtain ⟨bs, -, heq⟩ := Text.exists_eq_trimRight_append line
  rw [heq, List.mem_append, not_or] at h
  exact h.1

theorem trimRight_line {l : Layout} (hl : l.IsSound) :
    Text.trimRight l.line = ({ l with trail := [] } : Layout).line := by
  have hline : l.line = ({ l with trail := [] } : Layout).line ++ l.trail := by simp [Layout.line]
  rw [hline, Text.trimRight_append_blanks _ hl.trail]
  refine Text.trimRight_eq_self fun c hc => last_of_isExpression hl.expression c ?_
  rw [Layout.line, List.append_nil, ← List.append_assoc,
    List.getLast?_append_of_ne_nil _ (ne_nil_of_isExpression hl.expression)] at hc
  exact hc

theorem ofChars?_trimRight {d : Directive} (hn : '\n' ∉ line)
    (hd : Directive.ofChars? (Text.trimRight line) = some d) : Directive.ofChars? line = some d := by
  obtain ⟨bs, hb, heq⟩ := Text.exists_eq_trimRight_append line
  rcases layout_or_openEnded (not_mem_trimRight hn) hd with ⟨l, hl, hline, rfl⟩ | ⟨h, blanks, -, hblanks, hne, hline⟩
  · let m : Layout := { l with trail := l.trail ++ bs }
    have hm : m.line = line := by
      rw [heq, ← hline]
      simp [m, Layout.line]
    have hsound : m.IsSound :=
      ⟨hl.head, hl.afterSign, hl.expression, List.forall_mem_append.2 ⟨hl.trail, hb⟩⟩
    rw [← hm] at hn ⊢
    exact ofChars?_layout hsound hn
  · obtain ⟨c, hc⟩ := Option.isSome_iff_exists.1 (List.getLast?_isSome.2 hne)
    have hlast : (Text.trimRight line).getLast? = some c := by
      rw [hline, List.getLast?_append_of_ne_nil _ hne, hc]
    have hblank := hblanks c (List.mem_of_getLast? hc)
    rw [Text.isBlank_getLast_trimRight line c hlast] at hblank
    cases hblank

end Line

/-- A line is read by its layout: it is a directive exactly if it has one, it has no other, and it
does not matter whether blanks stand at its end. -/
structure IsReadByLayout (line : List Char) : Prop where
  reads : ∀ d, Directive.ofChars? line = some d ↔
    ∃ l : Layout, l.IsSound ∧ l.line = line ∧ d = l.directive
  unique : ∀ l m : Layout, l.IsSound → m.IsSound → l.line = line → m.line = line → l = m
  trimmed : Directive.ofChars? line = Directive.ofChars? (Text.trimRight line)

theorem ofChars?_of_isOpenEnded {line : List Char} (hn : '\n' ∉ line) (ho : IsOpenEnded line) :
    (∃ name, Directive.ofChars? line = some ⟨name, ⟨.xpath, ""⟩⟩) ∧
      Directive.ofChars? (Text.trimRight line) = none := by
  obtain ⟨h, blanks, hs, hb, hne, rfl⟩ := ho
  refine ⟨⟨_, ofChars?_openEnded hs hb hne hn⟩, ?_⟩
  rw [Text.trimRight_append_blanks blanks hb, trimRight_chars]
  have hnil := ofChars?_chars_append (r := []) hs
  rwa [List.append_nil] at hnil

theorem isReadByLayout_of_not_isOpenEnded {line : List Char} (hn : '\n' ∉ line)
    (ho : ¬IsOpenEnded line) : IsReadByLayout line := by
  refine ⟨fun d => ⟨fun hd => (layout_or_openEnded hn hd).resolve_right ho, ?_⟩, ?_, ?_⟩
  · rintro ⟨l, hl, rfl, rfl⟩
    exact ofChars?_layout hl hn
  · rintro l m hl hm rfl heq
    exact Layout.unique hl hm heq.symm
  · cases hd : Directive.ofChars? line with
    | none =>
      cases ht : Directive.ofChars? (Text.trimRight line) with
      | none => rfl
      | some d => cases hd.symm.trans (ofChars?_trimRight hn ht)
    | some d =>
      obtain ⟨l, hl, rfl, rfl⟩ := (layout_or_openEnded hn hd).resolve_right ho
      have hn : '\n' ∉ ({ l with trail := [] } : Layout).line := trimRight_line hl ▸ not_mem_trimRight hn
      have hsound : ({ l with trail := [] } : Layout).IsSound :=
        ⟨hl.head, hl.afterSign, hl.expression, nofun⟩
      rw [trimRight_line hl, ofChars?_layout hsound hn]
      rfl

/-- Every line is read by its layout, save those on which blanks alone follow the equals sign. Such a
line is read for an empty path, and it is none once its blanks are gone. -/
theorem isReadByLayout_iff_not_isOpenEnded (line : List Char)
    (h : ∀ c ∈ line, Text.isBreak c = false) :
    (IsReadByLayout line ↔ ¬IsOpenEnded line) ∧
    (IsOpenEnded line → (∃ name, Directive.ofChars? line = some ⟨name, ⟨.xpath, ""⟩⟩) ∧
      Directive.ofChars? (Text.trimRight line) = none) := by
  have hn : '\n' ∉ line := fun hm => absurd (h _ hm) (by decide)
  refine ⟨⟨fun hr ho => ?_, isReadByLayout_of_not_isOpenEnded hn⟩, ofChars?_of_isOpenEnded hn⟩
  obtain ⟨⟨name, hd⟩, hnone⟩ := ofChars?_of_isOpenEnded hn ho
  cases hd.symm.trans (hr.trimmed.trans hnone)

section Lines

theorem isBreak_eq_false_of_any {cs : List Char} (h : cs.any Text.isBreak = false) :
    ∀ c ∈ cs, Text.isBreak c = false := by
  simpa using h

/-- The path holds a blank, an equals sign and a number sign. -/
def spacedLine : List Char := "\t#@capture\u3000a_1= $.x = [ #1\u00a0".toList

theorem isReadByLayout_spaced : (∀ c ∈ spacedLine, Text.isBreak c = false) ∧
    Directive.ofChars? spacedLine = some ⟨"a_1", ⟨.jsonPath, "$.x = [ #1"⟩⟩ ∧
    IsReadByLayout spacedLine := by
  have hbreaks : ∀ c ∈ spacedLine, Text.isBreak c = false := isBreak_eq_false_of_any (by decide)
  have hread : Directive.ofChars? spacedLine = some ⟨"a_1", ⟨.jsonPath, "$.x = [ #1"⟩⟩ := by decide
  obtain ⟨hiff, hopen⟩ := isReadByLayout_iff_not_isOpenEnded spacedLine hbreaks
  refine ⟨hbreaks, hread, hiff.2 fun ho => ?_⟩
  obtain ⟨⟨name, hname⟩, -⟩ := hopen ho
  cases hread.symm.trans hname

/-- One blank after the equals sign makes a directive of a line that is none. -/
theorem not_forall_isReadByLayout :
    ¬ ∀ line : List Char, (∀ c ∈ line, Text.isBreak c = false) → IsReadByLayout line := by
  intro h
  have heq := (h "# @capture x = ".toList (isBreak_eq_false_of_any (by decide))).trimmed
  revert heq
  decide

end Lines

end TemplatedRequests.Capture
