import TemplatedRequests.Proofs.Template.Keys

/-!
Texts that are put together from literals and placeholders. Double braces of a literal are escaped,
and then nothing of it is taken for a placeholder or for part of one: the names are those that were
put in, and expansion gives the literals back as they were, with values between them.
-/

namespace TemplatedRequests.Template

/-- A literal with an escape for each pair of braces, from the left. -/
def escape : List Char → List Char
  | [] => []
  | '{' :: '{' :: r => '\\' :: '{' :: '{' :: escape r
  | '}' :: '}' :: r => '\\' :: '}' :: '}' :: escape r
  | c :: r => c :: escape r

def literalTokens : List Char → List Token
  | [] => []
  | '{' :: '{' :: r => .opening :: literalTokens r
  | '}' :: '}' :: r => .closing :: literalTokens r
  | c :: r => .plain c :: literalTokens r

/-- A literal and a placeholder after it, with blanks on both sides of the name. -/
structure Segment where
  literal : String
  left : List Char
  name : String
  right : List Char

namespace Segment

def inside (s : Segment) : List Char := s.left ++ (s.name.toList ++ s.right)

def chars (s : Segment) : List Char :=
  escape s.literal.toList ++ '{' :: '{' :: (s.inside ++ ['}', '}'])

end Segment

def render (segments : List Segment) (last : String) : String :=
  String.ofList (segments.flatMap Segment.chars ++ escape last.toList)

/-- A name without braces that nothing is trimmed from, and that leaves the braces after it alone. -/
structure IsPlainName (name : String) : Prop where
  nonempty : name ≠ ""
  opening : '{' ∉ name.toList
  closing : '}' ∉ name.toList
  first : ∀ c, name.toList.head? = some c → Text.isBlank c = false
  last : ∀ c, name.toList.getLast? = some c → Text.isBlank c = false
  unescaped : name.toList.getLast? ≠ some '\\'

/-- A literal without the characters that stand for escapes while a text is scanned. -/
structure IsLiteral (literal : String) : Prop where
  opening : hiddenOpening ∉ literal.toList
  closing : hiddenClosing ∉ literal.toList

/-- The literal does not end in a character that would join the braces of the placeholder. -/
structure Segment.IsSound (s : Segment) : Prop where
  literal : IsLiteral s.literal
  backslash : s.literal.toList.getLast? ≠ some '\\'
  brace : s.literal.toList.getLast? ≠ some '{'
  left : ∀ c ∈ s.left, Text.isBlank c = true
  name : IsPlainName s.name
  right : ∀ c ∈ s.right, Text.isBlank c = true

section Read

variable {c : Char} {cs r rest inside : List Char}

theorem untilClosing_cons (ho : ∀ s, c = '\\' → r = '{' :: '{' :: s → False)
    (hc : ∀ s, c = '\\' → r = '}' :: '}' :: s → False) (hb : c ≠ '}') :
    untilClosing (c :: r) = (c :: (untilClosing r).1, (untilClosing r).2) := by
  rw [untilClosing]
  · exact ho
  · exact hc
  · exact hb

theorem tokens_cons (ho : ∀ s, c = '\\' → r = '{' :: '{' :: s → False)
    (hc : ∀ s, c = '\\' → r = '}' :: '}' :: s → False)
    (hs : ∀ s, c = '{' → r = '{' :: s → False) : tokens (c :: r) = .plain c :: tokens r := by
  rw [tokens]
  · exact ho
  · exact hc
  · exact hs

theorem tokens_slot (h : slot? r = some (inside, rest)) :
    tokens ('{' :: '{' :: r) = .slot inside :: tokens rest := by
  rw [tokens]
  split
  · rename_i h'
    obtain ⟨rfl, rfl⟩ := Prod.mk.inj (Option.some.inj (h.symm.trans h'))
    rfl
  · rename_i h'
    cases h.symm.trans h'

theorem escape_eq_brace_cons {d : Char} (hd : d = '{' ∨ d = '}') (h : escape r = d :: cs) :
    ∃ t, r = d :: t ∧ escape t = cs ∧ t.head? ≠ some d := by
  fun_cases escape r with
  | case1 => cases h
  | case2 t =>
    rcases hd with rfl | rfl <;> simp [escape] at h
  | case3 t =>
    rcases hd with rfl | rfl <;> simp [escape] at h
  | case4 e t ho hc =>
    rw [escape] at h
    · obtain ⟨rfl, ht⟩ := List.cons.inj h
      refine ⟨t, rfl, ht, fun hh => ?_⟩
      obtain ⟨u, rfl⟩ := List.head?_eq_some_iff.1 hh
      rcases hd with rfl | rfl
      · exact ho u rfl rfl
      · exact hc u rfl rfl
    · exact ho
    · exact hc

theorem escape_eq_nil_iff : escape r = [] ↔ r = [] := by
  fun_cases escape r <;> simp

/-- Nothing opens or closes between a literal and what follows it, if the literal does not end in
an opening brace. -/
theorem escape_append_ne {d : Char} {s : List Char} (hd : d = '{' ∨ d = '}')
    (h : ∀ e t, rest = e :: t → e = '{' ∧ r ≠ [] ∧ r.getLast? ≠ some '{') :
    escape r ++ rest ≠ d :: d :: s := by
  intro heq
  rcases List.append_eq_cons_iff.1 heq with ⟨hr, hrest⟩ | ⟨cs, hr, hcs⟩
  · obtain ⟨-, hne, -⟩ := h _ _ hrest
    exact hne (escape_eq_nil_iff.1 hr)
  · obtain ⟨t, rfl, ht, hhead⟩ := escape_eq_brace_cons hd hr
    rcases List.append_eq_cons_iff.1 hcs.symm with ⟨hnil, hrest⟩ | ⟨_, hbrace, -⟩
    · obtain ⟨rfl, -, hlast⟩ := h _ _ hrest
      rw [escape_eq_nil_iff.1 (ht.trans hnil)] at hlast
      exact hlast rfl
    · obtain ⟨u, rfl, -⟩ := escape_eq_brace_cons hd (ht.trans hbrace)
      exact hhead rfl

/-- An escaped literal is read by itself, whatever follows it, unless it ends in a character that
joins an opening brace. -/
theorem tokens_escape_append (h : ∀ e t, rest = e :: t →
      e = '{' ∧ cs.getLast? ≠ some '\\' ∧ cs.getLast? ≠ some '{') :
    tokens (escape cs ++ rest) = literalTokens cs ++ tokens rest := by
  have hlast : ∀ {c d : Char} {r : List Char}, (c :: r).getLast? ≠ some d → r.getLast? ≠ some d := by
    intro c d r hne hr
    rw [List.getLast?_cons, hr] at hne
    exact hne rfl
  fun_induction literalTokens cs with
  | case1 => rfl
  | case2 r ih =>
    rw [escape, List.cons_append, List.cons_append, List.cons_append, tokens, ih, List.cons_append]
    exact fun e t ht => ⟨(h e t ht).1, hlast (hlast (h e t ht).2.1), hlast (hlast (h e t ht).2.2)⟩
  | case3 r ih =>
    rw [escape, List.cons_append, List.cons_append, List.cons_append, tokens, ih, List.cons_append]
    exact fun e t ht => ⟨(h e t ht).1, hlast (hlast (h e t ht).2.1), hlast (hlast (h e t ht).2.2)⟩
  | case4 c r ho hc ih =>
    have hr : c = '\\' → ∀ e t, rest = e :: t → e = '{' ∧ r ≠ [] ∧ r.getLast? ≠ some '{' := by
      rintro rfl e t ht
      obtain ⟨he, hb, hl⟩ := h e t ht
      refine ⟨he, ?_, hlast hl⟩
      rintro rfl
      exact hb rfl
    rw [escape, List.cons_append, tokens_cons, ih, List.cons_append]
    · exact fun e t ht => ⟨(h e t ht).1, hlast (h e t ht).2.1, hlast (h e t ht).2.2⟩
    · exact fun s hb => escape_append_ne (.inl rfl) (hr hb)
    · exact fun s hb => escape_append_ne (.inr rfl) (hr hb)
    · rintro s rfl hs
      rcases List.append_eq_cons_iff.1 hs with ⟨hnil, hrest⟩ | ⟨_, hbrace, -⟩
      · rw [escape_eq_nil_iff.1 hnil] at h
        exact (h _ _ hrest).2.2 rfl
      · obtain ⟨u, rfl, -⟩ := escape_eq_brace_cons (.inl rfl) hbrace
        exact ho u rfl rfl
    · exact ho
    · exact hc

theorem untilClosing_append_closing (ho : '{' ∉ inside) (hc : '}' ∉ inside)
    (hl : inside.getLast? ≠ some '\\') :
    untilClosing (inside ++ '}' :: rest) = (inside, '}' :: rest) := by
  induction inside with
  | nil => rw [List.nil_append, untilClosing]
  | cons c r ih =>
    simp only [List.mem_cons, not_or] at ho hc
    have hnext : ∀ d s, (d = '{' ∨ d = '}') → c = '\\' → r ++ '}' :: rest = d :: s → False := by
      rintro d s hd rfl hs
      cases r with
      | nil => exact hl rfl
      | cons e r =>
        obtain ⟨rfl, -⟩ := List.cons.inj hs
        rcases hd with rfl | rfl
        · exact ho.2 List.mem_cons_self
        · exact hc.2 List.mem_cons_self
    have hr : r.getLast? ≠ some '\\' := by
      intro hr
      rw [List.getLast?_cons, hr] at hl
      exact hl rfl
    rw [List.cons_append, untilClosing_cons (fun s => hnext _ _ (.inl rfl))
      (fun s => hnext _ _ (.inr rfl)) (Ne.symm hc.1), ih ho.2 hc.2 hr]

theorem tokens_placeholder_append (hne : inside ≠ []) (ho : '{' ∉ inside) (hc : '}' ∉ inside)
    (hl : inside.getLast? ≠ some '\\') :
    tokens ('{' :: '{' :: (inside ++ '}' :: '}' :: rest)) = .slot inside :: tokens rest := by
  obtain ⟨c, r, rfl⟩ := List.exists_cons_of_ne_nil hne
  refine tokens_slot ?_
  rw [slot?, untilClosing_append_closing ho hc hl]
  rfl

end Read

section Written

variable {m : Type → Type} [Monad m] (write : String → ExceptT Fault m (List Char))

variable [LawfulMonad m] (ts : List Token)

theorem written_literal_append {cs : List Char} (ho : hiddenOpening ∉ cs) (hc : hiddenClosing ∉ cs) :
    written write (literalTokens cs ++ ts) = (cs ++ ·) <$> written write ts := by
  fun_induction literalTokens cs with
  | case1 => simp
  | case2 r ih =>
    simp only [List.mem_cons, not_or] at ho hc
    rw [List.cons_append, written_piece_cons (t := .opening) write _ rfl, ih ho.2.2 hc.2.2]
    simp [restore]
  | case3 r ih =>
    have hne : hiddenClosing ≠ hiddenOpening := by decide
    simp only [List.mem_cons, not_or] at ho hc
    rw [List.cons_append, written_piece_cons (t := .closing) write _ rfl, ih ho.2.2 hc.2.2]
    simp [restore, hne]
  | case4 c r _ _ ih =>
    simp only [List.mem_cons, not_or] at ho hc
    rw [List.cons_append, written_piece_cons (t := .plain c) write _ rfl, ih ho.2 hc.2]
    simp [restore, Ne.symm ho.1, Ne.symm hc.1]

end Written

section Names

variable {name : String} {left right : List Char}

theorem brace_not_mem_blanks {cs : List Char} {d : Char} (h : ∀ c ∈ cs, Text.isBlank c = true)
    (hd : d = '{' ∨ d = '}' ∨ d = '\\') : d ∉ cs := by
  intro hm
  have hb := h d hm
  rcases hd with rfl | rfl | rfl <;> exact absurd hb (by decide)

namespace IsPlainName

variable (h : IsPlainName name)
include h

theorem toList_ne_nil : name.toList ≠ [] := by
  simpa using h.nonempty

theorem trim_eq : Text.trim name.toList = name.toList :=
  Text.trim_eq_self_iff.2 ⟨h.first, h.last⟩

variable (hl : ∀ c ∈ left, Text.isBlank c = true) (hr : ∀ c ∈ right, Text.isBlank c = true)
include hl hr

theorem tokens_append (rest : List Char) :
    tokens ('{' :: '{' :: (left ++ (name.toList ++ right) ++ '}' :: '}' :: rest)) =
      .slot (left ++ (name.toList ++ right)) :: tokens rest := by
  refine tokens_placeholder_append ?_ ?_ ?_ ?_
  · simp [h.toList_ne_nil]
  · simp [h.opening, brace_not_mem_blanks hl (.inl rfl), brace_not_mem_blanks hr (.inl rfl)]
  · simp [h.closing, brace_not_mem_blanks hl (.inr (.inl rfl)),
      brace_not_mem_blanks hr (.inr (.inl rfl))]
  · intro hlast
    rw [List.getLast?_append_of_ne_nil _ (by simp [h.toList_ne_nil])] at hlast
    rcases right.eq_nil_or_concat with rfl | ⟨front, c, rfl⟩
    · rw [List.append_nil] at hlast
      exact h.unescaped hlast
    · rw [List.getLast?_append_of_ne_nil _ (by simp), List.concat_eq_append, List.getLast?_concat]
        at hlast
      cases hlast
      exact brace_not_mem_blanks hr (.inr (.inr rfl)) (by simp)

theorem nameOf_hide : nameOf (hide (left ++ (name.toList ++ right))) = name := by
  have hbraces : ∀ c ∈ left ++ (name.toList ++ right), c ≠ '{' ∧ c ≠ '}' := by
    intro c hc
    refine ⟨?_, ?_⟩ <;> rintro rfl
    · simp [h.opening, brace_not_mem_blanks hl (.inl rfl), brace_not_mem_blanks hr (.inl rfl)] at hc
    · simp [h.closing, brace_not_mem_blanks hl (.inr (.inl rfl)),
        brace_not_mem_blanks hr (.inr (.inl rfl))] at hc
  have hhide : hide (left ++ (name.toList ++ right) ++ []) = left ++ (name.toList ++ right) ++ [] :=
    hide_append hbraces fun _ => by simp
  rw [List.append_nil] at hhide
  rw [hhide, nameOf, Text.trim_between_blanks hl hr h.trim_eq h.toList_ne_nil, String.ofList_toList]

end IsPlainName

end Names

section Render

variable {segments : List Segment} {last : String}

namespace Segment

def tokens (s : Segment) : List Token := literalTokens s.literal.toList ++ [.slot s.inside]

variable {s : Segment} (h : s.IsSound)
include h

theorem tokens_chars_append (rest : List Char) :
    Template.tokens (s.chars ++ rest) = s.tokens ++ Template.tokens rest := by
  rw [chars, List.append_assoc, tokens_escape_append, List.cons_append, List.cons_append,
    List.append_assoc, Segment.inside, List.cons_append, List.cons_append, List.nil_append,
    h.name.tokens_append h.left h.right, tokens]
  · simp [Segment.inside]
  · rintro e t ⟨⟩
    exact ⟨rfl, h.backslash, h.brace⟩

theorem nameOf_inside : nameOf (hide s.inside) = s.name := h.name.nameOf_hide h.left h.right

end Segment

theorem tokens_render (h : ∀ s ∈ segments, s.IsSound) :
    tokens (render segments last).toList =
      segments.flatMap Segment.tokens ++ literalTokens last.toList := by
  rw [render, String.toList_ofList]
  induction segments with
  | nil =>
    have hlast : tokens (escape last.toList ++ []) = literalTokens last.toList ++ tokens [] :=
      tokens_escape_append nofun
    simpa [tokens] using hlast
  | cons s rest ih =>
    obtain ⟨hs, hrest⟩ := List.forall_mem_cons.1 h
    rw [List.flatMap_cons, List.append_assoc, Segment.tokens_chars_append hs, ih hrest, List.flatMap_cons,
      List.append_assoc]

theorem names_literalTokens (cs : List Char) :
    ((literalTokens cs).map Token.hidden).filterMap Piece.name? = [] := by
  fun_induction literalTokens cs with
  | case1 => rfl
  | case2 r ih => exact ih
  | case3 r ih => exact ih
  | case4 c r _ _ ih => exact ih

theorem names_segments (h : ∀ s ∈ segments, s.IsSound) :
    ((segments.flatMap Segment.tokens).map Token.hidden).filterMap Piece.name? =
      segments.map Segment.name := by
  induction segments with
  | nil => rfl
  | cons s rest ih =>
    obtain ⟨hs, hrest⟩ := List.forall_mem_cons.1 h
    rw [List.flatMap_cons, List.map_append, List.filterMap_append, ih hrest, Segment.tokens,
      List.map_append, List.filterMap_append, names_literalTokens]
    simp [Token.hidden, Piece.name?, Segment.nameOf_inside hs]

theorem names_render (h : ∀ s ∈ segments, s.IsSound)
    (ho : hasOpening (render segments last).toList = true) :
    names (render segments last) = segments.map Segment.name := by
  rw [names, namesIn, if_pos ho, pieces_hide, tokens_render h, List.map_append,
    List.filterMap_append, names_literalTokens, List.append_nil, names_segments h]

variable {m : Type → Type} [Monad m] [LawfulMonad m] {write : String → ExceptT Fault m (List Char)}

theorem written_tokens_append {s : Segment} (h : s.IsSound) (ts : List Token) :
    written write (s.tokens ++ ts) = do
      let value ← write s.name
      let rest ← written write ts
      return s.literal.toList ++ value ++ rest := by
  rw [Segment.tokens, List.append_assoc, written_literal_append _ _ h.literal.opening h.literal.closing,
    List.cons_append, List.nil_append, written_slot_cons, Segment.nameOf_inside h]
  simp

theorem written_segments (value : String → ExceptT Fault m String)
    (h : ∀ s ∈ segments, s.IsSound) (hl : IsLiteral last)
    (hv : ∀ s ∈ segments, value s.name = String.ofList <$> write s.name) :
    String.ofList <$> written write (segments.flatMap Segment.tokens ++ literalTokens last.toList) =
      do
        let parts ← segments.mapM fun s => do return s.literal ++ (← value s.name)
        return String.join parts ++ last := by
  -- By induction on the segments: each is written as its literal and the value of its name.
  induction segments with
  | nil =>
    have hlast := written_literal_append write [] hl.opening hl.closing
    rw [List.append_nil, written_nil] at hlast
    simp [hlast]
  | cons s rest ih =>
    obtain ⟨hs, hrest⟩ := List.forall_mem_cons.1 h
    obtain ⟨hvs, hvrest⟩ := List.forall_mem_cons.1 hv
    have hsplit : String.ofList <$> written write
        ((s :: rest).flatMap Segment.tokens ++ literalTokens last.toList) = do
          let v ← value s.name
          let tail ← String.ofList <$> written write
            (rest.flatMap Segment.tokens ++ literalTokens last.toList)
          return s.literal ++ v ++ tail := by
      rw [List.flatMap_cons, List.append_assoc, written_tokens_append hs, hvs]
      simp [String.ofList_append, String.append_assoc]
    rw [hsplit, ih hrest hvrest]
    simp [String.append_assoc]

variable (scopes : Scopes) (call : Resolver m)

theorem substitute_placeholder_eq {name : String} (h : IsPlainName name) :
    substitute (placeholder name) scopes call =
      String.ofList <$> enter scopes call (expand scopes call 9) [] name := by
  have hchars : (placeholder name).toList =
      '{' :: '{' :: (([] : List Char) ++ (name.toList ++ []) ++ '}' :: '}' :: []) := by
    simp [placeholder]
  have htokens : tokens (placeholder name).toList = [.slot ([] ++ (name.toList ++ []))] := by
    rw [hchars, h.tokens_append (by simp) (by simp), tokens]
  have hname : nameOf (hide ([] ++ (name.toList ++ []))) = name :=
    h.nameOf_hide (by simp) (by simp)
  rw [substitute, maxLevels, expand_eq_written (by rw [hchars]; rfl), htokens, written_slot_cons,
    hname, written_nil]
  simp

end Render

/-- The names of a text that was put together are those that were put in, and it is substituted by
its literals as they were with what each placeholder by itself is substituted by after them. -/
theorem substitute_render {m : Type → Type} [Monad m] [LawfulMonad m] (segments : List Segment)
    (last : String) (scopes : Scopes) (call : Resolver m) (h : ∀ s ∈ segments, s.IsSound)
    (hl : IsLiteral last) (ho : hasOpening (render segments last).toList = true) :
    names (render segments last) = segments.map Segment.name ∧
    substitute (render segments last) scopes call = do
      let parts ← segments.mapM fun s => do
        return s.literal ++ (← substitute (placeholder s.name) scopes call)
      return String.join parts ++ last := by
  refine ⟨names_render h ho, ?_⟩
  have hsubstitute : substitute (render segments last) scopes call = String.ofList <$>
      written (enter scopes call (expand scopes call 9) [])
        (segments.flatMap Segment.tokens ++ literalTokens last.toList) := by
    rw [substitute, maxLevels, expand_eq_written ho, tokens_render h]
    simp
  exact hsubstitute.trans (written_segments (fun name => substitute (placeholder name) scopes call)
    h hl fun s hs => substitute_placeholder_eq scopes call (h s hs).name)

section Rendered

/-- Literals with odd runs of braces and a backslash before an escape. -/
def rendered : List Segment :=
  [⟨"\\\x7b\x7b\x7b\x7d\x7d\x7d=", [' '], "a\\b", ['\t']⟩, ⟨"\x7d", [], "$f x", []⟩]

theorem isSound_rendered : ∀ s ∈ rendered, s.IsSound := by
  have hfirst : IsPlainName "a\\b" :=
    ⟨by decide, by decide, by decide, by rintro c ⟨⟩; decide, by rintro c ⟨⟩; decide, by decide⟩
  have hsecond : IsPlainName "$f x" :=
    ⟨by decide, by decide, by decide, by rintro c ⟨⟩; decide, by rintro c ⟨⟩; decide, by decide⟩
  simp only [rendered, List.forall_mem_cons]
  refine ⟨⟨⟨by decide, by decide⟩, by decide, by decide, ?_, hfirst, ?_⟩,
    ⟨⟨by decide, by decide⟩, by decide, by decide, by simp, hsecond, by simp⟩, by simp⟩
  · exact List.forall_mem_singleton.2 (by decide)
  · exact List.forall_mem_singleton.2 (by decide)

theorem substitute_rendered :
    render rendered "\x7b\x7b" = "\\\\\x7b\x7b\x7b\\\x7d\x7d\x7d=\x7b\x7b a\\b\t\x7d\x7d" ++
      "\x7d\x7b\x7b$f x\x7d\x7d\\\x7b\x7b" ∧
    names (render rendered "\x7b\x7b") = ["a\\b", "$f x"] ∧
    substitute (m := Id) (render rendered "\x7b\x7b")
      { file := .ofEntries [("a\\b", "{{c}}"), ("c", "1")] } (fun _ _ => .ok "2") =
        .ok "\\\x7b\x7b\x7b\x7d\x7d\x7d=1\x7d2\x7b\x7b" := by
  obtain ⟨hnames, hsubstitute⟩ := substitute_render (m := Id) rendered "\x7b\x7b"
    { file := .ofEntries [("a\\b", "{{c}}"), ("c", "1")] } (fun _ _ => .ok "2")
    isSound_rendered ⟨by decide, by decide⟩ (by decide)
  refine ⟨by decide, hnames, hsubstitute.trans ?_⟩
  decide +kernel

end Rendered

end TemplatedRequests.Template
