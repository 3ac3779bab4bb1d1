import TemplatedRequests.Proofs.Template.Expansion
import TemplatedRequests.Text.Search

/-!
Reading a text once, from left to right. An escape gives its braces, a placeholder the expansion of
its value, and any other character itself. Hiding the escapes first, as expansion does, cuts a text
at the same places, and both ways agree wherever the hidden characters do not come up by themselves
and no name holds an escape.
-/

namespace TemplatedRequests.Template

/-- What a text is made of: characters, escaped braces and placeholders. -/
inductive Token where
  | plain (c : Char)
  | opening
  | closing
  | slot (inside : List Char)
  deriving DecidableEq, Repr

/-- The text up to a closing brace that belongs to no escape, and the text from there on. -/
def untilClosing : List Char → List Char × List Char
  | [] => ([], [])
  | '\\' :: '{' :: '{' :: r => ('\\' :: '{' :: '{' :: (untilClosing r).1, (untilClosing r).2)
  | '\\' :: '}' :: '}' :: r => ('\\' :: '}' :: '}' :: (untilClosing r).1, (untilClosing r).2)
  | '}' :: r => ([], '}' :: r)
  | c :: r => (c :: (untilClosing r).1, (untilClosing r).2)

/-- The inside of a placeholder whose opening has been read, and the text after it. -/
def slot? (cs : List Char) : Option (List Char × List Char) :=
  match untilClosing cs with
  | (c :: inside, '}' :: '}' :: r) => some (c :: inside, r)
  | _ => none

theorem untilClosing_append (cs : List Char) : (untilClosing cs).1 ++ (untilClosing cs).2 = cs := by
  fun_induction untilClosing cs <;> simp_all

theorem append_of_slot? {cs inside r : List Char} (h : slot? cs = some (inside, r)) :
    inside ++ '}' :: '}' :: r = cs := by
  have key := untilClosing_append cs
  unfold slot? at h
  split at h
  · rename_i hu
    cases h
    rw [hu] at key
    exact key
  · cases h

def tokens : List Char → List Token
  | [] => []
  | '\\' :: '{' :: '{' :: r => .opening :: tokens r
  | '\\' :: '}' :: '}' :: r => .closing :: tokens r
  | '{' :: '{' :: r =>
    match _h : slot? r with
    | some (inside, rest) => .slot inside :: tokens rest
    | none => .plain '{' :: tokens ('{' :: r)
  | c :: r => .plain c :: tokens r
termination_by cs => cs.length
decreasing_by
  · simp
    omega
  · simp
    omega
  · have := congrArg List.length (append_of_slot? ‹_›)
    simp only [List.length_append, List.length_cons] at this ⊢
    omega
  · simp
  · simp

section

variable {m : Type → Type} [Monad m]

def Token.written (write : String → ExceptT Fault m (List Char)) :
    Token → ExceptT Fault m (List Char)
  | .plain c => pure [c]
  | .opening => pure ['{', '{']
  | .closing => pure ['}', '}']
  | .slot inside => write (nameOf inside)

/-- Expands a text by reading it, and each value in it, once. What is written is not read again. -/
def readOnce (scopes : Scopes) (call : Resolver m) :
    (levels : Nat) → (path : List String) → List Char → ExceptT Fault m (List Char)
  | 0, _, cs => if hasOpening cs then throw .tooDeep else pure cs
  | levels + 1, path, cs =>
    if hasOpening cs then do
      let write := enter scopes call (readOnce scopes call levels) path
      let parts ← (tokens cs).mapM (Token.written write)
      return parts.flatten
    else pure cs

end

section Hide

variable {r : List Char} {c : Char}

theorem hideOpenings_cons (h : ∀ s, c = '\\' → r = '{' :: '{' :: s → False) :
    hideOpenings (c :: r) = c :: hideOpenings r := by
  rw [hideOpenings]
  exact h

theorem hideClosings_cons (h : ∀ s, c = '\\' → r = '}' :: '}' :: s → False) :
    hideClosings (c :: r) = c :: hideClosings r := by
  rw [hideClosings]
  exact h

theorem hideOpenings_eq_cons_iff {d : Char} {s : List Char} (hd : d ≠ '\\') (ho : d ≠ hiddenOpening) :
    hideOpenings r = d :: s ↔ ∃ t, r = d :: t ∧ hideOpenings t = s := by
  fun_cases hideOpenings r with
  | case1 => simp
  | case2 t => simp [Ne.symm ho, Ne.symm hd]
  | case3 e t h =>
    simp only [List.cons.injEq]
    constructor
    · rintro ⟨rfl, ht⟩
      exact ⟨t, ⟨rfl, rfl⟩, ht⟩
    · rintro ⟨_, ⟨rfl, rfl⟩, ht⟩
      exact ⟨rfl, ht⟩

theorem hide_nil : hide [] = [] := rfl

theorem hide_opening : hide ('\\' :: '{' :: '{' :: r) = hiddenOpening :: hide r := by
  rw [hide, hideOpenings]
  exact hideClosings_cons fun _ h => absurd h (by decide)

theorem hide_closing : hide ('\\' :: '}' :: '}' :: r) = hiddenClosing :: hide r := by
  rw [hide, hideOpenings_cons (by simp), hideOpenings_cons (by simp), hideOpenings_cons (by simp),
    hideClosings]
  rfl

theorem hide_cons (ho : ∀ s, c = '\\' → r = '{' :: '{' :: s → False)
    (hc : ∀ s, c = '\\' → r = '}' :: '}' :: s → False) : hide (c :: r) = c :: hide r := by
  rw [hide, hideOpenings_cons ho, hideClosings_cons]
  · rfl
  · intro s h hs
    obtain ⟨t, rfl, ht⟩ := (hideOpenings_eq_cons_iff (by decide) (by decide)).1 hs
    obtain ⟨u, rfl, -⟩ := (hideOpenings_eq_cons_iff (by decide) (by decide)).1 ht
    exact hc u h rfl

theorem hide_cons_of_ne (h : c ≠ '\\') : hide (c :: r) = c :: hide r :=
  hide_cons (fun _ hc => absurd hc h) (fun _ hc => absurd hc h)

theorem hide_eq_brace_cons {d : Char} {s : List Char} (hd : d = '{' ∨ d = '}')
    (h : hide r = d :: s) : ∃ t, r = d :: t ∧ hide t = s := by
  have hne : d ≠ hiddenOpening ∧ d ≠ hiddenClosing := by
    rcases hd with rfl | rfl <;> decide
  fun_cases untilClosing r with
  | case1 => cases h
  | case2 t =>
    rw [hide_opening] at h
    exact absurd (List.cons.inj h).1.symm hne.1
  | case3 t =>
    rw [hide_closing] at h
    exact absurd (List.cons.inj h).1.symm hne.2
  | case4 t =>
    rw [hide_cons_of_ne (by decide)] at h
    obtain ⟨rfl, ht⟩ := List.cons.inj h
    exact ⟨t, rfl, ht⟩
  | case5 c t ho hc _ =>
    rw [hide_cons ho hc] at h
    obtain ⟨rfl, ht⟩ := List.cons.inj h
    exact ⟨t, rfl, ht⟩

theorem hide_untilClosing (cs : List Char) :
    (hide cs).takeWhile (· != '}') = hide (untilClosing cs).1 ∧
      (hide cs).dropWhile (· != '}') = hide (untilClosing cs).2 := by
  have hne : (hiddenOpening != '}') = true ∧ (hiddenClosing != '}') = true := by decide
  fun_induction untilClosing cs with
  | case1 => exact ⟨rfl, rfl⟩
  | case2 r ih => simp [hide_opening, hne, ih]
  | case3 r ih => simp [hide_closing, hne, ih]
  | case4 r => simp [hide_cons_of_ne, hide_nil]
  | case5 c r ho hc hb ih =>
    have hcb : (c != '}') = true := by simpa using hb
    have happ := untilClosing_append r
    have hinside : hide (c :: (untilClosing r).1) = c :: hide (untilClosing r).1 := by
      refine hide_cons (fun s h hs => ?_) (fun s h hs => ?_)
      · exact ho (s ++ (untilClosing r).2) h (happ.symm.trans (by rw [hs]; rfl))
      · exact hc (s ++ (untilClosing r).2) h (happ.symm.trans (by rw [hs]; rfl))
    rw [hide_cons ho hc, hinside]
    exact ⟨by rw [List.takeWhile_cons_of_pos (by exact hcb), ih.1],
      by rw [List.dropWhile_cons_of_pos (by exact hcb), ih.2]⟩

theorem untilClosing_snd (cs : List Char) :
    (untilClosing cs).2 = [] ∨ ∃ r, (untilClosing cs).2 = '}' :: r := by
  fun_induction untilClosing cs with
  | case1 => exact .inl rfl
  | case2 r ih => exact ih
  | case3 r ih => exact ih
  | case4 r => exact .inr ⟨r, rfl⟩
  | case5 c r _ _ _ ih => exact ih

theorem hide_eq_nil_iff {cs : List Char} : hide cs = [] ↔ cs = [] := by
  fun_cases untilClosing cs with
  | case1 => simp [hide_nil]
  | case2 r => simp [hide_opening]
  | case3 r => simp [hide_closing]
  | case4 r => simp [hide_cons_of_ne]
  | case5 c r ho hc _ => simp [hide_cons ho hc]

theorem inside?_hide (cs : List Char) :
    inside? (hide cs) = (slot? cs).map fun p => (hide p.1, hide p.2) := by
  obtain ⟨ht, hd⟩ := hide_untilClosing cs
  have hsnd := untilClosing_snd cs
  unfold inside? slot?
  rw [ht, hd]
  generalize untilClosing cs = p at hsnd
  obtain ⟨inside, rest⟩ := p
  cases inside with
  | nil => simp [hide_nil]
  | cons c inside =>
    obtain ⟨d, hidden, hh⟩ := List.exists_cons_of_ne_nil
      (mt hide_eq_nil_iff.1 (List.cons_ne_nil c inside))
    rcases hsnd with rfl | ⟨r, rfl⟩
    · simp [hh, hide_nil]
    · rw [hh, hide_cons_of_ne (by decide)]
      cases hr : hide r with
      | nil =>
        rw [hide_eq_nil_iff] at hr
        simp [hr]
      | cons e s =>
        by_cases he : e = '}'
        · subst he
          obtain ⟨t, rfl, rfl⟩ := hide_eq_brace_cons (.inr rfl) hr
          simp [hh]
        · have hne : ∀ t, r ≠ '}' :: t := by
            rintro t rfl
            rw [hide_cons_of_ne (by decide)] at hr
            exact he (List.cons.inj hr).1.symm
          simp [he, hne]

end Hide

def Token.hidden : Token → Piece
  | .plain c => .plain c
  | .opening => .plain hiddenOpening
  | .closing => .plain hiddenClosing
  | .slot inside => .slot (hide inside)

theorem pieces_cons {c : Char} {r : List Char} (h : ∀ s, c = '{' → r = '{' :: s → False) :
    pieces (c :: r) = .plain c :: pieces r := by
  rw [pieces]
  exact h

theorem pieces_slot {r inside rest : List Char} (h : inside? r = some (inside, rest)) :
    pieces ('{' :: '{' :: r) = .slot inside :: pieces rest := by
  rw [pieces]
  split
  · rename_i h'
    obtain ⟨rfl, rfl⟩ := Prod.mk.inj (Option.some.inj (h.symm.trans h'))
    rfl
  · rename_i h'
    cases h.symm.trans h'

theorem pieces_open {r : List Char} (h : inside? r = none) :
    pieces ('{' :: '{' :: r) = .plain '{' :: pieces ('{' :: r) := by
  rw [pieces]
  split
  · rename_i h'
    cases h.symm.trans h'
  · rfl

/-- Hiding the escapes and then cutting gives the same pieces as reading once. -/
theorem pieces_hide (cs : List Char) : pieces (hide cs) = (tokens cs).map Token.hidden := by
  fun_induction tokens cs with
  | case1 => rw [hide_nil, pieces]; rfl
  | case2 r ih =>
    rw [hide_opening, pieces_cons fun _ h => absurd h (by decide), ih]
    rfl
  | case3 r ih =>
    rw [hide_closing, pieces_cons fun _ h => absurd h (by decide), ih]
    rfl
  | case4 r inside rest h ih =>
    have hi : inside? (hide r) = some (hide inside, hide rest) := by rw [inside?_hide, h]; rfl
    rw [hide_cons_of_ne (by decide), hide_cons_of_ne (by decide), pieces_slot hi, ih]
    rfl
  | case5 r h ih =>
    have hi : inside? (hide r) = none := by rw [inside?_hide, h]; rfl
    rw [hide_cons_of_ne (by decide)] at ih ⊢
    rw [hide_cons_of_ne (by decide), pieces_open hi, ih]
    rfl
  | case6 c r ho hc hs ih =>
    rw [hide_cons ho hc, pieces_cons, ih]
    · rfl
    · intro s h hr
      obtain ⟨t, rfl, -⟩ := hide_eq_brace_cons (.inl rfl) hr
      exact hs t h rfl

def holdsEscape (cs : List Char) : Bool :=
  Text.occurs ['\\', '{', '{'] cs || Text.occurs ['\\', '}', '}'] cs

def Token.isUnclear : Token → Bool
  | .slot inside => holdsEscape inside
  | _ => false

/-- A text in which hidden characters do not come up by themselves, and no name holds an escape. -/
structure Clear (cs : List Char) : Prop where
  opening : hiddenOpening ∉ cs
  closing : hiddenClosing ∉ cs
  slots : ∀ t ∈ tokens cs, t.isUnclear = false

theorem clear_iff {cs : List Char} : Clear cs ↔
    hiddenOpening ∉ cs ∧ hiddenClosing ∉ cs ∧ ∀ t ∈ tokens cs, t.isUnclear = false :=
  ⟨fun h => ⟨h.opening, h.closing, h.slots⟩, fun ⟨ho, hc, hs⟩ => ⟨ho, hc, hs⟩⟩

instance (cs : List Char) : Decidable (Clear cs) := decidable_of_iff' _ clear_iff

theorem mem_of_plain_mem_tokens {c : Char} {cs : List Char} (h : Token.plain c ∈ tokens cs) :
    c ∈ cs := by
  fun_induction tokens cs with
  | case1 => simp at h
  | case2 r ih => simp [ih (by simpa using h)]
  | case3 r ih => simp [ih (by simpa using h)]
  | case4 r inside rest hs ih =>
    have hr := ih (by simpa using h)
    rw [← append_of_slot? hs]
    simp [hr]
  | case5 r hs ih =>
    rcases List.mem_cons.1 h with h | h
    · cases h
      exact List.mem_cons_self
    · exact List.mem_cons_of_mem _ (ih h)
  | case6 d r _ _ _ ih =>
    rcases List.mem_cons.1 h with h | h
    · cases h
      exact List.mem_cons_self
    · exact List.mem_cons_of_mem _ (ih h)

theorem hide_eq_self {cs : List Char} (h : holdsEscape cs = false) : hide cs = cs := by
  induction cs with
  | nil => rfl
  | cons c r ih =>
    simp only [holdsEscape, Text.occurs, Bool.or_eq_false_iff] at h
    obtain ⟨⟨ho, ho'⟩, hc, hc'⟩ := h
    rw [hide_cons, ih (by simp [holdsEscape, ho', hc'])]
    · rintro s rfl rfl
      simp at ho
    · rintro s rfl rfl
      simp at hc

theorem mapM_congr_of_mem {α β : Type} {ts : List α} {f g : α → ExceptT Fault Id β}
    (h : ∀ t ∈ ts, f t = g t) : ts.mapM f = ts.mapM g := by
  induction ts with
  | nil => rfl
  | cons t ts ih =>
    rw [List.mapM_cons, List.mapM_cons, h t (by simp), ih fun u hu => h u (by simp [hu])]

section Refinement

variable {scopes : Scopes} {call : Resolver Id}
variable {write : String → ExceptT Fault Id (List Char)}

theorem written_hidden {cs : List Char} (hcs : Clear cs) {t : Token} (ht : t ∈ tokens cs) :
    Piece.written write t.hidden = Token.written write t := by
  cases t with
  | plain c =>
    have hm := mem_of_plain_mem_tokens ht
    have ho : c ≠ hiddenOpening := fun h => hcs.opening (h ▸ hm)
    have hc : c ≠ hiddenClosing := fun h => hcs.closing (h ▸ hm)
    simp [Token.hidden, Piece.written, Token.written, restore, ho, hc]
  | opening => rfl
  | closing => rfl
  | slot inside =>
    rw [Token.hidden, Piece.written, Token.written, hide_eq_self (hcs.slots _ ht)]

theorem mapM_pieces_eq {cs : List Char} (hcs : Clear cs) :
    (pieces (hide cs)).mapM (Piece.written write) = (tokens cs).mapM (Token.written write) := by
  rw [pieces_hide, List.mapM_map]
  exact mapM_congr_of_mem fun t ht => written_hidden hcs ht

/-- Every value that a name has, and that is read again, is clear. -/
def ClearValues (scopes : Scopes) (call : Resolver Id) : Prop :=
  ∀ name value, valueOf scopes call name = .ok value → hasOpening value.toList = true →
    Clear value.toList

theorem clearValues_of (hs : ∀ name value, scopes.lookup? name = some value → Clear value.toList)
    (hc : ∀ function args value, call function args = .ok value →
      hasOpening value.toList = true → Clear value.toList) : ClearValues scopes call := by
  intro name value hv ho
  unfold valueOf at hv
  split at hv
  · split at hv
    · cases hv
    · exact hc _ _ _ hv ho
  · split at hv
    · rename_i found hf
      obtain rfl := ok_eq_ok_iff.1 hv
      exact hs _ _ hf
    · cases hv

theorem expand_eq_readOnce (hv : ClearValues scopes call) {levels : Nat} {path : List String}
    {cs : List Char} (hcs : hasOpening cs = true → Clear cs) :
    expand scopes call levels path cs = readOnce scopes call levels path cs := by
  induction levels generalizing path cs with
  | zero => rw [expand, readOnce]
  | succ levels ih =>
    have hw : enter scopes call (expand scopes call levels) path =
        enter scopes call (readOnce scopes call levels) path := by
      funext name
      by_cases hm : name ∈ path
      · rw [enter_of_mem hm, enter_of_mem hm]
      · rcases ok_or_error (valueOf scopes call name) with ⟨value, h⟩ | ⟨fault, h⟩
        · rw [enter_of_resolved hm h, enter_of_resolved hm h, ih (hv name value h)]
        · rw [enter_of_unresolved hm h, enter_of_unresolved hm h]
    rw [expand, readOnce, hw]
    cases ho : hasOpening cs with
    | false => rfl
    | true =>
      simp only [if_true]
      rw [mapM_pieces_eq (hcs ho)]

end Refinement

def substituteOnce {m : Type → Type} [Monad m] (text : String) (scopes : Scopes)
    (call : Resolver m) : ExceptT Fault m String := do
  return String.ofList (← readOnce scopes call maxLevels [] text.toList)

/-- Where text and values are clear, hiding escapes and cutting comes to the same as reading once,
with the same fault if there is one. -/
theorem substitute_eq_substituteOnce (text : String) (scopes : Scopes) (call : Resolver Id)
    (ht : Clear text.toList)
    (hs : ∀ name value, scopes.lookup? name = some value → Clear value.toList)
    (hc : ∀ function args value, call function args = .ok value →
      hasOpening value.toList = true → Clear value.toList) :
    substitute text scopes call = substituteOnce text scopes call := by
  rw [substitute, substituteOnce, expand_eq_readOnce (clearValues_of hs hc) fun _ => ht]

theorem eq_of_lookup?_single {name value n v : String}
    (h : { file := .ofEntries [(name, value)] : Scopes }.lookup? n = some v) : v = value := by
  rw [Scopes.lookup?_eq, OrderedMap.get?_empty, Option.none_or, Option.or_none,
    Option.or_none] at h
  change (if name = n then some value else none) = some v at h
  split at h
  · exact (Option.some.inj h).symm
  · cases h

/-- Values that end in a brace, or are written between braces, open nothing. -/
theorem substitute_between_braces :
    substitute (m := Id) "\\\x7b\x7b{{a}}{{$f}}b\x7d\x7d"
      { file := .ofEntries [("a", "\x7b")] } (fun _ _ => .ok "{{a}}") = .ok "\x7b\x7b\x7b\x7bb\x7d\x7d" := by
  rw [substitute_eq_substituteOnce]
  · decide +kernel
  · decide +kernel
  · intro name value h
    rw [eq_of_lookup?_single h]
    decide +kernel
  · intro function args value h _
    rw [← ok_eq_ok_iff.1 h]
    decide +kernel

/-- The results of functions have to be clear as well. -/
theorem not_forall_substitute_eq_substituteOnce :
    ¬ ∀ (text : String) (scopes : Scopes) (call : Resolver Id), Clear text.toList →
      (∀ name value, scopes.lookup? name = some value → Clear value.toList) →
      substitute text scopes call = substituteOnce text scopes call := by
  intro h
  let scopes : Scopes := { file := .ofEntries [("a", "1")] }
  let call : Resolver Id := fun _ _ => .ok "\ue000{{a}}"
  have hscopes : ∀ name value, scopes.lookup? name = some value → Clear value.toList := by
    intro name value hv
    rw [eq_of_lookup?_single hv]
    decide +kernel
  have hidden : substitute "{{$f}}" scopes call = .ok "\x7b\x7b1" := by decide +kernel
  have once : substituteOnce "{{$f}}" scopes call = .ok "\ue0001" := by decide +kernel
  have heq := h "{{$f}}" scopes call (by decide +kernel) hscopes
  rw [hidden, once, ok_eq_ok_iff] at heq
  exact absurd heq (by decide)

end TemplatedRequests.Template
