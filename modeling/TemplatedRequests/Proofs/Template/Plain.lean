import Mathlib.Data.List.Forall2
import Mathlib.Data.List.TakeWhile
import TemplatedRequests.Proofs.Template.Scan
import TemplatedRequests.Proofs.Template.Steady

/-!
What becomes of the characters outside placeholders. They come out of an expansion as they are, save
for the two that stand for hidden escapes: where a text is scanned, these come out as double braces.
-/

namespace TemplatedRequests.Template

/-- Double opening braces, something without a closing brace, and double closing braces. -/
def HoldsPlaceholder (cs : List Char) : Prop :=
  ∃ before inside after, cs = before ++ '{' :: '{' :: (inside ++ '}' :: '}' :: after) ∧
    inside ≠ [] ∧ '}' ∉ inside

def isHidden (c : Char) : Bool := c = hiddenOpening || c = hiddenClosing

@[simp] theorem restore_hiddenOpening : restore hiddenOpening = ['{', '{'] := rfl

@[simp] theorem restore_hiddenClosing : restore hiddenClosing = ['}', '}'] := rfl

theorem restore_of_not_isHidden {c : Char} (h : isHidden c = false) : restore c = [c] := by
  simp only [isHidden, Bool.or_eq_false_iff, decide_eq_false_iff_not] at h
  rw [restore, if_neg h.1, if_neg h.2]

theorem eq_of_isHidden {c : Char} (h : isHidden c = true) :
    c = hiddenOpening ∨ c = hiddenClosing := by
  simpa [isHidden] using h

section Pieces

variable {c : Char} {cs r inside rest : List Char}

theorem isInside_of_inside? (h : inside? cs = some (inside, rest)) : inside ≠ [] ∧ '}' ∉ inside := by
  unfold inside? at h
  split at h
  · rename_i ht hd
    cases h
    refine ⟨List.cons_ne_nil _ _, fun hm => ?_⟩
    rw [← ht] at hm
    simpa using List.mem_takeWhile_imp hm
  · cases h

theorem inside?_append (h : '}' ∉ inside) (hne : inside ≠ []) (rest : List Char) :
    inside? (inside ++ '}' :: '}' :: rest) = some (inside, rest) := by
  have hall : ∀ c ∈ inside, (c != '}') = true := fun c hc => by
    simpa using fun heq : c = '}' => h (heq ▸ hc)
  unfold inside?
  rw [List.takeWhile_append_of_pos hall, List.dropWhile_append_of_pos hall]
  cases inside with
  | nil => exact absurd rfl hne
  | cons c r => simp

theorem HoldsPlaceholder.cons (h : HoldsPlaceholder r) (c : Char) : HoldsPlaceholder (c :: r) := by
  obtain ⟨before, inside, after, rfl, hinside⟩ := h
  exact ⟨c :: before, inside, after, rfl, hinside⟩

theorem pieces_of_not_holdsPlaceholder (h : ¬HoldsPlaceholder cs) : pieces cs = cs.map .plain := by
  fun_induction pieces cs with
  | case1 => rfl
  | case2 r inside rest hi ih =>
    refine absurd ⟨[], inside, rest, ?_, isInside_of_inside? hi⟩ h
    rw [append_of_inside? hi, List.nil_append]
  | case3 r hi ih => rw [ih fun hr => h (hr.cons _)]; rfl
  | case4 c r hs ih => rw [ih fun hr => h (hr.cons _)]; rfl

theorem not_holdsPlaceholder_of_pieces (h : pieces cs = cs.map .plain) : ¬HoldsPlaceholder cs := by
  -- By induction on the cutting: where nothing is cut out, a placeholder can only begin further on.
  rintro ⟨before, inside, after, heq, hne, hinside⟩
  fun_induction pieces cs generalizing before with
  | case1 => simp at heq
  | case2 r => simp at h
  | case3 r hi ih =>
    cases before with
    | nil =>
      obtain rfl : r = inside ++ '}' :: '}' :: after := by simpa using heq
      rw [inside?_append hinside hne] at hi
      cases hi
    | cons c before => exact ih (List.cons.inj h).2 before (List.cons.inj heq).2
  | case4 c r hs ih =>
    cases before with
    | nil => exact hs _ (List.cons.inj heq).1 (List.cons.inj heq).2
    | cons c before => exact ih (List.cons.inj h).2 before (List.cons.inj heq).2

theorem holdsPlaceholder_iff : HoldsPlaceholder cs ↔ pieces cs ≠ cs.map .plain :=
  ⟨fun h hp => not_holdsPlaceholder_of_pieces hp h,
    fun hp => by_contra fun h => hp (pieces_of_not_holdsPlaceholder h)⟩

instance (cs : List Char) : Decidable (HoldsPlaceholder cs) :=
  decidable_of_iff' _ holdsPlaceholder_iff

theorem flatMap_restore_eq_self_iff :
    cs.flatMap restore = cs ↔ ∀ c ∈ cs, isHidden c = false := by
  induction cs with
  | nil => simp
  | cons c r ih =>
    rw [List.flatMap_cons, List.forall_mem_cons, ← ih]
    cases hc : isHidden c with
    | false => simp [restore_of_not_isHidden hc]
    | true =>
      have hopening : '{' ≠ hiddenOpening := by decide
      have hclosing : '}' ≠ hiddenClosing := by decide
      rcases eq_of_isHidden hc with rfl | rfl <;> simp [hopening, hclosing]

end Pieces

section Written

variable {m : Type → Type} [Monad m] (write : String → ExceptT Fault m (List Char))

def written (ts : List Token) : ExceptT Fault m (List Char) := do
  return (← (ts.map Token.hidden).mapM (Piece.written write)).flatten

theorem expand_eq_written {scopes : Scopes} {call : Resolver m} {levels : Nat} {path : List String}
    {cs : List Char} (h : hasOpening cs = true) :
    expand scopes call (levels + 1) path cs =
      written (enter scopes call (expand scopes call levels) path) (tokens cs) := by
  rw [expand, if_pos h, pieces_hide]
  rfl

variable [LawfulMonad m] (ts : List Token)

theorem written_nil : written write [] = pure [] := by
  simp [written]

theorem written_piece_cons {t : Token} {cs : List Char} (h : Piece.written write t.hidden = pure cs) :
    written write (t :: ts) = (cs ++ ·) <$> written write ts := by
  simp [written, h]

theorem written_slot_cons (inside : List Char) :
    written write (.slot inside :: ts) =
      write (nameOf (hide inside)) >>= fun value => (value ++ ·) <$> written write ts := by
  simp [written, Token.hidden, Piece.written]

theorem written_of_plain {cs : List Char} (hp : ¬HoldsPlaceholder cs) (he : holdsEscape cs = false) :
    written write (tokens cs) = pure (cs.flatMap restore) := by
  rw [written, ← pieces_hide, hide_eq_self he, pieces_of_not_holdsPlaceholder hp, List.mapM_map]
  have hplain : cs.mapM (Piece.written write ∘ Piece.plain) = pure (cs.map restore) := List.mapM_pure
  rw [hplain, pure_bind, List.flatMap_def]

end Written

section Results

variable {σ α β ι : Type}

/-- What a computation gives from some state. -/
def IsResult (x : ExceptT Fault (StateM σ) α) (a : α) : Prop :=
  ∃ state, (x.run.run state).1 = .ok a

variable {x : ExceptT Fault (StateM σ) α}

theorem eq_of_isResult_pure {a b : α} (h : IsResult (pure a : ExceptT Fault (StateM σ) α) b) :
    a = b := by
  obtain ⟨state, h⟩ := h
  exact Except.ok.inj h

theorem isResult_bind {f : α → ExceptT Fault (StateM σ) β} {b : β} (h : IsResult (x >>= f) b) :
    ∃ a, IsResult x a ∧ IsResult (f a) b := by
  obtain ⟨state, h⟩ := h
  rw [ExceptT.run_bind, StateT.run_bind] at h
  rcases hx : x.run.run state with ⟨fault | a, next⟩
  · rw [hx] at h
    cases h
  · rw [hx] at h
    exact ⟨a, ⟨state, congrArg Prod.fst hx⟩, next, h⟩

theorem isResult_mapM {f : ι → ExceptT Fault (StateM σ) α} {is : List ι} {as : List α}
    (h : IsResult (is.mapM f) as) : List.Forall₂ (fun i a => IsResult (f i) a) is as := by
  induction is generalizing as with
  | nil =>
    rw [← eq_of_isResult_pure h]
    exact .nil
  | cons i is ih =>
    rw [List.mapM_cons] at h
    obtain ⟨a, ha, h⟩ := isResult_bind h
    obtain ⟨tail, htail, h⟩ := isResult_bind h
    rw [← eq_of_isResult_pure h]
    exact .cons ha (ih htail)

variable (write : String → ExceptT Fault (StateM σ) (List Char))

inductive Token.IsShownAs : Token → List Char → Prop
  | plain {c} (h : isHidden c = false) : IsShownAs (.plain c) [c]
  | hiddenOpening : IsShownAs (.plain hiddenOpening) ['{', '{']
  | hiddenClosing : IsShownAs (.plain hiddenClosing) ['}', '}']
  | opening : IsShownAs .opening ['{', '{']
  | closing : IsShownAs .closing ['}', '}']
  | slot {inside part} (h : IsResult (write (nameOf (hide inside))) part) :
    IsShownAs (.slot inside) part

variable {write}

theorem isShownAs_of_isResult {t : Token} {part : List Char}
    (h : IsResult (Piece.written write t.hidden) part) : t.IsShownAs write part := by
  cases t with
  | plain c =>
    rw [← eq_of_isResult_pure h]
    cases hc : isHidden c with
    | false => exact restore_of_not_isHidden hc ▸ .plain hc
    | true =>
      rcases eq_of_isHidden hc with rfl | rfl
      · exact .hiddenOpening
      · exact .hiddenClosing
  | opening =>
    rw [← eq_of_isResult_pure h]
    exact .opening
  | closing =>
    rw [← eq_of_isResult_pure h]
    exact .closing
  | slot inside => exact .slot h

theorem isShownAs_of_isResult_written {ts : List Token} {cs : List Char}
    (h : IsResult (written write ts) cs) :
    ∃ parts, parts.flatten = cs ∧ List.Forall₂ (Token.IsShownAs write) ts parts := by
  obtain ⟨parts, hparts, h⟩ := isResult_bind h
  refine ⟨parts, eq_of_isResult_pure h, ?_⟩
  have := isResult_mapM hparts
  rw [List.forall₂_map_left_iff] at this
  exact this.imp fun _ _ => isShownAs_of_isResult

end Results

section Substitution

variable {σ : Type} {text : String} {scopes : Scopes}

theorem substitute_of_plain {m : Type → Type} [Monad m] [LawfulMonad m] {call : Resolver m}
    (hp : ¬HoldsPlaceholder text.toList) (he : holdsEscape text.toList = false) :
    substitute text scopes call =
      pure (if hasOpening text.toList then String.ofList (text.toList.flatMap restore) else text) := by
  cases ho : hasOpening text.toList with
  | false =>
    rw [substitute, expand_of_plain ho]
    simp
  | true =>
    rw [substitute, maxLevels, expand_eq_written ho, written_of_plain _ hp he]
    simp

/-- A text without placeholders and escapes comes back as it is, unless it is scanned for the double
braces in it and holds a character that stands for a hidden escape. In any other text that is scanned
each character outside placeholders and escapes comes out as it is, save for these two. -/
theorem substitute_of_plain_eq_iff (text : String) (scopes : Scopes) (call : Resolver (StateM σ))
    (state : σ) :
    (¬HoldsPlaceholder text.toList → holdsEscape text.toList = false →
      (((substitute text scopes call).run.run state).1 = .ok text ↔
        (hasOpening text.toList = true → ∀ c ∈ text.toList, isHidden c = false))) ∧
    (∀ result, ((substitute text scopes call).run.run state).1 = .ok result →
      if hasOpening text.toList then ∃ parts, parts.flatten = result.toList ∧
        List.Forall₂ (Token.IsShownAs (enter scopes call (expand scopes call 9) []))
          (tokens text.toList) parts
      else result = text) := by
  constructor
  · intro hp he
    rw [substitute_of_plain hp he, ← flatMap_restore_eq_self_iff]
    cases ho : hasOpening text.toList with
    | false => exact ⟨nofun, fun _ => rfl⟩
    | true =>
      change Except.ok (String.ofList (text.toList.flatMap restore)) = Except.ok text ↔ _
      simp [← String.toList_inj]
  · intro result h
    cases ho : hasOpening text.toList with
    | false =>
      rw [substitute, expand_of_plain ho, pure_bind, String.ofList_toList] at h
      exact (Except.ok.inj h).symm
    | true =>
      rw [substitute, maxLevels, expand_eq_written ho] at h
      obtain ⟨cs, hcs, h⟩ := isResult_bind ⟨state, h⟩
      rw [← eq_of_isResult_pure h, String.toList_ofList]
      exact isShownAs_of_isResult_written hcs

/-- Braces with nothing or no end between them are no placeholder. -/
theorem substitute_unmatched :
    ¬HoldsPlaceholder "\x7b\x7b\x7d\x7d\x7b\x7ba\x7d".toList ∧
      ((substitute (m := StateM Nat) "\x7b\x7b\x7d\x7d\x7b\x7ba\x7d" {}
        (fun name _ => throw (.undefined name))).run.run 0).1 = .ok "\x7b\x7b\x7d\x7d\x7b\x7ba\x7d" := by
  have hp : ¬HoldsPlaceholder "\x7b\x7b\x7d\x7d\x7b\x7ba\x7d".toList := by decide +kernel
  refine ⟨hp, ((substitute_of_plain_eq_iff _ _ _ _).1 hp (by decide)).2 fun _ => ?_⟩
  simp [isHidden, hiddenOpening, hiddenClosing]

/-- Scanning for placeholders turns the first hidden character into braces, in a text without any. -/
theorem not_forall_substitute_of_plain_eq :
    ¬ ∀ (text : String) (scopes : Scopes) (call : Resolver Id), ¬HoldsPlaceholder text.toList →
      holdsEscape text.toList = false → substitute text scopes call = .ok text := by
  intro h
  have hp : ¬HoldsPlaceholder "\x7b\x7b\ue000".toList := by decide +kernel
  have heq := h "\x7b\x7b\ue000" {} (fun name _ => throw (.undefined name)) hp (by decide)
  rw [substitute_of_plain hp (by decide)] at heq
  exact absurd (Except.ok.inj heq) (by decide)

end Substitution

end TemplatedRequests.Template
