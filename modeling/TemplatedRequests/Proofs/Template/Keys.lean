import TemplatedRequests.Proofs.Template.Plain
import TemplatedRequests.Service.Check

/-!
Keys of variables, read back as names of placeholders. A key that is accepted is found again between
double braces unless it ends in a backslash, which hides the closing braces, or has a separator of
records at an end, which is trimmed from a name although it is no white space in a key.
-/

namespace TemplatedRequests.Template

open Service

def placeholder (name : String) : String :=
  String.ofList ('{' :: '{' :: (name.toList ++ ['}', '}']))

/-- The four characters that separate records. They are blanks but no white space. -/
def isSeparator (c : Char) : Bool := 0x1c ≤ c.toNat && c.toNat ≤ 0x1f

/-- A key that stands between double braces as it is: nothing of it is trimmed, and it leaves the
closing braces alone. -/
structure StandsInBraces (key : String) : Prop where
  unescaped : key.toList.getLast? ≠ some '\\'
  first : ∀ c, key.toList.head? = some c → isSeparator c = false
  last : ∀ c, key.toList.getLast? = some c → isSeparator c = false

/-- The active environment defines a key, and no layer above it does. -/
structure IsOwn (scopes : Scopes) (key value : String) : Prop where
  request : scopes.request.get? key = none
  file : scopes.file.get? key = none
  environment : scopes.environment.get? key = some value

theorem IsOwn.lookup? {scopes : Scopes} {key value : String} (h : IsOwn scopes key value) :
    scopes.lookup? key = some value := by
  rw [Scopes.lookup?_eq, h.request, h.file, h.environment]
  rfl

section Keys

variable {key : String} {c : Char}

theorem isKey_of_accepted (h : Check.key (.text key) = .ok key) : Check.isKey key = true := by
  unfold Check.key at h
  cases hs : Check.sized 1 255 (.text key) with
  | error issues => simp [hs, bind, Except.bind] at h
  | ok s =>
    simp only [hs, bind, Except.bind] at h
    split at h
    · cases h
      assumption
    · cases h

theorem isKey_iff : Check.isKey key = true ↔ ∃ c r, key.toList = c :: r ∧ c ≠ '$' ∧
    ∀ d ∈ key.toList, Check.isKeyChar d = true := by
  unfold Check.isKey
  split <;> rename_i h
  · simp [h]
  · simp [h, and_assoc, and_comm]

theorem isKeyChar_iff : Check.isKeyChar c = true ↔
    Text.isWhiteSpace c = false ∧ c ≠ '{' ∧ c ≠ '}' := by
  simp [Check.isKeyChar, and_assoc]

theorem isBlank_eq_isSeparator (h : Check.isKeyChar c = true) :
    Text.isBlank c = isSeparator c := by
  have hw : (Text.isBlank c && !isSeparator c) = false := (isKeyChar_iff.1 h).1
  cases hs : isSeparator c with
  | false => simpa [hs] using hw
  | true =>
    simp only [isSeparator, Bool.and_eq_true, decide_eq_true_eq] at hs
    rw [Text.isBlank, List.any_eq_true]
    exact ⟨(0x1c, 0x20), by decide, by simp; omega⟩

end Keys

section Braces

variable {cs : List Char}

theorem hide_append {rest : List Char} (h : ∀ c ∈ cs, c ≠ '{' ∧ c ≠ '}')
    (hl : cs.getLast? = some '\\' → rest.head? ≠ some '{' ∧ rest.head? ≠ some '}') :
    hide (cs ++ rest) = cs ++ hide rest := by
  induction cs with
  | nil => rfl
  | cons c r ih =>
    obtain ⟨-, hr⟩ := List.forall_mem_cons.1 h
    have hnext : ∀ d s, c = '\\' → r ++ rest = d :: s → d ≠ '{' ∧ d ≠ '}' := by
      rintro d s rfl hs
      cases r with
      | nil =>
        obtain rfl : rest = d :: s := hs
        simpa using hl rfl
      | cons e r =>
        obtain ⟨rfl, -⟩ := List.cons.inj hs
        exact hr e List.mem_cons_self
    have htail : hide (r ++ rest) = r ++ hide rest := by
      refine ih hr fun hb => hl ?_
      rw [List.getLast?_cons, hb]
      rfl
    rw [List.cons_append, List.cons_append, ← htail]
    exact hide_cons (fun s hc hs => (hnext _ _ hc hs).1 rfl) (fun s hc hs => (hnext _ _ hc hs).2 rfl)

theorem names_pieces_of_not_mem (h : '}' ∉ cs) : (pieces cs).filterMap Piece.name? = [] := by
  fun_induction pieces cs with
  | case1 => rfl
  | case2 r inside rest hi ih =>
    rw [← append_of_inside? hi] at h
    simp at h
  | case3 r hi ih => simpa [Piece.name?] using ih (by simpa using h)
  | case4 c r hs ih => simpa [Piece.name?] using ih (by simp at h; exact h.2)

end Braces

section Placeholder

variable {key : String}

theorem hide_placeholder (cs : List Char) :
    hide ('{' :: '{' :: cs) = '{' :: '{' :: hide cs := by
  rw [hide_cons_of_ne (by decide), hide_cons_of_ne (by decide)]

theorem pieces_placeholder (hk : Check.isKey key = true) (hl : key.toList.getLast? ≠ some '\\') :
    pieces (hide (placeholder key).toList) = [.slot key.toList] := by
  obtain ⟨c, r, hcr, -, hall⟩ := isKey_iff.1 hk
  have hbraces : ∀ d ∈ key.toList, d ≠ '{' ∧ d ≠ '}' := fun d hd => (isKeyChar_iff.1 (hall d hd)).2
  have hne : key.toList ≠ [] := by simp [hcr]
  have hinside := inside?_append (fun hm => (hbraces _ hm).2 rfl) hne []
  have hhide : hide (key.toList ++ ['}', '}']) = key.toList ++ ['}', '}'] :=
    hide_append hbraces fun h => absurd h hl
  rw [placeholder, String.toList_ofList, hide_placeholder, hhide, pieces_slot hinside, pieces]

theorem names_placeholder (key : String) : names (placeholder key) =
    (pieces (hide (placeholder key).toList)).filterMap Piece.name? := by
  rw [names, namesIn, if_pos]
  rw [placeholder, String.toList_ofList]
  rfl

theorem names_placeholder_of_escaped (hk : Check.isKey key = true)
    (hl : key.toList.getLast? = some '\\') : names (placeholder key) = [] := by
  obtain ⟨c, r, -, -, hall⟩ := isKey_iff.1 hk
  obtain ⟨front, hf⟩ := List.getLast?_eq_some_iff.1 hl
  have hbraces : ∀ d ∈ front, d ≠ '{' ∧ d ≠ '}' := fun d hd =>
    (isKeyChar_iff.1 (hall d (by simp [hf, hd]))).2
  have hhide : hide (key.toList ++ ['}', '}']) = front ++ [hiddenClosing] := by
    rw [hf, List.append_assoc]
    exact hide_append hbraces fun _ => by decide
  rw [names_placeholder, placeholder, String.toList_ofList, hide_placeholder, hhide]
  have hclosing : '}' ≠ hiddenClosing := by decide
  exact names_pieces_of_not_mem (by simpa [hclosing] using fun hm => (hbraces _ hm).2 rfl)

theorem names_placeholder_eq_iff (hk : Check.isKey key = true) :
    names (placeholder key) = [key] ↔ StandsInBraces key := by
  obtain ⟨c, r, hcr, -, hall⟩ := isKey_iff.1 hk
  by_cases hl : key.toList.getLast? = some '\\'
  · rw [names_placeholder_of_escaped hk hl]
    exact ⟨nofun, fun h => absurd hl h.unescaped⟩
  · have hends : Text.trim key.toList = key.toList ↔ StandsInBraces key := by
      rw [Text.trim_eq_self_iff]
      constructor
      · intro h
        refine ⟨hl, fun d hd => ?_, fun d hd => ?_⟩
        · rw [← isBlank_eq_isSeparator (hall d (List.mem_of_head? hd)), h.1 d hd]
        · rw [← isBlank_eq_isSeparator (hall d (List.mem_of_getLast? hd)), h.2 d hd]
      · intro h
        refine ⟨fun d hd => ?_, fun d hd => ?_⟩
        · rw [isBlank_eq_isSeparator (hall d (List.mem_of_head? hd)), h.first d hd]
        · rw [isBlank_eq_isSeparator (hall d (List.mem_of_getLast? hd)), h.last d hd]
    rw [← hends, names_placeholder, pieces_placeholder hk hl]
    simp only [List.filterMap_cons, List.filterMap_nil, Piece.name?, nameOf, List.cons.injEq, and_true]
    rw [← String.toList_inj, String.toList_ofList]

variable {m : Type → Type} [Monad m] [LawfulMonad m]

theorem substitute_of_pieces {scopes : Scopes} (call : Resolver m) {text name value : String}
    {inside : List Char} (ho : hasOpening text.toList = true)
    (hp : pieces (hide text.toList) = [.slot inside]) (hn : nameOf inside = name)
    (hcall : name.toList.head? ≠ some '$') (hs : scopes.lookup? name = some value)
    (hv : hasOpening value.toList = false) : substitute text scopes call = pure value := by
  have hvalue : valueOf scopes call name = pure value := by
    unfold valueOf
    split
    · rename_i h
      simp [h] at hcall
    · rw [hs]
  have hexpand : expand scopes call 9 [name] value.toList = pure value.toList := by
    rw [expand, if_neg (by simp [hv])]
  have henter : enter scopes call (expand scopes call 9) [] name = pure value.toList := by
    simp [enter, hvalue, hexpand]
  rw [substitute, maxLevels, expand, if_pos ho, hp]
  simp [Piece.written, hn, henter]

end Placeholder

/-- An accepted key whose variable has a plain value can be referred to exactly if it stands in
braces as it is. -/
theorem substitute_placeholder_iff {m : Type → Type} [Monad m] [LawfulMonad m] (call : Resolver m)
    {scopes : Scopes} {key value : String} (hk : Check.key (.text key) = .ok key)
    (hs : IsOwn scopes key value) (hv : hasOpening value.toList = false) :
    (substitute (placeholder key) scopes call = pure value ∧ names (placeholder key) = [key]) ↔
      StandsInBraces key := by
  have hk := isKey_of_accepted hk
  rw [← names_placeholder_eq_iff hk]
  refine ⟨And.right, fun hn => ⟨?_, hn⟩⟩
  obtain ⟨c, r, hcr, hdollar, -⟩ := isKey_iff.1 hk
  have hstands := (names_placeholder_eq_iff hk).1 hn
  have hp := pieces_placeholder hk hstands.unescaped
  have hname : nameOf key.toList = key := by
    rw [names_placeholder, hp] at hn
    exact (List.cons.inj hn).1
  refine substitute_of_pieces call ?_ hp hname ?_ hs.lookup? hv
  · rw [placeholder, String.toList_ofList]
    rfl
  · simpa [hcr] using hdollar

section OneVariable

/-- A variable of the active environment, and one of the shared ones under the same key. -/
def oneVariable (key value : String) : Scopes where
  environment := .ofEntries [(key, value)]
  shared := .ofEntries [(key, "shared")]

def withoutFunctions : Resolver Id := fun name _ => throw (.undefined name)

theorem isOwn_oneVariable (key value : String) : IsOwn (oneVariable key value) key value where
  request := rfl
  file := rfl
  environment := by simp [oneVariable, OrderedMap.ofEntries, OrderedMap.get?, OrderedMap.putAll,
    OrderedMap.put, OrderedMap.look]

/-- Backslashes, dollar signs and the hidden characters do no harm inside a key. -/
theorem substitute_placeholder_inner :
    substitute (placeholder "\\\ue001a\\$") (oneVariable "\\\ue001a\\$" "1") withoutFunctions =
      .ok "1" ∧ names (placeholder "\\\ue001a\\$") = ["\\\ue001a\\$"] :=
  (substitute_placeholder_iff _ rfl (isOwn_oneVariable _ _) (by decide)).2 {
    unescaped := by decide
    first := by
      rintro c ⟨⟩
      decide
    last := by
      rintro c ⟨⟩
      decide }

/-- A key that ends in a backslash hides the braces that close its placeholder. -/
theorem not_forall_substitute_placeholder :
    ¬ ∀ (call : Resolver Id) (scopes : Scopes) (key value : String),
      Check.key (.text key) = .ok key → IsOwn scopes key value →
      hasOpening value.toList = false →
      substitute (placeholder key) scopes call = .ok value ∧ names (placeholder key) = [key] := by
  intro h
  obtain ⟨-, hn⟩ := h withoutFunctions _ "a\\" "1" rfl (isOwn_oneVariable _ _) (by decide)
  rw [names_placeholder_of_escaped (by decide) (by decide)] at hn
  cases hn

end OneVariable

end TemplatedRequests.Template
