import Mathlib.Data.List.Basic
import TemplatedRequests.Template

/-!
One level of expansion, where functions answer the same call always in the same way. It succeeds
exactly when every name of the text can be entered, and otherwise it fails as the first name that
cannot.
-/

namespace TemplatedRequests.Template

section Outcome

variable {α : Type} {a b : α} {fault problem : Fault}

instance [DecidableEq α] : DecidableEq (ExceptT Fault Id α) :=
  inferInstanceAs (DecidableEq (Except Fault α))

@[simp] theorem ok_eq_ok_iff : @Eq (ExceptT Fault Id α) (.ok a) (.ok b) ↔ a = b :=
  ⟨Except.ok.inj, congrArg _⟩

@[simp] theorem error_eq_error_iff :
    @Eq (ExceptT Fault Id α) (.error fault) (.error problem) ↔ fault = problem :=
  ⟨Except.error.inj, congrArg _⟩

@[simp] theorem ok_ne_error : ¬@Eq (ExceptT Fault Id α) (.ok a) (.error fault) := nofun

@[simp] theorem error_ne_ok : ¬@Eq (ExceptT Fault Id α) (.error fault) (.ok a) := nofun

theorem ok_or_error (x : ExceptT Fault Id α) : (∃ a, x = .ok a) ∨ ∃ fault, x = .error fault := by
  rcases x with fault | a
  · exact .inr ⟨fault, rfl⟩
  · exact .inl ⟨a, rfl⟩

theorem map_eq_ok_iff {β : Type} {f : α → β} {x : ExceptT Fault Id α} {b : β} :
    x.map f = .ok b ↔ ∃ a, x = .ok a ∧ f a = b := by
  rcases ok_or_error x with ⟨a, rfl⟩ | ⟨fault, rfl⟩
  · exact ⟨fun h => ⟨a, rfl, Except.ok.inj h⟩, by rintro ⟨_, h, rfl⟩; cases h; rfl⟩
  · exact ⟨nofun, by rintro ⟨_, h, _⟩; cases h⟩

theorem map_eq_error_iff {β : Type} {f : α → β} {x : ExceptT Fault Id α} :
    x.map f = .error fault ↔ x = .error fault := by
  rcases ok_or_error x with ⟨a, rfl⟩ | ⟨problem, rfl⟩
  · exact ⟨nofun, nofun⟩
  · exact ⟨fun h => congrArg _ (Except.error.inj h), fun h => congrArg _ (Except.error.inj h)⟩

end Outcome

section Sequence

variable {α β : Type} {f : α → ExceptT Fault Id β} {xs : List α}

theorem mapM_cons_of_ok {x : α} {y : β} (h : f x = .ok y) (xs : List α) :
    (x :: xs).mapM f = (xs.mapM f).map (y :: ·) := by
  rw [List.mapM_cons, h]
  rfl

theorem mapM_cons_of_error {x : α} {fault : Fault} (h : f x = .error fault) (xs : List α) :
    (x :: xs).mapM f = .error fault := by
  rw [List.mapM_cons, h]
  rfl

theorem mapM_isOk_iff : (∃ ys, xs.mapM f = .ok ys) ↔ ∀ x ∈ xs, ∃ y, f x = .ok y := by
  induction xs with
  | nil => exact iff_of_true ⟨[], rfl⟩ (by simp)
  | cons x xs ih =>
    rw [List.forall_mem_cons, ← ih]
    rcases ok_or_error (f x) with ⟨y, h⟩ | ⟨fault, h⟩
    · simp only [mapM_cons_of_ok h, map_eq_ok_iff]
      exact ⟨fun ⟨_, ys, hs, _⟩ => ⟨⟨y, h⟩, ys, hs⟩, fun ⟨_, ys, hs⟩ => ⟨_, ys, hs, rfl⟩⟩
    · simp [mapM_cons_of_error h, h]

theorem mapM_eq_error_iff {fault : Fault} : xs.mapM f = .error fault ↔
    ∃ before x after, xs = before ++ x :: after ∧ (∀ b ∈ before, ∃ y, f b = .ok y) ∧
      f x = .error fault := by
  induction xs with
  | nil => exact ⟨nofun, by rintro ⟨before, x, after, h, -⟩; cases before <;> cases h⟩
  | cons x xs ih =>
    simp only [List.cons_eq_append_iff]
    rcases ok_or_error (f x) with ⟨y, h⟩ | ⟨problem, h⟩
    · rw [mapM_cons_of_ok h, map_eq_error_iff, ih]
      constructor
      · rintro ⟨before, z, after, hs, hb, hz⟩
        exact ⟨x :: before, z, after, .inr ⟨before, rfl, hs⟩, List.forall_mem_cons.2 ⟨⟨y, h⟩, hb⟩, hz⟩
      · rintro ⟨before, z, after, ⟨rfl, hs⟩ | ⟨tail, rfl, hs⟩, hb, hz⟩
        · cases hs
          rw [h] at hz
          cases hz
        · exact ⟨tail, z, after, hs, (List.forall_mem_cons.1 hb).2, hz⟩
    · rw [mapM_cons_of_error h]
      constructor
      · intro he
        obtain rfl := error_eq_error_iff.1 he
        exact ⟨[], x, xs, .inl ⟨rfl, rfl⟩, by simp, h⟩
      · rintro ⟨before, z, after, ⟨rfl, hs⟩ | ⟨tail, rfl, hs⟩, hb, hz⟩
        · cases hs
          rw [h] at hz
          exact error_eq_error_iff.2 (error_eq_error_iff.1 hz)
        · obtain ⟨y, hy⟩ := hb x List.mem_cons_self
          rw [h] at hy
          cases hy

end Sequence

section Enter

variable {scopes : Scopes} {call : Resolver Id} {name : String} {path : List String}
variable {inner : List String → List Char → ExceptT Fault Id (List Char)}

theorem enter_of_mem (h : name ∈ path) :
    enter scopes call inner path name = .error (.circular name) := by
  simp only [enter, h, if_true]
  rfl

theorem enter_of_unresolved (h : name ∉ path) {fault : Fault}
    (hv : valueOf scopes call name = .error fault) :
    enter scopes call inner path name = .error fault := by
  simp only [enter, h, if_false, hv]
  rfl

theorem enter_of_resolved (h : name ∉ path) {value : String}
    (hv : valueOf scopes call name = .ok value) :
    enter scopes call inner path name = inner (name :: path) value.toList := by
  simp only [enter, h, if_false, hv]
  rfl

theorem enter_eq_ok_iff {r : List Char} :
    enter scopes call inner path name = .ok r ↔ name ∉ path ∧
      ∃ value, valueOf scopes call name = .ok value ∧ inner (name :: path) value.toList = .ok r := by
  by_cases h : name ∈ path
  · simp [enter_of_mem h, h]
  · rcases ok_or_error (valueOf scopes call name) with ⟨value, hv⟩ | ⟨fault, hv⟩
    · simp [enter_of_resolved h hv, h, hv]
    · simp [enter_of_unresolved h hv, h, hv]

theorem enter_eq_error_iff {fault : Fault} :
    enter scopes call inner path name = .error fault ↔
      (name ∈ path ∧ fault = .circular name) ∨ (name ∉ path ∧
        (valueOf scopes call name = .error fault ∨ ∃ value, valueOf scopes call name = .ok value ∧
          inner (name :: path) value.toList = .error fault)) := by
  by_cases h : name ∈ path
  · simp [enter_of_mem h, h, eq_comm]
  · rcases ok_or_error (valueOf scopes call name) with ⟨value, hv⟩ | ⟨problem, hv⟩
    · simp [enter_of_resolved h hv, h, hv]
    · simp [enter_of_unresolved h hv, h, hv]

end Enter

section Pieces

variable {write : String → ExceptT Fault Id (List Char)} {ps : List Piece}

theorem mapM_written_isOk_iff :
    (∃ parts, ps.mapM (Piece.written write) = .ok parts) ↔
      ∀ name ∈ ps.filterMap Piece.name?, ∃ r, write name = .ok r := by
  simp only [mapM_isOk_iff, List.mem_filterMap]
  constructor
  · rintro h name ⟨p, hp, hn⟩
    cases p with
    | plain c => cases hn
    | slot inside =>
      obtain rfl := Option.some.inj hn
      exact h _ hp
  · rintro h p hp
    cases p with
    | plain c => exact ⟨restore c, rfl⟩
    | slot inside => exact h _ ⟨_, hp, rfl⟩

theorem mapM_written_eq_error_iff {fault : Fault} :
    ps.mapM (Piece.written write) = .error fault ↔ ∃ before name after,
      ps.filterMap Piece.name? = before ++ name :: after ∧
        (∀ n ∈ before, ∃ r, write n = .ok r) ∧ write name = .error fault := by
  rw [← mapM_eq_error_iff]
  induction ps with
  | nil => exact ⟨nofun, nofun⟩
  | cons p ps ih =>
    cases p with
    | plain c =>
      have hplain : Piece.written write (.plain c) = .ok (restore c) := rfl
      rw [mapM_cons_of_ok hplain, map_eq_error_iff, ih]
      rfl
    | slot inside =>
      have hnames : (Piece.slot inside :: ps).filterMap Piece.name? =
          nameOf inside :: ps.filterMap Piece.name? := rfl
      have hslot : Piece.written write (.slot inside) = write (nameOf inside) := rfl
      rw [hnames]
      rcases ok_or_error (write (nameOf inside)) with ⟨r, h⟩ | ⟨problem, h⟩
      · rw [mapM_cons_of_ok (hslot.trans h), mapM_cons_of_ok h, map_eq_error_iff, map_eq_error_iff, ih]
      · rw [mapM_cons_of_error (hslot.trans h), mapM_cons_of_error h, error_eq_error_iff]

end Pieces

section Levels

variable {scopes : Scopes} {call : Resolver Id} {levels : Nat} {path : List String} {cs : List Char}

theorem namesIn_of_no_opening (h : hasOpening cs = false) : namesIn cs = [] := by
  simp [namesIn, h]

theorem expand_of_no_opening (h : hasOpening cs = false) :
    expand scopes call levels path cs = .ok cs := by
  cases levels <;> rw [expand] <;> simp only [h] <;> rfl

theorem expand_zero_of_opening (h : hasOpening cs = true) :
    expand scopes call 0 path cs = .error .tooDeep := by
  rw [expand, if_pos h]
  rfl

theorem expand_succ_of_opening (h : hasOpening cs = true) :
    expand scopes call (levels + 1) path cs = ((pieces (hide cs)).mapM
      (Piece.written (enter scopes call (expand scopes call levels) path))).map List.flatten := by
  rw [expand, if_pos h]
  rfl

theorem expand_zero_isOk_iff :
    (∃ r, expand scopes call 0 path cs = .ok r) ↔ hasOpening cs = false := by
  cases h : hasOpening cs
  · simp [expand_of_no_opening h]
  · simp [expand_zero_of_opening h]

theorem expand_zero_eq_error_iff {fault : Fault} :
    expand scopes call 0 path cs = .error fault ↔ hasOpening cs = true ∧ fault = .tooDeep := by
  cases h : hasOpening cs
  · simp [expand_of_no_opening h]
  · simp [expand_zero_of_opening h, @eq_comm _ fault]

theorem expand_succ_isOk_iff :
    (∃ r, expand scopes call (levels + 1) path cs = .ok r) ↔
      ∀ name ∈ namesIn cs, ∃ r, enter scopes call (expand scopes call levels) path name = .ok r := by
  cases h : hasOpening cs
  · simp [expand_of_no_opening h, namesIn_of_no_opening h]
  · rw [namesIn, if_pos h, ← mapM_written_isOk_iff, expand_succ_of_opening h]
    simp only [map_eq_ok_iff]
    exact ⟨fun ⟨_, parts, hp, _⟩ => ⟨parts, hp⟩, fun ⟨parts, hp⟩ => ⟨_, parts, hp, rfl⟩⟩

theorem expand_succ_eq_error_iff {fault : Fault} :
    expand scopes call (levels + 1) path cs = .error fault ↔ ∃ before name after,
      namesIn cs = before ++ name :: after ∧
        (∀ n ∈ before, ∃ r, enter scopes call (expand scopes call levels) path n = .ok r) ∧
        enter scopes call (expand scopes call levels) path name = .error fault := by
  cases h : hasOpening cs
  · simp [expand_of_no_opening h, namesIn_of_no_opening h]
  · rw [namesIn, if_pos h, ← mapM_written_eq_error_iff, expand_succ_of_opening h, map_eq_error_iff]

theorem substitute_eq (text : String) :
    substitute text scopes call =
      (expand scopes call maxLevels [] text.toList).map String.ofList := rfl

end Levels

end TemplatedRequests.Template
