import TemplatedRequests.Json.Path
import TemplatedRequests.Proofs.OrderedMap.Merged

/-!
Where values stand in a document. If no name comes twice in an object, at most one value stands at a
path, and following the path finds it.
-/

namespace TemplatedRequests.Json

/-- The value `v` stands in the document at the path. -/
inductive StandsAt (v : Value) : (document : Value) → Path → Prop
  | here : StandsAt v v []
  | field {fields name u path} (h : (name, u) ∈ fields) (below : StandsAt v u path) :
      StandsAt v (.object fields) (.field name :: path)
  | item {items n u path} (h : items[n]? = some u) (below : StandsAt v u path) :
      StandsAt v (.array items) (.index n :: path)

def IsLocation (document : Value) (path : Path) : Prop := ∃ v, StandsAt v document path

/-- The first step of a path that does not exist in a document. -/
def IsFirstMissing (document : Value) (path : Path) (s : Step) : Prop :=
  ∃ front back, path = front ++ s :: back ∧ IsLocation document front ∧
    ¬IsLocation document (front ++ [s])

/-- In every object of the document each name comes once. -/
inductive Value.IsDistinct : Value → Prop
  | null : IsDistinct .null
  | bool (b) : IsDistinct (.bool b)
  | int (n) : IsDistinct (.int n)
  | float (x) : IsDistinct (.float x)
  | text (s) : IsDistinct (.text s)
  | array {items} (h : ∀ v ∈ items, IsDistinct v) : IsDistinct (.array items)
  | object {fields} (names : (fields.map (·.1)).Nodup) (h : ∀ e ∈ fields, IsDistinct e.2) :
      IsDistinct (.object fields)

section Follow

variable {v D : Value} {s : Step} {path : Path}

theorem field?_eq_some_iff (hD : D.IsDistinct) {name : String} :
    D.field? name = some v ↔ ∃ fields, D = .object fields ∧ (name, v) ∈ fields := by
  cases hD with
  | object names _ => simp [Value.field?, OrderedMap.look_eq_some_iff names]
  | _ => simp [Value.field?]

theorem item?_eq_some_iff {n : Nat} :
    D.item? n = some v ↔ ∃ items, D = .array items ∧ items[n]? = some v := by
  cases D <;> simp [Value.item?]

theorem follow_field_eq_ok_iff {name : String} :
    (Step.field name).follow D = .ok v ↔ D.field? name = some v := by
  cases h : D.field? name <;> simp [Step.follow, h]

theorem follow_index_eq_ok_iff {n : Nat} :
    (Step.index n).follow D = .ok v ↔ D.item? n = some v := by
  cases h : D.item? n <;> simp [Step.follow, h]

theorem isDistinct_of_follow (hD : D.IsDistinct) (h : s.follow D = .ok v) : v.IsDistinct := by
  cases s with
  | field name =>
    obtain ⟨fields, rfl, hm⟩ := (field?_eq_some_iff hD).1 (follow_field_eq_ok_iff.1 h)
    cases hD with
    | object _ hfields => exact hfields _ hm
  | index n =>
    obtain ⟨items, rfl, hi⟩ := item?_eq_some_iff.1 (follow_index_eq_ok_iff.1 h)
    cases hD with
    | array hitems => exact hitems _ (List.mem_of_getElem? hi)

theorem standsAt_nil_iff : StandsAt v D [] ↔ D = v := by
  constructor
  · rintro ⟨⟩
    rfl
  · rintro rfl
    exact .here

theorem standsAt_cons_iff (hD : D.IsDistinct) :
    StandsAt v D (s :: path) ↔ ∃ u, s.follow D = .ok u ∧ StandsAt v u path := by
  constructor
  · rintro (_ | ⟨hm, below⟩ | ⟨hi, below⟩)
    · exact ⟨_, follow_field_eq_ok_iff.2 ((field?_eq_some_iff hD).2 ⟨_, rfl, hm⟩), below⟩
    · exact ⟨_, follow_index_eq_ok_iff.2 hi, below⟩
  · rintro ⟨u, hu, below⟩
    cases s with
    | field name =>
      obtain ⟨fields, rfl, hm⟩ := (field?_eq_some_iff hD).1 (follow_field_eq_ok_iff.1 hu)
      exact .field hm below
    | index n =>
      obtain ⟨items, rfl, hi⟩ := item?_eq_some_iff.1 (follow_index_eq_ok_iff.1 hu)
      exact .item hi below

theorem follow_eq_ok_iff (hD : D.IsDistinct) : path.follow D = .ok v ↔ StandsAt v D path := by
  induction path generalizing D with
  | nil => rw [standsAt_nil_iff, Path.follow_nil, Except.ok.injEq]
  | cons s path ih =>
    rw [standsAt_cons_iff hD, Path.follow]
    cases hs : s.follow D with
    | error fault => simp
    | ok u => simp [ih (isDistinct_of_follow hD hs)]

theorem isLocation_iff (hD : D.IsDistinct) : IsLocation D path ↔ ∃ v, path.follow D = .ok v := by
  simp only [IsLocation, follow_eq_ok_iff hD]

def Step.fault : Step → Fault
  | .field name => .fieldMissing name
  | .index n => .indexOutOfBounds n

def Step.absence : Step → String
  | .field name => "Field '" ++ name ++ "' not found in JSON"
  | .index n => "Array index " ++ toString n ++ " out of bounds"

theorem Step.report?_fault (s : Step) : s.fault.report? = some ⟨.undefinedVariable, s.absence⟩ := by
  cases s <;> rfl

theorem Step.follow_cases (D : Value) (s : Step) :
    (∃ v, s.follow D = .ok v) ∨ s.follow D = .error s.fault := by
  cases s with
  | field name => cases h : D.field? name <;> simp [Step.follow, Step.fault, h]
  | index n => cases h : D.item? n <;> simp [Step.follow, Step.fault, h]

theorem Path.follow_append (D : Value) (front back : Path) :
    Path.follow D (front ++ back) = (front.follow D).bind back.follow := by
  induction front generalizing D with
  | nil => rfl
  | cons s front ih =>
    rw [List.cons_append, Path.follow, Path.follow]
    cases s.follow D with
    | error fault => rfl
    | ok v => exact ih v

theorem isLocation_cons_iff (hD : D.IsDistinct) :
    IsLocation D (s :: path) ↔ ∃ u, s.follow D = .ok u ∧ IsLocation u path := by
  simp only [IsLocation, standsAt_cons_iff hD]
  exact ⟨fun ⟨v, u, hu, hv⟩ => ⟨u, hu, v, hv⟩, fun ⟨u, hu, v, hv⟩ => ⟨v, u, hu, hv⟩⟩

theorem follow_of_isFirstMissing (hD : D.IsDistinct) (h : IsFirstMissing D path s) :
    path.follow D = .error s.fault := by
  obtain ⟨front, back, rfl, hfront, hmissing⟩ := h
  obtain ⟨u, hu⟩ := (isLocation_iff hD).1 hfront
  rw [isLocation_iff hD, Path.follow_append, hu] at hmissing
  rw [Path.follow_append, hu]
  obtain ⟨v, hv⟩ | hv := Step.follow_cases u s
  · exact absurd ⟨v, by simp [Except.bind, Path.follow, hv]⟩ hmissing
  · simp [Except.bind, Path.follow, hv]

theorem exists_isFirstMissing (hD : D.IsDistinct) (h : ¬IsLocation D path) :
    ∃ s, IsFirstMissing D path s := by
  -- By induction on the path: if its first step exists, the rest is followed from there.
  induction path generalizing D with
  | nil => exact absurd ⟨D, .here⟩ h
  | cons s path ih =>
    rw [isLocation_cons_iff hD] at h
    obtain ⟨u, hu⟩ | hs := Step.follow_cases D s
    · obtain ⟨missing, front, back, rfl, hfront, hmissing⟩ :=
        ih (isDistinct_of_follow hD hu) fun hl => h ⟨u, hu, hl⟩
      refine ⟨missing, s :: front, back, rfl, (isLocation_cons_iff hD).2 ⟨u, hu, hfront⟩, ?_⟩
      rw [List.cons_append, isLocation_cons_iff hD, hu]
      rintro ⟨_, ⟨⟩, hl⟩
      exact hmissing hl
    · refine ⟨s, [], path, rfl, ⟨D, .here⟩, ?_⟩
      rw [List.nil_append, isLocation_cons_iff hD, hs]
      rintro ⟨_, ⟨⟩, -⟩

end Follow

end TemplatedRequests.Json
