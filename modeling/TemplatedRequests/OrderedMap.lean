/-!
Maps from names that remember the order of first insertion. Writing a name that is present
replaces its value and keeps its place.
-/

namespace TemplatedRequests

/-- Entries in order of first insertion, with no name twice. -/
structure OrderedMap (α : Type) where
  entries : List (String × α)
  distinct : (entries.map (·.1)).Nodup

abbrev Bindings := OrderedMap String

namespace OrderedMap

variable {α : Type}

@[ext] theorem ext {a b : OrderedMap α} (h : a.entries = b.entries) : a = b := by
  cases a; cases b; simp_all

section Entries

def put (name : String) (value : α) : List (String × α) → List (String × α)
  | [] => [(name, value)]
  | e :: r => if e.1 = name then (name, value) :: r else e :: put name value r

def look (name : String) : List (String × α) → Option α
  | [] => none
  | e :: r => if e.1 = name then some e.2 else look name r

def putAll (onto : List (String × α)) (es : List (String × α)) : List (String × α) :=
  es.foldl (fun acc e => put e.1 e.2 acc) onto

@[simp] theorem look_nil (name : String) : look name ([] : List (String × α)) = none := rfl

theorem look_put (name n : String) (value : α) (es : List (String × α)) :
    look n (put name value es) = if n = name then some value else look n es := by
  induction es with
  | nil => by_cases h : name = n <;> simp [put, look, h, eq_comm]
  | cons e r ih =>
    by_cases he : e.1 = name
    · by_cases h : name = n
      · simp [put, look, he, h]
      · have h2 : ¬ n = name := fun t => h t.symm
        simp [put, look, he, h, h2]
    · by_cases h : e.1 = n
      · have h2 : ¬ n = name := fun t => he (h.trans t)
        simp [put, look, h, h2]
      · simp [put, look, he, h, ih]

theorem names_put (name : String) (value : α) (es : List (String × α)) :
    (put name value es).map (·.1) =
      if name ∈ es.map (·.1) then es.map (·.1) else es.map (·.1) ++ [name] := by
  induction es with
  | nil => simp [put]
  | cons e r ih =>
    by_cases he : e.1 = name
    · simp [put, he]
    · have h2 : ¬ name = e.1 := fun t => he t.symm
      simp only [put, he, if_false, List.map_cons, ih, List.mem_cons, h2, false_or]
      split <;> simp

theorem nodup_put (name : String) (value : α) {es : List (String × α)}
    (h : (es.map (·.1)).Nodup) : ((put name value es).map (·.1)).Nodup := by
  rw [names_put]
  split <;> rename_i hm
  · exact h
  · rw [List.nodup_append]
    refine ⟨h, by simp, ?_⟩
    intro a ha b hb hab
    simp only [List.mem_singleton] at hb
    exact hm (by rw [← hb, ← hab]; exact ha)

theorem nodup_putAll {onto : List (String × α)} (es : List (String × α))
    (h : (onto.map (·.1)).Nodup) : ((putAll onto es).map (·.1)).Nodup := by
  induction es generalizing onto with
  | nil => exact h
  | cons e r ih => exact ih (nodup_put e.1 e.2 h)

theorem look_isSome_iff {name : String} {es : List (String × α)} :
    (look name es).isSome = true ↔ name ∈ es.map (·.1) := by
  induction es with
  | nil => simp
  | cons e r ih =>
    by_cases h : e.1 = name
    · simp [look, h]
    · have h2 : ¬ name = e.1 := fun t => h t.symm
      simp only [look, h, if_false, ih, List.map_cons, List.mem_cons, h2, false_or]

theorem look_filter_ne (name n : String) (es : List (String × α)) :
    look n (es.filter (·.1 ≠ name)) = if n = name then none else look n es := by
  induction es with
  | nil => simp
  | cons e r ih =>
    by_cases he : e.1 = name
    · rw [List.filter_cons_of_neg (by simp [he]), ih]
      by_cases h : n = name
      · simp [h]
      · have h2 : ¬ e.1 = n := fun t => h (t.symm.trans he)
        simp [h, look, h2]
    · rw [List.filter_cons_of_pos (by simp [he]), look, ih]
      by_cases h : e.1 = n
      · simp [look, h, show ¬ n = name from fun t => he (h.trans t)]
      · simp [look, h]

end Entries

def empty : OrderedMap α := ⟨[], List.nodup_nil⟩

instance : EmptyCollection (OrderedMap α) := ⟨empty⟩

instance : Inhabited (OrderedMap α) := ⟨empty⟩

def get? (m : OrderedMap α) (name : String) : Option α := look name m.entries

def insert (m : OrderedMap α) (name : String) (value : α) : OrderedMap α :=
  ⟨put name value m.entries, nodup_put name value m.distinct⟩

def update (m n : OrderedMap α) : OrderedMap α :=
  ⟨putAll m.entries n.entries, nodup_putAll n.entries m.distinct⟩

def ofEntries (es : List (String × α)) : OrderedMap α :=
  ⟨putAll [] es, nodup_putAll es List.nodup_nil⟩

def erase (m : OrderedMap α) (name : String) : OrderedMap α :=
  ⟨m.entries.filter (·.1 ≠ name), m.distinct.sublist (List.filter_sublist.map _)⟩

def names (m : OrderedMap α) : List String := m.entries.map (·.1)

def contains (m : OrderedMap α) (name : String) : Bool := (m.get? name).isSome

def size (m : OrderedMap α) : Nat := m.entries.length

def isEmpty (m : OrderedMap α) : Bool := m.entries.isEmpty

def mapValues {β : Type} (f : α → β) (m : OrderedMap α) : OrderedMap β :=
  ⟨m.entries.map fun e => (e.1, f e.2), by rw [List.map_map]; exact m.distinct⟩

@[simp] theorem entries_empty : (∅ : OrderedMap α).entries = [] := rfl

@[simp] theorem get?_empty (name : String) : (∅ : OrderedMap α).get? name = none := rfl

@[simp] theorem get?_insert (m : OrderedMap α) (name n : String) (value : α) :
    (m.insert name value).get? n = if n = name then some value else m.get? n :=
  look_put name n value m.entries

@[simp] theorem get?_erase (m : OrderedMap α) (name n : String) :
    (m.erase name).get? n = if n = name then none else m.get? n :=
  look_filter_ne name n m.entries

theorem get?_update (m n : OrderedMap α) (name : String) :
    (m.update n).get? name = (n.get? name).or (m.get? name) := by
  suffices h : ∀ (es onto : List (String × α)), (es.map (·.1)).Nodup →
      look name (putAll onto es) = (look name es).or (look name onto) from
    h n.entries m.entries n.distinct
  intro es
  induction es with
  | nil => intro onto _; simp [putAll]
  | cons e r ih =>
    intro onto hd
    simp only [List.map_cons, List.nodup_cons] at hd
    change look name (putAll (put e.1 e.2 onto) r) = _
    rw [ih _ hd.2, look_put]
    by_cases h : e.1 = name
    · subst h
      have : look e.1 r = none := by
        rw [← Option.not_isSome_iff_eq_none, look_isSome_iff]; exact hd.1
      simp [look, this]
    · have h2 : ¬ name = e.1 := fun t => h t.symm
      simp [look, h, h2]

theorem contains_iff_mem_names {m : OrderedMap α} {name : String} :
    m.contains name = true ↔ name ∈ m.names := look_isSome_iff

@[simp] theorem update_empty (m : OrderedMap α) : m.update ∅ = m := rfl

end OrderedMap

end TemplatedRequests
