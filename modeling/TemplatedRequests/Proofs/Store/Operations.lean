import TemplatedRequests.Store

/-!
What each operation of the store does when it is not refused.
-/

namespace TemplatedRequests.Store

inductive Operation where
  | create (new : NewEnvironment)
  | update (id : Int) (changes : EnvironmentChanges)
  | activate (id : Int)
  | delete (id : Int)
  | addVariable (environmentId : Int) (key value : String)
  | updateVariable (id : Int) (changes : VariableChanges)
  | deleteVariable (id : Int)

/-- The store after an operation that is not refused. -/
def Operation.apply (s : Store) : Operation → Except Refusal Store
  | .create new => (s.create new).map (·.1)
  | .update id changes => (s.update id changes).map (·.1)
  | .activate id => (s.activate id).map (·.1)
  | .delete id => s.delete id
  | .addVariable environmentId key value => (s.addVariable environmentId key value).map (·.1)
  | .updateVariable id changes => (s.updateVariable id changes).map (·.1)
  | .deleteVariable id => s.deleteVariable id

theorem ok_of_map_fst {α : Type} {t : Store} {x : Except Refusal (Store × α)}
    (h : x.map (·.1) = .ok t) : ∃ p, x = .ok p ∧ p.1 = t := by
  cases x with
  | error refusal => cases h
  | ok p => exact ⟨p, rfl, Except.ok.inj h⟩

/-- The store after an operation, the same one if it is refused. -/
def Operation.perform (s : Store) (op : Operation) : Store :=
  match op.apply s with
  | .ok t => t
  | .error _ => s

/-- States that operations lead to, refused ones among them. -/
inductive Reachable : Store → Prop
  | empty : Reachable {}
  | perform {s : Store} (op : Operation) (h : Reachable s) : Reachable (op.perform s)

section Changes

theorem isOn_of_apply {old new : Bool} {c : Change Bool} (h : c.apply old = some new) :
    c.isOn old = new := by
  cases c with
  | keep => exact Option.some.inj h
  | null => cases h
  | set b => exact Option.some.inj h

theorem isActive_of_isOn {old : Bool} {c : Change Bool} (h : c.isOn old = true)
    (hc : c ≠ .set true) : old = true := by
  cases c with
  | keep => exact h
  | null => cases h
  | set b =>
    cases b with
    | false => cases h
    | true => exact absurd rfl hc

theorem EnvironmentChanges.columns {changes : EnvironmentChanges} {e row : EnvironmentRow}
    (h : changes.apply? e = some row) : row.id = e.id ∧
      changes.name.apply e.name = some row.name ∧
      changes.isActive.apply e.isActive = some row.isActive ∧
      changes.isShared.apply e.isShared = some row.isShared := by
  unfold EnvironmentChanges.apply? at h
  simp only [Option.pure_def, Option.bind_eq_bind, Option.bind_eq_some_iff, Option.some.injEq] at h
  obtain ⟨name, hn, active, ha, shared, hs, rfl⟩ := h
  exact ⟨rfl, hn, ha, hs⟩

theorem EnvironmentChanges.apply?_eq_some {changes : EnvironmentChanges} {e row : EnvironmentRow}
    (h : changes.apply? e = some row) : row.id = e.id ∧
      changes.isActive.isOn e.isActive = row.isActive ∧
      changes.isShared.isOn e.isShared = row.isShared := by
  obtain ⟨hid, -, ha, hs⟩ := EnvironmentChanges.columns h
  exact ⟨hid, isOn_of_apply ha, isOn_of_apply hs⟩

theorem VariableChanges.columns {changes : VariableChanges} {v row : VariableRow}
    (h : changes.apply? v = some row) : row.id = v.id ∧ row.environmentId = v.environmentId ∧
      changes.key.apply v.key = some row.key ∧ changes.value.apply v.value = some row.value := by
  unfold VariableChanges.apply? at h
  simp only [Option.pure_def, Option.bind_eq_bind, Option.bind_eq_some_iff, Option.some.injEq] at h
  obtain ⟨key, hk, value, hv, rfl⟩ := h
  exact ⟨rfl, rfl, hk, hv⟩

end Changes

section Rows

theorem lt_nextId {ids : List Nat} {i : Nat} (h : i ∈ ids) : i < nextId ids := by
  have key : ∀ (ids : List Nat) (m : Nat), m ≤ ids.foldl max m ∧ ∀ i ∈ ids, i ≤ ids.foldl max m := by
    intro ids
    induction ids with
    | nil => simp
    | cons j r ih =>
      intro m
      obtain ⟨hm, hr⟩ := ih (max m j)
      simp only [List.foldl_cons, List.mem_cons, forall_eq_or_imp]
      exact ⟨by omega, by omega, hr⟩
  have := (key ids 0).2 i h
  unfold nextId
  omega

theorem mem_newRows {environmentId first : Nat} {bindings : List (String × String)}
    {v : VariableRow} (h : v ∈ newRows environmentId first bindings) :
    first ≤ v.id ∧ v.environmentId = environmentId := by
  induction bindings generalizing first with
  | nil => cases h
  | cons b r ih =>
    rcases List.mem_cons.1 h with rfl | h
    · exact ⟨Nat.le_refl _, rfl⟩
    · obtain ⟨hi, he⟩ := ih h
      exact ⟨by omega, he⟩

theorem map_newRows (environmentId first : Nat) (bindings : List (String × String)) :
    (newRows environmentId first bindings).map (fun v => (v.key, v.value)) = bindings := by
  induction bindings generalizing first with
  | nil => rfl
  | cons b r ih => rw [newRows, List.map_cons, ih]

theorem pairwise_newRows (environmentId first : Nat) (bindings : List (String × String)) :
    (newRows environmentId first bindings).Pairwise (·.id < ·.id) := by
  induction bindings generalizing first with
  | nil => exact .nil
  | cons b r ih => exact .cons (fun v hv => (mem_newRows hv).1) (ih (first + 1))

variable {s : Store} {id : Int}

theorem mem_of_environment? {e : EnvironmentRow} (h : s.environment? id = some e) :
    e ∈ s.environments ∧ (e.id : Int) = id :=
  ⟨List.mem_of_find?_eq_some h, by simpa using List.find?_some h⟩

theorem mem_of_variableRow? {v : VariableRow} (h : s.variableRow? id = some v) :
    v ∈ s.variableRows ∧ (v.id : Int) = id :=
  ⟨List.mem_of_find?_eq_some h, by simpa using List.find?_some h⟩

theorem isActive_of_mem_deactivateAll {e : EnvironmentRow}
    (h : e ∈ s.deactivateAll.environments) : e.isActive = false := by
  obtain ⟨d, -, rfl⟩ := List.mem_map.1 h
  rfl

theorem eq_of_mem_deactivateOthers {e : EnvironmentRow}
    (h : e ∈ (s.deactivateOthers id).environments) (ha : e.isActive = true) : (e.id : Int) = id := by
  obtain ⟨d, -, rfl⟩ := List.mem_map.1 h
  split at ha
  · rw [if_pos ‹_›]
    assumption
  · cases ha

theorem nextEnvironmentId_deactivateAll : s.deactivateAll.nextEnvironmentId = s.nextEnvironmentId := by
  simp [nextEnvironmentId, deactivateAll, Function.comp_def]

end Rows

section Outcomes

variable {s : Store} {id : Int}

def NewEnvironment.row (new : NewEnvironment) (s : Store) : EnvironmentRow :=
  ⟨s.nextEnvironmentId, new.name, new.isActive, new.isShared⟩

theorem create_eq_ok {new : NewEnvironment} {p : Store × EnvironmentRow}
    (h : s.create new = .ok p) : ((new.row s).isActive = true → (new.row s).isShared = false) ∧
      let t := if new.isActive then s.deactivateAll else s
      p.1 = ⟨t.environments ++ [new.row s],
        t.variableRows ++ newRows (new.row s).id s.nextVariableId new.bindings⟩ := by
  unfold create at h
  split at h
  · cases h
  · rename_i hn
    cases h
    have hshared : new.isActive = true → new.isShared = false := by simpa using hn
    exact ⟨hshared, rfl⟩

theorem row_of_create {new : NewEnvironment} {p : Store × EnvironmentRow}
    (h : s.create new = .ok p) : p.2 = new.row s := by
  unfold create at h
  split at h
  · cases h
  · cases h
    rfl

theorem update_eq_ok {changes : EnvironmentChanges} {p : Store × EnvironmentRow}
    (h : s.update id changes = .ok p) :
    ∃ e ∈ s.environments, (e.id : Int) = id ∧ changes.apply? e = some p.2 ∧
      (p.2.isActive = true → p.2.isShared = false) ∧
      p.1 = (if changes.isActive = .set true then s.deactivateOthers id else s).replaceEnvironment
        p.2 := by
  unfold update at h
  split at h
  · cases h
  · rename_i e he
    split at h
    · cases h
    · rename_i hn
      split at h
      · cases h
      · rename_i row hrow
        cases h
        obtain ⟨-, ha, hs⟩ := EnvironmentChanges.apply?_eq_some hrow
        rw [ha, hs] at hn
        obtain ⟨hmem, hid⟩ := mem_of_environment? he
        exact ⟨e, hmem, hid, hrow, by simpa using hn, rfl⟩

theorem activate_eq_ok {p : Store × EnvironmentRow} (h : s.activate id = .ok p) :
    ∃ e ∈ s.environments, (e.id : Int) = id ∧ e.isShared = false ∧
      p.2 = { e with isActive := true } ∧
      p.1 = (s.deactivateOthers id).replaceEnvironment p.2 := by
  unfold activate at h
  split at h
  · cases h
  · rename_i e he
    split at h
    · cases h
    · rename_i hn
      cases h
      obtain ⟨hmem, hid⟩ := mem_of_environment? he
      exact ⟨e, hmem, hid, by simpa using hn, rfl, rfl⟩

theorem delete_eq_ok {t : Store} (h : s.delete id = .ok t) :
    ∃ e ∈ s.environments, (e.id : Int) = id ∧
      t = ⟨s.environments.filter (·.id != e.id), s.variableRows.filter (·.environmentId != e.id)⟩ := by
  unfold delete at h
  split at h
  · cases h
  · rename_i e he
    cases h
    obtain ⟨hmem, hid⟩ := mem_of_environment? he
    exact ⟨e, hmem, hid, rfl⟩

theorem addVariable_eq_ok {key value : String} {p : Store × VariableRow}
    (h : s.addVariable id key value = .ok p) :
    ∃ e ∈ s.environments, (e.id : Int) = id ∧ p.2 = ⟨s.nextVariableId, e.id, key, value⟩ ∧
      p.1 = { s with variableRows := s.variableRows ++ [p.2] } := by
  unfold addVariable at h
  split at h
  · cases h
  · rename_i e he
    cases h
    obtain ⟨hmem, hid⟩ := mem_of_environment? he
    exact ⟨e, hmem, hid, rfl, rfl⟩

theorem updateVariable_eq_ok {changes : VariableChanges} {p : Store × VariableRow}
    (h : s.updateVariable id changes = .ok p) :
    ∃ v ∈ s.variableRows, (v.id : Int) = id ∧ changes.apply? v = some p.2 ∧
      p.1 = { s with variableRows := s.variableRows.map fun w => if w.id = p.2.id then p.2 else w } := by
  unfold updateVariable at h
  split at h
  · cases h
  · rename_i v hv
    split at h
    · cases h
    · rename_i row hrow
      cases h
      obtain ⟨hmem, hid⟩ := mem_of_variableRow? hv
      exact ⟨v, hmem, hid, hrow, rfl⟩

theorem deleteVariable_eq_ok {t : Store} (h : s.deleteVariable id = .ok t) :
    ∃ v ∈ s.variableRows, (v.id : Int) = id ∧
      t = { s with variableRows := s.variableRows.filter (·.id != v.id) } := by
  unfold deleteVariable at h
  split at h
  · cases h
  · rename_i v hv
    cases h
    obtain ⟨hmem, hid⟩ := mem_of_variableRow? hv
    exact ⟨v, hmem, hid, rfl⟩

end Outcomes

end TemplatedRequests.Store
