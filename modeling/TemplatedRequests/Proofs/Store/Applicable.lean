import TemplatedRequests.Proofs.Store.Drafted

/-!
Which operations are done: those whose row is there, that leave no environment both active and shared,
and that make no column null.
-/

namespace TemplatedRequests.Store

/-- Nothing stands against the operation. -/
def Operation.Applies (s : Store) : Operation → Prop
  | .create new => ¬(new.isActive = true ∧ new.isShared = true)
  | .update id changes => ¬changes.HasNull ∧ ∃ e ∈ s.environments, (e.id : Int) = id ∧
      ¬(changes.isActive.isOn e.isActive = true ∧ changes.isShared.isOn e.isShared = true)
  | .activate id => ∃ e ∈ s.environments, (e.id : Int) = id ∧ e.isShared = false
  | .delete id => ∃ e ∈ s.environments, (e.id : Int) = id
  | .addVariable environmentId _ _ => ∃ e ∈ s.environments, (e.id : Int) = environmentId
  | .updateVariable id changes => ¬changes.HasNull ∧ ∃ v ∈ s.variableRows, (v.id : Int) = id
  | .deleteVariable id => ∃ v ∈ s.variableRows, (v.id : Int) = id

variable {s t : Store} {op : Operation}

theorem isOk_map_fst_iff {α : Type} {x : Except Refusal (Store × α)} :
    (∃ t, x.map (·.1) = .ok t) ↔ ∃ p, x = .ok p := by
  cases x <;> simp [Except.map]

theorem Operation.applies_of_apply (h : op.apply s = .ok t) : op.Applies s := by
  cases op with
  | create new =>
    obtain ⟨p, hp, -⟩ := ok_of_map_fst h
    obtain ⟨hshared, -⟩ := create_eq_ok hp
    rintro ⟨hactive, hboth⟩
    cases (hshared hactive).symm.trans hboth
  | update id changes =>
    obtain ⟨p, hp, -⟩ := ok_of_map_fst h
    obtain ⟨e, he, hid, hrow, hshared, -⟩ := update_eq_ok hp
    obtain ⟨-, hactive, hboth⟩ := EnvironmentChanges.apply?_eq_some hrow
    refine ⟨fun hnull => ?_, e, he, hid, ?_⟩
    · rw [EnvironmentChanges.apply?_eq_none_iff.2 hnull] at hrow
      cases hrow
    · rw [hactive, hboth]
      rintro ⟨ha, hb⟩
      cases (hshared ha).symm.trans hb
  | activate id =>
    obtain ⟨p, hp, -⟩ := ok_of_map_fst h
    obtain ⟨e, he, hid, hshared, -⟩ := activate_eq_ok hp
    exact ⟨e, he, hid, hshared⟩
  | delete id =>
    obtain ⟨e, he, hid, -⟩ := delete_eq_ok h
    exact ⟨e, he, hid⟩
  | addVariable id key value =>
    obtain ⟨p, hp, -⟩ := ok_of_map_fst h
    obtain ⟨e, he, hid, -⟩ := addVariable_eq_ok hp
    exact ⟨e, he, hid⟩
  | updateVariable id changes =>
    obtain ⟨p, hp, -⟩ := ok_of_map_fst h
    obtain ⟨v, hv, hid, hrow, -⟩ := updateVariable_eq_ok hp
    refine ⟨fun hnull => ?_, v, hv, hid⟩
    rw [VariableChanges.apply?_eq_none_iff.2 hnull] at hrow
    cases hrow
  | deleteVariable id =>
    obtain ⟨v, hv, hid, -⟩ := deleteVariable_eq_ok h
    exact ⟨v, hv, hid⟩

theorem Sound.isOk_apply (h : s.Sound) (hop : op.Applies s) : ∃ t, op.apply s = .ok t := by
  cases op with
  | create new =>
    refine isOk_map_fst_iff.2 ?_
    rw [Store.create, if_neg (by simpa [Operation.Applies] using hop)]
    exact ⟨_, rfl⟩
  | update id changes =>
    obtain ⟨hnull, e, he, rfl, hallowed⟩ := hop
    obtain ⟨row, hrow⟩ := Option.ne_none_iff_exists'.1
      (mt (EnvironmentChanges.apply?_eq_none_iff (e := e)).1 hnull)
    refine isOk_map_fst_iff.2 ?_
    rw [Store.update, h.environment?_eq_some he]
    dsimp only
    rw [if_neg (by simpa using hallowed), hrow]
    exact ⟨_, rfl⟩
  | activate id =>
    obtain ⟨e, he, rfl, hshared⟩ := hop
    refine isOk_map_fst_iff.2 ?_
    rw [Store.activate, h.environment?_eq_some he]
    dsimp only
    rw [hshared, if_neg Bool.false_ne_true]
    exact ⟨_, rfl⟩
  | delete id =>
    obtain ⟨e, he, rfl⟩ := hop
    rw [Operation.apply, Store.delete, h.environment?_eq_some he]
    exact ⟨_, rfl⟩
  | addVariable id key value =>
    obtain ⟨e, he, rfl⟩ := hop
    refine isOk_map_fst_iff.2 ?_
    rw [Store.addVariable, h.environment?_eq_some he]
    exact ⟨_, rfl⟩
  | updateVariable id changes =>
    obtain ⟨hnull, v, hv, rfl⟩ := hop
    obtain ⟨row, hrow⟩ := Option.ne_none_iff_exists'.1
      (mt (VariableChanges.apply?_eq_none_iff (v := v)).1 hnull)
    refine isOk_map_fst_iff.2 ?_
    rw [Store.updateVariable, h.variableRow?_eq_some hv]
    dsimp only
    rw [hrow]
    exact ⟨_, rfl⟩
  | deleteVariable id =>
    obtain ⟨v, hv, rfl⟩ := hop
    rw [Operation.apply, Store.deleteVariable, h.variableRow?_eq_some hv]
    exact ⟨_, rfl⟩

end TemplatedRequests.Store
