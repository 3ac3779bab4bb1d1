import TemplatedRequests.Proofs.Store.Reachable

/-!
What operations change in a state that operations lead to, and that nothing else changes.
-/

namespace TemplatedRequests

/-- The row next to another one, which may have become the active one. -/
def EnvironmentRow.beside (e : EnvironmentRow) (activated : Bool) : EnvironmentRow :=
  { e with isActive := e.isActive && !activated }

namespace Store

/-- The operation, where it is not refused, leads from one store to the other. -/
def Operation.Changes (s t : Store) : Operation → Prop
  | .create new => ∃ row rows,
      t.environments = s.environments.map (·.beside new.isActive) ++ [row] ∧
      row = ⟨row.id, new.name, new.isActive, new.isShared⟩ ∧
      (∀ e ∈ s.environments, e.id ≠ row.id) ∧
      t.variableRows = s.variableRows ++ rows ∧
      rows.map (fun v => (v.key, v.value)) = new.bindings ∧
      (∀ v ∈ rows, v.environmentId = row.id) ∧
      ((s.variableRows ++ rows).map (·.id)).Nodup
  | .update id changes => t.variableRows = s.variableRows ∧ ∃ before e after row,
      s.environments = before ++ e :: after ∧ (e.id : Int) = id ∧
      t.environments = before.map (·.beside (changes.isActive = .set true)) ++
        row :: after.map (·.beside (changes.isActive = .set true)) ∧
      row.id = e.id ∧ changes.name.apply e.name = some row.name ∧
      changes.isActive.apply e.isActive = some row.isActive ∧
      changes.isShared.apply e.isShared = some row.isShared
  | .activate id => t.variableRows = s.variableRows ∧
      (∃ e ∈ s.environments, (e.id : Int) = id) ∧
      t.environments = s.environments.map fun e => { e with isActive := (e.id : Int) = id }
  | .delete id => ∃ before e after, s.environments = before ++ e :: after ∧ (e.id : Int) = id ∧
      t.environments = before ++ after ∧
      t.variableRows = s.variableRows.filter (·.environmentId ≠ e.id)
  | .addVariable environmentId key value => t.environments = s.environments ∧ ∃ v,
      t.variableRows = s.variableRows ++ [v] ∧ (v.environmentId : Int) = environmentId ∧
      v.key = key ∧ v.value = value ∧ ∀ w ∈ s.variableRows, w.id ≠ v.id
  | .updateVariable id changes => t.environments = s.environments ∧ ∃ before v after row,
      s.variableRows = before ++ v :: after ∧ (v.id : Int) = id ∧
      t.variableRows = before ++ row :: after ∧
      row.id = v.id ∧ row.environmentId = v.environmentId ∧
      changes.key.apply v.key = some row.key ∧ changes.value.apply v.value = some row.value
  | .deleteVariable id => t.environments = s.environments ∧ ∃ before v after,
      s.variableRows = before ++ v :: after ∧ (v.id : Int) = id ∧
      t.variableRows = before ++ after

section Lists

variable {α β : Type} {before after : List α} {a : α}

theorem exists_split {number : α → Nat} {l : List α} (h : l.Pairwise (number · < number ·))
    (ha : a ∈ l) : ∃ before after, l = before ++ a :: after ∧
      ∀ b ∈ before ++ after, number b ≠ number a := by
  obtain ⟨before, after, rfl⟩ := List.append_of_mem ha
  obtain ⟨-, hafter, hbefore⟩ := List.pairwise_append.1 h
  refine ⟨before, after, rfl, fun b hb => ?_⟩
  rcases List.mem_append.1 hb with hb | hb
  · exact Nat.ne_of_lt (hbefore b hb a List.mem_cons_self)
  · exact Nat.ne_of_gt (List.rel_of_pairwise_cons hafter hb)

theorem map_split {f g : α → β} (h : ∀ b ∈ before ++ after, f b = g b) :
    (before ++ a :: after).map f = before.map g ++ f a :: after.map g := by
  obtain ⟨hbefore, hafter⟩ := List.forall_mem_append.1 h
  rw [List.map_append, List.map_cons, List.map_congr_left hbefore, List.map_congr_left hafter]

theorem filter_split {p : α → Bool} (h : ∀ b ∈ before ++ after, p b = true) (ha : p a = false) :
    (before ++ a :: after).filter p = before ++ after := by
  obtain ⟨hbefore, hafter⟩ := List.forall_mem_append.1 h
  rw [List.filter_append, List.filter_cons_of_neg (by simp [ha]), List.filter_eq_self.2 hbefore,
    List.filter_eq_self.2 hafter]

end Lists

section Rows

variable {s : Store} {id : Int}

@[simp] theorem beside_false (e : EnvironmentRow) : e.beside false = e := by
  simp [EnvironmentRow.beside]

@[simp] theorem beside_true (e : EnvironmentRow) : e.beside true = { e with isActive := false } := by
  simp [EnvironmentRow.beside]

theorem environments_deactivateAll (b : Bool) :
    (if b = true then s.deactivateAll else s).environments = s.environments.map (·.beside b) := by
  cases b with
  | false => simp
  | true => simp [deactivateAll]

theorem environments_deactivateOthers (p : Prop) [Decidable p] :
    (if p then s.deactivateOthers id else s).environments =
      s.environments.map fun d => if (d.id : Int) = id then d else d.beside p := by
  by_cases hp : p
  · simp [hp, deactivateOthers]
  · simp [hp]

end Rows

section Changes

variable {s : Store}

theorem changes_of_create (h : s.Sound) {new : NewEnvironment} {p : Store × EnvironmentRow}
    (hp : s.create new = .ok p) : (Operation.create new).Changes s p.1 := by
  have hordered := (h.create hp).rowsOrdered
  obtain ⟨-, hs⟩ := create_eq_ok hp
  have hrows : p.1.variableRows =
      s.variableRows ++ newRows (new.row s).id s.nextVariableId new.bindings := by
    rw [hs]
    cases new.isActive <;> rfl
  rw [hrows] at hordered
  refine ⟨new.row s, _, ?_, rfl, fun e he => ?_, hrows, map_newRows _ _ _,
    fun v hv => (mem_newRows hv).2, List.pairwise_map.2 (hordered.imp Nat.ne_of_lt)⟩
  · rw [hs, ← environments_deactivateAll]
  · exact Nat.ne_of_lt (lt_nextId (List.mem_map_of_mem he))

theorem changes_of_update (h : s.Sound) {id : Int} {changes : EnvironmentChanges} {p : Store × EnvironmentRow}
    (hp : s.update id changes = .ok p) : (Operation.update id changes).Changes s p.1 := by
  obtain ⟨e, he, hid, hrow, -, hs⟩ := update_eq_ok hp
  obtain ⟨hrid, hcolumns⟩ := EnvironmentChanges.columns hrow
  obtain ⟨before, after, hsplit, hne⟩ := exists_split h.ordered he
  have hrows : p.1.variableRows = s.variableRows := by
    rw [hs]
    split <;> rfl
  refine ⟨hrows, before, e, after, p.2, hsplit, hid, ?_, hrid, hcolumns⟩
  rw [hs, replaceEnvironment, environments_deactivateOthers, hsplit, List.map_map, map_split (g := (·.beside (changes.isActive = .set true)))]
  · simp [hid, hrid]
  · intro d hd
    have hd := hne d hd
    have hdid : (d.id : Int) ≠ id := by omega
    have hdrow : d.id ≠ p.2.id := by omega
    simp [hdid, hdrow, EnvironmentRow.beside]

theorem changes_of_activate (h : s.Sound) {id : Int} {p : Store × EnvironmentRow} (hp : s.activate id = .ok p) :
    (Operation.activate id).Changes s p.1 := by
  obtain ⟨e, he, hid, -, hrow, hs⟩ := activate_eq_ok hp
  refine ⟨by rw [hs]; rfl, ⟨e, he, hid⟩, ?_⟩
  rw [hs, replaceEnvironment, deactivateOthers, List.map_map]
  refine List.map_congr_left fun d hd => ?_
  by_cases hdid : (d.id : Int) = id
  · have hde : d = e := h.eq_of_id hd he (by omega)
    simp [hrow, hde, hid]
  · have hde : d.id ≠ e.id := by omega
    simp [hrow, hdid, hde]

theorem changes_of_delete (h : s.Sound) {id : Int} {t : Store} (ht : s.delete id = .ok t) :
    (Operation.delete id).Changes s t := by
  obtain ⟨e, he, hid, rfl⟩ := delete_eq_ok ht
  obtain ⟨before, after, hsplit, hne⟩ := exists_split h.ordered he
  refine ⟨before, e, after, hsplit, hid, ?_, ?_⟩
  · rw [hsplit]
    exact filter_split (by simpa using hne) (by simp)
  · simp [bne, beq_eq_decide]

theorem changes_of_addVariable {id : Int} {key value : String} {p : Store × VariableRow}
    (hp : s.addVariable id key value = .ok p) : (Operation.addVariable id key value).Changes s p.1 := by
  obtain ⟨e, -, hid, hrow, hs⟩ := addVariable_eq_ok hp
  refine ⟨by rw [hs], p.2, by rw [hs], by rw [hrow]; exact hid, by rw [hrow], by rw [hrow],
    fun w hw => ?_⟩
  rw [hrow]
  exact Nat.ne_of_lt (lt_nextId (List.mem_map_of_mem hw))

theorem changes_of_updateVariable (h : s.Sound) {id : Int} {changes : VariableChanges} {p : Store × VariableRow}
    (hp : s.updateVariable id changes = .ok p) :
    (Operation.updateVariable id changes).Changes s p.1 := by
  obtain ⟨v, hv, hid, hrow, hs⟩ := updateVariable_eq_ok hp
  have hcolumns := VariableChanges.columns hrow
  obtain ⟨before, after, hsplit, hne⟩ := exists_split h.rowsOrdered hv
  refine ⟨by rw [hs], before, v, after, p.2, hsplit, hid, ?_, hcolumns⟩
  rw [hs, hsplit]
  dsimp only
  rw [map_split (g := fun w => w), List.map_id', List.map_id', if_pos hcolumns.1.symm]
  intro w hw
  exact if_neg (hcolumns.1 ▸ hne w hw)

theorem changes_of_deleteVariable (h : s.Sound) {id : Int} {t : Store} (ht : s.deleteVariable id = .ok t) :
    (Operation.deleteVariable id).Changes s t := by
  obtain ⟨v, hv, hid, rfl⟩ := deleteVariable_eq_ok ht
  obtain ⟨before, after, hsplit, hne⟩ := exists_split h.rowsOrdered hv
  refine ⟨rfl, before, v, after, hsplit, hid, ?_⟩
  dsimp only
  rw [hsplit]
  exact filter_split (by simpa using hne) (by simp)

theorem changes_of_apply (h : s.Sound) {op : Operation} {t : Store} (ht : op.apply s = .ok t) :
    op.Changes s t := by
  cases op with
  | create new =>
    obtain ⟨p, hp, rfl⟩ := ok_of_map_fst ht
    exact changes_of_create h hp
  | update id changes =>
    obtain ⟨p, hp, rfl⟩ := ok_of_map_fst ht
    exact changes_of_update h hp
  | activate id =>
    obtain ⟨p, hp, rfl⟩ := ok_of_map_fst ht
    exact changes_of_activate h hp
  | delete id => exact changes_of_delete h ht
  | addVariable id key value =>
    obtain ⟨p, hp, rfl⟩ := ok_of_map_fst ht
    exact changes_of_addVariable hp
  | updateVariable id changes =>
    obtain ⟨p, hp, rfl⟩ := ok_of_map_fst ht
    exact changes_of_updateVariable h hp
  | deleteVariable id => exact changes_of_deleteVariable h ht

end Changes

end Store

end TemplatedRequests
