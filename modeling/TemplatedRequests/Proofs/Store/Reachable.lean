import Mathlib.Data.List.Nodup
import TemplatedRequests.Proofs.Store.Operations

/-!
In every state that operations lead to, rows stand in the order of their numbers, at most one
environment is active, none is both active and shared, and every variable belongs to an
environment.
-/

namespace TemplatedRequests.Store

structure Sound (s : Store) : Prop where
  ordered : s.environments.Pairwise (·.id < ·.id)
  rowsOrdered : s.variableRows.Pairwise (·.id < ·.id)
  oneActive : ∀ d ∈ s.environments, ∀ e ∈ s.environments,
    d.isActive = true → e.isActive = true → d.id = e.id
  notShared : ∀ e ∈ s.environments, e.isActive = true → e.isShared = false
  owned : ∀ v ∈ s.variableRows, ∃ e ∈ s.environments, e.id = v.environmentId

theorem sound_empty : Sound {} := by
  constructor <;> simp

namespace Sound

variable {s : Store} (h : s.Sound)
include h

theorem eq_of_id {d e : EnvironmentRow} (hd : d ∈ s.environments) (he : e ∈ s.environments)
    (hid : d.id = e.id) : d = e := by
  have hnodup : (s.environments.map (·.id)).Nodup :=
    List.pairwise_map.2 (h.ordered.imp Nat.ne_of_lt)
  exact List.inj_on_of_nodup_map hnodup hd he hid

theorem eq_of_rowId {v w : VariableRow} (hv : v ∈ s.variableRows) (hw : w ∈ s.variableRows)
    (hid : v.id = w.id) : v = w := by
  have hnodup : (s.variableRows.map (·.id)).Nodup :=
    List.pairwise_map.2 (h.rowsOrdered.imp Nat.ne_of_lt)
  exact List.inj_on_of_nodup_map hnodup hv hw hid

section Parts

theorem map {f : EnvironmentRow → EnvironmentRow} (hid : ∀ e, (f e).id = e.id)
    (hone : ∀ d ∈ s.environments, ∀ e ∈ s.environments,
      (f d).isActive = true → (f e).isActive = true → d.id = e.id)
    (hshared : ∀ e ∈ s.environments, (f e).isActive = true → (f e).isShared = false) :
    Sound { s with environments := s.environments.map f } where
  ordered := by
    rw [List.pairwise_map]
    simpa only [hid] using h.ordered
  rowsOrdered := h.rowsOrdered
  oneActive := by
    simp only [List.forall_mem_map, hid]
    exact hone
  notShared := by
    simp only [List.forall_mem_map]
    exact hshared
  owned v hv := by
    obtain ⟨e, he, hev⟩ := h.owned v hv
    exact ⟨f e, List.mem_map_of_mem he, (hid e).trans hev⟩

theorem deactivateAll : s.deactivateAll.Sound :=
  h.map (fun _ => rfl) (fun _ _ _ _ hd => nomatch hd) (fun _ _ he => nomatch he)

theorem deactivateOthers (id : Int) : (s.deactivateOthers id).Sound := by
  have hactive : ∀ e : EnvironmentRow,
      (if (e.id : Int) = id then e else { e with isActive := false }).isActive = true →
        (e.id : Int) = id ∧ e.isActive = true := by
    intro e he
    split at he
    · exact ⟨‹_›, he⟩
    · cases he
  refine h.map (fun e => ?_) (fun d hd e he hd' he' => ?_) (fun e he he' => ?_)
  · split <;> rfl
  · exact h.oneActive d hd e he (hactive d hd').2 (hactive e he').2
  · obtain ⟨hid, ha⟩ := hactive e he'
    rw [if_pos hid]
    exact h.notShared e he ha

theorem replaceEnvironment {row : EnvironmentRow}
    (hshared : row.isActive = true → row.isShared = false)
    (halone : row.isActive = true → ∀ e ∈ s.environments, e.isActive = true → e.id = row.id) :
    (s.replaceEnvironment row).Sound := by
  refine h.map (fun e => ?_) (fun d hd e he hd' he' => ?_) (fun e he he' => ?_)
  · split
    · exact Eq.symm ‹_›
    · rfl
  · split at hd' <;> split at he'
    · rename_i hdr her
      exact hdr.trans her.symm
    · rename_i hdr _
      exact hdr.trans (halone hd' e he he').symm
    · rename_i her
      exact (halone he' d hd hd').trans her.symm
    · exact h.oneActive d hd e he hd' he'
  · by_cases hr : e.id = row.id
    · rw [if_pos hr] at he' ⊢
      exact hshared he'
    · rw [if_neg hr] at he' ⊢
      exact h.notShared e he he'

theorem appendEnvironment {row : EnvironmentRow} (hid : ∀ e ∈ s.environments, e.id < row.id)
    (hshared : row.isActive = true → row.isShared = false)
    (halone : row.isActive = true → ∀ e ∈ s.environments, e.isActive = false) :
    Sound { s with environments := s.environments ++ [row] } where
  ordered := List.pairwise_append.2 ⟨h.ordered, List.pairwise_singleton _ _, by simpa using hid⟩
  rowsOrdered := h.rowsOrdered
  oneActive := by
    intro d hd e he hd' he'
    rcases List.mem_append.1 hd with hd | hd <;> rcases List.mem_append.1 he with he | he
    · exact h.oneActive d hd e he hd' he'
    · rw [List.mem_singleton.1 he] at he'
      exact absurd hd' (by simp [halone he' d hd])
    · rw [List.mem_singleton.1 hd] at hd'
      exact absurd he' (by simp [halone hd' e he])
    · rw [List.mem_singleton.1 hd, List.mem_singleton.1 he]
  notShared := by
    intro e he he'
    rcases List.mem_append.1 he with he | he
    · exact h.notShared e he he'
    · rw [List.mem_singleton.1 he] at he' ⊢
      exact hshared he'
  owned v hv := by
    obtain ⟨e, he, hev⟩ := h.owned v hv
    exact ⟨e, List.mem_append_left _ he, hev⟩

theorem mapRows {f : VariableRow → VariableRow} (hid : ∀ v, (f v).id = v.id)
    (howner : ∀ v ∈ s.variableRows, (f v).environmentId = v.environmentId) :
    Sound { s with variableRows := s.variableRows.map f } where
  ordered := h.ordered
  rowsOrdered := by
    rw [List.pairwise_map]
    simpa only [hid] using h.rowsOrdered
  oneActive := h.oneActive
  notShared := h.notShared
  owned := by
    rw [List.forall_mem_map]
    intro v hv
    rw [howner v hv]
    exact h.owned v hv

theorem appendRows {rows : List VariableRow} (hordered : rows.Pairwise (·.id < ·.id))
    (hid : ∀ v ∈ s.variableRows, ∀ w ∈ rows, v.id < w.id)
    (howned : ∀ w ∈ rows, ∃ e ∈ s.environments, e.id = w.environmentId) :
    Sound { s with variableRows := s.variableRows ++ rows } where
  ordered := h.ordered
  rowsOrdered := List.pairwise_append.2 ⟨h.rowsOrdered, hordered, hid⟩
  oneActive := h.oneActive
  notShared := h.notShared
  owned v hv := (List.mem_append.1 hv).elim (h.owned v) (howned v)

end Parts

section Operations

theorem create {new : NewEnvironment} {p : Store × EnvironmentRow} (hp : s.create new = .ok p) :
    p.1.Sound := by
  obtain ⟨hshared, hp⟩ := create_eq_ok hp
  rw [hp]
  have hrows : ∀ t : Store, t.variableRows = s.variableRows →
      ∀ v ∈ t.variableRows, ∀ w ∈ newRows (new.row s).id s.nextVariableId new.bindings,
        v.id < w.id := by
    intro t ht v hv w hw
    rw [ht] at hv
    exact Nat.lt_of_lt_of_le (lt_nextId (List.mem_map_of_mem hv)) (mem_newRows hw).1
  have hfirst : ∀ t : Store, t.nextEnvironmentId = s.nextEnvironmentId →
      ∀ e ∈ t.environments, e.id < (new.row s).id := by
    intro t ht e he
    rw [NewEnvironment.row, ← ht]
    exact lt_nextId (List.mem_map_of_mem he)
  have hsound : ∀ t : Store, t.Sound → t.variableRows = s.variableRows →
      t.nextEnvironmentId = s.nextEnvironmentId →
      ((new.row s).isActive = true → ∀ e ∈ t.environments, e.isActive = false) →
      Sound ⟨t.environments ++ [new.row s],
        t.variableRows ++ newRows (new.row s).id s.nextVariableId new.bindings⟩ := by
    intro t ht hv he halone
    refine (ht.appendEnvironment (hfirst t he) hshared halone).appendRows (pairwise_newRows _ _ _)
      (hrows t hv) fun w hw => ?_
    exact ⟨new.row s, List.mem_append_right _ (List.mem_singleton_self _), (mem_newRows hw).2.symm⟩
  split
  · exact hsound _ h.deactivateAll rfl nextEnvironmentId_deactivateAll
      fun _ _ => isActive_of_mem_deactivateAll
  · rename_i hn
    exact hsound s h rfl rfl fun ha => absurd ha hn

theorem update {id : Int} {changes : EnvironmentChanges} {p : Store × EnvironmentRow}
    (hp : s.update id changes = .ok p) : p.1.Sound := by
  obtain ⟨e, he, hid, hrow, hshared, hp⟩ := update_eq_ok hp
  obtain ⟨hrid, ha, -⟩ := EnvironmentChanges.apply?_eq_some hrow
  rw [hp]
  split
  · refine (h.deactivateOthers id).replaceEnvironment hshared fun _ d hd hd' => ?_
    have := eq_of_mem_deactivateOthers hd hd'
    omega
  · rename_i hset
    refine h.replaceEnvironment hshared fun hr d hd hd' => ?_
    rw [hrid]
    exact h.oneActive d hd e he hd' (isActive_of_isOn (ha.trans hr) hset)

theorem activate {id : Int} {p : Store × EnvironmentRow} (hp : s.activate id = .ok p) :
    p.1.Sound := by
  obtain ⟨e, he, hid, hs, hrow, hp⟩ := activate_eq_ok hp
  rw [hp, hrow]
  refine (h.deactivateOthers id).replaceEnvironment (fun _ => hs) fun _ d hd hd' => ?_
  have := eq_of_mem_deactivateOthers hd hd'
  dsimp only
  omega

theorem delete {id : Int} {t : Store} (ht : s.delete id = .ok t) : t.Sound := by
  obtain ⟨e, -, -, rfl⟩ := delete_eq_ok ht
  refine ⟨h.ordered.filter _, h.rowsOrdered.filter _, fun d hd e he => ?_, fun e he => ?_,
    fun v hv => ?_⟩
  · exact h.oneActive d (List.mem_filter.1 hd).1 e (List.mem_filter.1 he).1
  · exact h.notShared e (List.mem_filter.1 he).1
  · obtain ⟨hv, hne⟩ := List.mem_filter.1 hv
    obtain ⟨d, hd, hdv⟩ := h.owned v hv
    exact ⟨d, List.mem_filter.2 ⟨hd, by rwa [hdv]⟩, hdv⟩

theorem addVariable {id : Int} {key value : String} {p : Store × VariableRow}
    (hp : s.addVariable id key value = .ok p) : p.1.Sound := by
  obtain ⟨e, he, -, hrow, hp⟩ := addVariable_eq_ok hp
  rw [hp, hrow]
  refine h.appendRows (List.pairwise_singleton _ _) (fun v hv w hw => ?_) (fun w hw => ?_)
  · rw [List.mem_singleton.1 hw]
    exact lt_nextId (List.mem_map_of_mem hv)
  · rw [List.mem_singleton.1 hw]
    exact ⟨e, he, rfl⟩

theorem updateVariable {id : Int} {changes : VariableChanges} {p : Store × VariableRow}
    (hp : s.updateVariable id changes = .ok p) : p.1.Sound := by
  obtain ⟨v, hv, -, hrow, hp⟩ := updateVariable_eq_ok hp
  obtain ⟨hrid, howner, -⟩ := VariableChanges.columns hrow
  rw [hp]
  refine h.mapRows (fun w => ?_) (fun w hw => ?_)
  · split
    · exact Eq.symm ‹_›
    · rfl
  · split
    · rename_i hwr
      rw [howner, h.eq_of_rowId hw hv (hwr.trans hrid)]
    · rfl

theorem deleteVariable {id : Int} {t : Store} (ht : s.deleteVariable id = .ok t) : t.Sound := by
  obtain ⟨v, -, -, rfl⟩ := deleteVariable_eq_ok ht
  exact { h with
    rowsOrdered := h.rowsOrdered.filter _
    owned := fun w hw => h.owned w (List.mem_filter.1 hw).1 }

theorem apply {op : Operation} {t : Store} (ht : op.apply s = .ok t) : t.Sound := by
  cases op with
  | create new =>
    obtain ⟨p, hp, rfl⟩ := ok_of_map_fst ht
    exact h.create hp
  | update id changes =>
    obtain ⟨p, hp, rfl⟩ := ok_of_map_fst ht
    exact h.update hp
  | activate id =>
    obtain ⟨p, hp, rfl⟩ := ok_of_map_fst ht
    exact h.activate hp
  | delete id => exact h.delete ht
  | addVariable id key value =>
    obtain ⟨p, hp, rfl⟩ := ok_of_map_fst ht
    exact h.addVariable hp
  | updateVariable id changes =>
    obtain ⟨p, hp, rfl⟩ := ok_of_map_fst ht
    exact h.updateVariable hp
  | deleteVariable id => exact h.deleteVariable ht

end Operations

end Sound

theorem Reachable.sound {s : Store} (h : s.Reachable) : s.Sound := by
  induction h with
  | empty => exact sound_empty
  | perform op _ ih =>
    unfold Operation.perform
    split
    · exact ih.apply ‹_›
    · exact ih

end TemplatedRequests.Store
