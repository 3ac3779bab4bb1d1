import TemplatedRequests.Proofs.Store.Reachable

/-!
Rows as operations write them, before the constraints of the tables are checked: columns must not be
null, and a variable must belong to an environment. An operation that is not refused beforehand leaves
what it has written if that keeps the constraints, and is refused as a whole if not. Only updates that
make a column null break them.
-/

namespace TemplatedRequests

theorem Change.apply_eq_none_iff {α : Type} (old : α) (c : Change α) :
    c.apply old = none ↔ c = .null := by
  cases c <;> simp [apply]

/-- An environment as it is written, where a column may be null. -/
structure EnvironmentDraft where
  id : Nat
  name : Option String
  isActive : Option Bool
  isShared : Option Bool

def EnvironmentDraft.IsComplete (e : EnvironmentDraft) : Prop :=
  e.name.isSome = true ∧ e.isActive.isSome = true ∧ e.isShared.isSome = true

structure VariableDraft where
  id : Nat
  environmentId : Nat
  key : Option String
  value : Option String

def VariableDraft.IsComplete (v : VariableDraft) : Prop :=
  v.key.isSome = true ∧ v.value.isSome = true

structure Draft where
  environments : List EnvironmentDraft
  variableRows : List VariableDraft

def EnvironmentRow.draft (e : EnvironmentRow) : EnvironmentDraft :=
  ⟨e.id, some e.name, some e.isActive, some e.isShared⟩

def VariableRow.draft (v : VariableRow) : VariableDraft :=
  ⟨v.id, v.environmentId, some v.key, some v.value⟩

namespace Draft

def ofStore (s : Store) : Draft :=
  ⟨s.environments.map EnvironmentRow.draft, s.variableRows.map VariableRow.draft⟩

structure IsAccepted (d : Draft) : Prop where
  environments : ∀ e ∈ d.environments, e.IsComplete
  variableRows : ∀ v ∈ d.variableRows, v.IsComplete
  owned : ∀ v ∈ d.variableRows, ∃ e ∈ d.environments, e.id = v.environmentId

/-- What comes of a draft: the store that it describes, or a refusal of the whole. -/
inductive Settles (d : Draft) : Except Refusal Store → Prop
  | accepted {t : Store} (h : d.IsAccepted) (ht : d = ofStore t) : Settles d (.ok t)
  | refused (h : ¬d.IsAccepted) : Settles d (.error .nullColumn)

def deactivate (d : Draft) (except? : Option Int) : Draft :=
  { d with environments := d.environments.map fun e =>
      if some (e.id : Int) = except? then e else { e with isActive := some false } }

def replaceEnvironment (d : Draft) (row : EnvironmentDraft) : Draft :=
  { d with environments := d.environments.map fun e => if e.id = row.id then row else e }

def replaceVariable (d : Draft) (row : VariableDraft) : Draft :=
  { d with variableRows := d.variableRows.map fun v => if v.id = row.id then row else v }

variable {s : Store}

theorem deactivate_ofStore : (ofStore s).deactivate none = ofStore s.deactivateAll := by
  simp [deactivate, ofStore, Store.deactivateAll, EnvironmentRow.draft]

theorem deactivate_some_ofStore (id : Int) :
    (ofStore s).deactivate (some id) = ofStore (s.deactivateOthers id) := by
  simp only [deactivate, ofStore, Store.deactivateOthers, List.map_map, mk.injEq, and_true]
  refine List.map_congr_left fun e _ => ?_
  by_cases h : (e.id : Int) = id <;> simp [EnvironmentRow.draft, h]

theorem replaceEnvironment_ofStore (row : EnvironmentRow) :
    (ofStore s).replaceEnvironment row.draft = ofStore (s.replaceEnvironment row) := by
  simp only [replaceEnvironment, ofStore, Store.replaceEnvironment, List.map_map, mk.injEq, and_true]
  refine List.map_congr_left fun e _ => ?_
  by_cases h : e.id = row.id <;> simp [EnvironmentRow.draft, h]

theorem replaceVariable_ofStore (row : VariableRow) : (ofStore s).replaceVariable row.draft =
    ofStore { s with variableRows := s.variableRows.map fun v => if v.id = row.id then row else v } := by
  simp only [replaceVariable, ofStore, List.map_map, mk.injEq, true_and]
  refine List.map_congr_left fun v _ => ?_
  by_cases h : v.id = row.id <;> simp [VariableRow.draft, h]

theorem IsAccepted.isComplete_replaceEnvironment {e : EnvironmentRow} {row : EnvironmentDraft}
    (he : e ∈ s.environments) (hid : e.id = row.id)
    (h : ((ofStore s).replaceEnvironment row).IsAccepted) : row.IsComplete :=
  h.environments row (List.mem_map.2 ⟨e.draft, List.mem_map_of_mem he, if_pos hid⟩)

theorem IsAccepted.isComplete_replaceVariable {v : VariableRow} {row : VariableDraft}
    (hv : v ∈ s.variableRows) (hid : v.id = row.id)
    (h : ((ofStore s).replaceVariable row).IsAccepted) : row.IsComplete :=
  h.variableRows row (List.mem_map.2 ⟨v.draft, List.mem_map_of_mem hv, if_pos hid⟩)

end Draft

namespace Store

variable {s : Store} {id : Int}

theorem mem_deactivateOthers {e : EnvironmentRow} (he : e ∈ s.environments) (hid : (e.id : Int) = id) :
    e ∈ (s.deactivateOthers id).environments :=
  List.mem_map.2 ⟨e, he, if_pos hid⟩

theorem Sound.isAccepted (h : s.Sound) : (Draft.ofStore s).IsAccepted where
  environments := List.forall_mem_map.2 fun _ _ => ⟨rfl, rfl, rfl⟩
  variableRows := List.forall_mem_map.2 fun _ _ => ⟨rfl, rfl⟩
  owned := List.forall_mem_map.2 fun v hv => by
    obtain ⟨e, he, hid⟩ := h.owned v hv
    exact ⟨e.draft, List.mem_map_of_mem he, hid⟩

section Changes

def EnvironmentChanges.draft (c : EnvironmentChanges) (e : EnvironmentRow) : EnvironmentDraft :=
  ⟨e.id, c.name.apply e.name, c.isActive.apply e.isActive, c.isShared.apply e.isShared⟩

def VariableChanges.draft (c : VariableChanges) (v : VariableRow) : VariableDraft :=
  ⟨v.id, v.environmentId, c.key.apply v.key, c.value.apply v.value⟩

def EnvironmentChanges.HasNull (c : EnvironmentChanges) : Prop :=
  c.name = .null ∨ c.isActive = .null ∨ c.isShared = .null

def VariableChanges.HasNull (c : VariableChanges) : Prop := c.key = .null ∨ c.value = .null

theorem EnvironmentChanges.apply?_eq_none_iff {c : EnvironmentChanges} {e : EnvironmentRow} :
    c.apply? e = none ↔ c.HasNull := by
  rw [HasNull, ← Change.apply_eq_none_iff e.name, ← Change.apply_eq_none_iff e.isActive c.isActive,
    ← Change.apply_eq_none_iff e.isShared c.isShared, EnvironmentChanges.apply?]
  cases c.name.apply e.name <;> cases c.isActive.apply e.isActive <;>
    cases c.isShared.apply e.isShared <;> simp

theorem EnvironmentChanges.not_isComplete_draft {c : EnvironmentChanges} (h : c.HasNull)
    (e : EnvironmentRow) : ¬(c.draft e).IsComplete := by
  rintro ⟨hn, ha, hs⟩
  rcases h with h | h | h
  · rw [draft, h] at hn
    cases hn
  · rw [draft, h] at ha
    cases ha
  · rw [draft, h] at hs
    cases hs

theorem VariableChanges.apply?_eq_none_iff {c : VariableChanges} {v : VariableRow} :
    c.apply? v = none ↔ c.HasNull := by
  rw [HasNull, ← Change.apply_eq_none_iff v.key c.key, ← Change.apply_eq_none_iff v.value c.value,
    VariableChanges.apply?]
  cases c.key.apply v.key <;> cases c.value.apply v.value <;> simp

theorem VariableChanges.not_isComplete_draft {c : VariableChanges} (h : c.HasNull) (v : VariableRow) :
    ¬(c.draft v).IsComplete := by
  rintro ⟨hk, hv⟩
  rcases h with h | h
  · rw [draft, h] at hk
    cases hk
  · rw [draft, h] at hv
    cases hv

theorem EnvironmentChanges.draft_of_apply? {c : EnvironmentChanges} {e row : EnvironmentRow}
    (h : c.apply? e = some row) : c.draft e = row.draft := by
  obtain ⟨hid, hn, ha, hs⟩ := EnvironmentChanges.columns h
  rw [draft, hn, ha, hs, EnvironmentRow.draft, hid]

theorem VariableChanges.draft_of_apply? {c : VariableChanges} {v row : VariableRow}
    (h : c.apply? v = some row) : c.draft v = row.draft := by
  obtain ⟨hid, howner, hk, hv⟩ := VariableChanges.columns h
  rw [draft, hk, hv, VariableRow.draft, hid, howner]

end Changes

/-- What an operation writes, unless it is refused beforehand. -/
def Operation.draft (s : Store) : Operation → Except Refusal Draft
  | .create new =>
    if new.isActive && new.isShared then .error .sharedActive
    else
      let d := if new.isActive then (Draft.ofStore s).deactivate none else .ofStore s
      .ok ⟨d.environments ++ [(new.row s).draft], d.variableRows ++
        (newRows (new.row s).id s.nextVariableId new.bindings).map VariableRow.draft⟩
  | .update id changes => match s.environment? id with
    | none => .error (.noEnvironment id)
    | some e =>
      if changes.isActive.isOn e.isActive && changes.isShared.isOn e.isShared then
        .error .sharedActive
      else
        let d := if changes.isActive = .set true then (Draft.ofStore s).deactivate (some id)
          else .ofStore s
        .ok (d.replaceEnvironment (changes.draft e))
  | .activate id => match s.environment? id with
    | none => .error (.noEnvironment id)
    | some e =>
      if e.isShared then .error .sharedActive
      else
        let row := { e.draft with isActive := some true }
        .ok (((Draft.ofStore s).deactivate (some id)).replaceEnvironment row)
  | .delete id => match s.environment? id with
    | none => .error (.noEnvironment id)
    | some e => .ok ⟨(Draft.ofStore s).environments.filter (·.id != e.id),
        (Draft.ofStore s).variableRows.filter (·.environmentId != e.id)⟩
  | .addVariable id key value => match s.environment? id with
    | none => .error (.noEnvironment id)
    | some e => .ok { Draft.ofStore s with variableRows := (Draft.ofStore s).variableRows ++
        [⟨s.nextVariableId, e.id, some key, some value⟩] }
  | .updateVariable id changes => match s.variableRow? id with
    | none => .error (.noVariable id)
    | some v => .ok ((Draft.ofStore s).replaceVariable (changes.draft v))
  | .deleteVariable id => match s.variableRow? id with
    | none => .error (.noVariable id)
    | some v => .ok { Draft.ofStore s with
        variableRows := (Draft.ofStore s).variableRows.filter (·.id != v.id) }

def Operation.HasNull : Operation → Prop
  | .update _ changes => changes.HasNull
  | .updateVariable _ changes => changes.HasNull
  | _ => False

/-- An update of a row that is there, not refused beforehand, that makes a column null. -/
def Operation.WritesNull (s : Store) : Operation → Prop
  | .update id changes => changes.HasNull ∧ ∃ e ∈ s.environments, (e.id : Int) = id ∧
      ¬(changes.isActive.isOn e.isActive = true ∧ changes.isShared.isOn e.isShared = true)
  | .updateVariable id changes => changes.HasNull ∧ ∃ v ∈ s.variableRows, (v.id : Int) = id
  | _ => False

/-- What is written and what comes of it: a refusal beforehand, the store that was written, or a
refusal of what breaks the constraints. -/
inductive Corresponds (null : Prop) : Except Refusal Draft → Except Refusal Store → Prop
  | refused {refusal : Refusal} (h : refusal ≠ .nullColumn) :
    Corresponds null (.error refusal) (.error refusal)
  | performed (t : Store) : Corresponds null (.ok (.ofStore t)) (.ok t)
  | broken {d : Draft} (h : null) (hnot : ¬d.IsAccepted) :
    Corresponds null (.ok d) (.error .nullColumn)

namespace Operation

def Fits (s : Store) (op : Operation) : Prop :=
  Corresponds (op.WritesNull s) (op.draft s) (op.apply s)

variable (s)

theorem fits_create (new : NewEnvironment) : (create new).Fits s := by
  rw [Fits, draft, apply, Store.create]
  by_cases h : (new.isActive && new.isShared) = true
  · rw [if_pos h, if_pos h]
    exact .refused (by simp)
  · rw [if_neg h, if_neg h, Draft.deactivate_ofStore, ← apply_ite Draft.ofStore]
    have hdraft : Corresponds ((create new).WritesNull s) _ _ := .performed
      ⟨(if new.isActive then s.deactivateAll else s).environments ++ [new.row s],
        (if new.isActive then s.deactivateAll else s).variableRows ++
          newRows (new.row s).id s.nextVariableId new.bindings⟩
    simp only [Draft.ofStore, List.map_append, List.map_singleton] at hdraft
    exact hdraft

theorem fits_update (id : Int) (changes : EnvironmentChanges) : (update id changes).Fits s := by
  rw [Fits, draft, apply, Store.update]
  cases he : s.environment? id with
  | none => exact .refused (by simp)
  | some e =>
    dsimp only
    obtain ⟨hmem, hid⟩ := mem_of_environment? he
    by_cases h : (changes.isActive.isOn e.isActive && changes.isShared.isOn e.isShared) = true
    · rw [if_pos h, if_pos h]
      exact .refused (by simp)
    · rw [if_neg h, if_neg h, Draft.deactivate_some_ofStore, ← apply_ite Draft.ofStore]
      cases hrow : changes.apply? e with
      | none =>
        have hnull := EnvironmentChanges.apply?_eq_none_iff.1 hrow
        have hstays : e ∈ (if changes.isActive = .set true then s.deactivateOthers id
            else s).environments := by
          split
          · exact mem_deactivateOthers hmem hid
          · exact hmem
        exact .broken ⟨hnull, e, hmem, hid, by simpa using h⟩ fun hd =>
          EnvironmentChanges.not_isComplete_draft hnull e (hd.isComplete_replaceEnvironment hstays rfl)
      | some row =>
        rw [EnvironmentChanges.draft_of_apply? hrow, Draft.replaceEnvironment_ofStore]
        exact .performed _

theorem fits_activate (id : Int) : (activate id).Fits s := by
  rw [Fits, draft, apply, Store.activate]
  cases he : s.environment? id with
  | none => exact .refused (by simp)
  | some e =>
    dsimp only
    by_cases h : e.isShared = true
    · rw [if_pos h, if_pos h]
      exact .refused (by simp)
    · rw [if_neg h, if_neg h, Draft.deactivate_some_ofStore]
      have hrow : ({ e.draft with isActive := some true } : EnvironmentDraft) =
          ({ e with isActive := true } : EnvironmentRow).draft := rfl
      rw [hrow, Draft.replaceEnvironment_ofStore]
      exact .performed _

theorem fits_delete (id : Int) : (delete id).Fits s := by
  rw [Fits, draft, apply, Store.delete]
  cases he : s.environment? id with
  | none => exact .refused (by simp)
  | some e =>
    simp only [Draft.ofStore, List.filter_map]
    exact .performed ⟨s.environments.filter (·.id != e.id),
      s.variableRows.filter (·.environmentId != e.id)⟩

theorem fits_addVariable (id : Int) (key value : String) : (addVariable id key value).Fits s := by
  rw [Fits, draft, apply, Store.addVariable]
  cases he : s.environment? id with
  | none => exact .refused (by simp)
  | some e =>
    have hdraft : Corresponds ((addVariable id key value).WritesNull s) _ _ := .performed
      { s with variableRows := s.variableRows ++ [⟨s.nextVariableId, e.id, key, value⟩] }
    simp only [Draft.ofStore, List.map_append, List.map_singleton] at hdraft
    exact hdraft

theorem fits_updateVariable (id : Int) (changes : VariableChanges) :
    (updateVariable id changes).Fits s := by
  rw [Fits, draft, apply, Store.updateVariable]
  cases hv : s.variableRow? id with
  | none => exact .refused (by simp)
  | some v =>
    dsimp only
    obtain ⟨hmem, hid⟩ := mem_of_variableRow? hv
    cases hrow : changes.apply? v with
    | none =>
      have hnull := VariableChanges.apply?_eq_none_iff.1 hrow
      exact .broken ⟨hnull, v, hmem, hid⟩ fun hd =>
        VariableChanges.not_isComplete_draft hnull v (hd.isComplete_replaceVariable hmem rfl)
    | some row =>
      rw [VariableChanges.draft_of_apply? hrow, Draft.replaceVariable_ofStore]
      exact .performed _

theorem fits_deleteVariable (id : Int) : (deleteVariable id).Fits s := by
  rw [Fits, draft, apply, Store.deleteVariable]
  cases hv : s.variableRow? id with
  | none => exact .refused (by simp)
  | some v =>
    simp only [Draft.ofStore, List.filter_map]
    exact .performed { s with variableRows := s.variableRows.filter (·.id != v.id) }

theorem fits (op : Operation) : op.Fits s := by
  cases op with
  | create new => exact fits_create s new
  | update id changes => exact fits_update s id changes
  | activate id => exact fits_activate s id
  | delete id => exact fits_delete s id
  | addVariable id key value => exact fits_addVariable s id key value
  | updateVariable id changes => exact fits_updateVariable s id changes
  | deleteVariable id => exact fits_deleteVariable s id

end Operation

section Settled

variable {s : Store} {op : Operation}

/-- What is written and keeps the constraints stays; what breaks them is undone as a whole. -/
theorem Sound.settles (h : s.Sound) {d : Draft} (hd : op.draft s = .ok d) : d.Settles (op.apply s) := by
  have hfits := op.fits s
  rw [Operation.Fits, hd] at hfits
  generalize hr : op.apply s = r at hfits
  cases hfits with
  | performed t => exact .accepted (h.apply hr).isAccepted rfl
  | broken hnull hnot => exact .refused hnot

theorem writesNull_of_apply (h : op.apply s = .error .nullColumn) : op.WritesNull s := by
  have hfits := op.fits s
  rw [Operation.Fits, h] at hfits
  generalize op.draft s = d at hfits
  cases hfits with
  | refused hne => exact absurd rfl hne
  | broken hnull => exact hnull

theorem find?_eq_some_of_unique {α : Type} {l : List α} {p : α → Bool} {a : α} (ha : a ∈ l)
    (hp : p a = true) (h : ∀ b ∈ l, p b = true → b = a) : l.find? p = some a := by
  cases hfound : l.find? p with
  | none => exact absurd hp (List.find?_eq_none.1 hfound a ha)
  | some b => rw [h b (List.mem_of_find?_eq_some hfound) (List.find?_some hfound)]

theorem Sound.environment?_eq_some (h : s.Sound) {e : EnvironmentRow} (he : e ∈ s.environments) :
    s.environment? e.id = some e :=
  find?_eq_some_of_unique he (beq_self_eq_true (e.id : Int)) fun _ hd hid =>
    h.eq_of_id hd he (Int.ofNat_inj.1 (beq_iff_eq.1 hid))

theorem Sound.variableRow?_eq_some (h : s.Sound) {v : VariableRow} (hv : v ∈ s.variableRows) :
    s.variableRow? v.id = some v :=
  find?_eq_some_of_unique hv (beq_self_eq_true (v.id : Int)) fun _ hw hid =>
    h.eq_of_rowId hw hv (Int.ofNat_inj.1 (beq_iff_eq.1 hid))

theorem Sound.apply_eq_nullColumn_iff (h : s.Sound) :
    op.apply s = .error .nullColumn ↔ op.WritesNull s := by
  refine ⟨writesNull_of_apply, fun hnull => ?_⟩
  cases op with
  | update id changes =>
    obtain ⟨hnull, e, he, rfl, hallowed⟩ := hnull
    have hrow : changes.apply? e = none := EnvironmentChanges.apply?_eq_none_iff.2 hnull
    rw [Operation.apply, Store.update, h.environment?_eq_some he]
    dsimp only
    rw [if_neg (by simpa using hallowed), hrow]
    rfl
  | updateVariable id changes =>
    obtain ⟨hnull, v, hv, rfl⟩ := hnull
    have hrow : changes.apply? v = none := VariableChanges.apply?_eq_none_iff.2 hnull
    rw [Operation.apply, Store.updateVariable, h.variableRow?_eq_some hv]
    dsimp only
    rw [hrow]
    rfl
  | _ => cases hnull

theorem Sound.writesNull_iff (h : s.Sound) :
    op.WritesNull s ↔ op.HasNull ∧ ∃ d, op.draft s = .ok d := by
  cases op with
  | update id changes =>
    refine and_congr_right fun _ => ⟨?_, ?_⟩
    · rintro ⟨e, he, rfl, hallowed⟩
      rw [Operation.draft, h.environment?_eq_some he]
      dsimp only
      rw [if_neg (by simpa using hallowed)]
      exact ⟨_, rfl⟩
    · rintro ⟨d, hd⟩
      rw [Operation.draft] at hd
      cases hfound : s.environment? id with
      | none =>
        rw [hfound] at hd
        cases hd
      | some e =>
        rw [hfound] at hd
        obtain ⟨he, hid⟩ := mem_of_environment? hfound
        refine ⟨e, he, hid, fun hshared => ?_⟩
        dsimp only at hd
        rw [if_pos (by simpa using hshared)] at hd
        cases hd
  | updateVariable id changes =>
    refine and_congr_right fun _ => ⟨?_, ?_⟩
    · rintro ⟨v, hv, rfl⟩
      rw [Operation.draft, h.variableRow?_eq_some hv]
      exact ⟨_, rfl⟩
    · rintro ⟨d, hd⟩
      rw [Operation.draft] at hd
      cases hfound : s.variableRow? id with
      | none =>
        rw [hfound] at hd
        cases hd
      | some v => exact ⟨v, mem_of_variableRow? hfound⟩
  | _ => exact iff_of_false id fun hnull => hnull.1

theorem Sound.isAccepted_iff (h : s.Sound) {d : Draft} (hd : op.draft s = .ok d) :
    d.IsAccepted ↔ ¬op.WritesNull s := by
  have hsettles := h.settles hd
  rw [← h.apply_eq_nullColumn_iff]
  generalize op.apply s = r at hsettles
  cases hsettles with
  | accepted haccepted ht => simpa using haccepted
  | refused hnot => simpa using hnot

theorem Sound.draft_eq (h : s.Sound) {d : Draft} (hd : op.draft s = .ok d) (haccepted : d.IsAccepted) :
    ∃ t, op.apply s = .ok t ∧ d = .ofStore t := by
  have hsettles := h.settles hd
  generalize op.apply s = r at hsettles
  cases hsettles with
  | accepted _ ht => exact ⟨_, rfl, ht⟩
  | refused hnot => exact absurd haccepted hnot

end Settled

end Store

end TemplatedRequests
