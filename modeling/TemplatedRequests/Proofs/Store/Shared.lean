import TemplatedRequests.Proofs.OrderedMap.Merged
import TemplatedRequests.Proofs.Store.Snapshot

/-!
Which variables a snapshot shows as shared. They are those of all shared environments, one environment
over the other, whichever environment is active or asked for.
-/

namespace TemplatedRequests

/-- The order of environments, and within an environment that of its variables. -/
def VariableRow.Before (v w : VariableRow) : Prop :=
  v.environmentId < w.environmentId ∨ v.environmentId = w.environmentId ∧ v.id < w.id

theorem VariableRow.Before.asymm {v w : VariableRow} (h : v.Before w) : ¬ w.Before v := by
  unfold VariableRow.Before at *
  omega

namespace Store

variable {s : Store}

def IsShared (s : Store) (v : VariableRow) : Prop :=
  v ∈ s.variableRows ∧ ∃ e ∈ s.environments, e.isShared = true ∧ e.id = v.environmentId

/-- The last variable with a key among those of shared environments. -/
structure IsLastShared (s : Store) (key : String) (v : VariableRow) : Prop where
  isShared : s.IsShared v
  key_eq : v.key = key
  last : ∀ w, s.IsShared w → w.key = key → w = v ∨ w.Before v

def sharedRows (s : Store) : List VariableRow :=
  (s.environments.filter (·.isShared)).flatMap fun e => s.variablesOf e.id

section Rows

theorem mem_sharedRows {v : VariableRow} : v ∈ s.sharedRows ↔ s.IsShared v := by
  simp only [sharedRows, variablesOf, List.mem_flatMap, List.mem_filter, beq_iff_eq, IsShared]
  constructor
  · rintro ⟨e, ⟨he, hs⟩, hv, hid⟩
    exact ⟨hv, e, he, hs, hid.symm⟩
  · rintro ⟨hv, e, he, hs, hid⟩
    exact ⟨e, ⟨he, hs⟩, hv, hid.symm⟩

theorem Sound.pairwise_sharedRows (h : s.Sound) : s.sharedRows.Pairwise VariableRow.Before := by
  have howner : ∀ {id : Nat} {v : VariableRow}, v ∈ s.variablesOf id → v.environmentId = id := by
    intro id v hv
    simpa [variablesOf] using (List.mem_filter.1 hv).2
  refine List.pairwise_flatMap.2 ⟨fun e _ => ?_, (h.ordered.filter _).imp fun hlt v hv w hw => ?_⟩
  · refine ((h.rowsOrdered.filter _).imp_of_mem fun hv hw hlt => .inr ⟨?_, hlt⟩)
    rw [howner hv, howner hw]
  · rw [VariableRow.Before, howner hv, howner hw]
    exact .inl hlt

theorem sharedRows_deactivateAll : s.deactivateAll.sharedRows = s.sharedRows := by
  simp [sharedRows, deactivateAll, List.filter_map, List.flatMap_map, variablesOf, Function.comp_def]

/-- In an ordered list the last element of a kind is the one that all others of the kind stand before. -/
theorem reverse_find?_eq_some_iff {rows : List VariableRow} (h : rows.Pairwise VariableRow.Before)
    {p : VariableRow → Bool} {v : VariableRow} : rows.reverse.find? p = some v ↔
      v ∈ rows ∧ p v = true ∧ ∀ w ∈ rows, p w = true → w = v ∨ w.Before v := by
  constructor
  · intro hfind
    obtain ⟨hp, after, before, hrows, hafter⟩ := List.find?_eq_some_iff_append.1 hfind
    have hrows : rows = before.reverse ++ v :: after.reverse := by
      rw [← List.reverse_reverse rows, hrows]
      simp
    rw [hrows] at h
    refine ⟨by simp [hrows], hp, fun w hw hpw => ?_⟩
    rw [hrows] at hw
    rcases List.mem_append.1 hw with hw | hw
    · exact .inr ((List.pairwise_append.1 h).2.2 w hw v List.mem_cons_self)
    · rcases List.mem_cons.1 hw with rfl | hw
      · exact .inl rfl
      · have hno := hafter w (List.mem_reverse.1 hw)
        simp [hpw] at hno
  · rintro ⟨hv, hp, hlast⟩
    obtain ⟨before, after, rfl⟩ := List.append_of_mem hv
    have hpairs := (List.pairwise_append.1 h).2.1
    refine List.find?_eq_some_iff_append.2 ⟨hp, after.reverse, before.reverse, by simp, ?_⟩
    intro w hw
    have hvw : v.Before w := List.rel_of_pairwise_cons hpairs (List.mem_reverse.1 hw)
    rw [Bool.not_eq_true', ← Bool.not_eq_true]
    intro hpw
    rcases hlast w (by simp [List.mem_reverse.1 hw]) hpw with rfl | hwv
    · exact hvw.asymm hvw
    · exact hvw.asymm hwv

end Rows

section Snapshot

variable {id? : Option Int} {e : Environments}

theorem fields_of_snapshot (h : s.snapshot id? = .ok e) :
    let gathered := (s.environments.foldl (s.addToSnapshot id?) ({}, none)).1
    e.environments = gathered.environments ∧ e.shared = gathered.shared := by
  unfold snapshot at h
  generalize s.environments.foldl (s.addToSnapshot id?) ({}, none) = p at h
  obtain ⟨gathered, active⟩ := p
  have hactivated : ∀ name, ((gathered.activate? name).getD gathered).environments =
      gathered.environments ∧ ((gathered.activate? name).getD gathered).shared = gathered.shared := by
    intro name
    unfold Environments.activate?
    split <;> exact ⟨rfl, rfl⟩
  cases active with
  | none =>
    cases id? with
    | none =>
      cases h
      exact ⟨rfl, rfl⟩
    | some id => cases h
  | some name =>
    have h : (gathered.activate? name).getD gathered = e := by
      cases id? <;> exact Except.ok.inj h
    rw [← h]
    exact hactivated name

theorem shared_foldl_addToSnapshot (rows : List EnvironmentRow) :
    (rows.foldl (s.addToSnapshot id?) ({}, none)).1.shared = .ofEntries
      (((rows.filter (·.isShared)).flatMap fun e => s.variablesOf e.id).map
        fun v => (v.key, v.value)) := by
  induction rows using List.reverseRecOn with
  | nil => rfl
  | append_singleton rows e ih =>
    rw [List.foldl_append, List.foldl_cons, List.foldl_nil, addToSnapshot, List.filter_append]
    cases he : e.isShared with
    | false => simp [Environments.add, ih, he]
    | true => simp [ih, he, bindingsOf, OrderedMap.ofEntries_append]

theorem shared_of_snapshot (h : s.snapshot id? = .ok e) :
    e.shared = .ofEntries (s.sharedRows.map fun v => (v.key, v.value)) :=
  (fields_of_snapshot h).2.trans (shared_foldl_addToSnapshot s.environments)

theorem get?_of_snapshot (h : s.snapshot id? = .ok e) (name : String) :
    e.environments.get? name =
      (lastNamed? name s.environments).map fun d => ⟨d.name, s.bindingsOf d.id⟩ := by
  rw [(fields_of_snapshot h).1]
  exact get?_foldl_addToSnapshot s id? s.environments name

theorem get?_ofEntries_rows (rows : List VariableRow) (key : String) :
    (OrderedMap.ofEntries (rows.map fun v => (v.key, v.value))).get? key =
      (rows.reverse.find? fun v => v.key = key).map (·.value) := by
  rw [OrderedMap.get?_ofEntries, ← List.map_reverse, List.find?_map, Option.map_map]
  rfl

theorem Sound.get?_shared_iff (h : s.Sound) (he : s.snapshot id? = .ok e) {key value : String} :
    e.shared.get? key = some value ↔ ∃ v, s.IsLastShared key v ∧ v.value = value := by
  rw [shared_of_snapshot he, get?_ofEntries_rows, Option.map_eq_some_iff]
  refine exists_congr fun v => and_congr_left fun _ => ?_
  rw [reverse_find?_eq_some_iff h.pairwise_sharedRows]
  simp only [mem_sharedRows, decide_eq_true_eq]
  exact ⟨fun ⟨hs, hk, hl⟩ => ⟨hs, hk, hl⟩, fun ⟨hs, hk, hl⟩ => ⟨hs, hk, hl⟩⟩

theorem contains_shared_iff (he : s.snapshot id? = .ok e) {key : String} :
    e.shared.contains key = true ↔ ∃ v, s.IsShared v ∧ v.key = key := by
  rw [OrderedMap.contains_iff_mem_names, shared_of_snapshot he, OrderedMap.names_ofEntries,
    List.mem_eraseDups, List.map_map, List.mem_map]
  simp only [mem_sharedRows, Function.comp_apply]

end Snapshot

/-- The shared variables of a snapshot are those of the shared environments, in the order of environments
and in each of its variables, and of those with one key the last one counts. The named environments are
others than those. Which environment is active or asked for makes no difference for what is shared. -/
theorem shared_of_reachable {s : Store} (h : s.Reachable) {id? : Option Int} {e : Environments}
    (he : s.snapshot id? = .ok e) :
    (∀ key, e.shared.contains key = true ↔ ∃ v, s.IsShared v ∧ v.key = key) ∧
    (∀ key value, e.shared.get? key = some value ↔ ∃ v, s.IsLastShared key v ∧ v.value = value) ∧
    (∃ rows : List VariableRow, rows.Pairwise VariableRow.Before ∧ (∀ v, v ∈ rows ↔ s.IsShared v) ∧
      e.shared = .ofEntries (rows.map fun v => (v.key, v.value))) ∧
    (∀ name found, e.environments.get? name = some found → ∃ d ∈ s.environments,
      d.isShared = false ∧ d.name = name ∧ found = ⟨name, s.bindingsOf d.id⟩) ∧
    ∀ t : Store, t.deactivateAll = s.deactivateAll → ∀ other? (f : Environments),
      t.snapshot other? = .ok f → f.shared = e.shared := by
  refine ⟨fun _ => contains_shared_iff he, fun _ _ => h.sound.get?_shared_iff he,
    ⟨s.sharedRows, h.sound.pairwise_sharedRows, fun _ => mem_sharedRows, shared_of_snapshot he⟩,
    fun name found hfound => ?_, fun t ht other? f hf => ?_⟩
  · rw [get?_of_snapshot he] at hfound
    obtain ⟨d, hd, rfl⟩ := Option.map_eq_some_iff.1 hfound
    have hnamed := List.find?_some hd
    simp only [Bool.and_eq_true, Bool.not_eq_true', beq_iff_eq] at hnamed
    obtain ⟨hs, rfl⟩ := hnamed
    exact ⟨d, List.mem_reverse.1 (List.mem_of_find?_eq_some hd), hs, rfl, rfl⟩
  · rw [shared_of_snapshot hf, shared_of_snapshot he, ← sharedRows_deactivateAll, ht,
      sharedRows_deactivateAll]

section Overlaid

/-- Two shared environments with a host, the first of which was not shared at first, and two others; one
of these has the name of the shared ones, and the other one is active. -/
def overlaid : Store where
  environments := [⟨1, "common", false, true⟩, ⟨2, "dev", true, false⟩, ⟨3, "common", false, true⟩,
    ⟨4, "common", false, false⟩]
  variableRows := [⟨1, 1, "host", "one"⟩, ⟨2, 2, "host", "dev"⟩, ⟨3, 3, "host", "two"⟩,
    ⟨4, 3, "host", "three"⟩, ⟨5, 4, "secret", "s"⟩, ⟨6, 1, "host", "four"⟩]

theorem reachable_overlaid : overlaid.Reachable :=
  .perform (.addVariable 1 "host" "four")
    (.perform (.create ⟨"common", false, false, [("secret", "s")]⟩)
      (.perform (.create ⟨"common", false, true, [("host", "two"), ("host", "three")]⟩)
        (.perform (.create ⟨"dev", true, false, [("host", "dev")]⟩)
          (.perform (.update 1 { isShared := .set true })
            (.perform (.create ⟨"common", false, false, [("host", "one")]⟩) .empty)))))

theorem isLastShared_overlaid : overlaid.IsLastShared "host" ⟨4, 3, "host", "three"⟩ where
  isShared := ⟨by decide, ⟨3, "common", false, true⟩, by decide, rfl, rfl⟩
  key_eq := rfl
  last := by
    have hall : ∀ w ∈ overlaid.variableRows, w.key = "host" → w = ⟨4, 3, "host", "three"⟩ ∨
        w.environmentId < 3 ∨ w.environmentId = 3 ∧ w.id < 4 := by decide
    exact fun w hw hkey => hall w hw.1 hkey

/-- The last host is not that of the row that was added last. -/
theorem shared_overlaid : ∃ e, overlaid.snapshot (some 4) = .ok e ∧
    e.shared.get? "host" = some "three" ∧ e.shared.contains "secret" = false := by
  obtain ⟨e, he⟩ : ∃ e, overlaid.snapshot (some 4) = .ok e := ⟨_, rfl⟩
  obtain ⟨hdefined, hvalue, -⟩ := shared_of_reachable reachable_overlaid he
  refine ⟨e, he, (hvalue "host" "three").2 ⟨_, isLastShared_overlaid, rfl⟩, ?_⟩
  have hsecret : ∀ v ∈ overlaid.variableRows, v.key = "secret" → ∀ d ∈ overlaid.environments,
      d.isShared = true → d.id ≠ v.environmentId := by decide
  rw [← Bool.not_eq_true, hdefined]
  rintro ⟨v, ⟨hv, d, hd, hs, hid⟩, hkey⟩
  exact hsecret v hv hkey d hd hs hid

end Overlaid

end Store

end TemplatedRequests
