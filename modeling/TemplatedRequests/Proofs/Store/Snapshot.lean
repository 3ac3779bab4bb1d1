import Mathlib.Data.List.Induction
import TemplatedRequests.Proofs.Store.Reachable

/-!
Which variables a snapshot shows as those of the active environment. The environment is chosen by
its number or as the stored one, and is then looked up by its name, so what is seen are the
variables of the last environment of that name.
-/

namespace TemplatedRequests.Store

variable (s : Store)

def lastNamed? (name : String) (rows : List EnvironmentRow) : Option EnvironmentRow :=
  rows.reverse.find? fun e => !e.isShared && e.name == name

/-- The last environment that is to be active and is not shared. -/
def lastChosen? (id? : Option Int) (rows : List EnvironmentRow) : Option EnvironmentRow :=
  rows.reverse.find? fun e => !e.isShared && isChosen id? e

/-- The variables that are seen as those of the active environment. -/
def activeVariables (id? : Option Int) : Except Refusal Bindings :=
  (s.snapshot id?).map Environments.activeVariables

section Lookup

variable (id? : Option Int) (rows : List EnvironmentRow)

theorem reverse_find?_append (p : EnvironmentRow → Bool) (e : EnvironmentRow) :
    (rows ++ [e]).reverse.find? p = if p e then some e else rows.reverse.find? p := by
  rw [List.reverse_concat, List.find?_cons]
  cases p e <;> rfl

theorem lastNamed?_append (name : String) (e : EnvironmentRow) :
    lastNamed? name (rows ++ [e]) =
      if !e.isShared && e.name == name then some e else lastNamed? name rows :=
  reverse_find?_append rows _ e

theorem lastChosen?_append (e : EnvironmentRow) :
    lastChosen? id? (rows ++ [e]) =
      if !e.isShared && isChosen id? e then some e else lastChosen? id? rows :=
  reverse_find?_append rows _ e

theorem get?_foldl_addToSnapshot (name : String) :
    (rows.foldl (s.addToSnapshot id?) ({}, none)).1.environments.get? name =
      (lastNamed? name rows).map fun e => ⟨e.name, s.bindingsOf e.id⟩ := by
  induction rows using List.reverseRecOn with
  | nil => rfl
  | append_singleton rows e ih =>
    rw [List.foldl_append, lastNamed?_append, List.foldl_cons, List.foldl_nil, addToSnapshot]
    cases he : e.isShared with
    | true => simp [ih]
    | false =>
      by_cases hn : name = e.name
      · simp [Environments.add, hn]
      · simp [Environments.add, hn, Ne.symm hn, ih]

theorem active_foldl_addToSnapshot :
    (rows.foldl (s.addToSnapshot id?) ({}, none)).1.active = none ∧
      (rows.foldl (s.addToSnapshot id?) ({}, none)).2 = (lastChosen? id? rows).map (·.name) := by
  induction rows using List.reverseRecOn with
  | nil => exact ⟨rfl, rfl⟩
  | append_singleton rows e ih =>
    rw [List.foldl_append, lastChosen?_append, List.foldl_cons, List.foldl_nil, addToSnapshot]
    obtain ⟨ha, hc⟩ := ih
    cases he : e.isShared with
    | true => simp [ha, hc]
    | false =>
      by_cases hs : isChosen id? e = true
      · simp [Environments.add, hs, ha]
      · simp [Environments.add, hs, ha, hc]

end Lookup

section Active

variable {s} {id? : Option Int} {rows : List EnvironmentRow}

/-- The environment is chosen first and looked up by its name afterwards. -/
theorem activeVariables_of_chosen {e d : EnvironmentRow}
    (hc : lastChosen? id? s.environments = some e)
    (hd : lastNamed? e.name s.environments = some d) :
    s.activeVariables id? = .ok (s.bindingsOf d.id) := by
  have hget := get?_foldl_addToSnapshot s id? s.environments e.name
  obtain ⟨-, hname⟩ := active_foldl_addToSnapshot s id? s.environments
  unfold activeVariables snapshot
  generalize s.environments.foldl (s.addToSnapshot id?) ({}, none) = p at hget hname
  obtain ⟨environments, active⟩ := p
  rw [hd] at hget
  rw [hc] at hname
  obtain rfl : active = some e.name := hname
  have hget : environments.environments.get? e.name = some ⟨d.name, s.bindingsOf d.id⟩ := hget
  have hactivate : environments.activate? e.name =
      some { environments with active := some e.name } := by
    simp [Environments.activate?, OrderedMap.contains, hget]
  cases id? <;>
    simp [Except.map, hactivate, Environments.activeVariables, Environments.active?, hget]

theorem activeVariables_of_none (hc : lastChosen? id? s.environments = none) :
    s.activeVariables id? = match id? with
      | some id => .error (.noEnvironment id)
      | none => .ok ∅ := by
  obtain ⟨ha, hname⟩ := active_foldl_addToSnapshot s id? s.environments
  unfold activeVariables snapshot
  generalize s.environments.foldl (s.addToSnapshot id?) ({}, none) = p at ha hname
  obtain ⟨environments, active⟩ := p
  rw [hc] at hname
  obtain rfl : active = none := hname
  cases id? with
  | some id => rfl
  | none =>
    have ha : environments.active = none := ha
    simp [Except.map, Environments.activeVariables, Environments.active?, ha]

theorem reverse_find?_of_unique {p : EnvironmentRow → Bool} {e : EnvironmentRow} (he : e ∈ rows)
    (hp : p e = true) (hu : ∀ d ∈ rows, p d = true → d = e) : rows.reverse.find? p = some e := by
  have hsome : (rows.reverse.find? p).isSome = true := by
    rw [List.find?_isSome]
    exact ⟨e, List.mem_reverse.2 he, hp⟩
  obtain ⟨d, hd⟩ := Option.isSome_iff_exists.1 hsome
  rw [hd, hu d (List.mem_reverse.1 (List.mem_of_find?_eq_some hd)) (List.find?_some hd)]

theorem exists_lastNamed? {e : EnvironmentRow} (he : e ∈ rows) (hs : e.isShared = false) :
    ∃ d, lastNamed? e.name rows = some d := by
  rw [← Option.isSome_iff_exists, lastNamed?, List.find?_isSome]
  exact ⟨e, List.mem_reverse.2 he, by simp [hs]⟩

variable (h : s.Sound)
include h

theorem Sound.lastChosen?_some {e : EnvironmentRow} (he : e ∈ s.environments)
    (hs : e.isShared = false) : lastChosen? (some (e.id : Int)) s.environments = some e := by
  refine reverse_find?_of_unique he (by simp [hs, isChosen]) fun d hd hp => ?_
  simp only [isChosen, Bool.and_eq_true, beq_iff_eq] at hp
  exact h.eq_of_id hd he (by omega)

theorem Sound.lastChosen?_none {e : EnvironmentRow} (he : e ∈ s.environments)
    (ha : e.isActive = true) : lastChosen? none s.environments = some e := by
  refine reverse_find?_of_unique he (by simp [isChosen, ha, h.notShared e he ha])
    fun d hd hp => ?_
  simp only [isChosen, Bool.and_eq_true] at hp
  exact h.eq_of_id hd he (h.oneActive d hd e he hp.2 ha)

end Active

def IsSeen (e : EnvironmentRow) : Prop :=
  ∀ d, lastNamed? e.name s.environments = some d → s.bindingsOf d.id = s.bindingsOf e.id

section Seen

variable {s} {id? : Option Int}

theorem activeVariables_eq_ok_iff {e : EnvironmentRow} (he : e ∈ s.environments)
    (hs : e.isShared = false) (hc : lastChosen? id? s.environments = some e) :
    s.activeVariables id? = .ok (s.bindingsOf e.id) ↔ s.IsSeen e := by
  obtain ⟨d, hd⟩ := exists_lastNamed? he hs
  rw [activeVariables_of_chosen hc hd, Except.ok.injEq]
  constructor
  · intro hb d' hd'
    obtain rfl := Option.some.inj (hd.symm.trans hd')
    exact hb
  · intro hseen
    exact hseen d hd

end Seen

/-- An environment that is asked for, or active, lends its own variables exactly if it is seen, and
none are lent if none is active. -/
theorem activeVariables_of_reachable {s : Store} (h : s.Reachable) :
    (∀ e ∈ s.environments, e.isShared = false →
      (s.activeVariables (some (e.id : Int)) = .ok (s.bindingsOf e.id) ↔ s.IsSeen e)) ∧
    (∀ e ∈ s.environments, e.isActive = true →
      (s.activeVariables none = .ok (s.bindingsOf e.id) ↔ s.IsSeen e)) ∧
    ((∀ e ∈ s.environments, e.isActive = false) → s.activeVariables none = .ok ∅) := by
  refine ⟨fun e he hs => ?_, fun e he ha => ?_, fun hn => ?_⟩
  · exact activeVariables_eq_ok_iff he hs (h.sound.lastChosen?_some he hs)
  · exact activeVariables_eq_ok_iff he (h.sound.notShared e he ha)
      (h.sound.lastChosen?_none he ha)
  · refine activeVariables_of_none (List.find?_eq_none.2 fun e he => ?_)
    simp [isChosen, hn e (List.mem_reverse.1 he)]

section TwoEnvironments

/-- Two environments with a host each, the first of them active. -/
def twoHosts (first second : String) : Store where
  environments := [⟨1, first, true, false⟩, ⟨2, second, false, false⟩]
  variableRows := [⟨1, 1, "host", "one"⟩, ⟨2, 2, "host", "two"⟩]

theorem reachable_twoHosts (first second : String) : (twoHosts first second).Reachable :=
  .perform (.create ⟨second, false, false, [("host", "two")]⟩)
    (.perform (.create ⟨first, true, false, [("host", "one")]⟩) .empty)

theorem activeVariables_twoHosts :
    (twoHosts "dev" "prod").activeVariables (some 1) = .ok (.ofEntries [("host", "one")]) ∧
      (twoHosts "dev" "prod").activeVariables (some 2) = .ok (.ofEntries [("host", "two")]) ∧
      (twoHosts "dev" "prod").activeVariables none = .ok (.ofEntries [("host", "one")]) := by
  obtain ⟨requested, stored, -⟩ := activeVariables_of_reachable (reachable_twoHosts "dev" "prod")
  have hdev : (twoHosts "dev" "prod").IsSeen ⟨1, "dev", true, false⟩ := by
    intro d hd
    cases hd
    rfl
  have hprod : (twoHosts "dev" "prod").IsSeen ⟨2, "prod", false, false⟩ := by
    intro d hd
    cases hd
    rfl
  exact ⟨(requested _ List.mem_cons_self rfl).2 hdev,
    (requested _ (List.mem_cons_of_mem _ List.mem_cons_self) rfl).2 hprod,
    (stored _ List.mem_cons_self rfl).2 hdev⟩

/-- Of two environments with one name the first is never seen. -/
theorem not_forall_activeVariables_eq :
    ¬ ∀ s : Store, s.Reachable → ∀ e ∈ s.environments, e.isShared = false →
      s.activeVariables (some (e.id : Int)) = .ok (s.bindingsOf e.id) := by
  intro h
  have heq := h _ (reachable_twoHosts "dev" "dev") ⟨1, "dev", true, false⟩ List.mem_cons_self rfl
  have hget := congrArg (fun r => r.toOption.bind (·.get? "host")) heq
  exact absurd hget (by decide +kernel)

end TwoEnvironments

end TemplatedRequests.Store
