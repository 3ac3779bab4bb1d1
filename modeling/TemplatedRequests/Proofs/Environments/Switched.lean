import TemplatedRequests.Environments
import TemplatedRequests.Proofs.Scopes.Listed

/-!
Environments that are added, replaced and switched, and the scopes that are made of them. The active name
is always the name of an environment that is there. What the environments give for a name is what the
scopes give when neither the request nor its document defines the name, whichever environment is active,
and also when the active one does not exist.
-/

namespace TemplatedRequests.Environments

/-- Adding an environment takes the place of another one with its name. -/
inductive Change where
  | add (environment : NamedEnvironment)
  | activate (name : String)

def perform (e : Environments) : Change → Environments × Bool
  | .add environment => (e.add environment, true)
  | .activate name => match e.activate? name with
    | some f => (f, true)
    | none => (e, false)

def performAll (e : Environments) (changes : List Change) : Environments :=
  changes.foldl (fun e c => (e.perform c).1) e

/-- The active environment is there, and environments stand under their names. -/
structure IsSound (e : Environments) : Prop where
  active : e.active = none ∨ ∃ name, e.active = some name ∧ e.environments.contains name = true
  name_eq : ∀ key environment, e.environments.get? key = some environment → environment.name = key

variable {e : Environments} {environment : NamedEnvironment} {name : String}

section Steps

theorem perform_activate (e : Environments) (name : String) : e.perform (.activate name) =
    if e.environments.contains name then ({ e with active := some name }, true) else (e, false) := by
  rw [perform, activate?]
  cases e.environments.contains name <;> rfl

theorem IsSound.add (h : e.IsSound) : (e.add environment).IsSound where
  active := by
    obtain hnone | ⟨name, hname, hmem⟩ := h.active
    · exact .inl hnone
    · refine .inr ⟨name, hname, ?_⟩
      rw [Environments.add, OrderedMap.contains, OrderedMap.get?_insert]
      split
      · rfl
      · exact hmem
  name_eq key other := by
    rw [Environments.add, OrderedMap.get?_insert]
    split <;> rename_i hkey
    · rintro ⟨⟩
      exact hkey.symm
    · exact h.name_eq key other

theorem IsSound.perform (h : e.IsSound) (c : Change) : (e.perform c).1.IsSound := by
  cases c with
  | add environment => exact h.add
  | activate name =>
    rw [perform_activate]
    split <;> rename_i hname
    · exact ⟨.inr ⟨name, rfl, hname⟩, h.name_eq⟩
    · exact h

theorem IsSound.performAll (h : e.IsSound) (changes : List Change) : (e.performAll changes).IsSound := by
  induction changes generalizing e with
  | nil => exact h
  | cons c changes ih => exact ih (h.perform c)

theorem isSound_initial (shared : Bindings) : IsSound { shared } where
  active := .inl rfl
  name_eq _ _ h := by cases h

end Steps

section Seen

variable (e : Environments) (file request : Bindings) (name : String)

theorem get?_activeVariables : e.activeVariables.get? name = e.active?.bind (·.bindings.get? name) := by
  rw [activeVariables]
  cases e.active? <;> rfl

theorem value?_eq : e.value? name = (e.activeVariables.get? name).or (e.shared.get? name) := by
  rw [value?, get?_activeVariables]
  cases e.active? with
  | none => rfl
  | some a =>
    cases h : a.bindings.get? name <;> simp [OrderedMap.contains, h]

theorem lookup?_scopes : (e.scopes file request).lookup? name =
    (request.get? name).or ((file.get? name).or (e.value? name)) := by
  rw [Scopes.lookup?_eq, value?_eq]
  rfl

theorem sourceOf?_scopes_iff : (e.scopes file request).sourceOf? name = some .environment ↔
    request.contains name = false ∧ file.contains name = false ∧
      ∃ a, e.active? = some a ∧ a.bindings.contains name = true := by
  have hdefines : e.activeVariables.contains name = true ↔
      ∃ a, e.active? = some a ∧ a.bindings.contains name = true := by
    rw [OrderedMap.contains, get?_activeVariables]
    cases e.active? <;> simp [OrderedMap.contains]
  rw [Scopes.sourceOf?_eq_some_iff, ← hdefines]
  constructor
  · intro h
    exact ⟨h.earlier .request (by decide), h.earlier .file (by decide), h.defines⟩
  · rintro ⟨hrequest, hfile, henvironment⟩
    refine ⟨henvironment, fun k hk => ?_⟩
    cases k with
    | request => exact hrequest
    | file => exact hfile
    | environment => exact absurd hk (by decide)
    | shared => exact absurd hk (by decide)

end Seen

/-- After any changes the active environment is there and environments stand under their names; a name
that none of them has is not made active, and then nothing changes. For environments in any state, also
with an active name that none of them has, a name that is looked up has its value from the request, from
the document or else from the environments, and it comes from the active environment exactly if this
defines it and the request and the document do not. -/
theorem scopes_of_performAll (shared : Bindings) (changes : List Change) :
    IsSound (performAll { shared } changes) ∧
    (∀ name, let e := performAll { shared } changes
      ((e.perform (.activate name)).2 = false → (e.perform (.activate name)).1 = e) ∧
      ((e.perform (.activate name)).2 = true ↔ e.environments.contains name = true)) ∧
    ∀ (e : Environments) (file request : Bindings) (name : String),
      (e.scopes file request).lookup? name =
        (request.get? name).or ((file.get? name).or (e.value? name)) ∧
      ((e.scopes file request).sourceOf? name = some .environment ↔
        request.contains name = false ∧ file.contains name = false ∧
          ∃ a, e.active? = some a ∧ a.bindings.contains name = true) := by
  refine ⟨(isSound_initial shared).performAll changes, fun name => ?_, fun e file request name => ?_⟩
  · dsimp only
    rw [perform_activate]
    split <;> rename_i hname
    · exact ⟨fun h => absurd h.symm Bool.false_ne_true, iff_of_true rfl hname⟩
    · exact ⟨fun _ => rfl, iff_of_false Bool.false_ne_true hname⟩
  · exact ⟨lookup?_scopes e file request name, sourceOf?_scopes_iff e file request name⟩

/-- Switched on, replaced, and not switched to another one that is not there. -/
def replaced : List Change := [
  .add ⟨"dev", .ofEntries [("host", "one")]⟩, .activate "dev",
  .add ⟨"dev", .ofEntries [("host", "two")]⟩, .activate "test"]

/-- The value of the environment that took the place of the active one. -/
theorem scopes_replaced :
    let e := performAll { shared := .ofEntries [("host", "none")] } replaced
    e.active = some "dev" ∧ (e.perform (.activate "test")).1 = e ∧
      (e.scopes ∅ ∅).lookup? "host" = some "two" ∧
      (e.scopes ∅ ∅).sourceOf? "host" = some .environment := by
  intro e
  obtain ⟨-, hrefused, hseen⟩ := scopes_of_performAll (.ofEntries [("host", "none")]) replaced
  obtain ⟨hlookup, hsource⟩ := hseen e ∅ ∅ "host"
  refine ⟨rfl, (hrefused "test").1 rfl, hlookup.trans (by decide), hsource.2 ⟨rfl, rfl, ?_⟩⟩
  exact ⟨⟨"dev", .ofEntries [("host", "two")]⟩, rfl, by decide⟩

end TemplatedRequests.Environments
