import Mathlib.Logic.Function.Basic
import TemplatedRequests.Proofs.OrderedMap.Merged
import TemplatedRequests.Proofs.Sessions.Memory
import TemplatedRequests.Proofs.Template.Undefined

/-!
Captured values laid over scopes. They are looked up before everything else, and nothing else changes:
not the other layers, and not the scopes that they are laid over, since all maps are copied. Values that
are seen already make no difference to any text.
-/

namespace TemplatedRequests

namespace Scopes

/-- Scopes in which values lie over the request layer of others. -/
structure Overlays (s : Scopes) (values : Bindings) (t : Scopes) : Prop where
  lookup : ∀ name, t.lookup? name = (values.get? name).or (s.lookup? name)
  request : ∀ name, t.sourceOf? name = some .request ↔
    values.contains name = true ∨ s.request.contains name = true
  source : ∀ name, values.contains name = false → s.request.contains name = false →
    t.sourceOf? name = s.sourceOf? name
  layer : ∀ l, l ≠ .request → t.layer l = s.layer l

variable {s t : Scopes} {values : Bindings} {name : String}

theorem sourceOf?_eq (s : Scopes) (name : String) : s.sourceOf? name =
    if s.request.contains name then some .request
    else [Source.file, .environment, .shared].find? fun l => (s.layer l).contains name := by
  rw [sourceOf?, Source.all, List.find?_cons, layer]
  cases s.request.contains name <;> rfl

theorem sourceOf?_eq_request_iff :
    s.sourceOf? name = some .request ↔ s.request.contains name = true := by
  rw [sourceOf?_eq]
  split <;> rename_i h
  · exact iff_of_true rfl h
  · refine iff_of_false (fun hf => ?_) h
    have := List.mem_of_find?_eq_some hf
    simp at this

theorem overlays_withCaptured (s : Scopes) (values : Bindings) :
    s.Overlays values (s.withCaptured values) where
  lookup name := by
    rw [lookup?_eq, lookup?_eq, withCaptured, OrderedMap.get?_update, Option.or_assoc]
  request name := by
    rw [sourceOf?_eq_request_iff, withCaptured, OrderedMap.contains_update, Bool.or_eq_true]
  source name hv hr := by
    have hnone : (s.withCaptured values).request.contains name = false := by
      rw [withCaptured, OrderedMap.contains_update, hv, hr, Bool.false_or]
    rw [sourceOf?_eq, sourceOf?_eq, hnone, hr]
    rfl
  layer l hl := by
    cases l with
    | request => exact absurd rfl hl
    | _ => rfl

theorem withCaptured_withCaptured (s : Scopes) (a b : Bindings) :
    (s.withCaptured a).withCaptured b = s.withCaptured (a.update b) := by
  simp only [withCaptured, OrderedMap.update_assoc]

theorem contains_eq_isSome_lookup? (s : Scopes) (name : String) :
    s.contains name = (s.lookup? name).isSome := by
  rw [Bool.eq_iff_iff, ← not_iff_not, Bool.not_eq_true, Bool.not_eq_true, contains_eq_false_iff,
    Option.isSome_eq_false_iff, Option.isNone_iff_eq_none, lookup?_eq_none_iff]

theorem Overlays.lookup?_eq (h : s.Overlays values t)
    (hv : ∀ name value, values.get? name = some value → s.lookup? name = some value) (name : String) :
    t.lookup? name = s.lookup? name := by
  rw [h.lookup]
  cases hget : values.get? name with
  | none => rw [Option.none_or]
  | some value => rw [Option.some_or, hv name value hget]

end Scopes

namespace Template

variable {m : Type → Type} [Monad m] {s t : Scopes}

theorem substitute_congr_lookup? (h : ∀ name, t.lookup? name = s.lookup? name) (text : String)
    (call : Resolver m) : substitute text t call = substitute text s call := by
  have hexpand : ∀ levels, expand t call levels = expand s call levels := by
    intro levels
    induction levels with
    | zero =>
      funext path cs
      rw [expand, expand]
    | succ levels ih =>
      funext path cs
      have henter : enter t call (expand t call levels) path =
          enter s call (expand s call levels) path :=
        funext fun name => enter_congr (valueOf_congr (h name)) fun _ => by rw [ih]
      rw [expand, expand, henter]
  rw [substitute, substitute, hexpand]

theorem undefinedNames_congr_lookup? (h : ∀ name, t.lookup? name = s.lookup? name) (text : String) :
    undefinedNames text t = undefinedNames text s := by
  simp only [undefinedNames, Scopes.contains_eq_isSome_lookup?, h]

end Template

namespace Memory

def scopes (m : Memory) (held : Source → Nat) : Scopes where
  request := m.read (held .request)
  file := m.read (held .file)
  environment := m.read (held .environment)
  shared := m.read (held .shared)

def hold (m : Memory) (given : Source → Nat) : Memory × (Source → Nat) :=
  let (m, request) := m.allocate (m.read (given .request))
  let (m, file) := m.allocate (m.read (given .file))
  let (m, environment) := m.allocate (m.read (given .environment))
  let (m, shared) := m.allocate (m.read (given .shared))
  (m, fun
    | .request => request
    | .file => file
    | .environment => environment
    | .shared => shared)

/-- Merges values into a copy of the request layer, and makes new scopes with it. -/
def withCaptured (m : Memory) (held : Source → Nat) (values : Nat) : Memory × (Source → Nat) :=
  let (m, merged) := m.allocate (m.read (held .request))
  let m := m.write merged ((m.read merged).update (m.read values))
  m.hold (Function.update held .request merged)

/-- Maps that were there are as they were. -/
structure Extends (m n : Memory) : Prop where
  le : m.maps.length ≤ n.maps.length
  read : ∀ a < m.maps.length, n.read a = m.read a

/-- A map with contents `b` lies at an address where none was, and other maps are as they were. -/
structure Places (m n : Memory) (a : Nat) (b : Bindings) : Prop where
  keeps : m.Extends n
  new : m.maps.length ≤ a
  inRange : a < n.maps.length
  read : n.read a = b

variable {l m n : Memory} {a : Nat} {b : Bindings} {held given : Source → Nat} {values : Nat}

theorem Extends.trans (h : l.Extends m) (h' : m.Extends n) : l.Extends n where
  le := h.le.trans h'.le
  read a ha := (h'.read a (ha.trans_le h.le)).trans (h.read a ha)

theorem extends_allocate : m.Extends (m.allocate b).1 where
  le := by simp [allocate]
  read _ ha := read_allocate_of_lt ha

theorem Extends.scopes (h : m.Extends n) (hheld : ∀ l, held l < m.maps.length) :
    n.scopes held = m.scopes held := by
  simp only [Memory.scopes, h.read _ (hheld _)]

theorem Extends.lt (h : m.Extends n) (ha : a < m.maps.length) : a < n.maps.length :=
  ha.trans_le h.le

theorem Places.later (h : l.Places m a b) (h' : m.Extends n) : l.Places n a b where
  keeps := h.keeps.trans h'
  new := h.new
  inRange := h'.lt h.inRange
  read := (h'.read a h.inRange).trans h.read

theorem Extends.places (h : l.Extends m) (ha : a < l.maps.length) :
    l.Places (m.allocate (m.read a)).1 (m.allocate (m.read a)).2 (l.read a) where
  keeps := h.trans extends_allocate
  new := h.le
  inRange := by simp [allocate]
  read := read_allocate_self.trans (h.read a ha)

theorem hold_spec (hgiven : ∀ l, given l < m.maps.length) (l : Source) :
    m.Places (m.hold given).1 ((m.hold given).2 l) ((m.scopes given).layer l) := by
  have hstart : m.Extends m := ⟨Nat.le_refl _, fun _ _ => rfl⟩
  have hrequest := hstart.places (hgiven .request)
  have hfile := hrequest.keeps.places (hgiven .file)
  have henvironment := hfile.keeps.places (hgiven .environment)
  have hshared := henvironment.keeps.places (hgiven .shared)
  cases l with
  | request => exact ((hrequest.later extends_allocate).later extends_allocate).later extends_allocate
  | file => exact (hfile.later extends_allocate).later extends_allocate
  | environment => exact henvironment.later extends_allocate
  | shared => exact hshared

/-- Each layer of the new scopes lies where nothing was, and holds what the overlay has there. -/
theorem withCaptured_spec (hheld : ∀ l, held l < m.maps.length) (hvalues : values < m.maps.length)
    (l : Source) : m.Places (m.withCaptured held values).1 ((m.withCaptured held values).2 l)
      (((m.scopes held).withCaptured (m.read values)).layer l) := by
  have hcopy : m.Places (m.allocate (m.read (held .request))).1 m.maps.length (m.read (held .request)) :=
    Extends.places ⟨Nat.le_refl _, fun _ _ => rfl⟩ (hheld .request)
  obtain ⟨k, hk⟩ : ∃ k, k = (m.allocate (m.read (held .request))).1.write m.maps.length
    ((m.read (held .request)).update (m.read values)) := ⟨_, rfl⟩
  -- What is written to the copy changes nothing that was there before.
  have hkeeps : m.Extends k := by
    refine ⟨by simp [hk, write, allocate], fun a ha => ?_⟩
    rw [hk, read_write_of_ne (Nat.ne_of_lt ha), hcopy.keeps.read a ha]
  have hmerged : k.read m.maps.length = (m.read (held .request)).update (m.read values) := by
    rw [hk, read_write_self hcopy.inRange]
  obtain ⟨given, hg⟩ : ∃ given, given = Function.update held .request m.maps.length := ⟨_, rfl⟩
  have hself : given .request = m.maps.length := by rw [hg, Function.update_self]
  have hother : ∀ l, l ≠ .request → given l = held l := fun l hl => by rw [hg, Function.update_of_ne hl]
  have hgiven : ∀ l, given l < k.maps.length := by
    intro l
    by_cases hl : l = .request
    · rw [hl, hself, hk]
      simp [write, allocate]
    · rw [hother l hl]
      exact hkeeps.lt (hheld l)
  have hscopes : k.scopes given = (m.scopes held).withCaptured (m.read values) := by
    simp [Memory.scopes, Scopes.withCaptured, hself, hother, hmerged, hkeeps.read _ (hheld _)]
  have heq : m.withCaptured held values = k.hold given := by
    change ((m.allocate (m.read (held .request))).1.write m.maps.length
      (((m.allocate (m.read (held .request))).1.read m.maps.length).update
        ((m.allocate (m.read (held .request))).1.read values))).hold
      (Function.update held .request m.maps.length) = _
    rw [hcopy.read, hcopy.keeps.read values hvalues, hk, hg]
  obtain ⟨hkept, hnew, hrange, hread⟩ := hold_spec hgiven l
  rw [heq, ← hscopes]
  exact ⟨hkeeps.trans hkept, hkeeps.le.trans hnew, hrange, hread⟩

theorem scopes_eq {s : Scopes} (h : ∀ l, n.read (held l) = s.layer l) : n.scopes held = s := by
  simp only [scopes, h, Scopes.layer]

end Memory

section Overlay

variable {m : Type → Type} [Monad m]

theorem substitute_withCaptured_of_seen (call : Template.Resolver m) {s : Scopes} {a : Bindings}
    (h : ∀ name value, a.get? name = some value → s.lookup? name = some value) (text : String) :
    Template.substitute text (s.withCaptured a) call = Template.substitute text s call ∧
      Template.undefinedNames text (s.withCaptured a) = Template.undefinedNames text s := by
  have hlookup := (Scopes.overlays_withCaptured s a).lookup?_eq h
  exact ⟨Template.substitute_congr_lookup? hlookup text call,
    Template.undefinedNames_congr_lookup? hlookup text⟩

/-- The overlay is made of maps of its own, and all maps that were there before stay as they are. -/
theorem scopes_withCaptured (memory : Memory) (held : Source → Nat) (values : Nat)
    (hheld : ∀ l, held l < memory.maps.length) (hvalues : values < memory.maps.length) :
    let after := memory.withCaptured held values
    let overlay := (memory.scopes held).withCaptured (memory.read values)
    after.1.scopes after.2 = overlay ∧ after.1.scopes held = memory.scopes held ∧
    (∀ c < memory.maps.length, after.1.read c = memory.read c) ∧
    ∀ c < memory.maps.length, ∀ b, (after.1.write c b).scopes after.2 = overlay := by
  intro after overlay
  have hplaces := Memory.withCaptured_spec hheld hvalues
  have hkeeps := (hplaces .request).keeps
  refine ⟨Memory.scopes_eq fun l => (hplaces l).read, hkeeps.scopes hheld, hkeeps.read,
    fun c hc b => Memory.scopes_eq fun l => ?_⟩
  -- A layer of the new scopes lies behind everything that was there.
  have hne : after.2 l ≠ c := Nat.ne_of_gt (hc.trans_le (hplaces l).new)
  rw [Memory.read_write_of_ne hne]
  exact (hplaces l).read

/-- Captured values lie over the request layer and change nothing else; two overlays are one with the
second one's values over the first one's. Values that are seen already, and so none at all, make no
difference to a text or to the names that it lacks. The scopes underneath and all other maps in memory
stay as they are, and later changes to them do not show in the new scopes. -/
theorem withCaptured_overlays (call : Template.Resolver m) (s : Scopes) (a b : Bindings) :
    s.Overlays a (s.withCaptured a) ∧
    (s.withCaptured a).withCaptured b = s.withCaptured (a.update b) ∧
    s.withCaptured ∅ = s ∧
    ((∀ name value, a.get? name = some value → s.lookup? name = some value) → ∀ text,
      Template.substitute text (s.withCaptured a) call = Template.substitute text s call ∧
      Template.undefinedNames text (s.withCaptured a) = Template.undefinedNames text s) ∧
    ∀ (memory : Memory) (held : Source → Nat) (values : Nat), (∀ l, held l < memory.maps.length) →
      values < memory.maps.length → memory.scopes held = s → memory.read values = a →
      let after := memory.withCaptured held values
      after.1.scopes after.2 = s.withCaptured a ∧ after.1.scopes held = s ∧
      (∀ c < memory.maps.length, after.1.read c = memory.read c) ∧
      ∀ c < memory.maps.length, ∀ b, (after.1.write c b).scopes after.2 = s.withCaptured a := by
  refine ⟨Scopes.overlays_withCaptured s a, Scopes.withCaptured_withCaptured s a b,
    Scopes.withCaptured_empty s, substitute_withCaptured_of_seen call, ?_⟩
  rintro memory held values hheld hvalues rfl rfl
  exact scopes_withCaptured memory held values hheld hvalues

/-- Four layers, and a value that one of them gives already. -/
def seenAgain : Memory where
  maps := [.ofEntries [("x", "1")], .ofEntries [("y", "2")], ∅, .ofEntries [("z", "3")],
    .ofEntries [("y", "2")]]

def seenHeld : Source → Nat
  | .request => 0
  | .file => 1
  | .environment => 2
  | .shared => 3

def noResults : Template.Resolver Id := fun _ _ => .error .emptyFunctionName

/-- The value comes from the request layer then, and no text shows it. -/
theorem withCaptured_seenAgain :
    let s := seenAgain.scopes seenHeld
    let a := seenAgain.read 4
    let after := seenAgain.withCaptured seenHeld 4
    s.sourceOf? "y" = some .file ∧ (s.withCaptured a).sourceOf? "y" = some .request ∧
      Template.substitute "{{x}}{{y}}{{z}}" (s.withCaptured a) noResults =
        Template.substitute "{{x}}{{y}}{{z}}" s noResults ∧
      after.1.scopes after.2 = s.withCaptured a ∧ after.1.scopes seenHeld = s := by
  intro s a after
  obtain ⟨hoverlay, -, -, htexts, hmemory⟩ := withCaptured_overlays noResults s a ∅
  have hseen : ∀ name value, a.get? name = some value → s.lookup? name = some value := by
    intro name value h
    obtain ⟨rfl, rfl⟩ : name = "y" ∧ value = "2" := by
      change (if "y" = name then some "2" else none) = some value at h
      split at h <;> simp_all
    decide
  have hheld : ∀ l, seenHeld l < seenAgain.maps.length := by
    intro l
    cases l <;> decide
  obtain ⟨hmade, hkept, -⟩ := hmemory seenAgain seenHeld 4 hheld (by decide) rfl rfl
  exact ⟨by decide, (hoverlay.request "y").2 (.inl (by decide)), (htexts hseen _).1, hmade, hkept⟩

end Overlay

end TemplatedRequests
