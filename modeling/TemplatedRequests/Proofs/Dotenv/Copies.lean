import TemplatedRequests.Dotenv.Cache
import TemplatedRequests.Proofs.Sessions.Memory

/-!
Caches of variables as they lie in memory. Each has a map of its own, whose address is never given
out: a copy is. Main statement: whatever happens to copies, a step does to each cache in memory what
it does to a cache that is a plain value.
-/

namespace TemplatedRequests.Dotenv

structure Site where
  start : Path := []
  parents : Int := 2

/-- One step: files are made, changed or removed; a cache is asked for something or cleared; a map
that was given out is changed. -/
inductive Event where
  | edit (files : Tree)
  | values (cache : String)
  | get (cache name : String)
  | isLoaded (cache : String)
  | clear (cache : String)
  | alter (a : Nat) (b : Bindings)

/-- The files, the maps in memory, and the maps among them that were given out. -/
structure State where
  files : Tree := {}
  memory : Memory := {}
  given : List Nat := []

variable (sites : String → Site)

namespace State

/-- The cache's own map, which is read from the nearest file if there is none. -/
def own (s : State) (cache : String) : Except Fault (Memory × Nat) :=
  match s.memory.own.get? cache with
  | some a => .ok (s.memory, a)
  | none => match load s.files (sites cache).start (sites cache).parents with
    | .error fault => .error fault
    | .ok b =>
      let (m, a) := s.memory.allocate b
      .ok (m.adopt cache a, a)

def values (s : State) (cache : String) : State × Except Fault Nat :=
  match s.own sites cache with
  | .error fault => (s, .error fault)
  | .ok (m, a) =>
    let (m, copy) := m.allocate (m.read a)
    ({ s with memory := m, given := copy :: s.given }, .ok copy)

def get (s : State) (cache name : String) : State × Except Fault (Option String) :=
  match s.own sites cache with
  | .error fault => (s, .error fault)
  | .ok (m, a) => ({ s with memory := m }, .ok ((m.read a).get? name))

def isLoaded (s : State) (cache : String) : Bool := (s.memory.own.get? cache).isSome

def told (s : State) (cache : String) : Except Fault Bindings :=
  let (after, given) := s.values sites cache
  given.map after.memory.read

def step (s : State) : Event → State
  | .edit files => { s with files }
  | .values cache => (s.values sites cache).1
  | .get cache name => (s.get sites cache name).1
  | .isLoaded _ => s
  | .clear cache => { s with memory := s.memory.clear cache }
  | .alter a b => if a ∈ s.given then { s with memory := s.memory.write a b } else s

def cacheAt (s : State) (cache : String) : Cache :=
  ⟨(sites cache).start, (sites cache).parents, s.memory.shown cache⟩

/-- No map that was given out is a cache's own. -/
structure IsSound (s : State) : Prop where
  memory : s.memory.IsSound
  given : ∀ a ∈ s.given, s.memory.IsSpare a

end State

namespace Event

def perform (cache : String) (files : Tree) (c : Cache) : Event → Cache
  | values other => if other = cache then (c.values files).2 else c
  | get other name => if other = cache then (c.get files name).2 else c
  | clear other => if other = cache then c.clear else c
  | _ => c

def filesAfter (files : Tree) : Event → Tree
  | edit new => new
  | _ => files

end Event

variable {sites} {s : State} {cache other name : String} {e : Event} {b : Bindings}

namespace State

/-- A cache has its own map at `a`, with contents `b`, and the maps of others are as they were. -/
structure Opens (s : State) (cache : String) (m : Memory) (a : Nat) (b : Bindings) : Prop where
  sound : m.IsSound
  keeps : s.memory.KeepsSpare m
  read : m.read a = b
  shown : ∀ other, m.shown other = if other = cache then some b else s.memory.shown other

variable (sites)

theorem own_spec (hs : s.memory.IsSound) (cache : String) :
    (∃ fault, s.own sites cache = .error fault ∧
      (s.cacheAt sites cache).values s.files = (.error fault, s.cacheAt sites cache)) ∨
    ∃ m a b, s.own sites cache = .ok (m, a) ∧ s.Opens cache m a b ∧
      (s.cacheAt sites cache).values s.files =
        (.ok b, { s.cacheAt sites cache with loaded? := some b }) := by
  unfold own cacheAt Cache.values
  cases hown : s.memory.own.get? cache with
  | some a =>
    have hshown : s.memory.shown cache = some (s.memory.read a) := by rw [Memory.shown, hown]; rfl
    refine .inr ⟨s.memory, a, s.memory.read a, rfl, ⟨hs, fun _ h => ⟨h, rfl⟩, rfl, ?_⟩, ?_⟩
    · intro other
      split
      · subst other
        exact hshown
      · rfl
    · rw [hshown]
  | none =>
    have hshown : s.memory.shown cache = none := by rw [Memory.shown, hown]; rfl
    rw [hshown]
    cases hload : load s.files (sites cache).start (sites cache).parents with
    | error fault => exact .inl ⟨fault, rfl, rfl⟩
    | ok b =>
      have hsound : (s.memory.allocate b).1.IsSound := Memory.isSound_allocate hs
      have hspare := Memory.isSpare_allocate (b := b) hs
      let m := (s.memory.allocate b).1
      let a := (s.memory.allocate b).2
      have hread : m.read a = b := Memory.read_allocate_self
      refine .inr ⟨m.adopt cache a, a, b, rfl, ⟨Memory.isSound_adopt hsound hspare,
        Memory.keepsSpare_adopt_allocate s.memory cache b, hread, fun other => ?_⟩, rfl⟩
      rw [Memory.shown_adopt, hread, Memory.shown_allocate hs]

theorem told_eq_values (hs : s.memory.IsSound) (cache : String) :
    s.told sites cache = ((s.cacheAt sites cache).values s.files).1 := by
  obtain ⟨fault, hown, hvalues⟩ | ⟨m, a, b, hown, hopens, hvalues⟩ := own_spec sites hs cache
  · simp [told, values, hown, hvalues, Except.map]
  · simp [told, values, hown, hvalues, Except.map, Memory.read_allocate_self, hopens.read]

theorem get_eq_get (hs : s.memory.IsSound) (cache name : String) :
    (s.get sites cache name).2 = ((s.cacheAt sites cache).get s.files name).1 := by
  obtain ⟨fault, hown, hvalues⟩ | ⟨m, a, b, hown, hopens, hvalues⟩ := own_spec sites hs cache
  · simp [get, Cache.get, hown, hvalues, Except.map]
  · simp [get, Cache.get, hown, hvalues, Except.map, hopens.read]

theorem isLoaded_eq_isLoaded (s : State) (cache : String) :
    s.isLoaded cache = (s.cacheAt sites cache).isLoaded := by
  rw [isLoaded, Cache.isLoaded, cacheAt, Memory.shown, Option.isSome_map]

theorem cacheAt_of_shown {m : Memory}
    (hshown : ∀ other, m.shown other = if other = cache then some b else s.memory.shown other)
    (hvalues : (s.cacheAt sites cache).values s.files =
      (.ok b, { s.cacheAt sites cache with loaded? := some b }))
    (files : Tree) (given : List Nat) (other : String) :
    cacheAt sites ⟨files, m, given⟩ other =
      if cache = other then ((s.cacheAt sites other).values s.files).2
      else s.cacheAt sites other := by
  by_cases h : cache = other
  · subst h
    rw [if_pos rfl, hvalues, cacheAt, hshown, if_pos rfl]
    rfl
  · rw [if_neg h, cacheAt, hshown, if_neg (Ne.symm h)]
    rfl

theorem values_spec (hs : s.IsSound) (cache : String) : (s.values sites cache).1.IsSound ∧
    (s.values sites cache).1.files = s.files ∧
    ∀ other, (s.values sites cache).1.cacheAt sites other =
      if cache = other then ((s.cacheAt sites other).values s.files).2
      else s.cacheAt sites other := by
  obtain ⟨fault, hown, hvalues⟩ | ⟨m, a, b, hown, hopens, hvalues⟩ :=
    own_spec sites hs.memory cache
  · have heq : s.values sites cache = (s, .error fault) := by simp only [values, hown]
    rw [heq]
    refine ⟨hs, rfl, fun other => ?_⟩
    split
    · subst other
      rw [hvalues]
    · rfl
  · have heq : s.values sites cache = ({ s with
        memory := (m.allocate (m.read a)).1, given := (m.allocate (m.read a)).2 :: s.given },
        .ok (m.allocate (m.read a)).2) := by
      simp only [values, hown]
    rw [heq]
    have hcopy : s.memory.GivesOut (m.allocate (m.read a)).1 (m.allocate (m.read a)).2 (m.read a) :=
      Memory.givesOut_allocate hopens.keeps hopens.sound
    refine ⟨⟨hcopy.sound, fun c hc => ?_⟩, rfl,
      cacheAt_of_shown sites (fun other => ?_) hvalues _ _⟩
    · rcases List.mem_cons.1 hc with rfl | hc
      · exact hcopy.spare
      · exact (hcopy.keeps c (hs.given c hc)).1
    · rw [Memory.shown_allocate hopens.sound, hopens.shown]

theorem get_spec (hs : s.IsSound) (cache name : String) : (s.get sites cache name).1.IsSound ∧
    (s.get sites cache name).1.files = s.files ∧
    ∀ other, (s.get sites cache name).1.cacheAt sites other =
      if cache = other then ((s.cacheAt sites other).get s.files name).2
      else s.cacheAt sites other := by
  obtain ⟨fault, hown, hvalues⟩ | ⟨m, a, b, hown, hopens, hvalues⟩ :=
    own_spec sites hs.memory cache
  · have heq : s.get sites cache name = (s, .error fault) := by simp only [get, hown]
    rw [heq]
    refine ⟨hs, rfl, fun other => ?_⟩
    split
    · subst other
      rw [Cache.get, hvalues]
    · rfl
  · have heq : s.get sites cache name = ({ s with memory := m }, .ok ((m.read a).get? name)) := by
      simp only [get, hown]
    rw [heq]
    exact ⟨⟨hopens.sound, fun c hc => (hopens.keeps c (hs.given c hc)).1⟩, rfl,
      cacheAt_of_shown sites hopens.shown hvalues _ _⟩

/-- A step does to each cache in memory what it does to the cache as a plain value. -/
theorem step_spec (hs : s.IsSound) (e : Event) : (s.step sites e).IsSound ∧
    (s.step sites e).files = e.filesAfter s.files ∧
    ∀ cache, (s.step sites e).cacheAt sites cache =
      e.perform cache s.files (s.cacheAt sites cache) := by
  cases e with
  | edit files => exact ⟨⟨hs.memory, hs.given⟩, rfl, fun _ => rfl⟩
  | values cache => exact values_spec sites hs cache
  | get cache name => exact get_spec sites hs cache name
  | isLoaded cache => exact ⟨hs, rfl, fun _ => rfl⟩
  | clear cache =>
    have hkeeps : s.memory.KeepsSpare (s.memory.clear cache) := Memory.keepsSpare_clear
    refine ⟨⟨Memory.isSound_clear hs.memory, fun a ha => (hkeeps a (hs.given a ha)).1⟩, rfl,
      fun other => ?_⟩
    change Cache.mk _ _ ((s.memory.clear cache).shown other) = _
    rw [Memory.shown_clear]
    by_cases h : cache = other
    · simp [Event.perform, h, Cache.clear, cacheAt]
    · simp [Event.perform, h, Ne.symm h, cacheAt]
  | alter a b =>
    rw [step]
    split
    · rename_i ha
      have hspare := hs.given a ha
      refine ⟨⟨Memory.isSound_write hs.memory, fun c hc => Memory.isSpare_write (hs.given c hc)⟩,
        rfl, fun cache => ?_⟩
      rw [cacheAt, Memory.shown_write_of_isSpare hspare]
      rfl
    · exact ⟨hs, rfl, fun _ => rfl⟩

end State

end TemplatedRequests.Dotenv
