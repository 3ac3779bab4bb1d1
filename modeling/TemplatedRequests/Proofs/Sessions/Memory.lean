import TemplatedRequests.Sessions

/-!
Sessions as they lie in memory. Every map has an address, and whoever has the address can change the
map there later on. A session's own map is changed in place and its address is never given out: a copy
is. So what is done to copies does not reach the sessions, and the maps in memory show the same as
sessions that are plain values.
-/

namespace TemplatedRequests

/-- Maps by address, and the address of each session's own map. -/
structure Memory where
  maps : List Bindings := []
  own : OrderedMap Nat := ∅

namespace Memory

def read (m : Memory) (a : Nat) : Bindings := m.maps[a]?.getD ∅

def write (m : Memory) (a : Nat) (b : Bindings) : Memory := { m with maps := m.maps.set a b }

def allocate (m : Memory) (b : Bindings) : Memory × Nat :=
  ({ m with maps := m.maps ++ [b] }, m.maps.length)

def shown (m : Memory) (session : String) : Option Bindings := (m.own.get? session).map m.read

def contents (m : Memory) (session : String) : Bindings := (m.shown session).getD ∅

def get (m : Memory) (session : String) : Memory × Nat := m.allocate (m.contents session)

def adopt (m : Memory) (session : String) (a : Nat) : Memory :=
  { m with own := m.own.insert session a }

/-- The address of a session's own map, which is empty if the session begins here. -/
def settle (m : Memory) (session : String) : Memory × Nat :=
  match m.own.get? session with
  | some a => (m, a)
  | none =>
    let (m, a) := m.allocate ∅
    (m.adopt session a, a)

/-- Merges values into a session's map where it lies, and gives out a copy of the map. -/
def record (m : Memory) (session : String) (values : Bindings) : Memory × Nat :=
  let (m, a) := m.settle session
  let m := m.write a ((m.read a).update values)
  m.allocate (m.read a)

def clear (m : Memory) (session : String) : Memory := { m with own := m.own.erase session }

/-- Gives out a copy of a session's map with values laid over it, and copies that once more. -/
def overlay (m : Memory) (session : String) (values : Bindings) : Memory × Nat × Nat :=
  let (m, given) := m.get session
  let m := m.write given ((m.read given).update values)
  let (m, held) := m.allocate (m.read given)
  (m, given, held)

/-- Each session has a map of its own. -/
structure IsSound (m : Memory) : Prop where
  inRange : ∀ session a, m.own.get? session = some a → a < m.maps.length
  apart : ∀ session other a, m.own.get? session = some a → m.own.get? other = some a → session = other

def IsSpare (m : Memory) (a : Nat) : Prop :=
  a < m.maps.length ∧ ∀ session, m.own.get? session ≠ some a

/-- Maps that are no session's own stay so, and stay as they are. -/
def KeepsSpare (m n : Memory) : Prop := ∀ a, m.IsSpare a → n.IsSpare a ∧ n.read a = m.read a

theorem KeepsSpare.trans {l m n : Memory} (h : l.KeepsSpare m) (h' : m.KeepsSpare n) :
    l.KeepsSpare n := by
  intro a ha
  obtain ⟨hm, hread⟩ := h a ha
  obtain ⟨hn, hread'⟩ := h' a hm
  exact ⟨hn, hread'.trans hread⟩

/-- The map at `a` is given out with contents `b`: it is a new one, and is no session's own. -/
structure GivesOut (m n : Memory) (a : Nat) (b : Bindings) : Prop where
  sound : n.IsSound
  keeps : m.KeepsSpare n
  spare : n.IsSpare a
  new : ¬m.IsSpare a
  read : n.read a = b

theorem isSound_empty : ({} : Memory).IsSound where
  inRange := nofun
  apart := nofun

variable {m : Memory} {a c : Nat} {b : Bindings} {session other : String}

theorem read_write_self (h : a < m.maps.length) : (m.write a b).read a = b := by
  simp [read, write, h]

theorem read_write_of_ne (h : c ≠ a) : (m.write a b).read c = m.read c := by
  simp [read, write, h.symm]

theorem read_allocate_self : (m.allocate b).1.read (m.allocate b).2 = b := by
  simp [read, allocate]

theorem read_allocate_of_lt (h : c < m.maps.length) : (m.allocate b).1.read c = m.read c := by
  rw [read, allocate, List.getElem?_append_left h, read]

theorem lt_of_allocate (h : c < m.maps.length) : c < (m.allocate b).1.maps.length := by
  simp only [allocate, List.length_append, List.length_singleton]
  omega

theorem IsSpare.ne_own (h : m.IsSpare a) (ho : m.own.get? session = some c) : a ≠ c := by
  rintro rfl
  exact h.2 session ho

theorem shown_congr {n : Memory} (hown : n.own.get? session = m.own.get? session)
    (hread : ∀ a, m.own.get? session = some a → n.read a = m.read a) :
    n.shown session = m.shown session := by
  rw [shown, shown, hown]
  cases h : m.own.get? session with
  | none => rfl
  | some a => rw [Option.map_some, Option.map_some, hread a h]

section Allocate

variable (hm : m.IsSound)
include hm

theorem isSound_allocate : (m.allocate b).1.IsSound where
  inRange session a h := lt_of_allocate (hm.inRange session a h)
  apart := hm.apart

theorem isSpare_allocate : (m.allocate b).1.IsSpare (m.allocate b).2 := by
  refine ⟨by simp [allocate], fun session h => ?_⟩
  have := hm.inRange session _ h
  simp [allocate] at this

theorem shown_allocate : (m.allocate b).1.shown session = m.shown session :=
  shown_congr rfl fun a ha => read_allocate_of_lt (hm.inRange session a ha)

end Allocate

theorem keepsSpare_allocate : m.KeepsSpare (m.allocate b).1 :=
  fun _ h => ⟨⟨lt_of_allocate h.1, h.2⟩, read_allocate_of_lt h.1⟩

theorem givesOut_allocate {l : Memory} (hl : l.KeepsSpare m) (hm : m.IsSound) :
    l.GivesOut (m.allocate b).1 (m.allocate b).2 b where
  sound := isSound_allocate hm
  keeps := hl.trans keepsSpare_allocate
  spare := isSpare_allocate hm
  new h := Nat.lt_irrefl _ (hl _ h).1.1
  read := read_allocate_self

section Write

theorem isSound_write (hm : m.IsSound) : (m.write a b).IsSound where
  inRange session a h := by simpa [write] using hm.inRange session a h
  apart := hm.apart

theorem shown_write_of_isSpare (h : m.IsSpare a) : (m.write a b).shown session = m.shown session :=
  shown_congr rfl fun _ hc => read_write_of_ne (h.ne_own hc).symm

theorem isSpare_write (h : m.IsSpare c) : (m.write a b).IsSpare c :=
  ⟨by simpa [write] using h.1, h.2⟩

variable (ha : m.own.get? session = some a)
include ha

theorem keepsSpare_write_own : m.KeepsSpare (m.write a b) :=
  fun _ hc => ⟨isSpare_write hc, read_write_of_ne (hc.ne_own ha)⟩

theorem shown_write_own (hm : m.IsSound) :
    (m.write a b).shown other = if other = session then some b else m.shown other := by
  by_cases h : other = session
  · subst h
    have hread := read_write_self (b := b) (hm.inRange other a ha)
    simpa [shown, write, ha] using hread
  · rw [if_neg h]
    refine shown_congr rfl fun c hc => read_write_of_ne ?_
    rintro rfl
    exact h (hm.apart other session c hc ha)

end Write

section Settle

theorem isSound_adopt (hm : m.IsSound) (ha : m.IsSpare a) : (m.adopt session a).IsSound := by
  have hown : ∀ other c, (m.adopt session a).own.get? other = some c →
      other = session ∧ c = a ∨ other ≠ session ∧ m.own.get? other = some c := by
    intro other c h
    rw [adopt, OrderedMap.get?_insert] at h
    split at h
    · exact .inl ⟨‹_›, (Option.some.inj h).symm⟩
    · exact .inr ⟨‹_›, h⟩
  constructor
  · intro other c h
    rcases hown other c h with ⟨-, rfl⟩ | ⟨-, h⟩
    · exact ha.1
    · exact hm.inRange other c h
  · intro other third c h h'
    rcases hown other c h with ⟨ho, hc⟩ | ⟨-, hl⟩ <;> rcases hown third c h' with ⟨ht, hc'⟩ | ⟨-, hr⟩
    · exact ho.trans ht.symm
    · exact absurd (hc ▸ hr) (ha.2 third)
    · exact absurd (hc' ▸ hl) (ha.2 other)
    · exact hm.apart other third c hl hr

theorem shown_adopt : (m.adopt session a).shown other =
    if other = session then some (m.read a) else m.shown other := by
  unfold shown
  rw [adopt, OrderedMap.get?_insert]
  split <;> rfl

theorem own_settle (m : Memory) (session : String) :
    (m.settle session).1.own.get? session = some (m.settle session).2 := by
  unfold settle
  split
  · assumption
  · simp [adopt]

theorem keepsSpare_adopt_allocate (m : Memory) (session : String) (b : Bindings) :
    m.KeepsSpare ((m.allocate b).1.adopt session (m.allocate b).2) := by
  intro c hc
  obtain ⟨hspare, hread⟩ := keepsSpare_allocate (b := b) c hc
  refine ⟨⟨hspare.1, fun other h => ?_⟩, hread⟩
  change (m.own.insert session m.maps.length).get? other = some c at h
  rw [OrderedMap.get?_insert] at h
  split at h
  · have := hc.1
    have := Option.some.inj h
    omega
  · exact hspare.2 other h

theorem keepsSpare_settle (m : Memory) (session : String) :
    m.KeepsSpare (m.settle session).1 := by
  unfold settle
  split
  · exact fun _ h => ⟨h, rfl⟩
  · exact keepsSpare_adopt_allocate m session ∅

variable (hm : m.IsSound)
include hm

theorem isSound_settle : (m.settle session).1.IsSound := by
  unfold settle
  split
  · exact hm
  · exact isSound_adopt (isSound_allocate hm) (isSpare_allocate hm)

theorem shown_settle : (m.settle session).1.shown other =
    if other = session then some (m.contents session) else m.shown other := by
  unfold settle
  split <;> rename_i h
  · by_cases ho : other = session
    · simp [ho, contents, shown, h]
    · rw [if_neg ho]
  · have hcontents : m.contents session = ∅ := by simp [contents, shown, h]
    rw [shown_adopt, read_allocate_self, shown_allocate hm, hcontents]

end Settle

section Record

variable (hm : m.IsSound) (session : String) (values : Bindings)
include hm

/-- A record changes what its own session shows and nothing else. The copy it gives out is what the
session shows then. -/
theorem record_spec :
    m.GivesOut (m.record session values).1 (m.record session values).2
      ((m.contents session).update values) ∧
    ∀ other, (m.record session values).1.shown other =
      if other = session then some ((m.contents session).update values) else m.shown other := by
  have hown := own_settle m session
  have hsound : (m.settle session).1.IsSound := isSound_settle hm
  have hshown : ∀ other, (m.settle session).1.shown other =
      if other = session then some (m.contents session) else m.shown other := fun other =>
    shown_settle hm
  have hkeeps := keepsSpare_settle m session
  have hread : (m.settle session).1.read (m.settle session).2 = m.contents session := by
    have := hshown session
    simpa [shown, hown] using this
  -- From here on the session has a map of its own, at `a`.
  rcases hs : m.settle session with ⟨n, a⟩
  rw [hs] at hown hsound hshown hkeeps hread
  have hrecord : m.record session values =
      (n.write a ((m.contents session).update values)).allocate ((m.contents session).update values) := by
    have hself := read_write_self (b := (m.contents session).update values) (hsound.inRange session a hown)
    simp only [record, hs, hread, hself]
  have hwrite : (n.write a ((m.contents session).update values)).IsSound := isSound_write hsound
  rw [hrecord]
  refine ⟨givesOut_allocate (hkeeps.trans (keepsSpare_write_own hown)) hwrite, fun other => ?_⟩
  rw [shown_allocate hwrite, shown_write_own hown hsound, hshown]
  split <;> rfl

end Record

section Overlay

variable (hm : m.IsSound) (session : String) (values : Bindings)
include hm

theorem overlay_spec :
    m.GivesOut (m.overlay session values).1 (m.overlay session values).2.1
      ((m.contents session).update values) ∧
    m.GivesOut (m.overlay session values).1 (m.overlay session values).2.2
      ((m.contents session).update values) ∧
    (m.overlay session values).2.2 ≠ (m.overlay session values).2.1 ∧
    ∀ other, (m.overlay session values).1.shown other = m.shown other := by
  have hcopy : m.GivesOut (m.get session).1 (m.get session).2 (m.contents session) :=
    givesOut_allocate (fun _ h => ⟨h, rfl⟩) hm
  have hshown : ∀ other, (m.get session).1.shown other = m.shown other := fun _ => shown_allocate hm
  rcases hg : m.get session with ⟨n, given⟩
  rw [hg] at hcopy hshown
  have hself := read_write_self (b := (m.contents session).update values) hcopy.spare.1
  obtain ⟨k, hk⟩ : ∃ k, k = n.write given ((m.contents session).update values) := ⟨_, rfl⟩
  have hoverlay : m.overlay session values =
      ((k.allocate ((m.contents session).update values)).1, given,
        (k.allocate ((m.contents session).update values)).2) := by
    simp only [overlay, hg, hcopy.read, hself, hk]
  have hwrite : k.IsSound := hk ▸ isSound_write hcopy.sound
  have hgiven : k.IsSpare given := hk ▸ isSpare_write hcopy.spare
  -- The copy was not there before, so that what is written to it changes no map of others.
  have hkept : m.KeepsSpare k := by
    intro a ha
    have hne : a ≠ given := by
      rintro rfl
      exact hcopy.new ha
    obtain ⟨hn, hsame⟩ := hcopy.keeps a ha
    exact hk ▸ ⟨isSpare_write hn, (read_write_of_ne hne).trans hsame⟩
  have hheld := givesOut_allocate (b := (m.contents session).update values) hkept hwrite
  obtain ⟨hspare, hsame⟩ := keepsSpare_allocate (b := (m.contents session).update values) given hgiven
  rw [hoverlay]
  refine ⟨⟨hheld.sound, hheld.keeps, hspare, hcopy.new, hsame.trans (hk ▸ hself)⟩, hheld,
    Nat.ne_of_gt hgiven.1, fun other => ?_⟩
  rw [shown_allocate hwrite, hk, shown_write_of_isSpare hcopy.spare, hshown]

end Overlay

section Clear

theorem own_of_clear (h : (m.clear session).own.get? other = some c) :
    m.own.get? other = some c := by
  rw [clear, OrderedMap.get?_erase] at h
  split at h
  · cases h
  · exact h

theorem isSound_clear (hm : m.IsSound) : (m.clear session).IsSound where
  inRange other c h := hm.inRange other c (own_of_clear h)
  apart other third c h h' := hm.apart other third c (own_of_clear h) (own_of_clear h')

theorem shown_clear : (m.clear session).shown other = if other = session then none else m.shown other := by
  unfold shown
  rw [clear, OrderedMap.get?_erase]
  split <;> rfl

theorem keepsSpare_clear : m.KeepsSpare (m.clear session) :=
  fun _ hc => ⟨⟨hc.1, fun other h => hc.2 other (own_of_clear h)⟩, rfl⟩

end Clear

def fetch (m : Memory) (session : String) : Bindings := (m.get session).1.read (m.get session).2

def report (m : Memory) (session : String) (values : Bindings) : Bindings :=
  (m.record session values).1.read (m.record session values).2

theorem fetch_eq : m.fetch session = m.contents session := read_allocate_self

theorem report_eq (hm : m.IsSound) (values : Bindings) :
    m.report session values = (m.record session values).1.fetch session := by
  obtain ⟨hgives, hshown⟩ := record_spec hm session values
  have hafter : (m.record session values).1.contents session = (m.contents session).update values := by
    rw [contents, hshown, if_pos rfl, Option.getD_some]
  rw [report, hgives.read, fetch_eq, hafter]

/-- The maps in memory show what the sessions hold. -/
def Represents (m : Memory) (s : Sessions) : Prop :=
  ∀ session, m.shown session = s.captured.get? session

section Represents

variable {s : Sessions} (h : m.Represents s)
include h

theorem Represents.contents_eq : m.contents session = s.get session := by
  rw [contents, h, Sessions.get]

theorem Represents.write (ha : m.IsSpare a) : (m.write a b).Represents s :=
  fun session => (shown_write_of_isSpare ha).trans (h session)

theorem Represents.record (hm : m.IsSound) (values : Bindings) :
    (m.record session values).1.Represents (s.record session values) := by
  obtain ⟨-, hshown⟩ := record_spec hm session values
  intro other
  rw [hshown, Sessions.record, OrderedMap.get?_insert, h.contents_eq, h other]

theorem Represents.clear : (m.clear session).Represents (s.clear session) := by
  intro other
  rw [shown_clear, Sessions.clear, OrderedMap.get?_erase, h other]

end Represents

theorem represents_empty : ({} : Memory).Represents {} := fun _ => rfl

end Memory

end TemplatedRequests
