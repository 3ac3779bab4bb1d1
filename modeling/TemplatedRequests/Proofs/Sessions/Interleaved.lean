import Mathlib.Data.List.Induction
import Mathlib.Logic.Function.Basic
import TemplatedRequests.Environments
import TemplatedRequests.Proofs.Sessions.Memory

/-!
Requests at the same time. Each takes a copy of what its session holds, lays its own values over it and
keeps scopes made of that; at its end it records what it has captured. However these steps lie between
each other, and whatever is cleared or changed in copies, nothing that was recorded gets lost before its
session is cleared, and the scopes of a request stay as they were made.
-/

namespace TemplatedRequests.Interleaved

/-- A request: its session, its own values, those of its document, and its environments. -/
structure Party where
  session : String
  own : Bindings := ∅
  file : Bindings := ∅
  environments : Environments := {}

/-- One step: a request takes what its session holds, or records at its end; a session is cleared; a map
that was given out is changed. -/
inductive Event where
  | get (i : Nat)
  | record (i : Nat) (values : Bindings)
  | clear (session : String)
  | alter (a : Nat) (b : Bindings)

inductive Phase where
  | waiting
  | resolving (held : Nat)
  | ended (held : Nat)

def Phase.held? : Phase → Option Nat
  | waiting => none
  | resolving held => some held
  | ended held => some held

structure State where
  memory : Memory := {}
  given : List Nat := []
  phase : Nat → Phase := fun _ => .waiting

variable (parties : Nat → Party)

def State.get (s : State) (i : Nat) : State :=
  let (m, copy, held) := s.memory.overlay (parties i).session (parties i).own
  ⟨m, copy :: s.given, Function.update s.phase i (.resolving held)⟩

def State.record (s : State) (i held : Nat) (values : Bindings) : State :=
  let (m, copy) := s.memory.record (parties i).session values
  ⟨m, copy :: s.given, Function.update s.phase i (.ended held)⟩

def step? (s : State) : Event → Option State
  | .get i => match s.phase i with
    | .waiting => some (s.get parties i)
    | _ => none
  | .record i values => match s.phase i with
    | .resolving held => some (s.record parties i held values)
    | _ => none
  | .clear session => some { s with memory := s.memory.clear session }
  | .alter a b => if a ∈ s.given then some { s with memory := s.memory.write a b } else none

inductive Run : List Event → State → Prop
  | start : Run [] {}
  | next {trace s e t} (before : Run trace s) (h : step? parties s e = some t) : Run (trace ++ [e]) t

def State.scopes? (s : State) (i : Nat) : Option Scopes :=
  (s.phase i).held?.map fun held => (parties i).environments.scopes (parties i).file (s.memory.read held)

def perform (s : Sessions) : Event → Sessions
  | .record i values => s.record (parties i).session values
  | .clear session => s.clear session
  | _ => s

def replay (trace : List Event) : Sessions := trace.foldl (perform parties) {}

def Event.Overwrites (session name : String) : Event → Prop
  | .record i values => (parties i).session = session ∧ values.contains name = true
  | .clear cleared => cleared = session
  | _ => False

/-- The last record of a name in a session, with no clear of the session after it. -/
def IsLastRecord (trace : List Event) (session name value : String) : Prop :=
  ∃ before i values after, trace = before ++ .record i values :: after ∧
    (parties i).session = session ∧ values.get? name = some value ∧
    ∀ e ∈ after, ¬e.Overwrites parties session name

theorem State.phase_get (s : State) (i : Nat) : (s.get parties i).phase = Function.update s.phase i
    (.resolving (s.memory.overlay (parties i).session (parties i).own).2.2) := rfl

theorem State.phase_record (s : State) (i held : Nat) (values : Bindings) :
    (s.record parties i held values).phase = Function.update s.phase i (.ended held) := rfl

/-- No map that can be changed from outside is a session's own, or the one that some scopes hold. -/
structure State.IsSound (s : State) : Prop where
  memory : s.memory.IsSound
  given : ∀ a ∈ s.given, s.memory.IsSpare a
  held : ∀ i a, (s.phase i).held? = some a → s.memory.IsSpare a ∧ a ∉ s.given

/-- Scopes that were made stay as they are. -/
def State.KeepsHeld (s t : State) : Prop :=
  ∀ i a, (s.phase i).held? = some a → (t.phase i).held? = some a ∧ t.memory.read a = s.memory.read a

variable {parties} {s t : State} {e : Event} {i : Nat} {trace : List Event}

theorem step?_cases (h : step? parties s e = some t) :
    (∃ i, e = .get i ∧ s.phase i = .waiting ∧ t = s.get parties i) ∨
    (∃ i held values, e = .record i values ∧ s.phase i = .resolving held ∧
      t = s.record parties i held values) ∨
    (∃ session, e = .clear session ∧ t = { s with memory := s.memory.clear session }) ∨
    ∃ a b, e = .alter a b ∧ a ∈ s.given ∧ t = { s with memory := s.memory.write a b } := by
  cases e with
  | get i =>
    simp only [step?] at h
    split at h
    · exact .inl ⟨i, rfl, ‹_›, (Option.some.inj h).symm⟩
    · cases h
  | record i values =>
    simp only [step?] at h
    split at h
    · exact .inr (.inl ⟨i, _, values, rfl, ‹_›, (Option.some.inj h).symm⟩)
    · cases h
  | clear session => exact .inr (.inr (.inl ⟨session, rfl, (Option.some.inj h).symm⟩))
  | alter a b =>
    simp only [step?] at h
    split at h
    · exact .inr (.inr (.inr ⟨a, b, rfl, ‹_›, (Option.some.inj h).symm⟩))
    · cases h

section Step

variable (hs : s.IsSound)
include hs

theorem isSound_give {m : Memory} {copy : Nat} {b : Bindings} (hm : s.memory.GivesOut m copy b) :
    ({ s with memory := m, given := copy :: s.given } : State).IsSound ∧
    s.KeepsHeld { s with memory := m, given := copy :: s.given } := by
  have hkeeps := hm.keeps
  refine ⟨⟨hm.sound, fun a ha => ?_, fun i a ha => ?_⟩, fun i a ha => ⟨ha, ?_⟩⟩
  · rcases List.mem_cons.1 ha with rfl | ha
    · exact hm.spare
    · exact (hkeeps a (hs.given a ha)).1
  · obtain ⟨hspare, hnew⟩ := hs.held i a ha
    refine ⟨(hkeeps a hspare).1, fun ha => ?_⟩
    rcases List.mem_cons.1 ha with rfl | ha
    · exact hm.new hspare
    · exact hnew ha
  · exact (hkeeps a (hs.held i a ha).1).2

theorem isSound_hold {held : Nat} {phase : Phase} (hp : phase.held? = some held)
    (hspare : s.memory.IsSpare held) (hnew : held ∉ s.given) :
    ({ s with phase := Function.update s.phase i phase } : State).IsSound := by
  refine ⟨hs.memory, hs.given, fun j a ha => ?_⟩
  change (Function.update s.phase i phase j).held? = some a at ha
  by_cases h : j = i
  · subst h
    rw [Function.update_self, hp, Option.some.injEq] at ha
    exact ha ▸ ⟨hspare, hnew⟩
  · rw [Function.update_of_ne h] at ha
    exact hs.held j a ha

theorem get_spec (hp : s.phase i = .waiting) :
    (s.get parties i).IsSound ∧ s.KeepsHeld (s.get parties i) := by
  obtain ⟨hcopy, hheld, hne, -⟩ :=
    Memory.overlay_spec hs.memory (parties i).session (parties i).own
  obtain ⟨hgiven, hkeeps⟩ := isSound_give hs hcopy
  refine ⟨isSound_hold hgiven rfl hheld.spare fun h => ?_, fun j a ha => ?_⟩
  · rcases List.mem_cons.1 h with h | h
    · exact hne h
    · exact hheld.new (hs.given _ h)
  · have hj : j ≠ i := by
      rintro rfl
      rw [hp] at ha
      cases ha
    obtain ⟨hsame, hread⟩ := hkeeps j a ha
    exact ⟨by rwa [State.phase_get, Function.update_of_ne hj], hread⟩

theorem record_spec {held : Nat} (hp : s.phase i = .resolving held) (values : Bindings) :
    (s.record parties i held values).IsSound ∧ s.KeepsHeld (s.record parties i held values) := by
  obtain ⟨hcopy, -⟩ := Memory.record_spec hs.memory (parties i).session values
  obtain ⟨hgiven, hkeeps⟩ := isSound_give hs hcopy
  have hi : (s.phase i).held? = some held := by rw [hp, Phase.held?]
  obtain ⟨hspare, hnew⟩ := hgiven.held i held hi
  refine ⟨isSound_hold hgiven rfl hspare hnew, fun j a ha => ?_⟩
  obtain ⟨hsame, hread⟩ := hkeeps j a ha
  refine ⟨?_, hread⟩
  by_cases hj : j = i
  · subst hj
    rwa [State.phase_record, Function.update_self, Phase.held?, ← hi]
  · rwa [State.phase_record, Function.update_of_ne hj]

theorem clear_spec (session : String) :
    ({ s with memory := s.memory.clear session } : State).IsSound ∧
    s.KeepsHeld { s with memory := s.memory.clear session } := by
  have hkeeps : s.memory.KeepsSpare (s.memory.clear session) := Memory.keepsSpare_clear
  refine ⟨⟨Memory.isSound_clear hs.memory, fun a ha => (hkeeps a (hs.given a ha)).1, fun i a ha => ?_⟩,
    fun i a ha => ⟨ha, (hkeeps a (hs.held i a ha).1).2⟩⟩
  obtain ⟨hspare, hnew⟩ := hs.held i a ha
  exact ⟨(hkeeps a hspare).1, hnew⟩

theorem alter_spec {a : Nat} (ha : a ∈ s.given) (b : Bindings) :
    ({ s with memory := s.memory.write a b } : State).IsSound ∧
    s.KeepsHeld { s with memory := s.memory.write a b } := by
  refine ⟨⟨Memory.isSound_write hs.memory, fun c hc => Memory.isSpare_write (hs.given c hc),
    fun i c hc => ?_⟩, fun i c hc => ⟨hc, Memory.read_write_of_ne ?_⟩⟩
  · obtain ⟨hspare, hnew⟩ := hs.held i c hc
    exact ⟨Memory.isSpare_write hspare, hnew⟩
  · rintro rfl
    exact (hs.held i c hc).2 ha

/-- Nothing that happens to copies reaches a session or the scopes of a request. -/
theorem step?_spec (h : step? parties s e = some t) :
    (t.IsSound ∧ s.KeepsHeld t) ∧
    ∀ v, s.memory.Represents v → t.memory.Represents (perform parties v e) := by
  rcases step?_cases h with ⟨i, rfl, hp, rfl⟩ | ⟨i, held, values, rfl, hp, rfl⟩ | ⟨session, rfl, rfl⟩ |
    ⟨a, b, rfl, ha, rfl⟩
  · refine ⟨get_spec hs hp, fun v hv => ?_⟩
    obtain ⟨-, -, -, hshown⟩ := Memory.overlay_spec hs.memory (parties i).session (parties i).own
    exact fun session => (hshown session).trans (hv session)
  · exact ⟨record_spec hs hp values, fun v hv => hv.record hs.memory values⟩
  · exact ⟨clear_spec hs session, fun v hv => hv.clear⟩
  · exact ⟨alter_spec hs ha b, fun v hv => hv.write (hs.given a ha)⟩

theorem held_of_get (h : step? parties s (.get i) = some t) :
    ∃ a, (t.phase i).held? = some a ∧
      t.memory.read a = (s.memory.contents (parties i).session).update (parties i).own := by
  obtain ⟨j, hj, -, rfl⟩ | ⟨j, _, _, hj, -, -⟩ | ⟨_, hj, -⟩ | ⟨_, _, hj, -⟩ := step?_cases h <;> cases hj
  obtain ⟨-, hheld, -, -⟩ := Memory.overlay_spec hs.memory (parties i).session (parties i).own
  exact ⟨_, by rw [State.phase_get, Function.update_self, Phase.held?], hheld.read⟩

end Step

section Replay

theorem replay_concat : replay parties (trace ++ [e]) = perform parties (replay parties trace) e := by
  rw [replay, List.foldl_append, List.foldl_cons, List.foldl_nil, replay]

variable {session name value : String}

theorem append_singleton_eq_iff {α : Type} {trace before after : List α} {e c : α} :
    trace ++ [e] = before ++ c :: after ↔
      (trace = before ∧ e = c ∧ after = []) ∨
      ∃ between, after = between ++ [e] ∧ trace = before ++ c :: between := by
  constructor
  · intro h
    rcases List.eq_nil_or_concat after with rfl | ⟨between, last, rfl⟩
    · obtain ⟨hbefore, hlast⟩ := List.append_inj' h rfl
      exact .inl ⟨hbefore, List.singleton_inj.1 hlast, rfl⟩
    · rw [List.concat_eq_append, ← List.cons_append, ← List.append_assoc] at h
      obtain ⟨hbefore, hlast⟩ := List.append_inj' h rfl
      exact .inr ⟨between, by rw [List.singleton_inj.1 hlast, List.concat_eq_append], hbefore⟩
  · rintro (⟨rfl, rfl, rfl⟩ | ⟨between, rfl, rfl⟩)
    · rfl
    · rw [List.append_assoc, List.cons_append]

/-- The last step is the last record, or else it must not hide the one before. -/
theorem isLastRecord_concat : IsLastRecord parties (trace ++ [e]) session name value ↔
    (∃ i values, e = .record i values ∧ (parties i).session = session ∧ values.get? name = some value) ∨
    ¬e.Overwrites parties session name ∧ IsLastRecord parties trace session name value := by
  constructor
  · rintro ⟨before, i, values, after, htrace, hi, hvalue, hafter⟩
    rcases append_singleton_eq_iff.1 htrace with ⟨-, rfl, -⟩ | ⟨between, rfl, rfl⟩
    · exact .inl ⟨i, values, rfl, hi, hvalue⟩
    · exact .inr ⟨hafter e (by simp), before, i, values, between, rfl, hi, hvalue,
        fun c hc => hafter c (by simp [hc])⟩
  · rintro (⟨i, values, rfl, hi, hvalue⟩ | ⟨he, before, i, values, after, rfl, hi, hvalue, hafter⟩)
    · exact ⟨trace, i, values, [], rfl, hi, hvalue, nofun⟩
    · refine ⟨before, i, values, after ++ [e], by simp, hi, hvalue, fun c hc => ?_⟩
      rcases List.mem_append.1 hc with hc | hc
      · exact hafter c hc
      · exact List.mem_singleton.1 hc ▸ he

theorem get?_perform (v : Sessions) : ((perform parties v e).get session).get? name = some value ↔
    (∃ i values, e = .record i values ∧ (parties i).session = session ∧ values.get? name = some value) ∨
    ¬e.Overwrites parties session name ∧ (v.get session).get? name = some value := by
  cases e with
  | get i => simp [perform, Event.Overwrites]
  | alter a b => simp [perform, Event.Overwrites]
  | clear cleared =>
    by_cases h : session = cleared
    · simp [perform, Event.Overwrites, h]
    · simp [perform, Event.Overwrites, Sessions.get_clear_of_ne v h, Ne.symm h]
  | record i values =>
    by_cases h : session = (parties i).session
    · subst h
      simp only [perform, Sessions.get_record_self, OrderedMap.get?_update, Event.Overwrites,
        OrderedMap.contains]
      cases hv : values.get? name <;> simp [hv]
    · simp [perform, Event.Overwrites, Sessions.get_record_of_ne v values h, Ne.symm h]

theorem get?_replay (trace : List Event) :
    ((replay parties trace).get session).get? name = some value ↔
      IsLastRecord parties trace session name value := by
  induction trace using List.reverseRecOn with
  | nil => simp [replay, IsLastRecord, Sessions.get]
  | append_singleton trace e ih => rw [replay_concat, get?_perform, ih, isLastRecord_concat]

end Replay

section Run

theorem Run.sound (h : Run parties trace s) :
    s.IsSound ∧ s.memory.Represents (replay parties trace) := by
  induction h with
  | start => exact ⟨⟨Memory.isSound_empty, nofun, nofun⟩, Memory.represents_empty⟩
  | next _ h ih =>
    obtain ⟨hs, hrepresents⟩ := ih
    obtain ⟨⟨ht, -⟩, hstep⟩ := step?_spec hs h
    exact ⟨ht, replay_concat ▸ hstep _ hrepresents⟩

theorem Run.held_of_get (h : Run parties trace s) {before after : List Event}
    (htrace : trace = before ++ .get i :: after) :
    ∃ a, (s.phase i).held? = some a ∧ s.memory.read a =
      ((replay parties before).get (parties i).session).update (parties i).own := by
  induction h generalizing after with
  | start => simp at htrace
  | next hrun h ih =>
    obtain ⟨hs, hrepresents⟩ := hrun.sound
    -- The request has taken its copy in the last step, or before it, and then the copy is kept.
    rcases append_singleton_eq_iff.1 htrace with ⟨rfl, rfl, -⟩ | ⟨between, -, htrace⟩
    · obtain ⟨a, ha, hread⟩ := Interleaved.held_of_get hs h
      exact ⟨a, ha, by rw [hread, hrepresents.contents_eq]⟩
    · obtain ⟨a, ha, hread⟩ := ih htrace
      obtain ⟨⟨-, hkeeps⟩, -⟩ := step?_spec hs h
      obtain ⟨ht, hsame⟩ := hkeeps i a ha
      exact ⟨a, ht, hsame.trans hread⟩

/-- After any steps, a reader of a session is given the last record of each name, a record gives out
what a reader is given right after it, and a request resolves names in what its session held when the
request took it, under its own values. -/
theorem fetch_of_run (h : Run parties trace s) :
    (∀ session, s.memory.fetch session = (replay parties trace).get session) ∧
    (∀ session name value, (s.memory.fetch session).get? name = some value ↔
      IsLastRecord parties trace session name value) ∧
    (∀ session values, s.memory.report session values =
      (s.memory.record session values).1.fetch session) ∧
    ∀ i before after, trace = before ++ .get i :: after →
      s.scopes? parties i = some ((parties i).environments.scopes (parties i).file
        (((replay parties before).get (parties i).session).update (parties i).own)) := by
  obtain ⟨hs, hrepresents⟩ := h.sound
  have hfetch : ∀ session, s.memory.fetch session = (replay parties trace).get session := fun session =>
    Memory.fetch_eq.trans hrepresents.contents_eq
  refine ⟨hfetch, fun session name value => ?_, fun session values => Memory.report_eq hs.memory values,
    fun i before after htrace => ?_⟩
  · rw [hfetch, get?_replay]
  · obtain ⟨a, ha, hread⟩ := h.held_of_get htrace
    rw [State.scopes?, ha, Option.map_some, hread]

end Run

section Crossing

/-- Three requests of one session; the second one brings a value of its own. -/
def crossing : Nat → Party
  | 1 => { session := "s", own := .ofEntries [("a", "own"), ("k", "own")] }
  | _ => { session := "s" }

/-- The third request begins before the second one ends, and the first copies are changed. -/
def crossed : List Event :=
  [.get 0, .record 0 (.ofEntries [("a", "1")]), .get 1, .alter 0 (.ofEntries [("a", "lost")]), .get 2,
    .record 2 (.ofEntries [("a", "2"), ("b", "2")]), .alter 3 ∅, .clear "t",
    .record 1 (.ofEntries [("c", "3")])]

theorem run_crossed : ∃ s, Run crossing crossed s := by
  have h₀ : Run crossing [] {} := .start
  have h₁ := h₀.next (e := .get 0) rfl
  have h₂ := h₁.next (e := .record 0 (.ofEntries [("a", "1")])) rfl
  have h₃ := h₂.next (e := .get 1) rfl
  have h₄ := h₃.next (e := .alter 0 (.ofEntries [("a", "lost")])) rfl
  have h₅ := h₄.next (e := .get 2) rfl
  have h₆ := h₅.next (e := .record 2 (.ofEntries [("a", "2"), ("b", "2")])) rfl
  have h₇ := h₆.next (e := .alter 3 ∅) rfl
  have h₈ := h₇.next (e := .clear "t") rfl
  exact ⟨_, h₈.next (e := .record 1 (.ofEntries [("c", "3")])) rfl⟩

theorem fetch_crossed : ∃ s, Run crossing crossed s ∧
    s.memory.fetch "s" = .ofEntries [("a", "2"), ("b", "2"), ("c", "3")] ∧
    (s.scopes? crossing 1).map (fun c => ["a", "b", "k"].map c.lookup?) =
      some [some "own", none, some "own"] := by
  obtain ⟨s, hs⟩ := run_crossed
  obtain ⟨hfetch, -, -, hscopes⟩ := fetch_of_run hs
  refine ⟨s, hs, ?_, ?_⟩
  · rw [hfetch]
    rfl
  · rw [hscopes 1 [.get 0, .record 0 (.ofEntries [("a", "1")])] _ rfl]
    decide

end Crossing

end TemplatedRequests.Interleaved
