import Mathlib.Data.List.Basic
import TemplatedRequests.Proofs.Exchange.Recorded
import TemplatedRequests.Proofs.OrderedMap.Merged
import TemplatedRequests.Proofs.Sessions.Interleaved

/-!
Whether clearing a session tells if there was anything to forget. A session is there from its first
record on, also if nothing was in it, as with requests that capture nothing. So a session without
values is listed, and is said to have been forgotten, as long as all its records were empty.
-/

namespace TemplatedRequests

theorem OrderedMap.eq_empty_iff {α : Type} {m : OrderedMap α} : m = ∅ ↔ m.names = [] := by
  constructor
  · rintro rfl
    rfl
  · intro h
    exact ext (List.map_eq_nil_iff.1 h)

theorem OrderedMap.update_eq_empty_iff {α : Type} {m n : OrderedMap α} :
    m.update n = ∅ ↔ m = ∅ ∧ n = ∅ := by
  rw [eq_empty_iff, eq_empty_iff, eq_empty_iff, names_update, List.append_eq_nil_iff]
  refine and_congr_right fun h => ?_
  simp [h]

namespace Sessions

def forget (s : Sessions) (session : String) : Bool × Sessions := (s.has session, s.clear session)

/-- Clearing tells whether a session held anything, forgets what it held and leaves other sessions
alone, and the sessions that are listed are those that hold something. -/
structure IsAccountable (s : Sessions) : Prop where
  told : ∀ session, (s.forget session).1 = true ↔ s.get session ≠ ∅
  forgotten : ∀ session, (s.forget session).2.get session = ∅
  apart : ∀ session other, other ≠ session → (s.forget session).2.get other = s.get other ∧
    (s.forget session).2.has other = s.has other
  listed : ∀ session, session ∈ s.list ↔ s.get session ≠ ∅

section Steps

variable (s : Sessions) (session other : String) (values : Bindings)

theorem mem_list_iff : session ∈ s.list ↔ s.has session = true :=
  OrderedMap.contains_iff_mem_names.symm

theorem has_record : (s.record session values).has other = true ↔
    other = session ∨ s.has other = true := by
  rw [record, has, OrderedMap.contains, OrderedMap.get?_insert]
  split
  · simp [*]
  · simp [*, has, OrderedMap.contains]

theorem has_clear : (s.clear session).has other = true ↔ other ≠ session ∧ s.has other = true := by
  rw [clear, has, OrderedMap.contains, OrderedMap.get?_erase]
  split
  · simp [*]
  · simp [*, has, OrderedMap.contains]

theorem get_record_ne_empty_iff : (s.record session values).get other ≠ ∅ ↔
    other = session ∧ values ≠ ∅ ∨ s.get other ≠ ∅ := by
  by_cases h : other = session
  · subst h
    rw [get_record_self, ne_eq, OrderedMap.update_eq_empty_iff, not_and_or, or_comm]
    simp
  · simp [get_record_of_ne s values h, h]

theorem get_clear_ne_empty_iff : (s.clear session).get other ≠ ∅ ↔
    other ≠ session ∧ s.get other ≠ ∅ := by
  by_cases h : other = session
  · simp [h]
  · simp [get_clear_of_ne s h, h]

theorem isAccountable_iff : s.IsAccountable ↔
    ∀ session, s.has session = true ↔ s.get session ≠ ∅ := by
  refine ⟨fun h => h.told, fun h => ⟨h, fun session => get_clear_self s session, ?_, fun session => ?_⟩⟩
  · refine fun session other hne => ⟨get_clear_of_ne s hne, Bool.eq_iff_iff.2 ?_⟩
    exact (has_clear s session other).trans (and_iff_right hne)
  · exact (mem_list_iff s session).trans (h session)

end Steps

variable {σ : Type} (call : Template.Resolver (StateM σ))

/-- Values are recorded in a session, it is read, it is cleared, or a request is executed in it. -/
inductive Event (σ : Type) where
  | record (session : String) (values : Bindings)
  | get (session : String)
  | clear (session : String)
  | execute (attempt : Exchange.Attempt) (state : σ)

namespace Event

def perform (s : Sessions) : Event σ → Sessions
  | record session values => s.record session values
  | get _ => s
  | clear session => s.clear session
  | execute attempt state => ((attempt.run call s).run state).1.sessions

/-- What is recorded, and in which session. An executed request records what it captured, if it comes
so far. -/
def recorded? : Event σ → Option (String × Bindings)
  | record session values => some (session, values)
  | execute attempt state => (attempt.reached? call state).map fun p => (attempt.session, p.2)
  | _ => none

def cleared? : Event σ → Option String
  | clear session => some session
  | _ => none

theorem cases (e : Event σ) (s : Sessions) :
    (∃ session values, e.recorded? call = some (session, values) ∧ e.cleared? = none ∧
      e.perform call s = s.record session values) ∨
    (∃ session, e.recorded? call = none ∧ e.cleared? = some session ∧
      e.perform call s = s.clear session) ∨
    e.recorded? call = none ∧ e.cleared? = none ∧ e.perform call s = s := by
  cases e with
  | record session values => exact .inl ⟨session, values, rfl, rfl, rfl⟩
  | get session => exact .inr (.inr ⟨rfl, rfl, rfl⟩)
  | clear session => exact .inr (.inl ⟨session, rfl, rfl, rfl⟩)
  | execute attempt state =>
    cases hr : attempt.reached? call state with
    | none =>
      have hs : (execute attempt state).perform call s = s :=
        (Exchange.run_of_reached?_eq_none call state hr).1
      exact .inr (.inr ⟨by rw [recorded?, hr]; rfl, rfl, hs⟩)
    | some p =>
      have hs : (execute attempt state).perform call s = s.record attempt.session p.2 :=
        (Exchange.run_of_reached?_eq_some call state hr).1
      exact .inl ⟨attempt.session, p.2, by rw [recorded?, hr]; rfl, rfl, hs⟩

end Event

def replay (events : List (Event σ)) : Sessions := events.foldl (Event.perform call) {}

/-- Values were recorded in a session, which was not cleared since. -/
def IsRecorded (events : List (Event σ)) (session : String) (values : Bindings) : Prop :=
  ∃ before e after, events = before ++ e :: after ∧ e.recorded? call = some (session, values) ∧
    ∀ d ∈ after, d.cleared? ≠ some session

section Replay

variable {call} {events : List (Event σ)} {e : Event σ} {session : String} {values : Bindings}

theorem replay_concat (events : List (Event σ)) (e : Event σ) :
    replay call (events ++ [e]) = e.perform call (replay call events) := by
  rw [replay, List.foldl_append, List.foldl_cons, List.foldl_nil, replay]

theorem isRecorded_concat : IsRecorded call (events ++ [e]) session values ↔
    e.recorded? call = some (session, values) ∨
      e.cleared? ≠ some session ∧ IsRecorded call events session values := by
  constructor
  · rintro ⟨before, d, after, hevents, hd, hafter⟩
    rcases Interleaved.append_singleton_eq_iff.1 hevents with ⟨-, rfl, -⟩ | ⟨between, rfl, rfl⟩
    · exact .inl hd
    · exact .inr ⟨hafter e (by simp), before, d, between, rfl, hd, fun c hc => hafter c (by simp [hc])⟩
  · rintro (he | ⟨he, before, d, after, rfl, hd, hafter⟩)
    · exact ⟨events, e, [], rfl, he, fun _ h => absurd h List.not_mem_nil⟩
    · refine ⟨before, d, after ++ [e], by simp, hd, fun c hc => ?_⟩
      rcases List.mem_append.1 hc with hc | hc
      · exact hafter c hc
      · exact List.mem_singleton.1 hc ▸ he

variable (call)

/-- What a record of a kind brings about in its session, what other records keep and what only a clear of
the session ends holds as long as there was such a record since the last clear. -/
theorem replay_iff {P : Sessions → Prop} {Q : Bindings → Prop} (hempty : ¬P {})
    (hrecord : ∀ s other values, P (s.record other values) ↔ session = other ∧ Q values ∨ P s)
    (hclear : ∀ s other, P (s.clear other) ↔ session ≠ other ∧ P s) (events : List (Event σ)) :
    P (replay call events) ↔ ∃ values, IsRecorded call events session values ∧ Q values := by
  induction events using List.reverseRecOn with
  | nil =>
    refine iff_of_false hempty ?_
    rintro ⟨values, ⟨before, e, after, hevents, -⟩, -⟩
    simp at hevents
  | append_singleton events e ih =>
    simp only [replay_concat, isRecorded_concat]
    obtain ⟨other, values, hr, hc, hs⟩ | ⟨other, hr, hc, hs⟩ | ⟨hr, hc, hs⟩ :=
      e.cases call (replay call events)
    · rw [hs, hrecord, ih]
      constructor
      · rintro (⟨rfl, hq⟩ | ⟨more, hmore, hq⟩)
        · exact ⟨values, .inl hr, hq⟩
        · exact ⟨more, .inr ⟨by simp [hc], hmore⟩, hq⟩
      · rintro ⟨more, hmore | ⟨-, hmore⟩, hq⟩
        · obtain ⟨rfl, rfl⟩ := Prod.mk.inj (Option.some.inj (hr.symm.trans hmore))
          exact .inl ⟨rfl, hq⟩
        · exact .inr ⟨more, hmore, hq⟩
    · rw [hs, hclear, ih]
      simp [hr, hc, eq_comm, and_assoc]
    · rw [hs, ih]
      simp [hr, hc]

theorem has_replay_iff (events : List (Event σ)) (session : String) :
    (replay call events).has session = true ↔ ∃ values, IsRecorded call events session values := by
  have hrecord : ∀ (s : Sessions) other values,
      (s.record other values).has session = true ↔ session = other ∧ True ∨ s.has session = true :=
    fun s other values => by rw [has_record, and_true]
  have h := replay_iff call (P := fun s => s.has session = true) (by simp [has, OrderedMap.contains])
    hrecord (fun s other => has_clear s other session) events
  simpa only [and_true] using h

theorem get_replay_ne_empty_iff (events : List (Event σ)) (session : String) :
    (replay call events).get session ≠ ∅ ↔
      ∃ values, IsRecorded call events session values ∧ values ≠ ∅ :=
  replay_iff call (P := fun s => s.get session ≠ ∅) (by simp [get])
    (fun s other values => get_record_ne_empty_iff s other session values)
    (fun s other => get_clear_ne_empty_iff s other session) events

end Replay

/-- A session is there, and is said to be forgotten when it is cleared, as long as there was a record in
it since it was last cleared; it holds something as long as one of these records was not empty. So
clearing is as it should be exactly if no session had empty records only. -/
theorem isAccountable_replay_iff (events : List (Event σ)) :
    ((replay call events).IsAccountable ↔ ∀ session values, IsRecorded call events session values →
      ∃ more, IsRecorded call events session more ∧ more ≠ ∅) ∧
    ∀ session,
      (((replay call events).forget session).1 = true ↔
        ∃ values, IsRecorded call events session values) ∧
      (session ∈ (replay call events).list ↔ ∃ values, IsRecorded call events session values) ∧
      ((replay call events).get session ≠ ∅ ↔
        ∃ values, IsRecorded call events session values ∧ values ≠ ∅) ∧
      ∀ other, ((replay call events).forget session).2.get other =
        if other = session then ∅ else (replay call events).get other := by
  have hhas := has_replay_iff call events
  have hget := get_replay_ne_empty_iff call events
  refine ⟨?_, fun session => ⟨hhas session, (mem_list_iff _ session).trans (hhas session), hget session,
    fun other => ?_⟩⟩
  · rw [isAccountable_iff]
    constructor
    · intro h session values hvalues
      exact (hget session).1 ((h session).1 ((hhas session).2 ⟨values, hvalues⟩))
    · intro h session
      rw [hhas, hget]
      constructor
      · rintro ⟨values, hvalues⟩
        exact h session values hvalues
      · rintro ⟨values, hvalues, -⟩
        exact ⟨values, hvalues⟩
  · split
    · subst other
      exact get_clear_self _ session
    · exact get_clear_of_ne _ ‹_›

section Nothing

def plainAttempt : Exchange.Attempt where
  request := { method := .get, url := "http://h/" }
  scopes := {}
  session := "s"
  patience := .whole 30
  client := .giving ⟨"http://h/", 200, "OK", ∅, []⟩ ""

theorem reached?_plainAttempt (call : Template.Resolver (StateM Unit)) :
    plainAttempt.reached? call () = some (⟨"http://h/", 200, "OK", ∅, []⟩, ∅) := by
  have hresolve : ((plainAttempt.request.resolve plainAttempt.scopes call).run.run ()).1 =
      .ok plainAttempt.request :=
    Exchange.resolve_get _ call
  rw [Exchange.Attempt.reached?, hresolve]
  rfl

/-- After a request that captures nothing its session is there without values. -/
theorem not_forall_isAccountable : ¬ ∀ (call : Template.Resolver (StateM Unit))
    (events : List (Event Unit)), (replay call events).IsAccountable := by
  intro h
  have hs : replay Exchange.noFunctions [Event.execute plainAttempt ()] =
      ({} : Sessions).record "s" ∅ :=
    (Exchange.run_of_reached?_eq_some _ () (reached?_plainAttempt Exchange.noFunctions)).1
  have htold := (h Exchange.noFunctions [Event.execute plainAttempt ()]).told "s"
  rw [hs] at htold
  exact htold.1 rfl rfl

end Nothing

end Sessions

end TemplatedRequests
