import TemplatedRequests.Proofs.Capture.Layout
import TemplatedRequests.Proofs.Exchange.Recorded
import TemplatedRequests.Proofs.Response.Captured
import TemplatedRequests.Proofs.Template.Given

/-!
What becomes of a captured value. Until a later call captures the name anew or the session is cleared,
every request of the session has the value itself written wherever the name comes up, whatever else
defines the name. Requests of other sessions know nothing of it.
-/

namespace TemplatedRequests

open Template

section Names

theorem Capture.isName_of_mem_directives {text : String} {d : Capture.Directive}
    (h : d ∈ Capture.directives text) : Capture.IsName d.variableName.toList := by
  obtain ⟨line, -, hd⟩ := List.mem_filterMap.1 h
  simp only [Directive.ofChars?, Option.bind_eq_bind, Option.bind_eq_some_iff, Prod.exists,
    Option.pure_def, Option.some.injEq] at hd
  obtain ⟨name, r, hheader, path, -, rfl⟩ := hd
  obtain ⟨head, hsound, rfl, -⟩ := header?_eq_some_iff.1 hheader
  rw [String.toList_ofList]
  exact hsound.name

theorem Capture.not_isCall_of_isName {name : String} (h : Capture.IsName name.toList) :
    isCall name = false := by
  obtain ⟨c, r, hname, hc, -⟩ := h
  have hne : c ≠ '$' := by
    rintro rfl
    revert hc
    unfold IsLetter
    decide
  simp [isCall, hname, hne]

theorem Response.exists_directive_of_capture {r : Response} {directives : List Capture.Directive}
    {type? : Option ContentType} {captured : Bindings} {name value : String}
    (h : r.capture directives type? = .ok captured) (hn : captured.get? name = some value) :
    ∃ d ∈ directives, d.variableName = name := by
  induction directives using List.reverseRecOn generalizing captured with
  | nil =>
    cases h
    cases hn
  | append_singleton directives d ih =>
    rw [capture_concat, pair_eq_ok_iff] at h
    obtain ⟨before, found, hbefore, -, rfl⟩ := h
    rw [OrderedMap.get?_insert] at hn
    split at hn
    · exact ⟨d, List.mem_append_right _ (List.mem_singleton_self d), Eq.symm ‹_›⟩
    · obtain ⟨e, he, hname⟩ := ih hbefore hn
      exact ⟨e, List.mem_append_left _ he, hname⟩

end Names

namespace Exchange

/-- The call as it is made where sessions hold values: these lie over its own scopes. -/
def Attempt.inSession (t : Attempt) (sessions : Sessions) : Attempt :=
  { t with scopes := t.scopes.withCaptured (sessions.get t.session) }

/-- What a call comes to once its request is resolved, or is not. -/
def Attempt.ended (t : Attempt) (sessions : Sessions) : Except Fault Request → Outcome
  | .error fault => ⟨[], sessions, .error (.fault fault)⟩
  | .ok resolved => complete t.patience t.client t.session sessions resolved

/-- What is done to the sessions: a call is made, or a session is cleared. -/
inductive Action where
  | call (t : Attempt)
  | clear (session : String)

/-- A call that was made, with the scopes that it was given, the state of the functions and the
sessions it began in, and what came of it. -/
structure Visit (σ : Type) where
  given : Attempt
  state : σ
  before : Sessions
  outcome : Outcome

inductive Entry (σ : Type) where
  | visit (v : Visit σ)
  | cleared (session : String)

section

variable {σ : Type} (call : Resolver (StateM σ))

def Attempt.runInSession (t : Attempt) (sessions : Sessions) : StateM σ Outcome :=
  executeInSession call t.patience t.client t.scopes t.session sessions t.request

def chronicle : List Action → Sessions → σ → List (Entry σ)
  | [], _, _ => []
  | .call t :: rest, sessions, state =>
    let made := (t.runInSession call sessions).run state
    .visit ⟨t, state, sessions, made.1⟩ :: chronicle rest made.1.sessions made.2
  | .clear session :: rest, sessions, state =>
    .cleared session :: chronicle rest (sessions.clear session) state

def Visit.turn (u : Visit σ) : Turn σ := ⟨u.given.inSession u.before, u.state, u.before, u.outcome⟩

def Visit.scopes (u : Visit σ) : Scopes := u.given.scopes.withCaptured (u.before.get u.given.session)

/-- Whether a session has its value of a name taken away, or another one put in its place. -/
def Entry.Overwrites (session name : String) : Entry σ → Prop
  | .visit u => u.given.session = session ∧ ∃ a captured,
      u.turn.attempt.reached? call u.state = some (a, captured) ∧ captured.contains name = true
  | .cleared emptied => emptied = session

/-- The call has the value itself written wherever the name comes up, in its request and, at any level,
in the values that this leads to. Nothing else that its scopes say of the name has a part in it. -/
structure Visit.Writes (u : Visit σ) (name value : String) : Prop where
  placeholder : ∀ levels path, name ∉ path →
    enter u.scopes call (expand u.scopes call levels) path name = pure value.toList
  request : u.given.request.resolve u.scopes call =
    u.given.request.resolveBy (substituteGiven name value (u.scopes.without name) call)
  outcome : u.outcome = u.given.ended u.before ((u.given.request.resolveBy
    (substituteGiven name value (u.scopes.without name) call)).run.run u.state).1

/-- Sessions that may differ in what one of them holds. -/
def AgreeOutside (session : String) (a b : Sessions) : Prop :=
  ∀ other, other ≠ session → a.get other = b.get other

/-- The call is sent and answered alike whatever is held in a session, and leaves all other sessions
alike. -/
def Visit.Ignores (u : Visit σ) (session : String) : Prop :=
  ∀ sessions, AgreeOutside session sessions u.before →
    let (outcome, next) := (u.given.runInSession call sessions).run u.state
    outcome.sent = u.outcome.sent ∧ outcome.result = u.outcome.result ∧
      AgreeOutside session outcome.sessions u.outcome.sessions ∧
      next = ((u.given.runInSession call u.before).run u.state).2

variable {call} {t : Attempt} {u : Visit σ} {sessions : Sessions} {state : σ} {session : String}

theorem run_runInSession (t : Attempt) (sessions : Sessions) (state : σ) :
    (t.runInSession call sessions).run state =
      (t.ended sessions ((t.request.resolve (t.inSession sessions).scopes call).run.run state).1,
        ((t.request.resolve (t.inSession sessions).scopes call).run.run state).2) := by
  have hrun : (t.runInSession call sessions).run state =
      ((t.inSession sessions).run call sessions).run state := rfl
  rw [hrun, run_eq]
  rfl

section Isolated

theorem AgreeOutside.record {a b : Sessions} (h : AgreeOutside session a b) (recorded : String)
    (values : Bindings) : AgreeOutside session (a.record recorded values) (b.record recorded values) := by
  intro other ho
  by_cases hr : other = recorded
  · rw [hr, Sessions.get_record_self, Sessions.get_record_self, h _ (hr ▸ ho)]
  · rw [Sessions.get_record_of_ne a values hr, Sessions.get_record_of_ne b values hr, h _ ho]

theorem complete_of_agreeOutside {a b : Sessions} (h : AgreeOutside session a b) (resolved : Request) :
    (complete t.patience t.client t.session a resolved).sent =
      (complete t.patience t.client t.session b resolved).sent ∧
    (complete t.patience t.client t.session a resolved).result =
      (complete t.patience t.client t.session b resolved).result ∧
    AgreeOutside session (complete t.patience t.client t.session a resolved).sessions
      (complete t.patience t.client t.session b resolved).sessions := by
  unfold complete finish
  rcases t.client.deliver resolved with ⟨sent, (error | problem) | received⟩
  · exact ⟨rfl, rfl, h⟩
  · exact ⟨rfl, rfl, h⟩
  · dsimp only
    cases Response.capture ⟨received.headers, received.body⟩ (Capture.directives resolved.captures)
      none with
    | error fault => exact ⟨rfl, rfl, h⟩
    | ok captured => exact ⟨rfl, rfl, h.record t.session captured⟩

theorem ended_of_agreeOutside {a b : Sessions} (h : AgreeOutside session a b) :
    (resolved : Except Fault Request) →
    (t.ended a resolved).sent = (t.ended b resolved).sent ∧
    (t.ended a resolved).result = (t.ended b resolved).result ∧
    AgreeOutside session (t.ended a resolved).sessions (t.ended b resolved).sessions
  | .error _ => ⟨rfl, rfl, h⟩
  | .ok resolved => complete_of_agreeOutside h resolved

theorem Visit.ignores (h : u.turn.IsRun call) (hne : u.given.session ≠ session) :
    u.Ignores call session := by
  intro sessions hs
  have hscopes : u.given.inSession sessions = u.given.inSession u.before := by
    rw [Attempt.inSession, Attempt.inSession, hs _ hne]
  have houtcome : u.outcome = ((u.given.runInSession call u.before).run u.state).1 := h
  simp only [houtcome, run_runInSession, hscopes]
  obtain ⟨hsent, hresult, hagree⟩ := ended_of_agreeOutside (t := u.given) hs
    ((u.given.request.resolve (u.given.inSession u.before).scopes call).run.run u.state).1
  exact ⟨hsent, hresult, hagree, trivial⟩

end Isolated

section Kept

theorem chronicle_of_append {actions : List Action} {before rest : List (Entry σ)}
    (h : chronicle call actions sessions state = before ++ rest) :
    ∃ actions sessions state, rest = chronicle call actions sessions state := by
  induction before generalizing actions sessions state with
  | nil => exact ⟨actions, sessions, state, h.symm⟩
  | cons e before ih =>
    rcases actions with _ | ⟨t | emptied, actions⟩
    · cases h
    · exact ih (List.cons.inj h).2
    · exact ih (List.cons.inj h).2

theorem isRun_of_chronicle {actions : List Action} {rest : List (Entry σ)}
    (h : chronicle call actions sessions state = .visit u :: rest) :
    u.turn.IsRun call ∧ u.before = sessions ∧
      ∃ actions state, rest = chronicle call actions u.outcome.sessions state := by
  rcases actions with _ | ⟨t | emptied, actions⟩
  · cases h
  · obtain ⟨hu, hrest⟩ := List.cons.inj h
    cases hu
    exact ⟨rfl, rfl, actions, _, hrest.symm⟩
  · cases (List.cons.inj h).1

theorem get?_of_not_overwrites {name : String} (h : u.turn.IsRun call)
    (hk : ¬(Entry.visit u).Overwrites call session name) :
    (u.outcome.sessions.get session).get? name = (u.before.get session).get? name := by
  by_cases hs : session = u.given.session
  · rcases u.turn.cases h with ⟨hsame, -, -⟩ | ⟨a, captured, hr, hsame, -⟩
    · exact congrArg (fun s : Sessions => (s.get session).get? name) hsame
    · have hnone : captured.get? name = none := by
        by_contra hsome
        exact hk ⟨hs.symm, a, captured, hr, Option.isSome_iff_ne_none.2 hsome⟩
      change u.outcome.sessions = u.before.record u.given.session captured at hsame
      rw [hsame, hs, Sessions.get_record_self, OrderedMap.get?_update, hnone, Option.none_or]
  · exact congrArg (OrderedMap.get? · name) (u.turn.get_sessions_of_ne h hs)

theorem get?_of_kept {actions : List Action} {between after : List (Entry σ)} {name value : String}
    (h : chronicle call actions sessions state = between ++ .visit u :: after)
    (hk : ∀ e ∈ between, ¬e.Overwrites call session name)
    (hv : (sessions.get session).get? name = some value) :
    u.turn.IsRun call ∧ (u.before.get session).get? name = some value := by
  induction between generalizing actions sessions state with
  | nil =>
    obtain ⟨hu, hbefore, -⟩ := isRun_of_chronicle h
    exact ⟨hu, hbefore ▸ hv⟩
  | cons e between ih =>
    -- The first entry keeps the value, and the rest is again a chronicle, from the sessions it leaves.
    obtain ⟨he, hbetween⟩ := List.forall_mem_cons.1 hk
    cases e with
    | visit w =>
      obtain ⟨hw, hbefore, actions, state, hrest⟩ := isRun_of_chronicle h
      refine ih hrest.symm hbetween ?_
      rw [get?_of_not_overwrites hw he, hbefore, hv]
    | cleared emptied =>
      rcases actions with _ | ⟨t | ended, actions⟩
      · cases h
      · cases (List.cons.inj h).1
      · obtain ⟨hemptied, hrest⟩ := List.cons.inj h
        cases hemptied
        refine ih hrest hbetween ?_
        rw [Sessions.get_clear_of_ne sessions (Ne.symm he), hv]

end Kept

section Captured

variable {captured : Bindings} {name value : String}

theorem capture_of_reached? {a : Received} (h : t.reached? call state = some (a, captured)) :
    ∃ text : String, Response.capture ⟨a.headers, a.body⟩ (Capture.directives text) none = .ok captured := by
  unfold Attempt.reached? Exchange.reached? at h
  split at h
  · cases h
  · split at h
    · cases h
    · split at h
      · cases h
      · rename_i hcapture
        cases h
        exact ⟨_, hcapture⟩

theorem get?_of_captured (h : u.turn.IsRun call) (hc : u.outcome.captured? = some captured)
    (hn : captured.get? name = some value) :
    (u.outcome.sessions.get u.given.session).get? name = some value ∧ isCall name = false := by
  rcases u.turn.cases h with ⟨-, hnone, -⟩ | ⟨a, found, hr, hsame, ⟨-, hfound⟩ | ⟨-, hnone⟩⟩
  · cases hc.symm.trans hnone
  · obtain rfl := Option.some.inj (hc.symm.trans hfound)
    change u.outcome.sessions = u.before.record u.given.session captured at hsame
    refine ⟨by rw [hsame, Sessions.get_record_self, OrderedMap.get?_update, hn, Option.some_or], ?_⟩
    obtain ⟨text, hcapture⟩ := capture_of_reached? hr
    obtain ⟨d, hd, rfl⟩ := Response.exists_directive_of_capture hcapture hn
    exact Capture.not_isCall_of_isName (Capture.isName_of_mem_directives hd)
  · cases hc.symm.trans hnone

theorem Visit.writes (h : u.turn.IsRun call)
    (hv : (u.before.get u.given.session).get? name = some value) (hn : isCall name = false)
    (ho : hasOpening value.toList = false) : u.Writes call name value := by
  have hvalue : valueOf u.scopes call name = pure value :=
    valueOf_of_not_isCall hn (Scopes.lookup?_withCaptured hv)
  have hrequest := u.given.request.resolve_eq_resolveBy_given hvalue ho
  have houtcome : u.outcome = ((u.given.runInSession call u.before).run u.state).1 := h
  refine ⟨fun _ _ hp => enter_of_plain hp hvalue ho, hrequest, ?_⟩
  rw [houtcome, run_runInSession, ← hrequest]
  rfl

/-- A value without placeholders that an answered call has captured is written in every later request of
its session, until the name is recorded again or the session is cleared. Calls of other sessions find
the same whether the value is there or not. -/
theorem writes_of_captured {actions : List Action} {before between after : List (Entry σ)}
    {t u : Visit σ} (h : chronicle call actions sessions state =
      before ++ .visit t :: (between ++ .visit u :: after))
    (hc : t.outcome.captured? = some captured) (hn : captured.get? name = some value)
    (ho : hasOpening value.toList = false) (hs : u.given.session = t.given.session)
    (hk : ∀ e ∈ between, ¬e.Overwrites call t.given.session name) :
    u.Writes call name value ∧ AgreeOutside t.given.session t.outcome.sessions t.before ∧
    ∀ w, .visit w ∈ chronicle call actions sessions state → w.given.session ≠ t.given.session →
      w.Ignores call t.given.session := by
  obtain ⟨_, _, _, hfrom⟩ := chronicle_of_append h
  obtain ⟨ht, -, _, _, hrest⟩ := isRun_of_chronicle hfrom.symm
  obtain ⟨hkept, hcall⟩ := get?_of_captured ht hc hn
  obtain ⟨hu, hv⟩ := get?_of_kept hrest.symm hk hkept
  refine ⟨Visit.writes hu (hs ▸ hv) hcall ho, fun _ hne => t.turn.get_sessions_of_ne ht hne,
    fun w hw hne => ?_⟩
  obtain ⟨front, rear, hsplit⟩ := List.append_of_mem hw
  obtain ⟨_, _, _, hat⟩ := chronicle_of_append hsplit
  exact Visit.ignores (isRun_of_chronicle hat.symm).1 hne

end Captured

end

section Handed

def braces : String := "\\\x7d\x7d\x7b"

def capturing (session : String) : Attempt :=
  heeding session ⟨"http://h/", 200, "OK", .ofEntries [("x", braces)], []⟩ ""

/-- A call that refers to the captured name, and whose document has another value for it. -/
def reusing : Attempt where
  request := { method := .post, url := "http://h/{{x}}", headers := .ofEntries [("{{x}}", "{{ x }}")],
               body := some "a{{x}}b" }
  scopes := { file := .ofEntries [("x", "{{x}}")] }
  session := "s"
  patience := .whole 30
  client := .offline

def handing : List Action := [.call (capturing "s"), .call (capturing "t"), .clear "t", .call reusing]

theorem captured?_capturing (session : String) :
    (((capturing session).runInSession noFunctions {}).run ()).1.captured? =
      some (.ofEntries [("x", braces)]) :=
  captured?_heeding (a := ⟨"http://h/", 200, "OK", .ofEntries [("x", braces)], []⟩) rfl rfl

theorem resolveBy_reusing (scopes : Scopes) (state : Unit) :
    ((reusing.request.resolveBy (substituteGiven "x" braces scopes noFunctions)).run.run state).1 =
      .ok { reusing.request with
        url := "http://h/" ++ braces, headers := .ofEntries [(braces, braces)],
        body := some ("a" ++ braces ++ "b") } := by
  with_unfolding_all rfl

/-- Calls of another session and its end come between; the braces of the value close and escape nothing. -/
theorem resolve_handed : ∃ t w u, chronicle noFunctions handing {} () =
      [.visit t, .visit w, .cleared "t", .visit u] ∧
    ((u.given.request.resolve u.scopes noFunctions).run.run u.state).1 =
      .ok { reusing.request with
        url := "http://h/" ++ braces, headers := .ofEntries [(braces, braces)],
        body := some ("a" ++ braces ++ "b") } := by
  let first := ((capturing "s").runInSession noFunctions {}).run ()
  let second := ((capturing "t").runInSession noFunctions first.1.sessions).run first.2
  let third := (reusing.runInSession noFunctions (second.1.sessions.clear "t")).run second.2
  let t : Visit Unit := ⟨capturing "s", (), {}, first.1⟩
  let w : Visit Unit := ⟨capturing "t", first.2, first.1.sessions, second.1⟩
  let u : Visit Unit := ⟨reusing, second.2, second.1.sessions.clear "t", third.1⟩
  have h : chronicle noFunctions handing {} () =
      [] ++ Entry.visit t :: ([Entry.visit w, Entry.cleared "t"] ++ Entry.visit u :: []) := rfl
  have hk : ∀ e ∈ [Entry.visit w, .cleared "t"], ¬e.Overwrites noFunctions "s" "x" := by
    simp only [List.forall_mem_cons]
    exact ⟨fun h => absurd h.1 (by decide), fun h => absurd (show "t" = "s" from h) (by decide),
      by simp⟩
  have hn : (OrderedMap.ofEntries [("x", braces)]).get? "x" = some braces := rfl
  have ho : hasOpening braces.toList = false := by decide
  have hs : u.given.session = t.given.session := rfl
  obtain ⟨hwrites, -⟩ := writes_of_captured h (captured?_capturing "s") hn ho hs hk
  have hresolve := congrArg (fun x => (x.run.run u.state).1) hwrites.request
  have hfilled := resolveBy_reusing (u.scopes.without "x") u.state
  exact ⟨t, w, u, h, hresolve.trans hfilled⟩

end Handed

end Exchange

end TemplatedRequests
