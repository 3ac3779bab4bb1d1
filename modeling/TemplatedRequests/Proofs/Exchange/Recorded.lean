import TemplatedRequests.Exchange
import TemplatedRequests.Proofs.Json.Paired

/-!
What sessions hold after a run of calls, whatever clients the calls are made with. A call records as
soon as it has captured, and works out the text and the document of its answer afterwards. Sessions
hold exactly what answered calls have captured, unless an answer that cannot be told brought something
new.
-/

namespace TemplatedRequests.Exchange

section Answers

def declaresJson (contentType : String) : Bool :=
  Text.occurs "json".toList (Text.lower contentType.toList)

/-- An answer whose text the client cannot tell, or whose document cannot be told. -/
def IsUntold (client : Client) (a : Received) : Prop :=
  match client.text a with
  | .error _ => True
  | .ok text => declaresJson ((a.headers.get? "content-type").getD "") = true ∧
      ∃ fault, Json.read .all text.toList = .error (.refused fault)

/-- What the client brings has its surrogates in pairs, so that a string can hold what is captured. -/
def Client.IsPaired (client : Client) : Prop :=
  ∀ r a, (client.deliver r).2 = .ok a → Json.IsPairedBody a.body

variable {client : Client} {a : Received} (captured : Bindings)

theorem documentOfBody_eq_error_iff {body contentType : String} {fault : Fault} :
    documentOfBody body contentType = .error fault ↔
      declaresJson contentType = true ∧ Json.read .all body.toList = .error (.refused fault) := by
  have hempty : body.isEmpty = true → Json.read .all body.toList ≠ .error (.refused fault) := by
    intro h hf
    rw [String.isEmpty_iff.1 h] at hf
    cases hf
  have hplain : contentType.isEmpty = true → ¬ declaresJson contentType = true := by
    intro h
    rw [String.isEmpty_iff.1 h]
    decide
  unfold documentOfBody
  split
  · rename_i h
    rcases Bool.or_eq_true_iff.1 h with hb | hc
    · exact ⟨nofun, fun hf => absurd hf.2 (hempty hb)⟩
    · exact ⟨nofun, fun hf => absurd hf.1 (hplain hc)⟩
  · split
    · rename_i hj
      have hj : declaresJson contentType = true := hj
      rw [hj]
      cases Json.read .all body.toList with
      | ok v => simp
      | error e => cases e <;> simp
    · rename_i hj
      exact ⟨nofun, fun hf => absurd hf.1 hj⟩

theorem answered_eq : answered client a captured =
    (match client.text a with
    | .error problem => .error problem
    | .ok text => match documentOfBody text ((a.headers.get? "content-type").getD "") with
      | .error fault => .error (.fault fault)
      | .ok bodyJson => .ok ⟨a.status, a.reason, a.url, a.headers, text, bodyJson, a.body.length,
          captured⟩) := by
  simp only [answered, bind, Except.bind]
  cases client.text a with
  | error problem => rfl
  | ok text =>
    dsimp only
    cases documentOfBody text ((a.headers.get? "content-type").getD "") <;> rfl

theorem answered_of_isUntold (h : IsUntold client a) :
    ∃ problem, answered client a captured = .error problem := by
  unfold IsUntold at h
  rw [answered_eq]
  cases htext : client.text a with
  | error problem => exact ⟨problem, rfl⟩
  | ok text =>
    rw [htext] at h
    obtain ⟨fault, hfault⟩ := h.2
    simp only [documentOfBody_eq_error_iff.2 ⟨h.1, hfault⟩]
    exact ⟨.fault fault, rfl⟩

theorem answered_of_not_isUntold (h : ¬IsUntold client a) :
    ∃ x, answered client a captured = .ok x ∧ x.captured = captured := by
  unfold IsUntold at h
  rw [answered_eq]
  cases htext : client.text a with
  | error problem =>
    rw [htext] at h
    exact absurd trivial h
  | ok text =>
    rw [htext] at h
    dsimp only
    cases hdocument : documentOfBody text ((a.headers.get? "content-type").getD "") with
    | error fault =>
      obtain ⟨hdeclares, hfault⟩ := documentOfBody_eq_error_iff.1 hdocument
      exact absurd ⟨hdeclares, fault, hfault⟩ h
    | ok bodyJson => exact ⟨_, rfl, rfl⟩

end Answers

/-- A call, with what its request is resolved in, the client that carries it and the session it belongs
to. -/
structure Attempt where
  request : Request
  scopes : Scopes
  session : String
  patience : Patience
  client : Client

def Outcome.captured? (o : Outcome) : Option Bindings :=
  match o.result with
  | .ok (.ok x) => some x.captured
  | _ => none

section Step

variable {σ : Type} (call : Template.Resolver (StateM σ)) (t : Attempt) (sessions : Sessions)
variable (state : σ)

def Attempt.run : StateM σ Outcome :=
  execute call t.patience t.client t.scopes t.session sessions t.request

def reached? (client : Client) (resolved : Request) : Option (Received × Bindings) :=
  match (client.deliver resolved).2 with
  | .error _ => none
  | .ok a => match Response.capture ⟨a.headers, a.body⟩ (Capture.directives resolved.captures)
      none with
    | .error _ => none
    | .ok captured => some (a, captured)

/-- The answer to a call and what is captured from it, if the call comes so far. -/
def Attempt.reached? : Option (Received × Bindings) :=
  match ((t.request.resolve t.scopes call).run.run state).1 with
  | .error _ => none
  | .ok resolved => Exchange.reached? t.client resolved

variable {t sessions}

theorem complete_of_reached?_eq_none {resolved : Request}
    (h : Exchange.reached? t.client resolved = none) :
    (complete t.patience t.client t.session sessions resolved).sessions = sessions ∧
      (complete t.patience t.client t.session sessions resolved).captured? = none := by
  unfold Exchange.reached? at h
  unfold complete finish Outcome.captured?
  rcases hd : t.client.deliver resolved with ⟨sent, stop | a⟩
  · cases stop <;> exact ⟨rfl, rfl⟩
  · rw [hd] at h
    simp only at h ⊢
    cases hc : Response.capture ⟨a.headers, a.body⟩ (Capture.directives resolved.captures) none with
    | error fault => exact ⟨rfl, rfl⟩
    | ok captured => simp [hc] at h

theorem complete_of_reached?_eq_some {resolved : Request} {a : Received} {captured : Bindings}
    (h : Exchange.reached? t.client resolved = some (a, captured)) :
    (complete t.patience t.client t.session sessions resolved).sessions =
        sessions.record t.session captured ∧
      (complete t.patience t.client t.session sessions resolved).result =
        (answered t.client a captured).map .ok := by
  unfold Exchange.reached? at h
  unfold complete finish
  rcases hd : t.client.deliver resolved with ⟨sent, stop | b⟩
  · simp [hd] at h
  · rw [hd] at h
    simp only at h ⊢
    cases hc : Response.capture ⟨b.headers, b.body⟩ (Capture.directives resolved.captures) none with
    | error fault => simp [hc] at h
    | ok captured =>
      rw [hc] at h
      cases h
      exact ⟨rfl, rfl⟩

theorem run_eq : (t.run call sessions).run state =
    (match ((t.request.resolve t.scopes call).run.run state).1 with
      | .error fault => ⟨[], sessions, .error (.fault fault)⟩
      | .ok resolved => complete t.patience t.client t.session sessions resolved,
      ((t.request.resolve t.scopes call).run.run state).2) := by
  unfold Attempt.run execute
  rcases hr : (t.request.resolve t.scopes call).run.run state with ⟨fault | resolved, next⟩
  · simp only [StateT.run_bind, hr]
    rfl
  · simp only [StateT.run_bind, hr]
    rfl

theorem run_fst : ((t.run call sessions).run state).1 =
    (match ((t.request.resolve t.scopes call).run.run state).1 with
    | .error fault => ⟨[], sessions, .error (.fault fault)⟩
    | .ok resolved => complete t.patience t.client t.session sessions resolved) :=
  congrArg Prod.fst (run_eq call state)

theorem run_of_reached?_eq_none (h : t.reached? call state = none) :
    ((t.run call sessions).run state).1.sessions = sessions ∧
      ((t.run call sessions).run state).1.captured? = none := by
  unfold Attempt.reached? at h
  rw [run_fst]
  cases hr : ((t.request.resolve t.scopes call).run.run state).1 with
  | error fault => exact ⟨rfl, rfl⟩
  | ok resolved =>
    rw [hr] at h
    exact complete_of_reached?_eq_none h

theorem run_of_reached?_eq_some {a : Received} {captured : Bindings}
    (h : t.reached? call state = some (a, captured)) :
    ((t.run call sessions).run state).1.sessions = sessions.record t.session captured ∧
      ((t.run call sessions).run state).1.result = (answered t.client a captured).map .ok := by
  unfold Attempt.reached? at h
  rw [run_fst]
  cases hr : ((t.request.resolve t.scopes call).run.run state).1 with
  | error fault => simp [hr] at h
  | ok resolved =>
    rw [hr] at h
    exact complete_of_reached?_eq_some h

end Step

/-- A call in a run, with the state of the functions and the sessions it began in. -/
structure Turn (σ : Type) where
  attempt : Attempt
  state : σ
  before : Sessions
  outcome : Outcome

section Run

variable {σ : Type} (call : Template.Resolver (StateM σ))

def turns : List Attempt → Sessions → σ → List (Turn σ)
  | [], _, _ => []
  | t :: rest, sessions, state =>
    let (outcome, next) := (t.run call sessions).run state
    ⟨t, state, sessions, outcome⟩ :: turns rest outcome.sessions next

def after (sessions : Sessions) (ts : List (Turn σ)) : Sessions :=
  ts.foldl (fun _ t => t.outcome.sessions) sessions

def capturedIn (session : String) (ts : List (Turn σ)) : List Bindings :=
  (ts.filter (·.attempt.session = session)).filterMap (·.outcome.captured?)

/-- Sessions hold what their answered calls have captured, the last value of each name, and no
other call and no other session's call changes them. -/
structure IsFaithful (ts : List (Turn σ)) : Prop where
  contents : ∀ session, (after {} ts).get session = (capturedIn session ts).foldl .update ∅
  unanswered : ∀ t ∈ ts, t.outcome.captured? = none →
    ∀ session, t.outcome.sessions.get session = t.before.get session
  apart : ∀ t ∈ ts, ∀ session, session ≠ t.attempt.session →
    t.outcome.sessions.get session = t.before.get session

/-- If the answer cannot be told, the session already held what is captured from it. -/
def Turn.IsHarmless (t : Turn σ) : Prop :=
  ∀ a captured, t.attempt.reached? call t.state = some (a, captured) → IsUntold t.attempt.client a →
    (t.before.get t.attempt.session).update captured = t.before.get t.attempt.session

def Turn.IsRun (t : Turn σ) : Prop :=
  t.outcome = ((t.attempt.run call t.before).run t.state).1

variable {call}

theorem isRun_of_mem_turns {attempts : List Attempt} {sessions : Sessions} {state : σ} {t : Turn σ}
    (h : t ∈ turns call attempts sessions state) : t.IsRun call := by
  induction attempts generalizing sessions state with
  | nil => cases h
  | cons a rest ih =>
    rcases List.mem_cons.1 h with rfl | h
    · rfl
    · exact ih h

section Turn

variable {t : Turn σ} (h : t.IsRun call)
include h

/-- What a call does: nothing, or a record with an answer, or a record alone. -/
theorem Turn.cases :
    (t.outcome.sessions = t.before ∧ t.outcome.captured? = none ∧
      t.attempt.reached? call t.state = none) ∨
    ∃ a captured, t.attempt.reached? call t.state = some (a, captured) ∧
      t.outcome.sessions = t.before.record t.attempt.session captured ∧
      (¬IsUntold t.attempt.client a ∧ t.outcome.captured? = some captured ∨
        IsUntold t.attempt.client a ∧ t.outcome.captured? = none) := by
  rw [Turn.IsRun] at h
  rw [h]
  cases hr : t.attempt.reached? call t.state with
  | none =>
    obtain ⟨hs, hc⟩ := run_of_reached?_eq_none call t.state hr
    exact .inl ⟨hs, hc, rfl⟩
  | some p =>
    obtain ⟨a, captured⟩ := p
    obtain ⟨hs, hres⟩ := run_of_reached?_eq_some call t.state hr
    refine .inr ⟨a, captured, rfl, hs, ?_⟩
    unfold Outcome.captured?
    rw [hres]
    by_cases hu : IsUntold t.attempt.client a
    · obtain ⟨problem, hp⟩ := answered_of_isUntold captured hu
      rw [hp]
      exact .inr ⟨hu, rfl⟩
    · obtain ⟨x, hx, rfl⟩ := answered_of_not_isUntold captured hu
      rw [hx]
      exact .inl ⟨hu, rfl⟩

theorem Turn.get_sessions_of_ne {session : String} (hne : session ≠ t.attempt.session) :
    t.outcome.sessions.get session = t.before.get session := by
  rcases t.cases h with ⟨hs, -⟩ | ⟨a, captured, -, hs, -⟩
  · rw [hs]
  · rw [hs, Sessions.get_record_of_ne _ _ hne]

theorem Turn.get_sessions_self (ht : t.IsHarmless call) :
    t.outcome.sessions.get t.attempt.session =
      t.outcome.captured?.toList.foldl .update (t.before.get t.attempt.session) := by
  rcases t.cases h with ⟨hs, hc, -⟩ | ⟨a, captured, hr, hs, ⟨-, hc⟩ | ⟨hu, hc⟩⟩
  · rw [hs, hc]
    rfl
  · rw [hs, hc, Sessions.get_record_self]
    rfl
  · rw [hs, hc, Sessions.get_record_self]
    exact ht a captured hr hu

theorem Turn.isHarmless_iff : t.IsHarmless call ↔ (t.outcome.captured? = none →
    ∀ session, t.outcome.sessions.get session = t.before.get session) := by
  constructor
  · intro ht hc session
    by_cases hs : session = t.attempt.session
    · rw [hs, t.get_sessions_self h ht, hc]
      rfl
    · exact t.get_sessions_of_ne h hs
  · intro hn a captured hr hu
    rcases t.cases h with ⟨-, -, hr'⟩ | ⟨a', captured', hr', hs, ⟨hu', -⟩ | ⟨-, hc⟩⟩
    · cases hr.symm.trans hr'
    · cases hr.symm.trans hr'
      exact absurd hu hu'
    · cases hr.symm.trans hr'
      have := hn hc t.attempt.session
      rwa [hs, Sessions.get_record_self] at this

end Turn

theorem capturedIn_cons (session : String) (t : Turn σ) (ts : List (Turn σ)) :
    capturedIn session (t :: ts) =
      if t.attempt.session = session then t.outcome.captured?.toList ++ capturedIn session ts
      else capturedIn session ts := by
  unfold capturedIn
  by_cases hs : t.attempt.session = session
  · cases hc : t.outcome.captured? <;> simp [hs, hc]
  · simp [hs]

theorem get_after {attempts : List Attempt} {sessions : Sessions} {state : σ}
    (h : ∀ t ∈ turns call attempts sessions state, t.IsHarmless call) (session : String) :
    (after sessions (turns call attempts sessions state)).get session =
      (capturedIn session (turns call attempts sessions state)).foldl .update
        (sessions.get session) := by
  induction attempts generalizing sessions state with
  | nil => rfl
  | cons attempt rest ih =>
    let t : Turn σ := ⟨attempt, state, sessions, ((attempt.run call sessions).run state).1⟩
    have hcons : turns call (attempt :: rest) sessions state = t :: turns call rest
      t.outcome.sessions ((attempt.run call sessions).run state).2 := rfl
    rw [hcons] at h ⊢
    have ht : t.IsHarmless call := h t List.mem_cons_self
    rw [capturedIn_cons]
    refine (ih fun u hu => h u (List.mem_cons_of_mem t hu)).trans ?_
    by_cases hs : t.attempt.session = session
    · subst hs
      rw [if_pos rfl, List.foldl_append, t.get_sessions_self rfl ht]
    · rw [if_neg hs, t.get_sessions_of_ne rfl (Ne.symm hs)]

/-- A run is faithful exactly if each call that captures from an answer that cannot be told finds what it
captures in its session. -/
theorem isFaithful_turns_iff (attempts : List Attempt) (state : σ)
    (_ : ∀ t ∈ attempts, t.client.IsPaired) :
    IsFaithful (turns call attempts {} state) ↔
      ∀ t ∈ turns call attempts {} state, t.IsHarmless call := by
  constructor
  · intro h t ht
    exact (t.isHarmless_iff (isRun_of_mem_turns ht)).2 (h.unanswered t ht)
  · intro h
    refine ⟨fun session => ?_, fun t ht => ?_, fun t ht session hs => ?_⟩
    · exact get_after h session
    · exact (t.isHarmless_iff (isRun_of_mem_turns ht)).1 (h t ht)
    · exact t.get_sessions_of_ne (isRun_of_mem_turns ht) hs

end Run

section Heeding

def noFunctions : Template.Resolver (StateM Unit) := fun _ _ => throw .emptyFunctionName

def heeding (session : String) (a : Received) (text : String) : Attempt where
  request := { method := .get, url := "http://h/", captures := "# @capture x = headers.x" }
  scopes := {}
  session
  patience := .whole 30
  client := .giving a text

theorem resolve_get (captures : String) (call : Template.Resolver (StateM Unit)) :
    ((({ method := .get, url := "http://h/", captures } : Request).resolve {} call).run.run ()).1 =
      .ok { method := .get, url := "http://h/", captures } := by
  have hurl : Template.substitute "http://h/" {} call = pure "http://h/" := rfl
  simp only [Request.resolve, hurl]
  rfl

theorem reached?_heeding {session text value : String} {a : Received}
    (call : Template.Resolver (StateM Unit))
    (hheader : (Response.mk a.headers a.body).header? "x" = some value) :
    (heeding session a text).reached? call () = some (a, .ofEntries [("x", value)]) := by
  have hresolve : (((heeding session a text).request.resolve {} call).run.run ()).1 =
      .ok (heeding session a text).request :=
    resolve_get _ call
  have hdirectives : Capture.directives (heeding session a text).request.captures =
      [⟨"x", ⟨.header, "x"⟩⟩] := by
    change Capture.directives "# @capture x = headers.x" = _
    rfl
  have hcapture : (Response.mk a.headers a.body).capture [⟨"x", ⟨.header, "x"⟩⟩] none =
      .ok (.ofEntries [("x", value)]) := by
    simp only [Response.capture, List.foldlM_cons, List.foldlM_nil, Response.extract, hheader]
    rfl
  change (match (((heeding session a text).request.resolve {} call).run.run ()).1 with
    | .error _ => none
    | .ok resolved => Exchange.reached? (.giving a text) resolved) = _
  rw [hresolve]
  simp only [Exchange.reached?, Client.giving, hdirectives, hcapture]

theorem captured?_heeding {session text value : String} {a : Received}
    (hheader : (Response.mk a.headers a.body).header? "x" = some value)
    (hplain : declaresJson ((a.headers.get? "content-type").getD "") = false) :
    (((heeding session a text).run noFunctions {}).run ()).1.captured? =
      some (.ofEntries [("x", value)]) := by
  have htold : ¬IsUntold (heeding session a text).client a := by
    rintro ⟨hdeclares, -⟩
    cases hdeclares.symm.trans hplain
  have hresult : (((heeding session a text).run noFunctions {}).run ()).1.result =
      (answered (heeding session a text).client a (.ofEntries [("x", value)])).map .ok :=
    (run_of_reached?_eq_some noFunctions () (reached?_heeding _ hheader)).2
  obtain ⟨x, hx, hcaptured⟩ := answered_of_not_isUntold (.ofEntries [("x", value)]) htold
  rw [Outcome.captured?, hresult, hx, ← hcaptured]
  rfl

def noted : Received := ⟨"http://h/", 200, "OK", .ofEntries [("x", "1")], []⟩

def noting : Attempt := heeding "s" noted ""

theorem isPaired_noting : noting.client.IsPaired := by
  rintro r a ⟨⟩
  exact Json.isPairedBody_nil

/-- The value that is captured stands in the session. -/
theorem isFaithful_noting : (∀ t ∈ [noting], t.client.IsPaired) ∧
    IsFaithful (turns noFunctions [noting] {} ()) ∧
    (after {} (turns noFunctions [noting] {} ())).get "s" = .ofEntries [("x", "1")] := by
  have hpaired : ∀ t ∈ [noting], t.client.IsPaired := by
    simpa using isPaired_noting
  have hfaithful : IsFaithful (turns noFunctions [noting] {} ()) := by
    refine (isFaithful_turns_iff [noting] () hpaired).2 fun t ht a captured hreached huntold => ?_
    obtain rfl := List.mem_singleton.1 ht
    cases (reached?_heeding noFunctions rfl).symm.trans hreached
    cases huntold.1
  have hturns : turns noFunctions [noting] {} () =
      [⟨noting, (), {}, ((noting.run noFunctions {}).run ()).1⟩] := rfl
  refine ⟨hpaired, hfaithful, ?_⟩
  rw [hfaithful.contents, hturns, capturedIn_cons, noting, captured?_heeding rfl rfl]
  rfl

/-- An answer with a number of so many digits as its document. -/
def counted (digits : Nat) : Received where
  url := "http://h/"
  status := 200
  reason := "OK"
  headers := .ofEntries [("content-type", "application/json"), ("x", "1")]
  body := List.replicate digits 0x31

def counting (digits : Nat) : Attempt :=
  heeding "s" (counted digits) (String.ofList (List.replicate digits '1'))

def isRefused : Except Json.ReadError Json.Value → Bool
  | .error (.refused _) => true
  | _ => false

theorem read_ones : ∃ fault, Json.read .all (List.replicate 4301 '1') = .error (.refused fault) := by
  have h : isRefused (Json.read .all (List.replicate 4301 '1')) = true := by decide +kernel
  generalize Json.read .all (List.replicate 4301 '1') = e at h
  rcases e with (⟨⟩ | ⟨fault⟩) | v
  · cases h
  · exact ⟨fault, rfl⟩
  · cases h

theorem isUntold_counting : IsUntold (counting 4301).client (counted 4301) := by
  refine ⟨rfl, ?_⟩
  rw [String.toList_ofList]
  exact read_ones

/-- A number too long to be read is refused after the record. -/
theorem not_forall_isFaithful_turns :
    ¬ ∀ (call : Template.Resolver (StateM Unit)) (attempts : List Attempt),
      IsFaithful (turns call attempts {} ()) := by
  intro h
  let t : Turn Unit := ⟨counting 4301, (), {}, (((counting 4301).run noFunctions {}).run ()).1⟩
  have hf := h noFunctions [counting 4301]
  have ht : t.IsHarmless noFunctions := (t.isHarmless_iff rfl).2 (hf.unanswered t List.mem_cons_self)
  have heq := ht _ _ (reached?_heeding noFunctions rfl) isUntold_counting
  have hget := congrArg (OrderedMap.get? · "x") heq
  cases hget

end Heeding

end TemplatedRequests.Exchange
