import TemplatedRequests.Proofs.Service.Atomic
import TemplatedRequests.Proofs.Store.Snapshot

/-!
Which calls are told that an environment is missing. One that is to be resolved in counts as missing
also if it is shared, although it can be fetched.
-/

namespace TemplatedRequests

namespace Store

variable {s : Store} {id : Int}

/-- An environment is asked for in vain exactly if the store has none with its number. -/
def ReportsMissing (s : Store) (id : Int) : Prop :=
  s.snapshot (some id) = .error (.noEnvironment id) ↔ ∀ e ∈ s.environments, (e.id : Int) ≠ id

theorem lastChosen?_eq_none_iff : lastChosen? (some id) s.environments = none ↔
    ∀ e ∈ s.environments, (e.id : Int) = id → e.isShared = true := by
  simp only [lastChosen?, List.find?_eq_none, List.mem_reverse, isChosen, Bool.and_eq_true,
    Bool.not_eq_true', beq_iff_eq, not_and']
  exact forall_congr' fun e => forall_congr' fun _ => forall_congr' fun _ => by
    cases e.isShared <;> simp

/-- The number of a shared environment is never met, since shared ones are left out before numbers are
compared. -/
theorem snapshot_eq_error_iff {refusal : Refusal} : s.snapshot (some id) = .error refusal ↔
    refusal = .noEnvironment id ∧ ∀ e ∈ s.environments, (e.id : Int) = id → e.isShared = true := by
  rw [← lastChosen?_eq_none_iff]
  obtain ⟨-, hname⟩ := active_foldl_addToSnapshot s (some id) s.environments
  unfold snapshot
  generalize s.environments.foldl (s.addToSnapshot (some id)) ({}, none) = p at hname
  obtain ⟨gathered, active⟩ := p
  cases hc : lastChosen? (some id) s.environments with
  | none =>
    rw [hc] at hname
    obtain rfl : active = none := hname
    simp [eq_comm]
  | some e =>
    rw [hc] at hname
    obtain rfl : active = some e.name := hname
    simp

theorem Sound.reportsMissing_iff_of_isShared (h : s.Sound) : s.ReportsMissing id ↔
    ∀ e ∈ s.environments, (e.id : Int) = id → e.isShared = false := by
  rw [ReportsMissing, snapshot_eq_error_iff, and_iff_right rfl]
  constructor
  · intro hiff e he hid
    rw [← Bool.not_eq_true]
    intro hs
    refine hiff.1 (fun d hd hdid => ?_) e he hid
    rwa [h.eq_of_id hd he (by omega)]
  · intro hnone
    constructor
    · intro hall e he hid
      have := hall e he hid
      simp [hnone e he hid] at this
    · intro hall e he hid
      exact absurd hid (hall e he)

end Store

namespace Service

section Replies

def missing (id : Int) : Reply := .ofRefusal (.noEnvironment id)

variable {id : Int}

theorem ne_missing_of_status {reply : Reply} (h : reply.status ≠ 404) : reply ≠ missing id := by
  rintro rfl
  exact h rfl

/-- A name that is undefined is told with the same status, but with a code of its own. -/
theorem ofFault_ne_missing (f : Fault) : Reply.ofFault f ≠ missing id := by
  unfold Reply.ofFault
  cases f.report? with
  | none => exact ne_missing_of_status (by simp [Reply.internal])
  | some r =>
    have hcode : r.kind.code ≠ "RESOURCE_NOT_FOUND" := by cases r.kind <;> decide
    simp [missing, Reply.ofReport, Reply.ofRefusal, Reply.notFound, Reply.coded, hcode]

theorem ofProblem_ne_missing (problem : Exchange.Problem) : Reply.ofProblem problem ≠ missing id := by
  cases problem with
  | fault f => exact ofFault_ne_missing f
  | _ => exact ne_missing_of_status (by simp [Reply.ofProblem, Reply.internal])

theorem ofFailed_ne_missing (f : Failed) : Reply.ofFailed f ≠ missing id := by
  refine ne_missing_of_status ?_
  unfold Reply.ofFailed
  cases f.type <;> simp [Reply.failureStatus]

theorem replyTo_ne_missing (a : Answered) : replyTo a ≠ missing id := by
  refine ne_missing_of_status ?_
  unfold replyTo
  split <;> simp [Reply.ok, Reply.internal]

end Replies

section Replying

variable {σ α : Type} {P : Reply → Prop}

def replyIn : Except Reply Result → Reply
  | .error reply => reply
  | .ok r => r.reply

/-- The reply that a computation ends in has a property. -/
def Replies (x : ExceptT Reply (StateM σ) Result) (P : Reply → Prop) : Prop :=
  ∀ state, P (replyIn (x.run.run state).1)

variable {f : α → ExceptT Reply (StateM σ) Result}

theorem replies_pure {r : Result} (h : P r.reply) :
    Replies (pure r : ExceptT Reply (StateM σ) Result) P := fun _ => h

theorem replies_lift {e : Except Reply Result} (h : P (replyIn e)) :
    Replies (liftM e : ExceptT Reply (StateM σ) Result) P := by
  intro state
  cases e <;> exact h

theorem replies_bind_of_ok {e : Except Reply α} {a : α} (he : e = .ok a) (h : Replies (f a) P) :
    Replies ((liftM e : ExceptT Reply (StateM σ) α) >>= f) P := by
  intro state
  rw [run_bind_lift he]
  exact h state

theorem replies_bind_of_error {e : Except Reply α} {reply : Reply} (he : e = .error reply)
    (h : P reply) : Replies ((liftM e : ExceptT Reply (StateM σ) α) >>= f) P := by
  intro state
  rw [he]
  exact h

theorem replies_bind_lift {x : StateM σ α} (h : ∀ a, Replies (f a) P) :
    Replies (ExceptT.lift x >>= f) P := fun state => h (x.run state).1 (x.run state).2

theorem replies_bind_adapt {x : ExceptT Fault (StateM σ) α} (hfault : ∀ fault, P (.ofFault fault))
    (h : ∀ a, Replies (f a) P) : Replies (ExceptT.adapt Reply.ofFault x >>= f) P := by
  intro state
  have hrun : (ExceptT.adapt Reply.ofFault x).run.run state =
      ((x.run.run state).1.mapError Reply.ofFault, (x.run.run state).2) := StateT.run_map _ _ _
  rw [ExceptT.run_bind, StateT.run_bind, hrun]
  rcases x.run.run state with ⟨fault | a, next⟩
  · exact hfault fault
  · exact h a next

end Replying

section Requested

def executed (c : Call) : Except Reply (Option Int × Request) := do
  let b ← readBody c
  accepted (.both (queryNumber "environment_id" c) (bodyIssues Payload.request b))

/-- The environment that a call is to be resolved in, if the call is as it should be and names one. -/
def Operation.requested? (c : Call) : Operation → Option Int
  | .resolvedEnvironments => (accepted (queryNumber "environment_id" c)).toOption.join
  | .lookupVariable => (accepted (queryNumber "environment_id" c)).toOption.join
  | .resolveText => (bodyOf Payload.resolve c).toOption.bind (·.environment)
  | .execute => (executed c).toOption.bind (·.1)
  | _ => none

def Operation.fetched? (text : String) : Operation → Option Int
  | .getEnvironment => (numberIn "environment_id" text).toOption
  | _ => none

theorem toOption_eq_some_iff {α : Type} {e : Except Reply α} {a : α} :
    e.toOption = some a ↔ e = .ok a := by
  cases e <;> simp [Except.toOption]

theorem toOption_bind_eq_some_iff {α β : Type} {e : Except Reply α} {f : α → Option β} {b : β} :
    e.toOption.bind f = some b ↔ ∃ a, e = .ok a ∧ f a = some b := by
  simp only [Option.bind_eq_some_iff, toOption_eq_some_iff]

theorem toOption_join_eq_some_iff {β : Type} {e : Except Reply (Option β)} {b : β} :
    e.toOption.join = some b ↔ e = .ok (some b) := by
  rw [Option.join_eq_some_iff, toOption_eq_some_iff]

variable {s : State} {id : Int} {e : Environments} {refusal : Refusal}

theorem scopesFor_of_ok (h : s.store.snapshot (some id) = .ok e) (session : Option String)
    (file request : Bindings) : ∃ scopes, scopesFor s (some id) session file request = .ok scopes := by
  unfold scopesFor
  rw [h]
  exact ⟨_, rfl⟩

theorem scopesFor_of_error (h : s.store.snapshot (some id) = .error refusal) (session : Option String)
    (file request : Bindings) :
    scopesFor s (some id) session file request = .error (.ofRefusal refusal) := by
  unfold scopesFor
  rw [h]
  rfl

theorem permitted_of_ok {α : Type} {x : Except Refusal α} {a : α} (h : x = .ok a) :
    permitted x = .ok a := by
  rw [h]
  rfl

theorem permitted_of_error {α : Type} {x : Except Refusal α} (h : x = .error refusal) :
    permitted x = .error (.ofRefusal refusal) := by
  rw [h]
  rfl

theorem replyIn_lookup_of_error {c : Call} (hc : accepted (queryNumber "environment_id" c) = .ok (some id))
    (h : s.store.snapshot (some id) = .error refusal) (name : String) :
    replyIn (lookup s c name) = .ofRefusal refusal := by
  unfold lookup
  rw [hc]
  change replyIn (scopesFor s (some id) _ ∅ ∅ >>= _) = _
  rw [scopesFor_of_error h]
  rfl

theorem replyIn_lookup_of_ok {c : Call} (hc : accepted (queryNumber "environment_id" c) = .ok (some id))
    (h : s.store.snapshot (some id) = .ok e) (name : String) :
    (replyIn (lookup s c name)).status = 200 := by
  obtain ⟨scopes, hscopes⟩ := scopesFor_of_ok h (c.parameter? "session_id") ∅ ∅
  unfold lookup
  rw [hc]
  change (replyIn (scopesFor s (some id) _ ∅ ∅ >>= _)).status = _
  rw [hscopes]
  rfl

variable {σ : Type} (call : Template.Resolver (StateM σ)) (patience : Patience)
variable {c : Call} {text : String} {o : Operation}

theorem executed_eq_ok {p : Option Int × Request} (h : executed c = .ok p) : ∃ b, readBody c = .ok b ∧
    accepted (.both (queryNumber "environment_id" c) (bodyIssues Payload.request b)) = .ok p := by
  unfold executed at h
  cases hb : readBody c with
  | error reply =>
    rw [hb] at h
    cases h
  | ok b =>
    rw [hb] at h
    exact ⟨b, rfl, h⟩

theorem replies_of_error (hc : o.requested? c = some id)
    (h : s.store.snapshot (some id) = .error refusal) :
    Replies (perform call patience s c text o) (· = .ofRefusal refusal) := by
  cases o with
  | resolvedEnvironments =>
    have hc := toOption_join_eq_some_iff.1 hc
    exact replies_bind_of_ok hc (replies_bind_of_error (permitted_of_error h) rfl)
  | lookupVariable =>
    have hc := toOption_join_eq_some_iff.1 hc
    exact replies_lift (replyIn_lookup_of_error hc h text)
  | resolveText =>
    obtain ⟨p, hp, hid⟩ := toOption_bind_eq_some_iff.1 hc
    refine replies_bind_of_ok hp (replies_bind_of_error ?_ rfl)
    rw [hid]
    exact scopesFor_of_error h _ _ _
  | execute =>
    obtain ⟨⟨environment, request⟩, hp, hid⟩ := toOption_bind_eq_some_iff.1 hc
    obtain rfl : environment = some id := hid
    obtain ⟨b, hb, hp⟩ := executed_eq_ok hp
    exact replies_bind_of_ok hb (replies_bind_of_ok hp
      (replies_bind_of_error (scopesFor_of_error h _ _ _) rfl))
  | _ => cases hc

theorem replies_of_ok (hc : o.requested? c = some id) (h : s.store.snapshot (some id) = .ok e) :
    Replies (perform call patience s c text o) (· ≠ missing id) := by
  cases o with
  | resolvedEnvironments =>
    have hc := toOption_join_eq_some_iff.1 hc
    refine replies_bind_of_ok hc (replies_bind_of_ok (permitted_of_ok h) (replies_pure ?_))
    exact ne_missing_of_status (by simp [shown, Reply.ok])
  | lookupVariable =>
    have hc := toOption_join_eq_some_iff.1 hc
    refine replies_lift (ne_missing_of_status ?_)
    rw [replyIn_lookup_of_ok hc h]
    decide
  | resolveText =>
    obtain ⟨p, hp, hid⟩ := toOption_bind_eq_some_iff.1 hc
    obtain ⟨scopes, hscopes⟩ := scopesFor_of_ok h p.session p.fileVariables p.requestVariables
    rw [← hid] at hscopes
    refine replies_bind_of_ok hp (replies_bind_of_ok hscopes
      (replies_bind_adapt ofFault_ne_missing fun written => replies_pure ?_))
    exact ne_missing_of_status (by simp [shown, Reply.ok])
  | execute =>
    obtain ⟨⟨environment, request⟩, hp, hid⟩ := toOption_bind_eq_some_iff.1 hc
    obtain rfl : environment = some id := hid
    obtain ⟨b, hb, hp⟩ := executed_eq_ok hp
    obtain ⟨scopes, hscopes⟩ := scopesFor_of_ok h (some ((c.parameter? "session_id").getD "default"))
      request.fileVariables ∅
    refine replies_bind_of_ok hb (replies_bind_of_ok hp (replies_bind_of_ok hscopes
      (replies_bind_lift fun o => replies_pure ?_)))
    dsimp only
    split
    · exact ofProblem_ne_missing _
    · exact ofFailed_ne_missing _
    · exact replyTo_ne_missing _
  | _ => cases hc

theorem replies_requested (hc : o.requested? c = some id) :
    Replies (perform call patience s c text o) fun reply =>
      reply = missing id ↔ s.store.snapshot (some id) = .error (.noEnvironment id) := by
  intro state
  cases h : s.store.snapshot (some id) with
  | error refusal =>
    obtain ⟨rfl, -⟩ := Store.snapshot_eq_error_iff.1 h
    exact iff_of_true (replies_of_error call patience hc h state) rfl
  | ok e => exact iff_of_false (replies_of_ok call patience hc h state) nofun

theorem replies_fetched (hc : o.fetched? text = some id) :
    Replies (perform call patience s c text o) fun reply =>
      reply = missing id ↔ ∀ e ∈ s.store.environments, (e.id : Int) ≠ id := by
  cases o with
  | getEnvironment =>
    obtain ⟨n, hn, hstored⟩ := numberIn_eq_ok_iff.1 (toOption_eq_some_iff.1 hc)
    refine replies_bind_of_ok hn (replies_bind_of_ok hstored ?_)
    intro state
    cases he : s.store.environment? id with
    | none =>
      refine iff_of_true rfl fun e hm hid => ?_
      simpa [hid] using List.find?_eq_none.1 he e hm
    | some e =>
      obtain ⟨hm, hid⟩ := Store.mem_of_environment? he
      have hstatus : (200 : Nat) ≠ 404 := by decide
      exact iff_of_false (ne_missing_of_status hstatus) fun h => h e hm hid
  | _ => cases hc

end Requested

section Served

def Destination.requested? (c : Call) : Destination → Option Int
  | .operation o _ => o.requested? c
  | _ => none

def Destination.fetched? : Destination → Option Int
  | .operation o texts => o.fetched? (texts.head?.getD "")
  | _ => none

/-- The environment that a call is to be resolved in, if the call is as it should be and names one. -/
def Call.requested? (c : Call) : Option Int :=
  let target := route (Text.upperCase c.method) hopLimit c.address
  target.1.requested? { c with address := target.2 }

def Call.fetched? (c : Call) : Option Int :=
  (route (Text.upperCase c.method) hopLimit c.address).1.fetched?

theorem method_of_destinationOf {method : String} {path : List Char} {o : Operation}
    {texts : List String} (h : destinationOf method path = .operation o texts) :
    ∃ r ∈ routes, r.method = method := by
  unfold destinationOf at h
  dsimp only at h
  split at h
  · rename_i r args hfind
    obtain ⟨r', hr, hfit⟩ := List.mem_filterMap.1 (List.mem_of_find?_eq_some hfind)
    obtain ⟨args', -, heq⟩ := Option.map_eq_some_iff.1 hfit
    cases heq
    exact ⟨r, hr, by simpa using List.find?_some hfind⟩
  · split at h <;> cases h

theorem method_of_route {method : String} {hops : Nat} {address : Url} {o : Operation}
    {texts : List String} (h : (route method hops address).1 = .operation o texts) :
    ∃ r ∈ routes, r.method = method := by
  fun_induction route method hops address with
  | case1 hops address path hnowhere bare hbare next hnext ih => exact ih h
  | case2 hops address path hnowhere bare hbare problem hnext => cases h
  | case3 hops address path hnowhere bare hbare => cases h
  | case4 hops address path hsome => exact method_of_destinationOf h

theorem ne_head_of_mem_routes {r : Route} (h : r ∈ routes) : r.method ≠ "HEAD" := by
  have hall : ∀ r ∈ routes, r.method ≠ "HEAD" := by decide
  exact hall r h

variable {σ : Type} (call : Template.Resolver (StateM σ)) (patience : Patience) {s : State}
variable {c : Call} {id : Int} {P : Reply → Prop}

theorem reply_serve (hhead : Text.upperCase c.method ≠ "HEAD") {target : Destination × Url}
    (hroute : route (Text.upperCase c.method) hopLimit c.address = target) (state : σ) :
    ((serve call patience s c).run state).1.reply =
      replyIn ((answer call patience s { c with address := target.2 } target.1).run.run state).1 := by
  unfold serve
  dsimp only
  rw [hroute, StateT.run_bind]
  change (if _ then _ else _ : Result).reply = _
  rw [if_neg hhead]
  rcases (answer call patience s { c with address := target.2 } target.1).run.run state with
    ⟨reply | result, next⟩ <;> rfl

theorem reply_of_replies {target : Destination × Url} {o : Operation} {texts : List String}
    (hroute : route (Text.upperCase c.method) hopLimit c.address = target)
    (htarget : target.1 = .operation o texts)
    (h : Replies (perform call patience s { c with address := target.2 } (texts.head?.getD "") o) P)
    (state : σ) : P ((serve call patience s c).run state).1.reply := by
  obtain ⟨r, hr, hmethod⟩ := method_of_route (hroute ▸ htarget)
  have hhead : Text.upperCase c.method ≠ "HEAD" := hmethod ▸ ne_head_of_mem_routes hr
  rw [reply_serve call patience hhead hroute, htarget]
  exact h state

theorem serve_of_requested (hc : c.requested? = some id) (state : σ) :
    ((serve call patience s c).run state).1.reply = missing id ↔
      s.store.snapshot (some id) = .error (.noEnvironment id) := by
  unfold Call.requested? at hc
  dsimp only at hc
  cases htarget : (route (Text.upperCase c.method) hopLimit c.address).1 with
  | operation o texts =>
    rw [htarget] at hc
    exact reply_of_replies call patience rfl htarget (replies_requested call patience hc) state
  | _ =>
    rw [htarget] at hc
    cases hc

theorem serve_of_fetched (hc : c.fetched? = some id) (state : σ) :
    ((serve call patience s c).run state).1.reply = missing id ↔
      ∀ e ∈ s.store.environments, (e.id : Int) ≠ id := by
  unfold Call.fetched? at hc
  cases htarget : (route (Text.upperCase c.method) hopLimit c.address).1 with
  | operation o texts =>
    rw [htarget] at hc
    exact reply_of_replies call patience rfl htarget (replies_fetched call patience hc) state
  | _ =>
    rw [htarget] at hc
    cases hc

end Served

section Told

variable {σ : Type} (call : Template.Resolver (StateM σ)) (patience : Patience)

/-- That an environment is missing is reported for shared ones as well, so that the report is right
exactly where no environment with the number is shared. Calls that are to be resolved in an environment
are told that it is missing just where it is reported; a call that fetches it is told so only if there is
none. -/
theorem reportsMissing_iff {s : State} (h : s.store.Reachable) (id : Int) :
    (s.store.ReportsMissing id ↔ ∀ e ∈ s.store.environments, (e.id : Int) = id → e.isShared = false) ∧
    (s.store.snapshot (some id) = .error (.noEnvironment id) ↔
      ∀ e ∈ s.store.environments, (e.id : Int) = id → e.isShared = true) ∧
    ∀ (c : Call) (state : σ),
      (c.requested? = some id → (((serve call patience s c).run state).1.reply = missing id ↔
        s.store.snapshot (some id) = .error (.noEnvironment id))) ∧
      (c.fetched? = some id → (((serve call patience s c).run state).1.reply = missing id ↔
        ∀ e ∈ s.store.environments, (e.id : Int) ≠ id)) := by
  refine ⟨h.sound.reportsMissing_iff_of_isShared, ?_, fun c state => ⟨fun hc => ?_, fun hc => ?_⟩⟩
  · rw [Store.snapshot_eq_error_iff, and_iff_right rfl]
  · exact serve_of_requested call patience hc state
  · exact serve_of_fetched call patience hc state

def sharedOnly : State where
  store := { environments := [⟨1, "common", false, true⟩] }

theorem reachable_sharedOnly : sharedOnly.store.Reachable :=
  .perform (.create ⟨"common", false, true, []⟩) .empty

/-- Asks for the environments as they are resolved in the first one. -/
def resolvingCall : Call where
  method := "GET"
  address := { path := "/api/environments/resolved".toList, query := some "environment_id=1".toList }

def fetchingCall : Call where
  method := "GET"
  address := { path := "/api/environments/1".toList }

theorem requested?_resolvingCall : resolvingCall.requested? = some 1 := by
  decide +kernel

theorem fetched?_fetchingCall : fetchingCall.fetched? = some 1 := by
  decide +kernel

/-- The same environment is missing for one call and fetched by another. -/
theorem serve_sharedOnly :
    ((serve noFunctions (.whole 30) sharedOnly resolvingCall).run ()).1.reply = missing 1 ∧
      ((serve noFunctions (.whole 30) sharedOnly fetchingCall).run ()).1.reply ≠ missing 1 := by
  obtain ⟨-, hreported, hcalls⟩ := reportsMissing_iff noFunctions (.whole 30) reachable_sharedOnly 1
  have hsnapshot := hreported.2 (by simp [sharedOnly])
  refine ⟨((hcalls resolvingCall ()).1 requested?_resolvingCall).2 hsnapshot, fun hreply => ?_⟩
  have hnone := ((hcalls fetchingCall ()).2 fetched?_fetchingCall).1 hreply
  exact hnone ⟨1, "common", false, true⟩ List.mem_cons_self rfl

/-- A shared environment is reported as missing. -/
theorem not_forall_reportsMissing : ¬ ∀ s : Store, s.Reachable → ∀ id, s.ReportsMissing id := by
  intro hall
  have hreported := (hall _ reachable_sharedOnly 1).1 rfl
  exact hreported ⟨1, "common", false, true⟩ List.mem_cons_self rfl

end Told

end Service

end TemplatedRequests
