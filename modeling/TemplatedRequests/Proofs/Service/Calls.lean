import TemplatedRequests.Proofs.Store.Operations
import TemplatedRequests.Service

/-!
What calls of the service do to the store: a call that asks for an operation of the store performs it
or is refused, any other one leaves the store as it was. So calls lead only to states that
operations lead to.
-/

namespace TemplatedRequests.Service

section Yields

variable {σ α β : Type}

/-- Whatever a computation gives, if it gives anything, has a property. -/
def Yields (x : ExceptT Reply (StateM σ) α) (P : α → Prop) : Prop :=
  ∀ state a, (x.run.run state).1 = .ok a → P a

variable {x : ExceptT Reply (StateM σ) α} {f : α → ExceptT Reply (StateM σ) β} {P : β → Prop}

theorem yields_pure {b : β} (h : P b) : Yields (pure b : ExceptT Reply (StateM σ) β) P := by
  intro state b' hb
  cases hb
  exact h

theorem yields_throw (reply : Reply) : Yields (throw reply : ExceptT Reply (StateM σ) β) P := by
  intro state b hb
  cases hb

theorem yields_bind (h : ∀ a, Yields (f a) P) : Yields (x >>= f) P := by
  intro state b hb
  rw [ExceptT.run_bind, StateT.run_bind] at hb
  rcases hx : x.run.run state with ⟨reply | a, next⟩
  · rw [hx] at hb
    cases hb
  · rw [hx] at hb
    exact h a next b hb

theorem yields_bind_lift {e : Except Reply α} (h : ∀ a, e = .ok a → Yields (f a) P) :
    Yields ((liftM e : ExceptT Reply (StateM σ) α) >>= f) P := by
  intro state b hb
  cases e with
  | error reply => cases hb
  | ok a => exact h a rfl state b hb

theorem yields_lift {e : Except Reply β} (h : ∀ b, e = .ok b → P b) :
    Yields (liftM e : ExceptT Reply (StateM σ) β) P := by
  intro state b hb
  cases e with
  | error reply => cases hb
  | ok b' =>
    cases hb
    exact h _ rfl

end Yields

section Asked

def numberIn (name text : String) : Except Reply Int := do stored (← accepted (pathNumber name text))

/-- The operation of the store that a call asks for, if path and body are as they should be; `text`
is what stands in the open segment of the path. -/
def Operation.asked? (c : Call) (text : String) : Operation → Option Store.Operation
  | .createEnvironment => (bodyOf Payload.newEnvironment c).toOption.map .create
  | .updateEnvironment =>
    (numberAndBody "environment_id" text Payload.environmentChanges c).toOption.map fun p =>
      .update p.1 p.2
  | .deleteEnvironment => (numberIn "environment_id" text).toOption.map .delete
  | .activateEnvironment => (numberIn "environment_id" text).toOption.map .activate
  | .addVariable =>
    (numberAndBody "environment_id" text Payload.newVariable c).toOption.map fun p =>
      .addVariable p.1 p.2.1 p.2.2
  | .updateVariable =>
    (numberAndBody "variable_id" text Payload.variableChanges c).toOption.map fun p =>
      .updateVariable p.1 p.2
  | .deleteVariable => (numberIn "variable_id" text).toOption.map .deleteVariable
  | _ => none

def Destination.asked? (c : Call) : Destination → Option Store.Operation
  | .operation o texts => o.asked? c (texts.head?.getD "")
  | _ => none

def Call.asked? (c : Call) : Option Store.Operation :=
  let target := route (Text.upperCase c.method) hopLimit c.address
  target.1.asked? { c with address := target.2 }

theorem toOption_map_eq_some_iff {α β : Type} {e : Except Reply α} {f : α → β} {b : β} :
    e.toOption.map f = some b ↔ ∃ a, e = .ok a ∧ f a = b := by
  cases e <;> simp [Except.toOption]

theorem numberIn_eq_ok_iff {name text : String} {id : Int} : numberIn name text = .ok id ↔
    ∃ n, accepted (pathNumber name text) = .ok n ∧ stored n = .ok id := by
  unfold numberIn
  cases accepted (pathNumber name text) <;> simp [bind, Except.bind]

/-- The operation was refused and the reply says why, or it was performed. -/
def Reports (s : State) (op : Store.Operation) (outcome : Except Reply Result) : Prop :=
  (∃ refusal, op.apply s.store = .error refusal ∧ outcome = .error (.ofRefusal refusal)) ∨
    ∃ r, op.apply s.store = .ok r.state.store ∧ r.reply.status < 400 ∧ outcome = .ok r

end Asked

section Perform

variable {σ : Type} (call : Template.Resolver (StateM σ)) (patience : Patience) (s : State)
variable (c : Call)

theorem run_bind_lift {α β : Type} {e : Except Reply α} {a : α} (h : e = .ok a)
    (f : α → ExceptT Reply (StateM σ) β) (state : σ) :
    ((liftM e : ExceptT Reply (StateM σ) α) >>= f).run.run state = (f a).run.run state := by
  rw [h]
  rfl

theorem reports_permitted {α : Type} {op : Store.Operation} {e : Except Refusal α} {store : α → Store}
    {f : α → Result} (hop : op.apply s.store = e.map store)
    (hf : ∀ a, (f a).state.store = store a ∧ (f a).reply.status < 400) (state : σ) :
    Reports s op (((liftM (permitted e) : ExceptT Reply (StateM σ) α) >>= fun a =>
      pure (f a)).run.run state).1 := by
  cases e with
  | error refusal => exact .inl ⟨refusal, hop, rfl⟩
  | ok a =>
    obtain ⟨hstore, hstatus⟩ := hf a
    exact .inr ⟨f a, by rw [hop, hstore]; rfl, hstatus, rfl⟩

variable {c} {text : String} {o : Operation} {op : Store.Operation}

theorem reports_perform (h : o.asked? c text = some op) (state : σ) :
    Reports s op ((perform call patience s c text o).run.run state).1 := by
  cases o with
  | createEnvironment =>
    obtain ⟨new, hnew, rfl⟩ := toOption_map_eq_some_iff.1 h
    rw [perform, run_bind_lift hnew]
    exact reports_permitted s rfl (fun p => ⟨rfl, by simp [keepEnvironment, keep]⟩) state
  | updateEnvironment =>
    obtain ⟨p, hp, rfl⟩ := toOption_map_eq_some_iff.1 h
    rw [perform, run_bind_lift hp]
    exact reports_permitted s rfl (fun p => ⟨rfl, by simp [keepEnvironment, keep]⟩) state
  | deleteEnvironment =>
    obtain ⟨id, hid, rfl⟩ := toOption_map_eq_some_iff.1 h
    obtain ⟨n, hn, hstored⟩ := numberIn_eq_ok_iff.1 hid
    rw [perform, run_bind_lift hn, run_bind_lift hstored]
    exact reports_permitted s (congrFun Except.map_id _).symm (fun t => ⟨rfl, by simp [gone]⟩) state
  | activateEnvironment =>
    obtain ⟨id, hid, rfl⟩ := toOption_map_eq_some_iff.1 h
    obtain ⟨n, hn, hstored⟩ := numberIn_eq_ok_iff.1 hid
    rw [perform, run_bind_lift hn, run_bind_lift hstored]
    exact reports_permitted s rfl (fun p => ⟨rfl, by simp [keepEnvironment, keep]⟩) state
  | addVariable =>
    obtain ⟨p, hp, rfl⟩ := toOption_map_eq_some_iff.1 h
    rw [perform, run_bind_lift hp]
    exact reports_permitted s rfl (fun p => ⟨rfl, by simp [keepVariable, keep]⟩) state
  | updateVariable =>
    obtain ⟨p, hp, rfl⟩ := toOption_map_eq_some_iff.1 h
    rw [perform, run_bind_lift hp]
    exact reports_permitted s rfl (fun p => ⟨rfl, by simp [keepVariable, keep]⟩) state
  | deleteVariable =>
    obtain ⟨id, hid, rfl⟩ := toOption_map_eq_some_iff.1 h
    obtain ⟨n, hn, hstored⟩ := numberIn_eq_ok_iff.1 hid
    rw [perform, run_bind_lift hn, run_bind_lift hstored]
    exact reports_permitted s (congrFun Except.map_id _).symm (fun t => ⟨rfl, by simp [gone]⟩) state
  | _ => cases h

theorem reports_answer {destination : Destination} (h : destination.asked? c = some op) (state : σ) :
    Reports s op ((answer call patience s c destination).run.run state).1 := by
  cases destination with
  | nowhere => cases h
  | wrongMethod => cases h
  | operation o texts => exact reports_perform call patience s h state

end Perform

section Keeps

def Keeps (s : State) (r : Result) : Prop := r.state.store = s.store

variable {σ : Type} (call : Template.Resolver (StateM σ)) (patience : Patience) (s : State)
variable (c : Call)

variable {c} in
theorem keeps_lookup {name : String} {r : Result} (h : lookup s c name = .ok r) : Keeps s r := by
  unfold lookup at h
  cases he : accepted (queryNumber "environment_id" c) with
  | error reply => simp [he, bind, Except.bind] at h
  | ok environment =>
    cases hs : scopesFor s environment (c.parameter? "session_id") ∅ ∅ with
    | error reply => simp [he, hs, bind, Except.bind] at h
    | ok scopes =>
      simp only [he, hs, bind, Except.bind] at h
      cases h
      rfl

variable {c} in
theorem keeps_extract {r : Result} (h : extract s c = .ok r) : Keeps s r := by
  unfold extract at h
  cases hp : bodyOf Payload.extract c with
  | error reply => simp [hp, bind, Except.bind] at h
  | ok p =>
    simp only [hp, bind, Except.bind] at h
    split at h
    · cases h
      rfl
    · cases h

theorem yields_execute : Yields (execute call patience s c) (Keeps s) := by
  unfold execute
  exact yields_bind fun _ => yields_bind fun _ => yields_bind fun _ => yields_bind fun _ =>
    yields_pure rfl

theorem yields_resolveText : Yields (resolveText call s c) (Keeps s) := by
  unfold resolveText
  exact yields_bind fun _ => yields_bind fun _ => yields_bind fun _ => yields_pure rfl

variable {c} {text : String} {o : Operation}

theorem yields_perform (h : o.asked? c text = none) :
    Yields (perform call patience s c text o) (Keeps s) := by
  have hasked {α : Type} {f : α → Store.Operation} {e : Except Reply α}
      (hnone : e.toOption.map f = none) {a : α} (ha : e = .ok a) : False := by
    rw [ha] at hnone
    cases hnone
  have hnumber {f : Int → Store.Operation} {name : String}
      (hnone : (numberIn name text).toOption.map f = none) {n id : Int}
      (hn : accepted (pathNumber name text) = .ok n) (hid : stored n = .ok id) : False :=
    hasked hnone (numberIn_eq_ok_iff.2 ⟨n, hn, hid⟩)
  cases o with
  | about => exact yields_pure rfl
  | health => exact yields_pure rfl
  | createEnvironment => exact yields_bind_lift fun new hnew => (hasked h hnew).elim
  | listEnvironments => exact yields_pure rfl
  | resolvedEnvironments => exact yields_bind fun _ => yields_bind fun _ => yields_pure rfl
  | getEnvironment =>
    refine yields_bind fun _ => yields_bind fun id => ?_
    split
    · exact yields_pure rfl
    · exact yields_throw _
  | updateEnvironment => exact yields_bind_lift fun p hp => (hasked h hp).elim
  | deleteEnvironment =>
    exact yields_bind_lift fun n hn => yields_bind_lift fun id hid => (hnumber h hn hid).elim
  | activateEnvironment =>
    exact yields_bind_lift fun n hn => yields_bind_lift fun id hid => (hnumber h hn hid).elim
  | addVariable => exact yields_bind_lift fun p hp => (hasked h hp).elim
  | updateVariable => exact yields_bind_lift fun p hp => (hasked h hp).elim
  | deleteVariable =>
    exact yields_bind_lift fun n hn => yields_bind_lift fun id hid => (hnumber h hn hid).elim
  | execute => exact yields_execute call patience s c
  | resolveText => exact yields_resolveText call s c
  | lookupVariable => exact yields_lift fun _ h => keeps_lookup s h
  | extractValue => exact yields_lift fun _ h => keeps_extract s h
  | parseCaptures => exact yields_bind fun _ => yields_pure rfl
  | getSession => exact yields_pure rfl
  | clearSession =>
    rw [perform]
    split
    · exact yields_pure rfl
    · exact yields_throw _

theorem yields_answer {destination : Destination} (h : destination.asked? c = none) :
    Yields (answer call patience s c destination) (Keeps s) := by
  cases destination with
  | nowhere => exact yields_throw _
  | wrongMethod => exact yields_throw _
  | operation o texts => exact yields_perform call patience s h

end Keeps

section Serve

variable {σ : Type} (call : Template.Resolver (StateM σ)) (patience : Patience) (s : State)
variable {c : Call} {op : Store.Operation}

def outcome (c : Call) : StateM σ (Except Reply Result) :=
  let target := route (Text.upperCase c.method) hopLimit c.address
  (answer call patience s { c with address := target.2 } target.1).run

def ended (s : State) : Except Reply Result → Nat × State
  | .error reply => (reply.status, s)
  | .ok r => (r.reply.status, r.state)

theorem serve_eq_ended (c : Call) (state : σ) :
    let r := ((serve call patience s c).run state).1
    (r.reply.status, r.state) = ended s ((outcome call patience s c).run state).1 := by
  unfold serve outcome
  dsimp only
  generalize route (Text.upperCase c.method) hopLimit c.address = target
  rw [StateT.run_bind]
  rcases (answer call patience s { c with address := target.2 } target.1).run.run state with
    ⟨reply | result, next⟩
  · change ((if _ then _ else _ : Result).reply.status, (if _ then _ else _ : Result).state) = _
    split <;> rfl
  · change ((if _ then _ else _ : Result).reply.status, (if _ then _ else _ : Result).state) = _
    split <;> rfl

/-- A call that asks for an operation of the store performs it, or it is refused. -/
theorem serve_of_asked (h : c.asked? = some op) (state : σ) :
    let r := ((serve call patience s c).run state).1
    (∃ refusal, op.apply s.store = .error refusal ∧ r.state = s ∧
      r.reply.status = (Reply.ofRefusal refusal).status) ∨
    op.apply s.store = .ok r.state.store ∧ r.reply.status < 400 := by
  intro r
  have hr : (r.reply.status, r.state) = _ := serve_eq_ended call patience s c state
  have houtcome : Reports s op ((outcome call patience s c).run state).1 :=
    reports_answer call patience s h state
  rcases houtcome with ⟨refusal, hop, ho⟩ | ⟨result, hop, hstatus, ho⟩
  · rw [ho] at hr
    obtain ⟨hstatus, hstate⟩ := Prod.mk.inj hr
    exact .inl ⟨refusal, hop, hstate, hstatus⟩
  · rw [ho] at hr
    obtain ⟨hr, hstate⟩ := Prod.mk.inj hr
    exact .inr ⟨by rw [hstate, hop], by rwa [hr]⟩

theorem serve_of_not_asked (h : c.asked? = none) (state : σ) :
    ((serve call patience s c).run state).1.state.store = s.store := by
  obtain ⟨-, hstate⟩ := Prod.mk.inj (serve_eq_ended call patience s c state)
  rw [hstate]
  rcases ho : ((outcome call patience s c).run state).1 with reply | result
  · rfl
  · exact yields_answer call patience s h state result ho

/-- Calls lead to no other stores than operations. -/
theorem reachable_serve (h : s.store.Reachable) (c : Call) (state : σ) :
    ((serve call patience s c).run state).1.state.store.Reachable := by
  cases hc : c.asked? with
  | none => rwa [serve_of_not_asked call patience s hc]
  | some op =>
    rcases serve_of_asked call patience s hc state with ⟨-, -, hs, -⟩ | ⟨hop, -⟩
    · rwa [hs]
    · have hperform := Store.Reachable.perform op h
      rwa [Store.Operation.perform, hop] at hperform

end Serve

end TemplatedRequests.Service
