import TemplatedRequests.Proofs.Service.Atomic
import TemplatedRequests.Proofs.Store.Drafted

/-!
How calls end that ask for an operation of the store. Fields of an update may be left out or be null,
and null is written as it is, so that the constraints of the tables are first met there.
-/

namespace TemplatedRequests

/-- Fields of a body that an operation takes its changes from. -/
def Store.Operation.changedFields : Store.Operation → List String
  | .update _ _ => ["name", "is_active", "is_shared"]
  | .updateVariable _ _ => ["key", "value"]
  | _ => []

namespace Service

section Given

theorem Checked.both_eq_ok {α β : Type} {x : Checked α} {y : Checked β} {p : α × β}
    (h : x.both y = .ok p) : x = .ok p.1 ∧ y = .ok p.2 := by
  cases x <;> cases y <;> cases h
  exact ⟨rfl, rfl⟩

theorem Checked.within_eq_ok {α : Type} {place : String} {x : Checked α} {a : α}
    (h : x.within place = .ok a) : x = .ok a := by
  cases x <;> cases h
  rfl

theorem map_eq_ok {α β : Type} {x : Checked α} {f : α → β} {b : β} (h : x.map f = .ok b) :
    ∃ a, x = .ok a ∧ f a = b := by
  cases x <;> cases h
  exact ⟨_, rfl, rfl⟩

theorem bind_eq_ok {ε α β : Type} {x : Except ε α} {f : α → Except ε β} {b : β}
    (h : (x >>= f) = .ok b) : ∃ a, x = .ok a ∧ f a = .ok b := by
  cases x with
  | error e => cases h
  | ok a => exact ⟨a, rfl, h⟩

theorem accepted_eq_ok {α : Type} {x : Checked α} {a : α} (h : accepted x = .ok a) : x = .ok a := by
  cases x <;> cases h
  rfl

variable {fs : Fields}

/-- A field is null in an object if the object says so, which is not the same as leaving it out. -/
def IsNull (fs : Fields) (name : String) : Prop := OrderedMap.look name fs = some .null

theorem change_eq_null_iff {α : Type} {name : String} {check : Check α} {c : Change α}
    (h : Payload.change name check fs = .ok c) : c = .null ↔ IsNull fs name := by
  unfold Payload.change optional at h
  rw [IsNull]
  cases hlook : OrderedMap.look name fs with
  | none =>
    rw [hlook] at h
    cases h
    simp
  | some v =>
    rw [hlook] at h
    obtain ⟨o, ho, hc⟩ := map_eq_ok (Checked.within_eq_ok h)
    cases v with
    | null =>
      cases ho
      simp [← hc]
    | _ =>
      obtain ⟨a, -, rfl⟩ := map_eq_ok ho
      simp [← hc]

theorem hasNull_environmentChanges {changes : Store.EnvironmentChanges} {v : Json.Value}
    (h : Payload.environmentChanges v = .ok changes) : ∃ fs, v = .object fs ∧
      (changes.HasNull ↔ ∃ name ∈ ["name", "is_active", "is_shared"], IsNull fs name) := by
  cases v with
  | object fs =>
    obtain ⟨⟨name, active, shared⟩, hp, rfl⟩ := map_eq_ok h
    obtain ⟨hname, hp⟩ := Checked.both_eq_ok hp
    obtain ⟨hactive, hshared⟩ := Checked.both_eq_ok hp
    refine ⟨fs, rfl, ?_⟩
    rw [Store.EnvironmentChanges.HasNull, change_eq_null_iff hname, change_eq_null_iff hactive,
      change_eq_null_iff hshared]
    simp
  | _ => cases h

theorem hasNull_variableChanges {changes : Store.VariableChanges} {v : Json.Value}
    (h : Payload.variableChanges v = .ok changes) : ∃ fs, v = .object fs ∧
      (changes.HasNull ↔ ∃ name ∈ ["key", "value"], IsNull fs name) := by
  cases v with
  | object fs =>
    obtain ⟨⟨key, value⟩, hp, rfl⟩ := map_eq_ok h
    obtain ⟨hkey, hvalue⟩ := Checked.both_eq_ok hp
    refine ⟨fs, rfl, ?_⟩
    rw [Store.VariableChanges.HasNull, change_eq_null_iff hkey, change_eq_null_iff hvalue]
    simp
  | _ => cases h

variable {c : Call}

theorem numberAndBody_eq_ok {α : Type} {name text : String} {check : Check α} {p : Int × α}
    (h : numberAndBody name text check c = .ok p) :
    ∃ v, readBody c = .ok (.document v) ∧ check v = .ok p.2 := by
  obtain ⟨b, hb, h⟩ := bind_eq_ok h
  obtain ⟨⟨id, a⟩, hchecked, h⟩ := bind_eq_ok h
  obtain ⟨id', -, h⟩ := bind_eq_ok h
  cases h
  obtain ⟨-, hbody⟩ := Checked.both_eq_ok (accepted_eq_ok hchecked)
  have hbody := Checked.within_eq_ok hbody
  cases b with
  | document v => exact ⟨v, hb, hbody⟩
  | _ => cases hbody

/-- The body of a call is an object with null for one of some fields. -/
def Call.GivesNull (c : Call) (names : List String) : Prop :=
  ∃ fs, readBody c = .ok (.document (.object fs)) ∧ ∃ name ∈ names, IsNull fs name

theorem givesNull_iff {names : List String} (h : readBody c = .ok (.document (.object fs))) :
    c.GivesNull names ↔ ∃ name ∈ names, IsNull fs name := by
  simp [Call.GivesNull, h]

variable {text : String} {o : Operation} {id : Int}

theorem numberAndBody_of_update {changes : Store.EnvironmentChanges}
    (h : o.asked? c text = some (.update id changes)) :
    numberAndBody "environment_id" text Payload.environmentChanges c = .ok (id, changes) := by
  cases o with
  | updateEnvironment =>
    obtain ⟨p, hp, heq⟩ := toOption_map_eq_some_iff.1 h
    cases heq
    exact hp
  | _ => simp [Operation.asked?] at h

theorem numberAndBody_of_updateVariable {changes : Store.VariableChanges}
    (h : o.asked? c text = some (.updateVariable id changes)) :
    numberAndBody "variable_id" text Payload.variableChanges c = .ok (id, changes) := by
  cases o with
  | updateVariable =>
    obtain ⟨p, hp, heq⟩ := toOption_map_eq_some_iff.1 h
    cases heq
    exact hp
  | _ => simp [Operation.asked?] at h

theorem hasNull_of_operation {op : Store.Operation} (h : o.asked? c text = some op) :
    op.HasNull ↔ c.GivesNull op.changedFields := by
  cases op with
  | update id changes =>
    obtain ⟨v, hv, hchanges⟩ := numberAndBody_eq_ok (numberAndBody_of_update h)
    obtain ⟨fs, rfl, hnull⟩ := hasNull_environmentChanges hchanges
    exact hnull.trans (givesNull_iff hv).symm
  | updateVariable id changes =>
    obtain ⟨v, hv, hchanges⟩ := numberAndBody_eq_ok (numberAndBody_of_updateVariable h)
    obtain ⟨fs, rfl, hnull⟩ := hasNull_variableChanges hchanges
    exact hnull.trans (givesNull_iff hv).symm
  | _ => simp [Store.Operation.HasNull, Store.Operation.changedFields, Call.GivesNull]

theorem hasNull_iff_givesNull {op : Store.Operation} (h : c.asked? = some op) :
    op.HasNull ↔ c.GivesNull op.changedFields := by
  unfold Call.asked? at h
  dsimp only at h
  cases htarget : (route (Text.upperCase c.method) hopLimit c.address).1 with
  | operation o texts =>
    rw [htarget] at h
    exact hasNull_of_operation h
  | _ =>
    rw [htarget] at h
    cases h

end Given

section Ended

variable {σ : Type} (call : Template.Resolver (StateM σ)) (patience : Patience)

/-- The call succeeds, or what it asks for is not there or not allowed. -/
def EndsWell (r : Result) : Prop := r.reply.status < 400 ∨ r.reply.status = 400 ∨ r.reply.status = 404

theorem status_ofRefusal_of_ne {refusal : Refusal} (h : refusal ≠ .nullColumn) :
    (Reply.ofRefusal refusal).status = 400 ∨ (Reply.ofRefusal refusal).status = 404 := by
  cases refusal with
  | nullColumn => exact absurd rfl h
  | sharedActive => exact .inl rfl
  | noEnvironment id => exact .inr rfl
  | noVariable id => exact .inr rfl

variable {s : State} {c : Call} {op : Store.Operation}

theorem endsWell_serve_iff (h : s.store.Sound) (hc : c.asked? = some op) (state : σ) :
    EndsWell ((serve call patience s c).run state).1 ↔ ¬op.WritesNull s.store := by
  rw [EndsWell, ← h.apply_eq_nullColumn_iff]
  rcases serve_of_asked call patience s hc state with ⟨refusal, hop, -, hstatus⟩ | ⟨hop, hstatus⟩
  · rw [hstatus, hop, Except.error.injEq]
    refine ⟨?_, fun hne => .inr (status_ofRefusal_of_ne hne)⟩
    rintro hends rfl
    simp [Reply.ofRefusal, Reply.coded] at hends
  · exact iff_of_true (.inl hstatus) (by simp [hop])

theorem serve_of_writesNull (h : s.store.Sound) (hc : c.asked? = some op)
    (hnull : op.WritesNull s.store) (state : σ) :
    ((serve call patience s c).run state).1.reply.status = 500 ∧
      ((serve call patience s c).run state).1.state = s := by
  have hrefused := h.apply_eq_nullColumn_iff.2 hnull
  rcases serve_of_asked call patience s hc state with ⟨refusal, hop, hs, hstatus⟩ | ⟨hop, -⟩
  · rw [hrefused, Except.error.injEq] at hop
    rw [hstatus, ← hop]
    exact ⟨rfl, hs⟩
  · rw [hrefused] at hop
    cases hop

theorem sound_serve (h : s.store.Sound) (hc : c.asked? = some op) (state : σ) :
    ((serve call patience s c).run state).1.state.store.Sound := by
  rcases serve_of_asked call patience s hc state with ⟨-, -, hs, -⟩ | ⟨hop, -⟩
  · rwa [hs]
  · exact h.apply hop

/-- Calls that pass the checks of path and body end in success, or because what they ask for is not
there or not allowed, unless they update a row and give null for one of its columns. That breaks the
constraints of the tables, which is told as an error of the database, and nothing is changed. All else that
calls write keeps the constraints and stays. -/
theorem endsWell_iff (h : s.store.Reachable) (hc : c.asked? = some op) (state : σ) :
    let r := ((serve call patience s c).run state).1
    (EndsWell r ↔ ¬op.WritesNull s.store) ∧
    (op.WritesNull s.store ↔ c.GivesNull op.changedFields ∧ ∃ d, op.draft s.store = .ok d) ∧
    (op.WritesNull s.store → r.reply.status = 500 ∧ r.state = s) ∧
    (∀ d, op.draft s.store = .ok d →
      (d.IsAccepted ↔ ¬op.WritesNull s.store) ∧ (d.IsAccepted → d = .ofStore r.state.store)) ∧
    (Draft.ofStore r.state.store).IsAccepted := by
  intro r
  refine ⟨endsWell_serve_iff call patience h.sound hc state, ?_, fun hnull => ?_, fun d hd => ?_, ?_⟩
  · rw [← hasNull_iff_givesNull hc, h.sound.writesNull_iff]
  · exact serve_of_writesNull call patience h.sound hc hnull state
  · refine ⟨h.sound.isAccepted_iff hd, fun haccepted => ?_⟩
    obtain ⟨t, hop, rfl⟩ := h.sound.draft_eq hd haccepted
    rcases serve_of_asked call patience s hc state with ⟨refusal, hop', -⟩ | ⟨hop', -⟩
    · rw [hop] at hop'
      cases hop'
    · rw [hop] at hop'
      cases hop'
      rfl
  · exact (sound_serve call patience h.sound hc state).isAccepted

def nullingCall : Call where
  method := "PUT"
  address := { path := "/api/environments/1".toList }
  body := "\x7b\"name\": null\x7d"

theorem route_nullingCall :
    route (Text.upperCase nullingCall.method) hopLimit nullingCall.address =
      (.operation .updateEnvironment ["1"], nullingCall.address) := by
  decide +kernel

theorem readBody_nullingCall : readBody nullingCall = .ok (.document (.object [("name", .null)])) := by
  have hread : Json.read .all nullingCall.body.toList = .ok (.object [("name", .null)]) := by
    refine Json.read_ofList ?_
    with_unfolding_all rfl
  exact readBody_eq_document (by decide +kernel) (by decide +kernel) (by decide +kernel) hread

theorem asked?_nullingCall : nullingCall.asked? = some (.update 1 { name := .null }) := by
  refine asked?_of_update route_nullingCall ?_
  rw [numberAndBody, readBody_nullingCall]
  rfl

theorem writesNull_switchable :
    (Store.Operation.update 1 { name := .null }).WritesNull switchable.store :=
  ⟨.inl rfl, ⟨1, "dev", false, false⟩, List.mem_cons_self, rfl, by decide⟩

/-- The first environment keeps its name, and the caller is told of an error of the database. -/
theorem serve_nullingCall :
    ((serve noFunctions (.whole 30) switchable nullingCall).run ()).1.reply.status = 500 ∧
      ((serve noFunctions (.whole 30) switchable nullingCall).run ()).1.state = switchable :=
  (endsWell_iff noFunctions (.whole 30) reachable_switchable asked?_nullingCall ()).2.2.1
    writesNull_switchable

/-- Calls that pass the checks of path and body may end in an error of the database. -/
theorem not_forall_endsWell : ¬ ∀ (s : State) (c : Call), s.store.Reachable → c.asked?.isSome = true →
    EndsWell ((serve noFunctions (.whole 30) s c).run ()).1 := by
  intro hall
  have hends := hall switchable nullingCall reachable_switchable (by rw [asked?_nullingCall]; rfl)
  rw [endsWell_serve_iff noFunctions (.whole 30) reachable_switchable.sound asked?_nullingCall] at hends
  exact hends writesNull_switchable

end Ended

end Service

end TemplatedRequests
