import TemplatedRequests.Proofs.Service.Calls
import TemplatedRequests.Proofs.Store.Applicable
import TemplatedRequests.Proofs.Store.Frame

/-!
Calls are done as a whole or not at all, and touch only what they name. They are done wherever nothing
stands against what they ask for.
-/

namespace TemplatedRequests.Service

variable {σ : Type} (call : Template.Resolver (StateM σ)) (patience : Patience) {s : State}

theorem status_ofRefusal (refusal : Refusal) :
    (Reply.ofRefusal refusal).status ∈ [404, 400, 500] := by
  cases refusal <;> simp [Reply.ofRefusal, Reply.notFound, Reply.coded]

theorem le_of_mem_refusals {status : Nat} (h : status ∈ [404, 400, 500]) : 400 ≤ status := by
  simp only [List.mem_cons, List.not_mem_nil, or_false] at h
  omega

variable {c : Call} {op : Store.Operation}

theorem serve_of_applies (h : s.store.Sound) (hc : c.asked? = some op) (hop : op.Applies s.store)
    (state : σ) :
    let r := ((serve call patience s c).run state).1
    r.reply.status < 400 ∧ op.apply s.store = .ok r.state.store := by
  intro r
  rcases serve_of_asked call patience s hc state with ⟨refusal, hrefused, -⟩ | ⟨hdone, hstatus⟩
  · obtain ⟨t, ht⟩ := h.isOk_apply hop
    cases ht.symm.trans hrefused
  · exact ⟨hstatus, hdone⟩

theorem serve_of_not_applies (hc : c.asked? = some op) (hop : ¬op.Applies s.store) (state : σ) :
    let r := ((serve call patience s c).run state).1
    r.reply.status ∈ [404, 400, 500] ∧ r.state = s := by
  intro r
  rcases serve_of_asked call patience s hc state with ⟨refusal, -, hs, hstatus⟩ | ⟨hdone, -⟩
  · exact ⟨hstatus ▸ status_ofRefusal refusal, hs⟩
  · exact absurd (Store.Operation.applies_of_apply hdone) hop

/-- A call that asks for an operation of the store is answered well exactly if nothing stands against
the operation. Then this is performed, and it changes what it names and nothing else. Every other call
leaves the store as it was, and the next call finds one that operations lead to. -/
theorem serve_changes (h : s.store.Reachable) (c : Call) (state : σ) :
    let r := ((serve call patience s c).run state).1
    r.state.store.Reachable ∧ (400 ≤ r.reply.status → r.state.store = s.store) ∧
    (c.asked? = none → r.state.store = s.store) ∧
    ∀ op, c.asked? = some op →
      (r.reply.status < 400 ↔ op.Applies s.store) ∧
      (op.Applies s.store →
        op.apply s.store = .ok r.state.store ∧ op.Changes s.store r.state.store) ∧
      (¬op.Applies s.store → r.reply.status ∈ [404, 400, 500]) := by
  intro r
  have hnone : c.asked? = none → r.state.store = s.store := fun hc =>
    serve_of_not_asked call patience s hc state
  refine ⟨reachable_serve call patience s h c state, fun hstatus => ?_, hnone, fun op hc => ?_⟩
  · cases hc : c.asked? with
    | none => exact hnone hc
    | some op =>
      by_cases hop : op.Applies s.store
      · obtain ⟨hlt, -⟩ := serve_of_applies call patience h.sound hc hop state
        exact absurd hstatus (Nat.not_le.2 hlt)
      · obtain ⟨-, hs⟩ := serve_of_not_applies call patience hc hop state
        exact congrArg State.store hs
  · have hrefused (hop : ¬op.Applies s.store) := serve_of_not_applies call patience hc hop state
    refine ⟨⟨fun hstatus => ?_, fun hop => ?_⟩, fun hop => ?_, fun hop => (hrefused hop).1⟩
    · by_contra hop
      exact absurd hstatus (Nat.not_lt.2 (le_of_mem_refusals (hrefused hop).1))
    · exact (serve_of_applies call patience h.sound hc hop state).1
    · obtain ⟨-, hdone⟩ := serve_of_applies call patience h.sound hc hop state
      exact ⟨hdone, Store.changes_of_apply h.sound hdone⟩

section Switched

theorem readBody_eq_document {c : Call} {v : Json.Value} (hpresent : c.body.isEmpty = false)
    (hannounced : announcesDocument c.contentType = true)
    (htext : Json.Encoded.text? (Text.Utf8.encode c.body.toList) = some c.body.toList)
    (hread : Json.read .all c.body.toList = .ok v) : readBody c = .ok (.document v) := by
  simp [readBody, hpresent, hannounced, htext, hread]

theorem asked?_of_update {c : Call} {text : String} {id : Int} {changes : Store.EnvironmentChanges}
    (hroute : route (Text.upperCase c.method) hopLimit c.address =
      (.operation .updateEnvironment [text], c.address))
    (hasked : numberAndBody "environment_id" text Payload.environmentChanges c = .ok (id, changes)) :
    c.asked? = some (.update id changes) := by
  rw [Call.asked?, hroute]
  change (numberAndBody "environment_id" text _ c).toOption.map _ = _
  rw [hasked]
  rfl

def switchingCall : Call where
  method := "PUT"
  address := { path := "/api/environments/1".toList }
  body := "\x7b\"is_active\": true\x7d"

theorem route_switchingCall :
    route (Text.upperCase switchingCall.method) hopLimit switchingCall.address =
      (.operation .updateEnvironment ["1"], switchingCall.address) := by
  decide +kernel

theorem readBody_switchingCall :
    readBody switchingCall = .ok (.document (.object [("is_active", .bool true)])) := by
  have hread : Json.read .all switchingCall.body.toList =
      .ok (.object [("is_active", .bool true)]) := by
    refine Json.read_ofList ?_
    with_unfolding_all rfl
  exact readBody_eq_document (by decide +kernel) (by decide +kernel) (by decide +kernel) hread

theorem asked?_switchingCall :
    switchingCall.asked? = some (.update 1 { isActive := .set true }) := by
  refine asked?_of_update route_switchingCall ?_
  rw [numberAndBody, readBody_switchingCall]
  rfl

/-- Another environment is active, and the first one has a variable. -/
def switchable : State where
  store := ⟨[⟨1, "dev", false, false⟩, ⟨2, "prod", true, false⟩], [⟨1, 1, "host", "one"⟩]⟩

theorem reachable_switchable : switchable.store.Reachable :=
  .perform (.addVariable 1 "host" "one")
    (.perform (.create ⟨"prod", true, false, []⟩) (.perform (.create ⟨"dev", false, false, []⟩) .empty))

theorem asked?_of_delete {c : Call} {text : String} {id : Int}
    (hroute : route (Text.upperCase c.method) hopLimit c.address =
      (.operation .deleteEnvironment [text], c.address))
    (hasked : numberIn "environment_id" text = .ok id) : c.asked? = some (.delete id) := by
  rw [Call.asked?, hroute]
  change (numberIn "environment_id" text).toOption.map _ = _
  rw [hasked]
  rfl

def deletingCall : Call where
  method := "DELETE"
  address := { path := "/api/environments/1".toList }

theorem route_deletingCall :
    route (Text.upperCase deletingCall.method) hopLimit deletingCall.address =
      (.operation .deleteEnvironment ["1"], deletingCall.address) := by
  decide +kernel

theorem asked?_deletingCall : deletingCall.asked? = some (.delete 1) := by
  refine asked?_of_delete route_deletingCall ?_
  rfl

def noFunctions : Template.Resolver (StateM Unit) := fun _ _ => throw .emptyFunctionName

/-- The first environment takes the place of the active one, or is deleted with its variable. -/
theorem serve_switchable :
    let switched := ((serve noFunctions (.whole 30) switchable switchingCall).run ()).1
    let deleted := ((serve noFunctions (.whole 30) switchable deletingCall).run ()).1
    (switched.reply.status < 400 ∧ switched.state.store =
      ⟨[⟨1, "dev", true, false⟩, ⟨2, "prod", false, false⟩], [⟨1, 1, "host", "one"⟩]⟩ ∧
      (Store.Operation.update 1 { isActive := .set true }).Changes switchable.store
        switched.state.store) ∧
    deleted.reply.status < 400 ∧ deleted.state.store = ⟨[⟨2, "prod", true, false⟩], []⟩ ∧
      (Store.Operation.delete 1).Changes switchable.store deleted.state.store := by
  intro switched deleted
  obtain ⟨-, -, -, hswitched⟩ :=
    serve_changes noFunctions (.whole 30) reachable_switchable switchingCall ()
  obtain ⟨-, -, -, hdeleted⟩ :=
    serve_changes noFunctions (.whole 30) reachable_switchable deletingCall ()
  obtain ⟨hswitch, hswitches, -⟩ := hswitched _ asked?_switchingCall
  obtain ⟨hdelete, hdeletes, -⟩ := hdeleted _ asked?_deletingCall
  have hupdate : (Store.Operation.update 1 { isActive := .set true }).Applies switchable.store := by
    refine ⟨?_, ⟨1, "dev", false, false⟩, List.mem_cons_self, rfl, ?_⟩
    · rintro (h | h | h) <;> cases h
    · rintro ⟨-, h⟩
      cases h
  have hthere : (Store.Operation.delete 1).Applies switchable.store :=
    ⟨⟨1, "dev", false, false⟩, List.mem_cons_self, rfl⟩
  obtain ⟨hupdated, hchanged⟩ := hswitches hupdate
  obtain ⟨hgone, hleft⟩ := hdeletes hthere
  exact ⟨⟨hswitch.2 hupdate, (Except.ok.inj hupdated).symm, hchanged⟩,
    hdelete.2 hthere, (Except.ok.inj hgone).symm, hleft⟩

end Switched

end TemplatedRequests.Service
