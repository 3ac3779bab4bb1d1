import TemplatedRequests.Proofs.Template.Reach
import TemplatedRequests.Proofs.Template.Steady
import TemplatedRequests.Request

/-!
Texts in which one name is given its value beforehand. Where the scopes define a name by a value that
holds no placeholder, texts and whole requests come out as if that value were written in the place of
the name, and the name is not looked up in any layer.
-/

namespace TemplatedRequests

def Scopes.without (s : Scopes) (name : String) : Scopes where
  request := s.request.erase name
  file := s.file.erase name
  environment := s.environment.erase name
  shared := s.shared.erase name

theorem Scopes.lookup?_without (s : Scopes) (name n : String) :
    (s.without name).lookup? n = if n = name then none else s.lookup? n := by
  simp only [lookup?_eq, without, OrderedMap.get?_erase]
  split <;> rfl

theorem Scopes.lookup?_withCaptured {s : Scopes} {values : Bindings} {name value : String}
    (h : values.get? name = some value) : (s.withCaptured values).lookup? name = some value := by
  rw [lookup?_eq, withCaptured, OrderedMap.get?_update, h]
  rfl

namespace Template

section

variable {m : Type → Type} [Monad m]

/-- Expands a text; a placeholder with the name `given` is written as `chars`, which are not read. -/
def expandGiven (given : String) (chars : List Char) (scopes : Scopes) (call : Resolver m) :
    (levels : Nat) → (path : List String) → List Char → ExceptT Fault m (List Char)
  | 0, _, cs => if hasOpening cs then throw .tooDeep else pure cs
  | levels + 1, path, cs =>
    if hasOpening cs then do
      let write name := if name = given then pure chars
        else enter scopes call (expandGiven given chars scopes call levels) path name
      let parts ← (pieces (hide cs)).mapM (Piece.written write)
      return parts.flatten
    else pure cs

def substituteGiven (given value : String) (scopes : Scopes) (call : Resolver m) (text : String) :
    ExceptT Fault m String := do
  return String.ofList (← expandGiven given value.toList scopes call maxLevels [] text.toList)

end

variable {m : Type → Type} [Monad m] {call : Resolver m} {scopes other : Scopes}
variable {name value : String} {levels : Nat} {path : List String}

theorem valueOf_of_not_isCall (hn : isCall name = false) (hl : scopes.lookup? name = some value) :
    valueOf scopes call name = pure value := by
  unfold valueOf
  split
  · rename_i r h
    simp [isCall, h] at hn
  · rw [hl]

theorem enter_congr {inner outer : List String → List Char → ExceptT Fault m (List Char)}
    (hv : valueOf other call name = valueOf scopes call name)
    (hi : ∀ cs, inner (name :: path) cs = outer (name :: path) cs) :
    enter other call inner path name = enter scopes call outer path name := by
  unfold enter
  simp only [hv, hi]

variable [LawfulMonad m]

theorem enter_of_plain (hp : name ∉ path) (hv : valueOf scopes call name = pure value)
    (ho : hasOpening value.toList = false) :
    enter scopes call (expand scopes call levels) path name = pure value.toList := by
  simp only [enter, hp, if_false, hv, pure_bind]
  exact expand_of_plain ho

theorem expand_eq_expandGiven (hp : name ∉ path) (hv : valueOf scopes call name = pure value)
    (ho : hasOpening value.toList = false) {cs : List Char} :
    expand scopes call levels path cs =
      expandGiven name value.toList (scopes.without name) call levels path cs := by
  -- By induction on the levels: outside its own value the name gives its value at once, and the
  -- values of other names do not depend on it but through their placeholders.
  induction levels generalizing path cs with
  | zero => rw [expand, expandGiven]
  | succ levels ih =>
    have hwrite : enter scopes call (expand scopes call levels) path = fun n =>
        if n = name then pure value.toList else enter (scopes.without name) call
          (expandGiven name value.toList (scopes.without name) call levels) path n := by
      funext n
      split <;> rename_i hn
      · rw [hn, enter_of_plain hp hv ho]
      · refine enter_congr (valueOf_congr ?_).symm fun _ => ih fun hm => ?_
        · rw [Scopes.lookup?_without, if_neg hn]
        · rcases List.mem_cons.1 hm with h | h
          · exact hn h.symm
          · exact hp h
    rw [expand, expandGiven, hwrite]

theorem substitute_eq_substituteGiven (hv : valueOf scopes call name = pure value)
    (ho : hasOpening value.toList = false) (text : String) :
    substitute text scopes call = substituteGiven name value (scopes.without name) call text := by
  rw [substitute, substituteGiven, expand_eq_expandGiven List.not_mem_nil hv ho]

end Template

namespace Request

open Template

variable {m : Type → Type} [Monad m]

def fillValues (values : Bindings) (fill : String → ExceptT Fault m String) :
    ExceptT Fault m Bindings := do
  let es ← values.entries.mapM fun e => do return (e.1, ← fill e.2)
  return .ofEntries es

def fillHeaders (headers : Bindings) (fill : String → ExceptT Fault m String) :
    ExceptT Fault m Bindings := do
  let values ← fillValues headers fill
  let es ← values.entries.mapM fun e => do return (← fill e.1, e.2)
  return .ofEntries es

/-- Fills in the texts of a request, in the order in which `resolve` takes them. -/
def resolveBy (r : Request) (fill : String → ExceptT Fault m String) : ExceptT Fault m Request := do
  let headers ← fillHeaders r.headers fill
  let url ← fill r.url
  let queryParams ← fillValues r.queryParams fill
  let body ← match r.body with
    | some text => do pure (some (← fill text))
    | none => pure none
  return { r with headers, url, queryParams, body }

theorem resolve_eq_resolveBy (r : Request) (scopes : Scopes) (call : Resolver m) :
    r.resolve scopes call = r.resolveBy fun text => substitute text scopes call := rfl

theorem resolve_eq_resolveBy_given [LawfulMonad m] (r : Request) {scopes : Scopes} {call : Resolver m}
    {name value : String} (hv : valueOf scopes call name = pure value)
    (ho : hasOpening value.toList = false) :
    r.resolve scopes call = r.resolveBy (substituteGiven name value (scopes.without name) call) := by
  have hfill : (fun text => substitute text scopes call) =
      substituteGiven name value (scopes.without name) call :=
    funext (substitute_eq_substituteGiven hv ho)
  rw [resolve_eq_resolveBy, hfill]

end Request

end TemplatedRequests
