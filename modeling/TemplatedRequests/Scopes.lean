import TemplatedRequests.OrderedMap
import TemplatedRequests.Text.Quoted

/-!
The four layers a name is looked up in. The first layer that defines the name gives its value.
-/

namespace TemplatedRequests

inductive Source where
  | request
  | file
  | environment
  | shared
  deriving DecidableEq, Repr

namespace Source

/-- In the order of lookup. -/
def all : List Source := [request, file, environment, shared]

theorem mem_all (l : Source) : l ∈ all := by cases l <;> decide

def label : Source → String
  | request => "request"
  | file => "file"
  | environment => "environment"
  | shared => "shared"

def ofLabel? (text : String) : Option Source := all.find? (·.label == text)

def unknownMessage (text : String) : String :=
  String.ofList (Text.quoted text.toList) ++ " is not a valid ScopeSource"

end Source

structure Scopes where
  request : Bindings := ∅
  file : Bindings := ∅
  environment : Bindings := ∅
  shared : Bindings := ∅

namespace Scopes

def layer (s : Scopes) : Source → Bindings
  | .request => s.request
  | .file => s.file
  | .environment => s.environment
  | .shared => s.shared

def sourceOf? (s : Scopes) (name : String) : Option Source :=
  Source.all.find? fun l => (s.layer l).contains name

def lookup? (s : Scopes) (name : String) : Option String :=
  Source.all.findSome? fun l => (s.layer l).get? name

def contains (s : Scopes) (name : String) : Bool := (s.sourceOf? name).isSome

/-- Lays captured values over the request layer. -/
def withCaptured (s : Scopes) (values : Bindings) : Scopes :=
  { s with request := s.request.update values }

def unseen (seen new : List String) : List String := new.filter (!seen.contains ·)

def names (s : Scopes) : List String :=
  Source.all.foldl (fun seen l => seen ++ unseen seen (s.layer l).names) []

def summary (s : Scopes) : String :=
  let sizes := Source.all.map fun l => l.label ++ "=" ++ toString (s.layer l).size
  "ScopeModel(" ++ ", ".intercalate sizes ++ ")"

theorem lookup?_eq (s : Scopes) (name : String) :
    s.lookup? name = (s.request.get? name).or ((s.file.get? name).or
      ((s.environment.get? name).or (s.shared.get? name))) := by
  simp only [lookup?, Source.all, List.findSome?, layer]
  cases s.request.get? name <;> cases s.file.get? name <;> cases s.environment.get? name <;>
    cases s.shared.get? name <;> rfl

@[simp] theorem withCaptured_empty (s : Scopes) : s.withCaptured ∅ = s := rfl

end Scopes

end TemplatedRequests
