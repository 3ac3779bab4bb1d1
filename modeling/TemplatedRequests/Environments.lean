import TemplatedRequests.Scopes

/-!
Named environments with the variables that all of them share. At most one environment is active;
only its variables and the shared ones are seen.
-/

namespace TemplatedRequests

structure NamedEnvironment where
  name : String
  bindings : Bindings := ∅

/-- `active` may name an environment that does not exist; then none is seen as active. -/
structure Environments where
  environments : OrderedMap NamedEnvironment := ∅
  shared : Bindings := ∅
  active : Option String := none

namespace Environments

def add (e : Environments) (environment : NamedEnvironment) : Environments :=
  { e with environments := e.environments.insert environment.name environment }

def activate? (e : Environments) (name : String) : Option Environments :=
  if e.environments.contains name then some { e with active := some name } else none

def active? (e : Environments) : Option NamedEnvironment := e.active.bind e.environments.get?

def activeVariables (e : Environments) : Bindings := (e.active?.map (·.bindings)).getD ∅

def value? (e : Environments) (name : String) : Option String :=
  match e.active? with
  | some a => if a.bindings.contains name then a.bindings.get? name else e.shared.get? name
  | none => e.shared.get? name

/-- The layers seen by a request with its own values and those of its document. -/
def scopes (e : Environments) (file request : Bindings) : Scopes :=
  { request, file, environment := e.activeVariables, shared := e.shared }

end Environments

end TemplatedRequests
