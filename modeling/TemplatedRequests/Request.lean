import TemplatedRequests.Template

/-!
Requests with placeholders, and the same requests with their placeholders filled in.
-/

namespace TemplatedRequests

inductive Method where
  | get
  | post
  | put
  | delete
  | patch
  | head
  | options
  deriving DecidableEq, Repr

namespace Method

def all : List Method := [get, post, put, delete, patch, head, options]

def label : Method → String
  | get => "GET"
  | post => "POST"
  | put => "PUT"
  | delete => "DELETE"
  | patch => "PATCH"
  | head => "HEAD"
  | options => "OPTIONS"

def ofLabel? (text : String) : Option Method := all.find? (·.label == text)

end Method

/-- `captures` holds the lines that name what to capture from the response; no placeholder is
filled in there. -/
structure Request where
  method : Method
  url : String
  headers : Bindings := ∅
  queryParams : Bindings := ∅
  body : Option String := none
  fileVariables : Bindings := ∅
  captures : String := ""

namespace Request

open Template

variable {m : Type → Type} [Monad m]

/-- Values first, then names; of two headers with one name the later value stays. -/
def resolveHeaders (headers : Bindings) (scopes : Scopes) (call : Resolver m) :
    ExceptT Fault m Bindings := do
  let values ← substituteValues headers scopes call
  let es ← values.entries.mapM fun e => do return (← substitute e.1 scopes call, e.2)
  return .ofEntries es

/-- Fills in header values, header names, address, query values and body, in this order. -/
def resolve (r : Request) (scopes : Scopes) (call : Resolver m) : ExceptT Fault m Request := do
  let headers ← resolveHeaders r.headers scopes call
  let url ← substitute r.url scopes call
  let queryParams ← substituteValues r.queryParams scopes call
  let body ← match r.body with
    | some text => do pure (some (← substitute text scopes call))
    | none => pure none
  return { r with headers, url, queryParams, body }

end Request

end TemplatedRequests
