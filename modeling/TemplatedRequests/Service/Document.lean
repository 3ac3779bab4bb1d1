import TemplatedRequests.Exchange
import TemplatedRequests.Store

/-!
Documents in which the service shows its rows, environments and answers.
-/

namespace TemplatedRequests

open Json

def VariableRow.document (v : VariableRow) : Value :=
  .object [("key", .text v.key), ("value", .text v.value), ("id", .int v.id),
    ("environment_id", .int v.environmentId)]

def Store.environmentDocument (s : Store) (e : EnvironmentRow) : Value :=
  .object [("id", .int e.id), ("name", .text e.name), ("is_active", .bool e.isActive),
    ("is_shared", .bool e.isShared),
    ("variables", .array ((s.variablesOf e.id).map VariableRow.document))]

def NamedEnvironment.document (e : NamedEnvironment) : Value :=
  .object [("name", .text e.name), ("variables", .ofBindings e.bindings)]

def Environments.document (e : Environments) : Value :=
  .object [("environments", .object (e.environments.entries.map fun p => (p.1, p.2.document))),
    ("shared", .ofBindings e.shared), ("active", .ofOption .text e.active)]

def Capture.Directive.document (d : Capture.Directive) : Value :=
  .object [("variable_name", .text d.variableName),
    ("path", .object [("kind", .text d.path.kind.label), ("expression", .text d.path.expression)])]

namespace Json.Value

mutual

/-- A document in which numbers that are not finite are null. -/
def finite : Value → Value
  | .float x => if x.isFinite then .float x else .null
  | .array items => .array (finiteItems items)
  | .object fields => .object (finiteFields fields)
  | v => v

def finiteItems : List Value → List Value
  | [] => []
  | v :: r => finite v :: finiteItems r

def finiteFields : List (String × Value) → List (String × Value)
  | [] => []
  | (name, v) :: r => (name, finite v) :: finiteFields r

end

end Json.Value

def Answered.document (a : Answered) : Value :=
  .object [("status_code", .int a.statusCode), ("status_text", .text a.statusText),
    ("url", .text a.url), ("headers", .ofBindings a.headers), ("body", .text a.body),
    ("body_json", a.bodyJson.finite), ("response_size", .int a.responseSize),
    ("captured", .ofBindings a.captured)]

end TemplatedRequests
