import TemplatedRequests.Exchange
import TemplatedRequests.Service.Check
import TemplatedRequests.Store

/-!
Replies of the service: a status with a document, a plain text or nothing.
-/

namespace TemplatedRequests.Service

inductive Content where
  | empty
  | document (v : Json.Value)
  | plain (text : String)

structure Reply where
  status : Nat
  content : Content

namespace Reply

def ok (v : Json.Value) : Reply := ⟨200, .document v⟩

def detail (status : Nat) (text : String) : Reply :=
  ⟨status, .document (.object [("detail", .text text)])⟩

def coded (status : Nat) (text code : String) : Reply :=
  ⟨status, .document (.object [("detail", .text text), ("error_code", .text code)])⟩

def internal : Reply := ⟨500, .plain "Internal Server Error"⟩

def notFound (resource id : String) : Reply :=
  coded 404 (resource ++ " with id " ++ id ++ " not found") "RESOURCE_NOT_FOUND"

def ofRefusal : Refusal → Reply
  | .noEnvironment id => notFound "Environment" (toString id)
  | .noVariable id => notFound "Variable" (toString id)
  | .sharedActive =>
    coded 400 "A shared environment cannot be the active environment" "BAD_REQUEST"
  | .nullColumn => coded 500 "Database error occurred" "DATABASE_ERROR"

def ofReport (r : Report) : Reply := coded r.status r.message r.kind.code

/-- A fault of one of the six kinds is told to the caller; any other is an error of the service. -/
def ofFault (f : Fault) : Reply := (f.report?.map ofReport).getD internal

/-- Problems of other kinds than faults are errors of the service. -/
def ofProblem : Exchange.Problem → Reply
  | .fault f => ofFault f
  | _ => internal

def ofIssues (issues : List Issue) : Reply :=
  coded 422 ("; ".intercalate (issues.map Issue.text)) "VALIDATION_ERROR"

def failureStatus : FailureType → Nat
  | .timeout => 504
  | .network => 502
  | .invalidUrl => 400

def ofFailed (f : Failed) : Reply :=
  ⟨failureStatus f.type, .document (.object [("detail", .object [("error", .text f.error),
    ("error_type", .text f.type.label), ("details", .text f.details)])])⟩

def withoutContent (r : Reply) : Reply := { r with content := .empty }

end Reply

end TemplatedRequests.Service
