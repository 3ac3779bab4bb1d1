import TemplatedRequests.Exchange.Client
import TemplatedRequests.Response
import TemplatedRequests.Sessions

/-!
One request and its answer: the request is resolved and sent, values are captured from the answer
and recorded in the session. Nothing is recorded when any of this fails before the record.
-/

namespace TemplatedRequests

structure Answered where
  statusCode : Nat
  statusText : String
  url : String
  headers : Bindings
  body : String
  bodyJson : Json.Value
  responseSize : Nat
  captured : Bindings

namespace Exchange

/-- Outcome of one call: what was sent, what the sessions hold after it, and the result. -/
structure Outcome where
  sent : List Sent
  sessions : Sessions
  result : Except Problem (Except Failed Answered)

def answered (client : Client) (a : Received) (captured : Bindings) : Except Problem Answered := do
  let text ← client.text a
  let contentType := (a.headers.get? "content-type").getD ""
  let bodyJson ← (documentOfBody text contentType).mapError .fault
  return {
    statusCode := a.status, statusText := a.reason, url := a.url
    headers := a.headers, body := text, bodyJson, responseSize := a.body.length, captured }

def finish (client : Client) (r : Request) (session : String) (sessions : Sessions) (a : Received) :
    Sessions × Except Problem Answered :=
  let response : Response := { headers := a.headers, body := a.body }
  match response.capture (Capture.directives r.captures) none with
  | .error fault => (sessions, .error (.fault fault))
  | .ok captured => (sessions.record session captured, answered client a captured)

/-- What follows the resolution of a request. -/
def complete (patience : Patience) (client : Client) (session : String) (sessions : Sessions)
    (r : Request) : Outcome :=
  match client.deliver r with
  | (sent, .error (.failed error)) => ⟨sent, sessions, .ok (.error ⟨error, patience⟩)⟩
  | (sent, .error (.broken problem)) => ⟨sent, sessions, .error problem⟩
  | (sent, .ok received) =>
    let (sessions, result) := finish client r session sessions received
    ⟨sent, sessions, result.map .ok⟩

variable {m : Type → Type} [Monad m]

def execute (call : Template.Resolver m) (patience : Patience) (client : Client)
    (scopes : Scopes) (session : String) (sessions : Sessions) (r : Request) : m Outcome := do
  match ← (r.resolve scopes call).run with
  | .error fault => return ⟨[], sessions, .error (.fault fault)⟩
  | .ok resolved => return complete patience client session sessions resolved

/-- Resolves a request with the values captured in its session over the given scopes. -/
def executeInSession (call : Template.Resolver m) (patience : Patience) (client : Client)
    (scopes : Scopes) (session : String) (sessions : Sessions) (r : Request) : m Outcome :=
  execute call patience client (scopes.withCaptured (sessions.get session)) session sessions r

end Exchange

end TemplatedRequests
