import TemplatedRequests.Json.Encoded
import TemplatedRequests.Service.Document
import TemplatedRequests.Service.Payload
import TemplatedRequests.Service.Reply
import TemplatedRequests.Service.Route

/-!
The service over the store of environments and the sessions: it takes calls with paths, queries
and bodies, and gives replies. A reply that tells of an error leaves the store as it was.
-/

namespace TemplatedRequests.Service

structure Call where
  method : String
  address : Url
  body : String := ""
  contentType : String := "application/json"
  client : Exchange.Client := .offline

structure State where
  store : Store := {}
  sessions : Sessions := {}

structure Result where
  reply : Reply
  state : State
  sent : List Exchange.Sent := []

/-- The address of a path as it is written. A query that is given takes the place of one in it. -/
def addressOf (path : String) (query : List (String × String)) : Except Url.Problem Url := do
  let address ← Url.read path.toList >>= Url.resolved
  if query.isEmpty then return address else address.withQuery (Url.formEncode query)

inductive Body where
  | absent
  | document (v : Json.Value)
  | unread

def announcesDocument (contentType : String) : Bool :=
  match (ContentType.mediaType contentType).splitOn '/' with
  | [main, sub] => main == "application".toList
      && (sub == "json".toList || "+json".toList.isSuffixOf sub)
  | _ => false

def unreadable : Reply := .detail 400 "There was an error parsing the body"

/-- Reads the body. One that cannot be read ends the call before path and query are looked at. -/
def readBody (c : Call) : Except Reply Body :=
  if c.body.isEmpty then .ok .absent
  else if announcesDocument c.contentType then
    match Json.Encoded.text? (Text.Utf8.encode c.body.toList) with
    | none => .error unreadable
    | some text => match Json.read .all text with
      | .ok v => .ok (.document v)
      | .error (.refused _) => .error unreadable
      | .error (.malformed _ place) =>
        .error (.ofIssues [⟨["body", toString place.offset], "JSON decode error"⟩])
  else .ok .unread

def bodyIssues {α : Type} (check : Check α) (b : Body) : Checked α :=
  Checked.within "body" <| match b with
    | .absent => .fail "Field required"
    | .document v => check v
    | .unread => .fail "Input should be a valid dictionary or object to extract fields from"

def Call.parameter? (c : Call) (name : String) : Option String :=
  let query := Url.formDecode (c.address.query.getD [])
  (query.reverse.find? (·.1 == name)).map (·.2)

def pathNumber (name text : String) : Checked Int :=
  ((Check.integerText text).within name).within "path"

def queryNumber (name : String) (c : Call) : Checked (Option Int) :=
  match c.parameter? name with
  | none => .ok none
  | some text => (((Check.integerText text).within name).within "query").map some

def accepted {α : Type} : Checked α → Except Reply α
  | .ok a => .ok a
  | .error issues => .error (.ofIssues issues)

def permitted {α : Type} : Except Refusal α → Except Reply α
  | .ok a => .ok a
  | .error refusal => .error (.ofRefusal refusal)

/-- A number of the path; the numbers of the store have 64 bits. -/
def stored (id : Int) : Except Reply Int :=
  if Check.isWord id then .ok id else .error .internal

def numberAndBody {α : Type} (name text : String) (check : Check α) (c : Call) :
    Except Reply (Int × α) := do
  let b ← readBody c
  let (id, a) ← accepted (.both (pathNumber name text) (bodyIssues check b))
  return (← stored id, a)

def bodyOf {α : Type} (check : Check α) (c : Call) : Except Reply α := do
  accepted (bodyIssues check (← readBody c))

/-- The layers a call resolves names in: the environments of the store, the variables of a
document, and the values captured in a session under those of the call. -/
def scopesFor (s : State) (environment : Option Int) (session : Option String)
    (file request : Bindings) : Except Reply Scopes := do
  let environments ← permitted (s.store.snapshot environment)
  let captured := (session.map s.sessions.get).getD ∅
  return environments.scopes file (captured.update request)

def shown (s : State) (v : Json.Value) : Result := { reply := .ok v, state := s }

def keep (s : State) (status : Nat) (store : Store) (v : Json.Value) : Result :=
  { reply := ⟨status, .document v⟩, state := { s with store } }

def keepEnvironment (s : State) (status : Nat) (p : Store × EnvironmentRow) : Result :=
  keep s status p.1 (p.1.environmentDocument p.2)

def keepVariable (s : State) (status : Nat) (p : Store × VariableRow) : Result :=
  keep s status p.1 p.2.document

def gone (s : State) : Result := { reply := ⟨204, .empty⟩, state := s }

variable {m : Type → Type} [Monad m]

def resolveText (call : Template.Resolver m) (s : State) (c : Call) : ExceptT Reply m Result := do
  let p ← bodyOf Payload.resolve c
  let scopes ← scopesFor s p.environment p.session p.fileVariables p.requestVariables
  let text ← ExceptT.adapt Reply.ofFault (Template.substitute p.text scopes call)
  return shown s (.object [("text", .text text),
    ("variables", .array ((Template.names p.text).map .text))])

/-- Documents that lie deeper are not written. -/
def depthLimit : Nat := 254

def replyTo (a : Answered) : Reply :=
  if a.bodyJson.depth ≤ depthLimit then .ok a.document else .internal

def execute (call : Template.Resolver m) (patience : Patience) (s : State) (c : Call) :
    ExceptT Reply m Result := do
  let session := (c.parameter? "session_id").getD "default"
  let b ← readBody c
  let (environment, request) ←
    accepted (.both (queryNumber "environment_id" c) (bodyIssues Payload.request b))
  let scopes ← scopesFor s environment (some session) request.fileVariables ∅
  let o ← ExceptT.lift
    (Exchange.execute call patience c.client scopes session s.sessions request)
  let reply := match o.result with
    | .error problem => .ofProblem problem
    | .ok (.error failed) => .ofFailed failed
    | .ok (.ok answered) => replyTo answered
  return { reply, state := { s with sessions := o.sessions }, sent := o.sent }

def lookup (s : State) (c : Call) (name : String) : Except Reply Result := do
  let environment ← accepted (queryNumber "environment_id" c)
  let scopes ← scopesFor s environment (c.parameter? "session_id") ∅ ∅
  return shown s (.object [("name", .text name), ("value", .ofOption .text (scopes.lookup? name)),
    ("source", .ofOption (fun l => .text (Source.label l)) (scopes.sourceOf? name))])

def extract (s : State) (c : Call) : Except Reply Result := do
  let p ← bodyOf Payload.extract c
  let response : Response := { headers := p.headers, body := Text.Utf8.encode p.body.toList }
  match response.extractText p.path p.contentType with
  | .ok value => return shown s (.object [("value", .text value)])
  | .error fault => throw (.ofFault fault)

/-- Performs an operation; `text` is what stands in the open segment of the path. -/
def perform (call : Template.Resolver m) (patience : Patience) (s : State) (c : Call)
    (text : String) : Operation → ExceptT Reply m Result
  | .about => return shown s (.object
      [("name", .text "HTTP Variables"), ("version", .text "1.0.0"), ("docs", .text "/docs")])
  | .health => return shown s (.object [("status", .text "healthy")])
  | .createEnvironment => do
    let new ← bodyOf Payload.newEnvironment c
    return keepEnvironment s 201 (← permitted (s.store.create new))
  | .listEnvironments =>
    return shown s (.array (s.store.environments.map s.store.environmentDocument))
  | .resolvedEnvironments => do
    let id ← accepted (queryNumber "environment_id" c)
    let environments ← permitted (s.store.snapshot id)
    return shown s environments.document
  | .getEnvironment => do
    let id ← stored (← accepted (pathNumber "environment_id" text))
    match s.store.environment? id with
    | some e => return shown s (s.store.environmentDocument e)
    | none => throw (.ofRefusal (.noEnvironment id))
  | .updateEnvironment => do
    let (id, changes) ← numberAndBody "environment_id" text Payload.environmentChanges c
    return keepEnvironment s 200 (← permitted (s.store.update id changes))
  | .deleteEnvironment => do
    let id ← stored (← accepted (pathNumber "environment_id" text))
    return gone { s with store := ← permitted (s.store.delete id) }
  | .activateEnvironment => do
    let id ← stored (← accepted (pathNumber "environment_id" text))
    return keepEnvironment s 200 (← permitted (s.store.activate id))
  | .addVariable => do
    let (id, key, value) ← numberAndBody "environment_id" text Payload.newVariable c
    return keepVariable s 201 (← permitted (s.store.addVariable id key value))
  | .updateVariable => do
    let (id, changes) ← numberAndBody "variable_id" text Payload.variableChanges c
    return keepVariable s 200 (← permitted (s.store.updateVariable id changes))
  | .deleteVariable => do
    let id ← stored (← accepted (pathNumber "variable_id" text))
    return gone { s with store := ← permitted (s.store.deleteVariable id) }
  | .execute => execute call patience s c
  | .resolveText => resolveText call s c
  | .lookupVariable => lookup s c text
  | .extractValue => extract s c
  | .parseCaptures => do
    let captures ← bodyOf Payload.captures c
    return shown s (.object
      [("directives", .array ((Capture.directives captures).map Capture.Directive.document))])
  | .getSession => return shown s (.object
      [("session_id", .text text), ("variables", .ofBindings (s.sessions.get text))])
  | .clearSession =>
    if s.sessions.has text then return gone { s with sessions := s.sessions.clear text }
    else throw (.notFound "Session" text)

def answer (call : Template.Resolver m) (patience : Patience) (s : State) (c : Call) :
    Destination → ExceptT Reply m Result
  | .nowhere => throw (.detail 404 "Not Found")
  | .wrongMethod => throw (.detail 405 "Method Not Allowed")
  | .operation op texts => perform call patience s c (texts.head?.getD "") op

/-- Answers one call. A reply to `HEAD` has no content. -/
def serve (call : Template.Resolver m) (patience : Patience) (s : State) (c : Call) : m Result := do
  let method := Text.upperCase c.method
  let (destination, address) := route method hopLimit c.address
  let result := match ← (answer call patience s { c with address } destination).run with
    | .ok result => result
    | .error reply => { reply, state := s }
  return if method = "HEAD" then { result with reply := result.reply.withoutContent } else result

end TemplatedRequests.Service
