import TemplatedRequests.Base64
import TemplatedRequests.Exchange.Client
import TemplatedRequests.Url

/-!
Requests as they go out: the address with its query, and the headers of the request over those that
are always sent.
-/

namespace TemplatedRequests

/-- Headers by name in lower case; the values of a repeated header are joined. -/
def joinHeaders (headers : List (String × String)) : Bindings :=
  headers.foldl (fun b h =>
    let name := Text.lowerCase h.1
    match b.get? name with
    | some value => b.insert name (value ++ ", " ++ h.2)
    | none => b.insert name h.2) ∅

namespace Exchange

def ascii (cs : List Char) : Except Stop Unit :=
  match Text.Ascii.flaw? cs with
  | some flaw => .error (.broken (.notAscii flaw))
  | none => .ok ()

/-- Headers in ASCII; of each one the name is looked at before the value. -/
def headersOf (headers : List (String × String)) : Except Stop Bindings := do
  headers.forM fun h => do
    ascii h.1.toList
    ascii h.2.toList
  return joinHeaders headers

def addressed {α : Type} : Except Url.Problem α → Except Stop α
  | .ok a => .ok a
  | .error problem => .error (.failed (.invalidUrl problem.message))

def named {α : Type} : Except Idna.Problem α → Except Stop α
  | .ok a => .ok a
  | .error problem => .error (.broken (.domain problem))

def usualHeaders : Bindings := .ofEntries [("accept", "*/*"), ("accept-encoding", "gzip, deflate"),
  ("connection", "keep-alive"), ("user-agent", "python-httpx/0.28.1")]

def ensure (name value : String) (headers : Bindings) : Bindings :=
  if headers.contains name then headers else headers.insert name value

def isUpload : Method → Bool
  | .post => true
  | .put => true
  | .patch => true
  | _ => false

/-- Tells the length of the body, and of an upload also that it has none. -/
def withLength (method : Method) (body : String) (headers : Bindings) : Bindings :=
  if body.isEmpty then
    if isUpload method && !headers.contains "transfer-encoding" then
      ensure "content-length" "0" headers
    else headers
  else ensure "content-length" (toString body.utf8ByteSize) headers

/-- Tells the host, which must be a name that can be read. -/
def withHost (url : Url) (headers : Bindings) : Except Stop Bindings := do
  if headers.contains "host" then return headers
  if (← named (Url.plainHost url.host)).isEmpty then return headers
  ascii url.place
  return headers.insert "host" (String.ofList url.place)

/-- A user in the address takes the place of an authorization in the headers. -/
def withUser (url : Url) (headers : Bindings) : Bindings :=
  let (name, password) := url.credentials
  if name.isEmpty && password.isEmpty then headers
  else
    let pair := Text.Utf8.encode (name ++ ':' :: password)
    headers.insert "authorization" ("Basic " ++ String.ofList (Base64.encode pair))

def outgoing (r : Request) : Except Stop (Url × Sent) := do
  let url ← addressed (Url.read r.url.toList >>= Url.resolved)
  let own ← headersOf r.headers.entries
  let url ← if r.queryParams.isEmpty then pure url
    else addressed (url.withQuery (Url.formEncode r.queryParams.entries))
  let body := r.body.getD ""
  let headers ← withHost url (withLength r.method body (usualHeaders.update own))
  return (url, ⟨r.method, url.toText, withUser url headers, body⟩)

end Exchange

end TemplatedRequests
