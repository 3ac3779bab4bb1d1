import TemplatedRequests.Capture.Directive
import TemplatedRequests.Json.Path
import TemplatedRequests.Json.Reader
import TemplatedRequests.Json.Writer
import TemplatedRequests.Text.Case
import TemplatedRequests.Text.Utf8

/-!
Responses, and values extracted from them.
-/

namespace TemplatedRequests

inductive ContentType where
  | json
  | xml
  | html
  | text
  | binary
  deriving DecidableEq, Repr

namespace ContentType

def all : List ContentType := [json, xml, html, text, binary]

def label : ContentType → String
  | json => "json"
  | xml => "xml"
  | html => "html"
  | text => "text"
  | binary => "binary"

def ofLabel? (s : String) : Option ContentType := all.find? (·.label == s)

/-- The media type of a header: lower case, without parameters. -/
def mediaType (header : String) : List Char :=
  Text.trim ((Text.lower header.toList).takeWhile (· != ';'))

def ofHeader (header : String) : ContentType :=
  let m := mediaType header
  if Text.occurs "json".toList m then json
  else if Text.occurs "xml".toList m then xml
  else if "text/html".toList.isPrefixOf m then html
  else if "text/".toList.isPrefixOf m then text
  else binary

/-- A missing header declares a binary body. -/
def ofHeader? (header? : Option String) : ContentType := (header?.map ofHeader).getD binary

end ContentType

structure Response where
  headers : Bindings := ∅
  body : List UInt8 := []

namespace Response

def header? (r : Response) (name : String) : Option String :=
  (r.headers.entries.find? fun e => Text.lowerCase e.1 == Text.lowerCase name).map (·.2)

def contentType (r : Response) : ContentType := .ofHeader? (r.header? "content-type")

def document (r : Response) : Except Fault Json.Value :=
  match Text.Utf8.decode r.body with
  | .error _ => .error .bodyNotUtf8
  | .ok text => match Json.read .finite text with
    | .ok v => .ok v
    | .error (.refused f) => .error f
    | .error (.malformed problem place) =>
      .error (.unparsableBody (Json.problemText problem place))

/-- The value at a path of the body. The body is read before the path. -/
def valueAt (r : Response) (path : String) : Except Fault Json.Value := do
  let document ← r.document
  match Json.Path.parse path.toList with
  | .error long => .error (.numeral long)
  | .ok p => p.follow document

def extract (r : Response) (path : Capture.Path) (type : ContentType) : Except Fault String :=
  match path.kind with
  | .header => match r.header? path.expression with
    | some value => .ok value
    | none => .error (.headerMissing path.expression)
  | .jsonPath =>
    if type = .json then (r.valueAt path.expression).map Json.Value.toText
    else .error (.notJson type.label)
  | .xpath => .error (.notImplemented "XPath extraction")

/-- Extracts by a path as it is written; a type that is given stands in for the declared one. -/
def extractText (r : Response) (path : String) (type? : Option ContentType) :
    Except Fault String :=
  r.extract (.ofText path) (type?.getD r.contentType)

def capture (r : Response) (directives : List Capture.Directive) (type? : Option ContentType) :
    Except Fault Bindings :=
  directives.foldlM (fun captured d => do
    return captured.insert d.variableName (← r.extract d.path (type?.getD r.contentType))) ∅

end Response

/-- The document in a body that is declared as one; null if there is none or it cannot be read. -/
def documentOfBody (body contentType : String) : Except Fault Json.Value :=
  if body.isEmpty || contentType.isEmpty then .ok .null
  else if Text.occurs "json".toList (Text.lower contentType.toList) then
    match Json.read .all body.toList with
    | .ok v => .ok v
    | .error (.refused f) => .error f
    | .error (.malformed ..) => .ok .null
  else .ok .null

end TemplatedRequests
