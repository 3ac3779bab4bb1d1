import TemplatedRequests.Request
import TemplatedRequests.Response
import TemplatedRequests.Service.Check
import TemplatedRequests.Store

/-!
What each call of the service takes in its body.
-/

namespace TemplatedRequests.Service

structure ResolvePayload where
  text : String
  fileVariables : Bindings
  requestVariables : Bindings
  session : Option String
  environment : Option Int

structure ExtractPayload where
  path : String
  headers : Bindings
  body : String
  contentType : Option ContentType

namespace Payload

def change {α : Type} (name : String) (check : Check α) (fs : Fields) : Checked (Change α) :=
  optional name .keep (fun v => (Check.nullable check v).map fun o => match o with
    | some a => .set a
    | none => .null) fs

def name : Check String := Check.sized 1 255

def value : Check String := Check.sized 0 4000

def newVariable : Check (String × String) :=
  Check.fields fun fs => .both (required "key" Check.key fs) (required "value" value fs)

def newEnvironment : Check Store.NewEnvironment :=
  Check.fields fun fs =>
    (Checked.both (required "name" name fs)
      (.both (optional "is_active" false Check.flag fs)
        (.both (optional "is_shared" false Check.flag fs)
          (optional "variables" [] (Check.listOf newVariable) fs)))).map
    fun p => ⟨p.1, p.2.1, p.2.2.1, p.2.2.2⟩

def environmentChanges : Check Store.EnvironmentChanges :=
  Check.fields fun fs =>
    (Checked.both (change "name" name fs)
      (.both (change "is_active" Check.flag fs) (change "is_shared" Check.flag fs))).map
    fun p => ⟨p.1, p.2.1, p.2.2⟩

def variableChanges : Check Store.VariableChanges :=
  Check.fields fun fs =>
    (Checked.both (change "key" Check.key fs) (change "value" value fs)).map
    fun p => ⟨p.1, p.2⟩

def method : Check Method := Check.choice Method.ofLabel? (Method.all.map Method.label)

def request : Check Request :=
  Check.fields fun fs =>
    (Checked.both (required "method" method fs)
      (.both (required "url" Check.text fs)
        (.both (optional "headers" ∅ Check.texts fs)
          (.both (optional "query_params" ∅ Check.texts fs)
            (.both (optional "body" none (Check.nullable Check.text) fs)
              (.both (optional "file_variables" ∅ Check.texts fs)
                (optional "captures" "" Check.text fs))))))).map
    fun p => ⟨p.1, p.2.1, p.2.2.1, p.2.2.2.1, p.2.2.2.2.1, p.2.2.2.2.2.1, p.2.2.2.2.2.2⟩

def resolve : Check ResolvePayload :=
  Check.fields fun fs =>
    (Checked.both (required "text" Check.text fs)
      (.both (optional "file_variables" ∅ Check.texts fs)
        (.both (optional "request_variables" ∅ Check.texts fs)
          (.both (optional "session_id" none (Check.nullable Check.text) fs)
            (optional "environment_id" none (Check.nullable Check.integer) fs))))).map
    fun p => ⟨p.1, p.2.1, p.2.2.1, p.2.2.2.1, p.2.2.2.2⟩

def contentType : Check ContentType :=
  Check.choice ContentType.ofLabel? (ContentType.all.map ContentType.label)

def extract : Check ExtractPayload :=
  Check.fields fun fs =>
    (Checked.both (required "path" Check.text fs)
      (.both (optional "headers" ∅ Check.texts fs)
        (.both (optional "body" "" Check.text fs)
          (optional "content_type" none (Check.nullable contentType) fs)))).map
    fun p => ⟨p.1, p.2.1, p.2.2.1, p.2.2.2⟩

def captures : Check String := Check.fields (required "text" Check.text)

end Payload

end TemplatedRequests.Service
