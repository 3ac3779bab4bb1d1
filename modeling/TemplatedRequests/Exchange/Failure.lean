import TemplatedRequests.Binary64.Layout
import TemplatedRequests.Charset
import TemplatedRequests.Fault
import TemplatedRequests.Idna
import TemplatedRequests.Text.Ascii

/-!
How a request ends without an answer. Most failures are results that are told to the caller; the
others end the call.
-/

namespace TemplatedRequests

inductive TransportError where
  | timeout
  | connect (message : String)
  | invalidUrl (message : String)
  | other (message : String)
  deriving DecidableEq, Repr

/-- Seconds to wait, as a whole or as a floating point number. -/
inductive Patience where
  | whole (seconds : Int)
  | precise (seconds : Binary64)

def Patience.toText : Patience → String
  | .whole n => toString n
  | .precise x => Binary64.Layout.plain.render x

inductive FailureType where
  | timeout
  | network
  | invalidUrl
  deriving DecidableEq, Repr

def FailureType.label : FailureType → String
  | timeout => "timeout"
  | network => "network_error"
  | invalidUrl => "invalid_url"

structure Failed where
  cause : TransportError
  patience : Patience

namespace Failed

def type (f : Failed) : FailureType :=
  match f.cause with
  | .timeout => .timeout
  | .connect _ => .network
  | .invalidUrl _ => .invalidUrl
  | .other _ => .network

def error (f : Failed) : String :=
  match f.cause with
  | .timeout => "Request timed out"
  | .connect _ => "Failed to connect to server"
  | .invalidUrl _ => "Invalid URL"
  | .other _ => "HTTP error occurred"

/-- What the other side said, or how long the request waited. -/
def details (f : Failed) : String :=
  match f.cause with
  | .timeout => "Request exceeded " ++ f.patience.toText ++ " seconds timeout"
  | .connect message => message
  | .invalidUrl message => message
  | .other message => message

end Failed

namespace Exchange

/-- Why a call ends without a result. Clients may have reasons of their own. -/
inductive Problem where
  | fault (f : Fault)
  | notAscii (flaw : Text.Ascii.Flaw)
  | domain (problem : Idna.Problem)
  | withoutScheme (address : String)
  | unreadable (problem : Charset.Problem)
  | other (message : String)
  deriving DecidableEq, Repr

def Problem.message : Problem → String
  | fault f => f.message
  | notAscii flaw => flaw.message
  | domain problem => problem.message
  | withoutScheme address =>
    "unknown url type: " ++ String.ofList (Text.quoted address.toList)
  | unreadable problem => problem.message
  | other message => message

inductive Stop where
  | failed (error : TransportError)
  | broken (problem : Problem)

end Exchange

end TemplatedRequests
