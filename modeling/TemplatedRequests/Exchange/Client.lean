import TemplatedRequests.Exchange.Failure
import TemplatedRequests.Request

/-!
Clients, which carry requests to the other side and understand what comes back. How a request is
written, which codings are undone and which sets of characters are known is a matter of the client.
-/

namespace TemplatedRequests.Exchange

/-- A request as it reaches the other side. -/
structure Sent where
  method : Method
  url : String
  headers : Bindings
  body : String

/-- An answer with its body as it was meant. -/
structure Received where
  url : String
  status : Nat
  reason : String
  headers : Bindings
  body : List UInt8

structure Client where
  /-- Sends a resolved request; also tells what reached the other side. -/
  deliver : Request → List Sent × Except Stop Received
  /-- The body of an answer as text, which is asked for after the answer has come in. -/
  text : Received → Except Problem String

def Client.giving (a : Received) (text : String) : Client where
  deliver r := ([⟨r.method, r.url, r.headers, r.body.getD ""⟩], .ok a)
  text _ := .ok text

def Client.offline : Client where
  deliver _ := ([], .error (.failed (.connect "")))
  text _ := .ok ""

end TemplatedRequests.Exchange
