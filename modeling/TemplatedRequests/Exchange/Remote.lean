import TemplatedRequests.Charset.Declared
import TemplatedRequests.Exchange.Incoming

/-!
The client that is used, toward an other side that is known beforehand: it gives one answer, or fails,
or there is a network that is used only for addresses it refuses. The answer is given with its headers
as text, and of sets of characters the client knows those that have an entry; it takes a text in any
other for UTF-8. What is stated about calls holds of every client.
-/

namespace TemplatedRequests

inductive Remote where
  | answers (status : Nat) (headers : List (String × String)) (body : List UInt8)
  | fails (error : TransportError)
  | network

namespace Exchange

/-- Sends a resolved request; also tells what reached the other side. -/
def deliver (remote : Remote) (r : Request) : List Sent × Except Stop Received :=
  match outgoing r with
  | .error stop => ([], .error stop)
  | .ok (url, sent) => match remote with
    | .answers status headers body => ([sent], received url status headers body)
    | .fails error => ([sent], .error (.failed error))
    | .network => match url.unsupported? with
      | some message => ([], .error (.failed (.invalidUrl message)))
      | none => ([], .error (.failed (.connect "")))

/-- The text of a body; an empty one has no need of a set of characters. -/
def bodyText (contentType? : Option String) (body : List UInt8) : Except Problem String :=
  if body.isEmpty then .ok ""
  else match (Charset.declaredBy contentType?).decode body with
    | .ok cs => .ok (String.ofList cs)
    | .error problem => .error (.unreadable problem)

def Client.toward (remote : Remote) : Client where
  deliver := Exchange.deliver remote
  text a := bodyText (a.headers.get? "content-type") a.body

end Exchange

end TemplatedRequests
