import TemplatedRequests.Compression.Frame
import TemplatedRequests.Exchange.Outgoing
import TemplatedRequests.Exchange.Status
import TemplatedRequests.Url.Reference

/-!
Answers as they come in: the coding of the body is undone, and an address that the answer leads to
must be one, though it is not followed.
-/

namespace TemplatedRequests.Exchange

/-- A body that is not empty adds its length, unless the headers tell it. -/
def answerHeaders (headers : Bindings) (body : List UInt8) : Bindings :=
  if body.isEmpty then headers else ensure "content-length" (toString body.length) headers

/-- The codings that headers name; those that are not known change nothing. -/
def codingsOf (headers : Bindings) : List Compression.Coding :=
  (((headers.get? "content-encoding").getD "").toList.splitOn ',').filterMap fun name =>
    Compression.Coding.ofName? (String.ofList (Text.lower (Text.trim name)))

def decoded (headers : Bindings) (body : List UInt8) : Except Stop (List UInt8) :=
  match Compression.Coding.decodeAll (codingsOf headers) body with
  | .ok body => .ok body
  | .error problem => .error (.failed (.other problem.message))

def redirectStatuses : List Nat := [301, 302, 303, 307, 308]

def location? (status : Nat) (headers : Bindings) : Option (List Char) :=
  if redirectStatuses.contains status then (headers.get? "location").map String.toList else none

/-- Works out where a location leads. Its host and that of the request must be names that can be
read, as they are compared. -/
def checkLocation (url : Url) (location : List Char) : Except Stop Unit := do
  let reference ← match Url.read location with
    | .ok reference => pure reference
    | .error problem =>
      throw (.failed (.other ("Invalid URL in location header: " ++ problem.message ++ ".")))
  let _ ← named (Url.plainHost reference.host)
  let target ← addressed (url.follow reference (← named (Url.plainHost url.host)))
  let there ← named (Url.plainHost target.host)
  let here ← named (Url.plainHost url.host)
  if target.scheme ≠ url.scheme || there ≠ here || target.port ≠ url.port then ascii target.place

/-- What an answer that is given as text comes to, which must be ASCII for that. An address without a
scheme has no place where what the answer tells could be kept. -/
def received (url : Url) (status : Nat) (headers : List (String × String)) (body : List UInt8) :
    Except Stop Received := do
  let headers := answerHeaders (← headersOf headers) body
  let plain ← decoded headers body
  if url.scheme.isEmpty then throw (.broken (.withoutScheme url.toText))
  if let some location := location? status headers then checkLocation url location
  return ⟨url.toText, status, Status.reason status, headers, plain⟩

end TemplatedRequests.Exchange
