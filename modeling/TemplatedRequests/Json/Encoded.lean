import TemplatedRequests.Charset.Wide
import TemplatedRequests.Text.Utf8

/-!
Documents as bytes. The first characters of a document are in ASCII, so zeros among the first bytes
tell how wide a character is and which byte of it stands first.
-/

namespace TemplatedRequests.Json

open Charset (ByteOrder)

inductive Encoded where
  | narrow
  | wide (order : ByteOrder)
  | widest (order : ByteOrder)
  deriving DecidableEq, Repr

namespace Encoded

def ofBytes : List UInt8 → Encoded
  | 0 :: 0 :: _ :: _ :: _ => widest .highFirst
  | 0 :: _ :: _ :: _ :: _ => wide .highFirst
  | _ :: 0 :: 0 :: 0 :: _ => widest .lowFirst
  | _ :: 0 :: _ :: _ :: _ => wide .lowFirst
  | [0, _] => wide .highFirst
  | [_, 0] => wide .lowFirst
  | _ => narrow

def numbers (order : ByteOrder) : List UInt8 → List Nat
  | a :: b :: c :: d :: r => order.value [a, b, c, d] :: numbers order r
  | _ => []

/-- The text of a document, if its bytes make up whole characters. A mark in front is left out. -/
def text? (bytes : List UInt8) : Option (List Char) :=
  match ofBytes bytes with
  | narrow => match Text.Utf8.decode bytes with
    | .ok text => some (Text.Utf8.dropMark text)
    | .error _ => none
  | wide order => if bytes.length % 2 = 0 then some (Charset.decode16 order bytes) else none
  | widest order =>
    if bytes.length % 4 = 0 && (numbers order bytes).all (· < 0x110000) then
      some (Charset.decode32 order bytes)
    else none

end Encoded

end TemplatedRequests.Json
