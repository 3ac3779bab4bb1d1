import TemplatedRequests.Binary64.Layout
import TemplatedRequests.Json.Value
import TemplatedRequests.Text.Hex

/-!
Documents as compact text: no blanks, characters past the control characters written as they are.
-/

namespace TemplatedRequests.Json

/-- Numbers that are not finite have names of their own. -/
def numberLayout : Binary64.Layout :=
  { Binary64.Layout.plain with infinity := "Infinity", notANumber := "NaN" }

def escaped (c : Char) : List Char :=
  if c = '"' ∨ c = '\\' then ['\\', c]
  else if c = '\n' then ['\\', 'n']
  else if c = '\r' then ['\\', 'r']
  else if c = '\t' then ['\\', 't']
  else if c = Char.ofNat 8 then ['\\', 'b']
  else if c = Char.ofNat 12 then ['\\', 'f']
  else if c.toNat < 0x20 then '\\' :: 'u' :: Text.hex 4 c.toNat
  else [c]

def quote (s : String) : List Char := '"' :: s.toList.flatMap escaped ++ ['"']

mutual

def write : Value → List Char
  | .null => "null".toList
  | .bool true => "true".toList
  | .bool false => "false".toList
  | .int n => (toString n).toList
  | .float x => (numberLayout.render x).toList
  | .text s => quote s
  | .array [] => ['[', ']']
  | .array (v :: vs) => '[' :: write v ++ writeItems vs ++ [']']
  | .object [] => ['{', '}']
  | .object ((name, v) :: fs) => '{' :: quote name ++ ':' :: write v ++ writeFields fs ++ ['}']

def writeItems : List Value → List Char
  | [] => []
  | v :: vs => ',' :: write v ++ writeItems vs

def writeFields : List (String × Value) → List Char
  | [] => []
  | (name, v) :: fs => ',' :: quote name ++ ':' :: write v ++ writeFields fs

end

def Value.render (v : Value) : String := String.ofList (write v)

/-- A text as it is, any other document in compact form. -/
def Value.toText : Value → String
  | .text s => s
  | v => v.render

end TemplatedRequests.Json
