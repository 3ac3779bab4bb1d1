import TemplatedRequests.Text.Blank
import TemplatedRequests.Text.Search

/-!
Where in a response a captured value is: in a header, or in the body at a path.
-/

namespace TemplatedRequests.Capture

inductive PathKind where
  | header
  | jsonPath
  | xpath
  deriving DecidableEq, Repr

def PathKind.label : PathKind → String
  | header => "header"
  | jsonPath => "jsonpath"
  | xpath => "xpath"

structure Path where
  kind : PathKind
  expression : String
  deriving DecidableEq, Repr

def headerStart : List Char := "headers.".toList

def isRooted (cs : List Char) : Bool :=
  "$".toList.isPrefixOf cs || "@.".toList.isPrefixOf cs || Text.occurs "$.".toList cs

def hasBrackets (cs : List Char) : Bool :=
  cs.contains '[' && cs.contains ']' && !"/".toList.isPrefixOf cs

def Path.ofChars (cs : List Char) : Path :=
  let cs := Text.trim cs
  match Text.after? headerStart cs with
  | some name => ⟨.header, String.ofList (Text.trim name)⟩
  | none =>
    if isRooted cs || hasBrackets cs then ⟨.jsonPath, String.ofList cs⟩
    else ⟨.xpath, String.ofList cs⟩

def Path.ofText (text : String) : Path := .ofChars text.toList

/-- Whether every closing bracket of `pairs` matches the last one that is open. `stack` holds the
closing brackets that are due. -/
def balanced (pairs : List (Char × Char)) : (stack : List Char) → List Char → Bool
  | stack, [] => stack.isEmpty
  | stack, c :: r => match pairs.find? (·.1 == c) with
    | some p => balanced pairs (p.2 :: stack) r
    | none =>
      if pairs.any (·.2 == c) then match stack with
        | due :: stack => due == c && balanced pairs stack r
        | [] => false
      else balanced pairs stack r

def squareBrackets : List (Char × Char) := [('[', ']')]

def allBrackets : List (Char × Char) := [('[', ']'), ('(', ')')]

/-- A path into a document starts at a root, with balanced brackets. -/
def isJsonPath (text : String) : Bool :=
  match text.toList with
  | c :: r => (c == '$' || c == '@') && balanced squareBrackets [] (c :: r)
  | [] => false

def isXPath (text : String) : Bool :=
  !text.toList.isEmpty && balanced allBrackets [] text.toList

end TemplatedRequests.Capture
