import TemplatedRequests.Capture.Path
import TemplatedRequests.Text.Lines

/-!
Comment lines that capture a value: `# @capture name = path`.
-/

namespace TemplatedRequests.Capture

structure Directive where
  variableName : String
  path : Path
  deriving DecidableEq, Repr

def isNameStart (c : Char) : Bool := c.isAlpha || c == '_'

def isNameChar (c : Char) : Bool := c.isAlphanum || c == '_'

def name? : List Char → Option (List Char × List Char)
  | [] => none
  | c :: r =>
    if isNameStart c then some (c :: r.takeWhile isNameChar, r.dropWhile isNameChar) else none

def skipSomeBlanks? : List Char → Option (List Char)
  | [] => none
  | c :: r => if Text.isBlank c then some (Text.trimLeft r) else none

/-- The path after the equals sign. It may not run over a line feed. A text of blanks alone is
read for the last blank that is none. -/
def expression? (cs : List Char) : Option (List Char) :=
  match Text.trim cs with
  | [] => (cs.reverse.find? (· != '\n')).map ([·])
  | path => if path.contains '\n' then none else some path

/-- Reads the line up to the equals sign: the name, and the text after the sign. -/
def header? (line : List Char) : Option (List Char × List Char) := do
  let r ← Text.after? ['#'] (Text.trimLeft line)
  let r ← Text.after? "@capture".toList (Text.trimLeft r)
  let r ← skipSomeBlanks? r
  let (name, r) ← name? r
  let r ← Text.after? ['='] (Text.trimLeft r)
  return (name, r)

def Directive.ofChars? (line : List Char) : Option Directive := do
  let (name, r) ← header? line
  let path ← expression? r
  return ⟨String.ofList name, .ofChars path⟩

def directives (text : String) : List Directive :=
  (Text.lines text.toList).filterMap Directive.ofChars?

end TemplatedRequests.Capture
