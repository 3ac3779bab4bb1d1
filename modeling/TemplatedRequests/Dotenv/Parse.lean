import TemplatedRequests.OrderedMap
import TemplatedRequests.Text.Blank
import TemplatedRequests.Text.Lines

/-!
Variables declared in a file, one `name=value` a line. Blank lines and lines that start with a
number sign declare nothing; a line without an equals sign is reported and skipped.
-/

namespace TemplatedRequests.Dotenv

def splitFirst (sep : Char) : List Char → Option (List Char × List Char)
  | [] => none
  | c :: r => if c = sep then some ([], r) else (splitFirst sep r).map fun p => (c :: p.1, p.2)

def unquote (cs : List Char) : List Char :=
  match cs with
  | q :: r =>
    if (q = '\'' ∨ q = '"') ∧ r.getLast? = some q then r.dropLast else cs
  | [] => []

inductive Line where
  | nothing
  | malformed (text : String)
  | declaration (name value : String)
  deriving DecidableEq, Repr

def Line.ofText (raw : List Char) : Line :=
  match Text.trim raw with
  | [] => .nothing
  | '#' :: _ => .nothing
  | line => match splitFirst '=' line with
    | none => .malformed (String.ofList line)
    | some (name, value) =>
      .declaration (String.ofList (Text.trim name)) (String.ofList (unquote (Text.trim value)))

/-- A line that declares nothing and should have. -/
structure Warning where
  line : Nat
  text : String
  deriving DecidableEq, Repr

def Warning.message (w : Warning) : String :=
  "Invalid .env line " ++ toString w.line ++ ": " ++ w.text

structure File where
  values : Bindings := ∅
  warnings : List Warning := []

def File.addLine (f : File) (number : Nat) : Line → File
  | .nothing => f
  | .malformed text => { f with warnings := f.warnings ++ [⟨number, text⟩] }
  | .declaration name value => { f with values := f.values.insert name value }

def File.addLines (f : File) (number : Nat) : List Line → File
  | [] => f
  | l :: ls => (f.addLine number l).addLines (number + 1) ls

def File.ofText (cs : List Char) : File :=
  File.addLines {} 1 ((Text.lines cs).map Line.ofText)

end TemplatedRequests.Dotenv
