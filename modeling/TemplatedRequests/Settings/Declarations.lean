import TemplatedRequests.OrderedMap
import TemplatedRequests.Text.Blank
import TemplatedRequests.Text.Lines
import TemplatedRequests.Text.Utf8

/-!
Declarations in a file of settings. A name, perhaps after `export`, stands before an equals sign
and a value; a value in quotes may have escapes and line feeds, one without quotes ends at its line
or at a comment. A name without a value is declared and has none. A declaration that cannot be read
is skipped with the rest of its line. Values may refer to other names.
-/

namespace TemplatedRequests.Settings

def isInnerBlank (c : Char) : Bool := Text.isBlank c && c != '\n'

def skipBlanks (cs : List Char) : List Char := cs.dropWhile isInnerBlank

def toLineEnd (cs : List Char) : List Char := cs.dropWhile (· != '\n')

def skipLine (cs : List Char) : List Char := (toLineEnd cs).drop 1

def skipExport (cs : List Char) : List Char :=
  match cs with
  | 'e' :: 'x' :: 'p' :: 'o' :: 'r' :: 't' :: c :: r => if isInnerBlank c then skipBlanks r else cs
  | _ => cs

def skipComment (cs : List Char) : List Char :=
  match skipBlanks cs with
  | '#' :: r => toLineEnd r
  | _ => cs

/-- The text after the end of a line that holds nothing more. -/
def lineEnd? (cs : List Char) : Option (List Char) :=
  match skipBlanks cs with
  | [] => some []
  | '\n' :: r => some r
  | _ => none

def isNameChar (c : Char) : Bool := c != '=' && c != '#' && !Text.isBlank c

/-- A name, which may stand in single quotes, and the text after it. -/
def name? (cs : List Char) : Option (List Char × List Char) :=
  match cs with
  | '\'' :: r => match r.takeWhile (· != '\''), r.dropWhile (· != '\'') with
    | c :: name, _ :: rest => some (c :: name, rest)
    | _, _ => none
  | _ => match cs.takeWhile isNameChar with
    | [] => none
    | name => some (name, cs.dropWhile isNameChar)

/-- The text up to a closing quote, and the text after it. A backslash takes the next character
with it, so a quote after one does not close. -/
def quoted? (quote : Char) : List Char → Option (List Char × List Char)
  | [] => none
  | '\\' :: c :: r => (quoted? quote r).map fun p => ('\\' :: c :: p.1, p.2)
  | c :: r =>
    if c = quote then some ([], r)
    else if c = '\\' then none
    else (quoted? quote r).map fun p => (c :: p.1, p.2)

/-- Characters that may follow a backslash, with what they stand for. -/
abbrev Escapes := List (Char × Char)

def singleEscapes : Escapes := [('\\', '\\'), ('\'', '\'')]

def doubleEscapes : Escapes := [('\\', '\\'), ('\'', '\''), ('"', '"'), ('a', '\x07'),
  ('b', '\x08'), ('f', '\x0c'), ('n', '\n'), ('r', '\r'), ('t', '\t'), ('v', '\x0b')]

def unescape (escapes : Escapes) : List Char → List Char
  | [] => []
  | '\\' :: c :: r => match escapes.find? (·.1 == c) with
    | some e => e.2 :: unescape escapes r
    | none => '\\' :: unescape escapes (c :: r)
  | c :: r => c :: unescape escapes r

def beforeComment : List Char → List Char
  | [] => []
  | c :: '#' :: r => if Text.isBlank c then [] else c :: beforeComment ('#' :: r)
  | c :: r => c :: beforeComment r

/-- A value and the text after it. Blanks in front belong to a value without quotes as far as
comments go: a number sign after them starts one. -/
def value (cs : List Char) : Except (List Char) (List Char × List Char) :=
  let found? : Option (List Char × List Char) := match skipBlanks cs with
    | '\'' :: r => (quoted? '\'' r).map fun p => (unescape singleEscapes p.1, p.2)
    | '"' :: r => (quoted? '"' r).map fun p => (unescape doubleEscapes p.1, p.2)
    | _ => some (Text.trim (beforeComment (cs.takeWhile (· != '\n'))), toLineEnd cs)
  found?.elim (.error (skipBlanks cs)) .ok

abbrev Declaration := List Char × Option (List Char)

/-- What follows a declaration: perhaps a comment, and the end of the line. -/
def endOf? (d : Option Declaration) (cs : List Char) : Option (Option Declaration × List Char) :=
  (lineEnd? (skipComment cs)).map fun rest => (d, rest)

def declaration (cs : List Char) : Except (List Char) (Option Declaration × List Char) :=
  match cs with
  | '#' :: _ => (endOf? none cs).elim (.error cs) .ok
  | _ => match name? cs with
    | none => .error cs
    | some (name, r) => match skipBlanks r with
      | '=' :: r => do
        let (value, r) ← value r
        (endOf? (some (name, some value)) r).elim (.error (skipComment r)) .ok
      | r => (endOf? (some (name, none)) r).elim (.error (skipComment r)) .ok

/-- Declarations of a text. Each takes at least one character, so its length bounds their number. -/
def declarationsIn : (bound : Nat) → List Char → List Declaration
  | 0, _ => []
  | n + 1, cs => match cs.dropWhile Text.isBlank with
    | [] => []
    | cs => match declaration (skipExport cs) with
      | .ok (some d, rest) => d :: declarationsIn n rest
      | .ok (none, rest) => declarationsIn n rest
      | .error rest => declarationsIn n (skipLine rest)

/-- A reference after its opening brace: a name, perhaps a default, and the text after the closing
brace. -/
def reference? (cs : List Char) : Option (List Char × List Char × List Char) :=
  let isName := fun c => c != '\x7d' && c != ':'
  let name := cs.takeWhile isName
  match cs.dropWhile isName with
  | '\x7d' :: r => some (name, [], r)
  | ':' :: '-' :: r => match r.dropWhile (· != '\x7d') with
    | _ :: rest => some (name, r.takeWhile (· != '\x7d'), rest)
    | [] => none
  | _ => none

/-- Fills in references. Each step takes at least one character. -/
def fill (known : String → Option String) : (bound : Nat) → List Char → List Char
  | 0, cs => cs
  | _, [] => []
  | n + 1, '$' :: '\x7b' :: r => match reference? r with
    | some (name, default, rest) =>
      ((known (String.ofList name)).elim default String.toList) ++ fill known n rest
    | none => '$' :: fill known n ('\x7b' :: r)
  | n + 1, c :: r => c :: fill known n r

/-- What a name stands for: what is declared of it so far, else its value in the process. A name
that is declared without a value stands for nothing. -/
def known (process : Bindings) (declared : OrderedMap (Option String)) (name : String) :
    Option String :=
  match declared.get? name with
  | some value => some (value.getD "")
  | none => process.get? name

/-- Names declared in a file, each with its value, if it has one. -/
def declared (process : Bindings) (file : List Char) : OrderedMap (Option String) :=
  let cs := Text.unifyLineEnds (Text.Utf8.dropMark file)
  (declarationsIn cs.length cs).foldl (fun acc d =>
    acc.insert (String.ofList d.1)
      (d.2.map fun v => String.ofList (fill (known process acc) v.length v))) ∅

end TemplatedRequests.Settings
