import TemplatedRequests.Fault
import TemplatedRequests.Scopes
import TemplatedRequests.Text.Blank

/-!
Text with placeholders. A placeholder is a name between double braces; a name that starts with a
dollar sign calls a function with the words after it. A backslash before double braces makes them
plain text. A value may hold placeholders of its own, ten levels deep.
-/

namespace TemplatedRequests.Template

def hasOpening : List Char → Bool
  | '{' :: '{' :: _ => true
  | _ :: r => hasOpening r
  | [] => false

/-- Stands for escaped opening braces while a text is scanned. -/
def hiddenOpening : Char := Char.ofNat 0xe000

/-- Stands for escaped closing braces while a text is scanned. -/
def hiddenClosing : Char := Char.ofNat 0xe001

def hideOpenings : List Char → List Char
  | [] => []
  | '\\' :: '{' :: '{' :: r => hiddenOpening :: hideOpenings r
  | c :: r => c :: hideOpenings r

def hideClosings : List Char → List Char
  | [] => []
  | '\\' :: '}' :: '}' :: r => hiddenClosing :: hideClosings r
  | c :: r => c :: hideClosings r

def hide (cs : List Char) : List Char := hideClosings (hideOpenings cs)

/-- What a character outside placeholders is written as. -/
def restore (c : Char) : List Char :=
  if c = hiddenOpening then ['{', '{']
  else if c = hiddenClosing then ['}', '}']
  else [c]

inductive Piece where
  | plain (c : Char)
  | slot (inside : List Char)
  deriving DecidableEq, Repr

/-- The inside of a placeholder whose opening has been read, and the text after it. -/
def inside? (cs : List Char) : Option (List Char × List Char) :=
  match cs.takeWhile (· != '}'), cs.dropWhile (· != '}') with
  | c :: inside, '}' :: '}' :: r => some (c :: inside, r)
  | _, _ => none

theorem append_of_inside? {cs inside r : List Char} (h : inside? cs = some (inside, r)) :
    inside ++ '}' :: '}' :: r = cs := by
  have key := List.takeWhile_append_dropWhile (p := (· != '}')) (l := cs)
  unfold inside? at h
  split at h
  · rename_i ht hd
    cases h
    rw [ht, hd] at key
    exact key
  · cases h

/-- Cuts a text with hidden escapes into plain characters and placeholders, from the left. -/
def pieces : List Char → List Piece
  | [] => []
  | '{' :: '{' :: r =>
    match _h : inside? r with
    | some (inside, rest) => .slot inside :: pieces rest
    | none => .plain '{' :: pieces ('{' :: r)
  | c :: r => .plain c :: pieces r
termination_by cs => cs.length
decreasing_by
  · have := congrArg List.length (append_of_inside? ‹_›)
    simp only [List.length_append, List.length_cons] at this ⊢
    omega
  · simp
  · simp

def nameOf (inside : List Char) : String := String.ofList (Text.trim inside)

def Piece.name? : Piece → Option String
  | .plain _ => none
  | .slot inside => some (nameOf inside)

def namesIn (cs : List Char) : List String :=
  if hasOpening cs then (pieces (hide cs)).filterMap Piece.name? else []

def names (text : String) : List String := namesIn text.toList

def isCall (name : String) : Bool := name.toList.head? == some '$'

/-- Names that no scope defines, each once; calls of functions are not looked at. -/
def undefinedNames (text : String) (scopes : Scopes) : List String :=
  (names text).foldl (fun found name =>
    if isCall name || scopes.contains name || found.contains name then found
    else found ++ [name]) []

abbrev Resolver (m : Type → Type) :=
  (function : String) → (args : List String) → ExceptT Fault m String

section

variable {m : Type → Type} [Monad m]

/-- The value of a name: a function's result, or what the scopes define. -/
def valueOf (scopes : Scopes) (call : Resolver m) (name : String) : ExceptT Fault m String :=
  match name.toList with
  | '$' :: r => match Text.words r with
    | [] => throw .emptyFunctionName
    | function :: args => call (String.ofList function) (args.map String.ofList)
  | _ => match scopes.lookup? name with
    | some value => pure value
    | none => throw (.undefined name)

/-- What a piece is written as when names are written by `write`. -/
def Piece.written (write : String → ExceptT Fault m (List Char)) :
    Piece → ExceptT Fault m (List Char)
  | .plain c => pure (restore c)
  | .slot inside => write (nameOf inside)

/-- Follows a name into its value, which `expand` takes up with one more name on the way to it. No
name of the way may come up again. -/
def enter (scopes : Scopes) (call : Resolver m)
    (expand : (path : List String) → List Char → ExceptT Fault m (List Char))
    (path : List String) (name : String) : ExceptT Fault m (List Char) := do
  if name ∈ path then throw (.circular name)
  let value ← valueOf scopes call name
  expand (name :: path) value.toList

/-- Expands a text `levels` deep. The names on the way to it are in `path`. -/
def expand (scopes : Scopes) (call : Resolver m) :
    (levels : Nat) → (path : List String) → List Char → ExceptT Fault m (List Char)
  | 0, _, cs => if hasOpening cs then throw .tooDeep else pure cs
  | levels + 1, path, cs =>
    if hasOpening cs then do
      let write := enter scopes call (expand scopes call levels) path
      let parts ← (pieces (hide cs)).mapM (Piece.written write)
      return parts.flatten
    else pure cs

/-- How many values deep a placeholder may lead. -/
def maxLevels : Nat := 10

def substitute (text : String) (scopes : Scopes) (call : Resolver m) : ExceptT Fault m String := do
  return String.ofList (← expand scopes call maxLevels [] text.toList)

def substituteValues (values : Bindings) (scopes : Scopes) (call : Resolver m) :
    ExceptT Fault m Bindings := do
  let es ← values.entries.mapM fun e => do return (e.1, ← substitute e.2 scopes call)
  return .ofEntries es

end

end TemplatedRequests.Template
