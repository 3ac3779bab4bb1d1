/-!
Levels of log records, the level from which records are shown, and the line that shows one.
-/

namespace TemplatedRequests.Logging

/-- Names of levels with their numbers; a level that is not shown by its name has another name of
the same number before it. -/
def levels : List (String × Nat) := [("CRITICAL", 50), ("FATAL", 50), ("ERROR", 40),
  ("WARNING", 30), ("WARN", 30), ("INFO", 20), ("DEBUG", 10), ("NOTSET", 0)]

def numberOf? (name : String) : Option Nat := (levels.find? (·.1 == name)).map (·.2)

def standardLevel : Nat := 20

/-- Why a name sets no level: what it stands for is no number. -/
inductive Misnamed where
  | template (text : String)
  | styles
  deriving DecidableEq, Repr

def lineTemplate : String := "%(levelname)s:%(name)s:%(message)s"

def Misnamed.message : Misnamed → String
  | template text => "Unknown level: '" ++ text ++ "'"
  | styles => "Level not an integer or a valid string: \x7b'%': (<class 'logging.PercentStyle'>, '"
      ++ lineTemplate ++ "'), '\x7b': (<class 'logging.StrFormatStyle'>, "
      ++ "'\x7blevelname\x7d:\x7bname\x7d:\x7bmessage\x7d'), "
      ++ "'$': (<class 'logging.StringTemplateStyle'>, "
      ++ "'$\x7blevelname\x7d:$\x7bname\x7d:$\x7bmessage\x7d')\x7d"

/-- The level that a name sets; a name that is unknown sets the level of information. -/
def levelOf (name : String) : Except Misnamed Nat :=
  if name = "BASIC_FORMAT" then .error (.template lineTemplate)
  else if name = "_STYLES" then .error .styles
  else .ok ((numberOf? name).getD standardLevel)

def nameOf (number : Nat) : String :=
  ((levels.find? (·.2 == number)).map (·.1)).getD ("Level " ++ toString number)

structure Record where
  level : Nat
  logger : String
  line : Nat
  message : String

structure Console where
  level : Nat
  deriving DecidableEq, Repr

/-- What records are sent through; a record must reach the threshold to be sent at all. -/
structure Root where
  threshold : Nat
  consoles : List Console
  deriving DecidableEq, Repr

/-- Sets the threshold and puts one console in the place of all others. -/
def Root.configure (_ : Root) (levelName : String) : Except Misnamed Root :=
  (levelOf levelName).map fun level => ⟨level, [⟨level⟩]⟩

/-- Records of the lowest level are never sent. -/
def Root.isEnabled (r : Root) (level : Nat) : Bool := 0 < level && r.threshold ≤ level

def padded (width : Nat) (text : String) : String :=
  text ++ String.ofList (List.replicate (width - text.length) ' ')

def Record.text (r : Record) : String :=
  padded 8 (nameOf r.level) ++ " | " ++ r.logger ++ ":" ++ toString r.line ++ " | " ++ r.message

end TemplatedRequests.Logging
