import TemplatedRequests.Binary64.Layout
import TemplatedRequests.Dotenv.Search
import TemplatedRequests.Exchange
import TemplatedRequests.Numeral.Relaxed
import TemplatedRequests.Settings.Declarations
import TemplatedRequests.Text.Case
import TemplatedRequests.Text.Utf8

/-!
Settings of the service. Each comes from the variable of its name in the process, else from the
file of settings, else from its default; the case of letters in names does not count.
-/

namespace TemplatedRequests

/-- `requestTimeout` is in seconds; `searchParents` bounds the folders searched for a file of
variables above the first one. -/
structure Settings where
  databaseUrl : String := "sqlite:///./http_variables.db"
  requestTimeout : Binary64 := .ofQuotient false 30 1
  searchParents : Nat := 2
  logLevel : String := "INFO"

namespace Settings

inductive Problem where
  | notNumber
  | misread (why : Numeral.Misread)
  | negative
  deriving DecidableEq, Repr

namespace Problem

def code : Problem → String
  | notNumber => "float_parsing"
  | misread why => why.code
  | negative => "greater_than_equal"

def message : Problem → String
  | notNumber => "Input should be a valid number, unable to parse string as a number"
  | misread why => why.message
  | negative => "Input should be greater than or equal to 0"

end Problem

structure Issue where
  setting : String
  problem : Problem
  deriving DecidableEq, Repr

def namespaceText : String := "http_variables_"

/-- Names in lower case; of two names that become one the later counts. -/
def lowerNames (declared : OrderedMap (Option String)) : OrderedMap (Option String) :=
  .ofEntries (declared.entries.map fun e => (Text.lowerCase e.1, e.2))

def valueIn (declared : OrderedMap (Option String)) (setting : String) : Option String :=
  ((lowerNames declared).get? (namespaceText ++ setting)).join

def timeout (text : String) : Except Problem Binary64 :=
  match Numeral.relaxedNumber? text.toList with
  | some x => .ok x
  | none => .error .notNumber

def parents (text : String) : Except Problem Nat :=
  match Numeral.relaxed text.toList with
  | .ok (.ofNat n) => .ok n
  | .ok (.negSucc _) => .error .negative
  | .error why => .error (.misread why)

def setting {α : Type} (name : String) (default : α) (parse : String → Except Problem α)
    (text? : Option String) : Except Issue α :=
  match text? with
  | none => .ok default
  | some text => (parse text).mapError fun problem => ⟨name, problem⟩

def issueOf {α : Type} : Except Issue α → List Issue
  | .ok _ => []
  | .error issue => [issue]

/-- Settings from the texts that are found for them. All problems are told. -/
def ofTexts (text? : String → Option String) : Except (List Issue) Settings :=
  let standard : Settings := {}
  let timeout? :=
    setting "request_timeout" standard.requestTimeout timeout (text? "request_timeout")
  let parents? :=
    setting "dotenv_search_parents" standard.searchParents parents (text? "dotenv_search_parents")
  match timeout?, parents? with
  | .ok requestTimeout, .ok searchParents => .ok {
      databaseUrl := (text? "database_url").getD standard.databaseUrl
      requestTimeout
      searchParents
      logLevel := ((text? "log_level").map Text.upperCase).getD standard.logLevel }
  | t, p => .error (issueOf t ++ issueOf p)

def read (process : Bindings) (file : List Char) : Except (List Issue) Settings :=
  let own : OrderedMap (Option String) := .ofEntries (process.entries.map fun e => (e.1, some e.2))
  let inFile := declared process file
  ofTexts fun name => (valueIn own name).or (valueIn inFile name)

def patience (s : Settings) : Patience := .precise s.requestTimeout

inductive Failure where
  | unreadable (flaw : Text.Utf8.Flaw)
  | unsuitable (issues : List Issue)

/-- The file of settings stands in the working folder and need not exist. -/
def load (process : Bindings) (files : Dotenv.Tree) (folder : Dotenv.Path) :
    Except Failure Settings := do
  let file := (files.read (folder ++ [Dotenv.fileName])).toOption.getD []
  let text ← (Text.Utf8.decode file).mapError .unreadable
  (read process text).mapError .unsuitable

end Settings

end TemplatedRequests
