import TemplatedRequests.Dotenv.Path
import TemplatedRequests.Numeral

/-!
What can go wrong when text is resolved or a value is extracted. Every cause belongs to one of
six kinds, save five that lie outside the language of placeholders: an integer that is too long to
be converted, a date outside the calendar, a document whose values lie too deep, a path that the system
refuses to look up, and a name that variables of the process cannot have.
-/

namespace TemplatedRequests

/-- Kinds of failure that callers may tell apart. -/
inductive Kind where
  | undefinedVariable
  | invalidSyntax
  | invalidOffset
  | envVarNotFound
  | dotenvError
  | circularReference
  deriving DecidableEq, Repr

namespace Kind

def label : Kind → String
  | undefinedVariable => "Undefined variable"
  | invalidSyntax => "Invalid syntax"
  | invalidOffset => "Invalid offset"
  | envVarNotFound => "Environment variable not found"
  | dotenvError => "Dotenv error"
  | circularReference => "Circular reference"

def code : Kind → String
  | undefinedVariable => "UNDEFINED_VARIABLE"
  | invalidSyntax => "INVALID_SYNTAX"
  | invalidOffset => "INVALID_OFFSET"
  | envVarNotFound => "ENV_VAR_NOT_FOUND"
  | dotenvError => "DOTENV_ERROR"
  | circularReference => "CIRCULAR_REFERENCE"

/-- Only a missing variable counts as something not found. -/
def status : Kind → Nat
  | undefinedVariable => 404
  | _ => 422

def namesVariable : Kind → Bool
  | undefinedVariable => true
  | envVarNotFound => true
  | _ => false

end Kind

/-- A failure as it is told to a caller. -/
structure Report where
  kind : Kind
  detail : String
  deriving DecidableEq, Repr

namespace Report

def message (r : Report) : String := r.kind.label ++ ": " ++ r.detail

def name? (r : Report) : Option String := if r.kind.namesVariable then some r.detail else none

def status (r : Report) : Nat := r.kind.status

end Report

inductive Container where
  | object
  | array
  deriving DecidableEq, Repr

def Container.label : Container → String
  | object => "object"
  | array => "array"

inductive Fault where
  | undefined (name : String)
  | headerMissing (name : String)
  | fieldMissing (name : String)
  | indexOutOfBounds (index : Nat)
  | emptyFunctionName
  | datetimeWithoutFormat
  | unknownFormat (name : String)
  | randomWithoutBounds
  | badMinimum (text : String)
  | badMaximum (text : String)
  | emptyInterval (low high : Int)
  | processEnvWithoutName
  | dotenvWithoutName
  | notJson (contentType : String)
  | bodyNotUtf8
  | unparsableBody (problem : String)
  | nonFiniteConstant (text : String)
  | numberOutOfRange (text : String)
  | notImplemented (feature : String)
  | offsetWithoutUnit
  | badAmount (text : String)
  | badUnit (text : String)
  | offsetOutOfRange (amount unit : String)
  | envVarMissing (name : String)
  | dotenvMissing
  | dotenvUnreadable (problem : String)
  | noCurrentDirectory
  | circular (name : String)
  | tooDeep
  | numeral (long : Numeral.TooLong)
  | dateOutOfRange
  | nestedTooDeep (container : Container)
  | lookupRefused (path : Dotenv.Path) (obstacle : Dotenv.Obstacle)
  | nameRefused (problem : String)
  deriving DecidableEq, Repr

namespace Fault

/-- The report of a fault that has one of the six kinds. -/
def report? : Fault → Option Report
  | undefined name => some ⟨.undefinedVariable, name⟩
  | headerMissing name => some ⟨.undefinedVariable, "Header '" ++ name ++ "' not found in response"⟩
  | fieldMissing name => some ⟨.undefinedVariable, "Field '" ++ name ++ "' not found in JSON"⟩
  | indexOutOfBounds i =>
    some ⟨.undefinedVariable, "Array index " ++ toString i ++ " out of bounds"⟩
  | emptyFunctionName => some ⟨.invalidSyntax, "Empty system variable name"⟩
  | datetimeWithoutFormat =>
    some ⟨.invalidSyntax, "datetime requires format argument (rfc1123 or iso8601)"⟩
  | unknownFormat name =>
    some ⟨.invalidSyntax, "Unknown datetime format: " ++ name ++ ". Use 'rfc1123' or 'iso8601'"⟩
  | randomWithoutBounds => some ⟨.invalidSyntax, "randomInt requires min and max arguments"⟩
  | badMinimum text => some ⟨.invalidSyntax, "Invalid min value: " ++ text⟩
  | badMaximum text => some ⟨.invalidSyntax, "Invalid max value: " ++ text⟩
  | emptyInterval low high =>
    some ⟨.invalidSyntax,
      "min (" ++ toString low ++ ") cannot be greater than max (" ++ toString high ++ ")"⟩
  | processEnvWithoutName => some ⟨.invalidSyntax, "processEnv requires variable name"⟩
  | dotenvWithoutName => some ⟨.invalidSyntax, "dotenv requires variable name"⟩
  | notJson contentType =>
    some ⟨.invalidSyntax, "JSONPath extraction requires JSON content type, got " ++ contentType⟩
  | bodyNotUtf8 => some ⟨.invalidSyntax, "Response body is not valid UTF-8"⟩
  | unparsableBody problem => some ⟨.invalidSyntax, "Failed to parse JSON response: " ++ problem⟩
  | nonFiniteConstant text => some ⟨.invalidSyntax, "Invalid JSON value: " ++ text⟩
  | numberOutOfRange text => some ⟨.invalidSyntax, "JSON number out of range: " ++ text⟩
  | notImplemented feature => some ⟨.invalidSyntax, feature ++ " is not yet implemented"⟩
  | offsetWithoutUnit =>
    some ⟨.invalidOffset, "Offset requires number and unit (e.g., '-1 d' or '+2 h')"⟩
  | badAmount text => some ⟨.invalidOffset, "Invalid number: " ++ text⟩
  | badUnit text =>
    some ⟨.invalidOffset, "Invalid unit: " ++ text ++ ". Use 's', 'm', 'h', or 'd'"⟩
  | offsetOutOfRange amount unit =>
    some ⟨.invalidOffset, "Offset out of range: " ++ amount ++ " " ++ unit⟩
  | envVarMissing name => some ⟨.envVarNotFound, name⟩
  | dotenvMissing => some ⟨.dotenvError, ".env file not found"⟩
  | dotenvUnreadable problem => some ⟨.dotenvError, "Failed to read .env file: " ++ problem⟩
  | noCurrentDirectory =>
    some ⟨.dotenvError,
      "Failed to get current directory: [Errno 2] No such file or directory"⟩
  | circular name =>
    some ⟨.circularReference, "Circular reference detected for variable '" ++ name ++ "'"⟩
  | tooDeep =>
    some ⟨.circularReference, "Maximum recursion depth exceeded - possible circular reference"⟩
  | numeral _ => none
  | dateOutOfRange => none
  | nestedTooDeep _ => none
  | lookupRefused _ _ => none
  | nameRefused _ => none

def message : Fault → String
  | numeral long => long.message
  | dateOutOfRange => "date value out of range"
  | nestedTooDeep container =>
    "maximum recursion depth exceeded while decoding a JSON " ++ container.label
      ++ " from a unicode string"
  | lookupRefused path obstacle => obstacle.message path
  | nameRefused problem => problem
  | f => (f.report?.map Report.message).getD ""

end Fault

end TemplatedRequests
