import TemplatedRequests.Clock.Moment
import TemplatedRequests.Clock.Offset
import TemplatedRequests.Dotenv.Cache
import TemplatedRequests.Generator
import TemplatedRequests.Template

/-!
The functions that placeholders may call: random identifiers and integers, the time, variables of
the process and of the nearest file of variables.
-/

namespace TemplatedRequests.Builtins

inductive Function where
  | guid
  | timestamp
  | datetime
  | randomInt
  | processEnv
  | dotenv
  deriving DecidableEq, Repr

def Function.ofName? : String → Option Function
  | "guid" => some guid
  | "timestamp" => some timestamp
  | "datetime" => some datetime
  | "randomInt" => some randomInt
  | "processEnv" => some processEnv
  | "dotenv" => some dotenv
  | _ => none

/-- What functions read and never change. -/
structure Surroundings where
  now : Clock.Moment
  processEnv : Bindings := ∅
  /-- What is wrong with a name that the variables of the process cannot have, as they are kept in an
  encoding of their own. -/
  nameProblem? : String → Option String := fun _ => none
  files : Dotenv.Tree := {}

/-- What calls of functions leave behind. -/
structure State where
  cache : Dotenv.Cache := {}
  generator : Generator := ⟨0⟩

/-- The time, moved by the offset that the arguments give, if any. -/
def shiftedNow (now : Clock.Moment) (args : List String) : Except Fault Clock.Moment :=
  match args with
  | [] => .ok now
  | _ => match Clock.Offset.parse args with
    | .error f => .error f
    | .ok o => match now.shift? o.toSeconds with
      | some m => .ok m
      | none => .error (.offsetOutOfRange (args[0]?.getD "") (args[1]?.getD ""))

def timestamp (now : Clock.Moment) (args : List String) : Except Fault String :=
  (shiftedNow now args).map fun m => toString m.timestamp

/-- The offset is read before the name of the format is looked at. -/
def datetime (now : Clock.Moment) : (args : List String) → Except Fault String
  | [] => .error .datetimeWithoutFormat
  | format :: args => match shiftedNow now args with
    | .error f => .error f
    | .ok m =>
      if format = "rfc1123" then .ok (Clock.rfc1123 m)
      else if format = "iso8601" then Clock.iso8601 m
      else .error (.unknownFormat format)

def bound (bad : String → Fault) (text : String) : Except Fault Int :=
  match Numeral.parse text.toList with
  | .error long => .error (.numeral long)
  | .ok none => .error (bad text)
  | .ok (some n) => .ok n

def bounds : (args : List String) → Except Fault (Int × Int)
  | min :: max :: _ => do
    let low ← bound .badMinimum min
    let high ← bound .badMaximum max
    if high < low then .error (.emptyInterval low high) else .ok (low, high)
  | _ => .error .randomWithoutBounds

/-- A name, and whether a percent sign stands before it. -/
def splitMark (arg : String) : Bool × String :=
  match arg.toList with
  | '%' :: r => (true, String.ofList r)
  | _ => (false, arg)

/-- A name after a percent sign may be missing and is then empty. -/
def processEnv (environment : Bindings) (nameProblem? : String → Option String) :
    (args : List String) → Except Fault String
  | [] => .error .processEnvWithoutName
  | arg :: _ =>
    let (optional, name) := splitMark arg
    match nameProblem? name with
    | some problem => .error (.nameRefused problem)
    | none => match environment.get? name with
      | some value => .ok value
      | none => if optional then .ok "" else .error (.envVarMissing name)

def dotenv (files : Dotenv.Tree) (cache : Dotenv.Cache) :
    (args : List String) → Except Fault String × Dotenv.Cache
  | [] => (.error .dotenvWithoutName, cache)
  | name :: _ =>
    let (found, cache) := cache.get files name
    (found.bind fun
      | some value => .ok value
      | none => .error (.envVarMissing name), cache)

def call (s : Surroundings) : Template.Resolver (StateM State) := fun name args state =>
  match Function.ofName? name with
  | none => (.error (.undefined name), state)
  | some .guid =>
    let (text, generator) := state.generator.guid
    (.ok text, { state with generator })
  | some .timestamp => (timestamp s.now args, state)
  | some .datetime => (datetime s.now args, state)
  | some .randomInt => match bounds args with
    | .error f => (.error f, state)
    | .ok (low, high) =>
      let (n, generator) := state.generator.between low high
      (.ok (toString n), { state with generator })
  | some .processEnv => (processEnv s.processEnv s.nameProblem? args, state)
  | some .dotenv =>
    let (found, cache) := dotenv s.files state.cache args
    (found, { state with cache })

end TemplatedRequests.Builtins
