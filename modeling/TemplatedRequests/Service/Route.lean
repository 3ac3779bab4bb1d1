import TemplatedRequests.Url

/-!
Calls of the service and the operations they name.
-/

namespace TemplatedRequests.Service

inductive Operation where
  | about
  | health
  | createEnvironment
  | listEnvironments
  | resolvedEnvironments
  | getEnvironment
  | updateEnvironment
  | deleteEnvironment
  | activateEnvironment
  | addVariable
  | updateVariable
  | deleteVariable
  | execute
  | resolveText
  | lookupVariable
  | extractValue
  | parseCaptures
  | getSession
  | clearSession
  deriving DecidableEq, Repr

/-- A segment of a path: a word, or any text that is not empty. -/
inductive Segment where
  | word (text : String)
  | any
  deriving DecidableEq, Repr

structure Route where
  method : String
  pattern : List Segment
  operation : Operation

open Segment in
/-- Where two routes fit a path, the earlier one is taken. -/
def routes : List Route :=
  let environmentPath := [word "api", word "environments"]
  let variablePath := [word "api", word "variables"]
  [⟨"GET", [word ""], .about⟩,
    ⟨"GET", [word "health"], .health⟩,
    ⟨"POST", environmentPath, .createEnvironment⟩,
    ⟨"GET", environmentPath, .listEnvironments⟩,
    ⟨"GET", environmentPath ++ [word "resolved"], .resolvedEnvironments⟩,
    ⟨"GET", environmentPath ++ [any], .getEnvironment⟩,
    ⟨"PUT", environmentPath ++ [any], .updateEnvironment⟩,
    ⟨"DELETE", environmentPath ++ [any], .deleteEnvironment⟩,
    ⟨"POST", environmentPath ++ [any, word "activate"], .activateEnvironment⟩,
    ⟨"POST", environmentPath ++ [any, word "variables"], .addVariable⟩,
    ⟨"PUT", environmentPath ++ [word "variables", any], .updateVariable⟩,
    ⟨"DELETE", environmentPath ++ [word "variables", any], .deleteVariable⟩,
    ⟨"POST", [word "api", word "execute"], .execute⟩,
    ⟨"POST", variablePath ++ [word "resolve"], .resolveText⟩,
    ⟨"GET", variablePath ++ [word "lookup", any], .lookupVariable⟩,
    ⟨"POST", variablePath ++ [word "extract"], .extractValue⟩,
    ⟨"POST", variablePath ++ [word "captures", word "parse"], .parseCaptures⟩,
    ⟨"GET", variablePath ++ [word "sessions", any], .getSession⟩,
    ⟨"DELETE", variablePath ++ [word "sessions", any], .clearSession⟩]

/-- Whether a segment is a word. A line feed may stand behind the last one. -/
def isWord (word segment : String) (isLast : Bool) : Bool :=
  segment == word || isLast && segment == word.push '\n'

/-- The texts at the open segments of a pattern that fits a path. -/
def fit : List Segment → List String → Option (List String)
  | [], [] => some []
  | .word w :: ps, s :: ss => if isWord w s ss.isEmpty then fit ps ss else none
  | .any :: ps, s :: ss => if s = "" then none else (fit ps ss).map (s :: ·)
  | _, _ => none

inductive Destination where
  | operation (op : Operation) (arguments : List String)
  | wrongMethod
  | nowhere
  deriving DecidableEq, Repr

def segmentsOf : List Char → List String
  | '/' :: r => (r.splitOn '/').map String.ofList
  | cs => (cs.splitOn '/').map String.ofList

def destinationOf (method : String) (path : List Char) : Destination :=
  let ss := segmentsOf path
  let fitting := routes.filterMap fun r => (fit r.pattern ss).map fun args => (r, args)
  match fitting.find? (·.1.method == method) with
  | some (r, args) => .operation r.operation args
  | none => if fitting.isEmpty then .nowhere else .wrongMethod

def dropFinalSlashes (path : List Char) : List Char :=
  (path.reverse.dropWhile (· == '/')).reverse

/-- The path that an address stands for. Its escapes are undone twice, once on each side. -/
def pathOf (address : Url) : List Char :=
  Url.unescape (Url.unescape (if address.path.isEmpty then ['/'] else address.path))

/-- A path as it is sent back: all but letters, digits, a few marks and slashes is escaped. -/
def wireText (path : List Char) : List Char :=
  path.flatMap fun c => if Url.isUnreserved c || c = '/' then [c] else Url.escapeChar c

/-- The address of a path that is sent back, with the query of the first one. -/
def sentBack (path : List Char) (query? : Option (List Char)) : Except Url.Problem Url :=
  let query := query?.getD []
  Url.read ("http://service".toList ++ wireText path
    ++ if query.isEmpty then [] else '?' :: query)

/-- Where a method and address lead, with the address that is asked in the end. A path that leads
nowhere is sent back without the slashes at its end if that leads somewhere. -/
def route (method : String) : (hops : Nat) → (address : Url) → Destination × Url
  | hops, address =>
    let path := pathOf address
    match hops, destinationOf method path with
    | hops + 1, .nowhere =>
      let bare := dropFinalSlashes path
      if path.getLast? = some '/' && destinationOf method bare ≠ .nowhere then
        match sentBack bare address.query with
        | .ok next => route method hops next
        | .error _ => (.nowhere, address)
      else (.nowhere, address)
    | _, destination => (destination, address)

def hopLimit : Nat := 20

end TemplatedRequests.Service
