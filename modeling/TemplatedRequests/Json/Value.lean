import TemplatedRequests.Binary64
import TemplatedRequests.OrderedMap

/-!
Documents. An object keeps its fields in order; no field comes twice in one that was read.
-/

namespace TemplatedRequests.Json

inductive Value where
  | null
  | bool (b : Bool)
  | int (n : Int)
  | float (x : Binary64)
  | text (s : String)
  | array (items : List Value)
  | object (fields : List (String × Value))

namespace Value

def ofBindings (b : Bindings) : Value := .object (b.entries.map fun e => (e.1, .text e.2))

def ofOption {α : Type} (f : α → Value) : Option α → Value
  | none => .null
  | some a => f a

def field? (name : String) : Value → Option Value
  | object fields => OrderedMap.look name fields
  | _ => none

def item? (index : Nat) : Value → Option Value
  | array items => items[index]?
  | _ => none

mutual

/-- How many values lie within each other at most, the innermost one and the outermost one
counted. -/
def depth : Value → Nat
  | array items => depthOfItems items + 1
  | object fields => depthOfFields fields + 1
  | _ => 1

def depthOfItems : List Value → Nat
  | [] => 0
  | v :: r => max (depth v) (depthOfItems r)

def depthOfFields : List (String × Value) → Nat
  | [] => 0
  | (_, v) :: r => max (depth v) (depthOfFields r)

end

end Value

end TemplatedRequests.Json
