import TemplatedRequests.Dotenv.Parse
import TemplatedRequests.Dotenv.Search
import TemplatedRequests.Text.Utf8

/-!
Variables of the nearest file, read once and kept until they are dropped. A failed read keeps
nothing.
-/

namespace TemplatedRequests.Dotenv

structure Cache where
  start : Path := []
  parents : Int := 2
  loaded? : Option Bindings := none

def Tree.text (t : Tree) (path : Path) : Except String (List Char) :=
  match t.read path with
  | .error obstacle => .error (obstacle.message path)
  | .ok content => match Text.Utf8.decode content with
    | .error flaw => .error flaw.message
    | .ok text => .ok text

def load (t : Tree) (start : Path) (parents : Int) : Except Fault Bindings :=
  match find t (some start) parents with
  | .error fault => .error fault
  | .ok path => match t.text path with
    | .error problem => .error (.dotenvUnreadable problem)
    | .ok text => .ok (File.ofText text).values

namespace Cache

def isLoaded (c : Cache) : Bool := c.loaded?.isSome

def values (c : Cache) (t : Tree) : Except Fault Bindings × Cache :=
  match c.loaded? with
  | some b => (.ok b, c)
  | none => match load t c.start c.parents with
    | .error f => (.error f, c)
    | .ok b => (.ok b, { c with loaded? := some b })

def get (c : Cache) (t : Tree) (name : String) : Except Fault (Option String) × Cache :=
  let (found, after) := c.values t
  (found.map (·.get? name), after)

def clear (c : Cache) : Cache := { c with loaded? := none }

theorem values_values (c : Cache) (t : Tree) : ((c.values t).2.values t).1 = (c.values t).1 := by
  unfold values
  cases hl : c.loaded? with
  | some b => simp only [hl]
  | none =>
    cases hload : load t c.start c.parents with
    | error f => simp only [hl, hload]
    | ok b => rfl

end Cache

end TemplatedRequests.Dotenv
