import TemplatedRequests.Environments

/-!
The store of environments and their variables. Rows stand in the order of their numbers; a new row
gets the number after the highest one. At most one environment is active, and none is both active
and shared. A refused operation leaves the store as it was.
-/

namespace TemplatedRequests

structure EnvironmentRow where
  id : Nat
  name : String
  isActive : Bool
  isShared : Bool
  deriving DecidableEq, Repr

structure VariableRow where
  id : Nat
  environmentId : Nat
  key : String
  value : String
  deriving DecidableEq, Repr

structure Store where
  environments : List EnvironmentRow := []
  variableRows : List VariableRow := []
  deriving DecidableEq, Repr

/-- What an update says of one column. -/
inductive Change (α : Type) where
  | keep
  | null
  | set (value : α)
  deriving DecidableEq, Repr

namespace Change

variable {α : Type}

def apply (old : α) : Change α → Option α
  | keep => some old
  | null => none
  | set value => some value

/-- The value that an update would leave, null counted as false. -/
def isOn (old : Bool) : Change Bool → Bool
  | keep => old
  | null => false
  | set b => b

end Change

inductive Refusal where
  | noEnvironment (id : Int)
  | noVariable (id : Int)
  | sharedActive
  | nullColumn
  deriving DecidableEq, Repr

namespace Store

def environment? (s : Store) (id : Int) : Option EnvironmentRow :=
  s.environments.find? fun e => (e.id : Int) == id

def variableRow? (s : Store) (id : Int) : Option VariableRow :=
  s.variableRows.find? fun v => (v.id : Int) == id

def variablesOf (s : Store) (environmentId : Nat) : List VariableRow :=
  s.variableRows.filter (·.environmentId == environmentId)

def nextId (ids : List Nat) : Nat := ids.foldl max 0 + 1

def nextEnvironmentId (s : Store) : Nat := nextId (s.environments.map (·.id))

def nextVariableId (s : Store) : Nat := nextId (s.variableRows.map (·.id))

def deactivateOthers (s : Store) (id : Int) : Store :=
  { s with environments := s.environments.map fun e =>
      if (e.id : Int) = id then e else { e with isActive := false } }

def deactivateAll (s : Store) : Store :=
  { s with environments := s.environments.map fun e => { e with isActive := false } }

def newRows (environmentId : Nat) : (first : Nat) → List (String × String) → List VariableRow
  | _, [] => []
  | first, (key, value) :: r =>
    ⟨first, environmentId, key, value⟩ :: newRows environmentId (first + 1) r

structure NewEnvironment where
  name : String
  isActive : Bool := false
  isShared : Bool := false
  bindings : List (String × String) := []

def create (s : Store) (new : NewEnvironment) : Except Refusal (Store × EnvironmentRow) :=
  if new.isActive && new.isShared then .error .sharedActive
  else
    let row : EnvironmentRow := ⟨s.nextEnvironmentId, new.name, new.isActive, new.isShared⟩
    let t := if new.isActive then s.deactivateAll else s
    .ok (⟨t.environments ++ [row],
      t.variableRows ++ newRows row.id s.nextVariableId new.bindings⟩, row)

structure EnvironmentChanges where
  name : Change String := .keep
  isActive : Change Bool := .keep
  isShared : Change Bool := .keep

def replaceEnvironment (s : Store) (row : EnvironmentRow) : Store :=
  { s with environments := s.environments.map fun e => if e.id = row.id then row else e }

def EnvironmentChanges.apply? (c : EnvironmentChanges) (e : EnvironmentRow) :
    Option EnvironmentRow := do
  return ⟨e.id, ← c.name.apply e.name, ← c.isActive.apply e.isActive, ← c.isShared.apply e.isShared⟩

def update (s : Store) (id : Int) (changes : EnvironmentChanges) :
    Except Refusal (Store × EnvironmentRow) :=
  match s.environment? id with
  | none => .error (.noEnvironment id)
  | some e =>
    if changes.isActive.isOn e.isActive && changes.isShared.isOn e.isShared then
      .error .sharedActive
    else match changes.apply? e with
      | none => .error .nullColumn
      | some row =>
        let t := if changes.isActive = .set true then s.deactivateOthers id else s
        .ok (t.replaceEnvironment row, row)

def activate (s : Store) (id : Int) : Except Refusal (Store × EnvironmentRow) :=
  match s.environment? id with
  | none => .error (.noEnvironment id)
  | some e =>
    if e.isShared then .error .sharedActive
    else
      let row := { e with isActive := true }
      .ok ((s.deactivateOthers id).replaceEnvironment row, row)

def delete (s : Store) (id : Int) : Except Refusal Store :=
  match s.environment? id with
  | none => .error (.noEnvironment id)
  | some e => .ok ⟨s.environments.filter (·.id != e.id),
      s.variableRows.filter (·.environmentId != e.id)⟩

def addVariable (s : Store) (environmentId : Int) (key value : String) :
    Except Refusal (Store × VariableRow) :=
  match s.environment? environmentId with
  | none => .error (.noEnvironment environmentId)
  | some e =>
    let row : VariableRow := ⟨s.nextVariableId, e.id, key, value⟩
    .ok ({ s with variableRows := s.variableRows ++ [row] }, row)

structure VariableChanges where
  key : Change String := .keep
  value : Change String := .keep

def VariableChanges.apply? (c : VariableChanges) (v : VariableRow) : Option VariableRow := do
  return ⟨v.id, v.environmentId, ← c.key.apply v.key, ← c.value.apply v.value⟩

def updateVariable (s : Store) (id : Int) (changes : VariableChanges) :
    Except Refusal (Store × VariableRow) :=
  match s.variableRow? id with
  | none => .error (.noVariable id)
  | some v => match changes.apply? v with
    | none => .error .nullColumn
    | some row =>
      let rows := s.variableRows.map fun w => if w.id = row.id then row else w
      .ok ({ s with variableRows := rows }, row)

def deleteVariable (s : Store) (id : Int) : Except Refusal Store :=
  match s.variableRow? id with
  | none => .error (.noVariable id)
  | some v => .ok { s with variableRows := s.variableRows.filter (·.id != v.id) }

/-- An environment's variables; of two with one key the later one counts. -/
def bindingsOf (s : Store) (environmentId : Nat) : Bindings :=
  .ofEntries ((s.variablesOf environmentId).map fun v => (v.key, v.value))

/-- Whether a row is the one to be active: the one asked for, or else the one stored as active. -/
def isChosen (id? : Option Int) (e : EnvironmentRow) : Bool :=
  match id? with
  | some id => (e.id : Int) == id
  | none => e.isActive

/-- Adds a row to a snapshot; the name of the active environment is kept beside it. -/
def addToSnapshot (s : Store) (id? : Option Int) (acc : Environments × Option String)
    (e : EnvironmentRow) : Environments × Option String :=
  if e.isShared then ({ acc.1 with shared := acc.1.shared.update (s.bindingsOf e.id) }, acc.2)
  else (acc.1.add ⟨e.name, s.bindingsOf e.id⟩, if isChosen id? e then some e.name else acc.2)

/-- The environments as they are seen when requests are resolved. They are known by name there, so
of two with one name the later one is seen. -/
def snapshot (s : Store) (id? : Option Int) : Except Refusal Environments :=
  let (environments, active) := s.environments.foldl (s.addToSnapshot id?) ({}, none)
  match id?, active with
  | some id, none => .error (.noEnvironment id)
  | _, some name => .ok ((environments.activate? name).getD environments)
  | none, none => .ok environments

end Store

end TemplatedRequests
