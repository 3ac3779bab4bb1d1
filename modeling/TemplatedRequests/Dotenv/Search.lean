import TemplatedRequests.Fault

/-!
Folders and files, and the search for the nearest file of variables: in the start folder, then in a
bounded number of folders above it. What is above a folder is told by its name alone. The search ends
where the system refuses to look a path up.
-/

namespace TemplatedRequests.Dotenv

/-- The folders and regular files of a system, the files with their contents. -/
structure Tree where
  folders : List Path := []
  files : List (Path × List UInt8) := []
  /-- Folders in which nothing may be looked up, and files that may not be read. -/
  locked : List Path := []

def nameLimit : Nat := 255

def pathLimit : Nat := 4095

namespace Tree

def isFolder (t : Tree) (path : Path) : Bool := path.isEmpty || t.folders.contains path

/-- What keeps a name from being looked up in a folder. -/
def obstacle? (t : Tree) (folder : Path) (name : String) : Option Obstacle :=
  if !t.isFolder folder then some .missing
  else if t.locked.contains folder then some .denied
  else if nameLimit < name.utf8ByteSize then some .tooLong
  else none

/-- Follows names from a folder to where they lead, without points. -/
def follow (t : Tree) (folder : Path) : Path → Except Obstacle Path
  | [] => .ok folder
  | name :: rest => match t.obstacle? folder name with
    | some obstacle => .error obstacle
    | none => t.follow (folder.enter name) rest

/-- Where a path leads. A name with a zero character is no name of anything. -/
def lookup (t : Tree) (path : Path) : Except Obstacle Path :=
  if path.any fun name => name.toList.contains '\x00' then .error .missing
  else if pathLimit < path.absolute.utf8ByteSize then .error .tooLong
  else t.follow [] path

def file (t : Tree) (path : Path) : Except Obstacle (Path × List UInt8) :=
  match t.lookup path with
  | .error obstacle => .error obstacle
  | .ok place => match t.files.find? (·.1 == place) with
    | some file => .ok file
    | none => .error .missing

/-- Whether a path leads to a file. That nothing is there is an answer, any other obstacle is not. -/
def isFile (t : Tree) (path : Path) : Except Fault Bool :=
  match t.file path with
  | .ok _ => .ok true
  | .error .missing => .ok false
  | .error obstacle => .error (.lookupRefused path obstacle)

def read (t : Tree) (path : Path) : Except Obstacle (List UInt8) :=
  match t.file path with
  | .error obstacle => .error obstacle
  | .ok (place, content) => if t.locked.contains place then .error .denied else .ok content

/-- Follows names and makes each folder that is missing on the way. -/
def makeFolders (t : Tree) (folder : Path) : Path → Tree × Path
  | [] => (t, folder)
  | name :: rest =>
    let inner := folder.enter name
    if t.isFolder inner then t.makeFolders inner rest
    else makeFolders { t with folders := inner :: t.folders } inner rest

def makeFolder (t : Tree) (path : Path) : Tree := (t.makeFolders [] path).1

def write (t : Tree) (path : Path) (content : List UInt8) : Tree :=
  let (made, folder) := t.makeFolders [] path.dropLast
  let place := folder ++ path.getLast?.toList
  { made with files := (place, content) :: made.files.filter (·.1 != place) }

def remove (t : Tree) (path : Path) : Tree :=
  match t.lookup path with
  | .error _ => t
  | .ok place => {
      folders := t.folders.filter fun f => !place.isPrefixOf f
      files := t.files.filter fun f => !place.isPrefixOf f.1
      locked := t.locked.filter fun f => !place.isPrefixOf f }

@[simp] theorem isFolder_root (t : Tree) : t.isFolder [] = true := by simp [isFolder]

@[simp] theorem follow_nil (t : Tree) (folder : Path) : t.follow folder [] = .ok folder := by
  simp [follow]

end Tree

def fileName : String := ".env"

/-- Searches a folder and, while there are rounds left, the folders above it up to the root. -/
def ascend (isFile : Path → Except Fault Bool) : (rounds : Nat) → Path → Except Fault (Option Path)
  | 0, _ => .ok none
  | rounds + 1, folder =>
    let candidate := folder ++ [fileName]
    match isFile candidate with
    | .error fault => .error fault
    | .ok true => .ok (some candidate)
    | .ok false =>
      if folder.parent = folder then .ok none else ascend isFile rounds folder.parent

/-- Searches from a folder, which is missing when it was removed. A negative number of parents leaves
out the folder itself as well. -/
def find (t : Tree) (start? : Option Path) (parents : Int) : Except Fault Path :=
  match start? with
  | none => .error .noCurrentDirectory
  | some start => match ascend t.isFile (parents + 1).toNat start with
    | .error fault => .error fault
    | .ok (some path) => .ok path
    | .ok none => .error .dotenvMissing

end TemplatedRequests.Dotenv
