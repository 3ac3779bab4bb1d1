import TemplatedRequests.Text.Quoted

/-!
Paths of folders and files from the root of the system, and what stands in the way of following one.
-/

namespace TemplatedRequests.Dotenv

/-- Names of the folders from the root down, and of the file or folder at the end. Two points lead
back to the folder that the names before them lead to the inside of. -/
abbrev Path := List String

namespace Path

def ofText (text : String) : Path :=
  (text.splitOn "/").filter fun s => s ≠ "" ∧ s ≠ "."

def toText (p : Path) : String := "/".intercalate p

def absolute (p : Path) : String := "/" ++ p.toText

/-- Where a name in a folder leads. The root is the folder around itself. -/
def enter (folder : Path) (name : String) : Path :=
  if name = ".." then folder.dropLast else folder ++ [name]

def parent (p : Path) : Path := p.dropLast

end Path

/-- Why the system does not open what a path leads to. -/
inductive Obstacle where
  | missing
  | tooLong
  | denied
  deriving DecidableEq, Repr

def Obstacle.label : Obstacle → String
  | missing => "[Errno 2] No such file or directory"
  | tooLong => "[Errno 36] File name too long"
  | denied => "[Errno 13] Permission denied"

def Obstacle.message (o : Obstacle) (path : Path) : String :=
  o.label ++ ": " ++ String.ofList (Text.quoted path.absolute.toList)

end TemplatedRequests.Dotenv
