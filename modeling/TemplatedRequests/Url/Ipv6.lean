import TemplatedRequests.Text.Hex

/-!
Numeric addresses of hosts: four numbers with points between them, or eight groups of digits to
base sixteen with colons between them. Two colons in a row stand for a run of groups of zero, and
the last two groups may be written as four numbers.
-/

namespace TemplatedRequests.Url

/-- A number of an address has one to three digits, no leading zero, and is below 256. -/
def isOctet (cs : List Char) : Bool :=
  !cs.isEmpty && cs.all Char.isDigit && cs.length ≤ 3 && (cs.length == 1 || cs.head? != some '0')
    && cs.foldl (fun n c => 10 * n + (c.toNat - '0'.toNat)) 0 < 256

def isQuad (cs : List Char) : Bool :=
  let parts := cs.splitOn '.'
  parts.length == 4 && parts.all isOctet

def isGroup (cs : List Char) : Bool :=
  !cs.isEmpty && cs.length ≤ 4 && cs.all fun c => (Text.hexDigit? c).isSome

/-- The number of groups that a row stands for, if it is one. -/
def groups? (cs : List Char) : Option Nat :=
  if cs.isEmpty then some 0
  else
    let parts := cs.splitOn ':'
    if parts.all isGroup then some parts.length
    else if parts.dropLast.all isGroup && parts.getLast?.any isQuad then some (parts.length + 1)
    else none

def cutColons? : List Char → Option (List Char × List Char)
  | [] => none
  | ':' :: ':' :: r => some ([], r)
  | c :: r => (cutColons? r).map fun p => (c :: p.1, p.2)

def isEightGroups (cs : List Char) : Bool :=
  match cutColons? cs with
  | none => groups? cs == some 8 && cs.contains ':'
  | some (front, back) => match groups? front, groups? back with
    | some m, some n => m + n ≤ 7 && !front.contains '.'
    | _, _ => false

/-- An address may end in a per cent sign and the name of its scope. -/
def isIpv6 (cs : List Char) : Bool :=
  let scope := cs.dropWhile (· != '%')
  !cs.contains '/' && isEightGroups (cs.takeWhile (· != '%'))
    && (scope.isEmpty || scope.length != 1 && !(scope.drop 1).contains '%')

end TemplatedRequests.Url
