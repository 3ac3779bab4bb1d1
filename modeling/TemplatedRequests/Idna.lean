import TemplatedRequests.Idna.Label

/-!
Domain names in every script, and their form in ASCII.
-/

namespace TemplatedRequests.Idna

/-- Labels are parted by points, those of wide scripts among them. -/
def isPoint (c : Char) : Bool := ['.', '\u3002', '\uff0e', '\uff61'].contains c

/-- The labels of a domain, and whether a point stands after the last one. -/
def labelsOf (domain : List Char) : List (List Char) × Bool :=
  let parts := domain.splitOnP isPoint
  if parts.getLast? = some [] then (parts.dropLast, true) else (parts, false)

def joinLabels {α : Type} (point : α) (labels : List (List α)) (ended : Bool) : List α :=
  [point].intercalate labels ++ if ended then [point] else []

def lengthLimit : Nat := 253

def readLabels (domain : List Char) : Except Problem (List (List Char) × Bool) := do
  if domain.isEmpty then throw .emptyDomain
  if lengthLimit + 1 < domain.length then throw .domainTooLong
  return labelsOf domain

def encode (domain : List Char) : Except Problem (List Char) := do
  let (labels, ended) ← readLabels domain
  let text := joinLabels '.' (← labels.mapM Label.toAscii) ended
  if text.length ≤ lengthLimit + (if ended then 1 else 0) then return text
  else throw .domainTooLong

def decode (text : List Char) : Except Problem (List Nat) := do
  let (labels, ended) ← readLabels text
  return joinLabels '.'.toNat (← labels.mapM Label.ofAscii) ended

end TemplatedRequests.Idna
