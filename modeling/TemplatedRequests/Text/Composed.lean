import TemplatedRequests.Text.Composed.Table

/-!
The composed form of a text: characters are taken apart, their marks are put in the order of their
classes, and what can be put together is put together. Korean syllables are composed by rule.
-/

namespace TemplatedRequests.Text.Composed

/-- The class of a code point; zero for one that no mark is put past. -/
def classOf (c : Nat) : Nat :=
  ((classes.find? fun r => r.1 ≤ c && c ≤ r.2.1).map (·.2.2)).getD 0

/-- Where the Korean syllables and the signs for their first, middle and last sounds start. -/
def syllableBase : Nat := 0xac00

def firstBase : Nat := 0x1100

def middleBase : Nat := 0x1161

def lastBase : Nat := 0x11a7

def middles : Nat := 21

def lasts : Nat := 28

def syllables : Nat := 19 * middles * lasts

def isSyllable (c : Nat) : Bool := syllableBase ≤ c && c < syllableBase + syllables

def signsOf (c : Nat) : List Nat :=
  let n := c - syllableBase
  let pair := [firstBase + n / (middles * lasts), middleBase + n % (middles * lasts) / lasts]
  if n % lasts = 0 then pair else pair ++ [lastBase + n % lasts]

/-- Takes a code point apart. A pair may start with a character that stands for a pair again, at
most three times. -/
def takeApart : (bound : Nat) → Nat → List Nat
  | 0, c => [c]
  | n + 1, c => match pairs.find? (·.1 == c) with
    | some (_, first, second) => takeApart n first ++ [second]
    | none => [c]

def partsOf (c : Nat) : List Nat := if isSyllable c then signsOf c else takeApart 4 c

/-- Puts a mark into a run of marks, before those of higher class and after all others. -/
def insertMark (c : Nat) : List Nat → List Nat
  | [] => [c]
  | d :: ds => if classOf c < classOf d then c :: d :: ds else d :: insertMark c ds

/-- Puts each run of marks in the order of their classes; `run` is the one that is being read. -/
def orderMarks (run : List Nat) : List Nat → List Nat
  | [] => run
  | c :: cs =>
    if classOf c = 0 then run ++ c :: orderMarks [] cs else orderMarks (insertMark c run) cs

def compose? (first second : Nat) : Option Nat :=
  if firstBase ≤ first && first < firstBase + 19 && middleBase ≤ second
      && second < middleBase + middles then
    some (syllableBase + ((first - firstBase) * middles + (second - middleBase)) * lasts)
  else if isSyllable first && (first - syllableBase) % lasts = 0 && lastBase < second
      && second < lastBase + lasts then
    some (first + (second - lastBase))
  else (pairs.find? fun p => p.2.1 == first && p.2.2 == second).map (·.1)

/-- Puts together what can be. `marks` holds what stands after the character `start` and did not
join it; a mark joins past marks of lower class only. -/
def putTogether (start : Nat) (marks : List Nat) : List Nat → List Nat
  | [] => start :: marks
  | c :: cs =>
    let joins := match marks.getLast? with
      | none => true
      | some m => classOf m < classOf c
    match if joins then compose? start c else none with
    | some whole => putTogether whole marks cs
    | none =>
      if classOf c = 0 then start :: marks ++ putTogether c [] cs
      else putTogether start (marks ++ [c]) cs

/-- The composed form of a text without characters that are always replaced. -/
def composed (cs : List Nat) : List Nat :=
  let ordered := orderMarks [] (cs.flatMap partsOf)
  let marks := ordered.takeWhile (classOf · != 0)
  marks ++ match ordered.dropWhile (classOf · != 0) with
    | [] => []
    | c :: rest => putTogether c [] rest

def isComposed (cs : List Nat) : Bool :=
  !cs.any (fun c => replaced.any fun r => r.1 ≤ c && c ≤ r.2) && composed cs == cs

end TemplatedRequests.Text.Composed
