/-!
Codes of bits in which none starts another one. A code is a tree that is walked bit by bit; it is
made from the lengths of its words alone, shorter words first and words of one length in the order
of their symbols.
-/

namespace TemplatedRequests.Compression

inductive Code where
  | nothing
  | symbol (s : Nat)
  | branch (zero one : Code)
  deriving DecidableEq, Repr

namespace Code

def insert (s : Nat) : List Bool → Code → Code
  | [], _ => symbol s
  | false :: w, branch zero one => branch (insert s w zero) one
  | true :: w, branch zero one => branch zero (insert s w one)
  | false :: w, _ => branch (insert s w nothing) nothing
  | true :: w, _ => branch nothing (insert s w nothing)

/-- What a walk comes to: a symbol and the bits after its word, a word that is none, or the end of
the bits. -/
inductive Walk where
  | found (s : Nat) (rest : List Bool)
  | invalid
  | ended

def walk : Code → List Bool → Walk
  | symbol s, bits => .found s bits
  | nothing, _ => .invalid
  | branch _ _, [] => .ended
  | branch zero _, false :: bits => zero.walk bits
  | branch _ one, true :: bits => one.walk bits

def word (n : Nat) : (width : Nat) → List Bool
  | 0 => []
  | w + 1 => ((n >>> w) % 2 == 1) :: word n w

/-- Symbols with the lengths of their words; a symbol without a word has length zero. -/
abbrev Lengths := List Nat

/-- Symbols that have words, with their lengths, in the order in which words are given out. -/
def ranked (lengths : Lengths) : List (Nat × Nat) :=
  (lengths.zipIdx.filter (·.1 != 0)).mergeSort fun a b => a.1 ≤ b.1

/-- Gives out words: each is the one after the word before it, made longer where needed. -/
def assign : (next length : Nat) → List (Nat × Nat) → Code → Code
  | _, _, [], code => code
  | next, length, (l, s) :: rest, code =>
    let here := next <<< (l - length)
    assign (here + 1) l rest (code.insert s (word here l))

/-- How much of all words is given out, in units of the words of the greatest length. -/
def taken (lengths : Lengths) : Nat :=
  lengths.foldl (fun n l => if l = 0 then n else n + (1 <<< (15 - l))) 0

def isOverfull (lengths : Lengths) : Bool := (1 <<< 15) < taken lengths

def isPartial (lengths : Lengths) : Bool := taken lengths < (1 <<< 15)

def ofLengths (lengths : Lengths) : Code := assign 0 0 (ranked lengths) nothing

/-- A code without words: its first bit shows that nothing is there. -/
def empty : Code := branch nothing nothing

/-- A code may be without words, or have one word of one bit; else its words are all given out. -/
def ofLengths? (lengths : Lengths) : Option Code :=
  let most := lengths.foldl max 0
  if most = 0 then some empty
  else if isOverfull lengths || isPartial lengths && most != 1 then none
  else some (ofLengths lengths)

end Code

end TemplatedRequests.Compression
