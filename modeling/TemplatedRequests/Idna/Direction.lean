import TemplatedRequests.Idna.Permitted
import TemplatedRequests.Text.Mark

/-!
Directions of writing. A label that holds characters written from the right must keep to them, so
that it looks the same on every line.
-/

namespace TemplatedRequests.Idna

inductive Direction where
  | left
  | right
  | arabicLetter
  | arabicNumber
  | latinNumber
  | separator
  | mark
  | joiner
  | neutral
  deriving DecidableEq, Repr

def rightLetters : List (Nat × Nat) := [
  (0x5d0, 0x5f4), (0x7c0, 0x7ea), (0x7f4, 0x7f5), (0x800, 0x815), (0x81a, 0x81a), (0x824, 0x824),
  (0x828, 0x828), (0x840, 0x858), (0x10800, 0x10a00), (0x10a10, 0x10a35), (0x10a60, 0x10ae4),
  (0x10b00, 0x10cf2), (0x10e80, 0x10ea9), (0x10eb0, 0x10f27), (0x10f70, 0x10f81),
  (0x10fb0, 0x10ff6), (0x1e800, 0x1e8c4), (0x1e922, 0x1e943), (0x1e94b, 0x1e959)]

def arabicLetters : List (Nat × Nat) := [
  (0x620, 0x64a), (0x66e, 0x66f), (0x671, 0x6d5), (0x6e5, 0x6e6), (0x6ee, 0x6ef), (0x6fa, 0x710),
  (0x712, 0x72f), (0x74d, 0x7a5), (0x7b1, 0x7b1), (0x860, 0x88e), (0x8a0, 0x8c9), (0xfe73, 0xfe73),
  (0x10d00, 0x10d23), (0x10f30, 0x10f45)]

def arabicNumbers : List (Nat × Nat) := [
  (0x660, 0x669), (0x10d30, 0x10d39)]

def latinNumbers : List (Nat × Nat) := [
  (0x30, 0x39), (0x6f0, 0x6f9)]

def neutrals : List (Nat × Nat) := [
  (0xb7, 0xb7), (0x2b9, 0x2ba), (0x2c6, 0x2cf), (0x2ec, 0x2ec), (0x375, 0x375), (0x2e2f, 0x2e2f),
  (0x30fb, 0x30fb), (0xa67f, 0xa67f), (0xa717, 0xa71f), (0xa788, 0xa788)]

/-- The direction of a code point that may stand in a label. -/
def directionOf (c : Nat) : Direction :=
  if within rightLetters c then .right
  else if within arabicLetters c then .arabicLetter
  else if within arabicNumbers c then .arabicNumber
  else if within latinNumbers c then .latinNumber
  else if within neutrals c then .neutral
  else if c = 0x2d then .separator
  else if c = 0x200c || c = 0x200d then .joiner
  else if Text.isFlatMark c then .mark
  else .left

namespace Direction

/-- Characters that make a label one that is written from the right. -/
def turns : Direction → Bool
  | right => true
  | arabicLetter => true
  | arabicNumber => true
  | _ => false

def isNumber : Direction → Bool
  | arabicNumber => true
  | latinNumber => true
  | _ => false

def fitsRight : Direction → Bool
  | left => false
  | _ => true

def fitsLeft : Direction → Bool
  | right => false
  | arabicLetter => false
  | arabicNumber => false
  | _ => true

/-- Whether a label written from the right may end in a character, marks after it aside. -/
def endsRight : Direction → Bool
  | right => true
  | arabicLetter => true
  | arabicNumber => true
  | latinNumber => true
  | _ => false

/-- Whether a label written from the left may end in a character, marks after it aside. -/
def endsLeft : Direction → Bool
  | left => true
  | latinNumber => true
  | _ => false

end Direction

inductive Misdirection where
  | start
  | rightward (position : Nat)
  | mixedNumbers
  | leftward (position : Nat)
  | ending
  deriving DecidableEq, Repr

/-- The first character that may not stand in a label, or the first number of another kind than
the one before it. -/
def misplaced? (fromRight : Bool) : (position : Nat) → (number? : Option Direction) →
    List Direction → Option Misdirection
  | _, _, [] => none
  | n, number?, d :: ds =>
    if !fromRight then
      if d.fitsLeft then misplaced? fromRight (n + 1) number? ds else some (.leftward n)
    else if !d.fitsRight then some (.rightward n)
    else if !d.isNumber then misplaced? fromRight (n + 1) number? ds
    else match number? with
      | some other =>
        if other = d then misplaced? fromRight (n + 1) number? ds else some .mixedNumbers
      | none => misplaced? fromRight (n + 1) (some d) ds

/-- Whether the last character that is no mark may stand at the end. -/
def endsWell (fromRight : Bool) (ds : List Direction) : Bool :=
  match ds.reverse.dropWhile (· == .mark) with
  | d :: _ => if fromRight then d.endsRight else d.endsLeft
  | [] => false

/-- What is wrong with the directions of the characters of a label, in this order. -/
def misdirection? (ds : List Direction) : Option Misdirection :=
  if !ds.any Direction.turns then none
  else match ds.head? with
    | some .left => check false
    | some .right => check true
    | some .arabicLetter => check true
    | _ => some .start
where
  check (fromRight : Bool) : Option Misdirection :=
    (misplaced? fromRight 1 none ds).or (if endsWell fromRight ds then none else some .ending)

end TemplatedRequests.Idna
