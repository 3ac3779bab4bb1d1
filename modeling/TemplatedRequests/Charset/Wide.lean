import TemplatedRequests.Text.Utf8

/-!
Texts in units of two or four bytes. Each flaw gives one replacement character.
-/

namespace TemplatedRequests.Charset

inductive ByteOrder where
  | lowFirst
  | highFirst
  deriving DecidableEq, Repr

def ByteOrder.value (o : ByteOrder) (unit : List UInt8) : Nat :=
  let bytes := match o with
    | lowFirst => unit.reverse
    | highFirst => unit
  bytes.foldl (fun n b => 256 * n + b.toNat) 0

open Text.Utf8 (replacement)

def isLeading (n : Nat) : Bool := 0xd800 ≤ n && n < 0xdc00

def isTrailing (n : Nat) : Bool := 0xdc00 ≤ n && n < 0xe000

def ofSurrogates (leading trailing : Nat) : Char :=
  Char.ofNat (0x10000 + 1024 * (leading - 0xd800) + (trailing - 0xdc00))

/-- Units of two bytes; a leading and a trailing one make a character together. -/
def decode16 (o : ByteOrder) : List UInt8 → List Char
  | [] => []
  | [_] => [replacement]
  | [a, b] =>
    let n := o.value [a, b]
    [if isLeading n || isTrailing n then replacement else Char.ofNat n]
  | [a, b, _] =>
    let n := o.value [a, b]
    if isLeading n then [replacement]
    else [if isTrailing n then replacement else Char.ofNat n, replacement]
  | a :: b :: c :: d :: r =>
    let n := o.value [a, b]
    let next := o.value [c, d]
    if isLeading n && isTrailing next then ofSurrogates n next :: decode16 o r
    else (if isLeading n || isTrailing n then replacement else Char.ofNat n)
      :: decode16 o (c :: d :: r)

def decode32 (o : ByteOrder) : List UInt8 → List Char
  | a :: b :: c :: d :: r =>
    let n := o.value [a, b, c, d]
    (if n.isValidChar then Char.ofNat n else replacement) :: decode32 o r
  | [] => []
  | _ => [replacement]

/-- The order that a mark in front of a text tells, and the text after it. -/
def marked? (width : Nat) (bytes : List UInt8) : Option (ByteOrder × List UInt8) :=
  let front := bytes.take width
  if front = [0xff, 0xfe, 0, 0].take width then some (.lowFirst, bytes.drop width)
  else if front = [0, 0, 0xfe, 0xff].drop (4 - width) then some (.highFirst, bytes.drop width)
  else none

end TemplatedRequests.Charset
