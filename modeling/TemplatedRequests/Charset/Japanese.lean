import TemplatedRequests.Charset.Kanji
import TemplatedRequests.Charset.KanjiMore
import TemplatedRequests.Charset.Paired

/-!
Japanese sets. Two rows of 94 share a first byte in the shifted arrangement, so that single bytes
are left for the narrow letters.
-/

namespace TemplatedRequests.Charset

def shiftedCells (rows : List (Nat × String)) : List (Nat × Char) :=
  rows.flatMap fun (row, chars) =>
    let n := (row - 1) / 2
    let first := if n < 31 then 0x81 + n else 0xc1 + n
    let second := if row % 2 = 0 then span 0x9f 0xfc else span 0x40 0x7e ++ span 0x80 0x9e
    (second.map (256 * first + ·)).zip chars.toList

def narrow? (b : UInt8) : Option Char :=
  if 0xa1 ≤ b && b ≤ 0xdf then some (Char.ofNat (0xfec0 + b.toNat)) else none

def kanjiShifted : Pairs := .ofCells (shiftedCells kanjiRows)

def isShiftedFirst (b : UInt8) : Bool := (0x81 ≤ b && b ≤ 0x9f) || (0xe0 ≤ b && b ≤ 0xfc)

def shiftJis : Paired where
  name := "shift_jis"
  others := ["csshiftjis", "s_jis", "shiftjis", "sjis", "x_mac_japanese"]
  front a r :=
    match narrow? a with
    | some c => .char c 0
    | none => if isShiftedFirst a then kanjiShifted.only a r else .flawed

def ownRows : List (Nat × String) :=
  (span 95 114).map fun row =>
    (row, String.ofList ((List.range 94).map fun i => Char.ofNat (0xe000 + 94 * (row - 95) + i)))

def wideCells : List (Nat × Char) :=
  [(0x8160, '～'), (0x8161, '∥'), (0x817c, '－'), (0x8191, '￠'), (0x8192, '￡'), (0x81ca, '￢')]

def kanjiAdded : Pairs :=
  .ofCells (shiftedCells kanjiRows ++ wideCells ++ shiftedCells addedRows ++ shiftedCells ownRows)

def codePage932 : Paired where
  name := "cp932"
  others := ["932", "ms932", "ms_kanji", "mskanji"]
  front a r :=
    match narrow? a with
    | some c => .char c 0
    | none =>
      if a = 0x80 then .char '\x80' 0
      else if a = 0xa0 then .char '\uf8f0' 0
      else if 0xfd ≤ a then .char (Char.ofNat (0xf8f1 + (a.toNat - 0xfd))) 0
      else kanjiAdded.only a r

def kanjiSquare : Pairs := .ofCells (squareCells kanjiRows)

def supplementSquare : Pairs := .ofCells (squareCells supplementRows)

/-- A narrow letter has one byte before it, and a character of the supplementary set has one before
its two. -/
def eucJp : Paired where
  name := "euc_jp"
  others := ["eucjp", "u_jis", "ujis"]
  front a r :=
    match a, r with
    | 0x8e, b :: _ => match narrow? b with
      | some c => .char c 1
      | none => .flawed
    | 0x8f, b :: c :: _ => match supplementSquare.at? (pairOf b c) with
      | some c => .char c 2
      | none => .flawed
    | 0x8f, _ => .brokenOff
    | a, r => kanjiSquare.only a r

end TemplatedRequests.Charset
