import TemplatedRequests.Charset.Hangul
import TemplatedRequests.Charset.Paired

/-!
Korean sets. The wider one keeps the square of 94 rows and puts the other syllables around it in the
order of their numbers.
-/

namespace TemplatedRequests.Charset

def hangulSquare : Pairs := .ofCells (squareCells hangulRows)

/-- The place of a letter among those that stand for one part of a syllable. -/
def partOf? (letters : String) (b : UInt8) : Option Nat := do
  letters.toList.idxOf? (← hangulSquare.at? (pairOf 0xa4 b))

def firstLetters : String := "ㄱㄲㄴㄷㄸㄹㅁㅂㅃㅅㅆㅇㅈㅉㅊㅋㅌㅍㅎ"

def middleLetters : String := "ㅏㅐㅑㅒㅓㅔㅕㅖㅗㅘㅙㅚㅛㅜㅝㅞㅟㅠㅡㅢㅣ"

def lastLetters : String := "ㄱㄲㄳㄴㄵㄶㄷㄹㄺㄻㄼㄽㄾㄿㅀㅁㅂㅄㅅㅆㅇㅈㅊㅋㅌㅍㅎ"

/-- A syllable that is spelled behind a filler, of which a second one stands for no last letter. -/
def spelled? (first middle last : UInt8) : Option Char := do
  let i ← partOf? firstLetters first
  let j ← partOf? middleLetters middle
  let k ← if last = 0xd4 then some 0 else (partOf? lastLetters last).map (· + 1)
  some (Char.ofNat (0xac00 + (i * 21 + j) * 28 + k))

def eucKr : Paired where
  name := "euc_kr"
  others := ["euckr", "korean", "ks_c_5601", "ks_c_5601_1987", "ks_x_1001", "ksc5601", "ksx1001",
    "x_mac_korean"]
  front a r :=
    match a, r with
    | 0xa4, 0xd4 :: 0xa4 :: i :: 0xa4 :: j :: 0xa4 :: k :: _ => match spelled? i j k with
      | some c => .char c 7
      | none => .flawed
    | 0xa4, 0xd4 :: r => if r.length < 6 then .brokenOff else .flawed
    | a, r => hangulSquare.only a r

def syllableCells : List (Nat × Char) :=
  let low := span 0x41 0x5a ++ span 0x61 0x7a
  let above := area (span 0x81 0xa0) (low ++ span 0x81 0xfe)
  let beside := area (span 0xa1 0xc6) (low ++ span 0x81 0xa0)
  (above ++ beside).zip (absentFrom (squareCells hangulRows) 0xac00 0xd7a3)

def syllablePairs : Pairs :=
  .ofCells (squareCells hangulRows ++ [(0xa4d4, '\u3164')] ++ syllableCells)

def codePage949 : Paired where
  name := "cp949"
  others := ["949", "ms949", "uhc"]
  front := syllablePairs.only

end TemplatedRequests.Charset
