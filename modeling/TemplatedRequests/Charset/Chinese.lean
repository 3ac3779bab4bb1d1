import TemplatedRequests.Charset.Hanzi
import TemplatedRequests.Charset.Paired
import TemplatedRequests.Charset.Traditional

/-!
Chinese sets. The wider ones for simplified characters keep the square of 94 rows, and put further
characters around it in the order of their numbers.
-/

namespace TemplatedRequests.Charset

def hanziSquare : Pairs := .ofCells (squareCells hanziRows)

def gb2312 : Paired where
  name := "gb2312"
  others := ["chinese", "csiso58gb231280", "euc_cn", "euccn", "eucgb2312_cn", "gb2312_1980",
    "gb2312_80", "iso_ir_58", "x_mac_simp_chinese"]
  front := hanziSquare.only

def lowSecond : List Nat := span 0x40 0x7e ++ span 0x80 0xa0

/-- The signs that fill the square further, and those beside its rows 8 and 9. -/
def gbkSigns : List (Nat × Char) :=
  cellsFrom 0xa1a4 "·" ++ cellsFrom 0xa1aa "—" ++ cellsFrom 0xa2a1 "ⅰⅱⅲⅳⅴⅵⅶⅷⅸⅹ" ++
  cellsFrom 0xa6e0 "︵︶︹︺︿﹀︽︾﹁﹂﹃﹄" ++ cellsFrom 0xa6ee "︻︼︷︸︱" ++ cellsFrom 0xa6f4 "︳︴" ++
  cellsFrom 0xa8bb "ɑ" ++ cellsFrom 0xa8bd "ńň" ++ cellsFrom 0xa8c0 "ɡ" ++
  (area [0xa8] lowSecond).zip
    ("ˊˋ˙–―‥‵℅℉↖↗↘↙∕∟∣≒≦≧⊿═║╒╓╔╕╖╗╘╙╚╛╜╝╞╟╠╡╢╣╤╥╦╧╨╩╪╫╬╭╮╯╰╱╲╳▁▂▃▄▅▆▇█▉▊▋▌▍▎▏▓▔▕" ++
      "▼▽◢◣◤◥☉⊕〒〝〞").toList ++
  (area [0xa9] lowSecond).zip
    ("〡〢〣〤〥〦〧〨〩㊣㎎㎏㎜㎝㎞㎡㏄㏎㏑㏒㏕︰￢￤\ufffd℡㈱\ufffd‐\ufffd\ufffd\ufffd" ++
      "ー゛゜ヽヾ〆ゝゞ﹉﹊﹋﹌﹍﹎﹏﹐﹑﹒﹔﹕﹖﹗﹙﹚﹛﹜﹝﹞﹟﹠﹡﹢﹣﹤﹥﹦﹨﹩﹪﹫").toList ++
  cellsFrom 0xa996 "〇"

def gbkHanzi : List (Nat × Char) :=
  let above := area (span 0x81 0xa0) (span 0x40 0x7e ++ span 0x80 0xfe)
  let beside := area (span 0xaa 0xfe) lowSecond
  (above ++ beside).zip (absentFrom (squareCells hanziRows) 0x4e00 0x9fa5 ++
    ("\uf92c\uf979\uf995\uf9e7\uf9f1\ufa0c\ufa0d\ufa0e\ufa0f\ufa11\ufa13\ufa14\ufa18\ufa1f" ++
      "\ufa20\ufa21\ufa23\ufa24\ufa27\ufa28\ufa29").toList)

def gbkCells : List (Nat × Char) := squareCells hanziRows ++ gbkSigns ++ gbkHanzi

def gbkPairs : Pairs := .ofCells gbkCells

def gbk : Paired where
  name := "gbk"
  others := ["936", "cp936", "ms936"]
  front := gbkPairs.only

def ownCells : List Nat :=
  area (span 0xaa 0xaf ++ span 0xf8 0xfe) (span 0xa1 0xfe) ++ area (span 0xa1 0xa7) lowSecond

/-- The cells without a character, which are numbered behind the free areas. -/
def leftCells : List Nat :=
  let present := Pairs.ofCells (gbkCells ++ ownCells.map (·, 'x'))
  (area (span 0x81 0xfe) (span 0x40 0x7e ++ span 0x80 0xfe)).filter fun n => (present.at? n).isNone

def laterCells : List (Nat × Char) :=
  cellsFrom 0xa2e3 "€" ++ cellsFrom 0xa8bf "ǹ" ++ cellsFrom 0xa989 "〾⿰⿱⿲⿳⿴⿵⿶⿷⿸⿹⿺⿻" ++
  (area [0xfe] (span 0x50 0x7e ++ span 0x80 0xa0)).zip
    ("⺁\ufffd\ufffd\ufffd⺄㑳㑇⺈⺋\ufffd㖞㘚㘎⺌⺗㥮㤘\ufffd㧏㧟㩳㧐\ufffd\ufffd㭎㱮㳠⺧\ufffd\ufffd⺪䁖䅟⺮䌷⺳⺶⺷" ++
      "\ufffd䎱䎬⺻䏝䓖䙡䙌\ufffd䜣䜩䝼䞍⻊䥇䥺䥽䦂䦃䦅䦆䦟䦛䦷䦶\ufffd\ufffd䲣䲟䲠䲡䱷䲢䴓䴔䴕䴖䴗䴘䴙䶮\ufffd").toList

def gb18030Cells : List (Nat × Char) :=
  gbkCells ++ ((ownCells ++ leftCells).zipIdx.map fun (n, i) => (n, Char.ofNat (0xe000 + i))) ++
    laterCells

def gb18030Pairs : Pairs := .ofCells gb18030Cells

/-- The characters below 65536 that have four bytes, in the order of their numbers. -/
def fourByteChars : Array Char :=
  (absentFrom (gb18030Pairs.cells.toList.map (0, ·)) 0x80 0xffff).toArray

/-- The character of four bytes, of which the second and the fourth are digits. -/
def fourByteChar? (a b c d : UInt8) : Option Char :=
  let n := ((a.toNat - 0x81) * 10 + (b.toNat - 0x30)) * 1260 + (c.toNat - 0x81) * 10
    + (d.toNat - 0x30)
  if !(0x81 ≤ a && a ≤ 0xfe && 0x81 ≤ c && c ≤ 0xfe && 0x30 ≤ d && d ≤ 0x39) then none
  else if n < 189000 then fourByteChars[n]?
  else if n < 189000 + 0x100000 then some (Char.ofNat (n - 189000 + 0x10000))
  else none

def gb18030 : Paired where
  name := "gb18030"
  others := ["gb18030_2000"]
  front a r :=
    match r with
    | [] => .brokenOff
    | b :: r =>
      if 0x30 ≤ b && b ≤ 0x39 then
        match r with
        | c :: d :: _ =>
          match fourByteChar? a b c d with
          | some char => .char char 3
          | none => .flawed
        | _ => .brokenOff
      else gb18030Pairs.front a b

/-- Rows of 157, of which 63 stand below the others. -/
def traditionalCells : List (Nat × Char) :=
  traditionalRows.flatMap fun (row, chars) =>
    (area [0xa0 + row] (span 0x40 0x7e ++ span 0xa1 0xfe)).zip chars.toList

def traditionalPairs : Pairs := .ofCells traditionalCells

def big5 : Paired where
  name := "big5"
  others := ["big5_tw", "csbig5", "x_mac_trad_chinese"]
  front := traditionalPairs.only

/-- Some signs differ, and the last row goes on. -/
def codePage950Cells : List (Nat × Char) :=
  [(0xa145, '‧'), (0xa14e, '﹑'), (0xa1c2, '¯'), (0xa1e3, '～'), (0xa1f2, '⊕'), (0xa1f3, '⊙'),
    (0xa241, '∕'), (0xa242, '﹨'), (0xa244, '￥'), (0xa246, '￠'), (0xa247, '￡'), (0xa3e1, '€')] ++
  cellsFrom 0xf9d6 "碁銹裏墻恒粧嫺╔╦╗╠╬╣╚╩╝╒╤╕╞╪╡╘╧╛╓╥╖╟╫╢╙╨╜║═╭╮╰╯▓"

def codePage950Pairs : Pairs := .ofCells (traditionalCells ++ codePage950Cells)

def codePage950 : Paired where
  name := "cp950"
  others := ["950", "ms950"]
  front := codePage950Pairs.only

end TemplatedRequests.Charset
