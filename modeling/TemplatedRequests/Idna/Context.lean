import TemplatedRequests.Idna.Permitted
import TemplatedRequests.Text.Composed
import TemplatedRequests.Text.Mark

/-!
Characters that may stand in a label only beside certain others.
-/

namespace TemplatedRequests.Idna

def greek : List (Nat × Nat) := [
  (0x370, 0x373), (0x375, 0x377), (0x37a, 0x37d), (0x37f, 0x37f), (0x384, 0x384), (0x386, 0x386),
  (0x388, 0x38a), (0x38c, 0x38c), (0x38e, 0x3a1), (0x3a3, 0x3e1), (0x3f0, 0x3ff), (0x1d26, 0x1d2a),
  (0x1d5d, 0x1d61), (0x1d66, 0x1d6a), (0x1dbf, 0x1dbf), (0x1f00, 0x1f15), (0x1f18, 0x1f1d),
  (0x1f20, 0x1f45), (0x1f48, 0x1f4d), (0x1f50, 0x1f57), (0x1f59, 0x1f59), (0x1f5b, 0x1f5b),
  (0x1f5d, 0x1f5d), (0x1f5f, 0x1f7d), (0x1f80, 0x1fb4), (0x1fb6, 0x1fc4), (0x1fc6, 0x1fd3),
  (0x1fd6, 0x1fdb), (0x1fdd, 0x1fef), (0x1ff2, 0x1ff4), (0x1ff6, 0x1ffe), (0x2126, 0x2126),
  (0xab65, 0xab65), (0x10140, 0x1018e), (0x101a0, 0x101a0), (0x1d200, 0x1d245)]

def hebrew : List (Nat × Nat) := [
  (0x591, 0x5c7), (0x5d0, 0x5ea), (0x5ef, 0x5f4), (0xfb1d, 0xfb36), (0xfb38, 0xfb3c),
  (0xfb3e, 0xfb3e), (0xfb40, 0xfb41), (0xfb43, 0xfb44), (0xfb46, 0xfb4f)]

def japanese : List (Nat × Nat) := [
  (0x2e80, 0x2e99), (0x2e9b, 0x2ef3), (0x2f00, 0x2fd5), (0x3005, 0x3005), (0x3007, 0x3007),
  (0x3021, 0x3029), (0x3038, 0x303b), (0x3041, 0x3096), (0x309d, 0x309f), (0x30a1, 0x30fa),
  (0x30fd, 0x30ff), (0x31f0, 0x31ff), (0x32d0, 0x32fe), (0x3300, 0x3357), (0x3400, 0x4dbf),
  (0x4e00, 0x9fff), (0xf900, 0xfa6d), (0xfa70, 0xfad9), (0xff66, 0xff6f), (0xff71, 0xff9d),
  (0x16fe2, 0x16fe3), (0x16ff0, 0x16ff1), (0x1aff0, 0x1aff3), (0x1aff5, 0x1affb),
  (0x1affd, 0x1affe), (0x1b000, 0x1b122), (0x1b132, 0x1b132), (0x1b150, 0x1b152),
  (0x1b155, 0x1b155), (0x1b164, 0x1b167), (0x1f200, 0x1f200), (0x20000, 0x2a6df),
  (0x2a700, 0x2b739), (0x2b740, 0x2b81d), (0x2b820, 0x2cea1), (0x2ceb0, 0x2ebe0),
  (0x2ebf0, 0x2ee5d), (0x2f800, 0x2fa1d), (0x30000, 0x3134a), (0x31350, 0x323af)]

def joinsBefore : List (Nat × Nat) := [
  (0x622, 0x625), (0x627, 0x627), (0x629, 0x629), (0x62f, 0x632), (0x648, 0x648), (0x671, 0x673),
  (0x688, 0x699), (0x6c0, 0x6c0), (0x6c3, 0x6cb), (0x6cd, 0x6cd), (0x6cf, 0x6cf), (0x6d2, 0x6d5),
  (0x6ee, 0x6ef), (0x710, 0x710), (0x715, 0x719), (0x71e, 0x71e), (0x728, 0x728), (0x72a, 0x72a),
  (0x72c, 0x72c), (0x72f, 0x72f), (0x74d, 0x74d), (0x759, 0x75b), (0x76b, 0x76c), (0x771, 0x771),
  (0x773, 0x774), (0x778, 0x779), (0x840, 0x840), (0x846, 0x847), (0x849, 0x849), (0x854, 0x854),
  (0x856, 0x858), (0x867, 0x867), (0x869, 0x882), (0x88e, 0x88e), (0x8aa, 0x8ac), (0x8ae, 0x8ae),
  (0x8b1, 0x8b2), (0x8b9, 0x8b9), (0x10ac5, 0x10ac5), (0x10ac7, 0x10aca), (0x10ace, 0x10ad2),
  (0x10add, 0x10add), (0x10ae1, 0x10ae1), (0x10ae4, 0x10ae4), (0x10b81, 0x10b81),
  (0x10b83, 0x10b85), (0x10b89, 0x10b89), (0x10b8c, 0x10b8c), (0x10b8e, 0x10b8f),
  (0x10b91, 0x10b91), (0x10d22, 0x10d22), (0x10f33, 0x10f33), (0x10f74, 0x10f75),
  (0x10fb4, 0x10fb6), (0x10fb9, 0x10fba), (0x10fbd, 0x10fbd), (0x10fc2, 0x10fc3)]

def joinsAfter : List (Nat × Nat) := [
  (0xa872, 0xa872), (0x10acd, 0x10acd), (0x10ad7, 0x10ad7), (0x10d00, 0x10d00)]

def joinsBoth : List (Nat × Nat) := [
  (0x620, 0x620), (0x626, 0x626), (0x628, 0x628), (0x62a, 0x62e), (0x633, 0x647), (0x649, 0x64a),
  (0x66e, 0x66f), (0x679, 0x687), (0x69a, 0x6bf), (0x6c1, 0x6c2), (0x6cc, 0x6cc), (0x6ce, 0x6ce),
  (0x6d0, 0x6d1), (0x6fa, 0x6fc), (0x6ff, 0x6ff), (0x712, 0x714), (0x71a, 0x71d), (0x71f, 0x727),
  (0x729, 0x729), (0x72b, 0x72b), (0x72d, 0x72e), (0x74e, 0x758), (0x75c, 0x76a), (0x76d, 0x770),
  (0x772, 0x772), (0x775, 0x777), (0x77a, 0x77f), (0x7ca, 0x7ea), (0x841, 0x845), (0x848, 0x848),
  (0x84a, 0x853), (0x855, 0x855), (0x860, 0x860), (0x862, 0x865), (0x868, 0x868), (0x886, 0x886),
  (0x889, 0x88d), (0x8a0, 0x8a9), (0x8af, 0x8b0), (0x8b3, 0x8b8), (0x8ba, 0x8c8), (0x1820, 0x1878),
  (0x1887, 0x18a8), (0x18aa, 0x18aa), (0xa840, 0xa871), (0x10ac0, 0x10ac4), (0x10ad3, 0x10ad6),
  (0x10ad8, 0x10adc), (0x10ade, 0x10ae0), (0x10b80, 0x10b80), (0x10b82, 0x10b82),
  (0x10b86, 0x10b88), (0x10b8a, 0x10b8b), (0x10b8d, 0x10b8d), (0x10b90, 0x10b90),
  (0x10d01, 0x10d21), (0x10d23, 0x10d23), (0x10f30, 0x10f32), (0x10f34, 0x10f44),
  (0x10f70, 0x10f73), (0x10f76, 0x10f81), (0x10fb0, 0x10fb0), (0x10fb2, 0x10fb3),
  (0x10fb8, 0x10fb8), (0x10fbb, 0x10fbc), (0x10fbe, 0x10fbf), (0x10fc1, 0x10fc1),
  (0x10fc4, 0x10fc4), (0x1e922, 0x1e943)]

/-- Signs beside the flat marks that letters join across. -/
def joinedAcross : List Nat := [0xcbf, 0xcc6, 0x11a07, 0x11a08, 0x11c3f, 0x1e94b]

def isJoinedAcross (c : Nat) : Bool := Text.isFlatMark c || joinedAcross.contains c

/-- Whether the next letter, past what letters join across, is one of some. -/
def reaches (letters : List (Nat × Nat)) (cs : List Nat) : Bool :=
  (cs.dropWhile isJoinedAcross).head?.any (within letters)

/-- The class of signs that take the vowel from a letter. -/
def virama : Nat := 9

def followsVirama (before : List Nat) : Bool :=
  before.head?.any fun c => Text.Composed.classOf c = virama

def isJoiner (c : Nat) : Bool := c = 0x200c || c = 0x200d

/-- A joiner stands after a virama; one that keeps letters apart may also stand between two that
would join. `before` holds what stands before it, the nearest first. -/
def joinerFits (c : Nat) (before after : List Nat) : Bool :=
  followsVirama before
    || c = 0x200c && reaches (joinsAfter ++ joinsBoth) before
      && reaches (joinsBefore ++ joinsBoth) after

def isMiddleDot (c : Nat) : Bool := c = 0xb7

def isKeraia (c : Nat) : Bool := c = 0x375

def isGeresh (c : Nat) : Bool := c = 0x5f3 || c = 0x5f4

def isKatakanaDot (c : Nat) : Bool := c = 0x30fb

def isArabicDigit (c : Nat) : Bool := 0x660 ≤ c && c ≤ 0x669

def isPersianDigit (c : Nat) : Bool := 0x6f0 ≤ c && c ≤ 0x6f9

/-- Whether a code point has a rule about its neighbours, joiners aside. -/
def needsContext (c : Nat) : Bool :=
  isMiddleDot c || isKeraia c || isGeresh c || isKatakanaDot c || isArabicDigit c
    || isPersianDigit c

/-- A middle dot stands between two letters `l`, a keraia before Greek, a geresh after Hebrew, a dot
of Katakana in a label with Japanese, and the two sorts of Arabic digits not in one label. -/
def contextFits (c : Nat) (before after : List Nat) : Bool :=
  let label := before.reverse ++ c :: after
  if isMiddleDot c then before.head? = some 0x6c && after.head? = some 0x6c
  else if isKeraia c then after.head?.any (within greek)
  else if isGeresh c then before.head?.any (within hebrew)
  else if isKatakanaDot c then label.any (within japanese)
  else if isArabicDigit c then !label.any isPersianDigit
  else !label.any isArabicDigit

end TemplatedRequests.Idna
