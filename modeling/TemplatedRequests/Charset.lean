import TemplatedRequests.Charset.Chinese
import TemplatedRequests.Charset.Escaped
import TemplatedRequests.Charset.Korean
import TemplatedRequests.Charset.Page
import TemplatedRequests.Charset.Shifted

/-!
Sets of characters and how bytes stand for them. Flaws in bytes give replacement characters; only
sets that cannot be read at all are refused.
-/

namespace TemplatedRequests

inductive Charset where
  | utf8
  | utf8Marked
  | ascii
  | latin1
  | utf16 (order : Charset.ByteOrder)
  | utf16Marked
  | utf32 (order : Charset.ByteOrder)
  | utf32Marked
  | shifted
  | page (p : Charset.Page)
  | paired (p : Charset.Paired)
  | escaped
  | binary
  | rotated
  | domain
  | undefined

namespace Charset

inductive Problem where
  | notMarked (form : String)
  | notText
  | takesText
  | neverReplacing
  | undefined
  deriving DecidableEq, Repr

def Problem.message : Problem → String
  | notMarked form => form ++ " stream does not start with BOM"
  | notText => ""
  | takesText => "descriptor 'translate' for 'str' objects doesn't apply to a 'bytes' object"
  | neverReplacing => "Unsupported error handling replace"
  | undefined => "undefined encoding"

structure Entry where
  charset : Charset
  name : String
  others : List String := []

/-- The sets that are told by their names. Sets that would take tables of their own besides these,
such as the ones for Hong Kong or of the year 2004, are not among them. -/
def entries : List Entry := [
  ⟨utf8, "utf_8", ["cp65001", "u8", "utf", "utf8", "utf8_ucs2", "utf8_ucs4"]⟩,
  ⟨utf8Marked, "utf_8_sig", []⟩,
  ⟨ascii, "ascii", ["646", "ansi_x3.4_1968", "ansi_x3.4_1986", "ansi_x3_4_1968", "cp367",
    "csascii", "ibm367", "iso646_us", "iso_646.irv_1991", "iso_ir_6", "us", "us_ascii"]⟩,
  ⟨latin1, "latin_1", ["8859", "cp819", "csisolatin1", "ibm819", "iso8859", "iso8859_1",
    "iso_8859_1", "iso_8859_1_1987", "iso_ir_100", "l1", "latin", "latin1"]⟩,
  ⟨latin1, "charmap", []⟩,
  ⟨utf16Marked, "utf_16", ["u16", "utf16"]⟩,
  ⟨utf16 .highFirst, "utf_16_be", ["unicodebigunmarked", "utf_16be"]⟩,
  ⟨utf16 .lowFirst, "utf_16_le", ["unicodelittleunmarked", "utf_16le"]⟩,
  ⟨utf32Marked, "utf_32", ["u32", "utf32"]⟩,
  ⟨utf32 .highFirst, "utf_32_be", ["utf_32be"]⟩,
  ⟨utf32 .lowFirst, "utf_32_le", ["utf_32le"]⟩,
  ⟨shifted, "utf_7", ["u7", "unicode_1_1_utf_7", "utf7"]⟩,
  ⟨escaped, "iso2022_jp", ["csiso2022jp", "iso2022jp", "iso_2022_jp"]⟩,
  ⟨binary, "base64_codec", ["base64", "base_64"]⟩,
  ⟨binary, "bz2_codec", ["bz2"]⟩,
  ⟨binary, "hex_codec", ["hex"]⟩,
  ⟨binary, "quopri_codec", ["quopri", "quoted_printable", "quotedprintable"]⟩,
  ⟨binary, "uu_codec", ["uu"]⟩,
  ⟨binary, "zlib_codec", ["zip", "zlib"]⟩,
  ⟨rotated, "rot_13", ["rot13"]⟩,
  ⟨domain, "idna", []⟩,
  ⟨undefined, "undefined", []⟩] ++
  pages.map (fun p => ⟨page p, p.name, p.others⟩) ++
  [shiftJis, codePage932, eucJp, gb2312, gbk, gb18030, big5, codePage950, eucKr, codePage949].map
    fun p => ⟨paired p, p.name, p.others⟩

/-- A name in small letters, with one underscore for each run of other characters between two
letters, digits or points. -/
def normalName (name : List Char) : List Char :=
  let words := name.splitOnP fun c => !(c.isAlphanum || c = '.')
  (['_'].intercalate (words.filter (!·.isEmpty))).map Char.toLower

/-- In the other names of a set, points may be written for underscores. -/
def ofName? (name : List Char) : Option Charset :=
  let normal := String.ofList (normalName name)
  let plain := String.ofList ((normalName name).map fun c => if c = '.' then '_' else c)
  let hasName (e : Entry) := e.name == normal || e.others.contains normal || e.others.contains plain
  (entries.find? hasName).map (·.charset)

def decodeMarked (form : String) (width : Nat) (decode : ByteOrder → List UInt8 → List Char)
    (bytes : List UInt8) : Except Problem (List Char) :=
  match marked? width bytes with
  | some (order, rest) => .ok (decode order rest)
  | none =>
    if width ≤ bytes.length then .error (.notMarked form) else .ok (decode .lowFirst bytes)

/-- The mark of UTF-8, which may be broken off. -/
def dropMark (bytes : List UInt8) : List UInt8 :=
  let mark : List UInt8 := [0xef, 0xbb, 0xbf]
  if bytes.isPrefixOf mark || mark.isPrefixOf bytes then bytes.drop 3 else bytes

def decode (bytes : List UInt8) : Charset → Except Problem (List Char)
  | utf8 => .ok (Text.Utf8.decodeReplacing bytes)
  | utf8Marked => .ok (Text.Utf8.decodeReplacing (dropMark bytes))
  | ascii => .ok (bytes.map fun b => if b < 0x80 then Char.ofNat b.toNat else Text.Utf8.replacement)
  | latin1 => .ok (bytes.map fun b => Char.ofNat b.toNat)
  | utf16 order => .ok (decode16 order bytes)
  | utf16Marked => decodeMarked "UTF-16" 2 decode16 bytes
  | utf32 order => .ok (decode32 order bytes)
  | utf32Marked => decodeMarked "UTF-32" 4 decode32 bytes
  | shifted => .ok (decodeShifted none (bytes.map fun b => Char.ofNat b.toNat))
  | page p => .ok (p.decode bytes)
  | paired p => .ok (p.decode bytes)
  | escaped => .ok (decodeEscaped .ascii bytes)
  | binary => .error .notText
  | rotated => .error .takesText
  | domain => .error .neverReplacing
  | undefined => .error .undefined

end Charset

end TemplatedRequests
