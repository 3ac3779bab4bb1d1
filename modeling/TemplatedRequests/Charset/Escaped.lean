import TemplatedRequests.Charset.Japanese

/-!
Japanese texts of bytes below 128. Escape sequences say what the bytes stand for from there on.
-/

namespace TemplatedRequests.Charset

inductive Called where
  | ascii
  | roman
  | kanji
  /-- An escape sequence of some other kind, which is text, and what held before it. -/
  | foreign (before : Called)

/-- Escape sequences end with a capital letter or an at sign. -/
def isLastOfEscape (b : UInt8) : Bool := 0x40 ≤ b && b ≤ 0x5a

/-- How many bytes there are up to the last one of a sequence; none if the text ends before. A
sequence without an end among its first bytes has no length. -/
def escapeLength? : (room : Nat) → List UInt8 → Option Nat
  | 0, _ => some 0
  | _, [] => none
  | room + 1, b :: r =>
    if isLastOfEscape b then some 1
    else
      match b, r with
      | 0x26, 0x40 :: _ :: r => (escapeLength? (room - 2) r).map fun n => if n = 0 then 0 else n + 3
      | 0x26, [0x40] => none
      | _, r => (escapeLength? room r).map fun n => if n = 0 then 0 else n + 1

/-- What a sequence calls; one with a closing parenthesis calls to a place that is never read. -/
def calledBy? (now : Called) : List UInt8 → Option Called
  | [0x28, 0x42] => some .ascii
  | [0x28, 0x4a] => some .roman
  | [0x24, 0x42] | [0x24, 0x40] | [0x24, 0x28, 0x42] | [0x24, 0x28, 0x40] => some .kanji
  | [0x26, 0x40, 0x1b, 0x24, 0x42] => some .kanji
  | [0x29, 0x42] | [0x29, 0x4a] | [0x24, 0x29, 0x42] | [0x24, 0x29, 0x40] => some now
  | _ => none

def isEscapeKind (b : UInt8) : Bool := [0x28, 0x29, 0x24, 0x2e, 0x26].contains b

def romanChar (b : UInt8) : Char :=
  if b = 0x5c then '¥' else if b = 0x7e then '‾' else Char.ofNat b.toNat

def decodeEscaped : Called → List UInt8 → List Char
  | _, [] => []
  | .foreign before, b :: r =>
    Char.ofNat b.toNat :: decodeEscaped (if isLastOfEscape b then before else .foreign before) r
  | now, 0x1b :: r =>
    if r.isEmpty then [Text.Utf8.replacement]
    else if !r.head?.any isEscapeKind then '\x1b' :: decodeEscaped (.foreign now) r
    else
      match escapeLength? 15 r with
      | none => [Text.Utf8.replacement]
      | some n =>
        match calledBy? now (r.take n) with
        | some next => decodeEscaped next (r.drop n)
        | none => Text.Utf8.replacement :: decodeEscaped now (r.drop n)
  | now, b :: r =>
    if b < 0x20 then Char.ofNat b.toNat :: decodeEscaped now r
    else if 0x80 ≤ b then Text.Utf8.replacement :: decodeEscaped now r
    else
      match now, r with
      | .kanji, [] => [Text.Utf8.replacement]
      | .kanji, c :: r =>
        let char? := if c < 0x80 then kanjiSquare.at? (pairOf (b + 0x80) (c + 0x80)) else none
        char?.getD Text.Utf8.replacement :: decodeEscaped .kanji r
      | .roman, r => romanChar b :: decodeEscaped .roman r
      | now, r => Char.ofNat b.toNat :: decodeEscaped now r
  termination_by _ bytes => bytes.length
  decreasing_by all_goals (simp only [List.length_cons, List.length_drop]; omega)

end TemplatedRequests.Charset
