import TemplatedRequests.Fault
import TemplatedRequests.Json.Value
import TemplatedRequests.Text.Hex

/-!
Reading documents. A text that is no document is refused at the first place where it cannot go
on; a number that cannot be held is refused where it stands, and so is a value inside too many
others.
-/

namespace TemplatedRequests.Json

inductive Problem where
  | value
  | propertyName
  | colon
  | comma
  | controlCharacter
  | escape
  | codeEscape
  | unterminated
  | extraData
  | byteOrderMark
  deriving DecidableEq, Repr

def Problem.label : Problem → String
  | .value => "Expecting value"
  | .propertyName => "Expecting property name enclosed in double quotes"
  | .colon => "Expecting ':' delimiter"
  | .comma => "Expecting ',' delimiter"
  | .controlCharacter => "Invalid control character at"
  | .escape => "Invalid \\escape"
  | .codeEscape => "Invalid \\uXXXX escape"
  | .unterminated => "Unterminated string starting at"
  | .extraData => "Extra data"
  | .byteOrderMark => "Unexpected UTF-8 BOM (decode using utf-8-sig)"

/-- A problem and the text from its place on, or a value that is refused. -/
inductive Stop where
  | malformed (problem : Problem) (rest : List Char)
  | refused (fault : Fault)

inductive Numbers where
  | finite
  | all
  deriving DecidableEq, Repr

def isBlank (c : Char) : Bool := c = ' ' || c = '\t' || c = '\n' || c = '\r'

def skipBlanks (cs : List Char) : List Char := cs.dropWhile isBlank

def hexFour? (a b c d : Char) : Option Nat := do
  return (← Text.hexDigit? a) * 4096 + (← Text.hexDigit? b) * 256 + (← Text.hexDigit? c) * 16
    + (← Text.hexDigit? d)

def isHighSurrogate (n : Nat) : Bool := 0xd800 ≤ n && n < 0xdc00

def isLowSurrogate (n : Nat) : Bool := 0xdc00 ≤ n && n < 0xe000

def joinSurrogates (high low : Nat) : Nat := 0x10000 + (high - 0xd800) * 0x400 + (low - 0xdc00)

/-- Strings hold characters, and a surrogate that stands alone is none, so it is replaced. -/
def charOfCode (n : Nat) : Char :=
  if isHighSurrogate n || isLowSurrogate n then Char.ofNat 0xfffd else Char.ofNat n

def escapeOf? : Char → Option Char
  | '"' => some '"'
  | '\\' => some '\\'
  | '/' => some '/'
  | 'b' => some (Char.ofNat 8)
  | 'f' => some (Char.ofNat 12)
  | 'n' => some '\n'
  | 'r' => some '\r'
  | 't' => some '\t'
  | _ => none

/-- Reads one character of four hexadecimal digits, or of two times four for a pair of surrogates,
with the text after it. The digits may not end the text. -/
def readCode (rest : List Char) : Except Stop (Char × List Char) :=
  match rest with
  | a :: b :: c :: d :: r => match hexFour? a b c d with
    | none => .error (.malformed .codeEscape ('u' :: rest))
    | some n =>
      if r.isEmpty then .error (.malformed .codeEscape ('u' :: rest))
      else if isHighSurrogate n then match r with
        | '\\' :: 'u' :: e :: f :: g :: h :: s =>
          if s.isEmpty then .ok (charOfCode n, r)
          else match hexFour? e f g h with
            | none => .error (.malformed .codeEscape ('u' :: e :: f :: g :: h :: s))
            | some l =>
              if isLowSurrogate l then .ok (Char.ofNat (joinSurrogates n l), s)
              else .ok (charOfCode n, r)
        | _ => .ok (charOfCode n, r)
      else .ok (charOfCode n, r)
  | _ => .error (.malformed .codeEscape ('u' :: rest))

theorem length_readCode {rest r : List Char} {c : Char} (h : readCode rest = .ok (c, r)) :
    r.length < rest.length := by
  unfold readCode at h
  repeat' split at h
  all_goals
    simp only [Except.ok.injEq, Prod.mk.injEq, reduceCtorEq] at h
  all_goals
    obtain ⟨-, rfl⟩ := h
    simp only [List.length_cons]
    omega

/-- Reads a string up to its closing quote; `start` is the text from the opening quote on. -/
def readString (start : List Char) : List Char → Except Stop (List Char × List Char)
  | [] => .error (.malformed .unterminated start)
  | '"' :: r => .ok ([], r)
  | ['\\'] => .error (.malformed .unterminated start)
  | '\\' :: 'u' :: r =>
    match _h : readCode r with
    | .error stop => .error stop
    | .ok (c, r') => (readString start r').map fun p => (c :: p.1, p.2)
  | '\\' :: e :: r => match escapeOf? e with
    | none => .error (.malformed .escape ('\\' :: e :: r))
    | some c => (readString start r).map fun p => (c :: p.1, p.2)
  | c :: r =>
    if c.toNat < 0x20 then .error (.malformed .controlCharacter (c :: r))
    else (readString start r).map fun p => (c :: p.1, p.2)
termination_by cs => cs.length
decreasing_by
  · have := length_readCode ‹_›
    simp only [List.length_cons]
    omega
  · simp only [List.length_cons]; omega
  · simp only [List.length_cons]; omega

def isDigit (c : Char) : Bool := '0' ≤ c && c ≤ '9'

def digitsOf (cs : List Char) : List Nat := cs.map fun c => c.toNat - '0'.toNat

/-- A number as it is written; an empty fraction or power is absent. -/
structure Literal where
  negative : Bool
  whole : List Char
  fraction : List Char
  powerSign : List Char
  power : List Char
  deriving DecidableEq, Repr

def Literal.isInteger (l : Literal) : Bool := l.fraction.isEmpty && l.power.isEmpty

def Literal.text (l : Literal) : String :=
  String.ofList ((if l.negative then ['-'] else []) ++ l.whole
    ++ (if l.fraction.isEmpty then [] else '.' :: l.fraction) ++ l.powerSign ++ l.power)

/-- A zero stands alone before the point. -/
def wholePart : List Char → List Char × List Char
  | '0' :: r => (['0'], r)
  | cs => (cs.takeWhile isDigit, cs.dropWhile isDigit)

def fractionPart : List Char → List Char × List Char
  | '.' :: r =>
    if (r.takeWhile isDigit).isEmpty then ([], '.' :: r)
    else (r.takeWhile isDigit, r.dropWhile isDigit)
  | cs => ([], cs)

def powerSignPart : List Char → List Char × List Char
  | e :: '+' :: r => if e = 'e' ∨ e = 'E' then ([e, '+'], r) else ([], e :: '+' :: r)
  | e :: '-' :: r => if e = 'e' ∨ e = 'E' then ([e, '-'], r) else ([], e :: '-' :: r)
  | e :: r => if e = 'e' ∨ e = 'E' then ([e], r) else ([], e :: r)
  | [] => ([], [])

def powerPart (cs : List Char) : (List Char × List Char) × List Char :=
  let (sign, r) := powerSignPart cs
  if sign.isEmpty || (r.takeWhile isDigit).isEmpty then (([], []), cs)
  else ((sign, r.takeWhile isDigit), r.dropWhile isDigit)

def readLiteral? (cs : List Char) : Option (Literal × List Char) :=
  let (negative, unsigned) := match cs with
    | '-' :: r => (true, r)
    | r => (false, r)
  let (whole, r) := wholePart unsigned
  if whole.isEmpty then none
  else
    let (fraction, r) := fractionPart r
    let ((powerSign, power), r) := powerPart r
    some (⟨negative, whole, fraction, powerSign, power⟩, r)

def Literal.toBinary64 (l : Literal) : Binary64 :=
  let coefficient := Numeral.ofDigits (digitsOf (l.whole ++ l.fraction))
  let power : Int := Numeral.ofDigits (digitsOf l.power)
  let power := if l.powerSign.contains '-' then -power else power
  Binary64.ofDecimal l.negative coefficient (power - l.fraction.length)

def Literal.value (numbers : Numbers) (l : Literal) : Except Fault Value :=
  if l.isInteger then match Numeral.limited (digitsOf l.whole) with
    | .error long => .error (.numeral long)
    | .ok n => .ok (.int (if l.negative then -(n : Int) else n))
  else
    let x := l.toBinary64
    match numbers, x.isFinite with
    | .finite, false => .error (.numberOutOfRange l.text)
    | _, _ => .ok (.float x)

def constant (numbers : Numbers) (name : String) (x : Binary64) (rest : List Char) :
    Except Stop (Value × List Char) :=
  match numbers with
  | .finite => .error (.refused (.nonFiniteConstant name))
  | .all => .ok (.float x, rest)

def readNumber (numbers : Numbers) (cs : List Char) : Except Stop (Value × List Char) :=
  match readLiteral? cs with
  | none => .error (.malformed .value cs)
  | some (l, r) => match l.value numbers with
    | .error fault => .error (.refused fault)
    | .ok v => .ok (v, r)

/-- How many objects and arrays may stand within each other. Each takes one of the thousand calls that
the interpreter lets stand within each other, less those that have led to the reader. A value is no
deeper than the document it was read from, so writing it needs no limit of its own. -/
def nestingLimit : Nat := 960

mutual

/-- Reads a value; `room` more may be opened within each other. Every call in it is given less
fuel, and of two nested calls one takes a character, so a text needs no more fuel than twice its
length. -/
def readValue (numbers : Numbers) (room : Nat) :
    (fuel : Nat) → List Char → Except Stop (Value × List Char)
  | 0, cs => .error (.malformed .value cs)
  | fuel + 1, cs => match cs with
    | '"' :: r => (readString cs r).map fun p => (.text (String.ofList p.1), p.2)
    | '{' :: r =>
      if room = 0 then .error (.refused (.nestedTooDeep .object))
      else match skipBlanks r with
        | '}' :: r => .ok (.object [], r)
        | r => (readFields numbers (room - 1) fuel [] r).map fun p => (.object p.1, p.2)
    | '[' :: r =>
      if room = 0 then .error (.refused (.nestedTooDeep .array))
      else match skipBlanks r with
        | ']' :: r => .ok (.array [], r)
        | r => (readItems numbers (room - 1) fuel r).map fun p => (.array p.1, p.2)
    | 'n' :: 'u' :: 'l' :: 'l' :: r => .ok (.null, r)
    | 't' :: 'r' :: 'u' :: 'e' :: r => .ok (.bool true, r)
    | 'f' :: 'a' :: 'l' :: 's' :: 'e' :: r => .ok (.bool false, r)
    | 'N' :: 'a' :: 'N' :: r => constant numbers "NaN" .nan r
    | 'I' :: 'n' :: 'f' :: 'i' :: 'n' :: 'i' :: 't' :: 'y' :: r =>
      constant numbers "Infinity" (.infinite false) r
    | '-' :: 'I' :: 'n' :: 'f' :: 'i' :: 'n' :: 'i' :: 't' :: 'y' :: r =>
      constant numbers "-Infinity" (.infinite true) r
    | _ => readNumber numbers cs

def readItems (numbers : Numbers) (room : Nat) :
    (fuel : Nat) → List Char → Except Stop (List Value × List Char)
  | 0, cs => .error (.malformed .value cs)
  | fuel + 1, cs => match readValue numbers room fuel cs with
    | .error stop => .error stop
    | .ok (v, r) => match skipBlanks r with
      | ']' :: r => .ok ([v], r)
      | ',' :: r => (readItems numbers room fuel (skipBlanks r)).map fun p => (v :: p.1, p.2)
      | r => .error (.malformed .comma r)

/-- Reads the fields of an object after those in `seen`. -/
def readFields (numbers : Numbers) (room : Nat) : (fuel : Nat) →
    (seen : List (String × Value)) → List Char →
    Except Stop (List (String × Value) × List Char)
  | 0, _, cs => .error (.malformed .propertyName cs)
  | fuel + 1, seen, cs => match cs with
    | '"' :: r => match readString cs r with
      | .error stop => .error stop
      | .ok (name, r) => match skipBlanks r with
        | ':' :: r => match readValue numbers room fuel (skipBlanks r) with
          | .error stop => .error stop
          | .ok (v, r) =>
            let seen := OrderedMap.put (String.ofList name) v seen
            match skipBlanks r with
            | '}' :: r => .ok (seen, r)
            | ',' :: r => readFields numbers room fuel seen (skipBlanks r)
            | r => .error (.malformed .comma r)
        | r => .error (.malformed .colon r)
    | _ => .error (.malformed .propertyName cs)

end

/-- Where a problem is: the line and column, counted from one, and the number of characters before
it. -/
structure Place where
  line : Nat
  column : Nat
  offset : Nat
  deriving DecidableEq, Repr

def Place.ofPrefix (before : List Char) : Place :=
  ⟨before.count '\n' + 1, (before.reverse.takeWhile (· != '\n')).length + 1, before.length⟩

inductive ReadError where
  | malformed (problem : Problem) (place : Place)
  | refused (fault : Fault)
  deriving DecidableEq, Repr

def problemText (problem : Problem) (place : Place) : String :=
  problem.label ++ ": line " ++ toString place.line ++ " column " ++ toString place.column
    ++ " (char " ++ toString place.offset ++ ")"

def readDocument (numbers : Numbers) (cs : List Char) : Except Stop Value :=
  match cs with
  | '\ufeff' :: _ => .error (.malformed .byteOrderMark cs)
  | _ => match readValue numbers nestingLimit (2 * cs.length + 1) (skipBlanks cs) with
    | .error stop => .error stop
    | .ok (v, r) => match skipBlanks r with
      | [] => .ok v
      | rest => .error (.malformed .extraData rest)

def read (numbers : Numbers) (cs : List Char) : Except ReadError Value :=
  match readDocument numbers cs with
  | .ok v => .ok v
  | .error (.refused fault) => .error (.refused fault)
  | .error (.malformed problem rest) =>
    .error (.malformed problem (.ofPrefix (cs.take (cs.length - rest.length))))

theorem read_ofList {numbers : Numbers} {cs : List Char} {result : Except ReadError Value}
    (h : read numbers cs = result) : read numbers (String.ofList cs).toList = result := by
  rw [String.toList_ofList, h]

end TemplatedRequests.Json
