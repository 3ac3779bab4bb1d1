import TemplatedRequests.Idna.Context
import TemplatedRequests.Idna.Direction
import TemplatedRequests.Idna.Punycode
import TemplatedRequests.Text.Ascii
import TemplatedRequests.Text.Quoted

/-!
Labels of domain names. A label is a text of code points; with characters beyond ASCII it is also
written in ASCII, with four letters in front that say so.
-/

namespace TemplatedRequests.Idna

abbrev Label := List Nat

/-- A code point that may not stand where it does. -/
structure Misfit where
  code : Nat
  position : Nat
  label : Label
  deriving DecidableEq, Repr

inductive Problem where
  | emptyDomain
  | emptyLabel
  | notComposed
  | hyphensInside
  | hyphenAtEnd
  | markInFront
  | joiner (misfit : Misfit)
  | context (misfit : Misfit)
  | forbidden (misfit : Misfit)
  | misdirected (why : Misdirection) (label : Label)
  | nothingEncoded
  | encodedHyphen
  | unreadable
  | labelTooLong
  | domainTooLong
  deriving DecidableEq, Repr

namespace Label

/-- A label in quotes. Code points that are no characters are shown by number. -/
def quoted (label : Label) : String :=
  let q := Text.Quoted.mark (label.map Char.ofNat)
  String.ofList (q :: label.flatMap (fun c =>
    if c.isValidChar then Text.Quoted.shown q (Char.ofNat c) else Text.Quoted.byNumber c) ++ [q])

end Label

/-- A code point as it is cited: at least four digits to base sixteen. -/
def citation (c : Nat) : String :=
  let width := if c < 0x10000 then 4 else if c < 0x100000 then 5 else 6
  "U+" ++ String.ofList ((Text.hex width c).map Char.toUpper)

def Misdirection.message (label : Label) : Misdirection → String
  | start => "First codepoint in label " ++ label.quoted ++ " must be directionality L, R or AL"
  | rightward n =>
    "Invalid direction for codepoint at position " ++ toString n ++ " in a right-to-left label"
  | mixedNumbers => "Can not mix numeral types in a right-to-left label"
  | leftward n =>
    "Invalid direction for codepoint at position " ++ toString n ++ " in a left-to-right label"
  | ending => "Label ends with illegal codepoint directionality"

def Misfit.place (m : Misfit) : String :=
  " at position " ++ toString m.position ++ " in " ++ m.label.quoted

def Problem.message : Problem → String
  | emptyDomain => "Empty domain"
  | emptyLabel => "Empty Label"
  | notComposed => "Label must be in Normalization Form C"
  | hyphensInside => "Label has disallowed hyphens in 3rd and 4th position"
  | hyphenAtEnd => "Label must not start or end with a hyphen"
  | markInFront => "Label begins with an illegal combining character"
  | joiner m => "Unknown codepoint adjacent to joiner " ++ citation m.code ++ m.place
  | context m => "Codepoint " ++ citation m.code ++ " not allowed" ++ m.place
  | forbidden m =>
    "Codepoint " ++ citation m.code ++ " at position " ++ toString m.position ++ " of "
      ++ m.label.quoted ++ " not allowed"
  | misdirected why label => why.message label
  | nothingEncoded => "Malformed A-label, no Punycode eligible content found"
  | encodedHyphen => "A-label must not end with a hyphen"
  | unreadable => "Invalid A-label"
  | labelTooLong => "Label too long"
  | domainTooLong => "Domain too long"

namespace Label

def hyphen : Nat := 0x2d

/-- The first code point that may not stand where it does. `before` holds those before it, the
nearest first. -/
def misfit? (label : Label) (before : List Nat) : List Nat → Option Problem
  | [] => none
  | c :: after =>
    let here : Misfit := ⟨c, before.length + 1, label⟩
    if isPermitted c then misfit? label (c :: before) after
    else if isJoiner c then
      if joinerFits c before after then misfit? label (c :: before) after else some (.joiner here)
    else if needsContext c then
      if contextFits c before after then misfit? label (c :: before) after else some (.context here)
    else some (.forbidden here)

def problem? (label : Label) : Option Problem :=
  if label.isEmpty then some .emptyLabel
  else if !Text.Composed.isComposed label then some .notComposed
  else if (label.drop 2).take 2 = [hyphen, hyphen] then some .hyphensInside
  else if label.head? = some hyphen || label.getLast? = some hyphen then some .hyphenAtEnd
  else if label.head?.any Text.isMark then some .markInFront
  else (misfit? label [] label).or
    ((misdirection? (label.map directionOf)).map (.misdirected · label))

def check (label : Label) : Except Problem Label :=
  match problem? label with
  | some p => .error p
  | none => .ok label

def mark : List Char := ['x', 'n', '-', '-']

def ofAscii (cs : List Char) : Except Problem Label :=
  let cs := cs.map Char.toLower
  if !mark.isPrefixOf cs then check (cs.map Char.toNat)
  else match cs.drop mark.length with
    | [] => .error .nothingEncoded
    | encoded =>
      if encoded.getLast? = some '-' then .error .encodedHyphen
      else match Punycode.decode? encoded with
        | none => .error .unreadable
        | some label => check label

def lengthLimit : Nat := 63

def bounded (cs : List Char) : Except Problem (List Char) :=
  if cs.length ≤ lengthLimit then .ok cs else .error .labelTooLong

def toAscii (cs : List Char) : Except Problem (List Char) := do
  if cs.all Text.Ascii.holds then
    let _ ← ofAscii cs
    bounded cs
  else
    let label ← check (cs.map Char.toNat)
    bounded (mark ++ Punycode.encode label)

end Label

end TemplatedRequests.Idna
