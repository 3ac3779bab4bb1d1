import TemplatedRequests.Text.Quoted

/-!
ASCII: the characters below 128, one byte each. A text with others is refused, and the first run of
them is told.
-/

namespace TemplatedRequests.Text.Ascii

def holds (c : Char) : Bool := c.toNat < 0x80

structure Flaw where
  offset : Nat
  run : List Char
  deriving DecidableEq, Repr

def flaw? (cs : List Char) : Option Flaw :=
  match cs.dropWhile holds with
  | [] => none
  | c :: r => some ⟨(cs.takeWhile holds).length, c :: r.takeWhile (!holds ·)⟩

def Flaw.message (f : Flaw) : String :=
  let place := match f.run with
    | [c] => "character '" ++ String.ofList (Quoted.byNumber c.toNat) ++ "' in position "
        ++ toString f.offset
    | cs => "characters in position " ++ toString f.offset ++ "-"
        ++ toString (f.offset + cs.length - 1)
  "'ascii' codec can't encode " ++ place ++ ": ordinal not in range(128)"

def checked (cs : List Char) : Except Flaw (List Char) :=
  match flaw? cs with
  | some f => .error f
  | none => .ok cs

end TemplatedRequests.Text.Ascii
