import TemplatedRequests.Text.Hex
import TemplatedRequests.Text.Unprintable

/-!
Text in quotes, as messages show it. Single quotes are used unless the text holds a single quote
and no double one.
-/

namespace TemplatedRequests.Text

namespace Quoted

def mark (cs : List Char) : Char :=
  if cs.contains '\'' && !cs.contains '"' then '"' else '\''

def byNumber (n : Nat) : List Char :=
  if n ≤ 0xff then '\\' :: 'x' :: hex 2 n
  else if n ≤ 0xffff then '\\' :: 'u' :: hex 4 n
  else '\\' :: 'U' :: hex 8 n

def shown (quote c : Char) : List Char :=
  if c = quote ∨ c = '\\' then ['\\', c]
  else if c = '\t' then ['\\', 't']
  else if c = '\n' then ['\\', 'n']
  else if c = '\r' then ['\\', 'r']
  else if isPrintable c then [c]
  else byNumber c.toNat

end Quoted

def quoted (cs : List Char) : List Char :=
  let q := Quoted.mark cs
  q :: cs.flatMap (Quoted.shown q) ++ [q]

end TemplatedRequests.Text
