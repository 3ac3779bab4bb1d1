/-!
Bytes as text of 64 letters: three bytes make four letters, and what is missing at the end is
filled with equals signs.
-/

namespace TemplatedRequests.Base64

def letter (n : Nat) : Char :=
  if n < 26 then Char.ofNat ('A'.toNat + n)
  else if n < 52 then Char.ofNat ('a'.toNat + (n - 26))
  else if n < 62 then Char.ofNat ('0'.toNat + (n - 52))
  else if n = 62 then '+'
  else '/'

def letters (a b c : UInt8) : List Char :=
  let n := 65536 * a.toNat + 256 * b.toNat + c.toNat
  [letter (n / 262144), letter (n / 4096 % 64), letter (n / 64 % 64), letter (n % 64)]

def encode : List UInt8 → List Char
  | [] => []
  | [a] => (letters a 0 0).take 2 ++ ['=', '=']
  | [a, b] => (letters a b 0).take 3 ++ ['=']
  | a :: b :: c :: r => letters a b c ++ encode r

end TemplatedRequests.Base64
