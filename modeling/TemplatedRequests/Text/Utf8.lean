import TemplatedRequests.Text.Hex

/-!
UTF-8. Writing is total; reading either refuses the first flaw with its place and bytes, or puts
the replacement character for each flaw.
-/

namespace TemplatedRequests.Text.Utf8

def encodeChar (c : Char) : List UInt8 :=
  let n := c.toNat
  if n < 0x80 then [UInt8.ofNat n]
  else if n < 0x800 then [UInt8.ofNat (0xc0 + n / 64), UInt8.ofNat (0x80 + n % 64)]
  else if n < 0x10000 then
    [UInt8.ofNat (0xe0 + n / 4096), UInt8.ofNat (0x80 + n / 64 % 64), UInt8.ofNat (0x80 + n % 64)]
  else
    [UInt8.ofNat (0xf0 + n / 262144), UInt8.ofNat (0x80 + n / 4096 % 64),
      UInt8.ofNat (0x80 + n / 64 % 64), UInt8.ofNat (0x80 + n % 64)]

def encode (cs : List Char) : List UInt8 := cs.flatMap encodeChar

@[simp] theorem encode_nil : encode [] = [] := rfl

@[simp] theorem encode_cons (c : Char) (cs : List Char) :
    encode (c :: cs) = encodeChar c ++ encode cs := rfl

inductive Problem where
  | startByte
  | continuationByte
  | endOfData
  deriving DecidableEq, Repr

def Problem.label : Problem → String
  | .startByte => "invalid start byte"
  | .continuationByte => "invalid continuation byte"
  | .endOfData => "unexpected end of data"

/-- What a first byte announces: how many bytes follow it, the bits it carries, and the bounds of
the byte after it. -/
structure Lead where
  tails : Nat
  bits : Nat
  low : Nat
  high : Nat

/-- The bounds leave out overlong forms, surrogates and numbers past the last code point. -/
def lead? (n : Nat) : Option Lead :=
  if n < 0x80 then some ⟨0, n, 0x80, 0xbf⟩
  else if n < 0xc2 then none
  else if n < 0xe0 then some ⟨1, n - 0xc0, 0x80, 0xbf⟩
  else if n = 0xe0 then some ⟨2, 0, 0xa0, 0xbf⟩
  else if n = 0xed then some ⟨2, 0xd, 0x80, 0x9f⟩
  else if n < 0xf0 then some ⟨2, n - 0xe0, 0x80, 0xbf⟩
  else if n = 0xf0 then some ⟨3, 0, 0x90, 0xbf⟩
  else if n < 0xf4 then some ⟨3, n - 0xf0, 0x80, 0xbf⟩
  else if n = 0xf4 then some ⟨3, 4, 0x80, 0x8f⟩
  else none

/-- Reads the bytes after a first one: the character or the problem, and how many were taken. -/
def readTails : (tails bits low high : Nat) → List UInt8 → Except Problem Char × Nat
  | 0, bits, _, _, _ => (.ok (Char.ofNat bits), 0)
  | _ + 1, _, _, _, [] => (.error .endOfData, 0)
  | n + 1, bits, low, high, b :: r =>
    if low ≤ b.toNat ∧ b.toNat ≤ high then
      let (found, taken) := readTails n (bits * 64 + (b.toNat - 0x80)) 0x80 0xbf r
      (found, taken + 1)
    else (.error .continuationByte, 0)

def readChar (b : UInt8) (r : List UInt8) : Except Problem Char × Nat :=
  match lead? b.toNat with
  | none => (.error .startByte, 0)
  | some l => readTails l.tails l.bits l.low l.high r

/-- The first flaw of a text: where it is, and the bytes that make it up. -/
structure Flaw where
  problem : Problem
  offset : Nat
  bytes : List UInt8
  deriving DecidableEq, Repr

def decodeFrom (offset : Nat) : List UInt8 → Except Flaw (List Char)
  | [] => .ok []
  | b :: r =>
    let (found, taken) := readChar b r
    match found with
    | .error p => .error ⟨p, offset, b :: r.take taken⟩
    | .ok c => (decodeFrom (offset + taken + 1) (r.drop taken)).map (c :: ·)
termination_by bs => bs.length
decreasing_by simp only [List.length_drop, List.length_cons]; omega

def decode (bs : List UInt8) : Except Flaw (List Char) := decodeFrom 0 bs

def replacement : Char := Char.ofNat 0xfffd

def decodeReplacing : List UInt8 → List Char
  | [] => []
  | b :: r =>
    let (found, taken) := readChar b r
    (match found with | .ok c => c | .error _ => replacement) :: decodeReplacing (r.drop taken)
termination_by bs => bs.length
decreasing_by simp only [List.length_drop, List.length_cons]; omega

def dropMark : List Char → List Char
  | '\ufeff' :: r => r
  | cs => cs

def Flaw.message (f : Flaw) : String :=
  let place := match f.bytes with
    | [b] => "byte 0x" ++ String.ofList (hex 2 b.toNat) ++ " in position " ++ toString f.offset
    | bs => "bytes in position " ++ toString f.offset ++ "-"
        ++ toString (f.offset + bs.length - 1)
  "'utf-8' codec can't decode " ++ place ++ ": " ++ f.problem.label

@[simp] theorem decode_nil : decode [] = .ok [] := by simp [decode, decodeFrom]

@[simp] theorem decodeReplacing_nil : decodeReplacing [] = [] := by simp [decodeReplacing]

end TemplatedRequests.Text.Utf8
