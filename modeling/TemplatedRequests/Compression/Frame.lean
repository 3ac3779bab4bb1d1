import TemplatedRequests.Compression.Checksum
import TemplatedRequests.Compression.Inflate

/-!
Frames of compressed data: what stands before and after it. Two are known, and data may also stand
without one. Bytes after a frame are not looked at.
-/

namespace TemplatedRequests.Compression

def bigEndian (bytes : List Nat) : Nat := bytes.foldl (fun n b => 256 * n + b) 0

/-- Data between two bytes that tell how they were made and the sum of what they hold. -/
def shortFrame : Inflation Unit := do
  let header ← numbers 8 2
  let method := header.getD 0 0
  let flags := header.getD 1 0
  if bigEndian header % 31 ≠ 0 then flaw .header
  if method % 16 ≠ 8 then flaw .method
  if 7 < method / 16 then flaw .window
  if flags / 32 % 2 = 1 then
    let _ ← number 32
    flaw .dictionary
  inflate
  align
  let sum ← numbers 8 4
  if bigEndian sum ≠ (adler32 (← get).output).toNat then flaw .checkSum

def untilZero : (bound : Nat) → Inflation (List Nat)
  | 0 => throw .ended
  | bound + 1 => do
    let b ← number 8
    if b = 0 then return [0] else return b :: (← untilZero bound)

def zeroEnded : Inflation (List Nat) := do untilZero ((← get).bits.length + 1)

/-- A part of a header that stands only where a flag says so. -/
def flagged (flags bit : Nat) (part : Inflation (List Nat)) : Inflation (List Nat) :=
  if (flags >>> bit) % 2 = 1 then part else return []

/-- A part of a header in front of which its length stands. -/
def counted : Inflation (List Nat) := do
  let low ← number 8
  let high ← number 8
  return low :: high :: (← numbers 8 (low + 256 * high))

/-- The header of a long frame: its mark, the method, flags, what the flags announce, and a sum of
all that. -/
def longHeader : Inflation Unit := do
  let mark ← numbers 8 2
  if mark ≠ [0x1f, 0x8b] then flaw .header
  let kind ← numbers 8 2
  let flags := kind.getD 1 0
  if kind.getD 0 0 ≠ 8 then flaw .method
  if 32 ≤ flags then flaw .reservedFlags
  let origin ← numbers 8 6
  let extra ← flagged flags 2 counted
  let name ← flagged flags 3 zeroEnded
  let comment ← flagged flags 4 zeroEnded
  let bytes := mark ++ kind ++ origin ++ extra ++ name ++ comment
  if flags / 2 % 2 = 1 then
    let sum ← number 16
    if sum ≠ (crc32 (bytes.map UInt8.ofNat).toArray).toNat % 65536 then flaw .headerSum

/-- Data after a header of many parts, with a sum of what they hold and its length behind them. -/
def longFrame : Inflation Unit := do
  longHeader
  inflate
  align
  let sum ← number 32
  let output := (← get).output
  if sum ≠ (crc32 output).toNat then flaw .checkSum
  let length ← number 32
  if length ≠ output.size % 4294967296 then flaw .length

def unpack (frame : Inflation Unit) (bytes : List UInt8) : Except Problem (List UInt8) :=
  match frame.run.run { bits := bitsOf bytes } with
  | (.error (.flawed p), _) => .error p
  | (_, s) => .ok s.output.toList

inductive Coding where
  | gzip
  | deflate
  deriving DecidableEq, Repr

namespace Coding

def ofName? : String → Option Coding
  | "gzip" => some gzip
  | "deflate" => some deflate
  | _ => none

/-- Data of the second coding may stand in a short frame or in none. -/
def decode (bytes : List UInt8) : Coding → Except Problem (List UInt8)
  | gzip => unpack longFrame bytes
  | deflate => match unpack shortFrame bytes with
    | .ok plain => .ok plain
    | .error _ => unpack inflate bytes

def decodeAll (codings : List Coding) (bytes : List UInt8) : Except Problem (List UInt8) :=
  codings.reverse.foldlM (fun bytes coding => coding.decode bytes) bytes

end Coding

end TemplatedRequests.Compression
