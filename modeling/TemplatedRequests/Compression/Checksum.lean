/-!
Check sums of bytes that follow them on the wire.
-/

namespace TemplatedRequests.Compression

/-- One step of the cyclic check sum: the polynomial is added when a one is shifted out. -/
def crcShift (c : UInt32) : UInt32 :=
  if c &&& 1 = 1 then (c >>> 1) ^^^ 0xedb88320 else c >>> 1

def crcByte (c : UInt32) (b : UInt8) : UInt32 :=
  (List.range 8).foldl (fun c _ => crcShift c) (c ^^^ b.toUInt32)

def crc32 (bytes : Array UInt8) : UInt32 := bytes.foldl crcByte 0xffffffff ^^^ 0xffffffff

def adlerModulus : UInt32 := 65521

def adlerByte (s : UInt32 × UInt32) (b : UInt8) : UInt32 × UInt32 :=
  let low := (s.1 + b.toUInt32) % adlerModulus
  (low, (s.2 + low) % adlerModulus)

/-- The sum of the bytes, and above it the sum of those sums. -/
def adler32 (bytes : Array UInt8) : UInt32 :=
  let (low, high) := bytes.foldl adlerByte (1, 0)
  (high <<< 16) ||| low

end TemplatedRequests.Compression
