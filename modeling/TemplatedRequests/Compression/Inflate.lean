import TemplatedRequests.Compression.Prefix

/-!
Compressed data: blocks that hold bytes as they are, or words of codes for single bytes and for
repetitions of what came before. Data that break off give what could be read; flawed data give the
first flaw.
-/

namespace TemplatedRequests.Compression

inductive Problem where
  | header
  | method
  | window
  | reservedFlags
  | headerSum
  | dictionary
  | blockType
  | storedLength
  | counts
  | codeLengths
  | repetition
  | noEnd
  | symbolCode
  | distanceCode
  | symbol
  | distance
  | tooFar
  | checkSum
  | length
  deriving DecidableEq, Repr

def Problem.label : Problem → String
  | header => "incorrect header check"
  | method => "unknown compression method"
  | window => "invalid window size"
  | reservedFlags => "unknown header flags set"
  | headerSum => "header crc mismatch"
  | dictionary => ""
  | blockType => "invalid block type"
  | storedLength => "invalid stored block lengths"
  | counts => "too many length or distance symbols"
  | codeLengths => "invalid code lengths set"
  | repetition => "invalid bit length repeat"
  | noEnd => "invalid code -- missing end-of-block"
  | symbolCode => "invalid literal/lengths set"
  | distanceCode => "invalid distances set"
  | symbol => "invalid literal/length code"
  | distance => "invalid distance code"
  | tooFar => "invalid distance too far back"
  | checkSum => "incorrect data check"
  | length => "incorrect length check"

def Problem.message : Problem → String
  | dictionary => "Error 2 while decompressing data"
  | p => "Error -3 while decompressing data: " ++ p.label

/-- What is left to read, the lowest bit of each byte first, and what was written. -/
structure Stream where
  bits : List Bool
  output : Array UInt8 := #[]

inductive Halt where
  | ended
  | flawed (p : Problem)
  deriving DecidableEq, Repr

abbrev Inflation := ExceptT Halt (StateM Stream)

def bitsOfByte (b : UInt8) : List Bool :=
  (List.range 8).map fun i => (b.toNat >>> i) % 2 == 1

def bitsOf (bytes : List UInt8) : List Bool := bytes.flatMap bitsOfByte

/-- Takes a number of some bits, the lowest first; its value and the bits after it. -/
def takeBits? : (width : Nat) → List Bool → Option (Nat × List Bool)
  | 0, bits => some (0, bits)
  | _ + 1, [] => none
  | w + 1, b :: bits => (takeBits? w bits).map fun p => (b.toNat + 2 * p.1, p.2)

def flaw {α : Type} (p : Problem) : Inflation α := throw (.flawed p)

def number (width : Nat) : Inflation Nat := do
  match takeBits? width (← get).bits with
  | some (n, rest) => modify fun s => { s with bits := rest }; return n
  | none => throw .ended

def symbolOf (code : Code) (bad : Problem) : Inflation Nat := do
  match code.walk (← get).bits with
  | .found s rest => modify fun t => { t with bits := rest }; return s
  | .invalid => flaw bad
  | .ended => throw .ended

def put (b : UInt8) : Inflation Unit := modify fun s => { s with output := s.output.push b }

/-- Goes on to the next whole byte. The bits left over are fewer than eight. -/
def align : Inflation Unit := modify fun s => { s with bits := s.bits.drop (s.bits.length % 8) }

def copyStored : (count : Nat) → Inflation Unit
  | 0 => return
  | n + 1 => do
    let b ← number 8
    put (UInt8.ofNat b)
    copyStored n

def storedBlock : Inflation Unit := do
  align
  let length ← number 16
  let inverse ← number 16
  if length + inverse ≠ 0xffff then flaw .storedLength
  copyStored length

def repeatBack (distance : Nat) : (count : Nat) → Inflation Unit
  | 0 => return
  | n + 1 => do
    let output := (← get).output
    put (output.getD (output.size - distance) 0)
    repeatBack distance n

/-- What the symbols from 257 on repeat: the least length and the width of what is added to it. -/
def lengthSteps : List (Nat × Nat) := [(3, 0), (4, 0), (5, 0), (6, 0), (7, 0), (8, 0), (9, 0),
  (10, 0), (11, 1), (13, 1), (15, 1), (17, 1), (19, 2), (23, 2), (27, 2), (31, 2), (35, 3), (43, 3),
  (51, 3), (59, 3), (67, 4), (83, 4), (99, 4), (115, 4), (131, 5), (163, 5), (195, 5), (227, 5),
  (258, 0)]

/-- How far back repetitions start: the least distance and the width of what is added to it. -/
def distanceSteps : List (Nat × Nat) := [(1, 0), (2, 0), (3, 0), (4, 0), (5, 1), (7, 1), (9, 2),
  (13, 2), (17, 3), (25, 3), (33, 4), (49, 4), (65, 5), (97, 5), (129, 6), (193, 6), (257, 7),
  (385, 7), (513, 8), (769, 8), (1025, 9), (1537, 9), (2049, 10), (3073, 10), (4097, 11),
  (6145, 11), (8193, 12), (12289, 12), (16385, 13), (24577, 13)]

def stepped (steps : List (Nat × Nat)) (bad : Problem) (index : Nat) : Inflation Nat :=
  match steps[index]? with
  | some (least, width) => do return least + (← number width)
  | none => flaw bad

def endOfBlock : Nat := 256

/-- Words up to the end of a block. Each takes at least one bit. -/
def words (symbols distances : Code) : (bound : Nat) → Inflation Unit
  | 0 => throw .ended
  | bound + 1 => do
    let s ← symbolOf symbols .symbol
    if s = endOfBlock then return
    else if s < endOfBlock then
      put (UInt8.ofNat s)
      words symbols distances bound
    else
      let length ← stepped lengthSteps .symbol (s - 257)
      let distance ← stepped distanceSteps .distance (← symbolOf distances .distance)
      if (← get).output.size < distance then flaw .tooFar
      repeatBack distance length
      words symbols distances bound

def codedBlock (symbols distances : Code) : Inflation Unit := do
  words symbols distances ((← get).bits.length + 1)

def fixedLengths : Code.Lengths :=
  List.replicate 144 8 ++ List.replicate 112 9 ++ List.replicate 24 7 ++ List.replicate 8 8

def fixedBlock : Inflation Unit :=
  codedBlock (.ofLengths fixedLengths) (.ofLengths (List.replicate 32 5))

/-- The order in which the lengths of the words for lengths are written. -/
def lengthOrder : List Nat := [16, 17, 18, 0, 8, 7, 9, 6, 10, 5, 11, 4, 12, 3, 13, 2, 14, 1, 15]

/-- The code in which lengths are written. One without words gives zero for every bit. -/
def lengthCode? (written : List Nat) : Option Code :=
  let lengths := (List.range lengthOrder.length).map fun s =>
    (((lengthOrder.zip written).find? (·.1 == s)).map (·.2)).getD 0
  if lengths.all (· == 0) then some (.branch (.symbol 0) (.symbol 0))
  else if Code.isOverfull lengths || Code.isPartial lengths then none
  else some (.ofLengths lengths)

/-- A length that is written: itself, or how often which length is repeated. -/
def lengthRun (symbol : Nat) (last? : Option Nat) : Inflation (List Nat) := do
  if symbol < 16 then return [symbol]
  else if symbol = 16 then
    match last? with
    | none =>
      let _ ← number 2
      flaw .repetition
    | some last => return List.replicate (3 + (← number 2)) last
  else if symbol = 17 then return List.replicate (3 + (← number 3)) 0
  else return List.replicate (11 + (← number 7)) 0

/-- Reads lengths up to a number of them. Each word gives at least one. -/
def lengthsUpTo (code : Code) (count : Nat) : (bound : Nat) → (read : List Nat) →
    Inflation (List Nat)
  | 0, read => return read
  | bound + 1, read => do
    if count ≤ read.length then return read
    let run ← lengthRun (← symbolOf code .codeLengths) read.getLast?
    if count < read.length + run.length then flaw .repetition
    lengthsUpTo code count bound (read ++ run)

def numbers (width : Nat) : (count : Nat) → Inflation (List Nat)
  | 0 => return []
  | n + 1 => do
    let first ← number width
    return first :: (← numbers width n)

/-- A block in front of which its codes are described. -/
def describedBlock : Inflation Unit := do
  let header ← number 14
  let symbolCount := 257 + header % 32
  let distanceCount := 1 + header / 32 % 32
  let lengthCount := 4 + header / 1024
  if 286 < symbolCount || 30 < distanceCount then flaw .counts
  let written ← numbers 3 lengthCount
  let some lengthCode := lengthCode? written | flaw .codeLengths
  let count := symbolCount + distanceCount
  let lengths ← lengthsUpTo lengthCode count count []
  if lengths.getD endOfBlock 0 = 0 then flaw .noEnd
  let some symbols := Code.ofLengths? (lengths.take symbolCount) | flaw .symbolCode
  let some distances := Code.ofLengths? (lengths.drop symbolCount) | flaw .distanceCode
  codedBlock symbols distances

/-- Blocks up to the one that says it is the last. Each takes at least three bits. -/
def blocks : (bound : Nat) → Inflation Unit
  | 0 => throw .ended
  | bound + 1 => do
    let header ← number 3
    match header / 2 with
    | 0 => storedBlock
    | 1 => fixedBlock
    | 2 => describedBlock
    | _ => flaw .blockType
    if header % 2 = 0 then blocks bound

def inflate : Inflation Unit := do blocks ((← get).bits.length + 1)

end TemplatedRequests.Compression
