import TemplatedRequests.Text.Hex

/-!
Random numbers from a seed, and random identifiers made of them.
-/

namespace TemplatedRequests

structure Generator where
  state : Nat

namespace Generator

def wordSize : Nat := 1 <<< 64

/-- The upper half of a state is its random part. -/
def next (g : Generator) : Nat × Generator :=
  let state := (g.state * 6364136223846793005 + 1442695040888963407) % wordSize
  (state >>> 32, ⟨state⟩)

/-- A number made of `n` draws of 32 bits each. -/
def draws : (n : Nat) → Generator → Nat × Generator
  | 0, g => (0, g)
  | n + 1, g =>
    let (high, g) := draws n g
    let (low, g) := g.next
    ((high <<< 32) + low, g)

def below (g : Generator) (bound : Nat) : Nat × Generator :=
  let (n, g) := draws (Nat.log2 bound / 32 + 2) g
  (n % bound, g)

def between (g : Generator) (low high : Int) : Int × Generator :=
  let (n, g) := g.below (high - low + 1).toNat
  (low + n, g)

/-- Hexadecimal digits in groups of 8, 4, 4, 4 and 12; the third group starts with the version, 4,
and the fourth with one of 8, 9, a and b. -/
def guid (g : Generator) : String × Generator :=
  let (n, g) := g.below (1 <<< 122)
  let first := Text.hex 8 n
  let second := Text.hex 4 (n >>> 32)
  let third := Text.hex 3 (n >>> 48)
  let fourth := Text.hex 4 (0x8000 + (n >>> 60) % 0x4000)
  let last := Text.hex 12 (n >>> 74)
  (String.ofList (first ++ '-' :: second ++ '-' :: '4' :: third ++ '-' :: fourth ++ '-' :: last), g)

end Generator

end TemplatedRequests
