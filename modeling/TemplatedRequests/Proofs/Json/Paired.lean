import TemplatedRequests.Json.Reader
import TemplatedRequests.Text.Utf8

/-!
Texts in which every surrogate that is escaped belongs to a pair. A string has no place for one that
stands alone, and the reader replaces it.
-/

namespace TemplatedRequests.Json

def codeAt? : List Char → Option Nat
  | 'u' :: a :: b :: c :: d :: _ => hexFour? a b c d
  | _ => none

/-- So many characters are skipped, and then the second half of a pair follows where the first one
was escaped just before, and nowhere else. -/
def isPairedFrom : (skip : Nat) → (high : Bool) → List Char → Bool
  | _, high, [] => !high
  | skip + 1, high, _ :: r => isPairedFrom skip high r
  | 0, high, c :: r =>
    if c = '\\' then match codeAt? r with
      | some n => high == isLowSurrogate n && isPairedFrom 5 (isHighSurrogate n) r
      | none => !high && isPairedFrom 1 false r
    else !high && isPairedFrom 0 false r

/-- Every escape of a surrogate is the first or the second half of a pair. -/
def isPaired (text : List Char) : Bool := isPairedFrom 0 false text

example : isPaired ['\\', 'u', 'd', '8', '3', 'd', '\\', 'u', 'd', 'e', '0', '0'] = true := by cbv

example : isPaired ['\\', 'u', 'd', '8', '3', 'd'] = false := by cbv

/-- A body that is a text has its surrogates in pairs. -/
def IsPairedBody (body : List UInt8) : Prop :=
  ∀ text, Text.Utf8.decode body = .ok text → isPaired text = true

theorem isPairedBody_nil : IsPairedBody [] := by
  intro text h
  rw [Text.Utf8.decode_nil] at h
  cases h
  rfl

end TemplatedRequests.Json
