import TemplatedRequests.Text.Utf8

/-!
Bytes that were written from characters are read as these characters, without a flaw.
-/

namespace TemplatedRequests.Text.Utf8

theorem readTails_tail {n bits low high t : Nat} (ht : t < 64) (hlow : low ≤ 0x80 + t)
    (hhigh : 0x80 + t ≤ high) (r : List UInt8) :
    readTails (n + 1) bits low high (UInt8.ofNat (0x80 + t) :: r) =
      ((readTails n (bits * 64 + t) 0x80 0xbf r).1, (readTails n (bits * 64 + t) 0x80 0xbf r).2 + 1) := by
  have hbyte : (UInt8.ofNat (0x80 + t)).toNat = 0x80 + t := by
    rw [UInt8.toNat_ofNat']
    omega
  rw [readTails, hbyte, if_pos ⟨hlow, hhigh⟩, Nat.add_sub_cancel_left]

theorem readTails_zero {n : Nat} {c : Char} (h : n = c.toNat) (low high : Nat) (r : List UInt8) :
    readTails 0 n low high r = (.ok c, 0) := by
  rw [readTails, h, Char.ofNat_toNat]

section Lead

variable {q : Nat}

theorem lead?_one (h : q < 0x80) : lead? q = some ⟨0, q, 0x80, 0xbf⟩ := by
  rw [lead?, if_pos h]

theorem lead?_two (hlow : 2 ≤ q) (hhigh : q < 0x20) :
    lead? (0xc0 + q) = some ⟨1, q, 0x80, 0xbf⟩ := by
  grind [lead?]

/-- The second of three bytes leaves out overlong forms and surrogates. -/
theorem lead?_three (h : q < 0x10) : lead? (0xe0 + q) =
    some ⟨2, q, if q = 0 then 0xa0 else 0x80, if q = 0xd then 0x9f else 0xbf⟩ := by
  grind [lead?]

/-- The second of four bytes leaves out overlong forms and what lies past the last code point. -/
theorem lead?_four (h : q < 5) : lead? (0xf0 + q) =
    some ⟨3, q, if q = 0 then 0x90 else 0x80, if q = 4 then 0x8f else 0xbf⟩ := by
  grind [lead?]

end Lead

theorem readChar_encodeChar (c : Char) (rest : List UInt8) : ∃ b r, encodeChar c = b :: r ∧
    readChar b (r ++ rest) = (.ok c, r.length) := by
  have hvalid : c.toNat < 0xd800 ∨ 0xdfff < c.toNat ∧ c.toNat < 0x110000 := c.valid
  have hbyte : ∀ n < 256, (UInt8.ofNat n).toNat = n := fun n hn => by
    rw [UInt8.toNat_ofNat']
    omega
  unfold encodeChar
  dsimp only
  split
  · refine ⟨_, [], rfl, ?_⟩
    rw [readChar, hbyte _ (by omega), lead?_one (by omega)]
    exact readTails_zero rfl _ _ _
  split
  · refine ⟨_, _, rfl, ?_⟩
    rw [readChar, hbyte _ (by omega), lead?_two (by omega) (by omega)]
    simp only [List.cons_append]
    rw [readTails_tail (by omega) (by omega) (by omega), readTails_zero (c := c) (by omega)]
    rfl
  split
  · refine ⟨_, _, rfl, ?_⟩
    rw [readChar, hbyte _ (by omega), lead?_three (by omega)]
    simp only [List.cons_append]
    rw [readTails_tail (by omega) (by split <;> omega) (by split <;> omega),
      readTails_tail (by omega) (by omega) (by omega), readTails_zero (c := c) (by omega)]
    rfl
  · refine ⟨_, _, rfl, ?_⟩
    rw [readChar, hbyte _ (by omega), lead?_four (by omega)]
    simp only [List.cons_append]
    rw [readTails_tail (by omega) (by split <;> omega) (by split <;> omega),
      readTails_tail (by omega) (by omega) (by omega),
      readTails_tail (by omega) (by omega) (by omega), readTails_zero (c := c) (by omega)]
    rfl

theorem decodeFrom_encode (offset : Nat) (cs : List Char) : decodeFrom offset (encode cs) = .ok cs := by
  induction cs generalizing offset with
  | nil => rw [encode_nil, decodeFrom]
  | cons c cs ih =>
    obtain ⟨b, r, hc, hread⟩ := readChar_encodeChar c (encode cs)
    rw [encode_cons, hc, List.cons_append, decodeFrom, hread]
    simp [ih]
    rfl

theorem decode_encode (cs : List Char) : decode (encode cs) = .ok cs := decodeFrom_encode 0 cs

end TemplatedRequests.Text.Utf8
