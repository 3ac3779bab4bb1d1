import Mathlib.Data.Nat.Init
import TemplatedRequests.Json.Reader

/-!
Reading a value, the items of an array and the fields of an object off the front of a text, without
fuel. What is read takes characters, so the fuel that a text is given is enough, and more of it
changes nothing.
-/

namespace TemplatedRequests.Json

theorem length_skipBlanks (cs : List Char) : (skipBlanks cs).length ≤ cs.length :=
  (List.dropWhile_sublist _).length_le

section Shortens

variable {α β : Type} {n : Nat} {x : Except Stop (α × List Char)}

/-- What is left after something was read, if anything was, is shorter than `n`. -/
def Shortens (n : Nat) (x : Except Stop (α × List Char)) : Prop :=
  ∀ a r, x = .ok (a, r) → r.length < n

theorem shortens_ok {a : α} {r : List Char} (h : r.length < n) : Shortens n (.ok (a, r)) := by
  rintro _ _ ⟨⟩
  exact h

theorem shortens_error (stop : Stop) : Shortens (α := α) n (.error stop) := nofun

theorem Shortens.mono {m : Nat} (hx : Shortens m x) (h : m ≤ n) : Shortens n x :=
  fun a r hr => Nat.lt_of_lt_of_le (hx a r hr) h

theorem Shortens.map {f : α → β} (hx : Shortens n x) : Shortens n (x.map fun p => (f p.1, p.2)) := by
  rcases x with stop | ⟨a, r⟩
  · exact shortens_error stop
  · exact shortens_ok (hx a r rfl)

end Shortens

section Scalars

variable {numbers : Numbers} {cs r : List Char}

theorem shortens_readString (start cs : List Char) : Shortens cs.length (readString start cs) := by
  fun_induction readString start cs with
  | case1 | case3 | case4 | case6 | case8 => exact shortens_error _
  | case2 r => exact shortens_ok (by simp)
  | case5 r c r' hcode ih =>
    have := length_readCode hcode
    exact ih.map.mono (by simp only [List.length_cons]; omega)
  | case7 e r _ c _ ih => exact ih.map.mono (by simp only [List.length_cons]; omega)
  | case9 c r _ _ _ _ _ ih => exact ih.map.mono (by simp)

theorem length_wholePart (cs : List Char) :
    (wholePart cs).1.length + (wholePart cs).2.length = cs.length := by
  unfold wholePart
  split
  · simp [Nat.add_comm]
  · rw [← List.length_append, List.takeWhile_append_dropWhile]

theorem length_fractionPart (cs : List Char) : (fractionPart cs).2.length ≤ cs.length := by
  unfold fractionPart
  split
  · split
    · exact Nat.le_refl _
    · exact ((List.dropWhile_sublist _).cons _).length_le
  · exact Nat.le_refl _

theorem length_powerSignPart (cs : List Char) : (powerSignPart cs).2.length ≤ cs.length := by
  unfold powerSignPart
  split
  all_goals try split
  all_goals simp only [List.length_cons, List.length_nil]; omega

theorem length_powerPart (cs : List Char) : (powerPart cs).2.length ≤ cs.length := by
  unfold powerPart
  dsimp only
  split
  · exact Nat.le_refl _
  · exact Nat.le_trans (List.dropWhile_sublist _).length_le (length_powerSignPart cs)

theorem length_readLiteral? {l : Literal} (h : readLiteral? cs = some (l, r)) :
    r.length < cs.length := by
  unfold readLiteral? at h
  split at h
  rename_i negative unsigned hu
  have hunsigned : unsigned.length ≤ cs.length := by
    split at hu <;> cases hu
    · simp
    · exact Nat.le_refl _
  dsimp only at h
  split at h <;> cases h
  rename_i hne
  have hwhole := List.length_pos_iff.2 (List.isEmpty_eq_false_iff.1 (Bool.eq_false_iff.2 hne))
  have := length_wholePart unsigned
  have := length_fractionPart (wholePart unsigned).2
  have := length_powerPart (fractionPart (wholePart unsigned).2).2
  omega

theorem shortens_readNumber (cs : List Char) : Shortens cs.length (readNumber numbers cs) := by
  unfold readNumber
  split
  · exact shortens_error _
  · rename_i l r hl
    split
    · exact shortens_error _
    · exact shortens_ok (length_readLiteral? hl)

theorem shortens_constant {n : Nat} (name : String) (x : Binary64) (h : r.length < n) :
    Shortens n (constant numbers name x r) := by
  unfold constant
  split
  · exact shortens_error _
  · exact shortens_ok h

end Scalars

section Fuel

variable {numbers : Numbers} {fuel room : Nat} {cs r : List Char}

/-- Only what opens an object or an array is read further than by its own characters. -/
theorem readValue_cases (cs : List Char) :
    (∃ r, cs = '{' :: r) ∨ (∃ r, cs = '[' :: r) ∨
      ∀ numbers room fuel fuel', readValue numbers room (fuel + 1) cs =
        readValue numbers 0 (fuel' + 1) cs := by
  unfold readValue
  split
  · exact .inr (.inr fun _ _ _ _ => rfl)
  · exact .inl ⟨_, rfl⟩
  · exact .inr (.inl ⟨_, rfl⟩)
  all_goals exact .inr (.inr fun _ _ _ _ => rfl)

/-- Whatever is read takes characters. -/
structure ReadsShortening (numbers : Numbers) (fuel : Nat) : Prop where
  value : ∀ room cs, Shortens cs.length (readValue numbers room fuel cs)
  items : ∀ room cs, Shortens cs.length (readItems numbers room fuel cs)
  fields : ∀ room seen cs, Shortens cs.length (readFields numbers room fuel seen cs)

theorem length_of_skipBlanks {c : Char} (h : skipBlanks cs = c :: r) : r.length < cs.length := by
  have := length_skipBlanks cs
  rw [h] at this
  exact this

theorem length_skipBlanks_past {c : Char} (h : skipBlanks cs = c :: r) :
    (skipBlanks r).length < cs.length :=
  Nat.lt_of_le_of_lt (length_skipBlanks r) (length_of_skipBlanks h)

theorem shortens_readValue_succ (h : ReadsShortening numbers fuel) (room : Nat) (cs : List Char) :
    Shortens cs.length (readValue numbers room (fuel + 1) cs) := by
  unfold readValue
  split
  · rename_i r
    have htext := shortens_readString ('"' :: r) r
    exact (htext.map (f := fun cs => Value.text (String.ofList cs))).mono (Nat.le_succ _)
  · rename_i r
    have := length_skipBlanks r
    split
    · exact shortens_error _
    split
    · rename_i hclosed
      exact shortens_ok (Nat.lt_succ_of_lt (length_of_skipBlanks hclosed))
    · exact (h.fields _ _ _).map.mono (by simp only [List.length_cons]; omega)
  · rename_i r
    have := length_skipBlanks r
    split
    · exact shortens_error _
    split
    · rename_i hclosed
      exact shortens_ok (Nat.lt_succ_of_lt (length_of_skipBlanks hclosed))
    · exact (h.items _ _).map.mono (by simp only [List.length_cons]; omega)
  all_goals first
    | exact shortens_ok (by simp only [List.length_cons]; omega)
    | exact shortens_constant _ _ (by simp only [List.length_cons]; omega)
    | exact shortens_readNumber _

theorem shortens_readItems_succ (h : ReadsShortening numbers fuel) (room : Nat) (cs : List Char) :
    Shortens cs.length (readItems numbers room (fuel + 1) cs) := by
  unfold readItems
  split
  · exact shortens_error _
  · rename_i v r hv
    have hlength := h.value room cs v r hv
    split
    · rename_i s hclosed
      exact shortens_ok (Nat.lt_trans (length_of_skipBlanks hclosed) hlength)
    · rename_i s hcomma
      have := length_skipBlanks_past hcomma
      exact (h.items _ _).map.mono (by omega)
    · exact shortens_error _

theorem shortens_readFields_succ (h : ReadsShortening numbers fuel) (room : Nat)
    (seen : List (String × Value)) (cs : List Char) :
    Shortens cs.length (readFields numbers room (fuel + 1) seen cs) := by
  unfold readFields
  split
  · rename_i r
    split
    · exact shortens_error _
    · rename_i name s hname
      have := shortens_readString _ r name s hname
      split
      · rename_i t hcolon
        have := length_skipBlanks_past hcolon
        split
        · exact shortens_error _
        · rename_i v u hv
          have := h.value room (skipBlanks t) v u hv
          dsimp only
          split
          · rename_i w hclosed
            have := length_of_skipBlanks hclosed
            exact shortens_ok (by simp only [List.length_cons]; omega)
          · rename_i w hcomma
            have := length_skipBlanks_past hcomma
            exact (h.fields _ _ _).mono (by simp only [List.length_cons]; omega)
          · exact shortens_error _
      · exact shortens_error _
  · exact shortens_error _

theorem readsShortening (numbers : Numbers) (fuel : Nat) : ReadsShortening numbers fuel := by
  induction fuel with
  | zero =>
    refine ⟨fun _ _ => ?_, fun _ _ => ?_, fun _ _ _ => ?_⟩
    · exact shortens_error _
    · exact shortens_error _
    · exact shortens_error _
  | succ fuel ih =>
    exact ⟨shortens_readValue_succ ih, shortens_readItems_succ ih, shortens_readFields_succ ih⟩

/-- Texts that are short for the fuel are read in the same way with more of it. -/
structure ReadsSteadily (numbers : Numbers) (fuel : Nat) : Prop where
  value : ∀ room cs, 2 * cs.length + 1 ≤ fuel →
    readValue numbers room (fuel + 1) cs = readValue numbers room fuel cs
  items : ∀ room cs, 2 * cs.length + 2 ≤ fuel →
    readItems numbers room (fuel + 1) cs = readItems numbers room fuel cs
  fields : ∀ room seen cs, 2 * cs.length + 2 ≤ fuel →
    readFields numbers room (fuel + 1) seen cs = readFields numbers room fuel seen cs

theorem readValue_steady_succ (h : ReadsSteadily numbers fuel) (room : Nat) (cs : List Char)
    (hfuel : 2 * cs.length + 1 ≤ fuel + 1) :
    readValue numbers room (fuel + 1 + 1) cs = readValue numbers room (fuel + 1) cs := by
  obtain ⟨r, rfl⟩ | ⟨r, rfl⟩ | hscalar := readValue_cases cs
  · have := length_skipBlanks r
    rw [List.length_cons] at hfuel
    rw [readValue, readValue]
    split
    · rfl
    split
    · rfl
    · rw [h.fields _ _ _ (by omega)]
  · have := length_skipBlanks r
    rw [List.length_cons] at hfuel
    rw [readValue, readValue]
    split
    · rfl
    split
    · rfl
    · rw [h.items _ _ (by omega)]
  · rw [hscalar numbers room (fuel + 1) 0, hscalar numbers room fuel 0]

theorem readItems_steady_succ (h : ReadsSteadily numbers fuel) (room : Nat) (cs : List Char)
    (hfuel : 2 * cs.length + 2 ≤ fuel + 1) :
    readItems numbers room (fuel + 1 + 1) cs = readItems numbers room (fuel + 1) cs := by
  rw [readItems, readItems, h.value _ _ (by omega)]
  cases hv : readValue numbers room fuel cs with
  | error stop => rfl
  | ok p =>
    obtain ⟨v, r⟩ := p
    have := (readsShortening numbers fuel).value room cs v r hv
    dsimp only
    split
    · rfl
    · rename_i s hcomma
      have := length_skipBlanks_past hcomma
      rw [h.items _ _ (by omega)]
    · rfl

theorem readFields_steady_succ (h : ReadsSteadily numbers fuel) (room : Nat)
    (seen : List (String × Value)) (cs : List Char) (hfuel : 2 * cs.length + 2 ≤ fuel + 1) :
    readFields numbers room (fuel + 1 + 1) seen cs = readFields numbers room (fuel + 1) seen cs := by
  unfold readFields
  split
  · rename_i r
    rw [List.length_cons] at hfuel
    split
    · rfl
    · rename_i name s hname
      have := shortens_readString _ r name s hname
      split
      · rename_i t hcolon
        have := length_skipBlanks_past hcolon
        rw [h.value _ _ (by omega)]
        cases hv : readValue numbers room fuel (skipBlanks t) with
        | error stop => rfl
        | ok p =>
          obtain ⟨v, u⟩ := p
          have := (readsShortening numbers fuel).value room _ v u hv
          dsimp only
          split
          · rfl
          · rename_i w hcomma
            have := length_skipBlanks_past hcomma
            rw [h.fields _ _ _ (by omega)]
          · rfl
      · rfl
  · rfl

theorem readsSteadily (numbers : Numbers) (fuel : Nat) : ReadsSteadily numbers fuel := by
  induction fuel with
  | zero => exact ⟨nofun, nofun, nofun⟩
  | succ fuel ih =>
    exact ⟨readValue_steady_succ ih, readItems_steady_succ ih, readFields_steady_succ ih⟩

def takeValue (numbers : Numbers) (room : Nat) (cs : List Char) : Except Stop (Value × List Char) :=
  readValue numbers room (2 * cs.length + 1) cs

def takeItems (numbers : Numbers) (room : Nat) (cs : List Char) :
    Except Stop (List Value × List Char) :=
  readItems numbers room (2 * cs.length + 2) cs

def takeFields (numbers : Numbers) (room : Nat) (seen : List (String × Value)) (cs : List Char) :
    Except Stop (List (String × Value) × List Char) :=
  readFields numbers room (2 * cs.length + 2) seen cs

theorem readValue_eq_takeValue (h : 2 * cs.length + 1 ≤ fuel) :
    readValue numbers room fuel cs = takeValue numbers room cs := by
  induction fuel, h using Nat.le_induction with
  | base => rfl
  | succ fuel h ih => rw [(readsSteadily numbers fuel).value room cs h, ih]

theorem readItems_eq_takeItems (h : 2 * cs.length + 2 ≤ fuel) :
    readItems numbers room fuel cs = takeItems numbers room cs := by
  induction fuel, h using Nat.le_induction with
  | base => rfl
  | succ fuel h ih => rw [(readsSteadily numbers fuel).items room cs h, ih]

theorem readFields_eq_takeFields {seen : List (String × Value)} (h : 2 * cs.length + 2 ≤ fuel) :
    readFields numbers room fuel seen cs = takeFields numbers room seen cs := by
  induction fuel, h using Nat.le_induction with
  | base => rfl
  | succ fuel h ih => rw [(readsSteadily numbers fuel).fields room seen cs h, ih]

theorem shortens_takeValue (room : Nat) (cs : List Char) :
    Shortens cs.length (takeValue numbers room cs) :=
  (readsShortening numbers _).value room cs

end Fuel

end TemplatedRequests.Json
