import TemplatedRequests.Proofs.Json.Refused

/-!
Documents that may hold finite numbers only, next to those that may hold all. Whatever is read of the
former is read alike of the latter, and a document of the latter is one of the former exactly if
reading comes to no number that is not finite.
-/

namespace TemplatedRequests.Json

inductive IsNonFiniteFault : Fault → Prop
  | constant (name) : IsNonFiniteFault (.nonFiniteConstant name)
  | outOfRange (text) : IsNonFiniteFault (.numberOutOfRange text)

section Narrows

variable {α β : Type} {x y : Except Stop α}

/-- The same result, or a number is refused that is not finite. -/
def Narrows (x y : Except Stop α) : Prop :=
  x = y ∨ ∃ fault, IsNonFiniteFault fault ∧ x = .error (.refused fault)

theorem narrows_refl (x : Except Stop α) : Narrows x x := .inl rfl

theorem narrows_refused {fault : Fault} (h : IsNonFiniteFault fault) :
    Narrows (.error (.refused fault)) y := .inr ⟨fault, h, rfl⟩

theorem Narrows.map {f : α → β} (h : Narrows x y) : Narrows (x.map f) (y.map f) := by
  obtain rfl | ⟨fault, hfault, rfl⟩ := h
  · exact narrows_refl _
  · exact narrows_refused hfault

end Narrows

section Read

variable {fuel : Nat}

theorem narrows_constant (name : String) (x : Binary64) (rest : List Char) :
    Narrows (constant .finite name x rest) (constant .all name x rest) :=
  narrows_refused (.constant name)

theorem narrows_readNumber (cs : List Char) :
    Narrows (readNumber .finite cs) (readNumber .all cs) := by
  unfold readNumber
  split
  · exact narrows_refl _
  · rename_i l r _
    cases hi : l.isInteger with
    | true =>
      have hvalue : l.value .finite = l.value .all := by simp [Literal.value, hi]
      rw [hvalue]
      exact narrows_refl _
    | false =>
      cases hx : l.toBinary64.isFinite with
      | true =>
        have hvalue : l.value .finite = l.value .all := by simp [Literal.value, hi, hx]
        rw [hvalue]
        exact narrows_refl _
      | false =>
        have hvalue : l.value .finite = .error (.numberOutOfRange l.text) := by
          simp [Literal.value, hi, hx]
        rw [hvalue]
        exact narrows_refused (.outOfRange l.text)

/-- Everything is read alike up to a number that is not finite. -/
structure ReadsNarrowly (fuel : Nat) : Prop where
  value : ∀ room cs, Narrows (readValue .finite room fuel cs) (readValue .all room fuel cs)
  items : ∀ room cs, Narrows (readItems .finite room fuel cs) (readItems .all room fuel cs)
  fields : ∀ room seen cs,
    Narrows (readFields .finite room fuel seen cs) (readFields .all room fuel seen cs)

theorem narrows_readValue_succ (h : ReadsNarrowly fuel) (room : Nat) (cs : List Char) :
    Narrows (readValue .finite room (fuel + 1) cs) (readValue .all room (fuel + 1) cs) := by
  unfold readValue
  split
  case h_2 =>
    split
    · exact narrows_refl _
    split
    · exact narrows_refl _
    · exact (h.fields _ _ _).map
  case h_3 =>
    split
    · exact narrows_refl _
    split
    · exact narrows_refl _
    · exact (h.items _ _).map
  case h_7 | h_8 | h_9 => exact narrows_constant _ _ _
  case h_10 => exact narrows_readNumber _
  all_goals exact narrows_refl _

theorem narrows_readItems_succ (h : ReadsNarrowly fuel) (room : Nat) (cs : List Char) :
    Narrows (readItems .finite room (fuel + 1) cs) (readItems .all room (fuel + 1) cs) := by
  rw [readItems, readItems]
  obtain hv | ⟨fault, hfault, hv⟩ := h.value room cs
  · rw [hv]
    split
    · exact narrows_refl _
    · split
      · exact narrows_refl _
      · exact (h.items _ _).map
      · exact narrows_refl _
  · rw [hv]
    exact narrows_refused hfault

theorem narrows_readFields_succ (h : ReadsNarrowly fuel) (room : Nat)
    (seen : List (String × Value)) (cs : List Char) :
    Narrows (readFields .finite room (fuel + 1) seen cs)
      (readFields .all room (fuel + 1) seen cs) := by
  unfold readFields
  split
  · split
    · exact narrows_refl _
    · split
      · rename_i t _
        obtain hv | ⟨fault, hfault, hv⟩ := h.value room (skipBlanks t)
        · rw [hv]
          split
          · exact narrows_refl _
          · dsimp only
            split
            · exact narrows_refl _
            · exact h.fields _ _ _
            · exact narrows_refl _
        · rw [hv]
          exact narrows_refused hfault
      · exact narrows_refl _
  · exact narrows_refl _

theorem readsNarrowly (fuel : Nat) : ReadsNarrowly fuel := by
  induction fuel with
  | zero => exact ⟨fun _ _ => narrows_refl _, fun _ _ => narrows_refl _, fun _ _ _ => narrows_refl _⟩
  | succ fuel ih =>
    exact ⟨narrows_readValue_succ ih, narrows_readItems_succ ih, narrows_readFields_succ ih⟩

theorem narrows_readDocument (cs : List Char) :
    Narrows (readDocument .finite cs) (readDocument .all cs) := by
  unfold readDocument
  split
  · exact narrows_refl _
  · obtain hv | ⟨fault, hfault, hv⟩ :=
      (readsNarrowly (2 * cs.length + 1)).value nestingLimit (skipBlanks cs)
    · rw [hv]
      exact narrows_refl _
    · rw [hv]
      exact narrows_refused hfault

variable {cs : List Char} {D : Value}

theorem read_eq_ok_iff {numbers : Numbers} :
    read numbers cs = .ok D ↔ readDocument numbers cs = .ok D := by
  rw [read]
  split <;> simp [*]

theorem isNonFinite_of_refuses {s : Spot} {fault : Fault} (h : Refuses .finite s fault)
    (hfault : IsNonFiniteFault fault) : s.IsNonFinite := by
  obtain ⟨h, hl⟩ | ⟨-, h, hl⟩ | ⟨-, h⟩ | h := h
  · cases hfault
  · exact .inl ⟨_, _, h, hl⟩
  · exact .inr ⟨_, h⟩
  · cases hfault

theorem exists_refuses_of_isNonFinite {s : Spot} (h : s.IsNonFinite) :
    ∃ fault, Refuses .finite s fault := by
  obtain ⟨room, cs⟩ := s
  obtain ⟨l, r, h, hl⟩ | ⟨name, h⟩ := h
  · exact ⟨_, .outOfRange rfl h hl⟩
  · exact ⟨_, .constant rfl h⟩

theorem read_finite_eq_ok_iff : read .finite cs = .ok D ↔
    read .all cs = .ok D ∧ ¬∃ spot, Reaches .finite cs spot ∧ spot.IsNonFinite := by
  rw [read_eq_ok_iff, read_eq_ok_iff]
  constructor
  · intro h
    refine ⟨?_, fun ⟨spot, hspot, hnot⟩ => ?_⟩
    · obtain heq | ⟨fault, -, hrefused⟩ := narrows_readDocument cs
      · exact heq ▸ h
      · cases h.symm.trans hrefused
    · obtain ⟨fault, hrefuses⟩ := exists_refuses_of_isNonFinite hnot
      cases h.symm.trans (readDocument_refused_iff.2 ⟨spot, hspot, hrefuses⟩)
  · rintro ⟨h, hnone⟩
    obtain heq | ⟨fault, hfault, hrefused⟩ := narrows_readDocument cs
    · exact heq.trans h
    · obtain ⟨spot, hspot, hrefuses⟩ := readDocument_refused_iff.1 hrefused
      exact absurd ⟨spot, hspot, isNonFinite_of_refuses hrefuses hfault⟩ hnone

end Read

end TemplatedRequests.Json
