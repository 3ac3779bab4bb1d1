import TemplatedRequests.Json.Path
import TemplatedRequests.Proofs.Numeral.Written

/-!
Paths as they are written, and what it takes for a written path to be read as it was meant.
-/

namespace TemplatedRequests.Json

def Step.chars : Step → List Char
  | .field name => '.' :: name.toList
  | .index n => '[' :: (toString n).toList ++ [']']

/-- A root sign, then a point before each name and brackets around each index. -/
def Path.render (path : Path) : String := String.ofList ('$' :: path.flatMap Step.chars)

/-- A name is not empty and holds nothing that would end it; an index is not too long. -/
def Step.IsWritable : Step → Prop
  | .field name => name ≠ "" ∧ '.' ∉ name.toList ∧ '[' ∉ name.toList
  | .index n => (toString n).toList.length ≤ Numeral.digitLimit

/-- A name at the end does not end in a blank. -/
structure Path.IsWritable (path : Path) : Prop where
  step : ∀ s ∈ path, s.IsWritable
  last : ∀ name c, path.getLast? = some (.field name) → name.toList.getLast? = some c →
    Text.isBlank c = false

def Step.part : Step → Part
  | .field name => .name name.toList
  | .index n => .brackets (toString n).toList

section Digits

theorem isBlank_eq_false_of_digit {c : Char} (h : 48 ≤ c.toNat ∧ c.toNat ≤ 57) :
    Text.isBlank c = false :=
  Text.isBlank_eq_false_of_range (by decide) h.1 h.2

theorem isIndex_toString (n : Nat) : isIndex (toString n).toList = true := by
  have hne : (toString n).toList ≠ [] := by
    rw [Numeral.toList_toString]
    exact Nat.toDigits_ne_nil
  have hall : ∀ c ∈ (toString n).toList, '0' ≤ c ∧ c ≤ '9' := fun c hc =>
    Numeral.digit_of_mem_toString hc
  simpa [isIndex, hne] using hall

theorem trim_toString (n : Nat) : Text.trim (toString n).toList = (toString n).toList := by
  refine Text.trim_eq_self_iff.2 ⟨fun c hc => ?_, fun c hc => ?_⟩
  · exact isBlank_eq_false_of_digit (Numeral.digit_of_mem_toString (List.mem_of_mem_head? hc))
  · exact isBlank_eq_false_of_digit (Numeral.digit_of_mem_toString (List.mem_of_mem_getLast? hc))

end Digits

section Parts

variable {begun cs rest : List Char} {path : Path}

theorem ofName_of_ne_nil (h : cs ≠ []) : Part.ofName cs = [.name cs] := by
  cases cs with
  | nil => exact absurd rfl h
  | cons c cs => rfl

theorem partsAfter_append (hpoint : '.' ∉ cs) (hbracket : '[' ∉ cs) :
    partsAfter begun (cs ++ rest) = partsAfter (begun ++ cs) rest := by
  induction cs generalizing begun with
  | nil => rw [List.nil_append, List.append_nil]
  | cons c cs ih =>
    obtain ⟨hp, hpoint⟩ := not_or.1 (mt List.mem_cons.2 hpoint)
    obtain ⟨hb, hbracket⟩ := not_or.1 (mt List.mem_cons.2 hbracket)
    rw [List.cons_append, partsAfter, if_neg (Ne.symm hp), if_neg (Ne.symm hb),
      ih hpoint hbracket, List.append_assoc, List.singleton_append]

theorem partsIn_append (h : ']' ∉ cs) :
    partsIn begun (cs ++ ']' :: rest) = .brackets (begun ++ cs) :: partsAfter [] rest := by
  induction cs generalizing begun with
  | nil => rw [List.nil_append, List.append_nil, partsIn, if_pos rfl]
  | cons c cs ih =>
    obtain ⟨hc, hcs⟩ := not_or.1 (mt List.mem_cons.2 h)
    rw [List.cons_append, partsIn, if_neg (Ne.symm hc), ih hcs, List.append_assoc,
      List.singleton_append]

theorem closing_not_mem_toString (n : Nat) : ']' ∉ (toString n).toList := fun h => by
  have := Numeral.digit_of_mem_toString h
  revert this
  decide

theorem partsAfter_flatMap (h : ∀ s ∈ path, s.IsWritable) :
    partsAfter begun (path.flatMap Step.chars) = Part.ofName begun ++ path.map Step.part := by
  induction path generalizing begun with
  | nil => rw [List.flatMap_nil, partsAfter, List.map_nil, List.append_nil]
  | cons s path ih =>
    obtain ⟨hs, hpath⟩ := List.forall_mem_cons.1 h
    rw [List.flatMap_cons, List.map_cons]
    cases s with
    | field name =>
      obtain ⟨hne, hpoint, hbracket⟩ := hs
      have hname : name.toList ≠ [] := by simpa using hne
      rw [Step.chars, List.cons_append, partsAfter, if_pos rfl,
        partsAfter_append hpoint hbracket, ih hpath, List.nil_append, ofName_of_ne_nil hname]
      rfl
    | index n =>
      have hne : '[' ≠ '.' := by decide
      rw [Step.chars, List.append_assoc, List.cons_append, partsAfter, if_neg hne, if_pos rfl,
        List.singleton_append, partsIn_append (closing_not_mem_toString n), ih hpath]
      rfl

theorem partsAfter_dropRoot (cs : List Char) :
    partsAfter [] (dropRoot ('$' :: cs)) = partsAfter [] cs := by
  rcases cs with _ | ⟨c, cs⟩
  · rfl
  · by_cases hc : c = '.'
    · subst hc
      conv => rhs; rw [partsAfter, if_pos rfl]
      rfl
    · have hdrop : dropRoot ('$' :: c :: cs) = c :: cs := by
        simp only [dropRoot]
        split
        · rename_i heq
          exact absurd (List.cons.inj heq).1 hc
        · rfl
      rw [hdrop]

end Parts

section Steps

variable {s : Step} {path : Path}

theorem step?_part (h : s.IsWritable) : s.part.step? = .ok (some s) := by
  cases s with
  | field name => simp [Step.part, Part.step?]
  | index n =>
    have hlength : (toString n).toList.length ≤ Numeral.digitLimit := h
    simp only [Step.part, Part.step?, trim_toString, isIndex_toString, if_true, Numeral.limited,
      List.length_map, hlength, Numeral.ofDigits_toString]
    rfl

theorem filterMapM_step? (h : ∀ s ∈ path, s.IsWritable) :
    (path.map Step.part).filterMapM Part.step? = .ok path := by
  induction path with
  | nil => rfl
  | cons s path ih =>
    obtain ⟨hs, hpath⟩ := List.forall_mem_cons.1 h
    rw [List.map_cons, List.filterMapM_cons, step?_part hs, ih hpath]
    rfl

theorem getLast?_render_append (path : Path) (s : Step) :
    (Path.render (path ++ [s])).toList.getLast? = s.chars.getLast? := by
  obtain ⟨c, cs, hs⟩ : ∃ c cs, s.chars = c :: cs := by
    cases s <;> exact ⟨_, _, rfl⟩
  rw [Path.render, String.toList_ofList, List.flatMap_append, List.flatMap_singleton, hs,
    ← List.cons_append, List.getLast?_append, List.getLast?_cons, Option.some_or]

theorem trim_render (h : path.IsWritable) : Text.trim path.render.toList = path.render.toList := by
  refine Text.trim_eq_self_iff.2 ⟨fun c hc => ?_, fun c hc => ?_⟩
  · rw [Path.render, String.toList_ofList] at hc
    cases hc
    decide
  · rcases List.eq_nil_or_concat path with rfl | ⟨front, s, rfl⟩
    · cases hc
      decide
    · rw [List.concat_eq_append] at h hc
      rw [getLast?_render_append] at hc
      cases s with
      | field name =>
        have hname : name.toList ≠ [] := by simpa using (h.step (.field name) (by simp)).1
        rw [Step.chars, List.getLast?_cons_of_ne_nil hname] at hc
        exact h.last name c (by simp) hc
      | index n =>
        rw [Step.chars, List.getLast?_concat] at hc
        cases hc
        decide

theorem parse_render (h : path.IsWritable) : Path.parse path.render.toList = .ok path := by
  rw [Path.parse, trim_render h, Path.render, String.toList_ofList, partsAfter_dropRoot,
    partsAfter_flatMap h.step]
  exact filterMapM_step? h.step

end Steps

end TemplatedRequests.Json
