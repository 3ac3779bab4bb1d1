import Mathlib.Logic.Basic
import TemplatedRequests.Dotenv.Cache

/-!
The file of variables that is nearest to a folder, and what it declares. The search goes up folder by
folder until a lookup there gives an answer other than that there is no file: it comes to a file, or the
lookup is refused. What is refused is not told as a failure of the file.
-/

namespace TemplatedRequests.Dotenv

/-- So many names lead from the folder down to the start folder. -/
def IsAbove (start : Path) (levels : Nat) (folder : Path) : Prop :=
  ∃ names : Path, start = folder ++ names ∧ names.length = levels

/-- The folder is less than `rounds` levels above the start folder, its file is looked up with this
answer, and no folder on fewer levels has the file. -/
structure ComesTo (isFile : Path → Except Fault Bool) (start : Path) (rounds levels : Nat)
    (folder : Path) (answer : Except Fault Bool) : Prop where
  isAbove : IsAbove start levels folder
  isReached : levels < rounds
  answered : isFile (folder ++ [fileName]) = answer
  minimal : ∀ l < levels, ∀ f, IsAbove start l f → isFile (f ++ [fileName]) = .ok false

/-- The file of the closest folder that has one. -/
def IsNearest (t : Tree) (start : Path) (parents : Int) (path : Path) : Prop :=
  ∃ levels folder, path = folder ++ [fileName] ∧
    ComesTo t.isFile start (parents + 1).toNat levels folder (.ok true)

/-- A lookup is refused before a file is met. -/
def IsObstructed (t : Tree) (start : Path) (parents : Int) : Prop :=
  ∃ levels folder fault, ComesTo t.isFile start (parents + 1).toNat levels folder (.error fault)

/-- What the nearest file says, as text in UTF-8. -/
def Declares (t : Tree) (start : Path) (parents : Int) (b : Bindings) : Prop :=
  ∃ path content text, IsNearest t start parents path ∧ t.read path = .ok content ∧
    Text.Utf8.decode content = .ok text ∧ b = (File.ofText text).values

variable {isFile : Path → Except Fault Bool} {t : Tree} {start folder path : Path} {parents : Int}
variable {rounds levels : Nat} {answer : Except Fault Bool} {fault : Fault} {b : Bindings}

section Levels

@[simp] theorem isAbove_zero_iff : IsAbove start 0 folder ↔ folder = start := by
  constructor
  · rintro ⟨names, rfl, hnames⟩
    rw [List.length_eq_zero_iff.1 hnames, List.append_nil]
  · rintro rfl
    exact ⟨[], (List.append_nil _).symm, rfl⟩

theorem isAbove_root_iff : IsAbove [] levels folder ↔ levels = 0 ∧ folder = [] := by
  constructor
  · rintro ⟨names, hnames, rfl⟩
    obtain ⟨rfl, rfl⟩ := List.append_eq_nil_iff.1 hnames.symm
    exact ⟨rfl, rfl⟩
  · rintro ⟨rfl, rfl⟩
    exact isAbove_zero_iff.2 rfl

theorem isAbove_succ_iff (h : start ≠ []) :
    IsAbove start (levels + 1) folder ↔ IsAbove start.parent levels folder := by
  obtain ⟨front, last, rfl⟩ := (List.eq_nil_or_concat start).resolve_left h
  rw [List.concat_eq_append, Path.parent, List.dropLast_concat]
  constructor
  · rintro ⟨names, hnames, hlength⟩
    have hne : names ≠ [] := List.ne_nil_of_length_eq_add_one hlength
    obtain ⟨more, name, rfl⟩ := (List.eq_nil_or_concat names).resolve_left hne
    rw [List.concat_eq_append, ← List.append_assoc] at hnames
    refine ⟨more, (List.append_inj' hnames rfl).1, ?_⟩
    simpa using hlength
  · rintro ⟨names, rfl, rfl⟩
    exact ⟨names ++ [last], List.append_assoc .., List.length_append⟩

theorem parent_eq_self_iff : start.parent = start ↔ start = [] := by
  constructor
  · intro h
    have hlength := congrArg List.length h
    rw [Path.parent, List.length_dropLast] at hlength
    exact List.length_eq_zero_iff.1 (by omega)
  · rintro rfl
    rfl

end Levels

section Rounds

theorem comesTo_succ_iff (hnone : isFile (start ++ [fileName]) = .ok false) (hstart : start ≠ []) :
    ComesTo isFile start (rounds + 1) (levels + 1) folder answer ↔
      ComesTo isFile start.parent rounds levels folder answer := by
  constructor
  · intro h
    exact ⟨(isAbove_succ_iff hstart).1 h.isAbove, Nat.lt_of_succ_lt_succ h.isReached, h.answered,
      fun l hl f hf => h.minimal (l + 1) (Nat.succ_lt_succ hl) f ((isAbove_succ_iff hstart).2 hf)⟩
  · intro h
    refine ⟨(isAbove_succ_iff hstart).2 h.isAbove, Nat.succ_lt_succ h.isReached, h.answered, ?_⟩
    intro l hl f hf
    cases l with
    | zero => rwa [isAbove_zero_iff.1 hf]
    | succ l => exact h.minimal l (Nat.lt_of_succ_lt_succ hl) f ((isAbove_succ_iff hstart).1 hf)

theorem ascend_of_comesTo (h : ComesTo isFile start rounds levels folder answer)
    (hanswer : answer ≠ .ok false) :
    ascend isFile rounds start = answer.map fun _ => some (folder ++ [fileName]) := by
  -- By induction on the rounds, with the start folder moved up.
  induction rounds generalizing start levels with
  | zero => exact absurd h.isReached (Nat.not_lt_zero levels)
  | succ rounds ih =>
    rw [ascend]
    cases levels with
    | zero =>
      obtain rfl := isAbove_zero_iff.1 h.isAbove
      rw [h.answered]
      rcases answer with fault | (_ | _)
      · rfl
      · exact absurd rfl hanswer
      · rfl
    | succ levels =>
      have hnone := h.minimal 0 (Nat.succ_pos levels) start (isAbove_zero_iff.2 rfl)
      have hstart : start ≠ [] := by
        rintro rfl
        exact Nat.succ_ne_zero levels (isAbove_root_iff.1 h.isAbove).1
      simp only [hnone, parent_eq_self_iff, if_neg hstart]
      exact ih ((comesTo_succ_iff hnone hstart).1 h)

theorem ascend_of_forall (h : ∀ levels < rounds, ∀ folder, IsAbove start levels folder →
    isFile (folder ++ [fileName]) = .ok false) : ascend isFile rounds start = .ok none := by
  induction rounds generalizing start with
  | zero => rfl
  | succ rounds ih =>
    have hnone := h 0 (Nat.succ_pos rounds) start (isAbove_zero_iff.2 rfl)
    rw [ascend]
    simp only [hnone, parent_eq_self_iff]
    split
    · rfl
    · exact ih fun l hl f hf => h (l + 1) (Nat.succ_lt_succ hl) f ((isAbove_succ_iff ‹_›).2 hf)

/-- Either no folder within reach has the file, or the search comes to one where it ends. -/
theorem forall_or_exists_comesTo (isFile : Path → Except Fault Bool) (start : Path) (rounds : Nat) :
    (∀ levels < rounds, ∀ folder, IsAbove start levels folder →
      isFile (folder ++ [fileName]) = .ok false) ∨
    ∃ levels folder answer, answer ≠ .ok false ∧ ComesTo isFile start rounds levels folder answer := by
  refine or_iff_not_imp_right.2 fun hnowhere levels => ?_
  -- By strong induction, the search would come to a folder on these levels with any other answer.
  induction levels using Nat.strongRecOn with
  | ind levels ih =>
    intro hreached folder habove
    exact Classical.byContradiction fun hanswer => hnowhere ⟨levels, folder, _, hanswer, habove,
      hreached, rfl, fun l hl => ih l hl (Nat.lt_trans hl hreached)⟩

theorem ascend_eq_some_iff : ascend isFile rounds start = .ok (some path) ↔
    ∃ levels folder, path = folder ++ [fileName] ∧
      ComesTo isFile start rounds levels folder (.ok true) := by
  constructor
  · intro h
    obtain hnone | ⟨levels, folder, answer, hanswer, hcomes⟩ :=
      forall_or_exists_comesTo isFile start rounds
    · rw [ascend_of_forall hnone] at h
      cases h
    · rw [ascend_of_comesTo hcomes hanswer] at h
      rcases answer with fault | (_ | _)
      · cases h
      · exact absurd rfl hanswer
      · cases h
        exact ⟨levels, folder, rfl, hcomes⟩
  · rintro ⟨levels, folder, rfl, hcomes⟩
    exact ascend_of_comesTo hcomes (by simp)

theorem ascend_eq_error_iff : ascend isFile rounds start = .error fault ↔
    ∃ levels folder, ComesTo isFile start rounds levels folder (.error fault) := by
  constructor
  · intro h
    obtain hnone | ⟨levels, folder, answer, hanswer, hcomes⟩ :=
      forall_or_exists_comesTo isFile start rounds
    · rw [ascend_of_forall hnone] at h
      cases h
    · rw [ascend_of_comesTo hcomes hanswer] at h
      cases answer with
      | error problem =>
        cases h
        exact ⟨levels, folder, hcomes⟩
      | ok _ => cases h
  · rintro ⟨levels, folder, hcomes⟩
    exact ascend_of_comesTo hcomes (by simp)

theorem ascend_eq_none_iff : ascend isFile rounds start = .ok none ↔
    ∀ levels < rounds, ∀ folder, IsAbove start levels folder →
      isFile (folder ++ [fileName]) = .ok false := by
  refine ⟨fun h => ?_, ascend_of_forall⟩
  refine (forall_or_exists_comesTo isFile start rounds).resolve_right ?_
  rintro ⟨levels, folder, answer, hanswer, hcomes⟩
  rw [ascend_of_comesTo hcomes hanswer] at h
  cases answer <;> cases h

end Rounds

section Find

theorem find_eq_ok_iff : find t (some start) parents = .ok path ↔ IsNearest t start parents path := by
  rw [IsNearest, ← ascend_eq_some_iff, find]
  rcases ascend t.isFile (parents + 1).toNat start with fault | (_ | path) <;> simp

theorem report?_of_isFile (h : t.isFile path = .error fault) : fault.report? = none := by
  unfold Tree.isFile at h
  split at h <;> cases h
  rfl

/-- That there is no file is told exactly where no lookup is refused. -/
theorem find_eq_error_iff : find t (some start) parents = .error fault ↔
    fault = .dotenvMissing ∧ (∀ levels < (parents + 1).toNat, ∀ folder, IsAbove start levels folder →
      t.isFile (folder ++ [fileName]) = .ok false) ∨
    ∃ levels folder, ComesTo t.isFile start (parents + 1).toNat levels folder (.error fault) := by
  rw [← ascend_eq_none_iff, ← ascend_eq_error_iff, find]
  rcases ascend t.isFile (parents + 1).toNat start with problem | (_ | path) <;> simp [eq_comm]

theorem report?_of_find (h : find t (some start) parents = .error fault) :
    (fault.report? = none ∧ IsObstructed t start parents) ∨
      fault = .dotenvMissing ∧ ¬IsObstructed t start parents := by
  obtain ⟨rfl, hnone⟩ | ⟨levels, folder, hcomes⟩ := find_eq_error_iff.1 h
  · refine .inr ⟨rfl, ?_⟩
    rintro ⟨levels, folder, fault, hcomes⟩
    cases hcomes.answered.symm.trans (hnone levels hcomes.isReached folder hcomes.isAbove)
  · exact .inl ⟨report?_of_isFile hcomes.answered, levels, folder, fault, hcomes⟩

theorem not_isObstructed_of_isNearest (h : IsNearest t start parents path) :
    ¬IsObstructed t start parents := by
  rintro ⟨levels, folder, fault, hcomes⟩
  have hfound := find_eq_ok_iff.2 h
  rw [find_eq_error_iff.2 (.inr ⟨levels, folder, hcomes⟩)] at hfound
  cases hfound

end Find

theorem load_eq_ok_iff : load t start parents = .ok b ↔ Declares t start parents b := by
  unfold load Declares Tree.text
  simp only [← find_eq_ok_iff]
  cases find t (some start) parents with
  | error fault => simp
  | ok path =>
    cases hread : t.read path with
    | error obstacle => simp [hread]
    | ok content => cases htext : Text.Utf8.decode content <;> simp [hread, htext, eq_comm]

theorem report?_of_load (h : load t start parents = .error fault) :
    (fault.report? = none ∧ IsObstructed t start parents) ∨
      (∃ detail, fault.report? = some ⟨.dotenvError, detail⟩) ∧ ¬IsObstructed t start parents := by
  unfold load at h
  cases hfind : find t (some start) parents with
  | error problem =>
    rw [hfind] at h
    cases h
    refine (report?_of_find hfind).imp_right ?_
    rintro ⟨rfl, hfree⟩
    exact ⟨⟨_, rfl⟩, hfree⟩
  | ok path =>
    rw [hfind] at h
    refine .inr ⟨?_, not_isObstructed_of_isNearest (find_eq_ok_iff.1 hfind)⟩
    cases htext : t.text path with
    | error problem =>
      simp only [htext] at h
      cases h
      exact ⟨_, rfl⟩
    | ok text => simp [htext] at h

theorem report?_of_load_iff (h : load t start parents = .error fault) :
    (∃ detail, fault.report? = some ⟨.dotenvError, detail⟩) ↔ ¬IsObstructed t start parents := by
  obtain ⟨hnone, hobstructed⟩ | ⟨hreport, hfree⟩ := report?_of_load h
  · refine iff_of_false ?_ (not_not_intro hobstructed)
    rintro ⟨detail, hdetail⟩
    cases hnone.symm.trans hdetail
  · exact iff_of_true hreport hfree

end TemplatedRequests.Dotenv
