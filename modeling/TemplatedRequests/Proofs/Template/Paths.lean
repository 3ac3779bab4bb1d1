import Mathlib.Data.List.Induction
import Mathlib.Data.List.Lex
import TemplatedRequests.Proofs.Template.Expansion

/-!
Paths of names, from a text through the values that it leads to. A text can be expanded exactly
when no path has a name without a value, a name twice, or more names than levels; otherwise it
fails as the first placeholder where a path goes wrong, from left to right and depth first.
-/

namespace TemplatedRequests.Template

variable (scopes : Scopes) (call : Resolver Id)

/-- The first name stands in the text, and each further one in the value of the one before it. -/
inductive IsPath : (text : String) → (path : List String) → Prop
  | last {text name} (h : name ∈ names text) : IsPath text [name]
  | cons {text name value path} (h : name ∈ names text)
      (hv : valueOf scopes call name = .ok value) (rest : IsPath value path) :
      IsPath text (name :: path)

/-- The placeholder at an address, with its name and the names on the way to it. An address tells
which placeholder is taken in the text and then in each value. In the order of lists addresses go
from left to right and depth first. -/
inductive Leads : (text : String) → (address : List Nat) → (before : List String) →
    (name : String) → Prop
  | here {text i name} (h : (names text)[i]? = some name) : Leads text [i] [] name
  | deeper {text i first value address before name} (h : (names text)[i]? = some first)
      (hv : valueOf scopes call first = .ok value) (rest : Leads value address before name) :
      Leads text (i :: address) (first :: before) name

/-- What is wrong with a placeholder, given the names on the way to it: its name comes up again, it
has no value, or it is the tenth one and its value goes on. -/
def faultAt (before : List String) (name : String) : Option Fault :=
  if name ∈ before then some (.circular name)
  else match valueOf scopes call name with
    | .error fault => some fault
    | .ok value =>
      if before.length + 1 = maxLevels ∧ hasOpening value.toList = true then some .tooDeep else none

/-- The placeholder at the lowest address where something is wrong has this fault. The names in
`taken` are on the way to the text. -/
def FailsFirst (taken : List String) (text : String) (fault : Fault) : Prop :=
  ∃ address before name, Leads scopes call text address before name ∧
    faultAt scopes call (taken ++ before) name = some fault ∧
    ∀ earlier before' name', earlier < address → Leads scopes call text earlier before' name' →
      faultAt scopes call (taken ++ before') name' = none

variable {scopes call} {text name : String} {address : List Nat} {before taken : List String}

theorem faultAt_eq_none_iff :
    faultAt scopes call before name = none ↔ name ∉ before ∧
      ∃ value, valueOf scopes call name = .ok value ∧
        (before.length + 1 = maxLevels → hasOpening value.toList = false) := by
  unfold faultAt
  by_cases h : name ∈ before
  · simp [h]
  · rcases ok_or_error (valueOf scopes call name) with ⟨value, hv⟩ | ⟨fault, hv⟩
    · simp [h, hv]
    · simp [h, hv]

theorem faultAt_eq_some_iff {fault : Fault} :
    faultAt scopes call before name = some fault ↔
      (name ∈ before ∧ fault = .circular name) ∨ (name ∉ before ∧
        (valueOf scopes call name = .error fault ∨ ∃ value, valueOf scopes call name = .ok value ∧
          before.length + 1 = maxLevels ∧ hasOpening value.toList = true ∧ fault = .tooDeep)) := by
  unfold faultAt
  by_cases h : name ∈ before
  · simp [h, @eq_comm _ fault]
  · rcases ok_or_error (valueOf scopes call name) with ⟨value, hv⟩ | ⟨problem, hv⟩
    · simp [h, hv, and_assoc, @eq_comm _ fault]
    · simp [h, hv]

theorem Leads.names_ne_nil (h : Leads scopes call text address before name) : names text ≠ [] := by
  intro hn
  cases h with
  | here h => simp [hn] at h
  | deeper h => simp [hn] at h

theorem Leads.first {i : Nat} (h : Leads scopes call text (i :: address) before name) :
    ∃ n, (names text)[i]? = some n := by
  cases h with
  | here h => exact ⟨_, h⟩
  | deeper h => exact ⟨_, h⟩

theorem Leads.unique {before' : List String} {name' : String}
    (h : Leads scopes call text address before name)
    (h' : Leads scopes call text address before' name') : before = before' ∧ name = name' := by
  induction h generalizing before' with
  | here hi =>
    cases h' with
    | here hi' => simpa using hi.symm.trans hi'
    | deeper _ _ rest => cases rest
  | deeper hi hv rest ih =>
    cases h' with
    | here _ => cases rest
    | deeper hi' hv' rest' =>
      obtain rfl := Option.some.inj (hi.symm.trans hi')
      obtain rfl := ok_eq_ok_iff.1 (hv.symm.trans hv')
      obtain ⟨rfl, rfl⟩ := ih rest'
      exact ⟨rfl, rfl⟩

theorem Leads.isPath (h : Leads scopes call text address before name) :
    IsPath scopes call text (before ++ [name]) := by
  induction h with
  | here hi => exact .last (List.mem_of_getElem? hi)
  | deeper hi hv _ ih => exact .cons (List.mem_of_getElem? hi) hv ih

theorem IsPath.leads {path : List String} (h : IsPath scopes call text path) :
    ∃ address before name, Leads scopes call text address before name ∧ path = before ++ [name] := by
  induction h with
  | last h =>
    obtain ⟨i, hi⟩ := List.getElem?_of_mem h
    exact ⟨[i], [], _, .here hi, rfl⟩
  | cons h hv _ ih =>
    obtain ⟨i, hi⟩ := List.getElem?_of_mem h
    obtain ⟨address, before, name, hl, rfl⟩ := ih
    exact ⟨i :: address, _ :: before, name, .deeper hi hv hl, rfl⟩

theorem Leads.resolved (h : Leads scopes call text address before name) :
    ∀ n ∈ before, ∃ value, valueOf scopes call n = .ok value := by
  induction h with
  | here _ => simp
  | deeper _ hv _ ih => exact List.forall_mem_cons.2 ⟨⟨_, hv⟩, ih⟩

theorem Leads.parent {w : List String} {m : String} (h : Leads scopes call text address before name)
    (hw : before = w ++ [m]) : ∃ address, Leads scopes call text address w m := by
  induction h generalizing w with
  | here _ => cases w <;> cases hw
  | @deeper _ i first _ _ before _ hi hv _ ih =>
    cases w with
    | nil =>
      cases hw
      exact ⟨[i], .here hi⟩
    | cons _ w =>
      obtain ⟨rfl, hb⟩ := List.cons.inj hw
      obtain ⟨address, hl⟩ := ih hb
      exact ⟨i :: address, .deeper hi hv hl⟩

theorem Leads.nodup (hn : ∀ address before name, Leads scopes call text address before name →
      name ∉ before) (h : Leads scopes call text address before name) :
    (before ++ [name]).Nodup := by
  induction before using List.reverseRecOn generalizing address name with
  | nil => simp
  | append_singleton w m ih =>
    obtain ⟨address', hp⟩ := h.parent rfl
    have hw := ih hp
    have hm := hn _ _ _ h
    rw [List.nodup_append]
    refine ⟨hw, by simp, ?_⟩
    rintro a ha b hb rfl
    exact hm (List.mem_singleton.1 hb ▸ ha)

section Walk

variable {levels : Nat} {value : String} {fault : Fault}

/-- A name that is taken up below `taken`, with `levels` left for its value. -/
def Entered (scopes : Scopes) (call : Resolver Id) (levels : Nat) (taken : List String)
    (name : String) : Prop :=
  ∃ r, enter scopes call (expand scopes call levels) taken.reverse name = .ok r

theorem entered_iff : Entered scopes call levels taken name ↔ name ∉ taken ∧
    ∃ value, valueOf scopes call name = .ok value ∧
      ∃ r, expand scopes call levels (taken ++ [name]).reverse value.toList = .ok r := by
  simp only [Entered, enter_eq_ok_iff, List.mem_reverse, List.reverse_append, List.reverse_singleton,
    List.singleton_append]
  exact ⟨fun ⟨r, hm, value, hv, hr⟩ => ⟨hm, value, hv, r, hr⟩,
    fun ⟨hm, value, hv, r, hr⟩ => ⟨r, hm, value, hv, hr⟩⟩

/-- The levels that are left and the names on the way always make up the limit. -/
theorem faultAt_of_entered (hd : levels + 1 + taken.length = maxLevels)
    (h : Entered scopes call levels taken name) : faultAt scopes call taken name = none := by
  obtain ⟨hm, value, hv, hr⟩ := entered_iff.1 h
  refine faultAt_eq_none_iff.2 ⟨hm, value, hv, fun hl => ?_⟩
  obtain rfl : levels = 0 := by omega
  exact expand_zero_isOk_iff.1 hr

theorem Leads.not_expanded_zero {path : List String}
    (h : Leads scopes call text address before name) :
    ¬∃ r, expand scopes call 0 path text.toList = .ok r :=
  fun hr => h.names_ne_nil (namesIn_of_no_opening (expand_zero_isOk_iff.1 hr))

theorem Leads.faultAt_of_expanded (h : Leads scopes call text address before name)
    (hd : levels + taken.length = maxLevels)
    (hr : ∃ r, expand scopes call levels taken.reverse text.toList = .ok r) :
    faultAt scopes call (taken ++ before) name = none := by
  induction h generalizing levels taken with
  | @here text i name hi =>
    cases levels with
    | zero => exact absurd hr (Leads.not_expanded_zero (.here hi))
    | succ levels =>
      rw [List.append_nil]
      exact faultAt_of_entered hd (expand_succ_isOk_iff.1 hr _ (List.mem_of_getElem? hi))
  | @deeper text i first value address before name hi hv rest ih =>
    cases levels with
    | zero => exact absurd hr (Leads.not_expanded_zero (.deeper hi hv rest))
    | succ levels =>
      have he := expand_succ_isOk_iff.1 hr _ (List.mem_of_getElem? hi)
      obtain ⟨-, value', hv', hr'⟩ := entered_iff.1 he
      obtain rfl := ok_eq_ok_iff.1 (hv.symm.trans hv')
      have hlength : levels + (taken ++ [first]).length = maxLevels := by simp; omega
      have := ih hlength hr'
      rwa [List.append_assoc] at this

theorem Leads.faultAt_of_entered {i : Nat} {first : String}
    (h : Leads scopes call text (i :: address) before name)
    (hd : levels + 1 + taken.length = maxLevels) (hi : (names text)[i]? = some first)
    (he : Entered scopes call levels taken first) :
    faultAt scopes call (taken ++ before) name = none := by
  cases h with
  | here hi' =>
    obtain rfl := Option.some.inj (hi.symm.trans hi')
    rw [List.append_nil]
    exact Template.faultAt_of_entered hd he
  | deeper hi' hv rest =>
    obtain rfl := Option.some.inj (hi.symm.trans hi')
    obtain ⟨-, value', hv', hr⟩ := entered_iff.1 he
    obtain rfl := ok_eq_ok_iff.1 (hv.symm.trans hv')
    have hlength : levels + (taken ++ [first]).length = maxLevels := by simp; omega
    have := rest.faultAt_of_expanded hlength hr
    rwa [List.append_assoc] at this

theorem failsFirst_here {i : Nat} (hd : levels + 1 + taken.length = maxLevels)
    (hi : (names text)[i]? = some name)
    (hb : ∀ j < i, ∀ n, (names text)[j]? = some n → Entered scopes call levels taken n)
    (hf : faultAt scopes call taken name = some fault) :
    FailsFirst scopes call taken text fault := by
  refine ⟨[i], [], name, .here hi, by rwa [List.append_nil], ?_⟩
  intro earlier before' name' hlt hl
  cases earlier with
  | nil => cases hl
  | cons j rest =>
    rw [List.cons_lt_cons_iff] at hlt
    obtain hj | ⟨-, hn⟩ := hlt
    · obtain ⟨n, hn⟩ := hl.first
      exact hl.faultAt_of_entered hd hn (hb j hj n hn)
    · exact absurd hn (List.not_lt_nil _)

theorem failsFirst_below {i : Nat} (hd : levels + 1 + taken.length = maxLevels)
    (hi : (names text)[i]? = some name)
    (hb : ∀ j < i, ∀ n, (names text)[j]? = some n → Entered scopes call levels taken n)
    (hn : faultAt scopes call taken name = none) (hv : valueOf scopes call name = .ok value)
    (hf : FailsFirst scopes call (taken ++ [name]) value fault) :
    FailsFirst scopes call taken text fault := by
  obtain ⟨address, before, last, hl, hw, hfirst⟩ := hf
  refine ⟨i :: address, name :: before, last, .deeper hi hv hl, by simpa using hw, ?_⟩
  intro earlier before' name' hlt hl'
  cases earlier with
  | nil => cases hl'
  | cons j rest =>
    rw [List.cons_lt_cons_iff] at hlt
    obtain hj | ⟨rfl, hrest⟩ := hlt
    · obtain ⟨n, hn'⟩ := hl'.first
      exact hl'.faultAt_of_entered hd hn' (hb j hj n hn')
    · cases hl' with
      | here hi' =>
        obtain rfl := Option.some.inj (hi.symm.trans hi')
        simpa using hn
      | deeper hi' hv' below =>
        obtain rfl := Option.some.inj (hi.symm.trans hi')
        obtain rfl := ok_eq_ok_iff.1 (hv.symm.trans hv')
        simpa using hfirst _ _ _ hrest below

theorem exists_first_not_entered
    (h : expand scopes call (levels + 1) taken.reverse text.toList = .error fault) :
    ∃ (i : Nat) (name : String), (names text)[i]? = some name ∧
      (∀ j < i, ∀ n, (names text)[j]? = some n → Entered scopes call levels taken n) ∧
      enter scopes call (expand scopes call levels) taken.reverse name = .error fault := by
  obtain ⟨before, name, after, hs, hb, he⟩ := expand_succ_eq_error_iff.1 h
  have hs : names text = before ++ name :: after := hs
  refine ⟨before.length, name, by simp [hs], fun j hj n hn => hb n ?_, he⟩
  rw [hs, List.getElem?_append_left hj] at hn
  exact List.mem_of_getElem? hn

theorem failsFirst_of_not_expanded (hd : levels + 1 + taken.length = maxLevels)
    (h : expand scopes call (levels + 1) taken.reverse text.toList = .error fault) :
    FailsFirst scopes call taken text fault := by
  -- By induction on the levels: the first name that is not entered is at fault itself, or its value
  -- is not expanded with one level less.
  induction levels generalizing taken text with
  | zero =>
    obtain ⟨i, name, hi, hb, he⟩ := exists_first_not_entered h
    refine failsFirst_here hd hi hb (faultAt_eq_some_iff.2 ?_)
    obtain ⟨hm, hf⟩ | ⟨hm, hv | ⟨value, hv, hr⟩⟩ := enter_eq_error_iff.1 he
    · exact .inl ⟨List.mem_reverse.1 hm, hf⟩
    · exact .inr ⟨fun hn => hm (List.mem_reverse.2 hn), .inl hv⟩
    · obtain ⟨ho, rfl⟩ := expand_zero_eq_error_iff.1 hr
      exact .inr ⟨fun hn => hm (List.mem_reverse.2 hn), .inr ⟨value, hv, by omega, ho, rfl⟩⟩
  | succ levels ih =>
    obtain ⟨i, name, hi, hb, he⟩ := exists_first_not_entered h
    obtain ⟨hm, hf⟩ | ⟨hm, hv | ⟨value, hv, hr⟩⟩ := enter_eq_error_iff.1 he
    · exact failsFirst_here hd hi hb (faultAt_eq_some_iff.2 (.inl ⟨List.mem_reverse.1 hm, hf⟩))
    · exact failsFirst_here hd hi hb
        (faultAt_eq_some_iff.2 (.inr ⟨fun hn => hm (List.mem_reverse.2 hn), .inl hv⟩))
    · have hn : faultAt scopes call taken name = none := by
        refine faultAt_eq_none_iff.2 ⟨fun hn => hm (List.mem_reverse.2 hn), value, hv, ?_⟩
        omega
      refine failsFirst_below hd hi hb hn hv (ih (by simp; omega) ?_)
      simpa using hr

theorem FailsFirst.unique {problem : Fault} (h : FailsFirst scopes call taken text fault)
    (h' : FailsFirst scopes call taken text problem) : fault = problem := by
  obtain ⟨address, before, name, hl, hf, hfirst⟩ := h
  obtain ⟨address', before', name', hl', hf', hfirst'⟩ := h'
  rcases lt_trichotomy address address' with hlt | rfl | hlt
  · simp [hfirst' _ _ _ hlt hl] at hf
  · obtain ⟨rfl, rfl⟩ := hl.unique hl'
    exact Option.some.inj (hf.symm.trans hf')
  · simp [hfirst _ _ _ hlt hl'] at hf'

/-- A text fails with the fault that comes first in it, if any does. -/
theorem expand_eq_error_iff_failsFirst (hd : levels + 1 + taken.length = maxLevels) :
    expand scopes call (levels + 1) taken.reverse text.toList = .error fault ↔
      FailsFirst scopes call taken text fault := by
  refine ⟨failsFirst_of_not_expanded hd, fun h => ?_⟩
  rcases ok_or_error (expand scopes call (levels + 1) taken.reverse text.toList) with hr | ⟨g, hr⟩
  · obtain ⟨address, before, name, hl, hf, -⟩ := h
    simp [hl.faultAt_of_expanded hd hr] at hf
  · rw [hr, (failsFirst_of_not_expanded hd hr).unique h]

end Walk

theorem substitute_eq_error_iff_failsFirst {fault : Fault} :
    substitute text scopes call = .error fault ↔ FailsFirst scopes call [] text fault := by
  rw [substitute_eq, map_eq_error_iff]
  have hlength : 9 + 1 + ([] : List String).length = maxLevels := rfl
  exact expand_eq_error_iff_failsFirst hlength

theorem substitute_isOk_iff_faultAt : (∃ r, substitute text scopes call = .ok r) ↔
    ∀ address before name, Leads scopes call text address before name →
      faultAt scopes call before name = none := by
  constructor
  · rintro ⟨r, hr⟩ address before name hl
    obtain ⟨cs, hcs, -⟩ := map_eq_ok_iff.1 ((substitute_eq text).symm.trans hr)
    have hlength : maxLevels + ([] : List String).length = maxLevels := rfl
    exact hl.faultAt_of_expanded hlength ⟨cs, hcs⟩
  · intro h
    rcases ok_or_error (substitute text scopes call) with hr | ⟨fault, hr⟩
    · exact hr
    · obtain ⟨address, before, name, hl, hf, -⟩ := substitute_eq_error_iff_failsFirst.1 hr
      simp [h _ _ _ hl] at hf

variable (scopes call) in
def Resolves (path : List String) : Prop :=
  ∀ name ∈ path, ∃ value, valueOf scopes call name = .ok value

variable (scopes call) in
def Ends (path : List String) : Prop :=
  path.length = 10 → ∀ last ∈ path.getLast?, ∀ value, valueOf scopes call last = .ok value →
    hasOpening value.toList = false

theorem forall_faultAt_eq_none_iff :
    (∀ address before name, Leads scopes call text address before name →
      faultAt scopes call before name = none) ↔
    ∀ path, IsPath scopes call text path →
      Resolves scopes call path ∧ path.Nodup ∧ Ends scopes call path := by
  constructor
  · intro h path hp
    obtain ⟨address, before, name, hl, rfl⟩ := hp.leads
    obtain ⟨-, value, hv, ho⟩ := faultAt_eq_none_iff.1 (h _ _ _ hl)
    refine ⟨?_, ?_, ?_⟩
    · intro n hn
      rcases List.mem_append.1 hn with hb | hn
      · exact hl.resolved n hb
      · exact ⟨value, List.mem_singleton.1 hn ▸ hv⟩
    · exact hl.nodup fun _ _ _ hl' => (faultAt_eq_none_iff.1 (h _ _ _ hl')).1
    · intro hten last hlast value' hv'
      obtain rfl : name = last := by simpa using hlast
      obtain rfl := ok_eq_ok_iff.1 (hv.symm.trans hv')
      exact ho (by simpa [maxLevels] using hten)
  · intro h address before name hl
    obtain ⟨hr, hd, he⟩ := h _ hl.isPath
    obtain ⟨value, hv⟩ := hr name (by simp)
    refine faultAt_eq_none_iff.2 ⟨fun hm => ?_, value, hv, fun hten => ?_⟩
    · exact (List.nodup_append.1 hd).2.2 name hm name (by simp) rfl
    · exact he (by simpa [maxLevels] using hten) name (by simp) value hv

theorem substitute_isOk_iff_isPath : (∃ result, substitute text scopes call = .ok result) ↔
    ∀ path, IsPath scopes call text path →
      Resolves scopes call path ∧ path.Nodup ∧ Ends scopes call path :=
  substitute_isOk_iff_faultAt.trans forall_faultAt_eq_none_iff

/-- Where no path comes back to itself or is too long, a text fails as a name of a path does. -/
theorem exists_isPath_of_substitute_eq_error {fault : Fault}
    (h : ∀ path, IsPath scopes call text path → path.Nodup ∧ Ends scopes call path)
    (hf : substitute text scopes call = .error fault) : ∃ path name,
      IsPath scopes call text (path ++ [name]) ∧ valueOf scopes call name = .error fault := by
  obtain ⟨address, before, name, hl, hn, -⟩ := substitute_eq_error_iff_failsFirst.1 hf
  obtain ⟨hd, he⟩ := h _ hl.isPath
  obtain ⟨hm, -⟩ | ⟨-, hv | ⟨value, hv, hten, ho, -⟩⟩ := faultAt_eq_some_iff.1 hn
  · exact absurd rfl ((List.nodup_append.1 hd).2.2 name hm name (by simp))
  · exact ⟨before, name, hl.isPath, hv⟩
  · have hc := he (by simpa [maxLevels] using hten) name (by simp) value hv
    simp [hc] at ho

/-- The paths of a text tell whether it can be expanded, and the first placeholder at fault tells
how it fails. Names that come up twice on different paths do no harm. -/
theorem substitute_iff_isPath_and_failsFirst (text : String) (scopes : Scopes) (call : Resolver Id) :
    ((∃ result, substitute text scopes call = .ok result) ↔
      ∀ path, IsPath scopes call text path →
        Resolves scopes call path ∧ path.Nodup ∧ Ends scopes call path) ∧
    (∀ fault, substitute text scopes call = .error fault ↔
      FailsFirst scopes call [] text fault) ∧
    ((∀ path, IsPath scopes call text path → path.Nodup ∧ Ends scopes call path) →
      ∀ fault, substitute text scopes call = .error fault →
        ∃ path name, IsPath scopes call text (path ++ [name]) ∧
          valueOf scopes call name = .error fault) :=
  ⟨substitute_isOk_iff_isPath, fun _ => substitute_eq_error_iff_failsFirst,
    fun h _ => exists_isPath_of_substitute_eq_error h⟩

end TemplatedRequests.Template
