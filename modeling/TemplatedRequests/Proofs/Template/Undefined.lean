import TemplatedRequests.Proofs.Template.Given

/-!
The scan for names that no scope defines, and expansion. The scan reads a text once and looks at no
value; expansion stops at the first of these names, if nothing before it is at fault. Where the scan
finds nothing in a text nor in the values that are expanded, no placeholder lacks a definition.
-/

namespace TemplatedRequests

theorem Scopes.lookup?_eq_none_iff {s : Scopes} {name : String} :
    s.lookup? name = none ↔ ∀ l, (s.layer l).contains name = false := by
  rw [lookup?, List.findSome?_eq_none_iff]
  refine ⟨fun h l => ?_, fun h l _ => ?_⟩
  · simp [OrderedMap.contains, h l l.mem_all]
  · simpa [OrderedMap.contains] using h l

theorem Scopes.contains_eq_false_iff {s : Scopes} {name : String} :
    s.contains name = false ↔ ∀ l, (s.layer l).contains name = false := by
  simp [contains, sourceOf?, Source.mem_all]

namespace Template

/-- A name that calls no function and that no layer defines. -/
structure IsMissing (scopes : Scopes) (name : String) : Prop where
  head : name.toList.head? ≠ some '$'
  undefined : ∀ l, (scopes.layer l).contains name = false

section Scan

variable {scopes : Scopes} {text name : String} {names : List String}

theorem isCall_eq_false_iff : isCall name = false ↔ name.toList.head? ≠ some '$' := by
  simp [isCall]

theorem isMissing_iff : IsMissing scopes name ↔ isCall name = false ∧ scopes.contains name = false := by
  rw [isCall_eq_false_iff, Scopes.contains_eq_false_iff]
  exact ⟨fun h => ⟨h.head, h.undefined⟩, fun ⟨hv, hu⟩ => ⟨hv, hu⟩⟩

/-- What the scan has found after these names. -/
def missingOf (scopes : Scopes) (names : List String) : List String :=
  names.foldl (fun found name =>
    if isCall name || scopes.contains name || found.contains name then found
    else found ++ [name]) []

theorem missingOf_append_singleton : missingOf scopes (names ++ [name]) =
    if isCall name || scopes.contains name || (missingOf scopes names).contains name
    then missingOf scopes names else missingOf scopes names ++ [name] := by
  rw [missingOf, List.foldl_append]
  rfl

theorem mem_missingOf_iff {n : String} :
    n ∈ missingOf scopes names ↔ n ∈ names ∧ IsMissing scopes n := by
  induction names using List.reverseRecOn with
  | nil => simp [missingOf]
  | append_singleton names last ih =>
    rw [missingOf_append_singleton, List.mem_append, List.mem_singleton]
    split <;> rename_i h
    · refine ih.trans ⟨fun ⟨hn, hm⟩ => ⟨.inl hn, hm⟩, ?_⟩
      rintro ⟨hn | rfl, hm⟩
      · exact ⟨hn, hm⟩
      · obtain ⟨hcall, hcontains⟩ := isMissing_iff.1 hm
        exact ih.1 (by simpa [hcall, hcontains] using h)
    · simp only [Bool.or_eq_true, not_or, Bool.not_eq_true] at h
      rw [List.mem_append, List.mem_singleton, ih]
      constructor
      · rintro (⟨hn, hm⟩ | rfl)
        · exact ⟨.inl hn, hm⟩
        · exact ⟨.inr rfl, isMissing_iff.2 h.1⟩
      · rintro ⟨hn | rfl, hm⟩
        · exact .inl ⟨hn, hm⟩
        · exact .inr rfl

theorem pairwise_missingOf :
    (missingOf scopes names).Pairwise fun a b => names.idxOf a < names.idxOf b := by
  induction names using List.reverseRecOn with
  | nil => exact .nil
  | append_singleton names last ih =>
    have hkeep : ∀ n ∈ missingOf scopes names, (names ++ [last]).idxOf n = names.idxOf n :=
      fun n hn => List.idxOf_append_of_mem (mem_missingOf_iff.1 hn).1
    have hbefore : (missingOf scopes names).Pairwise
        fun a b => (names ++ [last]).idxOf a < (names ++ [last]).idxOf b :=
      ih.imp_of_mem fun ha hb hlt => by rwa [hkeep _ ha, hkeep _ hb]
    rw [missingOf_append_singleton]
    split <;> rename_i h
    · exact hbefore
    · simp only [Bool.or_eq_true, not_or, Bool.not_eq_true] at h
      obtain ⟨hmissing, hnew⟩ := h
      have hlast : last ∉ names := fun hm => by
        have := mem_missingOf_iff.2 ⟨hm, isMissing_iff.2 hmissing⟩
        simp [this] at hnew
      refine List.pairwise_append.2 ⟨hbefore, List.pairwise_singleton _ _, fun a ha b hb => ?_⟩
      obtain rfl := List.mem_singleton.1 hb
      rw [hkeep a ha, List.idxOf_append_of_notMem hlast]
      have := List.idxOf_lt_length_of_mem (mem_missingOf_iff.1 ha).1
      omega

theorem nodup_missingOf : (missingOf scopes names).Nodup :=
  pairwise_missingOf.imp fun hlt heq => by simp [heq] at hlt

end Scan

section Fixed

variable (scopes : Scopes) (call : Resolver Id)

/-- The placeholder at an address is looked at: nothing is wrong with those before it. -/
structure Visits (text : String) (address : List Nat) (before : List String) (name : String) :
    Prop where
  leads : Leads scopes call text address before name
  earlier : ∀ address' before' name', address' < address →
    Leads scopes call text address' before' name' → faultAt scopes call before' name' = none

/-- A value that is expanded: it belongs to a placeholder that is looked at and not at fault. -/
def Meets (text value : String) : Prop := ∃ address before name,
  Visits scopes call text address before name ∧ faultAt scopes call before name = none ∧
    valueOf scopes call name = .ok value

variable {scopes call} {text name : String} {address : List Nat} {before : List String} {fault : Fault}

theorem Leads.reaches (h : Leads scopes call text address before name) :
    Reaches scopes call text name :=
  ⟨_, h.isPath, by simp⟩

theorem Leads.mem_names (h : Leads scopes call text address before name) : name ∈ names text ∨
    ∃ address' before' parent value, address' < address ∧
      Leads scopes call text address' before' parent ∧ valueOf scopes call parent = .ok value ∧
      name ∈ names value := by
  induction h with
  | here hi => exact .inl (List.mem_of_getElem? hi)
  | @deeper _ i first value address _ _ hi hv rest ih =>
    obtain hm | ⟨address', before', parent, inner, hlt, hl, hp, hm⟩ := ih
    · have hlt : [] < address := by
        cases rest <;> exact List.nil_lt_cons _ _
      exact .inr ⟨[i], [], first, value, List.cons_lt_cons_iff.2 (.inr ⟨rfl, hlt⟩), .here hi, hv, hm⟩
    · exact .inr ⟨i :: address', first :: before', parent, inner,
        List.cons_lt_cons_iff.2 (.inr ⟨rfl, hlt⟩), .deeper hi hv hl, hp, hm⟩

theorem Visits.mem_names (h : Visits scopes call text address before name) : name ∈ names text ∨
    ∃ value, Meets scopes call text value ∧ name ∈ names value := by
  refine h.leads.mem_names.imp_right ?_
  rintro ⟨address', before', parent, value, hlt, hl, hv, hm⟩
  have hvisits : Visits scopes call text address' before' parent :=
    ⟨hl, fun _ _ _ hlt' hl' => h.earlier _ _ _ (List.lt_trans hlt' hlt) hl'⟩
  exact ⟨value, ⟨address', before', parent, hvisits, h.earlier _ _ _ hlt hl, hv⟩, hm⟩

theorem substitute_eq_error_iff_visits : substitute text scopes call = .error fault ↔
    ∃ address before name, Visits scopes call text address before name ∧
      faultAt scopes call before name = some fault := by
  rw [substitute_eq_error_iff_failsFirst]
  constructor
  · rintro ⟨address, before, name, hl, hf, hfirst⟩
    exact ⟨address, before, name, ⟨hl, hfirst⟩, hf⟩
  · rintro ⟨address, before, name, ⟨hl, hfirst⟩, hf⟩
    exact ⟨address, before, name, hl, hf, hfirst⟩

theorem valueOf_eq_undefined_iff (hn : name.toList.head? ≠ some '$') :
    valueOf scopes call name = .error fault ↔ IsMissing scopes name ∧ fault = .undefined name := by
  have hmissing : IsMissing scopes name ↔ scopes.lookup? name = none := by
    rw [Scopes.lookup?_eq_none_iff]
    exact ⟨fun h => h.undefined, fun h => ⟨hn, h⟩⟩
  rw [hmissing]
  unfold valueOf
  split
  · rename_i h
    simp [h] at hn
  · cases scopes.lookup? name with
    | some value => exact ⟨nofun, nofun⟩
    | none => exact ⟨fun h => ⟨rfl, (Except.error.inj h).symm⟩, fun h => by rw [h.2]; rfl⟩

theorem exists_fault_of_undefinedNames (h : undefinedNames text scopes ≠ []) :
    ∃ fault, substitute text scopes call = .error fault := by
  obtain ⟨name, hn⟩ := List.exists_mem_of_ne_nil _ h
  obtain ⟨hn, hm⟩ := mem_missingOf_iff.1 hn
  refine (ok_or_error (substitute text scopes call)).resolve_left ?_
  rintro ⟨result, hr⟩
  obtain ⟨value, hv⟩ := exists_valueOf_of_reaches hr (reaches_of_mem hn)
  have hf : valueOf scopes call name = .error (.undefined name) :=
    (valueOf_eq_undefined_iff hm.head).2 ⟨hm, rfl⟩
  exact ok_ne_error (hv.symm.trans hf)

theorem isCall_of_unresolved (htext : undefinedNames text scopes = [])
    (hvalues : ∀ value, Meets scopes call text value → undefinedNames value scopes = [])
    (h : Visits scopes call text address before name)
    (hv : valueOf scopes call name = .error fault) : name.toList.head? = some '$' := by
  by_contra hn
  obtain ⟨hmissing, -⟩ := (valueOf_eq_undefined_iff hn).1 hv
  have hfound : ∀ t, name ∈ names t → undefinedNames t scopes ≠ [] := fun t hm =>
    List.ne_nil_of_mem (mem_missingOf_iff.2 ⟨hm, hmissing⟩)
  obtain hm | ⟨value, hmeets, hm⟩ := h.mem_names
  · exact hfound text hm htext
  · exact hfound value hm (hvalues value hmeets)

end Fixed

end Template

end TemplatedRequests
