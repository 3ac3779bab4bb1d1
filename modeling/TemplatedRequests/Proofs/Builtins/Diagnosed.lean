import TemplatedRequests.Proofs.Builtins.Classified
import TemplatedRequests.Proofs.Template.Escape
import TemplatedRequests.Proofs.Template.Undefined

/-!
The scan for undefined names against texts that are substituted with functions. A text in which it
finds a name always fails, and in one of the six kinds unless a call that cannot answer in kind is at
fault before. Where it finds none, only a call of an unknown function is told as an undefined variable.
-/

namespace TemplatedRequests.Builtins

open Template

/-- The fault is told as an undefined variable. -/
def TellsUndefined (fault : Fault) : Prop :=
  ∃ detail, fault.report? = some ⟨.undefinedVariable, detail⟩

/-- A value, or a fault that is told as something else than an undefined variable. -/
def IsDefined {α : Type} (r : Except Fault α) : Prop :=
  ∀ fault, r = .error fault → ¬TellsUndefined fault

section Parts

variable {α β : Type} {args : List String}

@[simp] theorem isDefined_ok (a : α) : IsDefined (.ok a : Except Fault α) :=
  fun _ h => by cases h

@[simp] theorem isDefined_error_iff {fault : Fault} :
    IsDefined (.error fault : Except Fault α) ↔ ¬TellsUndefined fault :=
  ⟨fun h => h fault rfl, fun h _ hf => by cases hf; exact h⟩

@[simp] theorem isDefined_map {f : α → β} {r : Except Fault α} :
    IsDefined (r.map f) ↔ IsDefined r := by
  cases r <;> simp [Except.map]

theorem isDefined_parse (args : List String) : IsDefined (Clock.Offset.parse args) := by
  unfold Clock.Offset.parse
  split
  · split
    · simp [TellsUndefined, Fault.report?]
    · simp [TellsUndefined, Fault.report?]
    · split
      · simp [TellsUndefined, Fault.report?]
      · dsimp only
        split <;> simp [TellsUndefined, Fault.report?]
  · simp [TellsUndefined, Fault.report?]

theorem isDefined_shiftedNow (now : Clock.Moment) (args : List String) :
    IsDefined (shiftedNow now args) := by
  unfold shiftedNow
  split
  · exact isDefined_ok now
  · have hparse := isDefined_parse args
    cases hp : Clock.Offset.parse args with
    | error fault => simpa [hp] using hparse
    | ok offset =>
      dsimp only
      split <;> simp [TellsUndefined, Fault.report?]

theorem isDefined_datetime (now : Clock.Moment) (args : List String) :
    IsDefined (datetime now args) := by
  cases args with
  | nil => simp [datetime, TellsUndefined, Fault.report?]
  | cons format args =>
    have hshifted := isDefined_shiftedNow now args
    rw [datetime]
    cases hm : shiftedNow now args with
    | error fault => simpa [hm] using hshifted
    | ok m =>
      dsimp only
      split
      · exact isDefined_ok _
      · split
        · unfold Clock.iso8601
          split <;> simp [TellsUndefined, Fault.report?]
        · simp [TellsUndefined, Fault.report?]

theorem isDefined_bounds (args : List String) : IsDefined (bounds args) := by
  rcases args with _ | ⟨low, _ | ⟨high, more⟩⟩
  · simp [bounds, TellsUndefined, Fault.report?]
  · simp [bounds, TellsUndefined, Fault.report?]
  · unfold bounds
    obtain ⟨long, hl, -⟩ | ⟨hl, -⟩ | ⟨l, hl, -⟩ := bound_cases .badMinimum low
    · simp [hl, bind, Except.bind, TellsUndefined, Fault.report?]
    · simp [hl, bind, Except.bind, TellsUndefined, Fault.report?]
    · obtain ⟨long, hh, -⟩ | ⟨hh, -⟩ | ⟨h, hh, -⟩ := bound_cases .badMaximum high
      · simp [hl, hh, bind, Except.bind, TellsUndefined, Fault.report?]
      · simp [hl, hh, bind, Except.bind, TellsUndefined, Fault.report?]
      · simp only [hl, hh, bind, Except.bind]
        split <;> simp [TellsUndefined, Fault.report?]

theorem isDefined_processEnv (environment : Bindings) (nameProblem? : String → Option String)
    (args : List String) : IsDefined (processEnv environment nameProblem? args) := by
  cases args with
  | nil => simp [processEnv, TellsUndefined, Fault.report?]
  | cons arg more =>
    unfold processEnv
    dsimp only
    cases nameProblem? (splitMark arg).2 with
    | some problem => simp [TellsUndefined, Fault.report?]
    | none => cases environment.get? (splitMark arg).2 with
      | some value => exact isDefined_ok value
      | none => cases (splitMark arg).1 <;> simp [TellsUndefined, Fault.report?]

theorem isDefined_load (files : Dotenv.Tree) (start : Dotenv.Path) (parents : Int) :
    IsDefined (Dotenv.load files start parents) := by
  rintro fault hl ⟨detail, hdetail⟩
  obtain ⟨hreport, -⟩ | ⟨⟨other, hreport⟩, -⟩ := Dotenv.report?_of_load hl
  · cases hreport.symm.trans hdetail
  · cases hreport.symm.trans hdetail

theorem isDefined_values (files : Dotenv.Tree) (cache : Dotenv.Cache) :
    IsDefined (cache.values files).1 := by
  have hload := isDefined_load files cache.start cache.parents
  unfold Dotenv.Cache.values
  split
  · exact isDefined_ok _
  · split
    · rename_i hl
      rwa [hl] at hload
    · exact isDefined_ok _

theorem isDefined_dotenv (files : Dotenv.Tree) (cache : Dotenv.Cache) (args : List String) :
    IsDefined (dotenv files cache args).1 := by
  have hvalues := isDefined_values files cache
  cases args with
  | nil => simp [dotenv, TellsUndefined, Fault.report?]
  | cons name args =>
    simp only [dotenv, Dotenv.Cache.get]
    cases hv : (cache.values files).1 with
    | error fault => simpa [hv, Except.map, Except.bind] using hvalues
    | ok values =>
      simp only [Except.map, Except.bind]
      split <;> simp [TellsUndefined, Fault.report?]

theorem unknown_of_call {s : Surroundings} {state : State} {name : String} {fault : Fault}
    (h : answersAt s state name args = .error fault) (hf : TellsUndefined fault) :
    Function.ofName? name = none ∧ fault = .undefined name := by
  change (call s name args state).1 = .error fault at h
  unfold call at h
  rcases hn : Function.ofName? name with _ | (_ | _ | _ | _ | _ | _) <;> simp only [hn] at h
  · exact ⟨rfl, (Except.error.inj h).symm⟩
  · cases h
  · exact absurd hf (isDefined_map.2 (isDefined_shiftedNow s.now args) fault h)
  · exact absurd hf (isDefined_datetime s.now args fault h)
  · have hbounds := isDefined_bounds args
    cases hb : bounds args with
    | error problem =>
      simp only [hb] at h
      cases h
      exact absurd hf (hbounds fault hb)
    | ok p =>
      simp only [hb] at h
      cases h
  · exact absurd hf (isDefined_processEnv s.processEnv s.nameProblem? args fault h)
  · exact absurd hf (isDefined_dotenv s.files state.cache args fault h)

end Parts

section Texts

/-- The placeholder calls a function that there is not. -/
def CallsUnknown (name function : String) : Prop :=
  ∃ r args, name.toList = '$' :: r ∧ Text.words r = function.toList :: args ∧
    Function.ofName? function = none

/-- The first placeholder at fault calls an unknown function. -/
def FailsUnknown (s : Surroundings) (state : State) (scopes : Scopes) (text function : String) :
    Prop :=
  ∃ address before name, Visits scopes (answersAt s state) text address before name ∧
    name ∉ before ∧ CallsUnknown name function

variable {s : Surroundings} {state : State} {scopes : Scopes} {text name : String} {fault : Fault}

theorem substitute_eq_error_iff_answersAt :
    ((substitute text scopes (call s)).run.run state).1 = .error fault ↔
      substitute (m := Id) text scopes (answersAt s state) = .error fault := by
  have hstate : ReadsAlike s state state := rfl
  exact substitute_eq_error_iff_of_follows (follows_call s state) hstate

theorem callsUnknown_of_valueOf (hcall : name.toList.head? = some '$')
    (hv : valueOf (m := Id) scopes (answersAt s state) name = .error fault)
    (hf : TellsUndefined fault) : ∃ function, fault = .undefined function ∧ CallsUnknown name function := by
  obtain ⟨r, hr⟩ := List.head?_eq_some_iff.1 hcall
  simp only [valueOf, hr] at hv
  cases hw : Text.words r with
  | nil =>
    simp only [hw] at hv
    cases hv
    obtain ⟨detail, hf⟩ := hf
    cases hf
  | cons function args =>
    simp only [hw] at hv
    obtain ⟨hunknown, rfl⟩ := unknown_of_call hv hf
    exact ⟨String.ofList function, rfl, r, args, hr, by rw [hw, String.toList_ofList], hunknown⟩

theorem failsUnknown_of_diagnosed (htext : undefinedNames text scopes = [])
    (hvalues : ∀ value, Meets scopes (answersAt s state) text value → undefinedNames value scopes = [])
    (h : substitute (m := Id) text scopes (answersAt s state) = .error fault)
    (hf : TellsUndefined fault) :
    ∃ function, fault = .undefined function ∧ FailsUnknown s state scopes text function := by
  obtain ⟨address, before, name, hvisits, hat⟩ := substitute_eq_error_iff_visits.1 h
  obtain ⟨-, rfl⟩ | ⟨hm, hv | ⟨value, -, -, -, rfl⟩⟩ := faultAt_eq_some_iff.1 hat
  · obtain ⟨detail, hf⟩ := hf
    cases hf
  · have hcall := isCall_of_unresolved htext hvalues hvisits hv
    obtain ⟨function, hfunction, hunknown⟩ := callsUnknown_of_valueOf hcall hv hf
    exact ⟨function, hfunction, address, before, name, hvisits, hm, hunknown⟩
  · obtain ⟨detail, hf⟩ := hf
    cases hf

/-- A text in which a name is missing fails, and in one of the six kinds unless the first placeholder
at fault cannot be answered in kind. -/
theorem exists_fault_of_undefinedNames_ne_nil (hnow : IsUniversal s.now)
    (h : undefinedNames text scopes ≠ []) :
    ∃ fault, ((substitute text scopes (call s)).run.run state).1 = .error fault ∧
      ((∃ report, fault.report? = some report) ↔ ¬FailsUnanswered s state scopes text) := by
  obtain ⟨fault, hf⟩ : ∃ fault, substitute (m := Id) text scopes (answersAt s state) = .error fault :=
    exists_fault_of_undefinedNames h
  refine ⟨fault, substitute_eq_error_iff_answersAt.2 hf, ?_⟩
  rw [← not_isClassified_substitute_iff hnow, not_not, hf]
  rfl

/-- The scan finds each name that is missing once, in the order of the text. If it finds one, the text
fails, and in one of the six kinds unless the first placeholder at fault calls a function that cannot
answer in kind. If it finds none, neither in the text nor in the values that are expanded, a text
that fails as an undefined variable calls an unknown function. Random texts hold no placeholder, so
that values may be taken as they are in the first state. -/
theorem undefinedNames_agrees_with_substitute (hnow : IsUniversal s.now) (state : State)
    (text : String) (scopes : Scopes) :
    ((undefinedNames text scopes).Nodup ∧
      (∀ name, name ∈ undefinedNames text scopes ↔ name ∈ names text ∧ IsMissing scopes name) ∧
      (undefinedNames text scopes).Pairwise fun a b => (names text).idxOf a < (names text).idxOf b) ∧
    (undefinedNames text scopes ≠ [] →
      ∃ fault, ((substitute text scopes (call s)).run.run state).1 = .error fault ∧
        ((∃ report, fault.report? = some report) ↔ ¬FailsUnanswered s state scopes text)) ∧
    (undefinedNames text scopes = [] →
      (∀ value, Meets scopes (answersAt s state) text value → undefinedNames value scopes = []) →
      ∀ fault, ((substitute text scopes (call s)).run.run state).1 = .error fault →
        TellsUndefined fault →
        ∃ function, fault = .undefined function ∧ FailsUnknown s state scopes text function) :=
  ⟨⟨nodup_missingOf, fun _ => mem_missingOf_iff, pairwise_missingOf⟩,
    exists_fault_of_undefinedNames_ne_nil hnow, fun htext hvalues _ hf =>
      failsUnknown_of_diagnosed htext hvalues (substitute_eq_error_iff_answersAt.1 hf)⟩

def callsMissing : Scopes := { file := .ofEntries [("port", "80"), ("a", "{{$missing}}")] }

theorem undefinedNames_of_meets_callsMissing {value : String}
    (h : Meets callsMissing (answersAt atEpoch {}) "{{a}}" value) :
    undefinedNames value callsMissing = [] := by
  obtain ⟨address, before, name, hvisits, -, hv⟩ := h
  have hnames : names "{{$missing}}" = ["$missing"] := by decide +kernel
  have ha : valueOf (m := Id) callsMissing (answersAt atEpoch {}) "a" = .ok "{{$missing}}" := rfl
  have hcall : valueOf (m := Id) callsMissing (answersAt atEpoch {}) "$missing" =
      .error (.undefined "missing") := rfl
  have hname : name = "a" ∨ name = "$missing" := by
    refine hvisits.leads.reaches.induction (P := fun n => n = "a" ∨ n = "$missing")
      (fun n hn => ?_) (fun n found hn hfound m hm => ?_)
    · have htext : names "{{a}}" = ["a"] := by decide +kernel
      rw [htext] at hn
      exact .inl (List.mem_singleton.1 hn)
    · obtain rfl | rfl := hn
      · obtain rfl := ok_eq_ok_iff.1 (ha.symm.trans hfound)
        rw [hnames] at hm
        exact .inr (List.mem_singleton.1 hm)
      · exact absurd (hcall.symm.trans hfound) error_ne_ok
  obtain rfl | rfl := hname
  · obtain rfl := ok_eq_ok_iff.1 (ha.symm.trans hv)
    rw [undefinedNames, hnames]
    rfl
  · exact absurd (hcall.symm.trans hv) error_ne_ok

/-- A text with two missing names, and one that calls an unknown function in a value. -/
theorem substitute_diagnosed :
    IsUniversal atEpoch.now ∧
    undefinedNames "{{host}}{{$guid}}{{port}}{{path}}{{host}}" callsMissing = ["host", "path"] ∧
    (∃ fault, ((substitute "{{host}}{{$guid}}{{port}}{{path}}{{host}}" callsMissing
      (call atEpoch)).run.run {}).1 = .error fault) ∧
    ∃ function, Fault.undefined "missing" = .undefined function ∧
      FailsUnknown atEpoch {} callsMissing "{{a}}" function := by
  have hnow : IsUniversal atEpoch.now := ⟨rfl, by decide⟩
  have hfound : undefinedNames "{{host}}{{$guid}}{{port}}{{path}}{{host}}" callsMissing =
      ["host", "path"] := by decide +kernel
  obtain ⟨-, hfails, -⟩ := undefinedNames_agrees_with_substitute hnow {}
    "{{host}}{{$guid}}{{port}}{{path}}{{host}}" callsMissing
  obtain ⟨fault, hf, -⟩ := hfails (by rw [hfound]; exact List.cons_ne_nil _ _)
  obtain ⟨-, -, hunknown⟩ := undefinedNames_agrees_with_substitute hnow {} "{{a}}" callsMissing
  refine ⟨hnow, hfound, ⟨fault, hf⟩, hunknown ?_ ?_ (.undefined "missing") ?_ ⟨"missing", rfl⟩⟩
  · decide +kernel
  · exact fun value hmeets => undefinedNames_of_meets_callsMissing hmeets
  · decide +kernel

section Overlong

def shiftBy (amount : List Char) : String := "$timestamp " ++ String.ofList amount ++ " s"

theorem toList_shiftBy (amount : List Char) : (shiftBy amount).toList =
    '$' :: ("timestamp".toList ++ ' ' :: (amount ++ ' ' :: ['s'])) := by
  simp [shiftBy]

theorem getLast?_shiftBy (amount : List Char) : (shiftBy amount).toList.getLast? = some 's' := by
  have hchars : (shiftBy amount).toList = ("$timestamp ".toList ++ (amount ++ [' '])) ++ ['s'] := by
    simp [shiftBy]
  rw [hchars, List.getLast?_concat]

variable {amount : List Char}

theorem isPlainName_shiftBy (ho : '{' ∉ amount) (hc : '}' ∉ amount) :
    IsPlainName (shiftBy amount) where
  nonempty h := by simpa [h] using toList_shiftBy amount
  opening := by simp [toList_shiftBy, ho]
  closing := by simp [toList_shiftBy, hc]
  first := by
    rw [toList_shiftBy]
    rintro c ⟨⟩
    decide
  last := by
    rw [getLast?_shiftBy]
    rintro c ⟨⟩
    decide
  unescaped := by
    rw [getLast?_shiftBy]
    decide

theorem isUnanswerableName_shiftBy (h : IsOverlong (String.ofList amount)) (hne : amount ≠ [])
    (hb : ∀ c ∈ amount, Text.isBlank c = false) : IsUnanswerableName s state (shiftBy amount) := by
  have hfunction : ∀ c ∈ "timestamp".toList, Text.isBlank c = false := by
    simp [Text.isBlank, Text.blanks]
  have hwords : Text.words ("timestamp".toList ++ ' ' :: (amount ++ ' ' :: ['s'])) =
      ["timestamp".toList, amount, ['s']] := by
    rw [Text.words_append_blank (by simp) hfunction (by decide),
      Text.words_append_blank hne hb (by decide)]
    rfl
  rw [IsUnanswerableName, toList_shiftBy]
  simp only [hwords]
  exact isUnanswerableCall_timestamp h "s" s state

def shiftThenName (amount : List Char) : String :=
  render [⟨"", [], shiftBy amount, []⟩, ⟨"", [], "x", []⟩] ""

theorem names_shiftThenName (ho : '{' ∉ amount) (hc : '}' ∉ amount) :
    names (shiftThenName amount) = [shiftBy amount, "x"] := by
  have hx : IsPlainName "x" :=
    ⟨by decide, by decide, by decide, by rintro c ⟨⟩; decide, by rintro c ⟨⟩; decide, by decide⟩
  have hempty : IsLiteral "" := ⟨by decide, by decide⟩
  refine names_render ?_ ?_
  · simp only [List.forall_mem_cons]
    exact ⟨⟨hempty, by simp, by simp, by simp, isPlainName_shiftBy ho hc, by simp⟩,
      ⟨hempty, by simp, by simp, by simp, hx, by simp⟩, by simp⟩
  · simp [render, Segment.chars, escape, hasOpening]

theorem report?_of_first (hnow : IsUniversal s.now) (hn : (names text)[0]? = some name)
    (hname : IsUnanswerableName s state name)
    (hf : ((substitute text scopes (call s)).run.run state).1 = .error fault) :
    ¬∃ report, fault.report? = some report := by
  have hfails : FailsUnanswered s state scopes text := by
    refine ⟨[0], [], name, .here hn, List.not_mem_nil, hname, fun earlier before' name' hlt hl => ?_⟩
    cases hl with
    | here _ => simp [List.cons_lt_cons_iff] at hlt
    | deeper _ _ _ => simp [List.cons_lt_cons_iff] at hlt
  have hunclassified := (not_isClassified_substitute_iff hnow).2 hfails
  rwa [substitute_eq_error_iff_answersAt.1 hf] at hunclassified

theorem shiftThenName_unclassified (hnow : IsUniversal s.now) (state : State)
    (h : IsOverlong (String.ofList amount)) (hne : amount ≠ []) (hones : ∀ c ∈ amount, c = '1') :
    "x" ∈ undefinedNames (shiftThenName amount) {} ∧
      ∀ fault, ((substitute (shiftThenName amount) {} (call s)).run.run state).1 = .error fault →
        ¬∃ report, fault.report? = some report := by
  have hnames : names (shiftThenName amount) = [shiftBy amount, "x"] :=
    names_shiftThenName (fun hm => absurd (hones _ hm) (by decide))
      (fun hm => absurd (hones _ hm) (by decide))
  have hblank : ∀ c ∈ amount, Text.isBlank c = false := fun c hc => by
    rw [hones c hc]
    decide
  refine ⟨mem_missingOf_iff.2 ⟨by simp [hnames], by decide, fun l => by cases l <;> rfl⟩, ?_⟩
  exact fun fault => report?_of_first hnow (by rw [hnames]; rfl) (isUnanswerableName_shiftBy h hne hblank)

/-- A missing name does not make a text fail in one of the six kinds: a call with an overlong integer
before it ends in another error. -/
theorem not_forall_isClassified_of_undefinedNames : ¬∀ s state text scopes, IsUniversal s.now →
    undefinedNames text scopes ≠ [] →
    ∃ fault, ((substitute text scopes (call s)).run.run state).1 = .error fault ∧
      ∃ report, fault.report? = some report := by
  intro h
  have hnow : IsUniversal atEpoch.now := ⟨rfl, by decide⟩
  obtain ⟨hmissing, hfails⟩ := shiftThenName_unclassified hnow {} isOverlong_manyOnes
    (List.ne_nil_of_length_eq_add_one List.length_replicate) fun c hc => List.eq_of_mem_replicate hc
  obtain ⟨fault, hf, hreport⟩ :=
    h atEpoch {} (shiftThenName manyOnes) {} hnow (List.ne_nil_of_mem hmissing)
  exact hfails fault hf hreport

end Overlong

end Texts

end TemplatedRequests.Builtins
