import TemplatedRequests.Builtins
import TemplatedRequests.Proofs.Dotenv.Nearest
import TemplatedRequests.Proofs.Numeral.Written
import TemplatedRequests.Proofs.Template.Paths
import TemplatedRequests.Proofs.Template.Steady

/-!
Which calls of functions, and which texts, end in a value or in a fault of one of the six kinds. All
do, unless the first placeholder that fails calls a function that cannot answer in kind: with an integer
too long to be converted, with a name that no variable of the process can have, or where the system
refuses to look for the file of variables.
-/

namespace TemplatedRequests.Builtins

open Template

/-- A value, or a fault of one of the six kinds. -/
def IsClassified {α : Type} : Except Fault α → Prop
  | .ok _ => True
  | .error fault => ∃ report, fault.report? = some report

def IsInteger (text : String) : Prop :=
  ∃ sign digits, Numeral.IsWritten text.toList sign digits

def IsOverlong (text : String) : Prop :=
  ∃ sign digits, Numeral.IsWritten text.toList sign digits ∧ Numeral.digitLimit < digits.length

def IsOverlongOffset : (args : List String) → Prop
  | amount :: _ :: _ => IsOverlong amount
  | _ => False

/-- The second bound is read if the first one is an integer. -/
def AreOverlongBounds : (args : List String) → Prop
  | low :: high :: _ => IsOverlong low ∨ IsInteger low ∧ IsOverlong high
  | _ => False

/-- The name, less a percent sign, is none that variables of the process can have. -/
def IsRefusedName (s : Surroundings) : (args : List String) → Prop
  | arg :: _ => ∃ problem, s.nameProblem? (splitMark arg).2 = some problem
  | [] => False

/-- A cache that holds nothing yet has to look for the file, and a lookup is refused. -/
def IsRefusedCache (files : Dotenv.Tree) (cache : Dotenv.Cache) : Prop :=
  cache.loaded? = none ∧ Dotenv.IsObstructed files cache.start cache.parents

/-- The function reads an overlong integer, a name that is refused, or a file that may not be looked
for. -/
def Function.IsUnanswerable (s : Surroundings) (state : State) : Function → (args : List String) → Prop
  | .guid, _ => False
  | .timestamp, args => IsOverlongOffset args
  | .datetime, args => IsOverlongOffset args.tail
  | .randomInt, args => AreOverlongBounds args
  | .processEnv, args => IsRefusedName s args
  | .dotenv, args => args ≠ [] ∧ IsRefusedCache s.files state.cache

def IsUnanswerableCall (s : Surroundings) (state : State) (name : String) (args : List String) : Prop :=
  ∃ function, Function.ofName? name = some function ∧ function.IsUnanswerable s state args

section Parts

variable {α β : Type} {text : String} {args : List String}

@[simp] theorem isClassified_ok (a : α) : IsClassified (.ok a : Except Fault α) := trivial

@[simp] theorem isClassified_error_iff {fault : Fault} :
    IsClassified (.error fault : Except Fault α) ↔ ∃ report, fault.report? = some report := Iff.rfl

@[simp] theorem isClassified_map {f : α → β} {r : Except Fault α} :
    IsClassified (r.map f) ↔ IsClassified r := by
  cases r <;> rfl

theorem parse_cases (text : String) :
    (∃ long, Numeral.parse text.toList = .error long ∧ IsOverlong text) ∨
    (Numeral.parse text.toList = .ok none ∧ ¬IsInteger text ∧ ¬IsOverlong text) ∨
    ∃ n, Numeral.parse text.toList = .ok (some n) ∧ IsInteger text ∧ ¬IsOverlong text := by
  rcases hp : Numeral.parse text.toList with long | (none | n)
  · obtain ⟨sign, digits, hw, hlong, -⟩ := Numeral.parse_eq_error_iff.1 hp
    exact .inl ⟨long, rfl, sign, digits, hw, hlong⟩
  · have hn := Numeral.parse_eq_none_iff.1 hp
    exact .inr (.inl ⟨rfl, hn, fun ⟨sign, digits, hw, _⟩ => hn ⟨sign, digits, hw⟩⟩)
  · have hw : IsInteger text := Numeral.isWritten_of_parse (by simp [hp])
    refine .inr (.inr ⟨n, rfl, hw, fun ⟨sign, digits, hw, hlong⟩ => ?_⟩)
    have := Numeral.parse_eq_error_iff.2 ⟨sign, digits, hw, hlong, rfl⟩
    cases hp.symm.trans this

theorem bound_cases (bad : String → Fault) (text : String) :
    (∃ long, bound bad text = .error (.numeral long) ∧ IsOverlong text) ∨
    (bound bad text = .error (bad text) ∧ ¬IsInteger text ∧ ¬IsOverlong text) ∨
    ∃ n, bound bad text = .ok n ∧ IsInteger text ∧ ¬IsOverlong text := by
  unfold bound
  obtain ⟨long, hp, h⟩ | ⟨hp, h⟩ | ⟨n, hp, h⟩ := parse_cases text
  · exact .inl ⟨long, by rw [hp], h⟩
  · exact .inr (.inl ⟨by rw [hp], h⟩)
  · exact .inr (.inr ⟨n, by rw [hp], h⟩)

theorem isClassified_bounds_iff : IsClassified (bounds args) ↔ ¬AreOverlongBounds args := by
  rcases args with _ | ⟨low, _ | ⟨high, more⟩⟩
  · simp [bounds, AreOverlongBounds, Fault.report?]
  · simp [bounds, AreOverlongBounds, Fault.report?]
  · unfold bounds AreOverlongBounds
    obtain ⟨long, hl, ho⟩ | ⟨hl, hi, ho⟩ | ⟨l, hl, hi, ho⟩ := bound_cases .badMinimum low
    · simp [hl, ho, bind, Except.bind, Fault.report?]
    · simp [hl, hi, ho, bind, Except.bind, Fault.report?]
    · obtain ⟨long, hh, hho⟩ | ⟨hh, -, hho⟩ | ⟨h, hh, -, hho⟩ := bound_cases .badMaximum high
      · simp [hl, hi, hh, hho, bind, Except.bind, Fault.report?]
      · simp [hl, ho, hh, hho, bind, Except.bind, Fault.report?]
      · simp only [hl, ho, hh, hho, bind, Except.bind]
        split <;> simp [Fault.report?]

theorem isClassified_parse_iff : IsClassified (Clock.Offset.parse args) ↔ ¬IsOverlongOffset args := by
  rcases args with _ | ⟨amount, _ | ⟨unit, more⟩⟩
  · simp [Clock.Offset.parse, IsOverlongOffset, Fault.report?]
  · simp [Clock.Offset.parse, IsOverlongOffset, Fault.report?]
  · unfold Clock.Offset.parse IsOverlongOffset
    obtain ⟨long, hp, ho⟩ | ⟨hp, -, ho⟩ | ⟨n, hp, -, ho⟩ := parse_cases amount
    · simp [hp, ho, Fault.report?]
    · simp [hp, ho, Fault.report?]
    · simp only [hp, ho, not_false_iff, iff_true]
      split
      · simp [Fault.report?]
      · split <;> simp [Fault.report?]

/-- A clock at universal time, which shows a moment of the calendar. -/
def IsUniversal (m : Clock.Moment) : Prop := m.ahead = 0 ∧ Clock.inCalendar m.wall = true

variable {now m : Clock.Moment}

theorem isClassified_shiftedNow_iff :
    IsClassified (shiftedNow now args) ↔ ¬IsOverlongOffset args := by
  rw [← isClassified_parse_iff]
  unfold shiftedNow
  split
  · simp [Clock.Offset.parse, Fault.report?]
  · cases Clock.Offset.parse args with
    | error fault => rfl
    | ok o =>
      simp only [isClassified_ok, iff_true]
      split <;> simp [Fault.report?]

theorem isUniversal_of_shiftedNow (hnow : IsUniversal now) (h : shiftedNow now args = .ok m) :
    IsUniversal m := by
  unfold shiftedNow at h
  split at h
  · cases h
    exact hnow
  · split at h
    · cases h
    · split at h
      · rename_i hs
        cases h
        unfold Clock.Moment.shift? at hs
        dsimp only at hs
        split at hs
        · cases hs
          exact ⟨hnow.1, ‹_›⟩
        · cases hs
      · cases h

theorem isClassified_iso8601 (h : IsUniversal m) : IsClassified (Clock.iso8601 m) := by
  have huniversal : m.universal = m.wall := by
    rw [Clock.Moment.universal, h.1, Int.zero_mul, Int.sub_zero]
  rw [Clock.iso8601, huniversal, if_pos h.2]
  trivial

theorem isClassified_datetime_iff (hnow : IsUniversal now) :
    IsClassified (datetime now args) ↔ ¬IsOverlongOffset args.tail := by
  cases args with
  | nil => simp [datetime, IsOverlongOffset, Fault.report?]
  | cons format args =>
    rw [List.tail_cons, ← @isClassified_shiftedNow_iff _ now, datetime]
    cases hm : shiftedNow now args with
    | error fault => rfl
    | ok m =>
      have hclassified := isClassified_iso8601 (isUniversal_of_shiftedNow hnow hm)
      simp only [isClassified_ok, iff_true]
      split
      · trivial
      · split
        · exact hclassified
        · simp [Fault.report?]

theorem isClassified_processEnv_iff {s : Surroundings} :
    IsClassified (processEnv s.processEnv s.nameProblem? args) ↔ ¬IsRefusedName s args := by
  cases args with
  | nil => simp [processEnv, IsRefusedName, Fault.report?]
  | cons arg more =>
    unfold processEnv IsRefusedName
    dsimp only
    cases s.nameProblem? (splitMark arg).2 with
    | some problem => simp [Fault.report?]
    | none =>
      refine iff_of_true ?_ (by simp)
      cases s.processEnv.get? (splitMark arg).2 with
      | some value => trivial
      | none => cases (splitMark arg).1 <;> simp [Fault.report?]

theorem isClassified_load_iff {files : Dotenv.Tree} {start : Dotenv.Path} {parents : Int} :
    IsClassified (Dotenv.load files start parents) ↔ ¬Dotenv.IsObstructed files start parents := by
  cases hl : Dotenv.load files start parents with
  | ok b =>
    obtain ⟨path, -, -, hnearest, -⟩ := Dotenv.load_eq_ok_iff.1 hl
    exact iff_of_true trivial (Dotenv.not_isObstructed_of_isNearest hnearest)
  | error fault =>
    obtain ⟨hreport, hobstructed⟩ | ⟨⟨detail, hreport⟩, hfree⟩ := Dotenv.report?_of_load hl
    · simp [hreport, hobstructed]
    · simp [hreport, hfree]

variable {files : Dotenv.Tree} {cache : Dotenv.Cache}

theorem isClassified_values_iff :
    IsClassified (cache.values files).1 ↔ ¬IsRefusedCache files cache := by
  unfold Dotenv.Cache.values IsRefusedCache
  cases cache.loaded? with
  | some b => simp
  | none =>
    have hload := @isClassified_load_iff files cache.start cache.parents
    cases hl : Dotenv.load files cache.start cache.parents with
    | error fault =>
      rw [hl] at hload
      simpa using hload
    | ok b =>
      rw [hl] at hload
      simpa using hload

theorem isClassified_dotenv_iff :
    IsClassified (dotenv files cache args).1 ↔ ¬(args ≠ [] ∧ IsRefusedCache files cache) := by
  cases args with
  | nil => simp [dotenv, Fault.report?]
  | cons name args =>
    have hvalues := @isClassified_values_iff files cache
    simp only [dotenv, Dotenv.Cache.get]
    cases hv : (cache.values files).1 with
    | error fault =>
      rw [hv] at hvalues
      simpa [Except.map, Except.bind] using hvalues
    | ok values =>
      rw [hv] at hvalues
      refine iff_of_true ?_ (by simpa using hvalues)
      simp only [Except.map, Except.bind]
      split
      · trivial
      · simp [Fault.report?]

end Parts

theorem isClassified_call_iff {s : Surroundings} (hnow : IsUniversal s.now) (name : String)
    (args : List String) (state : State) :
    IsClassified ((call s name args).run.run state).1 ↔ ¬IsUnanswerableCall s state name args := by
  change IsClassified (call s name args state).1 ↔ _
  unfold call IsUnanswerableCall
  rcases Function.ofName? name with _ | (_ | _ | _ | _ | _ | _)
  · simp [Fault.report?]
  · simp [Function.IsUnanswerable]
  · simp [Function.IsUnanswerable, timestamp, isClassified_shiftedNow_iff]
  · simp [Function.IsUnanswerable, isClassified_datetime_iff hnow]
  · have hbounds := @isClassified_bounds_iff args
    cases hb : bounds args with
    | error fault =>
      rw [hb] at hbounds
      simpa [Function.IsUnanswerable] using hbounds
    | ok p =>
      rw [hb] at hbounds
      simpa [Function.IsUnanswerable] using hbounds
  · simp [Function.IsUnanswerable, isClassified_processEnv_iff]
  · simp [Function.IsUnanswerable, isClassified_dotenv_iff]

section Answers

theorem brace_not_mem_hex (width n : Nat) : '{' ∉ Text.hex width n := by
  have hdigit : ∀ d < 16, '{' ≠ Nat.digitChar d := by decide
  induction width generalizing n with
  | zero => exact List.not_mem_nil
  | succ width ih =>
    rw [Text.hex, List.mem_append, List.mem_singleton]
    exact not_or.2 ⟨ih (n / 16), hdigit _ (Nat.mod_lt _ (by decide))⟩

theorem hasOpening_guid (g : Generator) : hasOpening g.guid.1.toList = false := by
  refine hasOpening_of_not_mem ?_
  simp [Generator.guid, brace_not_mem_hex]

theorem hasOpening_toString (n : Int) : hasOpening (toString n).toList = false := by
  have hdigits (k : Nat) : '{' ∉ (toString k).toList := fun h =>
    absurd (Numeral.digit_of_mem_toString h) (by decide)
  refine hasOpening_of_not_mem ?_
  cases n with
  | ofNat k => exact hdigits k
  | negSucc k => simpa [Int.repr] using hdigits (k + 1)

/-- What functions answer when they are called in one and the same state. -/
def answersAt (s : Surroundings) (state : State) : Resolver Id := fun name args =>
  ((call s name args).run.run state).1

/-- The variables of the nearest file are read as they are read in a given state. -/
def ReadsAlike (s : Surroundings) (first state : State) : Prop :=
  (state.cache.values s.files).1 = (first.cache.values s.files).1

theorem dotenv_of_readsAlike {s : Surroundings} {first state : State} (h : ReadsAlike s first state)
    (args : List String) :
    (dotenv s.files state.cache args).1 = (dotenv s.files first.cache args).1 ∧
      ReadsAlike s first { state with cache := (dotenv s.files state.cache args).2 } := by
  cases args with
  | nil => exact ⟨rfl, h⟩
  | cons name args =>
    have h : (state.cache.values s.files).1 = (first.cache.values s.files).1 := h
    refine ⟨by simp only [dotenv, Dotenv.Cache.get, h], ?_⟩
    exact (Dotenv.Cache.values_values state.cache s.files).trans h

/-- Random texts differ from state to state, but hold no placeholder. -/
theorem follows_call (s : Surroundings) (first : State) (name : String) (args : List String) :
    Follows (ReadsAlike s first) SameOrPlain (call s name args) (answersAt s first name args) := by
  intro state hs
  have hsame (r : Except Fault String) : EndAlike SameOrPlain r r :=
    endAlike_refl (fun _ => .inl rfl) r
  change ReadsAlike s first (call s name args state).2 ∧
    EndAlike SameOrPlain (call s name args state).1 (call s name args first).1
  unfold call
  rcases Function.ofName? name with _ | (_ | _ | _ | _ | _ | _)
  · exact ⟨hs, hsame (.error (.undefined name))⟩
  · have hplain := hasOpening_guid state.generator
    have hfirst := hasOpening_guid first.generator
    rcases hg : state.generator.guid with ⟨text, generator⟩
    rcases hg' : first.generator.guid with ⟨text', generator'⟩
    rw [hg] at hplain
    rw [hg'] at hfirst
    exact ⟨hs, .inr ⟨text, text', rfl, rfl, .inr ⟨hplain, hfirst⟩⟩⟩
  · exact ⟨hs, hsame (timestamp s.now args)⟩
  · exact ⟨hs, hsame (datetime s.now args)⟩
  · rcases bounds args with fault | ⟨low, high⟩
    · exact ⟨hs, hsame (.error fault)⟩
    · dsimp only
      rcases state.generator.between low high with ⟨n, generator⟩
      rcases first.generator.between low high with ⟨n', generator'⟩
      have hplain : SameOrPlain (toString n) (toString n') :=
        .inr ⟨hasOpening_toString n, hasOpening_toString n'⟩
      exact ⟨hs, .inr ⟨toString n, toString n', rfl, rfl, hplain⟩⟩
  · exact ⟨hs, hsame (processEnv s.processEnv s.nameProblem? args)⟩
  · obtain ⟨hvalue, hnext⟩ := dotenv_of_readsAlike hs args
    refine ⟨hnext, ?_⟩
    rw [hvalue]
    exact hsame _

end Answers

section Texts

/-- The name of a placeholder that calls a function that cannot answer in kind. -/
def IsUnanswerableName (s : Surroundings) (state : State) (name : String) : Prop :=
  match name.toList with
  | '$' :: r => match Text.words r with
    | [] => False
    | function :: args => IsUnanswerableCall s state (String.ofList function) (args.map String.ofList)
  | _ => False

/-- The first placeholder at fault calls a function that cannot answer in kind. -/
def FailsUnanswered (s : Surroundings) (state : State) (scopes : Scopes) (text : String) : Prop :=
  ∃ address before name, Leads scopes (answersAt s state) text address before name ∧
    name ∉ before ∧ IsUnanswerableName s state name ∧
    ∀ earlier before' name', earlier < address →
      Leads scopes (answersAt s state) text earlier before' name' →
        faultAt scopes (answersAt s state) before' name' = none

theorem isClassified_iff_of_eq_error_iff {α β : Type} {r : Except Fault α} {r' : Except Fault β}
    (h : ∀ fault, r = .error fault ↔ r' = .error fault) : IsClassified r ↔ IsClassified r' := by
  cases r with
  | error fault => rw [(h fault).1 rfl, isClassified_error_iff, isClassified_error_iff]
  | ok a =>
    cases r' with
    | error fault => cases (h fault).2 rfl
    | ok b => simp

theorem not_isClassified_iff {α : Type} {r : Except Fault α} :
    ¬IsClassified r ↔ ∃ fault, r = .error fault ∧ fault.report? = none := by
  cases r with
  | error fault => simp [Option.eq_none_iff_forall_ne_some]
  | ok a => simp

variable {s : Surroundings} {state : State} {scopes : Scopes}

theorem isClassified_valueOf_iff (hnow : IsUniversal s.now) {name : String} :
    IsClassified (valueOf (m := Id) scopes (answersAt s state) name) ↔ ¬IsUnanswerableName s state name := by
  unfold IsUnanswerableName
  split
  · rename_i r hr
    simp only [valueOf, hr]
    cases Text.words r with
    | nil => exact iff_of_true ⟨_, rfl⟩ id
    | cons function args => exact isClassified_call_iff hnow (String.ofList function) _ state
  · rename_i hn
    refine iff_of_true ?_ id
    unfold valueOf
    split
    · rename_i r hr
      exact absurd hr (hn r)
    · split
      · trivial
      · exact ⟨_, rfl⟩

theorem not_isClassified_substitute_iff (hnow : IsUniversal s.now) {text : String} :
    ¬IsClassified (substitute (m := Id) text scopes (answersAt s state)) ↔
      FailsUnanswered s state scopes text := by
  rw [not_isClassified_iff]
  constructor
  · rintro ⟨fault, hf, hr⟩
    obtain ⟨address, before, name, hl, hat, hfirst⟩ := substitute_eq_error_iff_failsFirst.1 hf
    obtain ⟨-, rfl⟩ | ⟨hm, hv | ⟨value, -, -, -, rfl⟩⟩ := faultAt_eq_some_iff.1 hat
    · cases hr
    · have hname := not_isClassified_iff.2 ⟨fault, hv, hr⟩
      rw [isClassified_valueOf_iff hnow, not_not] at hname
      exact ⟨address, before, name, hl, hm, hname, hfirst⟩
    · cases hr
  · rintro ⟨address, before, name, hl, hm, hname, hfirst⟩
    rw [← not_not (a := IsUnanswerableName s state name),
      ← @isClassified_valueOf_iff s state scopes hnow] at hname
    obtain ⟨fault, hv, hr⟩ := not_isClassified_iff.1 hname
    have hat := faultAt_eq_some_iff.2 (.inr ⟨hm, .inl hv⟩)
    exact ⟨fault, substitute_eq_error_iff_failsFirst.2 ⟨address, before, name, hl, hat, hfirst⟩, hr⟩

/-- Functions and texts end in a value or in a fault of one of the six kinds, save where a function
reads an overlong integer, a name that is refused, or a file that may not be looked for. In a text only
the first placeholder at fault counts. -/
theorem isClassified_iff_not_unanswerable (hnow : IsUniversal s.now) (state : State) :
    (∀ name args, IsClassified ((call s name args).run.run state).1 ↔ ¬IsUnanswerableCall s state name args) ∧
    ∀ text scopes, IsClassified ((substitute text scopes (call s)).run.run state).1 ↔
      ¬FailsUnanswered s state scopes text := by
  refine ⟨fun name args => isClassified_call_iff hnow name args state, fun text scopes => ?_⟩
  rw [← not_isClassified_substitute_iff hnow, not_not]
  have hstate : ReadsAlike s state state := rfl
  exact isClassified_iff_of_eq_error_iff fun fault =>
    substitute_eq_error_iff_of_follows (follows_call s state) hstate

def atEpoch : Surroundings := { now := ⟨62135596800000000, 0⟩ }

theorem isClassified_atEpoch : IsUniversal atEpoch.now ∧
    IsClassified ((call atEpoch "randomInt" ["1", "x"]).run.run {}).1 ∧
    ¬FailsUnanswered atEpoch {} {} "{{host}} {{$guid}}" := by
  have hnow : IsUniversal atEpoch.now := ⟨rfl, by decide⟩
  obtain ⟨hcall, htext⟩ := isClassified_iff_not_unanswerable hnow {}
  have hvalue : ((substitute "{{host}} {{$guid}}" {} (call atEpoch)).run.run {}).1 =
      .error (.undefined "host") := by
    decide +kernel
  refine ⟨hnow, (hcall _ _).2 ?_, (htext _ _).1 (by rw [hvalue]; exact ⟨_, rfl⟩)⟩
  rintro ⟨function, hf, h⟩
  cases hf
  obtain h | ⟨-, h⟩ := h
  all_goals
    obtain ⟨sign, digits, hw, hlong⟩ := h
    have hp := Numeral.parse_eq_error_iff.2 ⟨sign, digits, hw, hlong, rfl⟩
    cases hp

def manyOnes : List Char := List.replicate (Numeral.digitLimit + 1) '1'

theorem isOverlong_manyOnes : IsOverlong (String.ofList manyOnes) := by
  refine ⟨[], manyOnes, ⟨.inl rfl, ?_, List.cons_ne_nil _ _, [], .inl rfl, ?_⟩, ?_⟩
  · intro c hc
    rw [List.eq_of_mem_replicate hc]
    decide
  · rw [String.toList_ofList, List.nil_append, List.append_nil]
  · rw [manyOnes, List.length_replicate]
    exact Nat.lt_succ_self _

theorem isUnanswerableCall_timestamp {amount : String} (h : IsOverlong amount) (unit : String)
    (s : Surroundings) (state : State) : IsUnanswerableCall s state "timestamp" [amount, unit] :=
  ⟨.timestamp, rfl, h⟩

/-- A shift of the time by an overlong amount ends in another error. -/
theorem not_forall_isClassified : ¬∀ s state, IsUniversal s.now →
    (∀ name args, IsClassified ((call s name args).run.run state).1) ∧
    ∀ text scopes, IsClassified ((substitute text scopes (call s)).run.run state).1 := by
  intro h
  have hnow : IsUniversal atEpoch.now := ⟨rfl, by decide⟩
  obtain ⟨hcall, -⟩ := h atEpoch {} hnow
  simp only [isClassified_call_iff hnow] at hcall
  exact hcall _ _ (isUnanswerableCall_timestamp isOverlong_manyOnes "s" _ _)

end Texts

end TemplatedRequests.Builtins
