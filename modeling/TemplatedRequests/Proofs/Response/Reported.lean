import TemplatedRequests.Proofs.Json.Location
import TemplatedRequests.Proofs.Json.Refused
import TemplatedRequests.Proofs.Text.Utf8
import TemplatedRequests.Response

/-!
Which extractions end in a value, or in a fault that is reported as something missing or as invalid
syntax. All do, unless the body or the path holds an integer that is too long to be converted, or
values in the body lie too deep.
-/

namespace TemplatedRequests

/-- Callers are told that something is missing, or that the syntax is invalid. -/
def Fault.IsReported (fault : Fault) : Prop :=
  ∃ detail, fault.report? = some ⟨.undefinedVariable, detail⟩ ∨
    fault.report? = some ⟨.invalidSyntax, detail⟩

def IsReported {α : Type} (x : Except Fault α) : Prop := ∀ fault, x = .error fault → fault.IsReported

section Reported

variable {α β : Type}

@[simp] theorem isReported_ok (a : α) : IsReported (.ok a : Except Fault α) := nofun

@[simp] theorem isReported_error_iff {fault : Fault} :
    IsReported (.error fault : Except Fault α) ↔ fault.IsReported := by
  simp [IsReported]

@[simp] theorem isReported_map {f : α → β} {x : Except Fault α} :
    IsReported (x.map f) ↔ IsReported x := by
  cases x <;> simp [Except.map]

theorem not_isReported_iff {x : Except Fault α} :
    ¬IsReported x ↔ ∃ fault, x = .error fault ∧ ¬fault.IsReported := by
  simp [IsReported]

theorem not_isReported_of_report?_eq_none {fault : Fault} (h : fault.report? = none) :
    ¬fault.IsReported := by
  rintro ⟨detail, hd | hd⟩ <;> cases h.symm.trans hd

end Reported

namespace Json

variable {numbers : Numbers} {s : Spot} {p : Part} {cs : List Char}

theorem exists_refuses_not_isReported_iff :
    (∃ fault, Refuses numbers s fault ∧ ¬fault.IsReported) ↔ s.IsOverlong ∨ s.IsTooDeep := by
  constructor
  · rintro ⟨fault, ⟨h, hl⟩ | ⟨-, h, hl⟩ | ⟨-, h⟩ | h, hreported⟩
    · exact .inl ⟨_, _, h, hl⟩
    · exact absurd ⟨_, .inr rfl⟩ hreported
    · exact absurd ⟨_, .inr rfl⟩ hreported
    · exact .inr ⟨rfl, _, h⟩
  · obtain ⟨room, cs⟩ := s
    rintro (⟨l, r, h, hl⟩ | ⟨hroom, c, h⟩)
    · exact ⟨_, .overlong h hl, not_isReported_of_report?_eq_none rfl⟩
    · cases hroom
      exact ⟨_, .nesting h, not_isReported_of_report?_eq_none rfl⟩

/-- Brackets that hold an index of more digits than are converted. -/
def Part.IsOverlong : Part → Prop
  | .name _ => False
  | .brackets cs => isIndex (Text.trim cs) = true ∧ Numeral.digitLimit < (Text.trim cs).length

def Path.parts (cs : List Char) : List Part := partsAfter [] (dropRoot (Text.trim cs))

theorem exists_step?_eq_error_iff : (∃ long, p.step? = .error long) ↔ p.IsOverlong := by
  cases p with
  | name cs => simp [Part.step?, Part.IsOverlong]
  | brackets cs =>
    have hlimited := @Numeral.limited_eq_error_iff ((Text.trim cs).map fun c => c.toNat - '0'.toNat)
    rw [List.length_map] at hlimited
    rw [Part.step?, Part.IsOverlong]
    split
    · rename_i hindex
      cases hl : Numeral.limited ((Text.trim cs).map fun c => c.toNat - '0'.toNat) with
      | error long => exact iff_of_true ⟨long, rfl⟩ ⟨hindex, (hlimited.1 hl).1⟩
      | ok n =>
        have hshort : ¬Numeral.digitLimit < (Text.trim cs).length := fun h => by
          cases hl.symm.trans (hlimited.2 ⟨h, rfl⟩)
        simp [hshort, Except.map]
    · simp [*]

theorem exists_filterMapM_eq_error_iff {α β ε : Type} {f : α → Except ε (Option β)} {xs : List α} :
    (∃ e, xs.filterMapM f = .error e) ↔ ∃ x ∈ xs, ∃ e, f x = .error e := by
  induction xs with
  | nil => exact iff_of_false nofun nofun
  | cons x xs ih =>
    rw [List.filterMapM_cons, List.exists_mem_cons_iff, ← ih]
    cases f x with
    | error e => exact iff_of_true ⟨e, rfl⟩ (.inl ⟨e, rfl⟩)
    | ok b =>
      cases b <;> cases xs.filterMapM f <;> simp [bind, Except.bind, pure, Except.pure]

theorem exists_parse_eq_error_iff : (∃ long, Path.parse cs = .error long) ↔
    ∃ part ∈ Path.parts cs, part.IsOverlong := by
  simp only [← exists_step?_eq_error_iff]
  exact exists_filterMapM_eq_error_iff

theorem isReported_follow (path : Path) (document : Value) : IsReported (path.follow document) := by
  induction path generalizing document with
  | nil => exact isReported_ok document
  | cons s path ih =>
    rw [Path.follow]
    obtain ⟨v, hv⟩ | hv := Step.follow_cases document s
    · simp only [hv]
      exact ih v
    · simp only [hv, isReported_error_iff]
      exact ⟨s.absence, .inl s.report?_fault⟩

end Json

namespace Response

variable {r : Response}

/-- The body holds an integer that is too long, or values that lie too deep, where it is read. -/
def Exceeds (r : Response) : Prop :=
  ∃ text spot, Text.Utf8.decode r.body = .ok text ∧ Json.Reaches .finite text spot ∧
    (spot.IsOverlong ∨ spot.IsTooDeep)

/-- Extraction reads the body of the response, and it exceeds what can be read, or it can be read
and the path holds an index that is too long. -/
def Overtaxes (r : Response) (path : Capture.Path) (type : ContentType) : Prop :=
  path.kind = .jsonPath ∧ type = .json ∧
    (r.Exceeds ∨ (∃ D, r.document = .ok D) ∧
      ∃ part ∈ Json.Path.parts path.expression.toList, part.IsOverlong)

theorem document_eq_refused_iff {fault : Fault} (h : ¬fault.IsReported) :
    r.document = .error fault ↔ ∃ text, Text.Utf8.decode r.body = .ok text ∧
      Json.read .finite text = .error (.refused fault) := by
  unfold document
  cases Text.Utf8.decode r.body with
  | error flaw =>
    refine iff_of_false ?_ nofun
    rintro ⟨⟩
    exact h ⟨_, .inr rfl⟩
  | ok text =>
    cases hread : Json.read .finite text with
    | ok D => simp [hread]
    | error e =>
      cases e with
      | refused f => simp [hread]
      | malformed problem place =>
        have hne : fault ≠ .unparsableBody (Json.problemText problem place) := by
          rintro rfl
          exact h ⟨_, .inr rfl⟩
        simp [hread, hne.symm]

theorem not_isReported_document_iff : ¬IsReported r.document ↔ r.Exceeds := by
  rw [not_isReported_iff]
  constructor
  · rintro ⟨fault, hf, hreported⟩
    obtain ⟨text, htext, hread⟩ := (document_eq_refused_iff hreported).1 hf
    obtain ⟨spot, hspot, hrefuses⟩ := Json.read_refused_iff.1 hread
    have hspot' := Json.exists_refuses_not_isReported_iff.1 ⟨fault, hrefuses, hreported⟩
    exact ⟨text, spot, htext, hspot, hspot'⟩
  · rintro ⟨text, spot, htext, hspot, hexceeds⟩
    obtain ⟨fault, hrefuses, hreported⟩ := Json.exists_refuses_not_isReported_iff.2 hexceeds
    have hread := Json.read_refused_iff.2 ⟨spot, hspot, hrefuses⟩
    exact ⟨fault, (document_eq_refused_iff hreported).2 ⟨text, htext, hread⟩, hreported⟩

theorem isReported_valueAt_iff {path : String} : IsReported (r.valueAt path) ↔
    ¬(r.Exceeds ∨ (∃ D, r.document = .ok D) ∧
      ∃ part ∈ Json.Path.parts path.toList, part.IsOverlong) := by
  rw [← not_isReported_document_iff, ← Json.exists_parse_eq_error_iff]
  unfold valueAt
  cases r.document with
  | error fault => simp [bind, Except.bind]
  | ok D =>
    cases Json.Path.parse path.toList with
    | error long =>
      have hlong : ¬(Fault.numeral long).IsReported := not_isReported_of_report?_eq_none rfl
      simp [bind, Except.bind, hlong]
    | ok p => simp [bind, Except.bind, Json.isReported_follow]

theorem isReported_extract_iff {path : Capture.Path} {type : ContentType} :
    IsReported (r.extract path type) ↔ ¬r.Overtaxes path type := by
  unfold extract Overtaxes
  cases hk : path.kind with
  | header =>
    refine iff_of_true ?_ nofun
    dsimp only
    split
    · exact isReported_ok _
    · exact isReported_error_iff.2 ⟨_, .inl rfl⟩
  | jsonPath =>
    by_cases htype : type = .json
    · simp only [htype, if_true, isReported_map, isReported_valueAt_iff, true_and]
    · simp only [htype, if_false, false_and, and_false, not_false_eq_true, iff_true]
      exact isReported_error_iff.2 ⟨_, .inr rfl⟩
  | xpath => exact iff_of_true (isReported_error_iff.2 ⟨_, .inr rfl⟩) nofun

theorem isReported_capture_iff {directives : List Capture.Directive} {type? : Option ContentType} :
    IsReported (r.capture directives type?) ↔ ∀ before d after, directives = before ++ d :: after →
      (∀ e ∈ before, ∃ v, r.extract e.path (type?.getD r.contentType) = .ok v) →
        IsReported (r.extract d.path (type?.getD r.contentType)) := by
  unfold capture
  generalize (∅ : Bindings) = known
  induction directives generalizing known with
  | nil => exact iff_of_true nofun (by simp)
  | cons d directives ih =>
    rw [List.foldlM_cons]
    cases he : r.extract d.path (type?.getD r.contentType) with
    | error fault =>
      simp only [bind, Except.bind, isReported_error_iff]
      constructor
      · rintro hreported (_ | ⟨e, before⟩) d' after hd hbefore
        · obtain ⟨rfl, rfl⟩ := List.cons.inj hd
          simpa [he] using hreported
        · obtain ⟨rfl, rfl⟩ := List.cons.inj hd
          obtain ⟨v, hv⟩ := hbefore d List.mem_cons_self
          cases he.symm.trans hv
      · intro h
        simpa [he] using h [] d directives rfl (by simp)
    | ok v =>
      refine (ih (known.insert d.variableName v)).trans ⟨fun h => ?_, fun h => ?_⟩
      · rintro (_ | ⟨e, before⟩) d' after hd hbefore
        · obtain ⟨rfl, rfl⟩ := List.cons.inj hd
          simp [he]
        · obtain ⟨rfl, rfl⟩ := List.cons.inj hd
          exact h before d' after rfl fun e hm => hbefore e (List.mem_cons_of_mem d hm)
      · rintro before d' after rfl hbefore
        refine h (d :: before) d' after rfl fun e hm => ?_
        rcases List.mem_cons.1 hm with rfl | hm
        · exact ⟨v, he⟩
        · exact hbefore e hm

/-- Extraction ends in a value, or is reported as something missing or as invalid syntax, save where
it is overtaxed by an integer that is too long or by values that lie too deep. Of several extractions
only the first one that fails counts. -/
theorem isReported_iff_not_overtaxes (r : Response) (type? : Option ContentType) :
    (∀ path type, IsReported (r.extract path type) ↔ ¬r.Overtaxes path type) ∧
    (∀ path, IsReported (r.extractText path type?) ↔
      ¬r.Overtaxes (.ofText path) (type?.getD r.contentType)) ∧
    ∀ directives, IsReported (r.capture directives type?) ↔
      ∀ before d after, directives = before ++ d :: after →
        (∀ e ∈ before, ∃ v, r.extract e.path (type?.getD r.contentType) = .ok v) →
          ¬r.Overtaxes d.path (type?.getD r.contentType) := by
  refine ⟨fun _ _ => isReported_extract_iff, fun _ => isReported_extract_iff, fun _ => ?_⟩
  simp only [isReported_capture_iff, isReported_extract_iff]

theorem readLiteral?_replicate (n : Nat) : Json.readLiteral? (List.replicate (n + 1) '1') =
    some (⟨false, List.replicate (n + 1) '1', [], [], []⟩, []) := by
  have hdigit : Json.isDigit '1' = true := rfl
  simp [Json.readLiteral?, Json.wholePart, Json.fractionPart, Json.powerPart, Json.powerSignPart,
    List.replicate_succ, hdigit]

theorem reaches_replicate_iff {numbers : Json.Numbers} {n : Nat} {spot : Json.Spot} :
    Json.Reaches numbers (List.replicate (n + 1) '1') spot ↔
      spot = ⟨Json.nestingLimit, List.replicate (n + 1) '1'⟩ := by
  have hskip : Json.skipBlanks (List.replicate (n + 1) '1') = List.replicate (n + 1) '1' := by
    simp [Json.skipBlanks, List.replicate_succ, Json.isBlank]
  rw [Json.Reaches, hskip, List.replicate_succ]
  constructor
  · intro h
    rcases h.cases_head with rfl | ⟨t, ht, -⟩
    · rfl
    · cases ht
  · rintro rfl
    exact .refl

/-- A response that is a number with one digit more than are converted. -/
def overlong : Response :=
  ⟨.ofEntries [("Content-Type", "application/json")],
    Text.Utf8.encode (List.replicate (Numeral.digitLimit + 1) '1')⟩

/-- A body can end extraction in another error though no values in it lie too deep. -/
theorem not_forall_isReported : ¬∀ r : Response,
    (∀ text spot, Text.Utf8.decode r.body = .ok text → Json.Reaches .finite text spot →
      ¬spot.IsTooDeep) → ∀ path, IsReported (r.extractText path none) := by
  intro h
  have htext : Text.Utf8.decode overlong.body =
      .ok (List.replicate (Numeral.digitLimit + 1) '1') := Text.Utf8.decode_encode _
  refine isReported_extract_iff.1 (h overlong ?_ "$") ⟨rfl, by decide +kernel, .inl ?_⟩
  · rintro text spot ht hspot ⟨hroom, -⟩
    cases htext.symm.trans ht
    cases reaches_replicate_iff.1 hspot
    cases hroom
  · refine ⟨_, _, htext, reaches_replicate_iff.2 rfl, .inl ⟨_, _, readLiteral?_replicate _, rfl, ?_⟩⟩
    rw [List.length_replicate]
    exact Nat.lt_succ_self _

end Response

end TemplatedRequests
