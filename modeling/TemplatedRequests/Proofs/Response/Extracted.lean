import TemplatedRequests.Proofs.Json.Fitting
import TemplatedRequests.Proofs.Json.Paired
import TemplatedRequests.Proofs.Json.Written
import TemplatedRequests.Response

/-!
What is extracted from a response with a document at a path that is written step by step.
-/

namespace TemplatedRequests.Response

open Json

/-- The body is a document, of which strings can hold all that is text. -/
structure Holds (r : Response) (D : Value) : Prop where
  document : r.document = .ok D
  paired : IsPairedBody r.body

variable {r : Response} {D : Value} {path : Json.Path} {type? : Option ContentType}

theorem document_eq_ok_iff_of_decode {text : List Char} (h : Text.Utf8.decode r.body = .ok text) :
    r.document = .ok D ↔ Json.read .finite text = .ok D := by
  rw [document, h]
  cases hread : Json.read .finite text with
  | ok v => simp [hread]
  | error stop => cases stop <;> simp [hread]

theorem isDistinct_of_document (h : r.document = .ok D) : D.IsDistinct := by
  unfold document at h
  split at h
  · cases h
  · split at h <;> cases h
    exact isDistinct_of_read ‹_›

theorem ofText_render (h : path.IsWritable) :
    Capture.Path.ofText path.render = ⟨.jsonPath, path.render⟩ := by
  have hrooted : Capture.isRooted path.render.toList = true := by
    simp [Capture.isRooted, Path.render]
  have hheader : Text.after? Capture.headerStart path.render.toList = none := by
    rw [Path.render, String.toList_ofList]
    rfl
  simp only [Capture.Path.ofText, Capture.Path.ofChars, trim_render h, hheader, hrooted,
    Bool.true_or, if_true, String.ofList_toList]

theorem extractText_render_eq (hD : r.document = .ok D) (htype : type?.getD r.contentType = .json)
    (h : path.IsWritable) :
    r.extractText path.render type? = (path.follow D).map Value.toText := by
  rw [extractText, ofText_render h, htype]
  simp only [extract, if_true, valueAt, hD, parse_render h]
  rfl

/-- Every written path is read as it was meant. What stands at it in the document is extracted, and
if there is nothing, the first step that does not exist is named. -/
theorem extractText_render (hD : r.Holds D) (htype : type?.getD r.contentType = .json)
    (h : path.IsWritable) :
    Path.parse path.render.toList = .ok path ∧
    (∀ v, StandsAt v D path → r.extractText path.render type? = .ok v.toText) ∧
    (∀ s, IsFirstMissing D path s → ∃ fault, r.extractText path.render type? = .error fault ∧
      fault.report? = some ⟨.undefinedVariable, s.absence⟩) ∧
    (IsLocation D path ∨ ∃ s, IsFirstMissing D path s) := by
  have hdistinct := isDistinct_of_document hD.document
  rw [extractText_render_eq hD.document htype h]
  refine ⟨parse_render h, fun v hv => ?_, fun s hs => ⟨s.fault, ?_, s.report?_fault⟩, ?_⟩
  · rw [(follow_eq_ok_iff hdistinct).2 hv]
    rfl
  · rw [follow_of_isFirstMissing hdistinct hs]
    rfl
  · exact (Classical.em _).imp_right fun hl => exists_isFirstMissing hdistinct hl

/-- A response with a list of one number in a field whose name holds a blank and a bracket. -/
def listed : Response :=
  ⟨.ofEntries [("Content-Type", "application/json")], "\x7b\"a ]\":[7]\x7d".toUTF8.toList⟩

theorem decode_listed : Text.Utf8.decode listed.body = .ok "\x7b\"a ]\":[7]\x7d".toList := by
  decide +kernel

theorem holds_listed : listed.Holds (.object [("a ]", .array [.int 7])]) where
  document := by
    refine (document_eq_ok_iff_of_decode decode_listed).2 ?_
    refine read_ofList ?_
    with_unfolding_all rfl
  paired text h := by
    cases decode_listed.symm.trans h
    decide

theorem contentType_listed : listed.contentType = .json := by
  decide +kernel

theorem isWritable_listed {n : Nat} (h : (toString n).toList.length ≤ Numeral.digitLimit) :
    Path.IsWritable [.field "a ]", .index n] where
  step := by
    have hname : (Step.field "a ]").IsWritable := ⟨by decide, by decide, by decide⟩
    have hindex : (Step.index n).IsWritable := h
    simp [hname, hindex]
  last := by
    rintro name c ⟨⟩

theorem standsAt_listed : StandsAt (.int 7) (.object [("a ]", .array [.int 7])])
    [.field "a ]", .index 0] :=
  .field List.mem_cons_self (.item rfl .here)

theorem extractText_listed : listed.Holds (.object [("a ]", .array [.int 7])]) ∧
    listed.extractText "$.a ][0]" none = .ok "7" ∧
    ∃ fault, listed.extractText "$.a ][1]" none = .error fault ∧
      fault.report? = some ⟨.undefinedVariable, "Array index 1 out of bounds"⟩ := by
  have htype : (none : Option ContentType).getD listed.contentType = .json := contentType_listed
  have hfirst : Path.render [.field "a ]", .index 0] = "$.a ][0]" := rfl
  have hsecond : Path.render [.field "a ]", .index 1] = "$.a ][1]" := rfl
  rw [← hfirst, ← hsecond]
  obtain ⟨-, hvalue, -⟩ :=
    extractText_render holds_listed htype (isWritable_listed (n := 0) (by decide))
  obtain ⟨-, -, hmissing, -⟩ :=
    extractText_render holds_listed htype (isWritable_listed (n := 1) (by decide))
  refine ⟨holds_listed, hvalue _ standsAt_listed, hmissing (.index 1) ?_⟩
  refine ⟨[.field "a ]"], [], rfl, ⟨_, .field List.mem_cons_self .here⟩, ?_⟩
  rintro ⟨v, hv⟩
  cases hv with
  | field hm below =>
    cases List.mem_singleton.1 hm
    cases below with
    | item hi _ => cases hi

end TemplatedRequests.Response
