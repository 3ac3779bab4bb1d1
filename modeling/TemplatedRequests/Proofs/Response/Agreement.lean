import TemplatedRequests.Proofs.Exchange.Recorded
import TemplatedRequests.Proofs.Json.Finite
import TemplatedRequests.Proofs.Response.Replaced

/-!
The document that is told of an answer, and the document that values are extracted from. They are
the same, unless only a parameter of the content type names the format, or a number in the body is
not finite.
-/

namespace TemplatedRequests.Response

open Exchange (declaresJson)

/-- The media type names the format, parameters aside. -/
def namesJson (contentType : String) : Prop :=
  "json".toList <:+: ContentType.mediaType contentType

variable {contentType body : String} {D : Json.Value}

theorem declaresJson_of_namesJson (h : namesJson contentType) : declaresJson contentType = true := by
  have hmedia : ContentType.mediaType contentType <:+: Text.lower contentType.toList :=
    (Text.trim_infix _).trans (List.takeWhile_prefix _).isInfix
  exact Text.occurs_iff.2 (h.trans hmedia)

theorem ofHeader_eq_json_iff : ContentType.ofHeader contentType = .json ↔ namesJson contentType := by
  rw [namesJson, ← Text.occurs_iff]
  unfold ContentType.ofHeader
  by_cases h : Text.occurs "json".toList (ContentType.mediaType contentType) = true
  · exact iff_of_true (if_pos h) h
  · refine iff_of_false ?_ h
    rw [if_neg h]
    repeat' split
    all_goals nofun

def plain (contentType body : String) : Response :=
  ⟨.ofEntries [("Content-Type", contentType)], Text.Utf8.encode body.toList⟩

theorem contentType_plain : (plain contentType body).contentType = .ofHeader contentType := by
  have hname : (Text.lowerCase "Content-Type" == Text.lowerCase "content-type") = true := by
    decide +kernel
  have hentries : (plain contentType body).headers.entries = [("Content-Type", contentType)] := rfl
  have hheader : (plain contentType body).header? "content-type" = some contentType := by
    rw [header?, hentries]
    exact congrArg (Option.map Prod.snd) (List.find?_cons_of_pos hname)
  rw [Response.contentType, hheader]
  rfl

theorem document_plain_eq_ok_iff :
    (plain contentType body).document = .ok D ↔ Json.read .finite body.toList = .ok D :=
  document_eq_ok_iff_of_decode (Text.Utf8.decode_encode _)

theorem documentOfBody_eq_ok_iff (hD : D ≠ .null) : documentOfBody body contentType = .ok D ↔
    declaresJson contentType = true ∧ Json.read .all body.toList = .ok D := by
  have hempty : body.isEmpty = true → Json.read .all body.toList ≠ .ok D := by
    intro h hr
    rw [String.isEmpty_iff.1 h] at hr
    cases hr
  have hundeclared : contentType.isEmpty = true → ¬declaresJson contentType = true := by
    intro h
    rw [String.isEmpty_iff.1 h]
    decide
  unfold documentOfBody
  split
  · rename_i h
    rcases Bool.or_eq_true_iff.1 h with hb | hc
    · exact ⟨fun h => absurd (Except.ok.inj h).symm hD, fun h => absurd h.2 (hempty hb)⟩
    · exact ⟨fun h => absurd (Except.ok.inj h).symm hD, fun h => absurd h.1 (hundeclared hc)⟩
  · split
    · rename_i hj
      have hj : declaresJson contentType = true := hj
      rw [hj]
      cases Json.read .all body.toList with
      | ok E => simp
      | error e => cases e <;> simp [hD.symm]
    · rename_i hj
      exact ⟨fun h => absurd (Except.ok.inj h).symm hD, fun h => absurd h.1 hj⟩

theorem extractText_root_eq_ok_iff {r : Response} (hD : r.document = .ok D) :
    r.extractText "$" none = .ok D.toText ↔ r.contentType = .json := by
  constructor
  · intro h
    have hpath : Capture.Path.ofText "$" = ⟨.jsonPath, "$"⟩ := by decide
    by_contra hn
    rw [extractText, hpath, Option.getD_none, extract] at h
    simp [hn] at h
  · exact fun h => extractText_root hD h

/-- The document that is told is the one that is extracted from, save that null stands for none. -/
def Agree (contentType body : String) : Prop :=
  ∀ D, D ≠ .null → (documentOfBody body contentType = .ok D ↔
    (plain contentType body).document = .ok D ∧
      (plain contentType body).extractText "$" none = .ok D.toText)

theorem agree_iff : Agree contentType body ↔ ¬∃ D, D ≠ .null ∧
    Json.read .all body.toList = .ok D ∧ declaresJson contentType = true ∧
      (¬namesJson contentType ∨
        ∃ spot, Json.Reaches .finite body.toList spot ∧ spot.IsNonFinite) := by
  have hextract : ∀ D, (plain contentType body).document = .ok D ∧
      (plain contentType body).extractText "$" none = .ok D.toText ↔
        Json.read .finite body.toList = .ok D ∧ namesJson contentType := by
    intro D
    have htype : (plain contentType body).contentType = .ofHeader contentType := contentType_plain
    rw [← ofHeader_eq_json_iff, ← htype, ← document_plain_eq_ok_iff]
    exact and_congr_right extractText_root_eq_ok_iff
  constructor
  · rintro h ⟨D, hD, hread, hdeclares, hbad⟩
    obtain ⟨hfinite, hnames⟩ := (hextract D).1
      ((h D hD).1 ((documentOfBody_eq_ok_iff hD).2 ⟨hdeclares, hread⟩))
    obtain hnot | hspot := hbad
    · exact hnot hnames
    · exact (Json.read_finite_eq_ok_iff.1 hfinite).2 hspot
  · intro h D hD
    rw [hextract, documentOfBody_eq_ok_iff hD, Json.read_finite_eq_ok_iff]
    constructor
    · rintro ⟨hdeclares, hread⟩
      by_contra hn
      refine h ⟨D, hD, hread, hdeclares, ?_⟩
      by_contra hboth
      obtain ⟨hnames, hspot⟩ := not_or.1 hboth
      exact hn ⟨⟨hread, hspot⟩, not_not.1 hnames⟩
    · rintro ⟨⟨hread, -⟩, hnames⟩
      exact ⟨declaresJson_of_namesJson hnames, hread⟩

/-- A parameter that names the format is enough for a document to be told, and so is a body that is
no finite number. -/
theorem not_agree_parameter_and_not_agree_nan :
    ¬Agree "text/plain; a=json" "[1]" ∧ ¬Agree "application/json" "NaN" := by
  constructor
  · intro h
    have htold : documentOfBody "[1]" "text/plain; a=json" = .ok (.array [.int 1]) :=
      (documentOfBody_eq_ok_iff (by simp)).2 ⟨by decide +kernel, Json.read_ofList rfl⟩
    obtain ⟨hdocument, hextract⟩ := (h (.array [.int 1]) (by simp)).1 htold
    have htype := (extractText_root_eq_ok_iff hdocument).1 hextract
    rw [contentType_plain] at htype
    revert htype
    decide +kernel
  · intro h
    have htold : documentOfBody "NaN" "application/json" = .ok (.float .nan) :=
      (documentOfBody_eq_ok_iff (by simp)).2 ⟨by decide +kernel, Json.read_ofList rfl⟩
    obtain ⟨hdocument, -⟩ := (h (.float .nan) (by simp)).1 htold
    cases document_plain_eq_ok_iff.1 hdocument

end TemplatedRequests.Response
