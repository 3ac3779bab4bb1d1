import TemplatedRequests.Proofs.Json.Compact
import TemplatedRequests.Proofs.Response.Extracted
import TemplatedRequests.Proofs.Text.Utf8

/-!
The document of a response in compact form, and the response that has this form for its body.
-/

namespace TemplatedRequests.Response

open Json

variable {r s : Response} {D E : Value} {type? : Option ContentType}

def withBody (r : Response) (text : String) : Response :=
  { r with body := Text.Utf8.encode text.toList }

theorem fits_of_document (h : r.document = .ok D) : D.Fits nestingLimit := by
  unfold document at h
  split at h
  · cases h
  · split at h <;> cases h
    exact fits_of_read ‹_›

theorem document_withBody {text : String} (h : Json.read .finite text.toList = .ok D) :
    (r.withBody text).document = .ok D :=
  (document_eq_ok_iff_of_decode (Text.Utf8.decode_encode _)).2 h

theorem document_withBody_render (h : E.IsReadable .finite nestingLimit) :
    (r.withBody E.render).document = .ok E.merged := by
  refine document_withBody ?_
  rw [Value.render, String.toList_ofList]
  exact read_write h

theorem extractText_congr (hheaders : s.headers = r.headers) (hdocument : s.document = r.document)
    (path : String) (type? : Option ContentType) :
    s.extractText path type? = r.extractText path type? := by
  have hheader : s.header? = r.header? := by
    unfold header?
    rw [hheaders]
  have hvalue : s.valueAt = r.valueAt := by
    unfold valueAt
    rw [hdocument]
  have hextract : s.extract = r.extract := by
    funext path type
    unfold extract
    rw [hheader, hvalue]
  rw [extractText, extractText, contentType, contentType, hextract, hheader]

theorem extractText_root (hD : r.document = .ok D) (htype : type?.getD r.contentType = .json) :
    r.extractText "$" type? = .ok D.toText := by
  have hroot : Path.IsWritable [] := ⟨by simp, by simp⟩
  have hrender : Path.render [] = "$" := rfl
  rw [← hrender, extractText_render_eq hD htype hroot]
  rfl

/-- The compact form of a document that is no text is read as the same document, and as the body of
the response it changes no extraction. A name that comes twice in an object has the later value, in
the earlier place. -/
theorem extractText_withBody (hD : r.document = .ok D)
    (htype : type?.getD r.contentType = .json) (hnot : ∀ s, D ≠ .text s)
    (back : ∀ x path, StandsAt (.float x) D path → ReadsBack .finite x) :
    D.IsDistinct ∧
    (∀ E : Value, E.IsReadable .finite nestingLimit →
      (r.withBody E.render).document = .ok E.merged) ∧
    ∃ c, r.extractText "$" type? = .ok c ∧
      Json.read .finite c.toList = .ok D ∧ (r.withBody c).document = .ok D ∧
      (∀ path type?, (r.withBody c).extractText path type? = r.extractText path type?) ∧
      (r.withBody c).extractText "$" type? = .ok c := by
  have hdistinct := isDistinct_of_document hD
  have htext : D.toText = D.render := by
    cases D with
    | text s => exact absurd rfl (hnot s)
    | _ => rfl
  have hread : Json.read .finite D.render.toList = .ok D := by
    rw [Value.render, String.toList_ofList, read_write ((fits_of_document hD).isReadable back),
      hdistinct.merged_eq_self]
  have hdocument := document_withBody (r := r) hread
  have hroot : r.extractText "$" type? = .ok D.render := by
    rw [extractText_root hD htype, htext]
  have hsame : ∀ path type?,
      (r.withBody D.render).extractText path type? = r.extractText path type? :=
    extractText_congr rfl (hdocument.trans hD.symm)
  exact ⟨hdistinct, fun E hE => document_withBody_render hE, D.render, hroot, hread, hdocument,
    hsame, (hsame "$" type?).trans hroot⟩

/-- A response in which a name comes twice, next to numbers, a control character and a character
past ASCII. -/
def repeated : Response :=
  ⟨.ofEntries [("Content-Type", "application/json")],
    "\x7b \"k\": 1, \"a\": [-20, 2.5e-1, \x7b\"\\u0001é\": \"\\n\"\x7d], \"k\": null \x7d".toUTF8.toList⟩

def quarter : Binary64 := .finite false 4503599627370496 (-54)

def repeatedDocument : Value := .object [("k", .null),
  ("a", .array [.int (-20), .float quarter, .object [("\u0001é", .text "\n")]])]

theorem document_repeated : repeated.document = .ok repeatedDocument := by
  have hdecode : Text.Utf8.decode repeated.body = .ok
      "\x7b \"k\": 1, \"a\": [-20, 2.5e-1, \x7b\"\\u0001é\": \"\\n\"\x7d], \"k\": null \x7d".toList := by
    decide +kernel
  refine (document_eq_ok_iff_of_decode hdecode).2 ?_
  refine read_ofList ?_
  with_unfolding_all rfl

theorem readsBack_quarter : ReadsBack .finite quarter :=
  rfl

theorem eq_quarter {x : Binary64} {path : Json.Path}
    (h : StandsAt (.float x) repeatedDocument path) : x = quarter := by
  cases h with
  | field hm below =>
    obtain ⟨rfl, rfl⟩ | ⟨rfl, rfl⟩ : _ ∨ _ := by simpa using hm
    · cases below
    · cases below with
      | item hi below =>
        rename_i n u _
        match n, hi with
        | 0, rfl => cases below
        | 1, rfl =>
          cases below
          rfl
        | 2, rfl =>
          cases below with
          | field hm below =>
            obtain ⟨rfl, rfl⟩ : _ ∧ _ := by simpa using hm
            cases below

theorem render_repeatedDocument : repeatedDocument.render =
    "\x7b\"k\":null,\"a\":[-20,0.25,\x7b\"\\u0001é\":\"\\n\"\x7d]\x7d" := by
  decide +kernel

theorem extractText_repeated : repeated.document = .ok repeatedDocument ∧
    repeated.extractText "$" none =
      .ok "\x7b\"k\":null,\"a\":[-20,0.25,\x7b\"\\u0001é\":\"\\n\"\x7d]\x7d" ∧
    (repeated.withBody repeatedDocument.render).document = .ok repeatedDocument ∧
    (repeated.withBody repeatedDocument.render).extractText "$.a[1]" none =
      repeated.extractText "$.a[1]" none := by
  have htype : (none : Option ContentType).getD repeated.contentType = .json := by
    decide +kernel
  have back : ∀ x path, StandsAt (.float x) repeatedDocument path → ReadsBack .finite x := by
    intro x path h
    rw [eq_quarter h]
    exact readsBack_quarter
  obtain ⟨-, -, c, hc, -, hdocument, hsame, -⟩ :=
    extractText_withBody document_repeated htype (by intro s; nofun) back
  have hroot := extractText_root document_repeated htype
  have hrender : c = repeatedDocument.render := Except.ok.inj (hc.symm.trans hroot)
  subst hrender
  rw [← render_repeatedDocument]
  exact ⟨document_repeated, hc, hdocument, hsame "$.a[1]" none⟩

end TemplatedRequests.Response
