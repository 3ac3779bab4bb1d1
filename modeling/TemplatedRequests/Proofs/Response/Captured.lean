import TemplatedRequests.Proofs.Capture.Lines
import TemplatedRequests.Proofs.OrderedMap.Merged
import TemplatedRequests.Response

/-!
What lines capture from a response. A line captures what is extracted at its path. Lines that follow
others lay what they capture over what is captured before, and the first line that fails decides how all
of them fail.
-/

namespace TemplatedRequests.Response

section Directives

variable {r : Response} {type? : Option ContentType}

theorem capture_nil : r.capture [] type? = .ok ∅ := rfl

theorem capture_concat (ds : List Capture.Directive) (d : Capture.Directive) :
    r.capture (ds ++ [d]) type? = (do
      let captured ← r.capture ds type?
      let value ← r.extract d.path (type?.getD r.contentType)
      return captured.insert d.variableName value) := by
  simp only [capture, List.foldlM_append, List.foldlM_cons, List.foldlM_nil, bind_pure]

theorem capture_append (ds es : List Capture.Directive) :
    r.capture (ds ++ es) type? = (do
      let before ← r.capture ds type?
      let later ← r.capture es type?
      return before.update later) := by
  -- By induction on the later directives: to write a value after all others is to write it last
  -- among the later ones.
  induction es using List.reverseRecOn with
  | nil =>
    rw [List.append_nil, capture_nil]
    exact (bind_pure (r.capture ds type?)).symm
  | append_singleton es e ih =>
    rw [← List.append_assoc, capture_concat, capture_concat, ih]
    simp only [bind_assoc, pure_bind, OrderedMap.update_insert]

theorem capture_singleton (d : Capture.Directive) : r.capture [d] type? =
    (r.extract d.path (type?.getD r.contentType)).map fun value =>
      .ofEntries [(d.variableName, value)] := by
  rw [← List.nil_append [d], capture_concat]
  cases r.extract d.path (type?.getD r.contentType) <;> rfl

end Directives

section Outcome

variable {α β γ : Type} {x : Except Fault α} {y : Except Fault β} {f : α → β → γ}

theorem pair_eq_ok_iff {c : γ} :
    (do let a ← x; let b ← y; return f a b : Except Fault γ) = .ok c ↔
      ∃ a b, x = .ok a ∧ y = .ok b ∧ c = f a b := by
  cases x <;> cases y <;> simp [bind, Except.bind, pure, Except.pure, eq_comm]

theorem pair_eq_error_iff {fault : Fault} :
    (do let a ← x; let b ← y; return f a b : Except Fault γ) = .error fault ↔
      x = .error fault ∨ (∃ a, x = .ok a) ∧ y = .error fault := by
  cases x <;> cases y <;> simp [bind, Except.bind, pure, Except.pure]

end Outcome

/-- A line captures what is extracted at its path, blank or not, and where nothing is extracted it fails
with the same fault. -/
theorem capture_line (r : Response) (type? : Option ContentType) {name path : String}
    (hn : Capture.IsName name.toList) (hp : ∀ c ∈ path.toList, Text.isBreak c = false) :
    r.capture (Capture.directives (Capture.line name path)) type? =
      (r.extractText path type?).map (fun value => .ofEntries [(name, value)]) ∧
    ∀ value, r.capture (Capture.directives (Capture.line name path)) type? =
      .ok (.ofEntries [(name, value)]) ↔ r.extractText path type? = .ok value := by
  have hcapture : r.capture (Capture.directives (Capture.line name path)) type? =
      (r.extractText path type?).map fun value => .ofEntries [(name, value)] := by
    rw [Capture.directives_line hn hp, capture_singleton]
    rfl
  refine ⟨hcapture, fun value => ?_⟩
  rw [hcapture]
  cases r.extractText path type? with
  | error fault => exact ⟨nofun, nofun⟩
  | ok found =>
    constructor
    · intro h
      have hentries := congrArg OrderedMap.entries (Except.ok.inj h)
      cases hentries
      rfl
    · rintro ⟨⟩
      rfl

section Signed

/-- A response with a header whose name holds an equals sign and a number sign. -/
def signed : Response := ⟨.ofEntries [("X = #1", "v")], []⟩

/-- Blanks around the path belong to it no more than blanks alone are a path. -/
theorem capture_line_signed :
    signed.capture (Capture.directives "# @capture x_1 = \t headers. X = #1\u00a0") none =
      .ok (.ofEntries [("x_1", "v")]) ∧
    signed.capture (Capture.directives "# @capture x_1 = \t") none =
      .error (.notImplemented "XPath extraction") := by
  have hread : Capture.name? "x_1".toList = some ("x_1".toList, []) := by decide
  have hname : Capture.IsName "x_1".toList := (Capture.name?_eq_some_iff.1 hread).1
  have hvalue : signed.extractText "\t headers. X = #1\u00a0" none = .ok "v" := rfl
  have hblank : signed.extractText "\t" none = .error (.notImplemented "XPath extraction") := rfl
  have hpath : ∀ c ∈ "\t headers. X = #1\u00a0".toList, Text.isBreak c = false :=
    Capture.isBreak_eq_false_of_any (by decide)
  have htab : ∀ c ∈ "\t".toList, Text.isBreak c = false := Capture.isBreak_eq_false_of_any (by decide)
  obtain ⟨-, hiff⟩ := capture_line signed none hname hpath
  obtain ⟨hline, -⟩ := capture_line signed none hname htab
  refine ⟨(hiff "v").2 hvalue, ?_⟩
  rw [hblank] at hline
  exact hline

end Signed

/-- The directives of two texts, one under the other, are those of both in order. They succeed together
exactly if those of each text do; a name that both capture keeps its first place and takes its last
value. Otherwise the first text decides how they fail, if it fails. -/
theorem capture_lines_append (r : Response) (type? : Option ContentType) (a b : String) :
    Capture.directives (a ++ "\n" ++ b) = Capture.directives a ++ Capture.directives b ∧
    (∀ captured, r.capture (Capture.directives (a ++ "\n" ++ b)) type? = .ok captured ↔
      ∃ before later, r.capture (Capture.directives a) type? = .ok before ∧
        r.capture (Capture.directives b) type? = .ok later ∧ captured = before.update later) ∧
    (∀ fault, r.capture (Capture.directives (a ++ "\n" ++ b)) type? = .error fault ↔
      r.capture (Capture.directives a) type? = .error fault ∨
        (∃ before, r.capture (Capture.directives a) type? = .ok before) ∧
          r.capture (Capture.directives b) type? = .error fault) ∧
    ∀ before later : Bindings,
      (before.update later).names = before.names ++ later.names.filter (· ∉ before.names) ∧
      ∀ name, (before.update later).get? name = (later.get? name).or (before.get? name) := by
  refine ⟨Capture.directives_append a b, fun captured => ?_, fun fault => ?_, fun before later => ?_⟩
  · rw [Capture.directives_append, capture_append]
    exact pair_eq_ok_iff
  · rw [Capture.directives_append, capture_append]
    exact pair_eq_error_iff
  · exact ⟨OrderedMap.names_update before later, OrderedMap.get?_update before later⟩

/-- The carriage return at the end of the first text and the line feed are one break. -/
example : Capture.directives ("# @capture a = $.x\r" ++ "\n" ++ "# @capture b = $.y") =
    [⟨"a", ⟨.jsonPath, "$.x"⟩⟩, ⟨"b", ⟨.jsonPath, "$.y"⟩⟩] := by
  decide

end TemplatedRequests.Response
