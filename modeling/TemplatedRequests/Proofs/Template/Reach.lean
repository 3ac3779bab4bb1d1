import TemplatedRequests.Proofs.Template.Paths
import TemplatedRequests.Proofs.Template.Scan

/-!
What the expansion of a text depends on: the values of the names that the text reaches, and nothing
else. Scopes that agree on these names give the same text or the same fault, and a text that can be
expanded comes out alike in all scopes that define more.
-/

namespace TemplatedRequests

def Source.above (l : Source) : List Source := all.takeWhile (· ≠ l)

def Scopes.withLayer (s : Scopes) (l : Source) (b : Bindings) : Scopes :=
  match l with
  | .request => { s with request := b }
  | .file => { s with file := b }
  | .environment => { s with environment := b }
  | .shared => { s with shared := b }

theorem Scopes.lookup?_withLayer {s : Scopes} {l : Source} {b : Bindings} {name : String}
    (h : b.get? name = (s.layer l).get? name ∨ ∃ higher ∈ l.above, (s.layer higher).contains name = true) :
    (s.withLayer l b).lookup? name = s.lookup? name := by
  rcases h with h | ⟨higher, hm, hc⟩
  · cases l <;> simp only [layer] at h <;> simp only [withLayer, lookup?_eq, h]
  · obtain ⟨value, hv⟩ := Option.isSome_iff_exists.1 hc
    cases l <;> cases higher <;> simp [Source.above, Source.all] at hm <;> simp only [layer] at hv <;>
      simp [withLayer, lookup?_eq, hv]

namespace Template

variable (scopes : Scopes) (call : Resolver Id)

/-- A name that stands on a path of the text. -/
def Reaches (text name : String) : Prop := ∃ path, IsPath scopes call text path ∧ name ∈ path

variable {scopes call} {other : Scopes} {text name : String}

theorem reaches_of_mem (h : name ∈ names text) : Reaches scopes call text name :=
  ⟨[name], .last h, List.mem_singleton_self name⟩

theorem Reaches.cons {first value : String} (h : Reaches scopes call value name)
    (hf : first ∈ names text) (hv : valueOf scopes call first = .ok value) :
    Reaches scopes call text name := by
  obtain ⟨path, hp, hm⟩ := h
  exact ⟨first :: path, .cons hf hv hp, List.mem_cons_of_mem first hm⟩

/-- What holds of the names of the text and passes on to the names of values holds of every name
that is reached. -/
theorem Reaches.induction {P : String → Prop} (h : Reaches scopes call text name)
    (hn : ∀ n ∈ names text, P n)
    (hv : ∀ n value, P n → valueOf scopes call n = .ok value → ∀ m ∈ names value, P m) : P name := by
  obtain ⟨path, hp, hm⟩ := h
  induction hp with
  | last h =>
    rw [List.mem_singleton.1 hm]
    exact hn _ h
  | cons h hvalue _ ih =>
    rcases List.mem_cons.1 hm with rfl | hm
    · exact hn _ h
    · exact ih (hv _ _ (hn _ h) hvalue) hm

theorem valueOf_congr {m : Type → Type} [Monad m] {call : Resolver m}
    (h : other.lookup? name = scopes.lookup? name) :
    valueOf other call name = valueOf scopes call name := by
  unfold valueOf
  rw [h]

theorem valueOf_of_extends {value : String}
    (h : ∀ n v, scopes.lookup? n = some v → other.lookup? n = some v)
    (hv : valueOf scopes call name = .ok value) : valueOf other call name = .ok value := by
  cases hl : scopes.lookup? name with
  | some v => rwa [valueOf_congr ((h _ _ hl).trans hl.symm)]
  | none =>
    unfold valueOf at hv ⊢
    split at hv
    · exact hv
    · rw [hl] at hv
      cases hv

theorem mapM_written_congr {write rewrite : String → ExceptT Fault Id (List Char)} {ps : List Piece}
    (h : ∀ n ∈ ps.filterMap Piece.name?, write n = rewrite n) :
    ps.mapM (Piece.written write) = ps.mapM (Piece.written rewrite) := by
  refine mapM_congr_of_mem fun p hp => ?_
  cases p with
  | plain c => rfl
  | slot inside => exact h _ (List.mem_filterMap.2 ⟨_, hp, rfl⟩)

theorem expand_congr {levels : Nat} {path : List String}
    (h : ∀ n, Reaches scopes call text n → valueOf other call n = valueOf scopes call n) :
    expand other call levels path text.toList = expand scopes call levels path text.toList := by
  -- By induction on the levels: the names of a text are entered alike, because what their values
  -- reach is reached by the text.
  induction levels generalizing text path with
  | zero => rw [expand, expand]
  | succ levels ih =>
    have henter : ∀ n ∈ names text, enter other call (expand other call levels) path n =
        enter scopes call (expand scopes call levels) path n := by
      intro n hn
      by_cases hm : n ∈ path
      · rw [enter_of_mem hm, enter_of_mem hm]
      · have hvalue := h n (reaches_of_mem hn)
        rcases ok_or_error (valueOf scopes call n) with ⟨value, hv⟩ | ⟨fault, hv⟩
        · rw [enter_of_resolved hm hv, enter_of_resolved hm (hvalue.trans hv)]
          exact ih fun m hr => h m (hr.cons hn hv)
        · rw [enter_of_unresolved hm hv, enter_of_unresolved hm (hvalue.trans hv)]
    cases ho : hasOpening text.toList with
    | false => rw [expand_of_no_opening ho, expand_of_no_opening ho]
    | true =>
      rw [names, namesIn, if_pos ho] at henter
      rw [expand_succ_of_opening ho, expand_succ_of_opening ho, mapM_written_congr henter]

theorem substitute_congr
    (h : ∀ n, Reaches scopes call text n → valueOf other call n = valueOf scopes call n) :
    substitute text other call = substitute text scopes call := by
  rw [substitute_eq, substitute_eq, expand_congr h]

theorem exists_valueOf_of_reaches {result : String} (h : substitute text scopes call = .ok result)
    (hr : Reaches scopes call text name) : ∃ value, valueOf scopes call name = .ok value := by
  obtain ⟨path, hp, hm⟩ := hr
  have hpaths := substitute_isOk_iff_isPath.1 ⟨result, h⟩
  exact (hpaths path hp).1 name hm

theorem substitute_of_agree
    (h : ∀ name, Reaches scopes call text name → other.lookup? name = scopes.lookup? name) :
    substitute text other call = substitute text scopes call :=
  substitute_congr fun n hn => valueOf_congr (h n hn)

theorem substitute_of_extends {result : String} (hr : substitute text scopes call = .ok result)
    (h : ∀ name value, scopes.lookup? name = some value → other.lookup? name = some value) :
    substitute text other call = .ok result := by
  rw [← hr]
  refine substitute_congr fun n hn => ?_
  obtain ⟨value, hv⟩ := exists_valueOf_of_reaches hr hn
  rw [hv, valueOf_of_extends h hv]

theorem substitute_withLayer {l : Source} {b : Bindings}
    (h : ∀ name, Reaches scopes call text name → b.get? name = (scopes.layer l).get? name ∨
      ∃ higher ∈ l.above, (scopes.layer higher).contains name = true) :
    substitute text (scopes.withLayer l b) call = substitute text scopes call :=
  substitute_congr fun n hn => valueOf_congr (Scopes.lookup?_withLayer (h n hn))

/-- Scopes that agree on the names a text reaches expand it alike, also where it fails. If it can be
expanded, further names make no difference. Whatever a layer holds under names that are not reached,
or that an earlier layer defines, makes none either. -/
theorem substitute_eq_of_reaches (text : String) (scopes : Scopes) (call : Resolver Id) :
    (∀ other : Scopes,
      (∀ name, Reaches scopes call text name → other.lookup? name = scopes.lookup? name) →
      substitute text other call = substitute text scopes call) ∧
    (∀ (other : Scopes) (result : String), substitute text scopes call = .ok result →
      (∀ name value, scopes.lookup? name = some value → other.lookup? name = some value) →
      substitute text other call = .ok result) ∧
    (∀ (l : Source) (b : Bindings),
      (∀ name, Reaches scopes call text name → b.get? name = (scopes.layer l).get? name ∨
        ∃ higher ∈ l.above, (scopes.layer higher).contains name = true) →
      substitute text (scopes.withLayer l b) call = substitute text scopes call) :=
  ⟨fun _ => substitute_of_agree, fun _ _ => substitute_of_extends, fun _ _ => substitute_withLayer⟩

section Layered

/-- A variable that leads to a call and from there to another one, with a shadowed variable and one
that is not referred to. -/
def layered : Scopes where
  request := .ofEntries [("a", "{{$f}}")]
  file := .ofEntries [("a", "shadowed"), ("b", "1")]
  shared := .ofEntries [("c", "{{missing}}")]

def leadsToB : Resolver Id := fun _ _ => .ok "{{b}}"

theorem mem_of_reaches_layered {name : String} (h : Reaches layered leadsToB "{{a}}" name) :
    name ∈ ["a", "$f", "b"] := by
  refine h.induction ?_ ?_
  · have hnames : names "{{a}}" = ["a"] := by decide +kernel
    simp [hnames]
  · intro n value hn hv m hm
    have hvalues : ∀ n ∈ ["a", "$f", "b"], ∃ value, valueOf layered leadsToB n = .ok value ∧
        ∀ m ∈ names value, m ∈ ["a", "$f", "b"] := by
      have ha : names "{{$f}}" = ["$f"] := by decide +kernel
      have hf : names "{{b}}" = ["b"] := by decide +kernel
      have hb : names "1" = [] := by decide +kernel
      simp only [List.forall_mem_cons]
      exact ⟨⟨"{{$f}}", by decide +kernel, by simp [ha]⟩, ⟨"{{b}}", by decide +kernel, by simp [hf]⟩,
        ⟨"1", by decide +kernel, by simp [hb]⟩, by simp⟩
    obtain ⟨found, hfound, hmem⟩ := hvalues n hn
    obtain rfl := ok_eq_ok_iff.1 (hv.symm.trans hfound)
    exact hmem m hm

/-- Three changes that make no difference: other scopes with the same three values, a further name,
and other variables under the layer of a request. -/
theorem substitute_layered :
    substitute "{{a}}" layered leadsToB = .ok "1" ∧
    substitute "{{a}}" { file := .ofEntries [("b", "1"), ("a", "{{$f}}")] } leadsToB = .ok "1" ∧
    substitute "{{a}}" (layered.withCaptured (.ofEntries [("missing", "{{missing}}")])) leadsToB =
      .ok "1" ∧
    substitute "{{a}}" (layered.withLayer .file (.ofEntries [("a", "{{a}}"), ("b", "1")])) leadsToB =
      .ok "1" := by
  obtain ⟨hagree, hmore, hlayer⟩ := substitute_eq_of_reaches "{{a}}" layered leadsToB
  have hresult : substitute "{{a}}" layered leadsToB = .ok "1" := by decide +kernel
  refine ⟨hresult, ?_, ?_, ?_⟩
  · rw [hagree, hresult]
    intro name hr
    have hsame : ∀ n ∈ ["a", "$f", "b"], ({ file := .ofEntries [("b", "1"), ("a", "{{$f}}")] } :
        Scopes).lookup? n = layered.lookup? n := by decide
    exact hsame name (mem_of_reaches_layered hr)
  · refine hmore _ _ hresult fun name value h => ?_
    have hfresh : layered.lookup? "missing" = none := by decide
    have hne : name ≠ "missing" := by
      rintro rfl
      cases h.symm.trans hfresh
    have hover : (OrderedMap.ofEntries [("missing", "{{missing}}")]).get? name = none :=
      if_neg hne.symm
    rw [Scopes.lookup?_eq] at h ⊢
    rw [Scopes.withCaptured, OrderedMap.get?_update, hover, Option.none_or]
    exact h
  · rw [hlayer, hresult]
    intro name hr
    have hsame : ∀ n ∈ ["a", "$f", "b"],
        (OrderedMap.ofEntries [("a", "{{a}}"), ("b", "1")]).get? n = layered.file.get? n ∨
          ∃ higher ∈ Source.file.above, (layered.layer higher).contains n = true := by decide
    exact hsame name (mem_of_reaches_layered hr)

end Layered

end Template

end TemplatedRequests
