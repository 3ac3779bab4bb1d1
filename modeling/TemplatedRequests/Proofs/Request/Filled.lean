import TemplatedRequests.Exchange
import TemplatedRequests.Proofs.OrderedMap.Merged
import TemplatedRequests.Proofs.Template.Given

/-!
A request is filled in text by text. It can be filled in exactly if each of its texts can, and then
holds what each of them comes to; otherwise it fails as the first text that fails, and nothing is sent
and nothing recorded.
-/

namespace TemplatedRequests

open Template

namespace Request

/-- The texts of a request with placeholders, in the order in which they are filled in. -/
def parts (r : Request) : List String :=
  r.headers.entries.map (·.2) ++ (r.headers.entries.map (·.1) ++ (r.url ::
    (r.queryParams.entries.map (·.2) ++ r.body.toList)))

/-- The request with another text for each part. Of headers that come to one name the first keeps its
place and the last its value. -/
def filled (r : Request) (f : String → String) : Request :=
  { r with
    headers := .ofEntries (r.headers.entries.map fun e => (f e.1, f e.2))
    url := f r.url
    queryParams := r.queryParams.mapValues f
    body := r.body.map f }

/-- What becomes of each text that can be filled in. -/
def Tells (fill : String → ExceptT Fault Id String) (f : String → String) : Prop :=
  ∀ t v, fill t = .ok v → f t = v

/-- Fills in texts in order and then gives a value that was known before. -/
def FillsIn {α : Type} (fill : String → ExceptT Fault Id String) (ts : List String) (a : α)
    (x : ExceptT Fault Id α) : Prop :=
  x = (ts.mapM fill).map fun _ => a

section Texts

variable {α β ι : Type} {fill : String → ExceptT Fault Id String} {f : String → String}
variable {ts us : List String}

theorem fillsIn_pure (a : α) : FillsIn fill [] a (pure a) := rfl

theorem FillsIn.bind {a : α} {b : β} {x : ExceptT Fault Id α} {k : α → ExceptT Fault Id β}
    (hx : FillsIn fill ts a x) (hk : FillsIn fill us b (k a)) :
    FillsIn fill (ts ++ us) b (x >>= k) := by
  rw [FillsIn] at hx hk ⊢
  rw [hx, List.mapM_append]
  rcases ok_or_error (ts.mapM fill) with ⟨vs, hv⟩ | ⟨fault, hv⟩
  · rw [hv]
    refine Eq.trans (b := k a) rfl (hk.trans ?_)
    rcases ok_or_error (us.mapM fill) with ⟨ws, hw⟩ | ⟨fault, hw⟩ <;> rw [hw] <;> rfl
  · rw [hv]
    rfl

theorem FillsIn.map {a : α} {x : ExceptT Fault Id α} (hx : FillsIn fill ts a x) (g : α → β) :
    FillsIn fill ts (g a) (do return g (← x)) := by
  have hg : FillsIn fill (ts ++ []) (g a) (do return g (← x)) := hx.bind (fillsIn_pure (g a))
  rwa [List.append_nil] at hg

theorem exists_tells (fill : String → ExceptT Fault Id String) : ∃ f, Tells fill f := by
  have htext : ∀ t, ∃ text, ∀ v, fill t = .ok v → text = v := by
    intro t
    rcases ok_or_error (fill t) with ⟨text, ht⟩ | ⟨fault, ht⟩
    · exact ⟨text, fun v hv => ok_eq_ok_iff.1 (ht.symm.trans hv)⟩
    · exact ⟨t, fun v hv => absurd (hv.symm.trans ht) ok_ne_error⟩
  choose f hf using htext
  exact ⟨f, hf⟩

section Tells

variable (hf : Tells fill f)
include hf

theorem fillsIn_fill (t : String) : FillsIn fill [t] (f t) (fill t) := by
  rcases ok_or_error (fill t) with ⟨v, hv⟩ | ⟨fault, hv⟩
  · rw [FillsIn, mapM_cons_of_ok hv, hf t v hv, hv]
    rfl
  · rw [FillsIn, mapM_cons_of_error hv, hv]
    rfl

theorem fillsIn_mapM (text : ι → String) (put : ι → String → β) (es : List ι) :
    FillsIn fill (es.map text) (es.map fun e => put e (f (text e)))
      (es.mapM fun e => do return put e (← fill (text e))) := by
  induction es with
  | nil => exact fillsIn_pure []
  | cons e es ih =>
    have hfirst := (fillsIn_fill hf (text e)).map (put e)
    have hrest := ih.map fun bs => put e (f (text e)) :: bs
    rw [List.mapM_cons]
    exact hfirst.bind hrest

theorem fillsIn_fillValues (values : Bindings) :
    FillsIn fill (values.entries.map (·.2)) (values.mapValues f) (fillValues values fill) := by
  have hnames : ((values.entries.map fun e => (e.1, f e.2)).map (·.1)).Nodup := by
    rw [List.map_map]
    exact values.distinct
  have hvalues : .ofEntries (values.entries.map fun e => (e.1, f e.2)) = values.mapValues f :=
    OrderedMap.ext (OrderedMap.entries_ofEntries hnames)
  rw [← hvalues]
  exact (fillsIn_mapM hf (fun e : String × String => e.2) (fun e v => (e.1, v)) _).map
    OrderedMap.ofEntries

theorem fillsIn_fillHeaders (headers : Bindings) :
    FillsIn fill (headers.entries.map (·.2) ++ headers.entries.map (·.1))
      (.ofEntries (headers.entries.map fun e => (f e.1, f e.2))) (fillHeaders headers fill) := by
  have hnames : (headers.mapValues f).entries.map (·.1) = headers.entries.map (·.1) :=
    List.map_map
  have hentries : ((headers.mapValues f).entries.map fun e => (f e.1, e.2)) =
      headers.entries.map fun e => (f e.1, f e.2) := List.map_map
  rw [← hnames, ← hentries]
  exact (fillsIn_fillValues hf headers).bind <|
    (fillsIn_mapM hf (fun e : String × String => e.1) (fun e v => (v, e.2)) _).map
      OrderedMap.ofEntries

theorem fillsIn_body (g : Option String → α) (body : Option String) :
    FillsIn fill body.toList (g (body.map f)) (match body with
      | some text => do return g (some (← fill text))
      | none => pure (g none)) := by
  cases body with
  | none => exact fillsIn_pure (g none)
  | some text => exact (fillsIn_fill hf text).map fun v => g (some v)

theorem fillsIn_resolveBy (r : Request) : FillsIn fill r.parts (r.filled f) (r.resolveBy fill) := by
  have hparts : r.parts = (r.headers.entries.map (·.2) ++ r.headers.entries.map (·.1)) ++
      ([r.url] ++ (r.queryParams.entries.map (·.2) ++ r.body.toList)) := by
    rw [parts, List.append_assoc, List.singleton_append]
  rw [hparts]
  exact (fillsIn_fillHeaders hf r.headers).bind <| (fillsIn_fill hf r.url).bind <|
    (fillsIn_fillValues hf r.queryParams).bind <|
      fillsIn_body hf (fun body => { r.filled f with body }) r.body

end Tells

variable {r : Request} {g : String → String}

theorem filled_congr (h : ∀ part ∈ r.parts, f part = g part) : r.filled f = r.filled g := by
  simp only [parts, List.forall_mem_append, List.forall_mem_cons, List.forall_mem_map] at h
  obtain ⟨hvalues, hnames, hurl, hquery, hbody⟩ := h
  have hheaders : (r.headers.entries.map fun e => (f e.1, f e.2)) =
      r.headers.entries.map fun e => (g e.1, g e.2) :=
    List.map_congr_left fun e he => by rw [hnames e he, hvalues e he]
  have hparams : r.queryParams.mapValues f = r.queryParams.mapValues g :=
    OrderedMap.ext (List.map_congr_left fun e he => by rw [hquery e he])
  have htext : r.body.map f = r.body.map g := Option.map_congr fun t ht => hbody t (by simp [ht])
  rw [filled, filled, hheaders, hurl, hparams, htext]

theorem resolveBy_isOk_iff :
    (∃ resolved, r.resolveBy fill = .ok resolved) ↔ ∀ part ∈ r.parts, ∃ text, fill part = .ok text := by
  obtain ⟨f, hf⟩ := exists_tells fill
  rw [fillsIn_resolveBy hf, ← mapM_isOk_iff]
  simp only [map_eq_ok_iff]
  exact ⟨fun ⟨_, texts, ht, _⟩ => ⟨texts, ht⟩, fun ⟨texts, ht⟩ => ⟨_, texts, ht, rfl⟩⟩

theorem resolveBy_eq_ok_iff {resolved : Request} : r.resolveBy fill = .ok resolved ↔
    ∃ f : String → String, (∀ part ∈ r.parts, fill part = .ok (f part)) ∧ resolved = r.filled f := by
  obtain ⟨g, hg⟩ := exists_tells fill
  rw [fillsIn_resolveBy hg, map_eq_ok_iff]
  constructor
  · rintro ⟨texts, ht, rfl⟩
    refine ⟨g, fun part hp => ?_, rfl⟩
    obtain ⟨text, htext⟩ := mapM_isOk_iff.1 ⟨texts, ht⟩ part hp
    rw [htext, hg part text htext]
  · rintro ⟨f, hparts, rfl⟩
    obtain ⟨texts, ht⟩ := mapM_isOk_iff.2 fun part hp => ⟨f part, hparts part hp⟩
    exact ⟨texts, ht, filled_congr fun part hp => hg part _ (hparts part hp)⟩

theorem resolveBy_eq_error_iff {fault : Fault} : r.resolveBy fill = .error fault ↔
    ∃ before part after, r.parts = before ++ part :: after ∧
      (∀ b ∈ before, ∃ text, fill b = .ok text) ∧ fill part = .error fault := by
  obtain ⟨f, hf⟩ := exists_tells fill
  rw [fillsIn_resolveBy hf, map_eq_error_iff, mapM_eq_error_iff]

end Texts

variable {call : Resolver Id} {scopes : Scopes} {fault : Fault}

theorem execute_of_resolve_eq_error {r : Request} (h : r.resolve scopes call = .error fault)
    (patience : Patience) (client : Exchange.Client) (session : String) (sessions : Sessions) :
    Exchange.execute call patience client scopes session sessions r =
      ⟨[], sessions, .error (.fault fault)⟩ := by
  rw [Exchange.execute, h]
  rfl

theorem names_headers_filled (r : Request) (f : String → String) :
    (r.filled f).headers.names = (r.headers.names.map f).eraseDups := by
  rw [filled, OrderedMap.names_ofEntries, OrderedMap.names, List.map_map, List.map_map]
  rfl

theorem get?_headers_filled (r : Request) (f : String → String) (name : String) :
    (r.filled f).headers.get? name =
      (r.headers.entries.reverse.find? fun e => f e.1 = name).map fun e => f e.2 := by
  rw [filled, OrderedMap.get?_ofEntries, ← List.map_reverse, List.find?_map, Option.map_map]
  rfl

theorem resolve_of_captures {r : Request} (h : r.resolve scopes call = .error fault)
    (captures : String) : ({ r with captures } : Request).resolve scopes call = .error fault := by
  rw [resolve_eq_resolveBy, resolveBy_eq_error_iff] at h ⊢
  exact h

/-- Which requests can be filled in, what they come to, and what becomes of the others. The lines that
say what to capture are no part of it. -/
theorem resolve_iff_substitute_parts (r : Request) (scopes : Scopes) (call : Resolver Id) :
    ((∃ resolved, r.resolve scopes call = .ok resolved) ↔
      ∀ part ∈ r.parts, ∃ text, substitute part scopes call = .ok text) ∧
    (∀ resolved, r.resolve scopes call = .ok resolved ↔ ∃ f : String → String,
      (∀ part ∈ r.parts, substitute part scopes call = .ok (f part)) ∧ resolved = r.filled f) ∧
    (∀ f : String → String, (r.filled f).headers.names = (r.headers.names.map f).eraseDups ∧
      ∀ name, (r.filled f).headers.get? name =
        (r.headers.entries.reverse.find? fun e => f e.1 = name).map fun e => f e.2) ∧
    ∀ fault, (r.resolve scopes call = .error fault ↔ ∃ before part after,
        r.parts = before ++ part :: after ∧
        (∀ b ∈ before, ∃ text, substitute b scopes call = .ok text) ∧
        substitute part scopes call = .error fault) ∧
      (r.resolve scopes call = .error fault → ∀ captures patience client session sessions,
        Exchange.execute call patience client scopes session sessions { r with captures } =
          ⟨[], sessions, .error (.fault fault)⟩) := by
  refine ⟨?_, ?_, fun f => ⟨names_headers_filled r f, get?_headers_filled r f⟩,
    fun fault => ⟨?_, fun h captures => execute_of_resolve_eq_error (resolve_of_captures h captures)⟩⟩
  all_goals rw [resolve_eq_resolveBy]
  · exact resolveBy_isOk_iff
  · exact fun resolved => resolveBy_eq_ok_iff
  · exact resolveBy_eq_error_iff

section Overlapping

def overlapping : Request where
  method := .put
  url := "http://h/{{a}}"
  headers := .ofEntries [("{{a}}", "1"), ("B", "2"), ("A", "{{b}}")]
  queryParams := .ofEntries [("{{a}}", "{{a}}")]

def defining : Scopes := { request := .ofEntries [("a", "A"), ("b", "3")] }

def noCalls : Resolver Id := fun name _ => throw (.undefined name)

/-- Values of headers are filled in before names of headers that stand further up. -/
theorem resolve_overlapping :
    overlapping.resolve defining noCalls = .ok { overlapping with
      url := "http://h/A"
      headers := .ofEntries [("A", "3"), ("B", "2")]
      queryParams := .ofEntries [("{{a}}", "A")] } ∧
    Exchange.execute noCalls (.whole 30) (.giving ⟨"http://h/", 200, "OK", ∅, []⟩ "") {} "s" {}
      { overlapping with captures := "@capture" } = ⟨[], {}, .error (.fault (.undefined "b"))⟩ := by
  let f text := if text = "http://h/{{a}}" then "http://h/A"
    else if text = "{{a}}" then "A" else if text = "{{b}}" then "3" else text
  obtain ⟨-, hok, -, -⟩ := resolve_iff_substitute_parts overlapping defining noCalls
  obtain ⟨-, -, -, herror⟩ := resolve_iff_substitute_parts overlapping {} noCalls
  have hparts : overlapping.parts =
      ["1", "2", "{{b}}", "{{a}}", "B", "A", "http://h/{{a}}", "{{a}}"] := rfl
  have hfilled : ∀ part ∈ overlapping.parts, substitute part defining noCalls = .ok (f part) := by
    rw [hparts]
    simp only [List.forall_mem_cons, List.not_mem_nil]
    refine ⟨?_, ?_, ?_, ?_, ?_, ?_, ?_, ?_, nofun⟩ <;> decide +kernel
  have hfails : overlapping.resolve {} noCalls = .error (.undefined "b") := by
    refine (herror _).1.2 ⟨["1", "2"], "{{b}}", _, hparts, ?_, ?_⟩
    · simp only [List.forall_mem_cons, List.not_mem_nil]
      exact ⟨⟨"1", by decide +kernel⟩, ⟨"2", by decide +kernel⟩, nofun⟩
    · decide +kernel
  exact ⟨(hok _).2 ⟨f, hfilled, rfl⟩, (herror _).2 hfails "@capture" _ _ _ _⟩

end Overlapping

end Request

end TemplatedRequests
