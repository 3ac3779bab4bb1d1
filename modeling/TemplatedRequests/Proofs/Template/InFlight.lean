import Mathlib.Data.Finset.Basic
import TemplatedRequests.Proofs.Template.Cited
import TemplatedRequests.Proofs.Template.Keys
import TemplatedRequests.Proofs.Template.Reach

/-!
Expansion with one set of names in flight, to which each name is added before its value is expanded and
from which it is taken afterwards. A text that can be expanded leaves the set as it was, and comes out
alike with fewer names in flight and at a lower depth. So it comes out as its placeholders do by
themselves, each as the value of its name.
-/

namespace TemplatedRequests.Template

/-- What keeps a set of names in flight. A failure leaves the set as it is at that moment. -/
abbrev Tracked := ExceptT Fault (StateM (Finset String))

/-- A resolver that does not look at the names in flight. -/
def tracked (call : Resolver Id) : Resolver (StateM (Finset String)) := fun function args =>
  ExceptT.mk (pure (call function args))

def enterTracked (scopes : Scopes) (call : Resolver Id)
    (expand : List Char → Tracked (List Char)) (name : String) : Tracked (List Char) := do
  if name ∈ (← get) then throw (.circular name)
  modify (insert name)
  let value ← valueOf scopes (tracked call) name
  let result ← expand value.toList
  modify (·.erase name)
  return result

def expandTracked (scopes : Scopes) (call : Resolver Id) :
    (levels : Nat) → List Char → Tracked (List Char)
  | 0, cs => if hasOpening cs then throw .tooDeep else pure cs
  | levels + 1, cs =>
    if hasOpening cs then do
      let write := enterTracked scopes call (expandTracked scopes call levels)
      let parts ← (pieces (hide cs)).mapM (Piece.written write)
      return parts.flatten
    else pure cs

def substituteTracked (scopes : Scopes) (call : Resolver Id) (depth : Nat) (text : String) :
    Tracked String := do
  return String.ofList (← expandTracked scopes call (maxLevels - depth) text.toList)

/-- Substitutes in a text that stands at a depth, with names in flight: the result, and the names in
flight afterwards. -/
def substituteAt (scopes : Scopes) (call : Resolver Id) (depth : Nat) (inFlight : Finset String)
    (text : String) : Except Fault String × Finset String :=
  (substituteTracked scopes call depth text).run.run inFlight

/-- From the one set, `x` ends as `y` does. If it succeeds, it leaves the other set. -/
def Leaves {α : Type} (before after : Finset String) (x : Tracked α) (y : ExceptT Fault Id α) :
    Prop :=
  (x.run.run before).1 = y ∧ ∀ a, y = .ok a → (x.run.run before).2 = after

section Leaves

variable {α β ι : Type} {before between after inFlight : Finset String}
variable {x : Tracked α} {y : ExceptT Fault Id α}

theorem leaves_pure (a : α) : Leaves inFlight inFlight (pure a) (pure a) := ⟨rfl, fun _ _ => rfl⟩

theorem leaves_throw (fault : Fault) :
    Leaves inFlight inFlight (throw fault : Tracked α) (throw fault) := ⟨rfl, nofun⟩

theorem leaves_bind {f : α → Tracked β} {g : α → ExceptT Fault Id β} (h : Leaves before between x y)
    (hf : ∀ a, y = .ok a → Leaves between after (f a) (g a)) :
    Leaves before after (x >>= f) (y >>= g) := by
  obtain ⟨hresult, hset⟩ := h
  rw [Leaves, ExceptT.run_bind, StateT.run_bind]
  rcases hx : x.run.run before with ⟨fault | a, next⟩
  · rw [hx] at hresult
    subst hresult
    exact ⟨rfl, nofun⟩
  · rw [hx] at hresult hset
    subst hresult
    obtain rfl : next = between := hset a rfl
    exact hf a rfl

theorem leaves_get_bind {f : Finset String → Tracked α} (h : Leaves before after (f before) y) :
    Leaves before after (get >>= f) y := h

theorem leaves_modify_bind {f : Finset String → Finset String} (h : f before = between)
    (hx : Leaves between after x y) : Leaves before after (modify f >>= fun _ => x) y := by
  subst h
  exact hx

theorem Leaves.run_eq_ok_iff (h : Leaves before after x y) {a : α} {left : Finset String} :
    x.run.run before = (.ok a, left) ↔ y = .ok a ∧ left = after := by
  obtain ⟨hresult, hset⟩ := h
  constructor
  · intro hrun
    rw [hrun] at hresult hset
    exact ⟨hresult.symm, hset a hresult.symm⟩
  · rintro ⟨hy, rfl⟩
    exact Prod.ext (hresult.trans hy) (hset a hy)

theorem leaves_mapM {f : ι → Tracked α} {g : ι → ExceptT Fault Id α}
    (h : ∀ i, Leaves inFlight inFlight (f i) (g i)) (is : List ι) :
    Leaves inFlight inFlight (is.mapM f) (is.mapM g) := by
  induction is with
  | nil => exact leaves_pure []
  | cons i is ih =>
    rw [List.mapM_cons, List.mapM_cons]
    exact leaves_bind (h i) fun a _ => leaves_bind ih fun as _ => leaves_pure (a :: as)

theorem leaves_written {write : String → Tracked (List Char)}
    {written : String → ExceptT Fault Id (List Char)}
    (hw : ∀ name, Leaves inFlight inFlight (write name) (written name)) (p : Piece) :
    Leaves inFlight inFlight (p.written write) (p.written written) := by
  cases p with
  | plain c => exact leaves_pure (restore c)
  | slot inside => exact hw (nameOf inside)

end Leaves

section Engine

variable {scopes : Scopes} {call : Resolver Id} {name : String} {path : List String}
variable {inFlight : Finset String}

theorem leaves_valueOf (name : String) :
    Leaves inFlight inFlight (valueOf scopes (tracked call) name) (valueOf scopes call name) := by
  unfold valueOf
  split
  · split
    · exact leaves_throw _
    · exact ⟨rfl, fun _ _ => rfl⟩
  · split
    · exact leaves_pure _
    · exact leaves_throw _

theorem leaves_enter {inner : List Char → Tracked (List Char)}
    {outer : List String → List Char → ExceptT Fault Id (List Char)}
    (hpath : ∀ n, n ∈ path ↔ n ∈ inFlight)
    (hi : ∀ cs, Leaves (insert name inFlight) (insert name inFlight) (inner cs)
      (outer (name :: path) cs)) :
    Leaves inFlight inFlight (enterTracked scopes call inner name)
      (enter scopes call outer path name) := by
  refine leaves_get_bind ?_
  by_cases hm : name ∈ path
  · have hf := (hpath name).1 hm
    simp only [enter, hm, hf, if_true]
    exact leaves_bind (leaves_throw _) fun _ h => absurd h error_ne_ok
  · have hf : name ∉ inFlight := mt (hpath name).2 hm
    simp only [enter, hm, hf, if_false]
    refine leaves_modify_bind rfl (leaves_bind (leaves_valueOf name) fun value _ => ?_)
    have hvalue := leaves_bind (hi value.toList) fun result _ =>
      leaves_modify_bind (f := (·.erase name)) (Finset.erase_insert hf) (leaves_pure result)
    rwa [bind_pure] at hvalue

theorem leaves_expand (levels : Nat) (hpath : ∀ n, n ∈ path ↔ n ∈ inFlight) (cs : List Char) :
    Leaves inFlight inFlight (expandTracked scopes call levels cs)
      (expand scopes call levels path cs) := by
  -- By induction on the levels. The path of the one expansion and the set of the other hold the
  -- same names.
  induction levels generalizing inFlight path cs with
  | zero =>
    rw [expandTracked, expand]
    split
    · exact leaves_throw _
    · exact leaves_pure cs
  | succ levels ih =>
    rw [expandTracked, expand]
    split
    · refine leaves_bind (leaves_mapM (leaves_written fun name => ?_) _) fun parts _ =>
        leaves_pure parts.flatten
      refine leaves_enter hpath (ih ?_)
      simp [hpath]
    · exact leaves_pure cs

theorem leaves_substitute (depth : Nat) (hpath : ∀ n, n ∈ path ↔ n ∈ inFlight) (text : String) :
    Leaves inFlight inFlight (substituteTracked scopes call depth text)
      ((expand scopes call (maxLevels - depth) path text.toList).map String.ofList) :=
  leaves_bind (leaves_expand _ hpath _) fun r _ => leaves_pure (String.ofList r)

end Engine

section Context

variable {scopes : Scopes} {call : Resolver Id} {text name result : String}

theorem mapM_written_of_ok {write rewrite : String → ExceptT Fault Id (List Char)} {ps : List Piece}
    {parts : List (List Char)} (h : ∀ n r, write n = .ok r → rewrite n = .ok r)
    (hp : ps.mapM (Piece.written write) = .ok parts) :
    ps.mapM (Piece.written rewrite) = .ok parts := by
  rw [← hp]
  refine mapM_written_congr fun n hn => ?_
  obtain ⟨r, hr⟩ := mapM_written_isOk_iff.1 ⟨parts, hp⟩ n hn
  rw [hr, h n r hr]

theorem expand_mono {levels more : Nat} {path fewer : List String} {cs r : List Char}
    (hl : levels ≤ more) (hp : fewer ⊆ path) (h : expand scopes call levels path cs = .ok r) :
    expand scopes call more fewer cs = .ok r := by
  -- More levels and fewer names on the path change nothing. By induction on the levels.
  induction levels generalizing more path fewer cs r with
  | zero =>
    have ho := expand_zero_isOk_iff.1 ⟨r, h⟩
    rwa [expand_of_no_opening ho] at h ⊢
  | succ levels ih =>
    cases ho : hasOpening cs with
    | false => rwa [expand_of_no_opening ho] at h ⊢
    | true =>
      obtain ⟨above, rfl⟩ := Nat.exists_eq_succ_of_ne_zero (Nat.ne_zero_of_lt hl)
      have henter : ∀ n part, enter scopes call (expand scopes call levels) path n = .ok part →
          enter scopes call (expand scopes call above) fewer n = .ok part := by
        intro n part hn
        obtain ⟨hpath, value, hv, hpart⟩ := enter_eq_ok_iff.1 hn
        exact enter_eq_ok_iff.2 ⟨fun hm => hpath (hp hm), value, hv,
          ih (Nat.le_of_succ_le_succ hl) (List.cons_subset_cons n hp) hpart⟩
      rw [expand_succ_of_opening ho, map_eq_ok_iff] at h ⊢
      obtain ⟨parts, hparts, rfl⟩ := h
      exact ⟨parts, mapM_written_of_ok henter hparts, rfl⟩

theorem written_eq_ok_iff {write : String → ExceptT Fault Id (List Char)} {ts : List Token}
    {r : List Char} : written write ts = .ok r ↔ ∃ parts,
      (ts.map Token.hidden).mapM (Piece.written write) = .ok parts ∧ parts.flatten = r :=
  map_eq_ok_iff

def alone (scopes : Scopes) (call : Resolver Id) (name : String) : ExceptT Fault Id (List Char) := do
  let value ← valueOf scopes call name
  return (← substitute value scopes call).toList

theorem alone_eq_ok_iff {r : List Char} : alone scopes call name = .ok r ↔ ∃ value,
    valueOf scopes call name = .ok value ∧ substitute value scopes call = .ok (String.ofList r) := by
  rw [alone]
  rcases ok_or_error (valueOf scopes call name) with ⟨value, hv⟩ | ⟨fault, hv⟩
  · rw [hv]
    refine Iff.trans (b := (substitute value scopes call).map String.toList = .ok r) Iff.rfl ?_
    rw [map_eq_ok_iff]
    constructor
    · rintro ⟨text, ht, rfl⟩
      exact ⟨value, rfl, by rwa [String.ofList_toList]⟩
    · rintro ⟨_, ⟨⟩, ht⟩
      exact ⟨_, ht, String.toList_ofList⟩
  · rw [hv]
    exact ⟨nofun, nofun⟩

theorem written_alone (ho : hasOpening text.toList = true)
    (h : substitute text scopes call = .ok result) :
    written (alone scopes call) (tokens text.toList) = .ok result.toList := by
  rw [substitute_eq, map_eq_ok_iff] at h
  obtain ⟨r, hr, rfl⟩ := h
  have halone : ∀ n part, enter scopes call (expand scopes call 9) [] n = .ok part →
      alone scopes call n = .ok part := by
    intro n part hn
    obtain ⟨-, value, hv, hpart⟩ := enter_eq_ok_iff.1 hn
    have hvalue : expand scopes call maxLevels [] value.toList = .ok part :=
      expand_mono (by decide) (List.nil_subset _) hpart
    exact alone_eq_ok_iff.2 ⟨value, hv, by rw [substitute_eq, hvalue]; rfl⟩
  rw [maxLevels, expand_eq_written ho, written_eq_ok_iff] at hr
  obtain ⟨parts, hparts, rfl⟩ := hr
  rw [String.toList_ofList]
  exact written_eq_ok_iff.2 ⟨parts, mapM_written_of_ok halone hparts, rfl⟩

theorem flatMap_source_eq_nil_iff {ts : List Token} : ts.flatMap Token.source = [] ↔ ts = [] := by
  rw [List.flatMap_eq_nil_iff]
  refine ⟨fun h => List.eq_nil_iff_forall_not_mem.2 fun t ht => ?_, fun h => by simp [h]⟩
  have hsource := h t ht
  cases t <;> simp [Token.source] at hsource

theorem tokens_placeholder (h : names (placeholder name) = [name]) :
    ∃ inside, tokens (placeholder name).toList = [.slot inside] ∧ nameOf (hide inside) = name := by
  rw [names_eq_map_insides] at h
  obtain ⟨inside, hinsides, hname⟩ := List.map_eq_singleton_iff.1 h
  have hmem : Token.slot inside ∈ tokens (placeholder name).toList :=
    mem_insides_iff.1 (by rw [hinsides]; exact List.mem_singleton_self inside)
  obtain ⟨before, after, htokens⟩ := List.append_of_mem hmem
  have hsource := congrArg List.length (flatMap_source_tokens (placeholder name).toList)
  have hshort : name.toList.length ≤ inside.length := by
    have htrim := Text.length_trim_le (hide inside)
    have hhide := length_hide inside
    rw [← hname, nameOf, String.toList_ofList]
    omega
  rw [htokens, placeholder, String.toList_ofList] at hsource
  simp only [List.flatMap_append, List.flatMap_cons, Token.source, List.length_append,
    List.length_cons, List.length_nil] at hsource
  have hbefore : before = [] := flatMap_source_eq_nil_iff.1 (List.length_eq_zero_iff.1 (by omega))
  have hafter : after = [] := flatMap_source_eq_nil_iff.1 (List.length_eq_zero_iff.1 (by omega))
  rw [hbefore, hafter] at htokens
  exact ⟨inside, htokens, hname⟩

theorem substitute_of_placeholder (hn : names (placeholder name) = [name])
    (h : substitute (placeholder name) scopes call = .ok result) : ∃ value,
      valueOf scopes call name = .ok value ∧ substitute value scopes call = .ok result := by
  obtain ⟨inside, htokens, hname⟩ := tokens_placeholder hn
  have ho : hasOpening (placeholder name).toList = true := by
    rw [placeholder, String.toList_ofList]
    rfl
  have halone := written_alone ho h
  rw [htokens, written_slot_cons, hname, written_nil] at halone
  simp only [map_pure, List.append_nil, bind_pure] at halone
  obtain ⟨value, hv, hresult⟩ := alone_eq_ok_iff.1 halone
  exact ⟨value, hv, by rwa [String.ofList_toList] at hresult⟩

theorem lookup?_of_valueOf {value : String} (hn : isCall name = false)
    (hv : valueOf scopes call name = .ok value) : scopes.lookup? name = some value := by
  unfold valueOf at hv
  split at hv
  · rename_i hc
    simp [isCall, hc] at hn
  · split at hv
    · rename_i hl
      rw [hl, ok_eq_ok_iff.1 hv]
    · cases hv

theorem substituteAt_eq_expand {path : List String} {inFlight : Finset String} (depth : Nat)
    (text : String) (h : ∀ n, n ∈ path ↔ n ∈ inFlight) :
    (substituteAt scopes call depth inFlight text).1 =
      (expand scopes call (maxLevels - depth) path text.toList).map String.ofList :=
  (leaves_substitute depth h text).1

/-- The set is left as it was, and less depth and fewer names above do no harm. -/
theorem substituteAt_of_le {depth lower : Nat} {inFlight fewer left : Finset String}
    (hd : lower ≤ depth) (hf : fewer ⊆ inFlight)
    (h : substituteAt scopes call depth inFlight text = (.ok result, left)) :
    left = inFlight ∧ substituteAt scopes call lower fewer text = (.ok result, fewer) := by
  have hnames : ∀ names : Finset String, ∀ n, n ∈ names.toList ↔ n ∈ names := fun _ _ =>
    Finset.mem_toList
  obtain ⟨hresult, hleft⟩ := (leaves_substitute depth (hnames inFlight) text).run_eq_ok_iff.1 h
  obtain ⟨r, hr, rfl⟩ := map_eq_ok_iff.1 hresult
  have hlower : expand scopes call (maxLevels - lower) fewer.toList text.toList = .ok r :=
    expand_mono (by omega) (fun n hn => by simpa using hf (by simpa using hn)) hr
  exact ⟨hleft, (leaves_substitute lower (hnames fewer) text).run_eq_ok_iff.2
    ⟨map_eq_ok_iff.2 ⟨r, hlower, rfl⟩, rfl⟩⟩

theorem lookup?_of_substitute_placeholder (hn : isCall name = false)
    (hnames : names (placeholder name) = [name])
    (h : substitute (placeholder name) scopes call = .ok result) :
    ∃ value, scopes.lookup? name = some value ∧ substitute value scopes call = .ok result := by
  obtain ⟨value, hv, hresult⟩ := substitute_of_placeholder hnames h
  exact ⟨value, lookup?_of_valueOf hn hv, hresult⟩

/-- A text in the place of a value comes out as it does by itself, whatever is above it. -/
theorem substituteAt_restores_and_inlines (scopes : Scopes) (call : Resolver Id) :
    (∀ depth path inFlight text, (∀ n, n ∈ path ↔ n ∈ inFlight) →
      (substituteAt scopes call depth inFlight text).1 =
        (expand scopes call (maxLevels - depth) path text.toList).map String.ofList) ∧
    (∀ depth lower inFlight fewer left text result, lower ≤ depth → fewer ⊆ inFlight →
      substituteAt scopes call depth inFlight text = (.ok result, left) →
      left = inFlight ∧ substituteAt scopes call lower fewer text = (.ok result, fewer)) ∧
    (∀ text result, hasOpening text.toList = true → substitute text scopes call = .ok result →
      written (alone scopes call) (tokens text.toList) = .ok result.toList) ∧
    ∀ name result, isCall name = false → names (placeholder name) = [name] →
      substitute (placeholder name) scopes call = .ok result →
      ∃ value, scopes.lookup? name = some value ∧ substitute value scopes call = .ok result :=
  ⟨fun depth _ _ text => substituteAt_eq_expand depth text, fun _ _ _ _ _ _ _ => substituteAt_of_le,
    fun _ _ => written_alone, fun _ _ => lookup?_of_substitute_placeholder⟩

/-- Scopes in which one name leads to the other twice. -/
def doubling : Scopes := { file := .ofEntries [("a", "{{b}}-{{b}}"), ("b", "1")] }

theorem substitute_doubling :
    substituteAt doubling withoutFunctions 3 {"c"} (placeholder "a") = (.ok "1-1", {"c"}) ∧
    substituteAt doubling withoutFunctions 0 ∅ (placeholder "a") = (.ok "1-1", ∅) ∧
    written (alone doubling withoutFunctions) (tokens "{{b}}-{{b}}".toList) = .ok "1-1".toList ∧
    ∃ value, doubling.lookup? "a" = some value ∧
      substitute value doubling withoutFunctions = .ok "1-1" := by
  obtain ⟨-, hcontext, halone, hvalue⟩ := substituteAt_restores_and_inlines doubling withoutFunctions
  have hrun : substituteAt doubling withoutFunctions 3 {"c"} (placeholder "a") = (.ok "1-1", {"c"}) :=
    (leaves_substitute 3 (fun n => by simp : ∀ n, n ∈ ["c"] ↔ n ∈ {"c"}) _).run_eq_ok_iff.2
      ⟨by decide +kernel, rfl⟩
  have hbelow := hcontext 3 0 {"c"} ∅ _ _ _ (by decide) (Finset.empty_subset _) hrun
  exact ⟨hrun, hbelow.2, halone "{{b}}-{{b}}" "1-1" (by decide) (by decide +kernel),
    hvalue "a" "1-1" (by decide) (by decide +kernel) (by decide +kernel)⟩

end Context

end TemplatedRequests.Template
