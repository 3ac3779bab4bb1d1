import TemplatedRequests.Proofs.Template.Expansion

/-!
Functions that keep a state and still answer the same call always alike: with the same fault, with
the same text, or with texts that hold no placeholder. A text then fails as it does where the
answers are fixed.
-/

namespace TemplatedRequests.Template

variable {σ α β : Type} (kept : σ → Prop)

/-- The same fault, or related values. -/
def EndAlike (R : α → α → Prop) (x y : Except Fault α) : Prop :=
  (∃ fault, x = .error fault ∧ y = .error fault) ∨ ∃ a b, x = .ok a ∧ y = .ok b ∧ R a b

/-- From every state that is kept, `x` ends as `y` does and keeps the state. -/
def Follows (R : α → α → Prop) (x : ExceptT Fault (StateM σ) α) (y : ExceptT Fault Id α) :
    Prop :=
  ∀ state, kept state → kept (x.run.run state).2 ∧ EndAlike R (x.run.run state).1 y

section Follows

variable {kept} {R : α → α → Prop} {S : β → β → Prop}
variable {x : ExceptT Fault (StateM σ) α} {y : ExceptT Fault Id α}

theorem endAlike_refl (hR : ∀ a, R a a) : (r : Except Fault α) → EndAlike R r r
  | .error fault => .inl ⟨fault, rfl, rfl⟩
  | .ok a => .inr ⟨a, a, rfl, rfl, hR a⟩

theorem follows_pure {a b : α} (h : R a b) : Follows kept R (pure a) (pure b) :=
  fun _ hs => ⟨hs, .inr ⟨a, b, rfl, rfl, h⟩⟩

theorem follows_throw (fault : Fault) : Follows kept R (throw fault) (throw fault) :=
  fun _ hs => ⟨hs, .inl ⟨fault, rfl, rfl⟩⟩

theorem follows_bind {f : α → ExceptT Fault (StateM σ) β} {g : α → ExceptT Fault Id β}
    (h : Follows kept R x y)
    (hf : ∀ a b, R a b → Follows kept S (f a) (g b)) :
    Follows kept S (x >>= f) (y >>= g) := by
  intro state hs
  obtain ⟨hkept, hend⟩ := h state hs
  rw [ExceptT.run_bind, StateT.run_bind]
  rcases hx : x.run.run state with ⟨fault | a, next⟩
  · rw [hx] at hkept hend
    obtain ⟨fault', hfault, rfl⟩ | ⟨_, _, ha, -⟩ := hend
    · cases hfault
      exact ⟨hkept, .inl ⟨fault, rfl, rfl⟩⟩
    · cases ha
  · rw [hx] at hkept hend
    obtain ⟨_, hfault, -⟩ | ⟨a', b, ha, rfl, hab⟩ := hend
    · cases hfault
    · cases ha
      exact hf a b hab next hkept

theorem follows_mapM {ι : Type} {f : ι → ExceptT Fault (StateM σ) α} {g : ι → ExceptT Fault Id α}
    (h : ∀ i, Follows kept (fun _ _ => True) (f i) (g i)) (is : List ι) :
    Follows kept (fun _ _ => True) (is.mapM f) (is.mapM g) := by
  induction is with
  | nil => exact follows_pure trivial
  | cons i is ih =>
    rw [List.mapM_cons, List.mapM_cons]
    exact follows_bind (h i) fun _ _ _ => follows_bind ih fun _ _ _ => follows_pure trivial

theorem follows_written {write : String → ExceptT Fault (StateM σ) (List Char)}
    {written : String → ExceptT Fault Id (List Char)}
    (hw : ∀ name, Follows kept (fun _ _ => True) (write name) (written name)) (p : Piece) :
    Follows kept (fun _ _ => True) (p.written write) (p.written written) := by
  cases p with
  | plain c => exact follows_pure trivial
  | slot inside => exact hw _

end Follows

def SameOrPlain (a b : String) : Prop :=
  a = b ∨ hasOpening a.toList = false ∧ hasOpening b.toList = false

theorem hasOpening_of_not_mem {cs : List Char} (h : '{' ∉ cs) : hasOpening cs = false := by
  fun_induction hasOpening cs with
  | case1 => simp at h
  | case2 c r _ ih => exact ih fun hm => h (List.mem_cons_of_mem c hm)
  | case3 => rfl

theorem expand_of_plain {m : Type → Type} [Monad m] {scopes : Scopes} {call : Resolver m}
    {levels : Nat} {path : List String} {cs : List Char} (h : hasOpening cs = false) :
    expand scopes call levels path cs = pure cs := by
  cases levels <;> rw [expand, if_neg (by simp [h])]

section Expand

variable {kept} {scopes : Scopes} {call : Resolver (StateM σ)} {answers : Resolver Id}
variable (h : ∀ function args, Follows kept SameOrPlain (call function args) (answers function args))
include h

theorem follows_valueOf (name : String) :
    Follows kept SameOrPlain (valueOf scopes call name) (valueOf scopes answers name) := by
  unfold valueOf
  split
  · split
    · exact follows_throw _
    · exact h _ _
  · split
    · exact follows_pure (.inl rfl)
    · exact follows_throw _

theorem follows_enter {inner : List String → List Char → ExceptT Fault (StateM σ) (List Char)}
    {outer : List String → List Char → ExceptT Fault Id (List Char)}
    (hi : ∀ path a b, SameOrPlain a b →
      Follows kept (fun _ _ => True) (inner path a.toList) (outer path b.toList))
    (path : List String) (name : String) :
    Follows kept (fun _ _ => True) (enter scopes call inner path name)
      (enter scopes answers outer path name) := by
  have hvalue : Follows kept (fun _ _ => True)
      (valueOf scopes call name >>= fun value => inner (name :: path) value.toList)
      (valueOf scopes answers name >>= fun value => outer (name :: path) value.toList) :=
    follows_bind (follows_valueOf h name) fun a b hab => hi _ a b hab
  unfold enter
  by_cases hm : name ∈ path
  · simp only [hm, if_true]
    exact follows_bind (R := Eq) (follows_throw _) fun _ _ _ => hvalue
  · simp only [hm, if_false]
    exact hvalue

theorem follows_expand (levels : Nat) (path : List String) (cs : List Char) :
    Follows kept (fun _ _ => True) (expand scopes call levels path cs)
      (expand scopes answers levels path cs) := by
  -- By induction on the levels.
  induction levels generalizing path cs with
  | zero =>
    rw [expand, expand]
    split
    · exact follows_throw _
    · exact follows_pure trivial
  | succ levels ih =>
    have hvalues : ∀ path a b, SameOrPlain a b → Follows kept (fun _ _ => True)
        (expand scopes call levels path a.toList) (expand scopes answers levels path b.toList) := by
      rintro path a b (rfl | ⟨ha, hb⟩)
      · exact ih path a.toList
      · rw [expand_of_plain ha, expand_of_plain hb]
        exact follows_pure trivial
    rw [expand, expand]
    split
    · refine follows_bind (follows_mapM (follows_written fun name => ?_) _) fun _ _ _ =>
        follows_pure trivial
      exact follows_enter h hvalues path name
    · exact follows_pure trivial

theorem substitute_eq_error_iff_of_follows {text : String} {fault : Fault} {state : σ}
    (hs : kept state) : ((substitute text scopes call).run.run state).1 = .error fault ↔
      substitute text scopes answers = .error fault := by
  have hfollows : Follows kept (fun _ _ => True) (substitute text scopes call)
      (substitute text scopes answers) :=
    follows_bind (follows_expand h _ _ _) fun _ _ _ => follows_pure trivial
  obtain ⟨-, ⟨f, hx, hy⟩ | ⟨a, b, hx, hy, -⟩⟩ := hfollows state hs
  · rw [hx, hy]
  · rw [hx, hy]
    exact ⟨nofun, nofun⟩

end Expand

end TemplatedRequests.Template
