/-!
Blanks, and what is done at them: trimming both ends of a text and cutting it into words.
-/

namespace TemplatedRequests.Text

def blanks : List (Nat × Nat) := [
  (0x09, 0x0d), (0x1c, 0x20), (0x85, 0x85), (0xa0, 0xa0), (0x1680, 0x1680), (0x2000, 0x200a),
  (0x2028, 0x2029), (0x202f, 0x202f), (0x205f, 0x205f), (0x3000, 0x3000)]

def isBlank (c : Char) : Bool :=
  blanks.any fun r => r.1 ≤ c.toNat && c.toNat ≤ r.2

/-- White space as a property of characters leaves out the four separators of records. -/
def isWhiteSpace (c : Char) : Bool :=
  isBlank c && !(0x1c ≤ c.toNat && c.toNat ≤ 0x1f)

def trimLeft (cs : List Char) : List Char := cs.dropWhile isBlank

def trimRight : List Char → List Char
  | [] => []
  | c :: r => match trimRight r with
    | [] => if isBlank c then [] else [c]
    | d :: s => c :: d :: s

def trim (cs : List Char) : List Char := trimRight (trimLeft cs)

def words : List Char → List (List Char)
  | [] => []
  | c :: r =>
    if isBlank c then words r
    else if r.head?.all isBlank then [c] :: words r
    else (words r).modifyHead (c :: ·)

theorem isBlank_eq_false_of_range {low high : Nat} (hapart : ∀ r ∈ blanks, r.2 < low ∨ high < r.1)
    {c : Char} (hlow : low ≤ c.toNat) (hhigh : c.toNat ≤ high) : isBlank c = false := by
  simp only [isBlank, List.any_eq_false, Bool.and_eq_true, decide_eq_true_eq]
  intro r hr
  have := hapart r hr
  omega

@[simp] theorem trimLeft_nil : trimLeft [] = [] := rfl

@[simp] theorem trimRight_nil : trimRight [] = [] := rfl

@[simp] theorem trim_nil : trim [] = [] := rfl

theorem trimRight_eq_nil_iff {cs : List Char} : trimRight cs = [] ↔ ∀ c ∈ cs, isBlank c = true := by
  induction cs with
  | nil => simp
  | cons c r ih =>
    rw [trimRight]
    split <;> rename_i h
    · have hr := ih.1 h
      cases hc : isBlank c with
      | false => simp [hc]
      | true => simpa [hc] using hr
    · simp only [List.forall_mem_cons, ← ih, h, reduceCtorEq, and_false]

theorem trimRight_append_blanks {cs : List Char} (bs : List Char)
    (h : ∀ c ∈ bs, isBlank c = true) : trimRight (cs ++ bs) = trimRight cs := by
  induction cs with
  | nil => simpa using trimRight_eq_nil_iff.2 h
  | cons c r ih => simp only [List.cons_append, trimRight, ih]

theorem trimRight_eq_self {cs : List Char} (h : ∀ c, cs.getLast? = some c → isBlank c = false) :
    trimRight cs = cs := by
  induction cs with
  | nil => rfl
  | cons c r ih =>
    cases r with
    | nil => simp [trimRight, h c rfl]
    | cons d s =>
      have : trimRight (d :: s) = d :: s := ih fun e he => h e (by simpa using he)
      rw [trimRight, this]

theorem length_trimRight_le (cs : List Char) : (trimRight cs).length ≤ cs.length := by
  induction cs with
  | nil => exact Nat.le_refl _
  | cons c r ih =>
    rw [trimRight]
    split
    · split <;> simp
    · rename_i h
      rw [h] at ih
      simpa using ih

theorem length_trim_le (cs : List Char) : (trim cs).length ≤ cs.length :=
  Nat.le_trans (length_trimRight_le _) (List.dropWhile_sublist isBlank).length_le

theorem trimRight_eq_self_iff {cs : List Char} :
    trimRight cs = cs ↔ ∀ c, cs.getLast? = some c → isBlank c = false := by
  refine ⟨fun h c hc => ?_, trimRight_eq_self⟩
  obtain ⟨front, rfl⟩ := List.getLast?_eq_some_iff.1 hc
  cases hb : isBlank c with
  | false => rfl
  | true =>
    have hle := length_trimRight_le front
    rw [trimRight_append_blanks [c] (by simpa using hb)] at h
    rw [h, List.length_append, List.length_singleton] at hle
    omega

theorem exists_eq_trimRight_append (cs : List Char) :
    ∃ bs, (∀ c ∈ bs, isBlank c = true) ∧ cs = trimRight cs ++ bs := by
  induction cs with
  | nil => exact ⟨[], by simp, rfl⟩
  | cons c r ih =>
    rw [trimRight]
    split <;> rename_i h
    · have hr := trimRight_eq_nil_iff.1 h
      cases hc : isBlank c with
      | true => exact ⟨c :: r, List.forall_mem_cons.2 ⟨hc, hr⟩, rfl⟩
      | false => exact ⟨r, hr, rfl⟩
    · obtain ⟨bs, hb, heq⟩ := ih
      rw [h] at heq
      exact ⟨bs, hb, congrArg (c :: ·) heq⟩

theorem isBlank_getLast_trimRight (cs : List Char) :
    ∀ c, (trimRight cs).getLast? = some c → isBlank c = false := by
  obtain ⟨bs, hb, heq⟩ := exists_eq_trimRight_append cs
  have hself := congrArg trimRight heq
  rw [trimRight_append_blanks bs hb] at hself
  exact trimRight_eq_self_iff.1 hself.symm

theorem trim_eq_self_iff {cs : List Char} :
    trim cs = cs ↔ (∀ c, cs.head? = some c → isBlank c = false) ∧
      ∀ c, cs.getLast? = some c → isBlank c = false := by
  cases cs with
  | nil => simp
  | cons c r =>
    cases hc : isBlank c with
    | false => simp [trim, trimLeft, hc, trimRight_eq_self_iff]
    | true =>
      refine ⟨fun h => ?_, fun h => by simp [hc] at h⟩
      have hle := length_trim_le r
      rw [trim, trimLeft, List.dropWhile_cons_of_pos hc] at h
      rw [trim, trimLeft, h, List.length_cons] at hle
      omega

theorem trim_between_blanks {cs left right : List Char} (hl : ∀ c ∈ left, isBlank c = true)
    (hr : ∀ c ∈ right, isBlank c = true) (h : trim cs = cs) (hne : cs ≠ []) :
    trim (left ++ (cs ++ right)) = cs := by
  obtain ⟨c, r, rfl⟩ := List.exists_cons_of_ne_nil hne
  obtain ⟨hfirst, hlast⟩ := trim_eq_self_iff.1 h
  have hleft : trimLeft (left ++ (c :: r ++ right)) = c :: r ++ right := by
    rw [trimLeft, List.dropWhile_append_of_pos hl, List.cons_append, List.dropWhile_cons_of_neg]
    simp [hfirst c rfl]
  rw [trim, hleft, trimRight_append_blanks right hr, trimRight_eq_self hlast]

theorem trimRight_isPrefix (cs : List Char) : trimRight cs <+: cs := by
  induction cs with
  | nil => exact List.prefix_rfl
  | cons c r ih =>
    rw [trimRight]
    split
    · split
      · exact List.nil_prefix
      · exact List.cons_prefix_cons.2 ⟨rfl, List.nil_prefix⟩
    · rename_i hr
      exact List.cons_prefix_cons.2 ⟨rfl, hr ▸ ih⟩

theorem trim_infix (cs : List Char) : trim cs <:+: cs :=
  (trimRight_isPrefix _).isInfix.trans (List.dropWhile_suffix _).isInfix

theorem trim_eq_nil_iff {cs : List Char} : trim cs = [] ↔ ∀ c ∈ cs, isBlank c = true := by
  induction cs with
  | nil => simp
  | cons c r ih =>
    cases hc : isBlank c with
    | true => simpa [trim, trimLeft, hc] using ih
    | false =>
      rw [trim, trimLeft, List.dropWhile_cons_of_neg (by simp [hc])]
      exact trimRight_eq_nil_iff

theorem head?_trim {cs : List Char} (h : trim cs ≠ []) : (trim cs).head? = (trimLeft cs).head? := by
  obtain ⟨c, r, hc⟩ := List.exists_cons_of_ne_nil h
  obtain ⟨bs, hbs⟩ : trim cs <+: trimLeft cs := trimRight_isPrefix (trimLeft cs)
  rw [← hbs, hc]
  rfl

theorem isBlank_head_trim (cs : List Char) :
    ∀ c, (trim cs).head? = some c → isBlank c = false := by
  intro c hc
  have hne : trim cs ≠ [] := by
    intro h
    simp [h] at hc
  have hfirst := List.head?_dropWhile_not isBlank cs
  rw [head?_trim hne, trimLeft] at hc
  rwa [hc] at hfirst

theorem trim_trim (cs : List Char) : trim (trim cs) = trim cs :=
  trim_eq_self_iff.2 ⟨isBlank_head_trim cs, isBlank_getLast_trimRight (trimLeft cs)⟩

theorem countP_trim {p : Char → Bool} (hp : ∀ c, isBlank c = true → p c = false) (cs : List Char) :
    (trim cs).countP p = cs.countP p := by
  have hblanks : ∀ bs : List Char, (∀ c ∈ bs, isBlank c = true) → bs.countP p = 0 := fun bs hb =>
    List.countP_eq_zero.2 fun c hc => by simp [hp c (hb c hc)]
  have hleft : ∀ c ∈ cs.takeWhile isBlank, isBlank c = true :=
    List.all_eq_true.1 List.all_takeWhile
  obtain ⟨right, hright, heq⟩ := exists_eq_trimRight_append (trimLeft cs)
  symm
  calc cs.countP p
      = (cs.takeWhile isBlank ++ trimLeft cs).countP p := by
        rw [trimLeft, List.takeWhile_append_dropWhile]
    _ = (trimLeft cs).countP p := by rw [List.countP_append, hblanks _ hleft, Nat.zero_add]
    _ = (trim cs ++ right).countP p := congrArg _ heq
    _ = (trim cs).countP p := by rw [List.countP_append, hblanks _ hright, Nat.add_zero]

theorem mem_trim_iff {c : Char} (h : isBlank c = false) (cs : List Char) :
    c ∈ trim cs ↔ c ∈ cs := by
  have hblank : ∀ d, isBlank d = true → (d == c) = false := by
    intro d hd
    rw [beq_eq_false_iff_ne]
    rintro rfl
    simp [h] at hd
  have hcount : (trim cs).count c = cs.count c := countP_trim hblank cs
  rw [← List.count_pos_iff, ← List.count_pos_iff, hcount]

theorem words_append_blank {word rest : List Char} {b : Char} (hne : word ≠ [])
    (hw : ∀ c ∈ word, isBlank c = false) (hb : isBlank b = true) :
    words (word ++ b :: rest) = word :: words rest := by
  induction word with
  | nil => exact absurd rfl hne
  | cons c r ih =>
    obtain ⟨hc, hr⟩ := List.forall_mem_cons.1 hw
    rw [List.cons_append, words, if_neg (by simp [hc])]
    cases r with
    | nil =>
      rw [List.nil_append, if_pos (by simpa using hb), words, if_pos hb]
    | cons d s =>
      rw [if_neg (by simp [hr d List.mem_cons_self]), ih (List.cons_ne_nil d s) hr]
      rfl

end TemplatedRequests.Text
