import TemplatedRequests.Json.Reader
import TemplatedRequests.Proofs.Json.Location
import TemplatedRequests.Proofs.Numeral.Written

/-!
What documents are like that have been read: no name comes twice in an object, integers have no more
digits than are taken, and no more objects and arrays lie within each other than there was room for.
-/

namespace TemplatedRequests.Json

def IsShort (n : Int) : Prop := (toString n.natAbs).toList.length ≤ Numeral.digitLimit

/-- A document that can come out when `room` objects and arrays may be opened within each other. -/
inductive Value.Fits : (room : Nat) → Value → Prop
  | null {room} : Fits room .null
  | bool {room} (b) : Fits room (.bool b)
  | int {room n} (short : IsShort n) : Fits room (.int n)
  | float {room} (x) : Fits room (.float x)
  | text {room} (s) : Fits room (.text s)
  | array {room items} (h : ∀ v ∈ items, Fits room v) : Fits (room + 1) (.array items)
  | object {room fields} (names : (fields.map (·.1)).Nodup) (h : ∀ e ∈ fields, Fits room e.2) :
      Fits (room + 1) (.object fields)

theorem Value.Fits.isDistinct {room : Nat} {v : Value} (h : v.Fits room) : v.IsDistinct := by
  induction h with
  | null => exact .null
  | bool b => exact .bool b
  | int _ => exact .int _
  | float x => exact .float x
  | text s => exact .text s
  | array _ ih => exact .array ih
  | object names _ ih => exact .object names ih

section Number

variable {cs r : List Char} {l : Literal}

theorem digit_of_isDigit {c : Char} (h : isDigit c = true) : c.toNat - '0'.toNat < 10 := by
  simp only [isDigit, Bool.and_eq_true, decide_eq_true_eq] at h
  have : c.toNat ≤ '9'.toNat := h.2
  have hnine : '9'.toNat = 57 := rfl
  have hzero : '0'.toNat = 48 := rfl
  omega

theorem forall_digitsOf_lt (h : ∀ c ∈ cs, isDigit c = true) : ∀ d ∈ digitsOf cs, d < 10 := by
  rw [digitsOf, List.forall_mem_map]
  exact fun c hc => digit_of_isDigit (h c hc)

theorem isDigit_of_mem_wholePart : ∀ c ∈ (wholePart cs).1, isDigit c = true := by
  unfold wholePart
  split
  · exact List.forall_mem_singleton.2 (by decide)
  · exact List.all_eq_true.1 List.all_takeWhile

theorem whole_of_readLiteral? (h : readLiteral? cs = some (l, r)) :
    l.whole ≠ [] ∧ ∀ c ∈ l.whole, isDigit c = true := by
  unfold readLiteral? at h
  split at h
  rename_i negative unsigned _
  dsimp only at h
  split at h <;> cases h
  rename_i hne
  exact ⟨by simpa using hne, isDigit_of_mem_wholePart⟩

theorem isShort_of_limited {ds : List Nat} {n : Nat} (hds : ∀ d ∈ ds, d < 10) (hne : ds ≠ [])
    (h : Numeral.limited ds = .ok n) : IsShort n ∧ IsShort (-n) := by
  rw [Numeral.limited] at h
  split at h <;> cases h
  rename_i hlimit
  have hlength := (Numeral.length_toString_le_iff (List.length_pos_iff.2 hne)).2
    (Numeral.ofDigits_lt hds)
  have hshort : IsShort (Numeral.ofDigits ds) := Nat.le_trans hlength hlimit
  exact ⟨hshort, by rwa [IsShort, Int.natAbs_neg]⟩

end Number

section Yields

variable {α β : Type} {P : α → Prop} {Q : β → Prop} {x : Except Stop (α × List Char)}

/-- What has been read, if anything, has a property. -/
def Yields (P : α → Prop) (x : Except Stop (α × List Char)) : Prop := ∀ a r, x = .ok (a, r) → P a

theorem yields_ok {a : α} (h : P a) (r : List Char) : Yields P (.ok (a, r)) := by
  rintro _ _ ⟨⟩
  exact h

theorem yields_error (stop : Stop) : Yields P (.error stop) := nofun

theorem yields_map {f : α → β} (hx : Yields P x) (hf : ∀ a, P a → Q (f a)) :
    Yields Q (x.map fun p => (f p.1, p.2)) := by
  rcases x with stop | ⟨a, r⟩
  · exact yields_error stop
  · exact yields_ok (hf a (hx a r rfl)) r

end Yields

section Read

variable {numbers : Numbers} {fuel room : Nat}

theorem yields_constant (name : String) (x : Binary64) (rest : List Char) :
    Yields (Value.Fits room) (constant numbers name x rest) := by
  unfold constant
  split
  · exact yields_error _
  · exact yields_ok (.float x) rest

theorem fits_of_value {l : Literal} {v : Value} (hne : l.whole ≠ [])
    (hdigits : ∀ c ∈ l.whole, isDigit c = true) (h : l.value numbers = .ok v) : v.Fits room := by
  unfold Literal.value at h
  split at h
  · split at h <;> cases h
    rename_i n hn
    have hne : digitsOf l.whole ≠ [] := by simpa [digitsOf] using hne
    obtain ⟨hpos, hneg⟩ := isShort_of_limited (forall_digitsOf_lt hdigits) hne hn
    split
    · exact .int hneg
    · exact .int hpos
  · dsimp only at h
    split at h <;> cases h
    exact .float _

theorem yields_readNumber (cs : List Char) :
    Yields (Value.Fits room) (readNumber numbers cs) := by
  unfold readNumber
  split
  · exact yields_error _
  · rename_i hl
    obtain ⟨hne, hdigits⟩ := whole_of_readLiteral? hl
    split
    · exact yields_error _
    · exact yields_ok (fits_of_value hne hdigits ‹_›) _

/-- Fields of which each name comes once, with documents that fit. -/
def AreFitting (room : Nat) (fields : List (String × Value)) : Prop :=
  (fields.map (·.1)).Nodup ∧ ∀ e ∈ fields, e.2.Fits room

theorem mem_put {α : Type} {name : String} {a : α} {es : List (String × α)} {e : String × α}
    (h : e ∈ OrderedMap.put name a es) : e = (name, a) ∨ e ∈ es := by
  induction es with
  | nil => simpa [OrderedMap.put] using h
  | cons first r ih =>
    rw [OrderedMap.put] at h
    split at h
    · obtain h | h := List.mem_cons.1 h
      · exact .inl h
      · exact .inr (List.mem_cons_of_mem _ h)
    · obtain rfl | h := List.mem_cons.1 h
      · exact .inr List.mem_cons_self
      · exact (ih h).imp_right (List.mem_cons_of_mem _)

theorem AreFitting.put {fields : List (String × Value)} {v : Value} (h : AreFitting room fields)
    (name : String) (hv : v.Fits room) : AreFitting room (OrderedMap.put name v fields) := by
  refine ⟨OrderedMap.nodup_put name v h.1, fun e he => ?_⟩
  obtain rfl | he := mem_put he
  · exact hv
  · exact h.2 e he

/-- With `fuel`, the three readers read documents that fit in the room they are given. -/
structure ReadsFitting (numbers : Numbers) (fuel : Nat) : Prop where
  value : ∀ room cs, Yields (Value.Fits room) (readValue numbers room fuel cs)
  items : ∀ room cs, Yields (fun vs => ∀ v ∈ vs, v.Fits room) (readItems numbers room fuel cs)
  fields : ∀ room seen cs, AreFitting room seen →
    Yields (AreFitting room) (readFields numbers room fuel seen cs)

theorem yields_readValue_succ (h : ReadsFitting numbers fuel) (room : Nat) (cs : List Char) :
    Yields (Value.Fits room) (readValue numbers room (fuel + 1) cs) := by
  unfold readValue
  split
  · rcases readString _ _ with stop | ⟨text, r⟩
    · exact yields_error stop
    · exact yields_ok (.text _) r
  · split
    · exact yields_error _
    · obtain ⟨room, rfl⟩ := Nat.exists_eq_succ_of_ne_zero ‹room ≠ 0›
      split
      · exact yields_ok (.object List.nodup_nil (by simp)) _
      · exact yields_map (h.fields _ _ _ ⟨List.nodup_nil, by simp⟩) fun fs hfs => .object hfs.1 hfs.2
  · split
    · exact yields_error _
    · obtain ⟨room, rfl⟩ := Nat.exists_eq_succ_of_ne_zero ‹room ≠ 0›
      split
      · exact yields_ok (.array (by simp)) _
      · exact yields_map (h.items _ _) fun vs hvs => .array hvs
  · exact yields_ok .null _
  · exact yields_ok (.bool true) _
  · exact yields_ok (.bool false) _
  · exact yields_constant _ _ _
  · exact yields_constant _ _ _
  · exact yields_constant _ _ _
  · exact yields_readNumber _

theorem yields_readItems_succ (h : ReadsFitting numbers fuel) (room : Nat) (cs : List Char) :
    Yields (fun vs => ∀ v ∈ vs, v.Fits room) (readItems numbers room (fuel + 1) cs) := by
  unfold readItems
  split
  · exact yields_error _
  · rename_i v r hr
    have hv := h.value room cs v r hr
    split
    · exact yields_ok (by simpa using hv) _
    · exact yields_map (h.items _ _) fun vs hvs => List.forall_mem_cons.2 ⟨hv, hvs⟩
    · exact yields_error _

theorem yields_readFields_succ (h : ReadsFitting numbers fuel) {seen : List (String × Value)}
    (cs : List Char) (hseen : AreFitting room seen) :
    Yields (AreFitting room) (readFields numbers room (fuel + 1) seen cs) := by
  unfold readFields
  split
  · split
    · exact yields_error _
    · rename_i name r hr
      split
      · split
        · exact yields_error _
        · rename_i v r hv
          have hfields := hseen.put (String.ofList name) (h.value _ _ v r hv)
          dsimp only
          split
          · exact yields_ok hfields _
          · exact h.fields _ _ _ hfields
          · exact yields_error _
      · exact yields_error _
  · exact yields_error _

theorem readsFitting (numbers : Numbers) (fuel : Nat) : ReadsFitting numbers fuel := by
  induction fuel with
  | zero =>
    refine ⟨fun _ _ => ?_, fun _ _ => ?_, fun _ _ _ _ => ?_⟩
    · exact yields_error _
    · exact yields_error _
    · exact yields_error _
  | succ fuel ih =>
    exact ⟨yields_readValue_succ ih, yields_readItems_succ ih,
      fun _ _ cs hseen => yields_readFields_succ ih cs hseen⟩

theorem fits_of_read {cs : List Char} {D : Value} (h : read numbers cs = .ok D) :
    D.Fits nestingLimit := by
  have hdocument : readDocument numbers cs = .ok D := by
    unfold read at h
    split at h <;> cases h
    assumption
  unfold readDocument at hdocument
  split at hdocument
  · cases hdocument
  · split at hdocument
    · cases hdocument
    · rename_i v r hv
      split at hdocument <;> cases hdocument
      exact (readsFitting numbers _).value _ _ _ _ hv

theorem isDistinct_of_read {cs : List Char} {D : Value} (h : read numbers cs = .ok D) :
    D.IsDistinct :=
  (fits_of_read h).isDistinct

end Read

end TemplatedRequests.Json
