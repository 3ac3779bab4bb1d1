import Mathlib.Logic.Relation
import TemplatedRequests.Proofs.Json.Reading
import TemplatedRequests.Proofs.Numeral.Written

/-!
Where the reading of a document is refused. It goes from a value to the values in it, those before
having been read, and is refused where it comes to a number that cannot be held or to a value inside
too many others. Main statement: a text is refused with a fault exactly if reading comes to a place
that is refused with it.
-/

namespace TemplatedRequests.Json

/-- The text from a value on, and how many objects and arrays may be opened within each other
there. -/
structure Spot where
  room : Nat
  text : List Char

/-- Where an item of an array starts. The items before it have been read. -/
inductive ItemAt (numbers : Numbers) (room : Nat) : (items start : List Char) → Prop
  | first (cs) : ItemAt numbers room cs cs
  | later {cs v r s start} (hv : takeValue numbers room cs = .ok (v, r))
      (hr : skipBlanks r = ',' :: s) (h : ItemAt numbers room (skipBlanks s) start) :
      ItemAt numbers room cs start

/-- A field begins with its name and a colon, and its value starts after them. -/
inductive Named (name : List Char) : (field start : List Char) → Prop
  | intro {r s t} (hr : readString ('"' :: r) r = .ok (name, s)) (hs : skipBlanks s = ':' :: t) :
      Named name ('"' :: r) (skipBlanks t)

/-- Where the value of a field of an object starts. The fields before it have been read. -/
inductive FieldAt (numbers : Numbers) (room : Nat) : (fields start : List Char) → Prop
  | first {name cs start} (h : Named name cs start) : FieldAt numbers room cs start
  | later {name cs at' v r s start} (h : Named name cs at')
      (hv : takeValue numbers room at' = .ok (v, r)) (hr : skipBlanks r = ',' :: s)
      (hs : FieldAt numbers room (skipBlanks s) start) : FieldAt numbers room cs start

/-- From an object or an array to a value in it. -/
inductive Inner (numbers : Numbers) : Spot → Spot → Prop
  | item {room r start} (h : ItemAt numbers room (skipBlanks r) start) :
      Inner numbers ⟨room + 1, '[' :: r⟩ ⟨room, start⟩
  | field {room r start} (h : FieldAt numbers room (skipBlanks r) start) :
      Inner numbers ⟨room + 1, '\x7b' :: r⟩ ⟨room, start⟩

inductive Opens : Container → List Char → Prop
  | object (r) : Opens .object ('\x7b' :: r)
  | array (r) : Opens .array ('[' :: r)

inductive IsConstant : String → List Char → Prop
  | nan (r) : IsConstant "NaN" ('N' :: 'a' :: 'N' :: r)
  | infinity (r) :
      IsConstant "Infinity" ('I' :: 'n' :: 'f' :: 'i' :: 'n' :: 'i' :: 't' :: 'y' :: r)
  | minusInfinity (r) :
      IsConstant "-Infinity" ('-' :: 'I' :: 'n' :: 'f' :: 'i' :: 'n' :: 'i' :: 't' :: 'y' :: r)

def Literal.IsOverlong (l : Literal) : Prop :=
  l.isInteger = true ∧ Numeral.digitLimit < l.whole.length

/-- A number that is no integer and lies past all that are finite. -/
def Literal.IsOutOfRange (l : Literal) : Prop :=
  l.isInteger = false ∧ l.toBinary64.isFinite = false

/-- A value that is refused where it starts. -/
inductive Refuses (numbers : Numbers) : Spot → Fault → Prop
  | overlong {room cs l r} (h : readLiteral? cs = some (l, r)) (hl : l.IsOverlong) :
      Refuses numbers ⟨room, cs⟩ (.numeral ⟨l.whole.length⟩)
  | outOfRange {room cs l r} (hn : numbers = .finite) (h : readLiteral? cs = some (l, r))
      (hl : l.IsOutOfRange) : Refuses numbers ⟨room, cs⟩ (.numberOutOfRange l.text)
  | constant {room cs name} (hn : numbers = .finite) (h : IsConstant name cs) :
      Refuses numbers ⟨room, cs⟩ (.nonFiniteConstant name)
  | nesting {cs c} (h : Opens c cs) : Refuses numbers ⟨0, cs⟩ (.nestedTooDeep c)

def Spot.IsOverlong (s : Spot) : Prop := ∃ l r, readLiteral? s.text = some (l, r) ∧ l.IsOverlong

def Spot.IsTooDeep (s : Spot) : Prop := s.room = 0 ∧ ∃ c, Opens c s.text

def Spot.IsNonFinite (s : Spot) : Prop :=
  (∃ l r, readLiteral? s.text = some (l, r) ∧ l.IsOutOfRange) ∨ ∃ name, IsConstant name s.text

def Reaches (numbers : Numbers) (cs : List Char) : Spot → Prop :=
  Relation.ReflTransGen (Inner numbers) ⟨nestingLimit, skipBlanks cs⟩

def Meets (numbers : Numbers) (s : Spot) (fault : Fault) : Prop :=
  ∃ inner, Relation.ReflTransGen (Inner numbers) s inner ∧ Refuses numbers inner fault

section Meets

variable {numbers : Numbers} {room : Nat} {cs : List Char} {fault : Fault} {s : Spot}

theorem meets_iff : Meets numbers s fault ↔
    Refuses numbers s fault ∨ ∃ t, Inner numbers s t ∧ Meets numbers t fault := by
  constructor
  · rintro ⟨inner, hinner, hrefuses⟩
    rcases hinner.cases_head with rfl | ⟨t, hstep, hrest⟩
    · exact .inl hrefuses
    · exact .inr ⟨t, hstep, inner, hrest, hrefuses⟩
  · rintro (h | ⟨t, hstep, inner, hrest, hrefuses⟩)
    · exact ⟨s, .refl, h⟩
    · exact ⟨inner, .head hstep hrest, hrefuses⟩

theorem map_eq_refused_iff {α β : Type} {f : α → β} {x : Except Stop α} :
    x.map f = .error (.refused fault) ↔ x = .error (.refused fault) := by
  cases x <;> simp [Except.map]

theorem takeItems_refused_cons_iff : takeItems numbers room cs = .error (.refused fault) ↔
    takeValue numbers room cs = .error (.refused fault) ∨
      ∃ v r s, takeValue numbers room cs = .ok (v, r) ∧ skipBlanks r = ',' :: s ∧
        takeItems numbers room (skipBlanks s) = .error (.refused fault) := by
  rw [takeItems, readItems, readValue_eq_takeValue (Nat.le_refl _)]
  cases hv : takeValue numbers room cs with
  | error stop => simp
  | ok p =>
    obtain ⟨v, r⟩ := p
    have := shortens_takeValue room cs v r hv
    dsimp only
    split
    · rename_i s hclosed
      simp [hclosed]
    · rename_i s hcomma
      have := length_skipBlanks_past hcomma
      rw [map_eq_refused_iff, readItems_eq_takeItems (by omega)]
      simp [hcomma, and_assoc]
    · rename_i hcomma
      have hcomma : ∀ s, skipBlanks r ≠ ',' :: s := hcomma
      simp [hcomma, and_assoc]

theorem takeItems_refused_iff : takeItems numbers room cs = .error (.refused fault) ↔
    ∃ start, ItemAt numbers room cs start ∧
      takeValue numbers room start = .error (.refused fault) := by
  constructor
  · intro h
    induction hn : cs.length using Nat.strong_induction_on generalizing cs with
    | h n ih =>
      obtain hv | ⟨v, r, s, hv, hr, hs⟩ := takeItems_refused_cons_iff.1 h
      · exact ⟨cs, .first cs, hv⟩
      · have := shortens_takeValue room cs v r hv
        have := length_skipBlanks_past hr
        obtain ⟨start, hstart, hrefused⟩ := ih _ (by omega) hs rfl
        exact ⟨start, .later hv hr hstart, hrefused⟩
  · rintro ⟨start, hstart, hrefused⟩
    induction hstart with
    | first cs => exact takeItems_refused_cons_iff.2 (.inl hrefused)
    | later hv hr _ ih => exact takeItems_refused_cons_iff.2 (.inr ⟨_, _, _, hv, hr, ih hrefused⟩)

theorem readCode_ne_refused (cs : List Char) : readCode cs ≠ .error (.refused fault) := by
  unfold readCode
  repeat' split
  all_goals simp

theorem readString_ne_refused (start cs : List Char) :
    readString start cs ≠ .error (.refused fault) := by
  fun_induction readString start cs with
  | case1 | case2 | case3 | case6 | case8 => simp
  | case4 r stop hcode =>
    rintro ⟨⟩
    exact readCode_ne_refused r hcode
  | case5 r c r' _ ih => exact fun h => ih (map_eq_refused_iff.1 h)
  | case7 e r _ c _ ih => exact fun h => ih (map_eq_refused_iff.1 h)
  | case9 c r _ _ _ _ _ ih => exact fun h => ih (map_eq_refused_iff.1 h)

variable {name start : List Char} {seen : List (String × Value)}

theorem Named.length_lt (h : Named name cs start) : start.length < cs.length := by
  obtain ⟨hr, hs⟩ := h
  rename_i r s t
  have := shortens_readString _ r name s hr
  have := length_skipBlanks_past hs
  simp only [List.length_cons]
  omega

theorem takeFields_refused_of_named (h : Named name cs start) :
    takeFields numbers room seen cs = .error (.refused fault) ↔
      takeValue numbers room start = .error (.refused fault) ∨
        ∃ v r s, takeValue numbers room start = .ok (v, r) ∧ skipBlanks r = ',' :: s ∧
          takeFields numbers room (OrderedMap.put (String.ofList name) v seen) (skipBlanks s) =
            .error (.refused fault) := by
  have hstart := h.length_lt
  obtain ⟨hr, hs⟩ := h
  rw [takeFields, readFields]
  simp only [hr, hs]
  rw [readValue_eq_takeValue (by omega)]
  cases hv : takeValue numbers room _ with
  | error stop => simp
  | ok p =>
    obtain ⟨v, r⟩ := p
    have := shortens_takeValue room _ v r hv
    dsimp only
    split
    · rename_i s hclosed
      simp [hclosed]
    · rename_i s hcomma
      have := length_skipBlanks_past hcomma
      rw [readFields_eq_takeFields (by omega)]
      simp [hcomma, and_assoc]
    · rename_i hcomma
      have hcomma : ∀ s, skipBlanks r ≠ ',' :: s := hcomma
      simp [hcomma, and_assoc]

theorem exists_named_of_refused (h : takeFields numbers room seen cs = .error (.refused fault)) :
    ∃ name start, Named name cs start := by
  rw [takeFields, readFields.eq_def] at h
  dsimp only at h
  split at h
  · rename_i r
    split at h
    · cases h
      exact absurd ‹_› (readString_ne_refused _ r)
    · rename_i hr
      split at h
      · rename_i hs
        exact ⟨_, _, .intro hr hs⟩
      · cases h
  · cases h

theorem takeFields_refused_iff : takeFields numbers room seen cs = .error (.refused fault) ↔
    ∃ start, FieldAt numbers room cs start ∧
      takeValue numbers room start = .error (.refused fault) := by
  constructor
  · intro h
    induction hn : cs.length using Nat.strong_induction_on generalizing cs seen with
    | h n ih =>
      obtain ⟨name, start, hname⟩ := exists_named_of_refused h
      obtain hv | ⟨v, r, s, hv, hr, hs⟩ := (takeFields_refused_of_named hname).1 h
      · exact ⟨start, .first hname, hv⟩
      · have := hname.length_lt
        have := shortens_takeValue room start v r hv
        have := length_skipBlanks_past hr
        obtain ⟨inner, hinner, hrefused⟩ := ih _ (by omega) hs rfl
        exact ⟨inner, .later hname hv hr hinner, hrefused⟩
  · rintro ⟨start, hstart, hrefused⟩
    induction hstart generalizing seen with
    | first hname => exact (takeFields_refused_of_named hname).2 (.inl hrefused)
    | later hname hv hr _ ih =>
      exact (takeFields_refused_of_named hname).2 (.inr ⟨_, _, _, hv, hr, ih hrefused⟩)

theorem value_eq_error_iff {l : Literal} : l.value numbers = .error fault ↔
    l.IsOverlong ∧ fault = .numeral ⟨l.whole.length⟩ ∨
      numbers = .finite ∧ l.IsOutOfRange ∧ fault = .numberOutOfRange l.text := by
  unfold Literal.value Literal.IsOverlong Literal.IsOutOfRange
  cases hi : l.isInteger with
  | true =>
    have hlong := @Numeral.limited_eq_error_iff (digitsOf l.whole)
    rw [digitsOf, List.length_map, ← digitsOf] at hlong
    rw [if_pos rfl]
    split
    · rename_i long h
      obtain ⟨hl, rfl⟩ := hlong.1 h
      rw [Except.error.injEq]
      constructor
      · exact fun h => .inl ⟨⟨rfl, hl⟩, h.symm⟩
      · rintro (⟨-, rfl⟩ | ⟨-, ⟨⟨⟩, -⟩, -⟩)
        rfl
    · rename_i n h
      constructor
      · rintro ⟨⟩
      · rintro (⟨⟨-, hl⟩, -⟩ | ⟨-, ⟨⟨⟩, -⟩, -⟩)
        rw [hlong.2 ⟨hl, rfl⟩] at h
        cases h
  | false => cases numbers <;> cases hx : l.toBinary64.isFinite <;> simp [hx, eq_comm]

theorem readNumber_refused_iff : readNumber numbers cs = .error (.refused fault) ↔
    ∃ l r, readLiteral? cs = some (l, r) ∧ l.value numbers = .error fault := by
  unfold readNumber
  split
  · rename_i h
    simp [h]
  · rename_i l r h
    cases hl : l.value numbers <;> simp [h, hl]

theorem refuses_scalar_iff (hopens : ∀ c, ¬Opens c cs) : Refuses numbers ⟨room, cs⟩ fault ↔
    readNumber numbers cs = .error (.refused fault) ∨
      numbers = .finite ∧ ∃ name, IsConstant name cs ∧ fault = .nonFiniteConstant name := by
  simp only [readNumber_refused_iff, value_eq_error_iff]
  constructor
  · rintro (⟨h, hl⟩ | ⟨hn, h, hl⟩ | ⟨hn, h⟩ | h)
    · exact .inl ⟨_, _, h, .inl ⟨hl, rfl⟩⟩
    · exact .inl ⟨_, _, h, .inr ⟨hn, hl, rfl⟩⟩
    · exact .inr ⟨hn, _, h, rfl⟩
    · exact absurd h (hopens _)
  · rintro (⟨l, r, h, ⟨hl, rfl⟩ | ⟨hn, hl, rfl⟩⟩ | ⟨hn, name, h, rfl⟩)
    · exact .overlong h hl
    · exact .outOfRange hn h hl
    · exact .constant hn h

theorem readLiteral?_of_head {c : Char} {r : List Char} (hminus : c ≠ '-')
    (hdigit : isDigit c = false) : readLiteral? (c :: r) = none := by
  have hzero : c ≠ '0' := by
    rintro rfl
    cases hdigit
  simp [readLiteral?, wholePart, hminus, hzero, hdigit]

theorem refuses_of_head_iff {c : Char} {r : List Char} (h : c ∉ ['-', 'N', 'I'])
    (hdigit : isDigit c = false) : Refuses numbers ⟨room, c :: r⟩ fault ↔
      room = 0 ∧ ∃ k, Opens k (c :: r) ∧ fault = .nestedTooDeep k := by
  have hliteral : readLiteral? (c :: r) = none :=
    readLiteral?_of_head (fun hc => h (hc ▸ List.mem_cons_self)) hdigit
  constructor
  · rintro (⟨hl, -⟩ | ⟨-, hl, -⟩ | ⟨-, hc⟩ | hc)
    · cases hliteral.symm.trans hl
    · cases hliteral.symm.trans hl
    · cases hc <;> simp at h
    · exact ⟨rfl, _, hc, rfl⟩
  · rintro ⟨rfl, k, hk, rfl⟩
    exact .nesting hk

theorem not_refuses_of_head {c : Char} {r : List Char} (hopens : ∀ k, ¬Opens k (c :: r))
    (h : c ∉ ['-', 'N', 'I']) (hdigit : isDigit c = false) :
    ¬Refuses numbers ⟨room, c :: r⟩ fault := fun hr =>
  let ⟨_, k, hk, _⟩ := (refuses_of_head_iff h hdigit).1 hr
  hopens k hk

theorem constant_refused_iff {name : String} {x : Binary64} {r : List Char}
    (hopens : ∀ c, ¬Opens c cs) (hnumber : readLiteral? cs = none)
    (hname : ∀ other, IsConstant other cs ↔ other = name) :
    constant numbers name x r = .error (.refused fault) ↔ Refuses numbers ⟨room, cs⟩ fault := by
  rw [refuses_scalar_iff hopens, readNumber_refused_iff, hnumber]
  cases numbers <;> simp [constant, hname, eq_comm]

theorem takeValue_scalar_refused_iff (hopens : ∀ c, ¬Opens c cs) :
    takeValue numbers room cs = .error (.refused fault) ↔ Refuses numbers ⟨room, cs⟩ fault := by
  rw [takeValue, readValue.eq_def]
  dsimp only
  split
  case h_1 r =>
    rw [map_eq_refused_iff]
    exact iff_of_false (readString_ne_refused _ _)
      (not_refuses_of_head hopens (by decide) (by decide))
  case h_2 r => exact absurd (.object r) (hopens _)
  case h_3 r => exact absurd (.array r) (hopens _)
  case h_4 | h_5 | h_6 =>
    exact iff_of_false nofun (not_refuses_of_head hopens (by decide) (by decide))
  case h_7 r =>
    refine constant_refused_iff hopens rfl fun name => ⟨fun h => ?_, fun h => h ▸ .nan r⟩
    cases h
    rfl
  case h_8 r =>
    refine constant_refused_iff hopens rfl fun name => ⟨fun h => ?_, fun h => h ▸ .infinity r⟩
    cases h
    rfl
  case h_9 r =>
    refine constant_refused_iff hopens rfl fun name =>
      ⟨fun h => ?_, fun h => h ▸ .minusInfinity r⟩
    cases h
    rfl
  case h_10 hnan hinfinity hminus =>
    have hconstant : ∀ name, ¬IsConstant name cs := by
      rintro name (r | r | r)
      · exact hnan r rfl
      · exact hinfinity r rfl
      · exact hminus r rfl
    simp [refuses_scalar_iff hopens, hconstant]

theorem takeValue_array_refused_iff (r : List Char) :
    takeValue numbers (room + 1) ('[' :: r) = .error (.refused fault) ↔
      takeItems numbers room (skipBlanks r) = .error (.refused fault) := by
  rw [takeValue, List.length_cons, readValue, if_neg (Nat.succ_ne_zero room)]
  split
  · rename_i s hclosed
    have hitems : takeItems numbers room (']' :: s) = .error (.malformed .value (']' :: s)) := rfl
    simp [hclosed, hitems]
  · have := length_skipBlanks r
    rw [map_eq_refused_iff, readItems_eq_takeItems (by omega), Nat.add_sub_cancel]

theorem takeValue_object_refused_iff (r : List Char) :
    takeValue numbers (room + 1) ('{' :: r) = .error (.refused fault) ↔
      takeFields numbers room [] (skipBlanks r) = .error (.refused fault) := by
  rw [takeValue, List.length_cons, readValue, if_neg (Nat.succ_ne_zero room)]
  split
  · rename_i s hclosed
    have hfields : takeFields numbers room [] ('}' :: s) =
        .error (.malformed .propertyName ('}' :: s)) := rfl
    simp [hclosed, hfields]
  · have := length_skipBlanks r
    rw [map_eq_refused_iff, readFields_eq_takeFields (by omega), Nat.add_sub_cancel]

theorem refuses_of_opens_iff {c : Container} (hc : Opens c cs) :
    Refuses numbers ⟨room, cs⟩ fault ↔ room = 0 ∧ fault = .nestedTooDeep c := by
  cases hc with
  | object r =>
    refine (refuses_of_head_iff (by decide) (by decide)).trans (and_congr_right fun _ => ?_)
    refine ⟨?_, fun h => ⟨_, .object r, h⟩⟩
    rintro ⟨_, ⟨⟩, h⟩
    exact h
  | array r =>
    refine (refuses_of_head_iff (by decide) (by decide)).trans (and_congr_right fun _ => ?_)
    refine ⟨?_, fun h => ⟨_, .array r, h⟩⟩
    rintro ⟨_, ⟨⟩, h⟩
    exact h

theorem exists_inner_array_iff {r : List Char} {p : Spot → Prop} :
    (∃ t, Inner numbers ⟨room + 1, '[' :: r⟩ t ∧ p t) ↔
      ∃ start, ItemAt numbers room (skipBlanks r) start ∧ p ⟨room, start⟩ := by
  constructor
  · rintro ⟨_, ⟨h⟩, hp⟩
    exact ⟨_, h, hp⟩
  · rintro ⟨start, h, hp⟩
    exact ⟨_, .item h, hp⟩

theorem exists_inner_object_iff {r : List Char} {p : Spot → Prop} :
    (∃ t, Inner numbers ⟨room + 1, '{' :: r⟩ t ∧ p t) ↔
      ∃ start, FieldAt numbers room (skipBlanks r) start ∧ p ⟨room, start⟩ := by
  constructor
  · rintro ⟨_, _ | ⟨h⟩, hp⟩
    exact ⟨_, h, hp⟩
  · rintro ⟨start, h, hp⟩
    exact ⟨_, .field h, hp⟩

/-- Reading a value is refused where it starts, or at a value in it. -/
theorem takeValue_refused_step_iff (s : Spot) :
    takeValue numbers s.room s.text = .error (.refused fault) ↔ Refuses numbers s fault ∨
      ∃ t, Inner numbers s t ∧ takeValue numbers t.room t.text = .error (.refused fault) := by
  obtain ⟨room, cs⟩ := s
  by_cases hopens : ∃ c, Opens c cs
  · obtain ⟨c, hc⟩ := hopens
    rw [refuses_of_opens_iff hc]
    cases room with
    | zero =>
      have hinner : ∀ t, ¬Inner numbers ⟨0, cs⟩ t := fun t h => by cases h
      have hrefused : takeValue numbers 0 cs = .error (.refused (.nestedTooDeep c)) := by
        cases hc <;> rfl
      simp [hinner, hrefused, eq_comm]
    | succ room =>
      cases hc with
      | array r =>
        rw [takeValue_array_refused_iff, takeItems_refused_iff, exists_inner_array_iff]
        simp
      | object r =>
        rw [takeValue_object_refused_iff, takeFields_refused_iff, exists_inner_object_iff]
        simp
  · have hopens : ∀ c, ¬Opens c cs := not_exists.1 hopens
    have hinner : ∀ t, ¬Inner numbers ⟨room, cs⟩ t := by
      rintro t (_ | _)
      · exact hopens _ (.array _)
      · exact hopens _ (.object _)
    simp [takeValue_scalar_refused_iff hopens, hinner]

theorem ItemAt.length_le (h : ItemAt numbers room cs start) : start.length ≤ cs.length := by
  induction h with
  | first => exact Nat.le_refl _
  | @later cs v r s start hv hr _ ih =>
    have := shortens_takeValue room cs v r hv
    have := length_skipBlanks_past hr
    omega

theorem FieldAt.length_le (h : FieldAt numbers room cs start) : start.length ≤ cs.length := by
  induction h with
  | first hname => exact Nat.le_of_lt hname.length_lt
  | @later name cs at' v r s start hname hv hr _ ih =>
    have := hname.length_lt
    have := shortens_takeValue room at' v r hv
    have := length_skipBlanks_past hr
    omega

theorem Inner.length_lt {t : Spot} (h : Inner numbers s t) : t.text.length < s.text.length := by
  cases h with
  | @item room r start h => exact Nat.lt_succ_of_le (Nat.le_trans h.length_le (length_skipBlanks r))
  | @field room r start h => exact Nat.lt_succ_of_le (Nat.le_trans h.length_le (length_skipBlanks r))

theorem takeValue_refused_iff (s : Spot) :
    takeValue numbers s.room s.text = .error (.refused fault) ↔ Meets numbers s fault := by
  induction hn : s.text.length using Nat.strong_induction_on generalizing s with
  | h n ih =>
    rw [takeValue_refused_step_iff, meets_iff]
    refine or_congr_right (exists_congr fun t => and_congr_right fun ht => ?_)
    exact ih _ (hn ▸ ht.length_lt) t rfl

theorem readDocument_refused_iff : readDocument numbers cs = .error (.refused fault) ↔
    Meets numbers ⟨nestingLimit, skipBlanks cs⟩ fault := by
  rw [← takeValue_refused_iff]
  unfold readDocument
  split
  · rename_i r
    have hmark : takeValue numbers nestingLimit ('\ufeff' :: r) =
      .error (.malformed .value ('\ufeff' :: r)) := rfl
    simp [skipBlanks, isBlank, hmark]
  · have := length_skipBlanks cs
    rw [readValue_eq_takeValue (by omega)]
    dsimp only
    split
    · simp [*]
    · split <;> simp [*]

/-- Reading a text is refused with a fault exactly if it comes to a value that is refused with it. -/
theorem read_refused_iff : read numbers cs = .error (.refused fault) ↔
    ∃ spot, Reaches numbers cs spot ∧ Refuses numbers spot fault := by
  change _ ↔ Meets numbers ⟨nestingLimit, skipBlanks cs⟩ fault
  rw [← readDocument_refused_iff, read]
  split <;> simp [*]

end Meets

end TemplatedRequests.Json
