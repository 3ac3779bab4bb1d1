import TemplatedRequests.Proofs.Json.Scalar

/-!
Compact text as a faithful form of documents. If names come twice in an object, the later value is
read in the place of the earlier one; every other document that can be read is read as it was.
-/

namespace TemplatedRequests.Json

namespace Value

mutual

/-- The document with one field for each name of an object: the later value, in the earlier
place. -/
def merged : Value → Value
  | array items => array (mergedItems items)
  | object fields => object (OrderedMap.putAll [] (mergedFields fields))
  | v => v

def mergedItems : List Value → List Value
  | [] => []
  | v :: r => merged v :: mergedItems r

def mergedFields : List (String × Value) → List (String × Value)
  | [] => []
  | (name, v) :: r => (name, merged v) :: mergedFields r

end

/-- A document whose text can be read with `room`; names may come twice in an object. -/
inductive IsReadable (numbers : Numbers) : (room : Nat) → Value → Prop
  | null {room} : IsReadable numbers room null
  | bool {room} (b) : IsReadable numbers room (bool b)
  | int {room n} (short : IsShort n) : IsReadable numbers room (int n)
  | float {room x} (back : ReadsBack numbers x) : IsReadable numbers room (float x)
  | text {room} (s) : IsReadable numbers room (text s)
  | array {room items} (h : ∀ v ∈ items, IsReadable numbers room v) :
      IsReadable numbers (room + 1) (array items)
  | object {room fields} (h : ∀ e ∈ fields, IsReadable numbers room e.2) :
      IsReadable numbers (room + 1) (object fields)

variable {numbers : Numbers} {room : Nat} {v : Value}

theorem Fits.isReadable (h : v.Fits room)
    (back : ∀ x path, StandsAt (.float x) v path → ReadsBack numbers x) :
    v.IsReadable numbers room := by
  induction h with
  | null => exact .null
  | bool b => exact .bool b
  | int short => exact .int short
  | float x => exact .float (back x [] .here)
  | text s => exact .text s
  | array _ ih =>
    refine .array fun u hu => ih u hu fun x path hx => ?_
    obtain ⟨n, hn⟩ := List.getElem?_of_mem hu
    exact back x (.index n :: path) (.item hn hx)
  | object _ _ ih =>
    exact .object fun e he => ih e he fun x path hx => back x (.field e.1 :: path) (.field he hx)

end Value

section Merged

variable {items : List Value} {fields : List (String × Value)}

theorem mergedItems_eq_self (h : ∀ v ∈ items, v.merged = v) : Value.mergedItems items = items := by
  induction items with
  | nil => rfl
  | cons v r ih =>
    obtain ⟨hv, hr⟩ := List.forall_mem_cons.1 h
    rw [Value.mergedItems, hv, ih hr]

theorem mergedFields_eq_self (h : ∀ e ∈ fields, e.2.merged = e.2) :
    Value.mergedFields fields = fields := by
  induction fields with
  | nil => rfl
  | cons e r ih =>
    obtain ⟨he, hr⟩ := List.forall_mem_cons.1 h
    rw [Value.mergedFields, he, ih hr]

theorem Value.IsDistinct.merged_eq_self {v : Value} (h : v.IsDistinct) : v.merged = v := by
  induction h with
  | array _ ih => rw [Value.merged, mergedItems_eq_self ih]
  | object names _ ih =>
    rw [Value.merged, mergedFields_eq_self ih, OrderedMap.putAll_eq_append (by simpa using names),
      List.nil_append]
  | _ => rfl

end Merged

section Read

variable {numbers : Numbers} {room fuel : Nat} {v : Value} {rest : List Char}

/-- The text of a value, with what follows it, is read as this value. -/
def Recovers (numbers : Numbers) (room : Nat) (v : Value) : Prop :=
  ∀ fuel rest, IsEnd rest → 2 * (write v).length ≤ fuel →
    readValue numbers room fuel (write v ++ rest) = .ok (v.merged, rest)

theorem isEnd_writeItems (items : List Value) (rest : List Char) :
    IsEnd (writeItems items ++ ']' :: rest) := by
  cases items with
  | nil => exact .bracket rest
  | cons v r => exact .comma _

theorem isEnd_writeFields (fields : List (String × Value)) (rest : List Char) :
    IsEnd (writeFields fields ++ '}' :: rest) := by
  cases fields with
  | nil => exact .brace rest
  | cons e r => exact .comma _

/-- Each item takes one call, and its text holds two characters or a value of its own. -/
theorem readItems_write {items : List Value} (h : ∀ u ∈ v :: items, Recovers numbers room u)
    (hfuel : 2 * ((write v).length + (writeItems items).length) + 1 ≤ fuel) :
    readItems numbers room fuel (write v ++ (writeItems items ++ ']' :: rest)) =
      .ok (v.merged :: Value.mergedItems items, rest) := by
  induction items generalizing v fuel with
  | nil =>
    obtain ⟨hv, -⟩ := List.forall_mem_cons.1 h
    cases fuel with
    | zero => omega
    | succ fuel =>
      rw [readItems, hv fuel _ (isEnd_writeItems [] rest) (by omega)]
      rfl
  | cons u items ih =>
    obtain ⟨hv, hitems⟩ := List.forall_mem_cons.1 h
    obtain ⟨hu, -⟩ := List.forall_mem_cons.1 hitems
    cases fuel with
    | zero => omega
    | succ fuel =>
      simp only [writeItems, List.length_cons, List.length_append, List.cons_append,
        List.append_assoc] at hfuel ⊢
      have hnext := hu fuel _ (isEnd_writeItems items rest) (by omega)
      rw [readItems, hv fuel _ (.comma _) (by omega)]
      change (readItems numbers room fuel (skipBlanks (write u ++ (writeItems items ++ ']' :: rest)))).map
        _ = _
      rw [skipBlanks_of_readValue hnext, ih hitems (by omega)]
      rfl

theorem readString_quote (name : String) (start rest : List Char) :
    ∃ r, quote name ++ rest = '"' :: r ∧ readString start r = .ok (name.toList, rest) := by
  refine ⟨name.toList.flatMap escaped ++ '"' :: rest, ?_, readString_quoted _ _ _⟩
  simp [quote]

section Field

variable {name : String} {u : Value} {r : List Char} (seen : List (String × Value))

theorem readFields_last (h : readValue numbers room fuel r = .ok (u, '}' :: rest)) :
    readFields numbers room (fuel + 1) seen (quote name ++ ':' :: r) =
      .ok (OrderedMap.put name u seen, rest) := by
  obtain ⟨s, hs, hname⟩ := readString_quote name (quote name ++ ':' :: r) (':' :: r)
  have hcolon : skipBlanks (':' :: r) = ':' :: r := rfl
  have hbrace : skipBlanks ('}' :: rest) = '}' :: rest := rfl
  rw [hs] at hname ⊢
  simp only [readFields, hname, hcolon, skipBlanks_of_readValue h, h, hbrace, String.ofList_toList]

theorem readFields_next (h : readValue numbers room fuel r = .ok (u, ',' :: rest)) :
    readFields numbers room (fuel + 1) seen (quote name ++ ':' :: r) =
      readFields numbers room fuel (OrderedMap.put name u seen) (skipBlanks rest) := by
  obtain ⟨s, hs, hname⟩ := readString_quote name (quote name ++ ':' :: r) (':' :: r)
  have hcolon : skipBlanks (':' :: r) = ':' :: r := rfl
  have hcomma : skipBlanks (',' :: rest) = ',' :: rest := rfl
  rw [hs] at hname ⊢
  simp only [readFields, hname, hcolon, skipBlanks_of_readValue h, h, hcomma, String.ofList_toList]

end Field

theorem readFields_write {name : String} {fields : List (String × Value)}
    (h : ∀ e ∈ (name, v) :: fields, Recovers numbers room e.2)
    (hfuel : 2 * ((write v).length + (writeFields fields).length) + 1 ≤ fuel)
    (seen : List (String × Value)) :
    readFields numbers room fuel seen
      (quote name ++ ':' :: (write v ++ (writeFields fields ++ '}' :: rest))) =
      .ok (OrderedMap.putAll seen ((name, v.merged) :: Value.mergedFields fields), rest) := by
  induction fields generalizing name v fuel seen with
  | nil =>
    have hv : Recovers numbers room v := (List.forall_mem_cons.1 h).1
    cases fuel with
    | zero => omega
    | succ fuel =>
      exact readFields_last seen (hv fuel _ (isEnd_writeFields [] rest) (by omega))
  | cons e fields ih =>
    have hv : Recovers numbers room v := (List.forall_mem_cons.1 h).1
    have hfields := (List.forall_mem_cons.1 h).2
    cases fuel with
    | zero => omega
    | succ fuel =>
      simp only [writeFields, List.length_cons, List.length_append, List.cons_append,
        List.append_assoc] at hfuel ⊢
      rw [readFields_next seen (hv fuel _ (.comma _) (by omega))]
      change readFields numbers room fuel _ (skipBlanks (quote e.1 ++ _)) = _
      have hquote : ∀ r, skipBlanks (quote e.1 ++ r) = quote e.1 ++ r := fun _ => rfl
      rw [hquote, ih hfields (by omega)]
      rfl

theorem Recovers.intro (hne : write v ≠ [])
    (h : ∀ fuel rest, IsEnd rest → 2 * (write v).length ≤ fuel + 1 →
      readValue numbers room (fuel + 1) (write v ++ rest) = .ok (v.merged, rest)) :
    Recovers numbers room v := by
  intro fuel rest hrest hfuel
  have hlength := List.length_pos_iff.2 hne
  cases fuel with
  | zero => omega
  | succ fuel => exact h fuel rest hrest hfuel

theorem recovers_of_readNumber (h : readNumber numbers (write v) = .ok (v, []))
    (hv : v.merged = v) : Recovers numbers room v := by
  refine .intro (fun hnil => ?_) fun fuel rest hrest _ => ?_
  · rw [hnil] at h
    cases h
  · rw [hv]
    exact readValue_of_readNumber (readNumber_append hrest h) room fuel

theorem recovers_text (s : String) : Recovers numbers room (.text s) := by
  refine .intro (by simp [write, quote]) fun fuel rest _ _ => ?_
  obtain ⟨r, hr, hread⟩ := readString_quote s (quote s ++ rest) rest
  rw [hr] at hread
  rw [write, hr, readValue, hread]
  simp [Except.map, Value.merged]

theorem readValue_bracket {r : List Char} (h : readValue numbers room fuel r = .ok (v, rest)) :
    readValue numbers (room + 1) (fuel + 1) ('[' :: r) =
      (readItems numbers room fuel r).map fun p => (.array p.1, p.2) := by
  obtain ⟨c, hc, -, hbracket, -⟩ := head_of_readValue h
  rw [readValue, skipBlanks_of_readValue h, if_neg (Nat.succ_ne_zero room)]
  split
  · exact absurd (Option.some.inj hc).symm hbracket
  · rfl

theorem recovers_array {items : List Value} (h : ∀ u ∈ items, Recovers numbers room u) :
    Recovers numbers (room + 1) (.array items) := by
  cases items with
  | nil => exact .intro (by simp [write]) fun _ _ _ _ => rfl
  | cons u items =>
    refine .intro (by simp [write]) fun fuel rest _ hfuel => ?_
    simp only [write, List.length_cons, List.length_append, List.cons_append, List.append_assoc,
      List.length_nil, List.nil_append] at hfuel ⊢
    have hu := (List.forall_mem_cons.1 h).1 fuel _ (isEnd_writeItems items rest) (by omega)
    rw [readValue_bracket hu, readItems_write h (by omega)]
    rfl

theorem recovers_object {fields : List (String × Value)}
    (h : ∀ e ∈ fields, Recovers numbers room e.2) :
    Recovers numbers (room + 1) (.object fields) := by
  cases fields with
  | nil => exact .intro (by simp [write]) fun _ _ _ _ => rfl
  | cons e fields =>
    refine .intro (by simp [write]) fun fuel rest _ hfuel => ?_
    simp only [write, List.length_cons, List.length_append, List.cons_append, List.append_assoc,
      List.length_nil, List.nil_append] at hfuel ⊢
    change (readFields numbers room fuel [] (quote e.1 ++ _)).map _ = _
    rw [readFields_write h (by omega)]
    rfl

theorem Value.IsReadable.recovers (h : v.IsReadable numbers room) : Recovers numbers room v := by
  induction h with
  | null => exact .intro (by simp [write]) fun _ _ _ _ => rfl
  | bool b =>
    cases b with
    | false => exact .intro (by simp [write]) fun _ _ _ _ => rfl
    | true => exact .intro (by simp [write]) fun _ _ _ _ => rfl
  | int short => exact recovers_of_readNumber (readNumber_toString short) rfl
  | float back => exact recovers_of_readNumber back rfl
  | text s => exact recovers_text s
  | array _ ih => exact recovers_array ih
  | object _ ih => exact recovers_object ih

theorem read_write (h : v.IsReadable numbers nestingLimit) : read numbers (write v) = .ok v.merged := by
  have hvalue := h.recovers (2 * (write v).length + 1) [] .nil (by omega)
  rw [List.append_nil] at hvalue
  obtain ⟨c, hc, -, -, hmark⟩ := head_of_readValue hvalue
  have hdocument : readDocument numbers (write v) = .ok v.merged := by
    unfold readDocument
    split
    · rename_i heq
      rw [heq] at hc
      exact absurd (Option.some.inj hc).symm hmark
    · rw [skipBlanks_of_readValue hvalue, hvalue]
      rfl
  rw [read, hdocument]

end Read

end TemplatedRequests.Json
