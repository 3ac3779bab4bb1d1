import Mathlib.Data.List.Induction
import TemplatedRequests.OrderedMap

/-!
Maps put together from entries and from other maps. A name keeps the place where it came up first and
has the value it was given last. A map is told by the order of its names and by its values.
-/

namespace TemplatedRequests.OrderedMap

variable {α : Type}

section Entries

variable {name : String} {a : α} {es onto : List (String × α)}

theorem put_of_not_mem (h : name ∉ es.map (·.1)) : put name a es = es ++ [(name, a)] := by
  induction es with
  | nil => rfl
  | cons e r ih =>
    obtain ⟨he, hr⟩ := not_or.1 (mt List.mem_cons.2 h)
    rw [put, if_neg (Ne.symm he), ih hr, List.cons_append]

theorem putAll_eq_append (h : ((onto ++ es).map (·.1)).Nodup) : putAll onto es = onto ++ es := by
  induction es generalizing onto with
  | nil => exact (List.append_nil onto).symm
  | cons e r ih =>
    have happend : onto ++ e :: r = onto ++ [e] ++ r := by simp
    have hfresh : e.1 ∉ onto.map (·.1) := by
      rw [List.map_append, List.nodup_append] at h
      exact fun hm => h.2.2 e.1 hm e.1 (by simp) rfl
    rw [happend] at h ⊢
    rw [← ih h, ← put_of_not_mem hfresh]
    rfl

theorem look_eq_some_iff (h : (es.map (·.1)).Nodup) :
    look name es = some a ↔ (name, a) ∈ es := by
  induction es with
  | nil => simp
  | cons e r ih =>
    rw [List.map_cons, List.nodup_cons] at h
    by_cases he : e.1 = name
    · have hr : (name, a) ∉ r := fun hm => h.1 (he ▸ List.mem_map_of_mem hm)
      simp [look, he, hr, Prod.ext_iff, eq_comm]
    · simp [look, he, ih h.2, Prod.ext_iff, Ne.symm he]

theorem names_putAll (h : (es.map (·.1)).Nodup) : (putAll onto es).map (·.1) =
    onto.map (·.1) ++ (es.map (·.1)).filter (· ∉ onto.map (·.1)) := by
  induction es generalizing onto with
  | nil => simp [putAll]
  | cons e r ih =>
    obtain ⟨he, hr⟩ := List.nodup_cons.1 h
    have hstep : putAll onto (e :: r) = putAll (put e.1 e.2 onto) r := rfl
    rw [hstep, ih hr, names_put, List.map_cons]
    by_cases hm : e.1 ∈ onto.map (·.1)
    · rw [if_pos hm, List.filter_cons_of_neg (by simpa using hm)]
    · have hsame : (r.map (·.1)).filter (· ∉ onto.map (·.1) ++ [e.1]) =
          (r.map (·.1)).filter (· ∉ onto.map (·.1)) := by
        refine List.filter_congr fun n hn => ?_
        have hne : n ≠ e.1 := by
          rintro rfl
          exact he hn
        simp [hne]
      rw [if_neg hm, List.filter_cons_of_pos (by simpa using hm), hsame, List.append_assoc,
        List.singleton_append]

end Entries

variable {m n : OrderedMap α} {name : String} {a : α} {es : List (String × α)}

theorem entries_eq_map_names (m : OrderedMap α) :
    m.entries.map some = m.names.map fun name => (m.get? name).map (name, ·) := by
  rw [names, List.map_map]
  refine List.map_congr_left fun e he => ?_
  have hvalue : m.get? e.1 = some e.2 := (look_eq_some_iff m.distinct).2 he
  rw [Function.comp_apply, hvalue]
  rfl

theorem eq_of_names (hn : m.names = n.names) (hv : ∀ name, m.get? name = n.get? name) : m = n := by
  refine ext ((List.map_inj_right fun _ _ => Option.some.inj).1 ?_)
  rw [entries_eq_map_names, entries_eq_map_names, hn]
  simp only [hv]

theorem names_insert (m : OrderedMap α) (name : String) (a : α) :
    (m.insert name a).names = if name ∈ m.names then m.names else m.names ++ [name] :=
  names_put name a m.entries

theorem names_update (m n : OrderedMap α) :
    (m.update n).names = m.names ++ n.names.filter (· ∉ m.names) :=
  names_putAll n.distinct

theorem update_insert (m n : OrderedMap α) (name : String) (a : α) :
    m.update (n.insert name a) = (m.update n).insert name a := by
  refine eq_of_names ?_ fun other => ?_
  · rw [names_update, names_insert, names_insert, names_update]
    by_cases hn : name ∈ n.names
    · have hm : name ∈ m.names ++ n.names.filter (· ∉ m.names) := by
        by_cases hm : name ∈ m.names <;> simp [hn, hm]
      rw [if_pos hn, if_pos hm]
    · by_cases hm : name ∈ m.names <;> simp [hn, hm]
  · simp only [get?_update, get?_insert]
    split <;> rfl

theorem update_assoc (l m n : OrderedMap α) : (l.update m).update n = l.update (m.update n) := by
  refine eq_of_names ?_ fun name => ?_
  · simp only [names_update, List.filter_append, List.filter_filter, List.append_assoc]
    congr 2
    refine List.filter_congr fun name _ => ?_
    by_cases hl : name ∈ l.names <;> by_cases hm : name ∈ m.names <;> simp [hl, hm]
  · simp only [get?_update, Option.or_assoc]

theorem contains_update (m n : OrderedMap α) (name : String) :
    (m.update n).contains name = (n.contains name || m.contains name) := by
  rw [contains, get?_update, Option.isSome_or, contains, contains]

theorem ofEntries_concat (es : List (String × α)) (e : String × α) :
    ofEntries (es ++ [e]) = (ofEntries es).insert e.1 e.2 :=
  ext List.foldl_append

theorem entries_ofEntries (h : (es.map (·.1)).Nodup) : (ofEntries es).entries = es := by
  have happend : putAll [] es = [] ++ es := putAll_eq_append h
  exact happend

theorem ofEntries_entries (m : OrderedMap α) : ofEntries m.entries = m :=
  ext (entries_ofEntries m.distinct)

theorem ofEntries_append (es fs : List (String × α)) :
    ofEntries (es ++ fs) = (ofEntries es).update (ofEntries fs) := by
  induction fs using List.reverseRecOn with
  | nil => exact congrArg ofEntries (List.append_nil es)
  | append_singleton fs f ih =>
    rw [← List.append_assoc, ofEntries_concat, ofEntries_concat, ih, update_insert]

theorem names_ofEntries (es : List (String × α)) :
    (ofEntries es).names = (es.map (·.1)).eraseDups := by
  induction es using List.reverseRecOn with
  | nil => rfl
  | append_singleton es e ih =>
    rw [ofEntries_concat, names_insert, ih, List.map_append, List.eraseDups_append]
    by_cases hm : e.1 ∈ es.map (·.1)
    · rw [if_pos (List.mem_eraseDups.2 hm)]
      simp [List.removeAll, hm]
    · rw [if_neg (mt List.mem_eraseDups.1 hm)]
      simp [List.removeAll, hm, List.eraseDups_cons]

theorem get?_ofEntries (es : List (String × α)) (name : String) :
    (ofEntries es).get? name = (es.reverse.find? (·.1 = name)).map (·.2) := by
  induction es using List.reverseRecOn with
  | nil => rfl
  | append_singleton es e ih =>
    rw [ofEntries_concat, get?_insert, ih, List.reverse_concat, List.find?_cons]
    by_cases h : name = e.1
    · simp [h]
    · simp [h, Ne.symm h]

theorem mem_of_mem_ofEntries {e : String × α} (h : e ∈ (ofEntries es).entries) : e ∈ es := by
  have hget : (ofEntries es).get? e.1 = some e.2 := (look_eq_some_iff (ofEntries es).distinct).2 h
  rw [get?_ofEntries] at hget
  obtain ⟨d, hd, hvalue⟩ := Option.map_eq_some_iff.1 hget
  have hname : d.1 = e.1 := by simpa using List.find?_some hd
  rw [← Prod.ext hname hvalue]
  exact List.mem_reverse.1 (List.mem_of_find?_eq_some hd)

end TemplatedRequests.OrderedMap
