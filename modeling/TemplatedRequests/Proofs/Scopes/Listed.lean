import Mathlib.Data.Finset.Insert
import Mathlib.Data.List.Induction
import Mathlib.Data.List.Nodup
import TemplatedRequests.Scopes

/-!
The ways to look at scopes: whether a name is defined, where, with which value, and the list of all names.
They agree, since all of them go by the first layer that defines a name. The list is made by going
through the layers and leaving out names that were met before, so that it tells the names of each layer
that resolve from this layer, in the order in which the layer has them.
-/

namespace TemplatedRequests

def Source.Precedes (k l : Source) : Prop := Source.all.idxOf k < Source.all.idxOf l

instance (k l : Source) : Decidable (k.Precedes l) := inferInstanceAs (Decidable (_ < _))

namespace Scopes

/-- The layer defines the name, and none before it does. -/
structure IsFirst (s : Scopes) (name : String) (l : Source) : Prop where
  defines : (s.layer l).contains name = true
  earlier : ∀ k : Source, k.Precedes l → (s.layer k).contains name = false

/-- A listing under way: which names were met, and which were told, in order. -/
structure Listing where
  seen : Finset String := ∅
  told : List String := []

namespace Listing

def meet (g : Listing) (name : String) : Listing :=
  if name ∈ g.seen then g else ⟨insert name g.seen, g.told ++ [name]⟩

/-- The names that were met are those that were told. -/
def IsSound (g : Listing) : Prop := ∀ name, name ∈ g.seen ↔ name ∈ g.told

variable {g : Listing} {name : String} {names : List String}

theorem IsSound.meet (h : g.IsSound) (name : String) : (g.meet name).IsSound := by
  intro n
  unfold Listing.meet
  split
  · exact h n
  · simp [h n, or_comm]

theorem told_meet (h : g.IsSound) (name : String) :
    (g.meet name).told = g.told ++ unseen g.told [name] := by
  unfold meet
  split <;> rename_i hseen
  · have htold : name ∈ g.told := (h name).1 hseen
    simp [unseen, htold]
  · have htold : name ∉ g.told := mt (h name).2 hseen
    simp [unseen, htold]

theorem told_foldl_meet (h : g.IsSound) (hd : names.Nodup) :
    (names.foldl meet g).IsSound ∧ (names.foldl meet g).told = g.told ++ unseen g.told names := by
  induction names generalizing g with
  | nil => exact ⟨h, (List.append_nil g.told).symm⟩
  | cons n r ih =>
    obtain ⟨hn, hr⟩ := List.nodup_cons.1 hd
    obtain ⟨hsound, htold⟩ := ih (h.meet n) hr
    refine ⟨hsound, ?_⟩
    -- The names after `n` are not `n`, so that they are new exactly if they were before.
    have hrest : unseen (g.meet n).told r = unseen g.told r := by
      refine List.filter_congr fun m hm => ?_
      have hne : m ≠ n := fun heq => hn (heq ▸ hm)
      by_cases hseen : n ∈ g.told <;> simp [told_meet h, unseen, hne, hseen]
    rw [List.foldl_cons, htold, hrest, told_meet h, List.append_assoc]
    congr 1
    exact (List.filter_append [n] r).symm

end Listing

def listing (s : Scopes) : Listing :=
  Source.all.foldl (fun g l => (s.layer l).names.foldl Listing.meet g) {}

section Prefix

def namesOf (s : Scopes) (ls : List Source) : List String :=
  ls.foldl (fun seen l => seen ++ unseen seen (s.layer l).names) []

def firstOf? (s : Scopes) (ls : List Source) (name : String) : Option Source :=
  ls.find? fun l => (s.layer l).contains name

variable {s : Scopes} {ls : List Source} {name : String} {l : Source}

theorem namesOf_concat (s : Scopes) (ls : List Source) (l : Source) :
    s.namesOf (ls ++ [l]) = s.namesOf ls ++ unseen (s.namesOf ls) (s.layer l).names := by
  simp [namesOf]

theorem mem_unseen_iff {seen new : List String} : name ∈ unseen seen new ↔ name ∈ new ∧ name ∉ seen := by
  simp [unseen]

theorem mem_namesOf_iff : name ∈ s.namesOf ls ↔ ∃ l ∈ ls, (s.layer l).contains name = true := by
  induction ls using List.reverseRecOn with
  | nil => simp [namesOf]
  | append_singleton ls l ih =>
    rw [namesOf_concat, List.mem_append, mem_unseen_iff, ← OrderedMap.contains_iff_mem_names]
    by_cases hseen : name ∈ s.namesOf ls
    · obtain ⟨k, hk, hname⟩ := ih.1 hseen
      exact iff_of_true (.inl hseen) ⟨k, List.mem_append_left _ hk, hname⟩
    · have hnone : ¬∃ k ∈ ls, (s.layer k).contains name = true := mt ih.2 hseen
      simp [hseen, or_and_right, exists_or, hnone]

theorem nodup_namesOf (s : Scopes) (ls : List Source) : (s.namesOf ls).Nodup := by
  induction ls using List.reverseRecOn with
  | nil => exact List.nodup_nil
  | append_singleton ls l ih =>
    rw [namesOf_concat, List.nodup_append]
    refine ⟨ih, (s.layer l).distinct.filter _, ?_⟩
    rintro name hseen _ hnew rfl
    exact (mem_unseen_iff.1 hnew).2 hseen

theorem firstOf?_eq_none_iff : s.firstOf? ls name = none ↔ name ∉ s.namesOf ls := by
  rw [mem_namesOf_iff, firstOf?, List.find?_eq_none]
  simp

theorem firstOf?_concat (s : Scopes) (ls : List Source) (l : Source) (name : String) :
    s.firstOf? (ls ++ [l]) name = (s.firstOf? ls name).or (s.firstOf? [l] name) :=
  List.find?_append

theorem firstOf?_concat_of_mem (h : name ∈ s.namesOf ls) :
    s.firstOf? (ls ++ [l]) name = s.firstOf? ls name := by
  rw [firstOf?_concat]
  cases hfirst : s.firstOf? ls name with
  | none => exact absurd h (firstOf?_eq_none_iff.1 hfirst)
  | some k => rfl

theorem not_mem_namesOf_iff (hl : l ∉ ls) (h : (s.layer l).contains name = true) :
    name ∉ s.namesOf ls ↔ s.firstOf? (ls ++ [l]) name = some l := by
  constructor
  · intro hnew
    have hself : s.firstOf? [l] name = some l := List.find?_cons_of_pos h
    rw [firstOf?_concat, firstOf?_eq_none_iff.2 hnew, Option.none_or, hself]
  · intro hfirst hseen
    rw [firstOf?_concat_of_mem hseen] at hfirst
    exact hl (List.mem_of_find?_eq_some hfirst)

theorem namesOf_eq_flatMap (s : Scopes) (hd : ls.Nodup) : s.namesOf ls =
    ls.flatMap fun l => (s.layer l).names.filter fun name => s.firstOf? ls name = some l := by
  induction ls using List.reverseRecOn with
  | nil => rfl
  | append_singleton ls l ih =>
    obtain ⟨hls, -, hapart⟩ := List.nodup_append.1 hd
    have hl : l ∉ ls := fun hm => hapart l hm l (List.mem_singleton_self l) rfl
    have hbefore : ∀ k ∈ ls, ((s.layer k).names.filter fun name => s.firstOf? ls name = some k) =
        (s.layer k).names.filter fun name => s.firstOf? (ls ++ [l]) name = some k := by
      intro k hk
      refine List.filter_congr fun name hname => ?_
      rw [firstOf?_concat_of_mem (mem_namesOf_iff.2 ⟨k, hk, OrderedMap.contains_iff_mem_names.2 hname⟩)]
    have hlast : unseen (s.namesOf ls) (s.layer l).names =
        (s.layer l).names.filter fun name => s.firstOf? (ls ++ [l]) name = some l := by
      refine List.filter_congr fun name hname => Bool.eq_iff_iff.2 ?_
      rw [decide_eq_true_eq, ← not_mem_namesOf_iff hl (OrderedMap.contains_iff_mem_names.2 hname)]
      simp
    rw [namesOf_concat, hlast, List.flatMap_append, List.flatMap_singleton, ih hls,
      List.flatMap_congr hbefore]

theorem told_foldl (s : Scopes) (ls : List Source) {g : Listing} (h : g.IsSound) :
    (ls.foldl (fun g l => (s.layer l).names.foldl Listing.meet g) g).told =
      ls.foldl (fun seen l => seen ++ unseen seen (s.layer l).names) g.told := by
  induction ls generalizing g with
  | nil => rfl
  | cons l ls ih =>
    have hd : (s.layer l).names.Nodup := (s.layer l).distinct
    obtain ⟨hsound, htold⟩ := Listing.told_foldl_meet h hd
    rw [List.foldl_cons, List.foldl_cons, ih hsound, htold]

end Prefix

section Views

variable {s : Scopes} {name : String} {l : Source}

theorem told_listing (s : Scopes) : s.listing.told = s.names :=
  told_foldl s Source.all fun _ => by simp

theorem sourceOf?_eq_some_iff : s.sourceOf? name = some l ↔ s.IsFirst name l := by
  have hd : Source.all.Nodup := by decide
  rw [sourceOf?, List.find?_eq_some_iff_getElem]
  constructor
  · rintro ⟨hdefines, i, hi, rfl, hearlier⟩
    refine ⟨hdefines, fun k hk => ?_⟩
    rw [Source.Precedes, hd.idxOf_getElem i hi] at hk
    simpa using hearlier _ hk
  · rintro ⟨hdefines, hearlier⟩
    have hi : Source.all.idxOf l < Source.all.length := List.idxOf_lt_length_of_mem l.mem_all
    refine ⟨hdefines, _, hi, List.getElem_idxOf hi, fun j hj => ?_⟩
    rw [hearlier _ (by rwa [Source.Precedes, hd.idxOf_getElem]), Bool.not_false]

theorem lookup?_eq_bind (s : Scopes) (name : String) :
    s.lookup? name = (s.sourceOf? name).bind fun l => (s.layer l).get? name := by
  rw [lookup?, sourceOf?]
  induction Source.all with
  | nil => rfl
  | cons l ls ih =>
    rw [List.findSome?_cons, List.find?_cons, OrderedMap.contains]
    cases hget : (s.layer l).get? name with
    | none => exact ih
    | some value => simp [hget]

theorem mem_names_iff : name ∈ s.names ↔ s.sourceOf? name ≠ none :=
  iff_not_comm.1 firstOf?_eq_none_iff

theorem sourceOf?_eq_none_iff : s.sourceOf? name = none ↔ s.lookup? name = none := by
  rw [lookup?_eq_bind]
  cases hsource : s.sourceOf? name with
  | none => exact iff_of_true rfl rfl
  | some l =>
    have hdefines : ((s.layer l).get? name).isSome = true := (sourceOf?_eq_some_iff.1 hsource).defines
    refine iff_of_false (Option.some_ne_none l) fun hnone => ?_
    rw [Option.bind_some] at hnone
    rw [hnone] at hdefines
    cases hdefines

theorem contains_iff_sourceOf?_ne_none : s.contains name = true ↔ s.sourceOf? name ≠ none := by
  rw [contains, Option.isSome_iff_ne_none]

theorem mem_names_iff_contains : name ∈ s.names ↔ s.contains name = true :=
  mem_names_iff.trans contains_iff_sourceOf?_ne_none.symm

theorem lookup?_of_sourceOf? (h : s.sourceOf? name = some l) :
    ∃ value, s.lookup? name = some value ∧ (s.layer l).get? name = some value := by
  obtain ⟨value, hvalue⟩ := Option.isSome_iff_exists.1 (sourceOf?_eq_some_iff.1 h).defines
  exact ⟨value, by rw [lookup?_eq_bind, h, Option.bind_some, hvalue], hvalue⟩

/-- All views of scopes agree. The list tells every defined name once, with the layers one after another
and the names of each that resolve from it in their order there, and it is what a listing name by name
comes to. A name is in the list if it is defined, if it has a source and if it has a value. Its source is
the first layer that defines it, and its value is the one in this layer. -/
theorem views_agree (s : Scopes) :
    s.names.Nodup ∧ s.listing.told = s.names ∧
    (s.names = Source.all.flatMap fun l =>
      (s.layer l).names.filter fun name => s.sourceOf? name = some l) ∧
    ∀ name,
      (name ∈ s.names ↔ s.contains name = true) ∧
      (s.contains name = true ↔ s.sourceOf? name ≠ none) ∧
      (s.sourceOf? name ≠ none ↔ s.lookup? name ≠ none) ∧
      ∀ l, (s.sourceOf? name = some l ↔ s.IsFirst name l) ∧
        (s.sourceOf? name = some l →
          ∃ value, s.lookup? name = some value ∧ (s.layer l).get? name = some value) :=
  ⟨nodup_namesOf s Source.all, told_listing s, namesOf_eq_flatMap s (by decide), fun _ =>
    ⟨mem_names_iff_contains, contains_iff_sourceOf?_ne_none, not_congr sourceOf?_eq_none_iff,
      fun _ => ⟨sourceOf?_eq_some_iff, lookup?_of_sourceOf?⟩⟩⟩

/-- A name that two layers define is told with the first of them. -/
example : names {
    request := .ofEntries [("b", "1")]
    file := .ofEntries [("a", "1"), ("b", "2")]
    shared := .ofEntries [("c", "1")] } = ["b", "a", "c"] := by decide

end Views

end Scopes

end TemplatedRequests
