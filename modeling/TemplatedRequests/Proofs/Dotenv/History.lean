import Mathlib.Data.List.Induction
import TemplatedRequests.Proofs.Dotenv.Ascent
import TemplatedRequests.Proofs.Dotenv.Copies
import TemplatedRequests.Proofs.Sessions.Interleaved

/-!
What caches of variables tell while files change. Main statement: whatever happens to files, to
copies and to other caches, a cache tells what the nearest file declared at the first read after the
last clear at which it could be read. A read that fails does so as one of the file, unless a lookup
of the search is refused.
-/

namespace TemplatedRequests.Dotenv

variable (sites : String → Site)

def run (trace : List Event) : State := trace.foldl (State.step sites) {}

namespace Event

def Reads (cache : String) : Event → Prop
  | values other => other = cache
  | get other _ => other = cache
  | _ => False

/-- A step that may matter to a cache. -/
def Concerns (cache : String) : Event → Prop
  | edit _ => True
  | values other => other = cache
  | get other _ => other = cache
  | clear other => other = cache
  | _ => False

end Event

def filesAfter (trace : List Event) : Tree := trace.foldl Event.filesAfter {}

/-- At the read the nearest file can be read, and it declares `b`. -/
def Loads (cache : String) (before : List Event) (read : Event) (b : Bindings) : Prop :=
  read.Reads cache ∧
    Declares (filesAfter before) (sites cache).start (sites cache).parents b

/-- What the nearest file declared at the first read after the last clear at which it could be
read. -/
def IsSnapshot (trace : List Event) (cache : String) (b : Bindings) : Prop :=
  ∃ before read after, trace = before ++ read :: after ∧ Loads sites cache before read b ∧
    .clear cache ∉ after ∧
    ∀ earlier other between, before = earlier ++ other :: between → .clear cache ∉ between →
      ∀ c, ¬Loads sites cache earlier other c

variable {sites} {s : State} {cache other name : String} {e : Event} {b : Bindings}

section Snapshot

variable {trace : List Event} {files : Tree} {c : Cache}

theorem loaded?_values : (c.values files).2.loaded? = some b ↔
    c.loaded? = some b ∨ c.loaded? = none ∧ load files c.start c.parents = .ok b := by
  unfold Cache.values
  cases hc : c.loaded? with
  | some known => simp [hc]
  | none => cases hload : load files c.start c.parents <;> simp [hc]

theorem values_eq_ok_iff : (c.values files).1 = .ok b ↔ (c.values files).2.loaded? = some b := by
  unfold Cache.values
  cases hc : c.loaded? with
  | some known => simp [hc]
  | none => cases hload : load files c.start c.parents <;> simp [hc]

theorem values_of_eq_error {fault : Fault} (h : (c.values files).1 = .error fault) :
    c.loaded? = none ∧ load files c.start c.parents = .error fault ∧ (c.values files).2 = c := by
  unfold Cache.values at *
  cases hc : c.loaded? with
  | some known => simp [hc] at h
  | none => cases hload : load files c.start c.parents <;> simp_all

theorem perform_of_reads (h : e.Reads cache) : e.perform cache files c = (c.values files).2 := by
  cases e with
  | values other => exact if_pos h
  | get other name => exact if_pos h
  | edit | isLoaded | clear | alter => exact absurd h id

theorem perform_of_not_concerns (h : ¬e.Concerns cache) (files : Tree) (c : Cache) :
    e.perform cache files c = c ∧ e.filesAfter files = files := by
  cases e with
  | edit files => exact absurd trivial h
  | values other => exact ⟨if_neg h, rfl⟩
  | get other name => exact ⟨if_neg h, rfl⟩
  | clear other => exact ⟨if_neg h, rfl⟩
  | isLoaded | alter => exact ⟨rfl, rfl⟩

theorem loaded?_perform : (e.perform cache files c).loaded? = some b ↔
    e ≠ .clear cache ∧ c.loaded? = some b ∨
      c.loaded? = none ∧ e.Reads cache ∧ load files c.start c.parents = .ok b := by
  cases e with
  | values other =>
    by_cases h : other = cache
    · simp [Event.perform, Event.Reads, h, loaded?_values]
    · simp [Event.perform, Event.Reads, h]
  | get other name =>
    by_cases h : other = cache
    · have hget : (c.get files name).2 = (c.values files).2 := rfl
      simp [Event.perform, Event.Reads, h, hget, loaded?_values]
    · simp [Event.perform, Event.Reads, h]
  | clear other =>
    by_cases h : other = cache
    · simp [Event.perform, Event.Reads, h, Cache.clear]
    · simp [Event.perform, Event.Reads, h]
  | edit | isLoaded | alter => simp [Event.perform, Event.Reads]

theorem not_reads_clear (cache other : String) : ¬(Event.clear other).Reads cache := id

/-- If the nearest file could be read at some read after the last clear, then at a first one. -/
theorem exists_isSnapshot {before after : List Event} {read : Event}
    (h : Loads sites cache before read b) (hclear : .clear cache ∉ after) :
    ∃ c, IsSnapshot sites (before ++ read :: after) cache c := by
  induction hn : before.length using Nat.strongRecOn generalizing before read after b with
  | ind n ih =>
    by_cases hfirst : ∃ earlier other between, before = earlier ++ other :: between ∧
        .clear cache ∉ between ∧ ∃ c, Loads sites cache earlier other c
    · obtain ⟨earlier, other, between, rfl, hbetween, c, hc⟩ := hfirst
      have hread : read ≠ .clear cache := fun hr => not_reads_clear cache cache (hr ▸ h.1)
      have hafter : .clear cache ∉ between ++ read :: after := by
        simp [hbetween, hread.symm, hclear]
      have hlength : earlier.length < n := by
        rw [← hn, List.length_append, List.length_cons]
        omega
      obtain ⟨d, hd⟩ := ih earlier.length hlength hc hafter rfl
      exact ⟨d, by simpa using hd⟩
    · refine ⟨b, before, read, after, rfl, h, hclear, ?_⟩
      intro earlier other between hbefore hbetween c hc
      exact hfirst ⟨earlier, other, between, hbefore, hbetween, c, hc⟩

theorem isSnapshot_concat : IsSnapshot sites (trace ++ [e]) cache b ↔
    e ≠ .clear cache ∧ IsSnapshot sites trace cache b ∨
      (∀ c, ¬IsSnapshot sites trace cache c) ∧ Loads sites cache trace e b := by
  constructor
  · rintro ⟨before, read, after, htrace, hload, hclear, hfirst⟩
    rcases Interleaved.append_singleton_eq_iff.1 htrace with ⟨rfl, rfl, -⟩ | ⟨between, rfl, rfl⟩
    · refine .inr ⟨?_, hload⟩
      rintro c ⟨earlier, other, between, rfl, hc, hbetween, -⟩
      exact hfirst earlier other between rfl hbetween c hc
    · refine .inl ⟨?_, before, read, between, rfl, hload, ?_, hfirst⟩
      · rintro rfl
        simp at hclear
      · exact fun h => hclear (List.mem_append_left _ h)
  · rintro (⟨he, before, read, after, rfl, hload, hclear, hfirst⟩ | ⟨hnone, hload⟩)
    · refine ⟨before, read, after ++ [e], by simp, hload, ?_, hfirst⟩
      simp [hclear, he.symm]
    · refine ⟨trace, e, [], rfl, hload, by simp, ?_⟩
      rintro earlier other between rfl hbetween c hc
      obtain ⟨d, hd⟩ := exists_isSnapshot hc hbetween
      exact hnone d hd

theorem IsSnapshot.append (h : IsSnapshot sites trace cache b) {more : List Event}
    (hmore : .clear cache ∉ more) : IsSnapshot sites (trace ++ more) cache b := by
  obtain ⟨before, read, after, rfl, hload, hclear, hfirst⟩ := h
  refine ⟨before, read, after ++ more, by simp, hload, fun hm => ?_, hfirst⟩
  exact (List.mem_append.1 hm).elim hclear hmore

end Snapshot

section Run

variable (sites)

theorem run_concat (trace : List Event) (e : Event) :
    run sites (trace ++ [e]) = (run sites trace).step sites e := by
  rw [run, List.foldl_append, List.foldl_cons, List.foldl_nil, run]

theorem filesAfter_concat (trace : List Event) (e : Event) :
    filesAfter (trace ++ [e]) = e.filesAfter (filesAfter trace) := by
  rw [filesAfter, List.foldl_append, List.foldl_cons, List.foldl_nil, filesAfter]

theorem isSound_run (trace : List Event) :
    (run sites trace).IsSound ∧ (run sites trace).files = filesAfter trace := by
  induction trace using List.reverseRecOn with
  | nil => exact ⟨⟨Memory.isSound_empty, nofun⟩, rfl⟩
  | append_singleton trace e ih =>
    obtain ⟨hs, hfiles⟩ := ih
    obtain ⟨hsound, hstep, -⟩ := State.step_spec sites hs e
    rw [run_concat]
    exact ⟨hsound, by rw [hstep, hfiles, filesAfter_concat]⟩

theorem cacheAt_run_concat (trace : List Event) (e : Event) (cache : String) :
    (run sites (trace ++ [e])).cacheAt sites cache =
      e.perform cache (filesAfter trace) ((run sites trace).cacheAt sites cache) := by
  obtain ⟨hs, hfiles⟩ := isSound_run sites trace
  obtain ⟨-, -, hstep⟩ := State.step_spec sites hs e
  rw [run_concat, hstep, hfiles]

theorem loaded?_run_iff (trace : List Event) (cache : String) (b : Bindings) :
    ((run sites trace).cacheAt sites cache).loaded? = some b ↔ IsSnapshot sites trace cache b := by
  induction trace using List.reverseRecOn generalizing b with
  | nil =>
    refine iff_of_false nofun ?_
    rintro ⟨before, read, after, h, -⟩
    simp at h
  | append_singleton trace e ih =>
    rw [cacheAt_run_concat, loaded?_perform, isSnapshot_concat, ih, Option.eq_none_iff_forall_ne_some]
    simp only [Ne, ih, Loads, load_eq_ok_iff]
    rfl

theorem told_run (trace : List Event) (cache : String) : (run sites trace).told sites cache =
    (((run sites trace).cacheAt sites cache).values (filesAfter trace)).1 := by
  obtain ⟨hs, hfiles⟩ := isSound_run sites trace
  rw [State.told_eq_values sites hs.memory, hfiles]

theorem told_eq_ok_iff (trace : List Event) (cache : String) (b : Bindings) :
    (run sites trace).told sites cache = .ok b ↔
      IsSnapshot sites (trace ++ [.values cache]) cache b := by
  have hreads : (Event.values cache).Reads cache := rfl
  rw [told_run, values_eq_ok_iff, ← loaded?_run_iff, cacheAt_run_concat, perform_of_reads hreads]

theorem get_run (trace : List Event) (cache name : String) :
    ((run sites trace).get sites cache name).2 =
      ((run sites trace).told sites cache).map (·.get? name) := by
  obtain ⟨hs, -⟩ := isSound_run sites trace
  rw [State.get_eq_get sites hs.memory, State.told_eq_values sites hs.memory]
  rfl

theorem isLoaded_run_iff (trace : List Event) (cache : String) :
    (run sites trace).isLoaded cache = true ↔ ∃ b, IsSnapshot sites trace cache b := by
  rw [State.isLoaded_eq_isLoaded sites, Cache.isLoaded, Option.isSome_iff_exists]
  simp only [loaded?_run_iff]

/-- A cache is loaded if a read has succeeded and it was not cleared since. -/
theorem isLoaded_run_iff_exists_told (trace : List Event) (cache : String) :
    (run sites trace).isLoaded cache = true ↔ ∃ before read after b,
      trace = before ++ read :: after ∧ read.Reads cache ∧
        (run sites before).told sites cache = .ok b ∧ .clear cache ∉ after := by
  rw [isLoaded_run_iff]
  constructor
  · rintro ⟨b, before, read, after, rfl, ⟨hreads, hdeclares⟩, hclear, hfirst⟩
    refine ⟨before, read, after, b, rfl, hreads, (told_eq_ok_iff sites before cache b).2 ?_, hclear⟩
    exact ⟨before, .values cache, [], rfl, ⟨rfl, hdeclares⟩, List.not_mem_nil, hfirst⟩
  · rintro ⟨before, read, after, b, rfl, hreads, htold, hclear⟩
    obtain ⟨-, hb⟩ | ⟨-, -, hdeclares⟩ :=
      isSnapshot_concat.1 ((told_eq_ok_iff sites before cache b).1 htold)
    · have hread : read ≠ .clear cache := fun hr => not_reads_clear cache cache (hr ▸ hreads)
      exact ⟨b, hb.append (by simp [hread.symm, hclear])⟩
    · exact exists_isSnapshot ⟨hreads, hdeclares⟩ hclear

theorem cacheAt_run_without {e : Event} {cache : String} (h : ¬e.Concerns cache)
    (before after : List Event) :
    (run sites (before ++ e :: after)).cacheAt sites cache =
      (run sites (before ++ after)).cacheAt sites cache ∧
    filesAfter (before ++ e :: after) = filesAfter (before ++ after) := by
  induction after using List.reverseRecOn with
  | nil =>
    obtain ⟨hperform, hfiles⟩ :=
      perform_of_not_concerns h (filesAfter before) ((run sites before).cacheAt sites cache)
    rw [cacheAt_run_concat, filesAfter_concat, List.append_nil]
    exact ⟨hperform, hfiles⟩
  | append_singleton after last ih =>
    obtain ⟨hcache, hfiles⟩ := ih
    rw [← List.cons_append, ← List.append_assoc, ← List.append_assoc, cacheAt_run_concat,
      cacheAt_run_concat, filesAfter_concat, filesAfter_concat, hcache, hfiles]
    exact ⟨rfl, rfl⟩

/-- After a failed read nothing is kept, and the next one tells what the files declare then. The
failure is one of the file, unless a lookup was refused. -/
theorem told_run_of_eq_error {trace : List Event} {cache : String} {fault : Fault} {read : Event}
    (h : (run sites trace).told sites cache = .error fault) (hreads : read.Reads cache) :
    ((∃ detail, fault.report? = some ⟨.dotenvError, detail⟩) ↔
      ¬IsObstructed (filesAfter trace) (sites cache).start (sites cache).parents) ∧
    (run sites (trace ++ [read])).isLoaded cache = false ∧
    ∀ files b, (run sites (trace ++ [read, .edit files])).told sites cache = .ok b ↔
      Declares files (sites cache).start (sites cache).parents b := by
  rw [told_run] at h
  obtain ⟨hloaded, hload, hsame⟩ := values_of_eq_error h
  have hafter : (run sites (trace ++ [read])).cacheAt sites cache =
      (run sites trace).cacheAt sites cache := by
    rw [cacheAt_run_concat, perform_of_reads hreads, hsame]
  refine ⟨report?_of_load_iff hload, ?_, fun files b => ?_⟩
  · rw [State.isLoaded_eq_isLoaded sites, hafter, Cache.isLoaded, hloaded, Option.isSome_none]
  · have htrace : trace ++ [read, .edit files] = trace ++ [read] ++ [.edit files] := by simp
    have hedited : (run sites (trace ++ [read] ++ [.edit files])).cacheAt sites cache =
        (run sites trace).cacheAt sites cache := by
      rw [cacheAt_run_concat]
      exact hafter
    rw [htrace, told_run, filesAfter_concat, hedited, values_eq_ok_iff, loaded?_values, hloaded,
      load_eq_ok_iff]
    simp [Event.filesAfter, State.cacheAt]

/-- After any steps, reading a cache tells its snapshot or fails. A failure leaves nothing, so that
the next read tells what the files declare then, and it is reported as one of the file exactly where
no lookup is refused. One value is the one among all, a cache is loaded if it was read since it was
cleared, and what happens to copies and to other caches does not matter. -/
theorem told_run_iff_isSnapshot (trace : List Event) (cache : String) :
    (∀ b, (run sites trace).told sites cache = .ok b ↔
      IsSnapshot sites (trace ++ [.values cache]) cache b) ∧
    (∀ fault read, (run sites trace).told sites cache = .error fault → read.Reads cache →
      ((∃ detail, fault.report? = some ⟨.dotenvError, detail⟩) ↔
        ¬IsObstructed (filesAfter trace) (sites cache).start (sites cache).parents) ∧
      (run sites (trace ++ [read])).isLoaded cache = false ∧
      ∀ files b, (run sites (trace ++ [read, .edit files])).told sites cache = .ok b ↔
        Declares files (sites cache).start (sites cache).parents b) ∧
    (∀ name, ((run sites trace).get sites cache name).2 =
      ((run sites trace).told sites cache).map (·.get? name)) ∧
    ((run sites trace).isLoaded cache = true ↔ ∃ before read after b,
      trace = before ++ read :: after ∧ read.Reads cache ∧
        (run sites before).told sites cache = .ok b ∧ .clear cache ∉ after) ∧
    ∀ before e after, trace = before ++ e :: after → ¬e.Concerns cache →
      (run sites trace).told sites cache = (run sites (before ++ after)).told sites cache ∧
      (run sites trace).isLoaded cache = (run sites (before ++ after)).isLoaded cache := by
  refine ⟨told_eq_ok_iff sites trace cache, fun _ _ => told_run_of_eq_error sites,
    get_run sites trace cache, isLoaded_run_iff_exists_told sites trace cache, ?_⟩
  rintro before e after rfl h
  obtain ⟨hcache, hfiles⟩ := cacheAt_run_without sites h before after
  rw [told_run, told_run, State.isLoaded_eq_isLoaded sites, State.isLoaded_eq_isLoaded sites, hcache,
    hfiles]
  exact ⟨rfl, rfl⟩

theorem told_edit (files : Tree) (cache : String) :
    (run sites [.edit files]).told sites cache =
      load files (sites cache).start (sites cache).parents := by
  have hcache : (run sites [.edit files]).cacheAt sites cache =
      ⟨(sites cache).start, (sites cache).parents, none⟩ := rfl
  have hfiles : filesAfter [.edit files] = files := rfl
  rw [told_run, hcache, hfiles, Cache.values]
  cases load files (sites cache).start (sites cache).parents <;> rfl

theorem load_longName : load {} [longName] (0 : Nat) =
    .error (.lookupRefused [longName, fileName] .tooLong) := by
  rw [load, find_longName]

theorem load_inner : load inner roundabout (1 : Nat) = .ok (File.ofText []).values := by
  have htext : inner.text ["a", "b", ".env"] = .ok [] := by decide +kernel
  rw [load, find_inner]
  simp only [htext]

/-- A read ends in another failure if a name of its folder is too long, and it tells what a file declares
that is neither in its folder nor above if the folder is spelled through one inside it. -/
theorem not_forall_told :
    (∃ fault, (run (fun _ => ⟨[longName], 0⟩) [.edit {}]).told (fun _ => ⟨[longName], 0⟩) "" =
      .error fault ∧ fault.report? = none) ∧
    ∃ b, (run (fun _ => ⟨roundabout, 1⟩) [.edit inner]).told (fun _ => ⟨roundabout, 1⟩) "" = .ok b ∧
      ∀ levels ≤ 1, ∀ folder, IsAbove roundabout.place levels folder →
        ¬inner.HasFile (folder ++ [fileName]) := by
  constructor
  · refine ⟨.lookupRefused [longName, fileName] .tooLong, ?_, rfl⟩
    rw [told_edit]
    exact load_longName
  · refine ⟨(File.ofText []).values, ?_, fun _ _ _ habove => not_hasFile_inner habove⟩
    rw [told_edit]
    exact load_inner

end Run

end TemplatedRequests.Dotenv
