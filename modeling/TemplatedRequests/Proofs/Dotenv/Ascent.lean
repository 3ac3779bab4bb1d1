import TemplatedRequests.Proofs.Dotenv.Nearest

/-!
The search for the file of variables against the folders and files that there are. Where the names of
the start folder lead straight down, the search comes to the closest regular file within reach, and fails
exactly if there is none, as long as no lookup is refused before. A name that leads back up makes the
search go down instead.
-/

namespace TemplatedRequests.Dotenv

/-- The place that names lead to if each folder on the way is there. -/
def Path.place (p : Path) : Path := p.foldl Path.enter []

/-- A regular file stands at the place, whether it may be looked up or not. -/
structure Tree.HasFile (t : Tree) (place : Path) : Prop where
  named : ∀ name ∈ place, '\x00' ∉ name.toList
  folders : ∀ folder rest, place = folder ++ rest → rest ≠ [] → t.isFolder folder = true
  file : ∃ content, (place, content) ∈ t.files

/-- Of the folder that the start leads to and so many folders above it, the search comes to the file of
the closest one that has it as a regular file, and if none has, it tells so. -/
structure FindsClosest (t : Tree) (start : Path) (parents : Nat) : Prop where
  found : ∀ levels ≤ parents, ∀ folder, IsAbove start.place levels folder →
    t.HasFile (folder ++ [fileName]) →
    (∀ l < levels, ∀ f, IsAbove start.place l f → ¬t.HasFile (f ++ [fileName])) →
    ∃ path, find t (some start) parents = .ok path ∧ path.place = folder ++ [fileName]
  missing : (∀ levels ≤ parents, ∀ folder, IsAbove start.place levels folder →
    ¬t.HasFile (folder ++ [fileName])) → find t (some start) parents = .error .dotenvMissing

variable {t : Tree} {start folder path place : Path} {name : String} {parents levels : Nat}

section Lookup

theorem isFolder_of_obstacle?_eq_none (h : t.obstacle? folder name = none) :
    t.isFolder folder = true := by
  cases hf : t.isFolder folder with
  | true => rfl
  | false => simp [Tree.obstacle?, hf] at h

theorem isFolder_of_obstacle?_eq_missing (h : t.obstacle? folder name = some .missing) :
    t.isFolder folder = false := by
  cases hf : t.isFolder folder with
  | false => rfl
  | true =>
    simp only [Tree.obstacle?, hf, Bool.not_true, Bool.false_eq_true, if_false] at h
    split at h
    · cases h
    · split at h <;> cases h

theorem follow_eq_ok (h : t.follow folder path = .ok place) (hpoints : ".." ∉ path) :
    place = folder ++ path ∧
      ∀ front back, path = front ++ back → back ≠ [] → t.isFolder (folder ++ front) = true := by
  induction path generalizing folder with
  | nil =>
    cases h
    refine ⟨(List.append_nil _).symm, fun front back hsplit hback => ?_⟩
    exact absurd (List.append_eq_nil_iff.1 hsplit.symm).2 hback
  | cons name rest ih =>
    obtain ⟨hname, hrest⟩ := not_or.1 (mt List.mem_cons.2 hpoints)
    rw [Tree.follow] at h
    split at h
    · cases h
    · rename_i hfree
      rw [Path.enter, if_neg (Ne.symm hname)] at h
      obtain ⟨hplace, hfolders⟩ := ih h hrest
      refine ⟨by rw [hplace, List.append_assoc, List.singleton_append], fun front back hsplit hback => ?_⟩
      cases front with
      | nil =>
        rw [List.append_nil]
        exact isFolder_of_obstacle?_eq_none hfree
      | cons first front =>
        obtain ⟨rfl, hmore⟩ := List.cons.inj hsplit
        have hinner := hfolders front back hmore hback
        rwa [List.append_assoc, List.singleton_append] at hinner

theorem exists_of_follow_eq_missing (h : t.follow folder path = .error .missing)
    (hpoints : ".." ∉ path) :
    ∃ front back, path = front ++ back ∧ back ≠ [] ∧ t.isFolder (folder ++ front) = false := by
  induction path generalizing folder with
  | nil => cases h
  | cons name rest ih =>
    obtain ⟨hname, hrest⟩ := not_or.1 (mt List.mem_cons.2 hpoints)
    rw [Tree.follow] at h
    split at h
    · rename_i hobstacle
      cases h
      refine ⟨[], name :: rest, rfl, List.cons_ne_nil name rest, ?_⟩
      rw [List.append_nil]
      exact isFolder_of_obstacle?_eq_missing hobstacle
    · rw [Path.enter, if_neg (Ne.symm hname)] at h
      obtain ⟨front, back, rfl, hback, hfolder⟩ := ih h hrest
      rw [List.append_assoc, List.singleton_append] at hfolder
      exact ⟨name :: front, back, rfl, hback, hfolder⟩

theorem lookup_eq_ok (h : t.lookup path = .ok place) :
    (∀ name ∈ path, '\x00' ∉ name.toList) ∧ t.follow [] path = .ok place := by
  unfold Tree.lookup at h
  split at h
  · cases h
  · rename_i hzero
    split at h
    · cases h
    · exact ⟨by simpa using hzero, h⟩

theorem lookup_eq_missing (h : t.lookup path = .error .missing) :
    (∃ name ∈ path, '\x00' ∈ name.toList) ∨ t.follow [] path = .error .missing := by
  unfold Tree.lookup at h
  split at h
  · rename_i hzero
    exact .inl (by simpa using hzero)
  · split at h
    · cases h
    · exact .inr h

theorem file_isOk_iff : (∃ found, t.file path = .ok found) ↔
    ∃ place content, t.lookup path = .ok place ∧ (place, content) ∈ t.files := by
  unfold Tree.file
  cases t.lookup path with
  | error obstacle => simp
  | ok place =>
    have hfind : (∃ content, (place, content) ∈ t.files) ↔
        (t.files.find? (·.1 == place)).isSome = true := by simp
    cases h : t.files.find? (·.1 == place) with
    | none => simpa [h] using hfind
    | some found => simpa [h] using hfind

theorem isFile_eq_true_iff : t.isFile path = .ok true ↔
    ∃ place content, t.lookup path = .ok place ∧ (place, content) ∈ t.files := by
  rw [← file_isOk_iff, Tree.isFile]
  cases t.file path with
  | ok found => simp
  | error obstacle => cases obstacle <;> simp

theorem file_of_isFile_eq_false (h : t.isFile path = .ok false) : t.file path = .error .missing := by
  unfold Tree.isFile at h
  split at h
  · cases h
  · assumption
  · cases h

end Lookup

section Places

theorem foldl_enter (hpoints : ".." ∉ path) : path.foldl Path.enter folder = folder ++ path := by
  induction path generalizing folder with
  | nil => exact (List.append_nil _).symm
  | cons name rest ih =>
    obtain ⟨hname, hrest⟩ := not_or.1 (mt List.mem_cons.2 hpoints)
    rw [List.foldl_cons, ih hrest, Path.enter, if_neg (Ne.symm hname), List.append_assoc,
      List.singleton_append]

theorem place_of_no_points (hpoints : ".." ∉ path) : path.place = path :=
  (foldl_enter hpoints).trans (List.nil_append path)

theorem hasFile_of_isFile (h : t.isFile path = .ok true) (hpoints : ".." ∉ path) : t.HasFile path := by
  obtain ⟨place, content, hlookup, hfile⟩ := isFile_eq_true_iff.1 h
  obtain ⟨hnamed, hfollow⟩ := lookup_eq_ok hlookup
  obtain ⟨rfl, hfolders⟩ := follow_eq_ok hfollow hpoints
  exact ⟨hnamed, hfolders, content, hfile⟩

theorem not_hasFile_of_isFile (h : t.isFile path = .ok false) (hpoints : ".." ∉ path) :
    ¬t.HasFile path := by
  rintro ⟨hnamed, hfolders, content, hfile⟩
  have hmissing := file_of_isFile_eq_false h
  cases hlookup : t.lookup path with
  | ok place =>
    obtain ⟨-, hfollow⟩ := lookup_eq_ok hlookup
    obtain ⟨rfl, -⟩ := follow_eq_ok hfollow hpoints
    obtain ⟨found, hfound⟩ := file_isOk_iff.2 ⟨_, content, hlookup, hfile⟩
    cases hfound.symm.trans hmissing
  | error obstacle =>
    have hobstacle : obstacle = .missing := by simpa [Tree.file, hlookup] using hmissing
    obtain ⟨name, hname, hzero⟩ | hfollow := lookup_eq_missing (hobstacle ▸ hlookup)
    · exact hnamed name hname hzero
    · obtain ⟨front, back, hsplit, hback, hfolder⟩ := exists_of_follow_eq_missing hfollow hpoints
      cases (hfolders front back hsplit hback).symm.trans hfolder

theorem points_not_mem_of_isAbove (h : IsAbove start levels folder) (hpoints : ".." ∉ start) :
    ".." ∉ folder ++ [fileName] := by
  obtain ⟨names, rfl, -⟩ := h
  rw [List.mem_append, List.mem_singleton]
  rintro (hfolder | hname)
  · exact hpoints (List.mem_append_left names hfolder)
  · exact absurd hname (by decide)

theorem isAbove_unique {f : Path} (h : IsAbove start levels folder) (hf : IsAbove start levels f) :
    f = folder := by
  obtain ⟨names, rfl, rfl⟩ := h
  obtain ⟨more, hmore, hlength⟩ := hf
  exact (List.append_inj' hmore hlength.symm).1.symm

end Places

section Closest

variable (hpoints : ".." ∉ start)
include hpoints

theorem findsClosest_of_not_isObstructed (h : ¬IsObstructed t start parents) :
    FindsClosest t start parents := by
  have hplace := place_of_no_points hpoints
  have hreach (l : Nat) : l < ((parents : Int) + 1).toNat ↔ l ≤ parents := by omega
  have hnone {l f} (hf : IsAbove start l f) (hfalse : t.isFile (f ++ [fileName]) = .ok false) :=
    not_hasFile_of_isFile hfalse (points_not_mem_of_isAbove hf hpoints)
  have hends := forall_or_exists_comesTo t.isFile start ((parents : Int) + 1).toNat
  constructor
  · rw [hplace]
    intro levels hle folder habove hfile hfirst
    obtain hfalse | ⟨l, f, answer, hanswer, hcomes⟩ := hends
    · exact absurd hfile (hnone habove (hfalse levels ((hreach levels).2 hle) folder habove))
    · rcases answer with fault | (_ | _)
      · exact absurd ⟨l, f, fault, hcomes⟩ h
      · exact absurd rfl hanswer
      · have hf := points_not_mem_of_isAbove hcomes.isAbove hpoints
        -- Neither of the two folders that have the file is nearer than the other.
        have hlevels : ¬l < levels := fun hl =>
          hfirst l hl f hcomes.isAbove (hasFile_of_isFile hcomes.answered hf)
        have hl : ¬levels < l := fun hl =>
          hnone habove (hcomes.minimal levels hl folder habove) hfile
        obtain rfl : levels = l := by omega
        obtain rfl := isAbove_unique habove hcomes.isAbove
        exact ⟨_, find_eq_ok_iff.2 ⟨_, _, rfl, hcomes⟩, place_of_no_points hf⟩
  · rw [hplace]
    intro hmissing
    obtain hfalse | ⟨l, f, answer, hanswer, hcomes⟩ := hends
    · exact find_eq_error_iff.2 (.inl ⟨rfl, hfalse⟩)
    · rcases answer with fault | (_ | _)
      · exact absurd ⟨l, f, fault, hcomes⟩ h
      · exact absurd rfl hanswer
      · have hf := points_not_mem_of_isAbove hcomes.isAbove hpoints
        exact absurd (hasFile_of_isFile hcomes.answered hf)
          (hmissing l ((hreach l).1 hcomes.isReached) f hcomes.isAbove)

theorem not_isObstructed_of_findsClosest (h : FindsClosest t start parents) :
    ¬IsObstructed t start parents := by
  classical
  rintro ⟨levels, folder, fault, hcomes⟩
  have hfails := find_eq_error_iff.2 (.inr ⟨levels, folder, hcomes⟩)
  have hplace := place_of_no_points hpoints
  have hreach (l : Nat) : l < parents + 1 ↔ l ≤ parents := Nat.lt_succ_iff
  -- Some folder is the closest one that has the file, or none has it.
  obtain hnone | ⟨l, f, answer, hanswer, hclosest⟩ :=
    forall_or_exists_comesTo (fun path => .ok (decide (t.HasFile path))) start (parents + 1)
  · have hmissing := h.missing (by
      rw [hplace]
      intro l hl f hf
      simpa using hnone l ((hreach l).2 hl) f hf)
    rw [hfails] at hmissing
    cases hmissing
    cases report?_of_isFile hcomes.answered
  · have hfile : t.HasFile (f ++ [fileName]) := by simpa [← hclosest.answered] using hanswer
    obtain ⟨path, hpath, -⟩ := h.found l ((hreach l).1 hclosest.isReached) f
      (hplace.symm ▸ hclosest.isAbove) hfile (by
        rw [hplace]
        intro l' hl f' hf
        simpa using hclosest.minimal l' hl f' hf)
    rw [hfails] at hpath
    cases hpath

end Closest

/-- The search goes up by the names of the start folder, and what it comes to is a regular file. It ends
at the first file it meets, as a failure of the file if there is none on any level within reach, and as
another failure at the first lookup that is refused. If the names lead straight down, this is the closest
file that there is, unless a lookup is refused before. -/
theorem findsClosest_iff_not_isObstructed (t : Tree) (start : Path) (parents : Nat) :
    (∀ path, find t (some start) parents = .ok path ↔ ∃ levels folder,
      path = folder ++ [fileName] ∧ ComesTo t.isFile start (parents + 1) levels folder (.ok true)) ∧
    (∀ path, t.isFile path = .ok true ↔
      ∃ place content, t.lookup path = .ok place ∧ (place, content) ∈ t.files) ∧
    (∀ fault, find t (some start) parents = .error fault ↔
      fault = .dotenvMissing ∧ (∀ levels ≤ parents, ∀ folder, IsAbove start levels folder →
        t.isFile (folder ++ [fileName]) = .ok false) ∨
      ∃ levels folder, ComesTo t.isFile start (parents + 1) levels folder (.error fault)) ∧
    Fault.dotenvMissing.report? = some ⟨.dotenvError, ".env file not found"⟩ ∧
    (".." ∉ start → (FindsClosest t start parents ↔ ¬IsObstructed t start parents)) := by
  refine ⟨fun path => find_eq_ok_iff, fun path => isFile_eq_true_iff, fun fault => ?_, rfl,
    fun hpoints => ⟨not_isObstructed_of_findsClosest hpoints,
      findsClosest_of_not_isObstructed hpoints⟩⟩
  simp only [← Nat.lt_succ_iff]
  exact find_eq_error_iff

/-- Two files, and a folder with the name of a file below them. -/
def nested : Tree where
  folders := [["a"], ["a", "b"], ["a", "b", ".env"]]
  files := [(["a", ".env"], [65]), ([".env"], [66])]

/-- The folder is passed over, and the file at the root is not reached. More levels than there are above
the start folder do no harm. -/
theorem findsClosest_nested : ".." ∉ ["a", "b"] ∧ FindsClosest nested ["a", "b"] 7 ∧
    find nested (some ["a", "b"]) (7 : Nat) = .ok ["a", ".env"] := by
  have hpoints : ".." ∉ ["a", "b"] := by decide
  have hfind : find nested (some ["a", "b"]) (7 : Nat) = .ok ["a", ".env"] := rfl
  obtain ⟨-, -, -, -, hiff⟩ := findsClosest_iff_not_isObstructed nested ["a", "b"] 7
  exact ⟨hpoints, (hiff hpoints).2 (not_isObstructed_of_isNearest (find_eq_ok_iff.1 hfind)), hfind⟩

section Astray

def longName : String := String.ofList (List.replicate 300 'a')

theorem absolute_pair (folder file : String) :
    Path.absolute [folder, file] = "/" ++ (folder ++ "/" ++ file) := rfl

theorem find_of_long {name : String} (hzero : '\x00' ∉ name.toList)
    (hlong : nameLimit < name.utf8ByteSize) (hshort : name.utf8ByteSize + 6 ≤ pathLimit) :
    find {} (some [name]) (0 : Nat) = .error (.lookupRefused [name, fileName] .tooLong) := by
  have hfile : '\x00' ∉ fileName.toList := by decide
  have hpath : ¬pathLimit < (Path.absolute [name, fileName]).utf8ByteSize := by
    have hslash : "/".utf8ByteSize = 1 := by decide
    have hdot : fileName.utf8ByteSize = 4 := by decide
    simp only [absolute_pair, String.utf8ByteSize_append, hslash, hdot]
    omega
  have hlookup : Tree.lookup {} [name, fileName] = .error .tooLong := by
    simp [Tree.lookup, Tree.follow, Tree.obstacle?, hzero, hfile, hpath, hlong]
  simp [find, ascend, Tree.isFile, Tree.file, hlookup]

theorem zero_not_mem_replicate (n : Nat) : '\x00' ∉ (String.ofList (List.replicate n 'a')).toList := by
  rw [String.toList_ofList]
  exact fun h => absurd (List.eq_of_mem_replicate h) (by decide)

theorem utf8ByteSize_longName : longName.utf8ByteSize = 300 := by
  decide +kernel

theorem find_longName : find {} (some [longName]) (0 : Nat) =
    .error (.lookupRefused [longName, fileName] .tooLong) := by
  have hbytes := utf8ByteSize_longName
  have hname : nameLimit < longName.utf8ByteSize := by
    rw [nameLimit, hbytes]
    omega
  have hpath : longName.utf8ByteSize + 6 ≤ pathLimit := by
    rw [pathLimit, hbytes]
    omega
  exact find_of_long (zero_not_mem_replicate 300) hname hpath

def inner : Tree where
  folders := [["a"], ["a", "b"]]
  files := [(["a", "b", ".env"], [])]

def roundabout : Path := ["a", "b", ".."]

theorem find_inner : find inner (some roundabout) (1 : Nat) = .ok ["a", "b", ".env"] :=
  rfl

theorem not_hasFile_inner (h : IsAbove roundabout.place levels folder) :
    ¬inner.HasFile (folder ++ [fileName]) := by
  intro hfile
  obtain ⟨content, hcontent⟩ := hfile.file
  have hplace := (Prod.mk.inj (List.mem_singleton.1 hcontent)).1
  obtain rfl : folder = ["a", "b"] := (List.append_inj' hplace rfl).1
  obtain ⟨names, hnames, -⟩ := h
  simp [roundabout, Path.place, Path.enter] at hnames

/-- A folder with a name that is too long ends the search in another failure, and from a folder that is
spelled with two points the search goes down. -/
theorem not_forall_findsClosest :
    ¬FindsClosest {} [longName] 0 ∧ ¬FindsClosest inner roundabout 1 := by
  constructor
  · intro h
    have hmissing := h.missing fun _ _ _ _ hfile => by
      obtain ⟨content, hcontent⟩ := hfile.file
      exact absurd hcontent List.not_mem_nil
    rw [find_longName] at hmissing
    cases hmissing
  · intro h
    have hmissing := h.missing fun _ _ _ habove => not_hasFile_inner habove
    rw [find_inner] at hmissing
    cases hmissing

end Astray

end TemplatedRequests.Dotenv
