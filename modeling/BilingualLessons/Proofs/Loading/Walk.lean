import BilingualLessons.Proofs.Loading.FileTree
import Mathlib.Data.List.Flatten
import Mathlib.Data.String.Basic

namespace BilingualLessons.Loading

/-!
# Walks through directories

A walk lists one directory after the other and puts off what it meets there, so it comes upon the
files in an order that depends on how directories list their entries.  Which files it comes upon
does not depend on it: in every step the files found and those still to come are the same.

* `filesIn` — the JSON files below a directory, read off the tree.
* `Walk.owed` — the files found together with those below the directories put off.
* `Walk.owed_list` — what the step of a walk does to them, `Walk.run_perm` — and a whole walk.
* `mem_jsonFiles_iff`, `pairwise_jsonFiles` — which files there are, each once and in ascending
  order; `jsonFiles_congr` — and in no matter which order directories list their entries.
-/

/-! ### The files of a tree -/

mutual

/-- The JSON files of a tree that has this name, with the paths to them. -/
def FileTree.files (name : String) : FileTree → List (Path × ByteArray)
  | .file content => if isJsonName name then [([name], content)] else []
  | .directory entries => (filesIn entries).map fun (path, content) => (name :: path, content)
  | .link _ => []

/-- The JSON files of the entries of a directory, with the paths to them. -/
def filesIn : Entries → List (Path × ByteArray)
  | [] => []
  | (name, tree) :: rest => tree.files name ++ filesIn rest

end

theorem filesIn_eq_flatMap (entries : Entries) :
    filesIn entries = entries.flatMap fun entry => entry.2.files entry.1 := by
  induction entries with
  | nil => rfl
  | cons entry rest ih => rw [filesIn, ih, List.flatMap_cons]

/-- The path to a file of a tree begins with the name of the tree. -/
theorem exists_cons_of_mem_files {name : String} {tree : FileTree} {path : Path}
    {content : ByteArray} (h : (path, content) ∈ tree.files name) :
    ∃ rest, path = name :: rest := by
  cases tree with
  | file own =>
    rw [FileTree.files] at h
    split at h
    · exact ⟨[], congrArg Prod.fst (List.mem_singleton.mp h)⟩
    · simp at h
  | directory entries =>
    obtain ⟨⟨rest, own⟩, -, heq⟩ := List.mem_map.mp h
    exact ⟨rest, (congrArg Prod.fst heq).symm⟩
  | link target => simp [FileTree.files] at h

/-- A path whose last name is that of a JSON file. -/
def IsJsonPath (path : Path) : Prop := ∃ name, path.getLast? = some name ∧ IsJsonNamed name

theorem isJsonPath_singleton {name : String} : IsJsonPath [name] ↔ IsJsonNamed name := by
  simp [IsJsonPath]

theorem isJsonPath_cons_cons {name next : String} {rest : Path} :
    IsJsonPath (name :: next :: rest) ↔ IsJsonPath (next :: rest) := by
  simp [IsJsonPath, List.getLast?_cons_cons]

/-- What a path leads to lies below the entry of its first name. -/
theorem at?_cons_eq_some_iff {entries : Entries} (hnames : (entries.map Prod.fst).Nodup)
    {name : String} {rest : Path} {below : FileTree} :
    (FileTree.directory entries).at? (name :: rest) = some below ↔
      ∃ tree, (name, tree) ∈ entries ∧ tree.at? rest = some below := by
  rw [FileTree.at?]
  simp only [← entryNamed?_eq_some_iff hnames]
  cases entryNamed? name entries <;> simp

/-- The files of a directory are those that paths lead to, if this is so for each of its
    entries. -/
theorem mem_filesIn_of_entries {entries : Entries} (hnames : (entries.map Prod.fst).Nodup)
    (hentries : ∀ entry ∈ entries, ∀ path content, (path, content) ∈ entry.2.files entry.1 ↔
      ∃ rest, path = entry.1 :: rest ∧ IsJsonPath path ∧ entry.2.at? rest = some (.file content))
    (path : Path) (content : ByteArray) :
    (path, content) ∈ filesIn entries ↔
      IsJsonPath path ∧ (FileTree.directory entries).at? path = some (.file content) := by
  rw [filesIn_eq_flatMap, List.mem_flatMap]
  cases path with
  | nil =>
    -- the path to a file has a name, and the directory itself is no file
    refine iff_of_false ?_ (by simp [IsJsonPath])
    rintro ⟨entry, -, hfile⟩
    obtain ⟨rest, hpath⟩ := exists_cons_of_mem_files hfile
    cases hpath
  | cons name rest =>
    rw [at?_cons_eq_some_iff hnames]
    constructor
    · rintro ⟨⟨own, tree⟩, hentry, hfile⟩
      obtain ⟨below, hpath, hjson, hat⟩ := (hentries _ hentry _ _).mp hfile
      obtain ⟨rfl, rfl⟩ := List.cons.inj hpath
      exact ⟨hjson, tree, hentry, hat⟩
    · rintro ⟨hjson, tree, hentry, hat⟩
      exact ⟨(name, tree), hentry, (hentries _ hentry _ _).mpr ⟨rest, rfl, hjson, hat⟩⟩

/-- The files of a tree are those that the paths of JSON files lead to. -/
theorem mem_files_iff {tree : FileTree} (h : tree.HasOwnNames) (name : String) (path : Path)
    (content : ByteArray) :
    (path, content) ∈ tree.files name ↔
      ∃ rest, path = name :: rest ∧ IsJsonPath path ∧ tree.at? rest = some (.file content) := by
  induction h generalizing name path content with
  | file own =>
    rw [FileTree.files]
    constructor
    · intro hfile
      split at hfile
      · next hjson =>
        obtain ⟨rfl, rfl⟩ := Prod.mk.inj (List.mem_singleton.mp hfile)
        exact ⟨[], rfl, isJsonPath_singleton.mpr (isJsonName_iff.mp hjson), rfl⟩
      · simp at hfile
    · rintro ⟨rest, rfl, hjson, hat⟩
      cases rest with
      | nil =>
        obtain rfl : own = content := by simpa [FileTree.at?] using hat
        rw [if_pos (isJsonName_iff.mpr (isJsonPath_singleton.mp hjson))]
        exact List.mem_singleton_self _
      | cons next more => simp [FileTree.at?] at hat
  | link target =>
    refine iff_of_false (by simp [FileTree.files]) ?_
    rintro ⟨rest, -, -, hat⟩
    cases rest <;> simp [FileTree.at?] at hat
  | @directory entries hnames _ ih =>
    have hfiles := mem_filesIn_of_entries hnames fun entry hentry => ih entry hentry entry.1
    rw [FileTree.files, List.mem_map]
    constructor
    · rintro ⟨⟨rest, own⟩, hfile, heq⟩
      obtain ⟨rfl, rfl⟩ := Prod.mk.inj heq
      obtain ⟨hjson, hat⟩ := (hfiles rest own).mp hfile
      refine ⟨rest, rfl, ?_, hat⟩
      cases rest with
      | nil => simp [IsJsonPath] at hjson
      | cons next more => exact isJsonPath_cons_cons.mpr hjson
    · rintro ⟨rest, rfl, hjson, hat⟩
      refine ⟨(rest, content), (hfiles rest content).mpr ⟨?_, hat⟩, rfl⟩
      cases rest with
      | nil => simp [FileTree.at?] at hat
      | cons next more => exact isJsonPath_cons_cons.mp hjson

/-- **The files of a directory** are those that the paths of JSON files lead to. -/
theorem mem_filesIn_iff {entries : Entries} (h : (FileTree.directory entries).HasOwnNames)
    (path : Path) (content : ByteArray) :
    (path, content) ∈ filesIn entries ↔
      IsJsonPath path ∧ (FileTree.directory entries).at? path = some (.file content) := by
  cases h with
  | directory hnames hbelow =>
    exact mem_filesIn_of_entries hnames
      (fun entry hentry => mem_files_iff (hbelow entry hentry) entry.1) path content

/-- The files of a directory have paths of their own, if those of each entry have. -/
theorem nodup_filesIn_of_entries {entries : Entries} (hnames : (entries.map Prod.fst).Nodup)
    (hentries : ∀ entry ∈ entries, ((entry.2.files entry.1).map Prod.fst).Nodup) :
    ((filesIn entries).map Prod.fst).Nodup := by
  rw [filesIn_eq_flatMap, List.map_flatMap, List.nodup_flatMap]
  refine ⟨hentries, (List.pairwise_map.mp hnames).imp ?_⟩
  -- paths of two entries differ in their first names
  intro entry other hdiffer path hpath hother
  obtain ⟨⟨_, content⟩, hfile, rfl⟩ := List.mem_map.mp hpath
  obtain ⟨⟨_, content'⟩, hfile', heq⟩ := List.mem_map.mp hother
  obtain ⟨rest, hrest⟩ := exists_cons_of_mem_files hfile
  obtain ⟨rest', hrest'⟩ := exists_cons_of_mem_files hfile'
  simp only at heq
  rw [heq, hrest] at hrest'
  exact hdiffer (List.cons.inj hrest').1

/-- The files of a tree have paths of their own. -/
theorem nodup_files {tree : FileTree} (h : tree.HasOwnNames) (name : String) :
    ((tree.files name).map Prod.fst).Nodup := by
  induction h generalizing name with
  | file content =>
    rw [FileTree.files]
    split <;> simp
  | link target => exact List.nodup_nil
  | @directory entries hnames _ ih =>
    have hbelow := nodup_filesIn_of_entries hnames fun entry hentry => ih entry hentry entry.1
    have hpaths : (((FileTree.directory entries).files name).map Prod.fst)
        = ((filesIn entries).map Prod.fst).map (name :: ·) := by
      simp [FileTree.files, Function.comp_def]
    rw [hpaths]
    exact hbelow.map List.cons_injective

theorem nodup_filesIn {entries : Entries} (h : (FileTree.directory entries).HasOwnNames) :
    ((filesIn entries).map Prod.fst).Nodup := by
  cases h with
  | directory hnames hbelow =>
    exact nodup_filesIn_of_entries hnames fun entry hentry => nodup_files (hbelow entry hentry) _

/-! ### What a walk still owes -/

/-- A file below a directory, with the path to the directory before its own. -/
def under (here : Path) (file : Path × ByteArray) : Path × ByteArray :=
  (here ++ file.1, file.2)

theorem under_nil : under [] = id := rfl

namespace Walk

/-- The files found, and those below the directories that are still to be listed. -/
def owed (walk : Walk) : List (Path × ByteArray) :=
  walk.found ++ walk.pending.flatMap fun (here, entries) => (filesIn entries).map (under here)

/-- What is met in a directory adds its files. -/
theorem owed_meet (here : Path) (walk : Walk) (name : String) (tree : FileTree) :
    (walk.meet here (name, tree)).owed.Perm ((tree.files name).map (under here) ++ walk.owed) := by
  cases tree with
  | file content =>
    rw [meet, FileTree.files]
    split
    · exact List.Perm.refl _
    · exact List.Perm.refl _
  | directory entries =>
    have hpaths : ((FileTree.directory entries).files name).map (under here)
        = (filesIn entries).map (under (here ++ [name])) := by
      simp [FileTree.files, under, Function.comp_def]
    -- a directory that is put off owes its files behind those found already
    rw [hpaths, owed, owed, meet, List.flatMap_cons]
    exact List.perm_append_comm_assoc _ _ _
  | link target => exact List.Perm.refl _

/-- A step of a walk adds the files of the directory that it lists. -/
theorem owed_list (here : Path) (entries : Entries) (walk : Walk) :
    (walk.list here entries).owed.Perm ((filesIn entries).map (under here) ++ walk.owed) := by
  induction entries generalizing walk with
  | nil => exact List.Perm.refl _
  | cons entry rest ih =>
    obtain ⟨name, tree⟩ := entry
    have hrest : ((walk.meet here (name, tree)).list here rest).owed.Perm
        ((filesIn rest).map (under here) ++ (walk.meet here (name, tree)).owed) := ih _
    have hfirst := (owed_meet here walk name tree).append_left ((filesIn rest).map (under here))
    rw [filesIn, List.map_append, List.append_assoc]
    exact (hrest.trans hfirst).trans (List.perm_append_comm_assoc _ _ _)

/-- **A whole walk** finds what it owes, each file as often as it owes it. -/
theorem run_perm (walk : Walk) : walk.run.Perm walk.owed := by
  fun_induction run walk with
  | case1 found => simp [owed]
  | case2 here entries pending found ih =>
    -- the listed directory owes nothing more, and its entries owe what it did
    refine (ih.trans (owed_list here entries ⟨pending, found⟩)).trans ?_
    rw [owed, owed, List.flatMap_cons]
    exact List.perm_append_comm_assoc _ _ _

end Walk

/-! ### The files in order -/

theorem pathLe_iff {a b : Path} : pathLe a b = true ↔ a ≤ b := by
  simp [pathLe]

/-- The files that are read are those of the tree. -/
theorem jsonFiles_perm (entries : Entries) : (jsonFiles entries).Perm (filesIn entries) := by
  have hwalk := Walk.run_perm ⟨[([], entries)], []⟩
  have howed : Walk.owed ⟨[([], entries)], []⟩ = filesIn entries := by
    simp [Walk.owed, under_nil]
  rw [howed] at hwalk
  exact (List.mergeSort_perm _ _).trans hwalk

theorem mem_jsonFiles_iff {entries : Entries} (h : (FileTree.directory entries).HasOwnNames)
    (path : Path) (content : ByteArray) :
    (path, content) ∈ jsonFiles entries ↔
      IsJsonPath path ∧ (FileTree.directory entries).at? path = some (.file content) :=
  (jsonFiles_perm entries).mem_iff.trans (mem_filesIn_iff h path content)

/-- The paths of the files ascend, name by name. -/
theorem pairwise_jsonFiles {entries : Entries} (h : (FileTree.directory entries).HasOwnNames) :
    (jsonFiles entries).Pairwise fun a b => a.1 < b.1 := by
  have hsorted : (jsonFiles entries).Pairwise fun a b => pathLe a.1 b.1 = true := by
    refine List.pairwise_mergeSort ?_ ?_ _
    · intro a b c hab hbc
      exact pathLe_iff.mpr ((pathLe_iff.mp hab).trans (pathLe_iff.mp hbc))
    · intro a b
      simpa [pathLe_iff] using le_total a.1 b.1
  -- sorting leaves room for equal paths, which a tree does not have
  have hnodup : ((jsonFiles entries).map Prod.fst).Nodup :=
    ((jsonFiles_perm entries).map Prod.fst).nodup_iff.mpr (nodup_filesIn h)
  have hdistinct : (jsonFiles entries).Pairwise fun a b => a.1 ≠ b.1 := List.pairwise_map.mp hnodup
  exact (hsorted.and hdistinct).imp fun ⟨hle, hne⟩ => lt_of_le_of_ne (pathLe_iff.mp hle) hne

/-- Files in ascending order of their paths are determined by which files they are. -/
theorem files_eq_of_mem_iff {files others : List (Path × ByteArray)}
    (hfiles : files.Pairwise fun a b => a.1 < b.1) (hothers : others.Pairwise fun a b => a.1 < b.1)
    (hmem : ∀ file, file ∈ files ↔ file ∈ others) : files = others := by
  have hnodup : ∀ {list : List (Path × ByteArray)}, list.Pairwise (fun a b => a.1 < b.1) →
      list.Nodup := by
    intro list hlist
    refine hlist.imp ?_
    rintro file _ hlt rfl
    exact lt_irrefl file.1 hlt
  have hperm : files.Perm others :=
    (List.perm_ext_iff_of_nodup (hnodup hfiles) (hnodup hothers)).mpr hmem
  exact hperm.eq_of_pairwise (fun a b _ _ hab hba => absurd hba (lt_asymm hab)) hfiles hothers

/-- **Listing order.** Directories with the same files in the same places are read alike, whatever
    else is in them and in whatever order they list it. -/
theorem jsonFiles_congr {entries others : Entries}
    (h : (FileTree.directory entries).HasOwnNames) (h' : (FileTree.directory others).HasOwnNames)
    (hfiles : ∀ path content, (FileTree.directory others).at? path = some (.file content) ↔
      (FileTree.directory entries).at? path = some (.file content)) :
    jsonFiles others = jsonFiles entries := by
  refine files_eq_of_mem_iff (pairwise_jsonFiles h') (pairwise_jsonFiles h) ?_
  intro (path, content)
  rw [mem_jsonFiles_iff h', mem_jsonFiles_iff h, hfiles]

end BilingualLessons.Loading
