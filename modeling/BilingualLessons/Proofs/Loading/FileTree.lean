import BilingualLessons.Loading.Walk
import Mathlib.Data.List.Nodup
import Mathlib.Data.List.TakeWhile

namespace BilingualLessons.Loading

/-!
# Names in a file tree

A directory has one entry for each name.  The type of trees does not ask for it, but whatever is
added to a tree keeps it.

* `FileTree.HasOwnNames` — trees in which a name stands for one thing.
* `FileTree.HasOwnNames.at?` — what lies in such a tree is one itself.
* `FileTree.HasOwnNames.withFile` and its like — changes keep names apart.
* `IsJsonNamed` — names of JSON files, told by their characters.
-/

/-- In every directory of the tree each name stands once. -/
inductive FileTree.HasOwnNames : FileTree → Prop
  | file (content : ByteArray) : HasOwnNames (.file content)
  | link (target : Path) : HasOwnNames (.link target)
  | directory {entries : Entries} (hnames : (entries.map Prod.fst).Nodup)
      (hbelow : ∀ entry ∈ entries, HasOwnNames entry.2) : HasOwnNames (.directory entries)

/-! ### Entries -/

/-- The entry of a name is there under this name. -/
theorem mem_of_entryNamed? {name : String} {tree : FileTree} {entries : Entries}
    (h : entryNamed? name entries = some tree) : (name, tree) ∈ entries := by
  induction entries with
  | nil => simp [entryNamed?] at h
  | cons entry rest ih =>
    obtain ⟨other, first⟩ := entry
    rw [entryNamed?] at h
    split at h
    · next heq =>
      obtain rfl := Option.some.inj h
      rw [heq]
      exact List.mem_cons_self
    · exact List.mem_cons_of_mem _ (ih h)

/-- Where each name stands once, what is there under a name is the entry of the name. -/
theorem entryNamed?_eq_some_iff {name : String} {tree : FileTree} {entries : Entries}
    (hnames : (entries.map Prod.fst).Nodup) :
    entryNamed? name entries = some tree ↔ (name, tree) ∈ entries := by
  refine ⟨mem_of_entryNamed?, fun hmem => ?_⟩
  induction entries with
  | nil => simp at hmem
  | cons entry rest ih =>
    obtain ⟨other, first⟩ := entry
    rw [List.map_cons, List.nodup_cons] at hnames
    rw [entryNamed?]
    rcases List.mem_cons.mp hmem with heq | hrest
    · obtain ⟨rfl, rfl⟩ := Prod.mk.inj heq
      exact if_pos rfl
    · have hother : other ≠ name := by
        rintro rfl
        exact hnames.1 (List.mem_map.mpr ⟨(other, tree), hrest, rfl⟩)
      rw [if_neg hother, ih hnames.2 hrest]

/-- Setting an entry changes no name, and adds the name if it is new. -/
theorem map_fst_setEntry (name : String) (tree : FileTree) (entries : Entries) :
    (setEntry name tree entries).map Prod.fst =
      if name ∈ entries.map Prod.fst then entries.map Prod.fst
      else entries.map Prod.fst ++ [name] := by
  induction entries with
  | nil => rfl
  | cons entry rest ih =>
    obtain ⟨other, first⟩ := entry
    rw [setEntry]
    by_cases heq : other = name
    · simp [heq]
    · rw [if_neg heq, List.map_cons, ih]
      by_cases hmem : name ∈ rest.map Prod.fst <;> simp [hmem, Ne.symm heq]

/-- After an entry has been set there are the old entries and this one. -/
theorem mem_setEntry {name : String} {tree : FileTree} {entries : Entries}
    {entry : String × FileTree} (h : entry ∈ setEntry name tree entries) :
    entry ∈ entries ∨ entry = (name, tree) := by
  induction entries with
  | nil => exact .inr (List.mem_singleton.mp h)
  | cons first rest ih =>
    obtain ⟨other, old⟩ := first
    rw [setEntry] at h
    split at h
    · next heq =>
      subst heq
      rcases List.mem_cons.mp h with rfl | hrest
      · exact .inr rfl
      · exact .inl (List.mem_cons_of_mem _ hrest)
    · rcases List.mem_cons.mp h with rfl | hrest
      · exact .inl List.mem_cons_self
      · exact (ih hrest).imp_left (List.mem_cons_of_mem _)

namespace FileTree

/-! ### Places -/

/-- What lies in a tree with names of their own has such names itself. -/
theorem HasOwnNames.at? {tree : FileTree} (h : tree.HasOwnNames) {place : Path}
    {below : FileTree} (hbelow : tree.at? place = some below) : below.HasOwnNames := by
  induction place generalizing tree with
  | nil =>
    obtain rfl : tree = below := by simpa [FileTree.at?] using hbelow
    exact h
  | cons name rest ih =>
    cases h with
    | file content => simp [FileTree.at?] at hbelow
    | link target => simp [FileTree.at?] at hbelow
    | directory hnames hentries =>
      rw [FileTree.at?] at hbelow
      split at hbelow
      · next next hnext => exact ih (hentries _ (mem_of_entryNamed? hnext)) hbelow
      · simp at hbelow

/-- What a path leads to in a tree with names of their own has such names itself. -/
theorem HasOwnNames.find? {tree : FileTree} (h : tree.HasOwnNames) {path : Path}
    {below : FileTree} (hbelow : tree.find? path = some below) : below.HasOwnNames := by
  obtain ⟨place, -, hat⟩ := Option.bind_eq_some_iff.mp hbelow
  exact h.at? hat

/-! ### Changes -/

theorem hasOwnNames_empty : (FileTree.directory []).HasOwnNames := .directory .nil (by simp)

/-- Whatever is put into a tree, names stay apart. -/
theorem HasOwnNames.put {added tree : FileTree} (hadded : added.HasOwnNames)
    (h : tree.HasOwnNames) (place : Path) : (put added place tree).HasOwnNames := by
  induction place generalizing tree with
  | nil => exact hadded
  | cons name rest ih =>
    have hsingle :
        (FileTree.directory [(name, FileTree.put added rest (.directory []))]).HasOwnNames :=
      .directory (List.nodup_singleton _) (by simpa using ih hasOwnNames_empty)
    cases h with
    | file content => exact hsingle
    | link target => exact hsingle
    | @directory entries hnames hentries =>
      -- what lies further down goes into the entry of the name, or into a new directory
      have hold : ((entryNamed? name entries).getD (.directory [])).HasOwnNames := by
        cases hentry : entryNamed? name entries with
        | none => exact hasOwnNames_empty
        | some old => exact hentries _ (mem_of_entryNamed? hentry)
      refine .directory ?_ fun entry hentry => ?_
      · rw [map_fst_setEntry]
        split
        · exact hnames
        · next hnew => exact hnames.append (List.nodup_singleton _) (by simpa using hnew)
      · rcases mem_setEntry hentry with hmem | rfl
        · exact hentries entry hmem
        · exact ih hold

theorem HasOwnNames.withNew {added tree : FileTree} (hadded : added.HasOwnNames)
    (h : tree.HasOwnNames) (path : Path) : (tree.withNew path added).HasOwnNames := by
  unfold FileTree.withNew
  split
  · split
    · exact h
    · exact hadded.put h _
  · exact h

theorem HasOwnNames.withDirectories {tree : FileTree} (h : tree.HasOwnNames) (path : Path) :
    (tree.withDirectories path).HasOwnNames := by
  unfold FileTree.withDirectories
  induction List.range (path.length + 1) generalizing tree with
  | nil => exact h
  | cons n rest ih =>
    exact ih (hasOwnNames_empty.withNew h (path.take n))

theorem HasOwnNames.withFile {tree : FileTree} (h : tree.HasOwnNames) (path : Path)
    (content : ByteArray) : (tree.withFile path content).HasOwnNames := by
  have hdirectories := h.withDirectories path.dropLast
  simp only [FileTree.withFile]
  split
  · split
    · exact hdirectories
    · exact (HasOwnNames.file content).put hdirectories _
  · exact hdirectories

theorem HasOwnNames.withLink {tree : FileTree} (h : tree.HasOwnNames) (path target : Path) :
    (tree.withLink path target).HasOwnNames :=
  (HasOwnNames.link target).withNew (h.withDirectories path.dropLast) path

end FileTree

/-! ### Names of JSON files -/

/-- A name with `json` in any case behind its last point, and something before it. -/
def IsJsonNamed (name : String) : Prop :=
  ∃ stem ext, name.toList = stem ++ '.' :: ext ∧ stem ≠ [] ∧ '.' ∉ ext ∧
    ext.map Char.toLower = ['j', 's', 'o', 'n']

/-- The extension of a name stands behind its last point, if that is not at the start. -/
theorem extension?_eq_some_iff {name ext : String} :
    extension? name = some ext ↔
      ∃ stem, name.toList = stem ++ '.' :: ext.toList ∧ stem ≠ [] ∧ '.' ∉ ext.toList := by
  unfold extension?
  constructor
  · intro h
    simp only at h
    split at h
    · next d more hdrop =>
      obtain rfl := Option.some.inj h
      refine ⟨(d :: more).reverse, ?_, by simp, ?_⟩
      · have hsplit := List.takeWhile_append_dropWhile (p := fun c => decide (c ≠ '.'))
          (l := name.toList.reverse)
        rw [hdrop] at hsplit
        have := congrArg List.reverse hsplit
        simpa using this.symm
      · intro hmem
        have := List.mem_takeWhile_imp (by simpa using hmem)
        simp at this
    · simp at h
  · rintro ⟨stem, hname, hstem, hext⟩
    -- read backwards, the extension ends at the first point, and `last` comes behind it
    obtain ⟨front, last, rfl⟩ := List.eq_nil_or_concat' stem |>.resolve_left hstem
    have hpoint : ∀ c ∈ ext.toList.reverse, decide (c ≠ '.') = true := by
      intro c hc
      have : c ≠ '.' := by
        rintro rfl
        exact hext (List.mem_reverse.mp hc)
      simpa using this
    have hreversed : name.toList.reverse
        = ext.toList.reverse ++ '.' :: last :: front.reverse := by
      rw [hname]
      simp
    simp only [hreversed, List.dropWhile_append_of_pos hpoint,
      List.takeWhile_append_of_pos hpoint]
    simp

theorem isJsonName_iff {name : String} : isJsonName name = true ↔ IsJsonNamed name := by
  have hextension : isJsonName name = true ↔
      ∃ ext, extension? name = some ext ∧ ext.toList.map Char.toLower = ['j', 's', 'o', 'n'] := by
    unfold isJsonName
    cases extension? name <;> simp
  simp only [hextension, extension?_eq_some_iff]
  constructor
  · rintro ⟨ext, ⟨stem, hname, hstem, hpoint⟩, hjson⟩
    exact ⟨stem, ext.toList, hname, hstem, hpoint, hjson⟩
  · rintro ⟨stem, ext, hname, hstem, hpoint, hjson⟩
    exact ⟨String.ofList ext, ⟨stem, by simpa using hname, hstem, by simpa using hpoint⟩,
      by simpa using hjson⟩

end BilingualLessons.Loading
