import BilingualLessons.Proofs.Loading.Collections
import BilingualLessons.Proofs.Loading.Walk
import Mathlib.Data.List.Forall2

namespace BilingualLessons.Loading

/-!
# Sources that are directories

* `IsCollection` — values that hold a list of records, told by their shape.
* `Gives` — what is to come of a file, `gives_readFile` — and what comes of it.
* `readFiles_eq` — several files give what each of them gives, in their order.
* `directories_are_read_file_by_file` — a source that is a directory reads every JSON file below
  it once, in the order of the paths.
-/

/-! ### What a file gives -/

/-- The items of a value that is a collection of records: the elements of an array, and of an object
    the elements of the array under `templates`. Where no array is under this key, they are those of
    the array under `concepts`. -/
inductive IsCollection : Json → List Json → Prop
  | array {items : List Json} : IsCollection (.array items) items
  | templates {fields : Fields} {items : List Json}
      (htemplates : fields.get? "templates" = some (.array items)) :
      IsCollection (.object fields) items
  | concepts {fields : Fields} {items : List Json}
      (hnone : ∀ others, fields.get? "templates" ≠ some (.array others))
      (hconcepts : fields.get? "concepts" = some (.array items)) :
      IsCollection (.object fields) items

/-- A collection is found in what is one. -/
theorem collection?_eq_some_iff {v : Json} {items : List Json} :
    collection? v = some items ↔ IsCollection v items := by
  constructor
  · intro h
    cases v with
    | array elements =>
      obtain rfl : elements = items := by simpa [collection?] using h
      exact .array
    | object fields =>
      -- the keys are tried in turn, so an array under the second one counts if the first has none
      cases htemplates : arrayAt? fields "templates" with
      | some first =>
        obtain rfl : first = items := by simpa [collection?, collectionKeys, htemplates] using h
        exact .templates (arrayAt?_eq_some_iff.mp htemplates)
      | none =>
        have hconcepts : arrayAt? fields "concepts" = some items := by
          simpa [collection?, collectionKeys, htemplates] using h
        refine .concepts (fun others hothers => ?_) (arrayAt?_eq_some_iff.mp hconcepts)
        rw [arrayAt?_eq_some_iff.mpr hothers] at htemplates
        cases htemplates
    | _ => simp [collection?] at h
  · intro h
    cases h with
    | array => rfl
    | templates htemplates =>
      simp [collection?, collectionKeys, arrayAt?_eq_some_iff.mpr htemplates]
    | @concepts fields _ hnone hconcepts =>
      have htemplates : arrayAt? fields "templates" = none := by
        refine Option.eq_none_iff_forall_ne_some.mpr fun others hothers => ?_
        exact hnone others (arrayAt?_eq_some_iff.mp hothers)
      simp [collection?, collectionKeys, htemplates, arrayAt?_eq_some_iff.mpr hconcepts]

theorem collection?_eq_none_iff {v : Json} :
    collection? v = none ↔ ∀ items, ¬ IsCollection v items := by
  rw [Option.eq_none_iff_forall_ne_some]
  exact forall_congr' fun items => not_congr collection?_eq_some_iff

/-- What is to come of a file: one fault if its content is not JSON in text, and else the records of
    the value it holds, all under the path of the file. The items of a collection are numbered from
    zero in the order in which they stand; a value that is no collection is a record itself. -/
inductive Gives (origin : String) (content : ByteArray) : List RawRecord → List LoadFault → Prop
  | unreadable (htext : textOf? content = none) : Gives origin content [] [⟨origin, .unreadable⟩]
  | unparsable {text : String} {fault : Json.ReadFault} (htext : textOf? content = some text)
      (hread : Json.read text.toList = .error fault) :
      Gives origin content [] [⟨origin, .unparsable fault.reason (fault.line text.toList)⟩]
  | single {text : String} {v : Json} (htext : textOf? content = some text)
      (hread : Json.read text.toList = .ok v) (hsingle : ∀ items, ¬ IsCollection v items) :
      Gives origin content [⟨origin, v⟩] []
  | collection {text : String} {v : Json} {items : List Json} (htext : textOf? content = some text)
      (hread : Json.read text.toList = .ok v) (hitems : IsCollection v items) :
      Gives origin content (items.mapIdx fun i item => ⟨s!"{origin}#{i}", item⟩) []

/-- A file gives its records or one fault. -/
theorem gives_readFile (origin : String) (content : ByteArray) :
    Gives origin content (readFile origin content).records (readFile origin content).faults := by
  unfold readFile
  cases htext : textOf? content with
  | none => exact .unreadable htext
  | some text =>
    cases hread : Json.read text.toList with
    | error fault => simpa [hread] using Gives.unparsable htext hread
    | ok v =>
      simp only [hread, members]
      cases hitems : collection? v with
      | none => exact .single htext hread (collection?_eq_none_iff.mp hitems)
      | some items =>
        have hgives : Gives origin content _ [] :=
          .collection htext hread (collection?_eq_some_iff.mp hitems)
        simpa [numbered, List.mapIdx_eq_zipIdx_map] using hgives

section

variable {origin : String} {content : ByteArray} {records : List RawRecord}
  {faults : List LoadFault}

/-- What is to come of a file is what comes of it. -/
theorem Gives.eq_readFile (h : Gives origin content records faults) :
    (records, faults) = ((readFile origin content).records, (readFile origin content).faults) := by
  unfold readFile
  cases h with
  | unreadable htext => simp [htext]
  | unparsable htext hread => simp [htext, hread]
  | single htext hread hsingle =>
    simp [htext, hread, members, collection?_eq_none_iff.mpr hsingle]
  | collection htext hread hitems =>
    simp [htext, hread, members, collection?_eq_some_iff.mpr hitems, numbered,
      List.mapIdx_eq_zipIdx_map]

/-- What is to come of a file is one thing only. -/
theorem Gives.part_eq {part : List RawRecord × List LoadFault}
    (hpart : Gives origin content part.1 part.2) (h : Gives origin content records faults) :
    part = (records, faults) :=
  hpart.eq_readFile.trans h.eq_readFile.symm

end

theorem filesProcessed_readFile (origin : String) (content : ByteArray) :
    (readFile origin content).filesProcessed = 1 := by
  unfold readFile
  split
  · rfl
  · simp only
    split <;> rfl

/-- Several files give what each of them gives, one behind the other. -/
theorem readFiles_eq (files : List (String × ByteArray)) :
    readFiles files = {
      records := files.flatMap fun (origin, content) => (readFile origin content).records
      faults := files.flatMap fun (origin, content) => (readFile origin content).faults
      filesProcessed := files.length } := by
  induction files with
  | nil => rfl
  | cons file rest ih =>
    obtain ⟨origin, content⟩ := file
    have hcons : readFiles ((origin, content) :: rest)
        = (readFile origin content).append (readFiles rest) := rfl
    rw [hcons, ih, Batch.append, filesProcessed_readFile, List.length_cons, Nat.add_comm]
    rfl

/-! ### What a directory gives -/

/-- A source that is a directory reads its JSON files in order. -/
theorem fetch_directory {volume : Volume} {path : String} {entries : Entries}
    (hroot : volume.tree.find? (Path.ofText path) = some (.directory entries)) :
    (Source.directory volume path).fetch = .ok (readFiles ((jsonFiles entries).map fun file =>
      (volume.displayBelow path file.1, file.2))) := by
  simp only [Source.fetch, hroot]

/-- **Directories.** Where a path leads to a directory, a source that is this directory reads the
    JSON files that lie below it, links not followed: each of them once, in ascending order of
    their paths, name by name. Each gives its records or one fault, and what they give comes in
    their order. Nothing else that is in the tree matters, nor how its directories are listed. -/
theorem directories_are_read_file_by_file (volume : Volume) (path : String) {entries : Entries}
    (hnames : volume.tree.HasOwnNames)
    (hroot : volume.tree.find? (Path.ofText path) = some (.directory entries)) :
    ∃ (files : List (Path × ByteArray)) (parts : List (List RawRecord × List LoadFault)),
      (∀ below content, (below, content) ∈ files ↔
        IsJsonPath below ∧ (FileTree.directory entries).at? below = some (.file content)) ∧
      files.Pairwise (fun file next => file.1 < next.1) ∧
      List.Forall₂ (fun file part =>
        Gives (volume.displayBelow path file.1) file.2 part.1 part.2) files parts ∧
      (Source.directory volume path).fetch = .ok {
        records := parts.flatMap (·.1)
        faults := parts.flatMap (·.2)
        filesProcessed := files.length } ∧
      ∀ (other : Volume) (others : Entries), other.tree.HasOwnNames → other.root = volume.root →
        other.tree.find? (Path.ofText path) = some (.directory others) →
        (∀ below content, (FileTree.directory others).at? below = some (.file content) ↔
          (FileTree.directory entries).at? below = some (.file content)) →
        (Source.directory other path).fetch = (Source.directory volume path).fetch := by
  have hentries : (FileTree.directory entries).HasOwnNames := hnames.find? hroot
  let part := fun file : Path × ByteArray =>
    let batch := readFile (volume.displayBelow path file.1) file.2
    (batch.records, batch.faults)
  refine ⟨jsonFiles entries, (jsonFiles entries).map part, mem_jsonFiles_iff hentries,
    pairwise_jsonFiles hentries, ?_, ?_, ?_⟩
  · rw [List.forall₂_map_right_iff, List.forall₂_same]
    exact fun file _ => gives_readFile _ _
  · rw [fetch_directory hroot, readFiles_eq]
    simp [List.flatMap_map, part]
  · -- the order of listing is gone once the files are sorted, and the rest is in their paths
    intro other others hnames' hname hroot' hfiles
    have hsame : jsonFiles others = jsonFiles entries :=
      jsonFiles_congr hentries (hnames'.find? hroot') hfiles
    have hdisplay : ∀ below, other.displayBelow path below = volume.displayBelow path below := by
      intro below
      rw [Volume.displayBelow, Volume.displayBelow, Volume.display, Volume.display, hname]
    rw [fetch_directory hroot', fetch_directory hroot, hsame]
    simp only [hdisplay]

/-- A directory that is reached through a link in it. Each of its files is read where it lies, and
    neither by way of that link nor under the name of the other one: the items of an array and those
    of an object come with their numbers, any other value comes as it is, and a file without text
    gives a fault. -/
theorem directories_are_read_file_by_file_behind_a_link :
    let word := "\"Haus\""
    let list := "[1, \x7b\x7d]"
    let concepts := "\x7b\"concepts\": [\"articles\"], \"templates\": null\x7d"
    let damaged : ByteArray := ⟨#[255]⟩
    let tree := ((((((FileTree.directory []).withFile ["word.json"] word.toUTF8).withFile
      ["a", "list.JSON"] list.toUTF8).withFile ["a", "concepts.json"] concepts.toUTF8).withFile
      ["damaged.json"] damaged).withLink ["loop"] []).withLink ["alias.json"] ["a", "list.JSON"]
    let entries : Entries := [("word.json", .file word.toUTF8),
      ("a", .directory [("list.JSON", .file list.toUTF8),
        ("concepts.json", .file concepts.toUTF8)]),
      ("damaged.json", .file damaged), ("loop", .link []), ("alias.json", .link ["a", "list.JSON"])]
    tree.HasOwnNames ∧ tree.find? (Path.ofText "loop") = some (.directory entries) ∧
    (Source.directory ⟨"data", tree⟩ "loop").fetch = .ok {
      records := [⟨"data/loop/a/concepts.json#0", .string "articles"⟩,
        ⟨"data/loop/a/list.JSON#0", .number (.whole 1)⟩, ⟨"data/loop/a/list.JSON#1", .object []⟩,
        ⟨"data/loop/word.json", .string "Haus"⟩]
      faults := [⟨"data/loop/damaged.json", .unreadable⟩]
      filesProcessed := 4 } := by
  intro word list concepts damaged tree entries
  have hnames : tree.HasOwnNames :=
    (((((FileTree.hasOwnNames_empty.withFile _ _).withFile _ _).withFile _ _).withFile
      _ _).withLink _ _).withLink _ _
  have htree : tree = .directory entries := by
    simp [tree, entries, FileTree.withFile, FileTree.withLink, FileTree.withDirectories,
      FileTree.withNew, FileTree.slot?, FileTree.place?, FileTree.placeFrom?, FileTree.maxLinks,
      FileTree.put, FileTree.at?, setEntry, entryNamed?, List.range_succ]
  have hpath : Path.ofText "loop" = ["loop"] := by decide
  have hroot : tree.find? (Path.ofText "loop") = some (.directory entries) := by
    rw [htree, hpath]
    simp [entries, FileTree.find?, FileTree.place?, FileTree.placeFrom?, FileTree.maxLinks,
      FileTree.at?, entryNamed?]
  obtain ⟨files, parts, hfiles, hsorted, hparts, hfetch, -⟩ :=
    directories_are_read_file_by_file ⟨"data", tree⟩ "loop" hnames hroot
  -- which files there are and that they ascend leaves one list of files
  have hbelow : filesIn entries = [(["word.json"], word.toUTF8), (["a", "list.JSON"], list.toUTF8),
      (["a", "concepts.json"], concepts.toUTF8), (["damaged.json"], damaged)] := by decide +kernel
  have hread : files = [(["a", "concepts.json"], concepts.toUTF8),
      (["a", "list.JSON"], list.toUTF8), (["damaged.json"], damaged),
      (["word.json"], word.toUTF8)] := by
    refine files_eq_of_mem_iff hsorted (by decide) ?_
    rintro ⟨below, content⟩
    rw [hfiles, ← mem_filesIn_iff (hnames.find? hroot), hbelow]
    exact List.Perm.mem_iff (by decide +kernel)
  rw [hread] at hparts hfetch
  -- and what each of them is to give is in its content
  obtain _ | ⟨hconcepts, _ | ⟨hlist, _ | ⟨hdamaged, _ | ⟨hword, _ | _⟩⟩⟩⟩ := hparts
  have htext : textOf? concepts.toUTF8 = some concepts ∧ textOf? list.toUTF8 = some list ∧
      textOf? damaged = none ∧ textOf? word.toUTF8 = some word := by decide +kernel
  obtain ⟨htextConcepts, htextList, htextDamaged, htextWord⟩ := htext
  have hobject : Json.read concepts.toList =
      .ok (.object [("concepts", .array [.string "articles"]), ("templates", .null)]) := by
    decide +kernel
  have harray : Json.read list.toList = .ok (.array [.number (.whole 1), .object []]) := by
    decide +kernel
  have hstring : Json.read word.toList = .ok (.string "Haus") := by decide +kernel
  have hitems : IsCollection (.object [("concepts", .array [.string "articles"]),
      ("templates", .null)]) [.string "articles"] :=
    .concepts (fun others h => by cases h) rfl
  rw [hconcepts.part_eq (.collection htextConcepts hobject hitems),
    hlist.part_eq (.collection htextList harray .array),
    hdamaged.part_eq (.unreadable htextDamaged),
    hword.part_eq (.single htextWord hstring (fun items h => by cases h))] at hfetch
  refine ⟨hnames, hroot, hfetch.trans ?_⟩
  simp only [Except.ok.injEq, Batch.mk.injEq]
  exact ⟨by decide +kernel, by decide +kernel, rfl⟩

end BilingualLessons.Loading
