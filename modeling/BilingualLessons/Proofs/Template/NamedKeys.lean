import BilingualLessons.Proofs.Template.BlockSource
import BilingualLessons.Proofs.Template.TokenContents

namespace BilingualLessons.Template

/-!
# The keys that a source names

Of a context a source reads the values under the paths of its tags and under the first segments of
these paths, and no others, however its blocks are nested.

* `tagPaths` — the paths in the tags of a source.
* `firstSegment` — the part of a path before its first point, or all of it.
* `agreeOn_of_named` — contexts that hold the same under these keys agree on the nodes of the
  source.
* `rendering_reads_named_keys_only` — the source renders alike in both.
-/

/-- The paths in the tags of a source, one after the other; none if a tag cannot be read. -/
def tagPaths (source : String) : List String :=
  match tokenize source with
  | .ok tokens => tokenPaths tokens
  | .error _ => []

/-- The first of the segments that the points of a path separate. -/
def firstSegment (path : String) : String :=
  String.ofList ((segments path.toList).headD [])

/-- What stands before the first point is the first segment. -/
theorem segments_of_splitFirst? {cs head tail : List Char}
    (h : splitFirst? cs = some (head, tail)) : segments cs = head :: segments tail := by
  -- for all heads: each character that is no point is one more character of the head
  induction cs generalizing head with
  | nil => exact absurd h (by simp [splitFirst?])
  | cons c rest ih =>
    rw [splitFirst?] at h
    split at h
    · next hpoint =>
      obtain ⟨rfl, rfl⟩ := Prod.mk.inj (Option.some.inj h)
      rw [hpoint, segments_point]
    · next hpoint =>
      obtain ⟨⟨first, behind⟩, hrest, heq⟩ := Option.map_eq_some_iff.mp h
      obtain ⟨rfl, rfl⟩ := Prod.mk.inj heq
      rw [segments, if_neg hpoint, ih hrest]

/-- A path is looked up by the whole of it and by its first segment only. -/
theorem lookupKeys_subset (path : String) : lookupKeys path ⊆ [path, firstSegment path] := by
  unfold lookupKeys firstSegment
  split
  · simp
  · next head tail hsplit => simp [segments_of_splitFirst? hsplit]

/-- A scope that is a single map binds what the map holds. -/
theorem lookup_values (fields : Fields) (key : String) :
    Scope.lookup [.values fields] key = Fields.get? key fields := by
  rw [lookup_cons]
  exact Option.or_none

/-- Maps that hold the same under the keys that a source names agree on its nodes. -/
theorem agreeOn_of_named {limit : Nat} {body : String} {nodes : List Node}
    (hparse : parse limit body = .ok nodes) {fields fields' : Fields}
    (h : ∀ path ∈ tagPaths body, ∀ key ∈ [path, firstSegment path],
      Fields.get? key fields = Fields.get? key fields') :
    AgreeOn (pathsOf nodes) [.values fields] [.values fields'] := by
  obtain ⟨tokens, htokens, hwritten, _⟩ := exists_written_of_parse hparse
  have hpaths : pathsOf nodes = tagPaths body := by
    rw [pathsOf_of_written hwritten, tagPaths, htokens]
  -- a scope looks a path up under two keys at most, and the maps agree under both
  intro path hpath key hkey
  rw [lookup_values, lookup_values]
  exact h path (hpaths ▸ hpath) key (lookupKeys_subset path hkey)

/-- **Rendering reads named keys only.** Two contexts that hold the same, or both nothing, under
    every path in a tag of a source and under the first segment of every such path render the
    source alike, faults included. -/
theorem rendering_reads_named_keys_only (limit : Nat) (body : String) (context context' : Context)
    (h : ∀ path ∈ tagPaths body, ∀ key ∈ [path, firstSegment path],
      Fields.get? key context.values = Fields.get? key context'.values) :
    renderBody limit body context = renderBody limit body context' := by
  unfold renderBody
  cases hparse : parse limit body with
  | error fault => rfl
  | ok nodes => exact renderNodes_congr nodes (agreeOn_of_named hparse h)

/-- A loop whose turns read a field, a dotted path and a value of the context: a theme that no tag
    names does not matter, nor what else there is. -/
theorem rendering_reads_named_keys_only_in_a_loop :
    let body := openTag .each "words" ++ (tagText "user.name" ++ tagText "de") ++ closeTag .each
    let words := Json.array [.object [("de", .string "ja")], .object []]
    let user := Json.object [("name", .string "Ana")]
    let context : Context := ⟨[("theme", .string "food"), ("user", user), ("words", words)]⟩
    let context' : Context := ⟨[("user", user), ("user.age", .null), ("words", words)]⟩
    tagPaths body = ["words", "user.name", "de"] ∧
    (∀ path ∈ tagPaths body, ∀ key ∈ [path, firstSegment path],
      Fields.get? key context.values = Fields.get? key context'.values) ∧
    renderBody 1 body context = renderBody 1 body context' ∧
    renderBody 1 body context' = .error (.undefinedVariable "de" 1) := by
  intro body words user context context'
  have hpaths : tagPaths body = ["words", "user.name", "de"] := by decide +kernel
  have hsame : ∀ path ∈ tagPaths body, ∀ key ∈ [path, firstSegment path],
      Fields.get? key context.values = Fields.get? key context'.values := by
    rw [hpaths]
    decide +kernel
  exact ⟨hpaths, hsame, rendering_reads_named_keys_only 1 body context context' hsame,
    by decide +kernel⟩

end BilingualLessons.Template
