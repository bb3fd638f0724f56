import BilingualLessons.Template.Render
import BilingualLessons.Proofs.Template.MergedScope

namespace BilingualLessons.Template

/-!
# What rendering reads of a scope

A template reads a scope at the paths of its tags and nowhere else, each path by two keys at most:
the whole path, and the part before its first point.

* `lookupKeys` — the keys that a path is looked up by.
* `pathsOf` — the paths of nodes, those of nested blocks included.
* `AgreeOn` — scopes that bind the keys of some paths alike.
* `renderNodes_congr` — where the scopes agree on the paths of nodes, the nodes render alike.
-/

/-! ### Keys and paths -/

/-- The keys that a path is looked up by: the path, and the part before its first point. -/
def lookupKeys (path : String) : List String :=
  match splitFirst? path.toList with
  | none => [path]
  | some (head, _) => [path, String.ofList head]

theorem mem_lookupKeys (path : String) : path ∈ lookupKeys path := by
  unfold lookupKeys
  split <;> simp

/-- A path with a point is looked up by the part before it. -/
theorem head_mem_lookupKeys {path : String} {head tail : List Char}
    (h : splitFirst? path.toList = some (head, tail)) : String.ofList head ∈ lookupKeys path := by
  simp [lookupKeys, h]

/-- Scopes that bind the keys of a path alike give it the same value. -/
theorem resolve_congr {scope scope' : Scope} {path : String}
    (h : ∀ key ∈ lookupKeys path, scope.lookup key = scope'.lookup key) :
    scope.resolve path = scope'.resolve path := by
  unfold Scope.resolve
  rw [h path (mem_lookupKeys path)]
  -- without a point the path is its only key
  cases hsplit : splitFirst? path.toList with
  | none => rfl
  | some parts =>
    obtain ⟨head, tail⟩ := parts
    simp only [h _ (head_mem_lookupKeys hsplit)]

mutual

/-- The paths of a node, those of the blocks inside it included. -/
def Node.paths : Node → List String
  | .text _ => []
  | .substitution path _ => [path]
  | .conditional _ path _ positive otherwise => path :: (pathsOf positive ++ pathsOf otherwise)
  | .each path _ body => path :: pathsOf body

/-- The paths of nodes, one after the other. -/
def pathsOf : List Node → List String
  | [] => []
  | node :: rest => node.paths ++ pathsOf rest

end

/-! ### Agreement -/

/-- The scopes bind the keys of all these paths alike. -/
def AgreeOn (paths : List String) (scope scope' : Scope) : Prop :=
  ∀ path ∈ paths, ∀ key ∈ lookupKeys path, scope.lookup key = scope'.lookup key

section

variable {paths : List String} {scope scope' : Scope}

theorem AgreeOn.resolve (h : AgreeOn paths scope scope') {path : String} (hp : path ∈ paths) :
    scope.resolve path = scope'.resolve path :=
  resolve_congr (h path hp)

theorem AgreeOn.subset {more : List String} (h : AgreeOn more scope scope') (hs : paths ⊆ more) :
    AgreeOn paths scope scope' :=
  fun path hp => h path (hs hp)

/-- Scopes that agree still do with a frame before each. -/
theorem AgreeOn.cons (h : AgreeOn paths scope scope') (frame : Frame) :
    AgreeOn paths (frame :: scope) (frame :: scope') := by
  intro path hp key hkey
  rw [lookup_cons, lookup_cons, h path hp key hkey]

end

/-! ### Rendering -/

theorem renderPath_congr {scope scope' : Scope} {path : String}
    (h : scope.resolve path = scope'.resolve path) (line : Nat) :
    renderPath scope path line = renderPath scope' path line := by
  unfold renderPath
  rw [h]

mutual

/-- **Agreement**, for one node. -/
theorem Node.render_congr {scope scope' : Scope} (node : Node)
    (h : AgreeOn node.paths scope scope') : node.render scope = node.render scope' := by
  cases node with
  | text literal => simp only [Node.render]
  | substitution path line =>
    have hpath : scope.resolve path = scope'.resolve path := h.resolve (by simp [Node.paths])
    rw [Node.render, Node.render, renderPath_congr hpath]
  | conditional negated path line positive otherwise =>
    have hpath : scope.resolve path = scope'.resolve path := h.resolve (by simp [Node.paths])
    have hpositive := renderNodes_congr positive (h.subset (by simp [Node.paths]))
    have hotherwise := renderNodes_congr otherwise (h.subset (by simp [Node.paths]))
    rw [Node.render, Node.render, hpath, hpositive, hotherwise]
  | each path line body =>
    have hpath : scope.resolve path = scope'.resolve path := h.resolve (by simp [Node.paths])
    -- both loops run over the same elements, and the frame of a turn is the same in both
    have hbody : AgreeOn (pathsOf body) scope scope' := h.subset (by simp [Node.paths])
    have hturn : ∀ frame, renderNodes (frame :: scope) body = renderNodes (frame :: scope') body :=
      fun frame => renderNodes_congr body (hbody.cons frame)
    simp only [Node.render, hpath, hturn]

/-- **Agreement.** Scopes that agree on the paths of nodes render them alike, faults included. -/
theorem renderNodes_congr {scope scope' : Scope} (nodes : List Node)
    (h : AgreeOn (pathsOf nodes) scope scope') :
    renderNodes scope nodes = renderNodes scope' nodes := by
  cases nodes with
  | nil => simp only [renderNodes]
  | cons node rest =>
    have hnode := Node.render_congr node (h.subset (by simp [pathsOf]))
    have hrest := renderNodes_congr rest (h.subset (by simp [pathsOf]))
    rw [renderNodes, renderNodes, hnode, hrest]

end

end BilingualLessons.Template
