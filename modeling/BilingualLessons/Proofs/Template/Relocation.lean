import BilingualLessons.Template.Render
import BilingualLessons.Proofs.Template.Reading
import BilingualLessons.Proofs.Template.TokenJoin

namespace BilingualLessons.Template

/-!
# Templates further down

Lines are only ever reported: reading and rendering do nothing else with them.  Tokens that stand
some lines further down give the same nodes, the same text and the same fault, as many lines
further down.

* `Node.shift`, `shiftNodes` — nodes further down.
* `parseTokens_shift` — parsing commutes with moving down.
* `renderNodes_shift` — so does rendering.
-/

mutual

/-- The node `lines` lines further down. -/
def Node.shift (lines : Nat) : Node → Node
  | .text literal => .text literal
  | .substitution path line => .substitution path (line + lines)
  | .conditional negated path line positive otherwise =>
    .conditional negated path (line + lines) (shiftNodes lines positive)
      (shiftNodes lines otherwise)
  | .each path line body => .each path (line + lines) (shiftNodes lines body)

/-- The nodes `lines` lines further down. -/
def shiftNodes (lines : Nat) : List Node → List Node
  | [] => []
  | node :: rest => node.shift lines :: shiftNodes lines rest

end

theorem shiftNodes_eq_map (lines : Nat) (nodes : List Node) :
    shiftNodes lines nodes = nodes.map (Node.shift lines) := by
  induction nodes with
  | nil => rfl
  | cons node rest ih => rw [shiftNodes, ih, List.map_cons]

theorem shiftNodes_reverse (lines : Nat) (nodes : List Node) :
    shiftNodes lines nodes.reverse = (shiftNodes lines nodes).reverse := by
  simp only [shiftNodes_eq_map, List.map_reverse]

/-! ### Reading -/

/-- A step behind a result that was moved down. -/
theorem movedBy_bind {α β : Type} {lines : Nat} {move : α → α} {move' : β → β}
    {f g : α → Except Fault β} (h : ∀ a, g (move a) = movedBy lines move' (f a))
    (x : Except Fault α) : (movedBy lines move x >>= g) = movedBy lines move' (x >>= f) := by
  cases x with
  | error fault => rfl
  | ok a => exact h a

/-- The open block `lines` lines further down. -/
def OpenBlock.shift (lines : Nat) (block : OpenBlock) : OpenBlock :=
  ⟨block.kind, block.path, block.line + lines, shiftNodes lines block.before,
    block.positive.map (shiftNodes lines)⟩

/-- What has been read, `lines` lines further down. -/
def Reading.shift (lines : Nat) (reading : Reading) : Reading :=
  ⟨reading.stack.map (OpenBlock.shift lines), shiftNodes lines reading.done⟩

theorem close_shift (lines : Nat) (block : OpenBlock) (body : List Node) :
    (block.shift lines).close (shiftNodes lines body) = (block.close body).shift lines := by
  obtain ⟨kind, path, line, before, positive⟩ := block
  cases kind <;> cases positive <;> rfl

theorem read_shift (limit lines : Nat) (reading : Reading) (token : Token) :
    (reading.shift lines).read limit (token.shift lines)
      = movedBy lines (Reading.shift lines) (reading.read limit token) := by
  obtain ⟨stack, done⟩ := reading
  obtain ⟨kind, line⟩ := token
  -- no test of the reader looks at a line
  cases kind with
  | text literal => rfl
  | substitution path => rfl
  | opener kind path =>
    simp only [Reading.shift, Token.shift, Reading.read, List.length_map]
    split <;> rfl
  | alternative =>
    cases stack with
    | nil => rfl
    | cons block outer =>
      obtain ⟨kind, path, opened, before, positive⟩ := block
      cases kind <;> cases positive <;>
        simp [Reading.shift, Token.shift, Reading.read, OpenBlock.shift, shiftNodes_reverse,
          Fault.shift, shiftNodes]
  | closer kind =>
    cases stack with
    | nil => rfl
    | cons block outer =>
      have hsame : (block.shift lines).kind = block.kind := rfl
      simp only [Reading.shift, Token.shift, Reading.read, List.map_cons, hsame]
      split
      · -- the block closes over the nodes it has, wherever these stand
        rw [← shiftNodes_reverse, close_shift]
        rfl
      · rfl

theorem readAll_shift (limit lines : Nat) (reading : Reading) (tokens : List Token) :
    (reading.shift lines).readAll limit (tokens.map (Token.shift lines))
      = movedBy lines (Reading.shift lines) (reading.readAll limit tokens) := by
  induction tokens generalizing reading with
  | nil => rfl
  | cons token rest ih =>
    rw [List.map_cons, readAll_cons, readAll_cons, read_shift, movedBy_bind ih]

theorem finish_shift (lines : Nat) (reading : Reading) :
    (reading.shift lines).finish = movedBy lines (shiftNodes lines) reading.finish := by
  obtain ⟨stack, done⟩ := reading
  cases stack with
  | nil => simp [Reading.shift, Reading.finish, shiftNodes_reverse]
  | cons block outer => rfl

/-- **Parsing further down.** -/
theorem parseTokens_shift (limit lines : Nat) (tokens : List Token) :
    parseTokens limit (tokens.map (Token.shift lines))
      = movedBy lines (shiftNodes lines) (parseTokens limit tokens) := by
  have hstart : Reading.start.shift lines = Reading.start := rfl
  rw [parseTokens_eq_readAll, parseTokens_eq_readAll, ← movedBy_bind (finish_shift lines),
    ← readAll_shift, hstart]

/-! ### Rendering -/

theorem renderPath_shift (scope : Scope) (path : String) (line lines : Nat) :
    renderPath scope path (line + lines) = movedBy lines id (renderPath scope path line) := by
  unfold renderPath
  split
  · rfl
  · split <;> rfl

/-- A text in front of a text that was moved down. -/
theorem append_movedBy (lines : Nat) (x y : Except Fault String) :
    (do let first ← movedBy lines id x
        let others ← movedBy lines id y
        return first ++ others)
      = movedBy lines id (do
          let first ← x
          let others ← y
          return first ++ others) := by
  cases x <;> cases y <;> rfl

theorem renderItems_shift {lines : Nat} {body body' : Frame → Except Fault String}
    (h : ∀ frame, body' frame = movedBy lines id (body frame)) (length index : Nat)
    (items : List Json) :
    renderItems body' length index items
      = movedBy lines id (renderItems body length index items) := by
  induction items generalizing index with
  | nil => rfl
  | cons item rest ih => rw [renderItems, renderItems, h, ih, append_movedBy]

mutual

/-- **Rendering further down**, for one node. -/
theorem Node.render_shift (lines : Nat) (scope : Scope) (node : Node) :
    (node.shift lines).render scope = movedBy lines id (node.render scope) := by
  cases node with
  | text literal => simp [Node.shift, Node.render]
  | substitution path line =>
    rw [Node.shift, Node.render, Node.render, renderPath_shift]
  | conditional negated path line positive otherwise =>
    -- which branch is taken depends on values, and these have no lines
    simp only [Node.shift, Node.render]
    split
    · exact renderNodes_shift lines scope positive
    · exact renderNodes_shift lines scope otherwise
  | each path line body =>
    simp only [Node.shift, Node.render]
    split
    · rfl
    · exact renderItems_shift (fun frame => renderNodes_shift lines (frame :: scope) body) _ _ _
    · rfl

/-- **Rendering further down.** -/
theorem renderNodes_shift (lines : Nat) (scope : Scope) (nodes : List Node) :
    renderNodes scope (shiftNodes lines nodes) = movedBy lines id (renderNodes scope nodes) := by
  cases nodes with
  | nil => simp [shiftNodes, renderNodes]
  | cons node rest =>
    rw [shiftNodes, renderNodes, renderNodes, Node.render_shift lines scope node,
      renderNodes_shift lines scope rest, append_movedBy]

end

end BilingualLessons.Template
