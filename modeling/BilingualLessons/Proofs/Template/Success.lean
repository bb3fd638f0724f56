import BilingualLessons.Proofs.Outcome
import BilingualLessons.Template.Render

namespace BilingualLessons.Template

/-!
# Renderings that succeed

Text always renders, and a condition may test whatever it likes.  What can fail is a substitution,
for want of a scalar, and a loop, for want of an array or in one of its turns.

* `substitutionsOf` — the substitutions that stand in no loop.
* `loopsOf` — the loops that stand in no other loop, each with its body.
* `Scope.Writes`, `Scope.Repeats` — a scope that does for a substitution, and for a loop.
* `renderNodes_succeeds` — nodes render where the scope does for all of these.
-/

mutual

/-- The paths of the substitutions in a node that stand in no loop. -/
def Node.substitutions : Node → List String
  | .text _ => []
  | .substitution path _ => [path]
  | .conditional _ _ _ positive otherwise => substitutionsOf positive ++ substitutionsOf otherwise
  | .each _ _ _ => []

/-- The paths of the substitutions in nodes that stand in no loop, one node after the other. -/
def substitutionsOf : List Node → List String
  | [] => []
  | node :: rest => node.substitutions ++ substitutionsOf rest

end

mutual

/-- The loops in a node that stand in no other loop: the path of each and its body. -/
def Node.loops : Node → List (String × List Node)
  | .text _ => []
  | .substitution _ _ => []
  | .conditional _ _ _ positive otherwise => loopsOf positive ++ loopsOf otherwise
  | .each path _ body => [(path, body)]

/-- The loops in nodes that stand in no other loop, one node after the other. -/
def loopsOf : List Node → List (String × List Node)
  | [] => []
  | node :: rest => node.loops ++ loopsOf rest

end

/-- The path has a value that a substitution can write. -/
def Scope.Writes (scope : Scope) (path : String) : Prop :=
  ∃ v text, scope.resolve path = some v ∧ scalarText v = some text

/-- The path of the loop has an array, and its body renders for every element at every place. -/
def Scope.Repeats (scope : Scope) (loop : String × List Node) : Prop :=
  ∃ items, scope.resolve loop.1 = some (.array items) ∧
    ∀ item index length, ∃ text,
      renderNodes (.iteration item index length :: scope) loop.2 = .ok text

theorem renderPath_succeeds {scope : Scope} {path : String} (h : scope.Writes path) (line : Nat) :
    ∃ text, renderPath scope path line = .ok text := by
  obtain ⟨v, text, hvalue, htext⟩ := h
  refine ⟨text, ?_⟩
  simp only [renderPath, hvalue, htext]

/-- A loop whose turns all succeed does. -/
theorem renderItems_succeeds {render : Frame → Except Fault String} {length : Nat}
    (h : ∀ item index, ∃ text, render (.iteration item index length) = .ok text) (index : Nat)
    (items : List Json) : ∃ text, renderItems render length index items = .ok text := by
  induction items generalizing index with
  | nil => exact ⟨"", rfl⟩
  | cons item rest ih =>
    obtain ⟨first, hfirst⟩ := h item index
    obtain ⟨others, hothers⟩ := ih (index + 1)
    refine ⟨first ++ others, ?_⟩
    rw [renderItems, hfirst, hothers]
    rfl

mutual

/-- **Success**, for one node. -/
theorem Node.render_succeeds {scope : Scope} (node : Node)
    (hwrites : ∀ path ∈ node.substitutions, scope.Writes path)
    (hrepeats : ∀ loop ∈ node.loops, scope.Repeats loop) :
    ∃ text, node.render scope = .ok text := by
  cases node with
  | text literal => exact ⟨literal, by rw [Node.render]⟩
  | substitution path line =>
    rw [Node.render]
    exact renderPath_succeeds (hwrites path (by simp [Node.substitutions])) line
  | conditional negated path line positive otherwise =>
    -- either branch may be the one that counts, and both render
    simp only [Node.substitutions, List.mem_append, or_imp, forall_and] at hwrites
    simp only [Node.loops, List.mem_append, or_imp, forall_and] at hrepeats
    rw [Node.render]
    split
    · exact renderNodes_succeeds positive hwrites.1 hrepeats.1
    · exact renderNodes_succeeds otherwise hwrites.2 hrepeats.2
  | each path line body =>
    obtain ⟨items, hvalue, hturn⟩ := hrepeats (path, body) (by simp [Node.loops])
    simp only [Node.render, hvalue]
    exact renderItems_succeeds (fun item index => hturn item index items.length) 0 items

/-- **Success.** Nodes render in a scope that does for the substitutions and the loops that stand
    in no other loop. -/
theorem renderNodes_succeeds {scope : Scope} (nodes : List Node)
    (hwrites : ∀ path ∈ substitutionsOf nodes, scope.Writes path)
    (hrepeats : ∀ loop ∈ loopsOf nodes, scope.Repeats loop) :
    ∃ text, renderNodes scope nodes = .ok text := by
  cases nodes with
  | nil => exact ⟨"", by rw [renderNodes]⟩
  | cons node rest =>
    simp only [substitutionsOf, List.mem_append, or_imp, forall_and] at hwrites
    simp only [loopsOf, List.mem_append, or_imp, forall_and] at hrepeats
    obtain ⟨first, hfirst⟩ := Node.render_succeeds node hwrites.1 hrepeats.1
    obtain ⟨others, hothers⟩ := renderNodes_succeeds rest hwrites.2 hrepeats.2
    refine ⟨first ++ others, ?_⟩
    rw [renderNodes, hfirst, hothers]
    rfl

end

end BilingualLessons.Template
