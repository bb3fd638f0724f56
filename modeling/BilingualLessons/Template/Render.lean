import BilingualLessons.Template.Block
import BilingualLessons.Template.Context
import BilingualLessons.Template.Scalar
import BilingualLessons.Template.Scope

namespace BilingualLessons.Template

/-!
# Rendering

* `Node.render`, `renderNodes` — the text of nodes in a scope.
* `renderItems` — the text of a loop body for each element.
* `renderBody` — the text of a source in a context.
* `defaultNesting` — how deep blocks may be nested unless the caller says otherwise.
-/

/-- How deep blocks may be nested unless the caller says otherwise. -/
def defaultNesting : Nat := 20

/-- The texts of a loop, one for each element, from element `index` of `length` on. -/
def renderItems (body : Frame → Except Fault String) (length : Nat) (index : Nat) :
    List Json → Except Fault String
  | [] => .ok ""
  | item :: rest => do
    let first ← body (.iteration item index length)
    let others ← renderItems body length (index + 1) rest
    return first ++ others

/-- The text of a substitution. -/
def renderPath (scope : Scope) (path : String) (line : Nat) : Except Fault String :=
  match scope.resolve path with
  | none => .error (.undefinedVariable path line)
  | some v =>
    match scalarText v with
    | none => .error (.notScalar path v.kind line)
    | some text => .ok text

mutual

/-- The text of a node. Values are written as they are and never read as template text. -/
def Node.render (scope : Scope) : Node → Except Fault String
  | .text text => .ok text
  | .substitution path line => renderPath scope path line
  | .conditional negated path _ positive otherwise =>
    if isTruthy (scope.resolve path) ≠ negated then renderNodes scope positive
    else renderNodes scope otherwise
  | .each path line body =>
    match scope.resolve path with
    | none => .ok ""
    | some (.array items) =>
      renderItems (fun frame => renderNodes (frame :: scope) body) items.length 0 items
    | some v => .error (.notAnArray path v.kind line)

/-- The texts of nodes, one behind the other. The first fault is the fault of all. -/
def renderNodes (scope : Scope) : List Node → Except Fault String
  | [] => .ok ""
  | node :: rest => do
    let first ← node.render scope
    let others ← renderNodes scope rest
    return first ++ others

end

/-- The text of a source in a context, with blocks inside one another up to `limit` deep. -/
def renderBody (limit : Nat) (source : String) (context : Context) : Except Fault String := do
  renderNodes [.values context.values] (← parse limit source)

end BilingualLessons.Template
