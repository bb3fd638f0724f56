import BilingualLessons.Proofs.Outcome
import BilingualLessons.Template.Render

namespace BilingualLessons.Template

/-!
# Where rendering fails

A source that is parsed fails to render only where a tag asks for a value that the scope does not
have, or has in another shape.

* `Demand` — a tag that asks for a value; `demandsOf` — the demands of nodes, in the order of the
  source.
* `renderNodes_fault` — a fault of rendering is that of one of the demands.
* `Fault.isOfSource` — the faults that lie in the source itself; rendering nodes has none of them
  (`isOfSource_of_renderNodes`).
-/

/-- A tag that asks for a value: a substitution wants a scalar, a loop an array. -/
inductive Demand where
  | scalar (path : String) (line : Nat)
  | array (path : String) (line : Nat)

/-- The faults of a demand that is not met. -/
inductive Demand.Fails : Demand → Fault → Prop
  | undefined (path : String) (line : Nat) :
      Fails (.scalar path line) (.undefinedVariable path line)
  | notScalar (path : String) (kind : Json.Kind) (line : Nat) :
    Fails (.scalar path line) (.notScalar path kind line)
  | notAnArray (path : String) (kind : Json.Kind) (line : Nat) :
    Fails (.array path line) (.notAnArray path kind line)

mutual

/-- The demands of a node, in the order of the source. -/
def Node.demands : Node → List Demand
  | .text _ => []
  | .substitution path line => [.scalar path line]
  | .conditional _ _ _ positive otherwise => demandsOf positive ++ demandsOf otherwise
  | .each path line body => .array path line :: demandsOf body

/-- The demands of nodes, in the order of the source. -/
def demandsOf : List Node → List Demand
  | [] => []
  | node :: rest => node.demands ++ demandsOf rest

end

theorem renderPath_fault {scope : Scope} {path : String} {line : Nat} {fault : Fault}
    (h : renderPath scope path line = .error fault) :
    Demand.Fails (.scalar path line) fault := by
  unfold renderPath at h
  split at h
  · obtain rfl := Except.error.inj h
    exact .undefined path line
  · next v hresolve =>
    split at h
    · obtain rfl := Except.error.inj h
      exact .notScalar path v.kind line
    · exact absurd h (by simp)

/-- A loop fails in one of its turns. -/
theorem renderItems_fault {body : Frame → Except Fault String} {length index : Nat}
    {items : List Json} {fault : Fault} (h : renderItems body length index items = .error fault) :
    ∃ frame, body frame = .error fault := by
  induction items generalizing index with
  | nil => exact absurd h (by simp [renderItems])
  | cons item rest ih =>
    rcases bind_eq_error_iff.mp h with hfirst | ⟨first, _, hrest⟩
    · exact ⟨_, hfirst⟩
    · rcases bind_eq_error_iff.mp hrest with hothers | ⟨others, _, hjoin⟩
      · exact ih hothers
      · exact absurd hjoin (by simp)

mutual

/-- A fault of a node is that of one of its demands. -/
theorem Node.render_fault {scope : Scope} (node : Node) {fault : Fault}
    (h : node.render scope = .error fault) : ∃ demand ∈ node.demands, demand.Fails fault := by
  cases node with
  | text literal =>
    rw [Node.render] at h
    exact absurd h (by simp)
  | substitution path line =>
    rw [Node.render] at h
    exact ⟨.scalar path line, by simp [Node.demands], renderPath_fault h⟩
  | conditional negated path line positive otherwise =>
    rw [Node.render] at h
    split at h
    · obtain ⟨demand, hmem, hfails⟩ := renderNodes_fault positive h
      exact ⟨demand, by simp [Node.demands, hmem], hfails⟩
    · obtain ⟨demand, hmem, hfails⟩ := renderNodes_fault otherwise h
      exact ⟨demand, by simp [Node.demands, hmem], hfails⟩
  | each path line body =>
    rw [Node.render] at h
    split at h
    · exact absurd h (by simp)
    · -- the demands of the body are the same in every turn
      obtain ⟨frame, hturn⟩ := renderItems_fault h
      obtain ⟨demand, hmem, hfails⟩ := renderNodes_fault body hturn
      exact ⟨demand, by simp [Node.demands, hmem], hfails⟩
    · next v _ _ =>
      obtain rfl := Except.error.inj h
      exact ⟨.array path line, by simp [Node.demands], .notAnArray path v.kind line⟩

/-- **Where rendering fails.** A fault of nodes is that of one of their demands. -/
theorem renderNodes_fault {scope : Scope} (nodes : List Node) {fault : Fault}
    (h : renderNodes scope nodes = .error fault) :
    ∃ demand ∈ demandsOf nodes, demand.Fails fault := by
  cases nodes with
  | nil =>
    rw [renderNodes] at h
    exact absurd h (by simp)
  | cons node rest =>
    rw [renderNodes] at h
    -- the first node fails, or the others do; pasting two texts together never fails
    rcases bind_eq_error_iff.mp h with hfirst | ⟨first, _, hrest⟩
    · obtain ⟨demand, hmem, hfails⟩ := Node.render_fault node hfirst
      exact ⟨demand, by simp [demandsOf, hmem], hfails⟩
    · rcases bind_eq_error_iff.mp hrest with hothers | ⟨others, _, hjoin⟩
      · obtain ⟨demand, hmem, hfails⟩ := renderNodes_fault rest hothers
        exact ⟨demand, by simp [demandsOf, hmem], hfails⟩
      · exact absurd hjoin (by simp)

end

/-! ### Faults of the source -/

/-- Whether a fault lies in the source itself, whatever the values are. -/
def Fault.isOfSource : Fault → Bool
  | .malformed _ _ | .unclosedBlock _ _ | .nestingTooDeep _ _ => true
  | .undefinedVariable _ _ | .notScalar _ _ _ | .notAnArray _ _ _ => false

/-- A source that is parsed has no fault of its own left. -/
theorem isOfSource_of_renderNodes {scope : Scope} {nodes : List Node} {fault : Fault}
    (h : renderNodes scope nodes = .error fault) : fault.isOfSource = false := by
  obtain ⟨demand, _, hfails⟩ := renderNodes_fault nodes h
  cases hfails <;> rfl

end BilingualLessons.Template
