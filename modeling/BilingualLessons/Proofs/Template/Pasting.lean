import BilingualLessons.Proofs.Outcome
import BilingualLessons.Proofs.Template.ScopeParts
import BilingualLessons.Proofs.Template.TokenContents

namespace BilingualLessons.Template

/-!
# Texts that are pasted together

Whatever its blocks do, a template only pastes texts together: its literal texts, and the texts of
scalars of its scope and of its loop counters.

* `LastsPasting` — properties of texts that pasting keeps and that counters have.
* `renderItems_lasts` — they hold of a loop whose turns have them.
* `renderNodes_lasts` — they hold of what nodes render to, if literal texts and scalars have them.
-/

/-- A property of texts that pasting keeps, and that numbers and truth values have. -/
structure LastsPasting (P : String → Prop) : Prop where
  empty : P ""
  append : ∀ {left right : String}, P left → P right → P (left ++ right)
  counter : ∀ {v : Json} {text : String}, v.kind = .number ∨ v.kind = .boolean →
    scalarText v = some text → P text

/-- The property holds of the texts of all scalars in a scope. -/
def Scope.ScalarsHave (P : String → Prop) (scope : Scope) : Prop :=
  ∀ v ∈ scope.parts, ∀ text, scalarText v = some text → P text

section

variable {P : String → Prop} {scope : Scope}

/-- A turn of a loop adds no scalars but counters. -/
theorem Scope.ScalarsHave.turn (hlasts : LastsPasting P) (h : scope.ScalarsHave P) {item : Json}
    (hitem : item.parts ⊆ scope.parts) (index length : Nat) :
    Scope.ScalarsHave P (.iteration item index length :: scope) := by
  intro v hv text htext
  rcases mem_parts_of_turn hitem hv with hscope | hcounter
  · exact h v hscope text htext
  · exact hlasts.counter hcounter htext

theorem renderPath_lasts (h : scope.ScalarsHave P) {path text : String} {line : Nat}
    (hrender : renderPath scope path line = .ok text) : P text := by
  unfold renderPath at hrender
  split at hrender
  · exact absurd hrender (by simp)
  · next v hresolve =>
    split at hrender
    · exact absurd hrender (by simp)
    · next found hscalar =>
      obtain rfl := Except.ok.inj hrender
      exact h v (parts_subset_of_resolve hresolve (Json.mem_parts v)) _ hscalar

/-- A loop has the property when all its turns have it. -/
theorem renderItems_lasts (hlasts : LastsPasting P) {body : Frame → Except Fault String}
    {length index : Nat} {items : List Json}
    (hturn : ∀ item ∈ items, ∀ (i : Nat) (text : String),
      body (.iteration item i length) = .ok text → P text)
    {text : String} (h : renderItems body length index items = .ok text) : P text := by
  induction items generalizing index text with
  | nil =>
    obtain rfl := Except.ok.inj h
    exact hlasts.empty
  | cons item rest ih =>
    obtain ⟨first, hfirst, hrest⟩ := bind_eq_ok_iff.mp h
    obtain ⟨others, hothers, hjoin⟩ := bind_eq_ok_iff.mp hrest
    obtain rfl := Except.ok.inj hjoin
    exact hlasts.append (hturn item (by simp) index first hfirst)
      (ih (fun item hitem => hturn item (by simp [hitem])) hothers)

end

mutual

/-- **Pasting**, for one node. -/
theorem Node.render_lasts {P : String → Prop} (hlasts : LastsPasting P) {scope : Scope}
    (hscope : scope.ScalarsHave P) (node : Node) (hliterals : ∀ literal ∈ node.literals, P literal)
    {text : String} (h : node.render scope = .ok text) : P text := by
  cases node with
  | text literal =>
    rw [Node.render] at h
    obtain rfl := Except.ok.inj h
    exact hliterals _ (by simp [Node.literals])
  | substitution path line =>
    rw [Node.render] at h
    exact renderPath_lasts hscope h
  | conditional negated path line positive otherwise =>
    rw [Node.render] at h
    split at h
    · exact renderNodes_lasts hlasts hscope positive
        (fun literal hmem => hliterals literal (by simp [Node.literals, hmem])) h
    · exact renderNodes_lasts hlasts hscope otherwise
        (fun literal hmem => hliterals literal (by simp [Node.literals, hmem])) h
  | each path line body =>
    rw [Node.render] at h
    split at h
    · obtain rfl := Except.ok.inj h
      exact hlasts.empty
    · next items hresolve =>
      -- a turn has no scalars but those of the outer scope and its counters
      refine renderItems_lasts hlasts (fun item hitem index found hfound => ?_) h
      have hturn := hscope.turn hlasts (parts_item_subset_of_resolve hresolve hitem) index
        items.length
      exact renderNodes_lasts hlasts hturn body
        (fun literal hmem => hliterals literal (by simp [Node.literals, hmem])) hfound
    · exact absurd h (by simp)

/-- **Pasting.** A property that pasting keeps holds of what nodes render to, if their literal
    texts have it and the scalars of the scope. -/
theorem renderNodes_lasts {P : String → Prop} (hlasts : LastsPasting P) {scope : Scope}
    (hscope : scope.ScalarsHave P) (nodes : List Node)
    (hliterals : ∀ literal ∈ literalsOf nodes, P literal) {text : String}
    (h : renderNodes scope nodes = .ok text) : P text := by
  cases nodes with
  | nil =>
    rw [renderNodes] at h
    obtain rfl := Except.ok.inj h
    exact hlasts.empty
  | cons node rest =>
    rw [renderNodes] at h
    obtain ⟨first, hfirst, hrest⟩ := bind_eq_ok_iff.mp h
    obtain ⟨others, hothers, hjoin⟩ := bind_eq_ok_iff.mp hrest
    obtain rfl := Except.ok.inj hjoin
    exact hlasts.append
      (Node.render_lasts hlasts hscope node
        (fun literal hmem => hliterals literal (by simp [literalsOf, hmem])) hfirst)
      (renderNodes_lasts hlasts hscope rest
        (fun literal hmem => hliterals literal (by simp [literalsOf, hmem])) hothers)

end

end BilingualLessons.Template
