import BilingualLessons.Proofs.Template.Agreement
import BilingualLessons.Proofs.Template.BlockSource

namespace BilingualLessons.Template

/-!
# Loops unrolled

A loop renders its body in the scope of each element.  The same texts come from the body as a
source of its own, in a context that has the values of that scope in one map.

* `renderItems_of_ok`, `renderItems_of_error` — a loop from its turns: the texts joined, or the
  first fault.
* `renderNodes_onto` — the scope of a turn and the context of a turn render alike.
* `loopTurns` — the body on its own, in the context of each turn.
* `rendering_unrolls_loops` — the loop as a source, from its turns.
-/

/-! ### Turns of a loop -/

section

variable {render : Frame → Except Fault String} {length index : Nat} {items : List Json}

/-- When every turn succeeds, the loop has their texts one behind the other. -/
theorem renderItems_of_ok {texts : List String}
    (h : (items.zipIdx index).map (fun (item, i) => render (.iteration item i length))
      = texts.map .ok) :
    renderItems render length index items = .ok (String.join texts) := by
  induction items generalizing index texts with
  | nil =>
    obtain rfl : texts = [] := by simpa using h.symm
    rfl
  | cons item rest ih =>
    cases texts with
    | nil => exact absurd h (by simp)
    | cons text texts =>
      have hfirst : render (.iteration item index length) = .ok text := (List.cons.inj h).1
      rw [renderItems, hfirst, ih (List.cons.inj h).2, String.join_cons]
      rfl

/-- The first turn that fails decides, whatever the turns after it would do. -/
theorem renderItems_of_error {before : List String} {fault : Fault}
    {after : List (Except Fault String)}
    (h : (items.zipIdx index).map (fun (item, i) => render (.iteration item i length))
      = before.map .ok ++ .error fault :: after) :
    renderItems render length index items = .error fault := by
  induction items generalizing index before with
  | nil => exact absurd h.symm (by simp)
  | cons item rest ih =>
    -- the first turn is the one that fails, or one of those before it
    cases before with
    | nil =>
      have hfirst : render (.iteration item index length) = .error fault := (List.cons.inj h).1
      rw [renderItems, hfirst]
      rfl
    | cons text before =>
      have hfirst : render (.iteration item index length) = .ok text := (List.cons.inj h).1
      rw [renderItems, hfirst, ih (List.cons.inj h).2]
      rfl

end

/-! ### The context of a turn -/

/-- Nodes render alike in a frame over a map and in the map with the frame laid over it. -/
theorem renderNodes_onto (frame : Frame) (outer : Fields) (nodes : List Node) :
    renderNodes [frame, .values outer] nodes = renderNodes [.values (frame.onto outer)] nodes :=
  renderNodes_congr nodes fun _ _ key _ => lookup_onto frame outer key

/-- What the body of a loop renders to on its own, once for each element, with what the frame of
    that turn binds laid over the context. -/
def loopTurns (limit : Nat) (body : String) (context : Context) (items : List Json) :
    List (Except Fault String) :=
  items.zipIdx.map fun (item, index) =>
    renderBody limit body ⟨(Frame.iteration item index items.length).onto context.values⟩

/-- The turns of a loop in its scope are those of its body on its own. -/
theorem map_renderNodes_eq_loopTurns {limit : Nat} {body : String} {nodes : List Node}
    (h : parse limit body = .ok nodes) (context : Context) (items : List Json) :
    items.zipIdx.map (fun (item, index) =>
        renderNodes [.iteration item index items.length, .values context.values] nodes)
      = loopTurns limit body context items := by
  refine List.map_congr_left fun (item, index) _ => ?_
  show renderNodes _ nodes = renderBody limit body _
  rw [renderNodes_onto, renderBody, h]
  rfl

/-- **Loop unrolling.** A loop around a sealed source that is parsed on its own one level higher
    renders to nothing where its path has no value, and fails where the value is no array. Over an
    array it has the texts of its turns one behind the other; if some turn fails, the fault of the
    first that does. -/
theorem rendering_unrolls_loops (limit : Nat) (path body : String) (context : Context)
    (nodes : List Node) (hp : isPath path = true) (hs : Sealed body.toList)
    (h : parse limit body = .ok nodes) :
    let source := openTag .each path ++ body ++ closeTag .each
    match Scope.resolve [.values context.values] path with
    | none => renderBody (limit + 1) source context = .ok ""
    | some (.array items) =>
      (∀ texts : List String, loopTurns (limit + 1) body context items = texts.map .ok →
        renderBody (limit + 1) source context = .ok (String.join texts)) ∧
      (∀ (before : List String) (fault : Fault) (after : List (Except Fault String)),
        loopTurns (limit + 1) body context items = before.map .ok ++ .error fault :: after →
        renderBody (limit + 1) source context = .error fault)
    | some v => renderBody (limit + 1) source context = .error (.notAnArray path v.kind 1) := by
  intro source
  have hsource : parse (limit + 1) source = .ok [.each path 1 nodes] := parse_block .each hp hs h
  -- on its own the body is parsed with one level to spare, to the nodes it has in the loop
  have hbody : parse (limit + 1) body = .ok nodes := parse_mono h (Nat.le_succ limit)
  have hrender : renderBody (limit + 1) source context
      = (Node.each path 1 nodes).render [.values context.values] := by
    rw [renderBody, hsource]
    simp [renderNodes]
  rw [hrender, Node.render]
  cases hvalue : Scope.resolve [.values context.values] path with
  | none => rfl
  | some v =>
    cases v with
    | array items =>
      refine ⟨fun texts hturns => ?_, fun before fault after hturns => ?_⟩
      · rw [← map_renderNodes_eq_loopTurns hbody] at hturns
        exact renderItems_of_ok hturns
      · rw [← map_renderNodes_eq_loopTurns hbody] at hturns
        exact renderItems_of_error hturns
    | _ => rfl

/-- Two turns in a row, and a second turn that fails. -/
theorem rendering_unrolls_a_loop_over_words :
    isPath "words" = true ∧ Sealed (tagText "this" ++ ";").toList ∧
    parse 0 (tagText "this" ++ ";") = .ok [.substitution "this" 1, .text ";"] ∧
    renderBody 1 (openTag .each "words" ++ (tagText "this" ++ ";") ++ closeTag .each)
      ⟨[("words", .array [.string "tak", .string "nej"])]⟩ = .ok "tak;nej;" ∧
    renderBody 1 (openTag .each "words" ++ (tagText "this" ++ ";") ++ closeTag .each)
      ⟨[("words", .array [.string "tak", .null])]⟩ = .error (.undefinedVariable "this" 1) := by
  have hp : isPath "words" = true := by decide
  have hs : Sealed (tagText "this" ++ ";").toList := by decide
  have h : parse 0 (tagText "this" ++ ";") = .ok [.substitution "this" 1, .text ";"] := by rfl
  have hresolve : ∀ items : List Json, Scope.resolve [.values [("words", .array items)]] "words"
      = some (.array items) := fun items => rfl
  have hboth : loopTurns 1 (tagText "this" ++ ";")
      ⟨[("words", .array [.string "tak", .string "nej"])]⟩ [.string "tak", .string "nej"]
        = ["tak;", "nej;"].map .ok := by decide +kernel
  have hfirst : loopTurns 1 (tagText "this" ++ ";")
      ⟨[("words", .array [.string "tak", .null])]⟩ [.string "tak", .null]
        = ["tak;"].map .ok ++ .error (.undefinedVariable "this" 1) :: [] := by decide +kernel
  have hwords := rendering_unrolls_loops 0 "words" (tagText "this" ++ ";")
    ⟨[("words", .array [.string "tak", .string "nej"])]⟩ _ hp hs h
  have hgap := rendering_unrolls_loops 0 "words" (tagText "this" ++ ";")
    ⟨[("words", .array [.string "tak", .null])]⟩ _ hp hs h
  simp only [hresolve, Nat.zero_add] at hwords hgap
  exact ⟨hp, hs, h, hwords.1 _ hboth, hgap.2 _ _ _ hfirst⟩

end BilingualLessons.Template
