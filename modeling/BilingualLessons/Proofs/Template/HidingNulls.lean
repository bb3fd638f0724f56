import BilingualLessons.Proofs.Json.Nulls
import BilingualLessons.Proofs.Template.BlockSource
import BilingualLessons.Proofs.Template.MergedScope
import BilingualLessons.Template.Render

namespace BilingualLessons.Template

/-!
# Where `null` is not an absent key

The innermost frame with a key decides what the key means, also where it holds `null`: then there
is no value, although a frame further out, or the part of the path before its first point, may have
one.  Without the `null` that value would be found.

* `Context.withoutNulls` — a context without the fields that are `null`, at any depth.
* `Scope.lookupPastNulls`, `Scope.resolvePastNulls` — look-up that goes on past fields that are
  `null`.  In a scope without such fields look-up does just that (`resolve_withoutNulls`).
* `Scope.hides` — whether a `null` stands before the value of a path.  Exactly then the value
  changes without the fields that are `null` (`resolve_withoutNulls_eq_iff`).
* `Context.lookups` — all paths that a source may look up in a context, and in which scope.
* `nulls_that_hide_nothing_are_absent` — where no look-up has its value hidden, the fields that are
  `null` may as well be absent.
-/

/-! ### Dropping the fields -/

/-- A context without the fields that are `null`, at any depth. -/
def Context.withoutNulls (context : Context) : Context :=
  ⟨Json.fieldsWithoutNulls context.values⟩

/-- A frame without the fields that are `null`. The element of a loop is bound even if it is
    `null`. -/
def Frame.withoutNulls : Frame → Frame
  | .values fields => .values (Json.fieldsWithoutNulls fields)
  | .iteration item index length => .iteration item.withoutNulls index length

/-- The scope with the fields that are `null` dropped from every frame. -/
def Scope.withoutNulls (scope : Scope) : Scope := scope.map Frame.withoutNulls

theorem scalarText_withoutNulls (v : Json) : scalarText v.withoutNulls = scalarText v := by
  cases v <;> rfl

theorem isTruthy_withoutNulls (v? : Option Json) :
    isTruthy (v?.map Json.withoutNulls) = isTruthy v? := by
  cases v? with
  | none => rfl
  | some v => cases v <;> rfl

/-! ### Look-up past nulls -/

/-- The value that a frame binds to a key, fields that are `null` not counting. -/
def Frame.getPastNulls (key : String) : Frame → Option Json
  | .values fields => (fields.get? key).bind Json.nonNull
  | .iteration item index length =>
    (loopValue? key item index length).or ((item.field? key).bind Json.nonNull)

/-- The value that the innermost frame binds to a key, fields that are `null` not counting. -/
def Scope.lookupPastNulls (scope : Scope) (key : String) : Option Json :=
  scope.findSome? (Frame.getPastNulls key)

/-- The value of a path, given what its keys are bound to. -/
def resolveWith (lookup : String → Option Json) (path : String) : Option Json :=
  match lookup path with
  | some v => v.nonNull
  | none =>
    match splitFirst? path.toList with
    | none => none
    | some (head, tail) =>
      match lookup (String.ofList head) with
      | none => none
      | some root => (walk root (segments tail)).bind Json.nonNull

/-- The value of a path, fields that are `null` not counting. -/
def Scope.resolvePastNulls (scope : Scope) (path : String) : Option Json :=
  resolveWith scope.lookupPastNulls path

theorem resolve_eq_resolveWith (scope : Scope) (path : String) :
    scope.resolve path = resolveWith scope.lookup path := rfl

/-- Whether a path has a value that is not found, since a field that is `null` stands before it. -/
def Scope.hides (scope : Scope) (path : String) : Bool :=
  (scope.resolvePastNulls path).isSome && (scope.resolve path).isNone

/-! ### Look-up in a scope without nulls -/

theorem field?_withoutNulls (key : String) (v : Json) :
    v.withoutNulls.field? key = ((v.field? key).bind Json.nonNull).map Json.withoutNulls := by
  cases v with
  | object fields => exact Json.get?_withoutNulls key fields
  | _ => rfl

theorem loopValue?_withoutNulls (key : String) (item : Json) (index length : Nat) :
    loopValue? key item.withoutNulls index length
      = (loopValue? key item index length).map Json.withoutNulls := by
  simp only [loopValue?, apply_ite (Option.map Json.withoutNulls), Option.map_some, Option.map_none]
  rfl

theorem get?_frame_withoutNulls (key : String) (frame : Frame) :
    frame.withoutNulls.get? key = (frame.getPastNulls key).map Json.withoutNulls := by
  cases frame with
  | values fields => exact Json.get?_withoutNulls key fields
  | iteration item index length =>
    rw [Frame.withoutNulls, get?_iteration, loopValue?_withoutNulls, field?_withoutNulls,
      Frame.getPastNulls, Option.map_or]

theorem lookup_withoutNulls (scope : Scope) (key : String) :
    scope.withoutNulls.lookup key = (scope.lookupPastNulls key).map Json.withoutNulls := by
  rw [Scope.lookup, Scope.lookupPastNulls, Scope.withoutNulls, List.findSome?_map,
    List.map_findSome?]
  exact congrArg (List.findSome? · scope) (funext fun frame => get?_frame_withoutNulls key frame)

/-- There is nothing to be found from `null` on. -/
theorem walk_null (path : List (List Char)) : (walk .null path).bind Json.nonNull = none := by
  cases path <;> rfl

/-- One segment further stands the same value, but `null` may be missing. -/
theorem step_withoutNulls (v : Json) (segment : List Char) :
    step v.withoutNulls segment = (step v segment).map Json.withoutNulls ∨
      step v segment = some .null ∧ step v.withoutNulls segment = none := by
  cases v with
  | array items =>
    refine Or.inl ?_
    simp only [Json.withoutNulls, step, Json.itemsWithoutNulls_eq_map, List.getElem?_map]
    cases indexOf? segment <;> rfl
  | object fields =>
    simp only [Json.withoutNulls, step, Json.get?_withoutNulls]
    cases Fields.get? (String.ofList segment) fields with
    | none => exact Or.inl rfl
    | some w =>
      cases w with
      | null => exact Or.inr ⟨rfl, rfl⟩
      | _ => exact Or.inl rfl
  | _ => exact Or.inl rfl

/-- Following a path finds the same value with or without the fields that are `null`. -/
theorem walk_withoutNulls (v : Json) (path : List (List Char)) :
    (walk v.withoutNulls path).bind Json.nonNull
      = ((walk v path).bind Json.nonNull).map Json.withoutNulls := by
  induction path generalizing v with
  | nil => exact Json.nonNull_withoutNulls v
  | cons segment rest ih =>
    have hwalk : ∀ w, walk w (segment :: rest) = (step w segment).bind (walk · rest) :=
      fun w => List.foldlM_cons
    rw [hwalk, hwalk]
    rcases step_withoutNulls v segment with hstep | ⟨hnull, hnone⟩
    · rw [hstep]
      cases step v segment with
      | none => rfl
      | some w => exact ih w
    · rw [hnull, hnone, Option.bind_some, walk_null]
      rfl

/-- **Paths.** In a scope without fields that are `null` a path has the value that it has past
    these fields. -/
theorem resolve_withoutNulls (scope : Scope) (path : String) :
    scope.withoutNulls.resolve path = (scope.resolvePastNulls path).map Json.withoutNulls := by
  rw [resolve_eq_resolveWith, Scope.resolvePastNulls, resolveWith, resolveWith,
    lookup_withoutNulls]
  cases scope.lookupPastNulls path with
  | some v => exact Json.nonNull_withoutNulls v
  | none =>
    cases splitFirst? path.toList with
    | none => rfl
    | some parts =>
      simp only [lookup_withoutNulls]
      cases scope.lookupPastNulls (String.ofList parts.1) with
      | none => rfl
      | some root => exact walk_withoutNulls root (segments parts.2)

/-! ### What a null hides -/

/-- What a frame binds past nulls is what it binds, unless that is `null`. -/
theorem get?_eq_getPastNulls_or_null (key : String) (frame : Frame) :
    frame.get? key = frame.getPastNulls key ∨ frame.get? key = some .null := by
  have hfield : ∀ v? : Option Json, v? = v?.bind Json.nonNull ∨ v? = some .null := by
    intro v?
    cases v? with
    | none => exact Or.inl rfl
    | some v => cases v <;> simp [Json.nonNull, Json.isNull]
  cases frame with
  | values fields => exact hfield _
  | iteration item index length =>
    rw [get?_iteration, Frame.getPastNulls]
    cases loopValue? key item index length with
    | some v => exact Or.inl rfl
    | none => exact hfield _

theorem lookup_eq_lookupPastNulls_or_null (scope : Scope) (key : String) :
    scope.lookup key = scope.lookupPastNulls key ∨ scope.lookup key = some .null := by
  induction scope with
  | nil => exact Or.inl rfl
  | cons frame scope ih =>
    rw [Scope.lookup, Scope.lookupPastNulls, List.findSome?_cons, List.findSome?_cons]
    rcases get?_eq_getPastNulls_or_null key frame with hframe | hnull
    · rw [hframe]
      cases frame.getPastNulls key with
      | none => exact ih
      | some v => exact Or.inl rfl
    · exact Or.inr (by rw [hnull])

/-- A `null` takes a value away or does nothing; it never gives a path another value. -/
theorem resolve_eq_resolvePastNulls_or_none (scope : Scope) (path : String) :
    scope.resolve path = scope.resolvePastNulls path ∨ scope.resolve path = none := by
  rw [resolve_eq_resolveWith, Scope.resolvePastNulls, resolveWith, resolveWith]
  rcases lookup_eq_lookupPastNulls_or_null scope path with hpath | hnull
  · rw [hpath]
    cases scope.lookupPastNulls path with
    | some v => exact Or.inl rfl
    | none =>
      cases splitFirst? path.toList with
      | none => exact Or.inl rfl
      | some parts =>
        rcases lookup_eq_lookupPastNulls_or_null scope (String.ofList parts.1) with hhead | hnull
        · exact Or.inl (by simp only [hhead])
        · exact Or.inr (by simp only [hnull, walk_null])
  · exact Or.inr (by rw [hnull]; rfl)

/-- **Hidden values.** Without the fields that are `null` a path keeps its value exactly if none
    of them hides it. -/
theorem resolve_withoutNulls_eq_iff (scope : Scope) (path : String) :
    scope.withoutNulls.resolve path = (scope.resolve path).map Json.withoutNulls ↔
      scope.hides path = false := by
  rw [resolve_withoutNulls, Scope.hides]
  constructor
  · intro hsame
    have hfound : (scope.resolvePastNulls path).isSome = (scope.resolve path).isSome := by
      simpa using congrArg Option.isSome hsame
    rw [hfound]
    cases scope.resolve path <;> rfl
  · intro hnot
    rcases resolve_eq_resolvePastNulls_or_none scope path with hsame | hnone
    · rw [hsame]
    · have hpast : scope.resolvePastNulls path = none := by simpa [hnone] using hnot
      rw [hnone, hpast]

/-! ### The look-ups of a source -/

mutual

/-- The paths that a node may look up in a scope, each with the scope that it is looked up in: the
    given one, or one with the frame of a turn before it. -/
def Node.lookups (scope : Scope) : Node → List (Scope × String)
  | .text _ => []
  | .substitution path _ => [(scope, path)]
  | .conditional _ path _ positive otherwise =>
    (scope, path) :: (lookupsOf scope positive ++ lookupsOf scope otherwise)
  | .each path _ body =>
    (scope, path) ::
      match scope.resolve path with
      | some (.array items) =>
        items.zipIdx.flatMap fun (item, index) =>
          lookupsOf (.iteration item index items.length :: scope) body
      | _ => []

/-- The paths that nodes may look up in a scope. -/
def lookupsOf (scope : Scope) : List Node → List (Scope × String)
  | [] => []
  | node :: rest => node.lookups scope ++ lookupsOf scope rest

end

/-- The paths that a source may look up in a context; none if it does not parse. -/
def Context.lookups (context : Context) (limit : Nat) (body : String) : List (Scope × String) :=
  match parse limit body with
  | .ok nodes => lookupsOf [.values context.values] nodes
  | .error _ => []

/-! ### Rendering -/

/-- A loop over changed elements, if the turn of a changed element goes as that of the element. -/
theorem renderItems_map {body body' : Frame → Except Fault String} {change : Json → Json}
    (length index : Nat) (items : List Json)
    (h : ∀ item position, (item, position) ∈ items.zipIdx index →
      body (.iteration (change item) position length) = body' (.iteration item position length)) :
    renderItems body length index (items.map change) = renderItems body' length index items := by
  induction items generalizing index with
  | nil => rfl
  | cons item rest ih =>
    have hfirst := h item index (by simp)
    have hrest := ih (index + 1) fun item position hitem => h item position (by simp [hitem])
    rw [List.map_cons, renderItems, renderItems, hfirst, hrest]

/-- A substitution writes the same text where its path has the same value. -/
theorem renderPath_withoutNulls {scope : Scope} {path : String} (line : Nat)
    (h : scope.withoutNulls.resolve path = (scope.resolve path).map Json.withoutNulls) :
    renderPath scope.withoutNulls path line = renderPath scope path line := by
  rw [renderPath, renderPath, h]
  cases scope.resolve path with
  | none => rfl
  | some v => simp [scalarText_withoutNulls]

mutual

/-- **Rendering**, for one node. -/
theorem Node.render_withoutNulls (scope : Scope) (node : Node)
    (h : ∀ lookup ∈ node.lookups scope, lookup.1.hides lookup.2 = false) :
    node.render scope.withoutNulls = node.render scope := by
  cases node with
  | text literal => simp only [Node.render]
  | substitution path line =>
    have hpath := (resolve_withoutNulls_eq_iff scope path).mpr
      (h (scope, path) (by simp [Node.lookups]))
    rw [Node.render, Node.render]
    exact renderPath_withoutNulls line hpath
  | conditional negated path line positive otherwise =>
    have hpath := (resolve_withoutNulls_eq_iff scope path).mpr
      (h (scope, path) (by simp [Node.lookups]))
    have hpositive := renderNodes_withoutNulls scope positive fun lookup hlookup =>
      h lookup (by simp [Node.lookups, hlookup])
    have hotherwise := renderNodes_withoutNulls scope otherwise fun lookup hlookup =>
      h lookup (by simp [Node.lookups, hlookup])
    rw [Node.render, Node.render, hpath, isTruthy_withoutNulls, hpositive, hotherwise]
  | each path line body =>
    have hpath := (resolve_withoutNulls_eq_iff scope path).mpr
      (h (scope, path) (by simp [Node.lookups]))
    rw [Node.render, Node.render, hpath]
    cases hvalue : scope.resolve path with
    | none => rfl
    | some v =>
      cases v with
      | array items =>
        -- the frame of a turn without nulls is the frame of the element without nulls
        have hturn : ∀ item index, (item, index) ∈ items.zipIdx →
            renderNodes (.iteration item.withoutNulls index items.length :: scope.withoutNulls) body
              = renderNodes (.iteration item index items.length :: scope) body := by
          intro item index hitem
          refine renderNodes_withoutNulls (.iteration item index items.length :: scope) body
            fun lookup hlookup => h lookup ?_
          rw [Node.lookups, hvalue]
          exact List.mem_cons_of_mem _ (List.mem_flatMap.mpr ⟨(item, index), hitem, hlookup⟩)
        simp only [Option.map_some, Json.withoutNulls, Json.itemsWithoutNulls_eq_map,
          List.length_map]
        exact renderItems_map items.length 0 items hturn
      | _ => rfl

/-- **Rendering.** Nodes none of whose look-ups has its value hidden render alike with and
    without the fields that are `null`. -/
theorem renderNodes_withoutNulls (scope : Scope) (nodes : List Node)
    (h : ∀ lookup ∈ lookupsOf scope nodes, lookup.1.hides lookup.2 = false) :
    renderNodes scope.withoutNulls nodes = renderNodes scope nodes := by
  cases nodes with
  | nil => simp only [renderNodes]
  | cons node rest =>
    have hnode := Node.render_withoutNulls scope node fun lookup hlookup =>
      h lookup (by simp [lookupsOf, hlookup])
    have hrest := renderNodes_withoutNulls scope rest fun lookup hlookup =>
      h lookup (by simp [lookupsOf, hlookup])
    rw [renderNodes, renderNodes, hnode, hrest]

end

/-- **Nulls that hide nothing are absent.** If no path that a source may look up in a context has
    its value hidden, the source renders as it does in the context without the fields that are
    `null`, at whatever depth they are, faults included. -/
theorem nulls_that_hide_nothing_are_absent (limit : Nat) (body : String) (context : Context)
    (h : ∀ lookup ∈ context.lookups limit body, lookup.1.hides lookup.2 = false) :
    renderBody limit body context = renderBody limit body context.withoutNulls := by
  unfold renderBody
  cases hparse : parse limit body with
  | error fault => rfl
  | ok nodes =>
    rw [Context.lookups, hparse] at h
    exact (renderNodes_withoutNulls _ nodes h).symm

/-- Words of which one has no note, and a level that is not known: nothing else has their names. -/
theorem nulls_that_hide_nothing_are_absent_in_a_list_of_words :
    let body := openTag .each "words" ++
      (tagText "de" ++ openTag .truthy "note" ++ " (" ++ tagText "note" ++ ")" ++
        closeTag .truthy ++ "; ") ++
      closeTag .each ++ tagText "user.level"
    let context : Context := ⟨[
      ("user", .object [("level", .null), ("name", .string "Ana")]),
      ("words", .array [.object [("de", .string "ja"), ("note", .null)],
        .object [("de", .string "Tag"), ("note", .string "m")]])]⟩
    (∀ lookup ∈ context.lookups 2 body, lookup.1.hides lookup.2 = false) ∧
    context.withoutNulls = ⟨[
      ("user", .object [("name", .string "Ana")]),
      ("words", .array [.object [("de", .string "ja")],
        .object [("de", .string "Tag"), ("note", .string "m")]])]⟩ ∧
    renderBody 2 body context = renderBody 2 body context.withoutNulls := by
  intro body context
  have hlookups : ∀ lookup ∈ context.lookups 2 body, lookup.1.hides lookup.2 = false := by
    decide +kernel
  exact ⟨hlookups, by decide +kernel, nulls_that_hide_nothing_are_absent 2 body context hlookups⟩

/-- **A null hides a value.** The theme of a word that is `null` hides the theme of the context,
    and `null` under a dotted key hides the field of the object: neither path has a value. Without
    the fields that are `null` both have. -/
theorem null_hides_a_value :
    let loop := openTag .each "words" ++ tagText "theme" ++ closeTag .each
    let words : Context := ⟨[("theme", .string "food"),
      ("words", .array [.object [("theme", .null)]])]⟩
    let user : Context := ⟨[("user", .object [("name", .string "Ana")]), ("user.name", .null)]⟩
    renderBody 1 loop words = .error (.undefinedVariable "theme" 1) ∧
    renderBody 1 loop words.withoutNulls = .ok "food" ∧
    renderBody 1 (tagText "user.name") user = .error (.undefinedVariable "user.name" 1) ∧
    renderBody 1 (tagText "user.name") user.withoutNulls = .ok "Ana" := by
  decide +kernel

end BilingualLessons.Template
