import BilingualLessons.Proofs.Template.Relocation

namespace BilingualLessons.Template

/-!
# Sources in a row

Nothing is carried over from one source into the next: neither an open tag, nor an open block, nor
a value.

* `Reading.under` — a reading with nodes beneath it; `readAll_under` says that they stay there.
* `parseTokens_append` — tokens behind tokens that are parsed.
* `RenderInTurn` — nodes whose text is that of two lists of nodes in a row.
* `parse_append`, `renderBody_append` — a source behind a sealed one that is parsed.
* `rendering_is_compositional` — its text, and its faults, behind that of the first.
-/

/-! ### Nodes beneath a reading -/

/-- Open blocks with more nodes before the outermost one. -/
def underStack (base : List Node) : List OpenBlock → List OpenBlock
  | [] => []
  | [block] => [{ block with before := block.before ++ base }]
  | block :: outer => block :: underStack base outer

/-- What has been read, with more nodes before all of it. -/
def Reading.under (base : List Node) (reading : Reading) : Reading :=
  match reading.stack with
  | [] => ⟨[], reading.done ++ base⟩
  | stack => ⟨underStack base stack, reading.done⟩

theorem length_underStack (base : List Node) (stack : List OpenBlock) :
    (underStack base stack).length = stack.length := by
  fun_induction underStack base stack <;> simp_all

/-- No token looks at what lies beneath. -/
theorem read_under (limit : Nat) (base : List Node) (reading : Reading) (token : Token) :
    (reading.under base).read limit token = Reading.under base <$> reading.read limit token := by
  obtain ⟨stack, done⟩ := reading
  obtain ⟨kind, line⟩ := token
  -- with no block open `base` lies beneath the nodes themselves, else beneath the outermost block
  cases stack with
  | nil =>
    cases kind
    case opener kind path =>
      by_cases hlimit : limit < 1 <;> simp [Reading.under, Reading.read, underStack, hlimit]
    all_goals rfl
  | cons block outer =>
    cases kind with
    | text literal => rfl
    | substitution path => rfl
    | opener kind path =>
      simp only [Reading.under, Reading.read, length_underStack]
      split <;> rfl
    | alternative =>
      -- the block that `else` belongs to can be the outermost one, which `base` stands before
      cases outer <;>
        · simp only [Reading.under, Reading.read, underStack]
          split
          · rfl
          · split <;> rfl
    | closer kind =>
      cases outer <;>
        · simp only [Reading.under, Reading.read, underStack]
          split <;> rfl

theorem readAll_under (limit : Nat) (base : List Node) (reading : Reading) (tokens : List Token) :
    (reading.under base).readAll limit tokens
      = Reading.under base <$> reading.readAll limit tokens := by
  induction tokens generalizing reading with
  | nil => rfl
  | cons token rest ih =>
    rw [readAll_cons, readAll_cons, read_under]
    cases reading.read limit token with
    | error fault => rfl
    | ok next => exact ih next

theorem finish_under (base : List Node) (reading : Reading) :
    (reading.under base).finish = (base.reverse ++ ·) <$> reading.finish := by
  obtain ⟨stack, done⟩ := reading
  match stack with
  | [] => simp [Reading.under, Reading.finish]
  | [block] => rfl
  | block :: next :: outer => rfl

/-- **Tokens in a row.** Behind tokens that are parsed others are parsed as they are alone. -/
theorem parseTokens_append {limit : Nat} {left : List Token} {nodes : List Node}
    (h : parseTokens limit left = .ok nodes) (right : List Token) :
    parseTokens limit (left ++ right) = (nodes ++ ·) <$> parseTokens limit right := by
  have hunder : (⟨[], nodes.reverse⟩ : Reading) = Reading.start.under nodes.reverse := rfl
  rw [parseTokens_eq_readAll, parseTokens_eq_readAll, readAll_append,
    parseTokens_eq_ok_iff.mp h, ok_bind, hunder, readAll_under]
  cases Reading.start.readAll limit right with
  | error fault => rfl
  | ok reading => simp [finish_under]

/-! ### Texts in a row -/

/-- The nodes `both` render as `left` and then `right` in every scope. -/
def RenderInTurn (left right both : List Node) : Prop :=
  ∀ scope, renderNodes scope both = (do
    let first ← renderNodes scope left
    let second ← renderNodes scope right
    return first ++ second)

theorem renderInTurn_append (left right : List Node) : RenderInTurn left right (left ++ right) := by
  intro scope
  induction left with
  | nil =>
    simp only [List.nil_append, renderNodes, ok_bind]
    cases renderNodes scope right <;> simp
  | cons node rest ih =>
    simp only [List.cons_append, renderNodes, ih]
    cases node.render scope with
    | error fault => rfl
    | ok text =>
      cases renderNodes scope rest with
      | error fault => rfl
      | ok others => cases renderNodes scope right <;> simp [String.append_assoc]

/-- Text that was cut in two renders as its parts in turn. -/
theorem renderInTurn_text (left right : List Node) (text more : String) :
    RenderInTurn (left ++ [.text text]) (.text more :: right)
      (left ++ .text (text ++ more) :: right) := by
  intro scope
  simp only [renderInTurn_append left _ scope, renderNodes, Node.render, ok_bind, pure_eq_ok]
  cases renderNodes scope left with
  | error fault => rfl
  | ok first => cases renderNodes scope right <;> simp [String.append_assoc]

/-- A text at the end of tokens is the last node; what is before it is parsed without it. -/
theorem parseTokens_of_append_text {limit : Nat} {tokens : List Token} {text : String} {line : Nat}
    {nodes : List Node} (h : parseTokens limit (tokens ++ [⟨.text text, line⟩]) = .ok nodes) :
    ∃ front, parseTokens limit tokens = .ok front ∧ nodes = front ++ [.text text] := by
  rw [parseTokens_eq_ok_iff, readAll_append, bind_eq_ok_iff] at h
  obtain ⟨⟨stack, done⟩, hbefore, htext⟩ := h
  rw [readAll_cons, read_text, ok_bind, readAll_nil] at htext
  -- a text only adds a node, so no block is open before it if none is behind it
  injection htext with hreading
  injection hreading with hstack hdone
  subst hstack
  refine ⟨done.reverse, parseTokens_eq_ok_iff.mpr (by rw [hbefore, List.reverse_reverse]), ?_⟩
  rw [← List.reverse_reverse nodes, ← hdone, List.reverse_cons]

/-- A text at the head of tokens is the first node. -/
theorem parseTokens_text (limit : Nat) (text : String) (line : Nat) (tokens : List Token) :
    parseTokens limit (⟨.text text, line⟩ :: tokens)
      = (Node.text text :: ·) <$> parseTokens limit tokens := by
  have hone : parseTokens limit [⟨.text text, line⟩] = .ok [.text text] := rfl
  exact parseTokens_append hone tokens

/-- **Joined tokens.** Tokens that are joined to tokens that are parsed fail as they do alone, or
    have nodes that render in turn with those. -/
theorem parseTokens_joinTokens {limit : Nat} {left : List Token} {nodes : List Node}
    (h : parseTokens limit left = .ok nodes) (right : List Token) :
    (∀ fault, parseTokens limit right = .error fault →
      parseTokens limit (joinTokens left right) = .error fault) ∧
    (∀ more, parseTokens limit right = .ok more → ∃ both,
      parseTokens limit (joinTokens left right) = .ok both ∧ RenderInTurn nodes more both) := by
  rcases joinTokens_cases left right with
    heq | ⟨before, text, line, more, line', after, rfl, rfl, heq⟩
  · rw [heq, parseTokens_append h]
    refine ⟨fun fault hright => by rw [hright]; rfl, fun more hright => ?_⟩
    rw [hright]
    exact ⟨nodes ++ more, rfl, renderInTurn_append nodes more⟩
  · -- the two texts at the border are one token and so one node
    obtain ⟨front, hfront, rfl⟩ := parseTokens_of_append_text h
    rw [heq, parseTokens_append hfront, parseTokens_text, parseTokens_text]
    cases parseTokens limit after with
    | error fault => simp
    | ok rest =>
      refine ⟨by simp, ?_⟩
      rintro _ ⟨⟩
      exact ⟨_, rfl, renderInTurn_text front rest text more⟩

/-! ### Sources in a row -/

/-- **Parsing sources in a row.** A source behind a sealed one that is parsed fails as it does
    alone, further down, or has nodes that render in turn with those of the first. -/
theorem parse_append {limit : Nat} {left : String} {nodes : List Node} (hs : Sealed left.toList)
    (h : parse limit left = .ok nodes) (right : String) :
    (∀ fault, parse limit right = .error fault →
      parse limit (left ++ right) = .error (fault.shift (Text.lineEnds left.toList))) ∧
    (∀ more, parse limit right = .ok more → ∃ both, parse limit (left ++ right) = .ok both ∧
      RenderInTurn nodes (shiftNodes (Text.lineEnds left.toList) more) both) := by
  obtain ⟨tokens, htokens, hparse⟩ := bind_eq_ok_iff.mp h
  simp only [parse, tokenize_append hs htokens]
  cases tokenize right with
  | error fault => simp
  | ok others =>
    obtain ⟨hfault, hnodes⟩ := parseTokens_joinTokens hparse
      (others.map (Token.shift (Text.lineEnds left.toList)))
    rw [parseTokens_shift] at hfault hnodes
    -- moving the second source down changes its lines only, whether it is parsed or not
    simp only [movedBy_ok, map_ok, ok_bind]
    refine ⟨fun fault hright => hfault _ (by rw [hright]; rfl), fun more hright => ?_⟩
    exact hnodes _ (by rw [hright]; rfl)

/-- **Rendering sources in a row.** Two sources that are parsed, the first of them sealed, render as
    the text of the first and then that of the second, which is as it is alone, but for its
    lines. -/
theorem renderBody_append {limit : Nat} {left right : String} {nodes more : List Node}
    (hs : Sealed left.toList) (h : parse limit left = .ok nodes)
    (hright : parse limit right = .ok more) (context : Context) :
    renderBody limit (left ++ right) context = (do
      let first ← renderBody limit left context
      let second ← movedBy (Text.lineEnds left.toList) id (renderBody limit right context)
      return first ++ second) := by
  obtain ⟨both, hboth, hturn⟩ := (parse_append hs h right).2 more hright
  simp only [renderBody, h, hright, hboth, ok_bind]
  rw [hturn, renderNodes_shift]

/-- **Rendering is compositional.** Behind a sealed source that is parsed, another source is
    parsed exactly when it is parsed alone, and else fails as it does alone, further down by the
    line ends of the first. If it is parsed, the two render as the text of the first and the text
    of the second; the first fault counts, and one of the second is further down. -/
theorem rendering_is_compositional (limit : Nat) (left right : String) (context : Context)
    (nodes : List Node) (hs : Sealed left.toList) (h : parse limit left = .ok nodes) :
    ((∃ both, parse limit (left ++ right) = .ok both) ↔ ∃ more, parse limit right = .ok more) ∧
    (∀ fault, parse limit right = .error fault →
      parse limit (left ++ right) = .error (fault.shift (Text.lineEnds left.toList))) ∧
    (∀ more, parse limit right = .ok more →
      renderBody limit (left ++ right) context =
        match renderBody limit left context, renderBody limit right context with
        | .ok first, .ok second => .ok (first ++ second)
        | .error fault, _ => .error fault
        | .ok _, .error fault => .error (fault.shift (Text.lineEnds left.toList))) := by
  obtain ⟨hfault, hnodes⟩ := parse_append hs h right
  refine ⟨⟨?_, ?_⟩, hfault, ?_⟩
  · rintro ⟨both, hboth⟩
    cases hright : parse limit right with
    | error fault => exact absurd (hboth.symm.trans (hfault fault hright)) (by simp)
    | ok more => exact ⟨more, rfl⟩
  · rintro ⟨more, hright⟩
    obtain ⟨both, hboth, _⟩ := hnodes more hright
    exact ⟨both, hboth⟩
  · intro more hright
    rw [renderBody_append hs h hright]
    cases renderBody limit left context with
    | error fault => rfl
    | ok first => cases renderBody limit right context <;> rfl

/-- Behind a line end, one source that renders and one that fails a line further down. -/
theorem rendering_is_compositional_behind_a_line_end :
    Sealed "tak\n".toList ∧ parse 0 "tak\n" = .ok [.text "tak\n"] ∧
    renderBody 0 ("tak\n" ++ tagText "word") ⟨[("word", .string "nej")]⟩ = .ok "tak\nnej" ∧
    renderBody 0 ("tak\n" ++ tagText "word") ⟨[]⟩ = .error (.undefinedVariable "word" 2) := by
  have hs : Sealed "tak\n".toList := by decide
  have h : parse 0 "tak\n" = .ok [.text "tak\n"] := by rfl
  have hright : parse 0 (tagText "word") = .ok [.substitution "word" 1] := by rfl
  have hnej := rendering_is_compositional 0 "tak\n" (tagText "word") ⟨[("word", .string "nej")]⟩
    _ hs h
  have hnone := rendering_is_compositional 0 "tak\n" (tagText "word") ⟨[]⟩ _ hs h
  exact ⟨hs, h, hnej.2.2 _ hright, hnone.2.2 _ hright⟩

end BilingualLessons.Template
