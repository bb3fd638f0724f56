import BilingualLessons.Proofs.Template.BlockSource
import BilingualLessons.Proofs.Template.Concatenation

namespace BilingualLessons.Template

/-!
# Two branches

There are three ways to write one text for where a value is true and another for where it is not:
with `else` in a block that asks for the value, with one block for each case in a row, and with
`else` in a block that asks for the opposite, the branches swapped.  Each renders the branch that is
taken as a source of its own and does not look at the other one.

* `parse_block_else` — a block around two sources with `else` between has the nodes of both inside.
* `renderBody_block`, `renderBody_block_else` — the text of a conditional block from the texts of
  its branches.
* `withoutLines` — a result that does not tell the line of a fault.
* `conditionals_are_interchangeable` — the three ways come to the same.
-/

/-! ### Parsing -/

/-- The tokens of a block with two branches: its opening tag, those of the first source, `else`,
    those of the second source further down, its closing tag. -/
theorem tokenize_block_else (kind : BlockKind) {path first second : String}
    {left right : List Token} (hp : isPath path = true) (hfirst : Sealed first.toList)
    (hsecond : Sealed second.toList) (hleft : tokenize first = .ok left)
    (hright : tokenize second = .ok right) :
    let lines := Text.lineEnds first.toList
    tokenize (openTag kind path ++ first ++ elseTag ++ second ++ closeTag kind)
      = .ok (⟨.opener kind path, 1⟩ :: (left ++ ⟨.alternative, 1 + lines⟩ ::
          (right.map (Token.shift lines) ++
            [⟨.closer kind, 1 + Text.lineEnds second.toList + lines⟩]))) := by
  intro lines
  have hcloser : tokenize (second ++ closeTag kind)
      = .ok (right ++ [⟨.closer kind, 1 + Text.lineEnds second.toList⟩]) :=
    tokenize_append_tag hsecond hright rfl (tokenize_closeTag_alone kind)
  have helse : tokenize (elseTag ++ (second ++ closeTag kind))
      = .ok (⟨.alternative, 1⟩ ::
          (right ++ [⟨.closer kind, 1 + Text.lineEnds second.toList⟩])) := by
    rw [tokenize_elseTag, hcloser, map_ok]
  have hassoc : openTag kind path ++ first ++ elseTag ++ second ++ closeTag kind
      = openTag kind path ++ (first ++ (elseTag ++ (second ++ closeTag kind))) := by
    simp only [String.append_assoc]
  rw [hassoc, tokenize_openTag kind hp, tokenize_append_tag hfirst hleft rfl helse, map_ok,
    List.map_cons, List.map_append]
  rfl

/-- Tokens further down write out the nodes further down, and are nested as deep. -/
theorem written_shift {nodes : List Node} {tokens : List Token} (h : Written nodes tokens)
    (lines : Nat) :
    Written (shiftNodes lines nodes) (tokens.map (Token.shift lines)) ∧
      nesting (tokens.map (Token.shift lines)) ≤ nesting tokens := by
  have hparse : parseTokens (nesting tokens) tokens = .ok nodes :=
    (parseTokens_eq_ok_iff_written _ _ _).mpr ⟨h, Nat.le_refl _⟩
  have hmoved := parseTokens_shift (nesting tokens) lines tokens
  rw [hparse, movedBy_ok] at hmoved
  exact (parseTokens_eq_ok_iff_written _ _ _).mp hmoved

/-- **Blocks around two sources.** A conditional block around two sealed sources that are parsed,
    with `else` between, is parsed one level deeper, to one node on the first line with the nodes of
    the two sources in it. -/
theorem parse_block_else (negated : Bool) {limit : Nat} {path first second : String}
    {nodes others : List Node} (hp : isPath path = true) (hfirst : Sealed first.toList)
    (hsecond : Sealed second.toList) (hnodes : parse limit first = .ok nodes)
    (hothers : parse limit second = .ok others) :
    let kind := BlockKind.ofNegated negated
    parse (limit + 1) (openTag kind path ++ first ++ elseTag ++ second ++ closeTag kind)
      = .ok [.conditional negated path 1 nodes
          (shiftNodes (Text.lineEnds first.toList) others)] := by
  intro kind
  obtain ⟨left, hleft, hwritten, hn⟩ := exists_written_of_parse hnodes
  obtain ⟨right, hright, hwritten', hn'⟩ := exists_written_of_parse hothers
  obtain ⟨hmoved, hdown⟩ := written_shift hwritten' (Text.lineEnds first.toList)
  refine parse_of_written (tokenize_block_else kind hp hfirst hsecond hleft hright)
    (.conditional negated path 1 _ _ hwritten hmoved .nil) ?_
  -- both branches stand one block deeper than the sources they come from
  have hdeep : nestingFrom 1 left = nesting left + 1 := nestingFrom_succ hwritten 0
  have hdeep' : ∀ lines, nestingFrom 1 (right.map (Token.shift lines))
      = nesting (right.map (Token.shift lines)) + 1 :=
    fun lines => nestingFrom_succ (written_shift hwritten' lines).1 0
  simp only [nesting, nestingFrom, depthAfter, Nat.zero_add, nestingFrom_append hwritten,
    nestingFrom_append hmoved] at hdeep hdeep' hn hn' hdown ⊢
  rw [hdeep, hdeep']
  omega

/-! ### Rendering -/

section

variable {limit : Nat} {path first second : String} {nodes others : List Node}

/-- One node alone has the text of the node. -/
theorem renderNodes_singleton (scope : Scope) (node : Node) :
    renderNodes scope [node] = node.render scope := by
  simp [renderNodes]

/-- **A block with one branch** has the text of its branch if the branch is taken, and else no
    text. -/
theorem renderBody_block (negated : Bool) (hp : isPath path = true) (hfirst : Sealed first.toList)
    (hnodes : parse limit first = .ok nodes) (context : Context) :
    let kind := BlockKind.ofNegated negated
    renderBody (limit + 1) (openTag kind path ++ first ++ closeTag kind) context
      = if isTruthy (Scope.resolve [.values context.values] path) ≠ negated then
          renderBody (limit + 1) first context
        else .ok "" := by
  intro kind
  have hblock : parse (limit + 1) (openTag kind path ++ first ++ closeTag kind)
      = .ok [.conditional negated path 1 nodes []] := by
    rw [parse_block kind hp hfirst hnodes, close_ofNegated]
  have hbody : parse (limit + 1) first = .ok nodes := parse_mono hnodes (Nat.le_succ limit)
  rw [renderBody, hblock, ok_bind, renderNodes_singleton, Node.render, renderBody, hbody, ok_bind,
    renderNodes]

/-- **A block with two branches** has the text of the branch that is taken; that of the second one
    stands further down, by the line ends of the first. -/
theorem renderBody_block_else (negated : Bool) (hp : isPath path = true)
    (hfirst : Sealed first.toList) (hsecond : Sealed second.toList)
    (hnodes : parse limit first = .ok nodes) (hothers : parse limit second = .ok others)
    (context : Context) :
    let kind := BlockKind.ofNegated negated
    renderBody (limit + 1)
        (openTag kind path ++ first ++ elseTag ++ second ++ closeTag kind) context
      = if isTruthy (Scope.resolve [.values context.values] path) ≠ negated then
          renderBody (limit + 1) first context
        else movedBy (Text.lineEnds first.toList) id (renderBody (limit + 1) second context) := by
  intro kind
  have hblock := parse_block_else negated hp hfirst hsecond hnodes hothers
  have hbody : parse (limit + 1) first = .ok nodes := parse_mono hnodes (Nat.le_succ limit)
  have hbody' : parse (limit + 1) second = .ok others := parse_mono hothers (Nat.le_succ limit)
  rw [renderBody, hblock, ok_bind, renderNodes_singleton, Node.render, renderNodes_shift,
    renderBody, hbody, ok_bind, renderBody, hbody', ok_bind]

/-- A source that ends in a tag is sealed. -/
theorem sealed_append_tagText (source content : String) :
    Sealed (source ++ tagText content).toList := by
  have hchars : (source ++ tagText content).toList
      = source.toList ++ '{' :: '{' :: (content.toList ++ ['}']) ++ ['}'] := by
    simp [tagText]
  have hlast : (source ++ tagText content).toList.getLast? = some '}' := by
    rw [hchars, List.getLast?_concat]
  rw [Sealed, hlast]
  decide

/-- A tag without needless blanks has no line ends. -/
theorem lineEnds_tagText (kind : TokenKind) {content : String} (h : kind.Legible)
    (hcontent : content.toList = kind.content .narrow) :
    Text.lineEnds (tagText content).toList = 0 := by
  have hbraces : Text.lineEnds (tagText content).toList = Text.lineEnds content.toList := by
    simp [tagText, Text.lineEnds]
  rw [hbraces, hcontent, lineEnds_content_narrow h]

/-- The tags of a block do not add to the line ends of what they stand around. -/
theorem lineEnds_block (kind : BlockKind) (hp : isPath path = true) (body : String) :
    Text.lineEnds (openTag kind path ++ body ++ closeTag kind).toList
      = Text.lineEnds body.toList := by
  have hopen : Text.lineEnds (openTag kind path).toList = 0 := by
    refine lineEnds_tagText (.opener kind path) hp ?_
    simp [TokenKind.content, TokenKind.core, Padding.narrow]
  have hclose : Text.lineEnds (closeTag kind).toList = 0 := by
    refine lineEnds_tagText (.closer kind) trivial ?_
    simp [TokenKind.content, TokenKind.core, Padding.narrow]
  rw [String.toList_append, String.toList_append, Text.lineEnds_append, Text.lineEnds_append,
    hopen, hclose, Nat.zero_add, Nat.add_zero]

/-- **Two blocks in a row**, the second one for where the first is not taken, have the text of the
    branch that is taken, which stands where it stands in one block with two branches. -/
theorem renderBody_blocks (hp : isPath path = true) (hfirst : Sealed first.toList)
    (hsecond : Sealed second.toList) (hnodes : parse limit first = .ok nodes)
    (hothers : parse limit second = .ok others) (context : Context) :
    renderBody (limit + 1) (openTag .truthy path ++ first ++ closeTag .truthy ++
        (openTag .falsy path ++ second ++ closeTag .falsy)) context
      = if isTruthy (Scope.resolve [.values context.values] path) then
          renderBody (limit + 1) first context
        else movedBy (Text.lineEnds first.toList) id (renderBody (limit + 1) second context) := by
  have hleft := renderBody_block false hp hfirst hnodes context
  have hright := renderBody_block true hp hsecond hothers context
  simp only [BlockKind.ofNegated] at hleft hright
  have hsealed : Sealed (openTag .truthy path ++ first ++ closeTag .truthy).toList :=
    sealed_append_tagText _ _
  rw [renderBody_append hsealed (parse_block .truthy hp hfirst hnodes)
    (parse_block .falsy hp hsecond hothers), lineEnds_block _ hp, hleft, hright]
  -- one of the two blocks has no text
  cases isTruthy (Scope.resolve [.values context.values] path) with
  | true =>
    rw [if_pos (by decide), if_neg (by decide), if_pos rfl, movedBy_ok]
    cases renderBody (limit + 1) first context <;> simp
  | false =>
    rw [if_neg (by decide), if_pos (by decide), if_neg (by decide), ok_bind]
    cases renderBody (limit + 1) second context <;> simp

end

/-! ### Without lines -/

/-- The fault, as if it were on this line. -/
def Fault.onLine (line : Nat) : Fault → Fault
  | .undefinedVariable path _ => .undefinedVariable path line
  | .notScalar path kind _ => .notScalar path kind line
  | .notAnArray path kind _ => .notAnArray path kind line
  | .malformed fault _ => .malformed fault line
  | .unclosedBlock kind _ => .unclosedBlock kind line
  | .nestingTooDeep limit _ => .nestingTooDeep limit line

@[simp] theorem Fault.onLine_shift (line lines : Nat) (fault : Fault) :
    (fault.shift lines).onLine line = fault.onLine line := by
  cases fault <;> rfl

/-- A result that does not tell the line of a fault. -/
def withoutLines (result : Except Fault String) : Except Fault String :=
  result.mapError (Fault.onLine 0)

@[simp] theorem withoutLines_movedBy (lines : Nat) (result : Except Fault String) :
    withoutLines (movedBy lines id result) = withoutLines result := by
  cases result with
  | ok text => rfl
  | error fault => simp [withoutLines]

/-- **Conditionals are interchangeable.** Around two sealed sources that are parsed on their own one
    level higher, an `if` with `else` renders as an `if` and an `unless` in a row do, faults and
    their lines included, and, but for the lines of faults, as an `unless` with `else` does in which
    the two are swapped. If the source that the value of the path picks renders on its own, all
    three have its text, whatever the other source would come to. -/
theorem conditionals_are_interchangeable (limit : Nat) (path first second : String)
    (context : Context) (nodes others : List Node) (hp : isPath path = true)
    (hfirst : Sealed first.toList) (hsecond : Sealed second.toList)
    (hnodes : parse limit first = .ok nodes) (hothers : parse limit second = .ok others) :
    let together := openTag .truthy path ++ first ++ elseTag ++ second ++ closeTag .truthy
    let apart := openTag .truthy path ++ first ++ closeTag .truthy ++
      (openTag .falsy path ++ second ++ closeTag .falsy)
    let swapped := openTag .falsy path ++ second ++ elseTag ++ first ++ closeTag .falsy
    let render := fun source => renderBody (limit + 1) source context
    render apart = render together ∧
    withoutLines (render swapped) = withoutLines (render together) ∧
    ∀ text,
      render (if isTruthy (Scope.resolve [.values context.values] path) then first else second)
        = .ok text →
      render together = .ok text ∧ render apart = .ok text ∧ render swapped = .ok text := by
  intro together apart swapped render
  have htogether : render together = _ :=
    renderBody_block_else false hp hfirst hsecond hnodes hothers context
  have hswapped : render swapped = _ :=
    renderBody_block_else true hp hsecond hfirst hothers hnodes context
  have hapart : render apart = _ := renderBody_blocks hp hfirst hsecond hnodes hothers context
  -- the value of the path picks the same source in all three
  cases htruth : isTruthy (Scope.resolve [.values context.values] path) with
  | true =>
    rw [htruth, if_pos (by decide)] at htogether hapart
    rw [htruth, if_neg (by decide)] at hswapped
    refine ⟨hapart.trans htogether.symm, ?_, ?_⟩
    · rw [hswapped, htogether, withoutLines_movedBy]
    · intro text htext
      have htext : renderBody (limit + 1) first context = .ok text := htext
      rw [htogether, hapart, hswapped, htext]
      exact ⟨rfl, rfl, rfl⟩
  | false =>
    rw [htruth, if_neg (by decide)] at htogether hapart
    rw [htruth, if_pos (by decide)] at hswapped
    refine ⟨hapart.trans htogether.symm, ?_, ?_⟩
    · rw [hswapped, htogether, withoutLines_movedBy]
    · intro text htext
      have htext : renderBody (limit + 1) second context = .ok text := htext
      rw [htogether, hapart, hswapped, htext]
      exact ⟨rfl, rfl, rfl⟩

/-- A conditional before a line end, and behind one a variable that is not there: with a value the
    first is rendered whatever the second lacks; without one each fault is where its tag is. -/
theorem conditionals_are_interchangeable_around_a_missing_word :
    let first := openTag .truthy "short" ++ "ok" ++ elseTag ++ tagText "word" ++ closeTag .truthy
      ++ "\n"
    let second := "\n" ++ tagText "missing"
    let together := openTag .truthy "known" ++ first ++ elseTag ++ second ++ closeTag .truthy
    let apart := openTag .truthy "known" ++ first ++ closeTag .truthy ++
      (openTag .falsy "known" ++ second ++ closeTag .falsy)
    let swapped := openTag .falsy "known" ++ second ++ elseTag ++ first ++ closeTag .falsy
    let known : Context := ⟨[("known", .bool true), ("word", .string "tak")]⟩
    isPath "known" = true ∧ Sealed first.toList ∧ Sealed second.toList ∧
    parse 1 first = .ok [.conditional false "short" 1 [.text "ok"] [.substitution "word" 1],
      .text "\n"] ∧
    parse 1 second = .ok [.text "\n", .substitution "missing" 2] ∧
    renderBody 2 together known = .ok "tak\n" ∧ renderBody 2 apart known = .ok "tak\n" ∧
    renderBody 2 swapped known = .ok "tak\n" ∧
    renderBody 2 second known = .error (.undefinedVariable "missing" 2) ∧
    renderBody 2 apart ⟨[]⟩ = .error (.undefinedVariable "missing" 3) ∧
    withoutLines (renderBody 2 swapped ⟨[]⟩) = .error (.undefinedVariable "missing" 0) := by
  intro first second together apart swapped known
  have hp : isPath "known" = true := by decide
  have hfirst : Sealed first.toList := by decide
  have hsecond : Sealed second.toList := by decide
  have htokens : tokenize first = .ok [⟨.opener .truthy "short", 1⟩, ⟨.text "ok", 1⟩,
      ⟨.alternative, 1⟩, ⟨.substitution "word", 1⟩, ⟨.closer .truthy, 1⟩, ⟨.text "\n", 1⟩] := by
    decide +kernel
  have htokens' : tokenize second = .ok [⟨.text "\n", 1⟩, ⟨.substitution "missing", 2⟩] := by
    decide +kernel
  have hnodes : parse 1 first
      = .ok [.conditional false "short" 1 [.text "ok"] [.substitution "word" 1], .text "\n"] := by
    rw [parse, htokens]
    rfl
  have hothers : parse 1 second = .ok [.text "\n", .substitution "missing" 2] := by
    rw [parse, htokens']
    rfl
  have hknown := conditionals_are_interchangeable 1 "known" first second known _ _ hp hfirst hsecond
    hnodes hothers
  have hunknown := conditionals_are_interchangeable 1 "known" first second ⟨[]⟩ _ _ hp hfirst
    hsecond hnodes hothers
  have htext : renderBody 2 first known = .ok "tak\n" := by decide +kernel
  have hmissing : renderBody 2 second known = .error (.undefinedVariable "missing" 2) := by
    decide +kernel
  have hfault : renderBody 2 together ⟨[]⟩ = .error (.undefinedVariable "missing" 3) := by
    decide +kernel
  obtain ⟨htogether, hapart, hswapped⟩ := hknown.2.2 "tak\n" htext
  refine ⟨hp, hfirst, hsecond, hnodes, hothers, htogether, hapart, hswapped, hmissing,
    hunknown.1.trans hfault, hunknown.2.1.trans ?_⟩
  exact congrArg withoutLines hfault

end BilingualLessons.Template
