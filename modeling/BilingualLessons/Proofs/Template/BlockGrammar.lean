import BilingualLessons.Proofs.Template.Reading

namespace BilingualLessons.Template

/-!
# The grammar of blocks

Which tokens a tree of blocks is written with, and that parsing undoes this.

* `Written nodes tokens` — the grammar: tokens that `nodes` can be written with.
* `nesting` — how many blocks of a list of tokens are open at once.
* `readAll_of_written` — written nodes are read, if no block goes below the limit.
* `Unfinished` — the invariant of the reader: what has been read is written out by its state.
* `parseTokens_eq_ok_iff_written` — parsing accepts the grammar up to the limit and nothing else.
-/

/-- The kind of a conditional block. -/
def BlockKind.ofNegated : Bool → BlockKind
  | false => .truthy
  | true => .falsy

/-- The tokens of nodes. A block is its opening tag, its body and a closing tag of its kind; a
    conditional can have `else` between two branches and must have it if the second branch is not
    empty. Nodes with a path carry the line of their tag; the lines of texts, of `else` and of
    closing tags are free. -/
inductive Written : List Node → List Token → Prop where
  | nil : Written [] []
  | text (literal : String) (line : Nat) {nodes : List Node} {tokens : List Token} :
      Written nodes tokens → Written (.text literal :: nodes) (⟨.text literal, line⟩ :: tokens)
  | substitution (path : String) (line : Nat) {nodes : List Node} {tokens : List Token} :
      Written nodes tokens →
      Written (.substitution path line :: nodes) (⟨.substitution path, line⟩ :: tokens)
  | each (path : String) (line closed : Nat) {body nodes : List Node}
      {inner tokens : List Token} :
      Written body inner → Written nodes tokens →
      Written (.each path line body :: nodes)
        (⟨.opener .each path, line⟩ :: (inner ++ ⟨.closer .each, closed⟩ :: tokens))
  | conditional (negated : Bool) (path : String) (line turned closed : Nat)
      {positive otherwise nodes : List Node} {first second tokens : List Token} :
      Written positive first → Written otherwise second → Written nodes tokens →
      Written (.conditional negated path line positive otherwise :: nodes)
        (⟨.opener (.ofNegated negated) path, line⟩ :: (first ++ ⟨.alternative, turned⟩ ::
          (second ++ ⟨.closer (.ofNegated negated), closed⟩ :: tokens)))
  | shortConditional (negated : Bool) (path : String) (line closed : Nat)
      {positive nodes : List Node} {first tokens : List Token} :
      Written positive first → Written nodes tokens →
      Written (.conditional negated path line positive [] :: nodes)
        (⟨.opener (.ofNegated negated) path, line⟩ ::
          (first ++ ⟨.closer (.ofNegated negated), closed⟩ :: tokens))

/-- Nodes in a row are written with their tokens in a row. -/
theorem Written.append {left right : List Node} {ts us : List Token} (hl : Written left ts)
    (hr : Written right us) : Written (left ++ right) (ts ++ us) := by
  induction hl with
  | nil => exact hr
  | text literal line _ ih => exact .text literal line ih
  | substitution path line _ ih => exact .substitution path line ih
  | each path line closed hbody _ _ ih =>
    simpa using Written.each path line closed hbody ih
  | conditional negated path line turned closed hpos hoth _ _ _ ih =>
    simpa using Written.conditional negated path line turned closed hpos hoth ih
  | shortConditional negated path line closed hpos _ _ ih =>
    simpa using Written.shortConditional negated path line closed hpos ih

/-! ### Depth -/

/-- How many blocks are open behind a token. -/
def depthAfter (depth : Nat) (token : Token) : Nat :=
  match token.kind with
  | .opener _ _ => depth + 1
  | .closer _ => depth - 1
  | _ => depth

/-- The greatest number of blocks that are open at once, `depth` of them from the start. -/
def nestingFrom (depth : Nat) : List Token → Nat
  | [] => depth
  | token :: rest => max depth (nestingFrom (depthAfter depth token) rest)

/-- How deep the blocks of a list of tokens are nested. -/
def nesting (tokens : List Token) : Nat := nestingFrom 0 tokens

theorem le_nestingFrom (depth : Nat) (tokens : List Token) : depth ≤ nestingFrom depth tokens := by
  cases tokens with
  | nil => exact Nat.le_refl _
  | cons token rest => exact Nat.le_max_left _ _

/-- The nesting of tokens in a row: the second list starts at the depth the first one ends at. -/
theorem nestingFrom_append_foldl (depth : Nat) (left right : List Token) :
    nestingFrom depth (left ++ right)
      = max (nestingFrom depth left) (nestingFrom (left.foldl depthAfter depth) right) := by
  induction left generalizing depth with
  | nil => exact (Nat.max_eq_right (le_nestingFrom depth right)).symm
  | cons token rest ih =>
    rw [List.cons_append, nestingFrom, nestingFrom, ih, List.foldl_cons, Nat.max_assoc]

/-- Written nodes close what they open: the depth behind them is the depth before. -/
theorem foldl_depthAfter_of_written {nodes : List Node} {tokens : List Token}
    (h : Written nodes tokens) (depth : Nat) : tokens.foldl depthAfter depth = depth := by
  induction h generalizing depth with
  | nil => rfl
  | text literal line _ ih => exact ih depth
  | substitution path line _ ih => exact ih depth
  | each path line closed _ _ ihbody ih =>
    simp [depthAfter, ihbody, ih]
  | conditional negated path line turned closed _ _ _ ihpos ihoth ih =>
    simp [depthAfter, ihpos, ihoth, ih]
  | shortConditional negated path line closed _ _ ihpos ih =>
    simp [depthAfter, ihpos, ih]

/-- What stands behind written nodes is nested as it is without them. -/
theorem nestingFrom_append {nodes : List Node} {tokens : List Token} (h : Written nodes tokens)
    (depth : Nat) (rest : List Token) :
    nestingFrom depth (tokens ++ rest)
      = max (nestingFrom depth tokens) (nestingFrom depth rest) := by
  rw [nestingFrom_append_foldl, foldl_depthAfter_of_written h]

/-- Written nodes are nested one deeper inside one more block. -/
theorem nestingFrom_succ {nodes : List Node} {tokens : List Token} (h : Written nodes tokens)
    (depth : Nat) : nestingFrom (depth + 1) tokens = nestingFrom depth tokens + 1 := by
  induction h generalizing depth with
  | nil => rfl
  | text literal line _ ih =>
    simp only [nestingFrom, depthAfter, ih, Nat.add_max_add_right]
  | substitution path line _ ih =>
    simp only [nestingFrom, depthAfter, ih, Nat.add_max_add_right]
  | each path line closed hbody _ ihbody ih =>
    simp only [nestingFrom, depthAfter, nestingFrom_append hbody, Nat.add_sub_cancel, ihbody, ih,
      Nat.add_max_add_right]
  | conditional negated path line turned closed hpos hoth _ ihpos ihoth ih =>
    simp only [nestingFrom, depthAfter, nestingFrom_append hpos, nestingFrom_append hoth,
      Nat.add_sub_cancel, ihpos, ihoth, ih, Nat.add_max_add_right]
  | shortConditional negated path line closed hpos _ ihpos ih =>
    simp only [nestingFrom, depthAfter, nestingFrom_append hpos, Nat.add_sub_cancel, ihpos, ih,
      Nat.add_max_add_right]

/-- A step leaves as many blocks open as its token says, and not more than the limit. -/
theorem Reading.Step.depth {limit : Nat} {reading next : Reading} {token : Token}
    (h : Reading.Step limit reading token next) (hd : reading.stack.length ≤ limit) :
    next.stack.length = depthAfter reading.stack.length token ∧ next.stack.length ≤ limit := by
  cases h with
  | literal => exact ⟨rfl, hd⟩
  | substitution => exact ⟨rfl, hd⟩
  | opens _ _ _ _ _ hlimit => exact ⟨rfl, hlimit⟩
  | turns => exact ⟨rfl, hd⟩
  | closes =>
    rw [List.length_cons] at hd
    exact ⟨by simp [depthAfter], Nat.le_of_succ_le hd⟩

/-- Tokens that are read are not nested below the limit. -/
theorem nestingFrom_le_of_readAll {limit : Nat} {reading next : Reading} {tokens : List Token}
    (hd : reading.stack.length ≤ limit) (h : reading.readAll limit tokens = .ok next) :
    nestingFrom reading.stack.length tokens ≤ limit := by
  induction tokens generalizing reading with
  | nil => exact hd
  | cons token rest ih =>
    obtain ⟨middle, hstep, hrest⟩ := bind_eq_ok_iff.mp h
    obtain ⟨hdepth, hlimit⟩ := (read_eq_ok_iff.mp hstep).depth hd
    have hinner := ih hlimit hrest
    rw [hdepth] at hinner
    exact Nat.max_le.mpr ⟨hd, hinner⟩

/-! ### Written nodes are read -/

/-- A conditional block that ends is a conditional, with an empty second branch if there was no
    `else`. -/
theorem close_ofNegated (negated : Bool) (path : String) (line : Nat) (before : List Node)
    (positive : Option (List Node)) (body : List Node) :
    OpenBlock.close ⟨.ofNegated negated, path, line, before, positive⟩ body
      = match positive with
        | none => .conditional negated path line body []
        | some first => .conditional negated path line first body := by
  cases negated <;> cases positive <;> rfl

section

variable {limit : Nat} {stack : List OpenBlock} {done : List Node}

/-- A block is read when its inside is: from its opening tag on, the tokens up to its closing tag
    leave the block open, with its last branch read. -/
theorem readAll_block (block : OpenBlock) {inner tokens : List Token} {body : List Node}
    (hlimit : stack.length + 1 ≤ limit) (hbefore : block.before = done)
    (hinner : Reading.readAll limit ⟨{ block with positive := none } :: stack, []⟩ inner
      = .ok ⟨block :: stack, body.reverse⟩) (closed : Nat) :
    Reading.readAll limit ⟨stack, done⟩ (⟨.opener block.kind block.path, block.line⟩ ::
        (inner ++ ⟨.closer block.kind, closed⟩ :: tokens))
      = Reading.readAll limit ⟨stack, block.close body :: done⟩ tokens := by
  subst hbefore
  rw [readAll_cons, read_opener _ _ hlimit, ok_bind, readAll_append, hinner, ok_bind, readAll_cons,
    read_closer, ok_bind, List.reverse_reverse]

/-- **Completeness.** Written nodes are read, if their blocks stay above the limit. -/
theorem readAll_of_written {nodes : List Node} {tokens : List Token} (h : Written nodes tokens)
    (hn : nestingFrom stack.length tokens ≤ limit) :
    Reading.readAll limit ⟨stack, done⟩ tokens = .ok ⟨stack, nodes.reverse ++ done⟩ := by
  induction h generalizing stack done with
  | nil => rfl
  | text literal line _ ih =>
    rw [readAll_cons, read_text, ok_bind, ih (Nat.le_trans (Nat.le_max_right _ _) hn)]
    simp
  | substitution path line _ ih =>
    rw [readAll_cons, read_substitution, ok_bind, ih (Nat.le_trans (Nat.le_max_right _ _) hn)]
    simp
  | @each path line closed body nodes inner tokens hbody _ ihbody ih =>
    simp only [nestingFrom, depthAfter, nestingFrom_append hbody, Nat.add_sub_cancel] at hn
    have hinner : Reading.readAll limit ⟨⟨.each, path, line, done, none⟩ :: stack, []⟩ inner
        = .ok ⟨⟨.each, path, line, done, none⟩ :: stack, body.reverse⟩ := by
      rw [ihbody (by rw [List.length_cons]; omega), List.append_nil]
    rw [readAll_block ⟨.each, path, line, done, none⟩ (by omega) rfl hinner, ih (by omega)]
    simp [OpenBlock.close]
  | @conditional negated path line turned closed positive otherwise nodes first second tokens hpos
      hoth _ ihpos ihoth ih =>
    simp only [nestingFrom, depthAfter, nestingFrom_append hpos, nestingFrom_append hoth,
      Nat.add_sub_cancel] at hn
    have hinner : Reading.readAll limit ⟨⟨.ofNegated negated, path, line, done, none⟩ :: stack, []⟩
        (first ++ ⟨.alternative, turned⟩ :: second)
          = .ok ⟨⟨.ofNegated negated, path, line, done, some positive⟩ :: stack,
              otherwise.reverse⟩ := by
      -- up to `else` the block has no first branch, behind it `positive`
      have hkind : BlockKind.ofNegated negated ≠ .each := by cases negated <;> decide
      rw [readAll_append, ihpos (by rw [List.length_cons]; omega), ok_bind, readAll_cons,
        read_alternative hkind rfl, ok_bind, ihoth (by rw [List.length_cons]; omega)]
      simp
    have hassoc : ∀ us, first ++ ⟨.alternative, turned⟩ :: (second ++ us)
        = (first ++ ⟨.alternative, turned⟩ :: second) ++ us := by simp
    rw [hassoc,
      readAll_block ⟨.ofNegated negated, path, line, done, some positive⟩ (by omega) rfl hinner,
      close_ofNegated, ih (by omega)]
    simp
  | @shortConditional negated path line closed positive nodes first tokens hpos _ ihpos ih =>
    simp only [nestingFrom, depthAfter, nestingFrom_append hpos, Nat.add_sub_cancel] at hn
    have hinner : Reading.readAll limit ⟨⟨.ofNegated negated, path, line, done, none⟩ :: stack, []⟩
        first = .ok ⟨⟨.ofNegated negated, path, line, done, none⟩ :: stack, positive.reverse⟩ := by
      rw [ihpos (by rw [List.length_cons]; omega), List.append_nil]
    rw [readAll_block ⟨.ofNegated negated, path, line, done, none⟩ (by omega) rfl hinner,
      close_ofNegated, ih (by omega)]
    simp

end

/-! ### What is read is written -/

/-- The invariant of the reader: the tokens it has read write out its state. Around every open
    block stands what was read before it; a block without a first branch of its own is its opening
    tag, one with a first branch is its opening tag, that branch and `else`. -/
inductive Unfinished : Reading → List Token → Prop where
  | top {done : List Node} {tokens : List Token} :
      Written done.reverse tokens → Unfinished ⟨[], done⟩ tokens
  | first {block : OpenBlock} {outer : List OpenBlock} {done : List Node}
      {before inner : List Token} (hfirst : block.positive = none) :
      Unfinished ⟨outer, block.before⟩ before → Written done.reverse inner →
      Unfinished ⟨block :: outer, done⟩
        (before ++ ⟨.opener block.kind block.path, block.line⟩ :: inner)
  | second {block : OpenBlock} {outer : List OpenBlock} {done positive : List Node}
      {before left inner : List Token} (turned : Nat) (hkind : block.kind ≠ .each)
      (hsecond : block.positive = some positive) :
      Unfinished ⟨outer, block.before⟩ before → Written positive left →
      Written done.reverse inner →
      Unfinished ⟨block :: outer, done⟩
        (before ++ ⟨.opener block.kind block.path, block.line⟩ ::
          (left ++ ⟨.alternative, turned⟩ :: inner))

/-- One more node in the innermost block is written behind what was read. -/
theorem Unfinished.push {stack : List OpenBlock} {done : List Node} {tokens us : List Token}
    {node : Node} (h : Unfinished ⟨stack, done⟩ tokens) (hnode : Written [node] us) :
    Unfinished ⟨stack, node :: done⟩ (tokens ++ us) := by
  have hdone : ∀ {inner : List Token}, Written done.reverse inner →
      Written (node :: done).reverse (inner ++ us) := by
    intro inner hinner
    rw [List.reverse_cons]
    exact hinner.append hnode
  cases h with
  | top hwritten => exact .top (hdone hwritten)
  | first hfirst hbefore hinner => simpa using Unfinished.first hfirst hbefore (hdone hinner)
  | second turned hkind hsecond hbefore hleft hinner =>
    simpa using Unfinished.second turned hkind hsecond hbefore hleft (hdone hinner)

/-- A block without a second branch is written by its opening tag, its body and its closing
    tag. -/
theorem written_close_of_none {block : OpenBlock} {body : List Node} {inner : List Token}
    (hfirst : block.positive = none) (hbody : Written body inner) (closed : Nat) :
    Written [block.close body] (⟨.opener block.kind block.path, block.line⟩ ::
      (inner ++ [⟨.closer block.kind, closed⟩])) := by
  obtain ⟨kind, path, line, before, positive⟩ := block
  obtain rfl : positive = none := hfirst
  cases kind with
  | each => exact .each path line closed hbody .nil
  | truthy => exact .shortConditional false path line closed hbody .nil
  | falsy => exact .shortConditional true path line closed hbody .nil

/-- A conditional with a second branch is written with `else` between the two. -/
theorem written_close_of_some {block : OpenBlock} {first body : List Node}
    {left inner : List Token} (hkind : block.kind ≠ .each) (hsecond : block.positive = some first)
    (hleft : Written first left) (hbody : Written body inner) (turned closed : Nat) :
    Written [block.close body] (⟨.opener block.kind block.path, block.line⟩ ::
      (left ++ ⟨.alternative, turned⟩ :: (inner ++ [⟨.closer block.kind, closed⟩]))) := by
  obtain ⟨kind, path, line, before, positive⟩ := block
  obtain rfl : positive = some first := hsecond
  cases kind with
  | each => exact absurd rfl hkind
  | truthy => exact .conditional false path line turned closed hleft hbody .nil
  | falsy => exact .conditional true path line turned closed hleft hbody .nil

/-- A step keeps the invariant. -/
theorem Unfinished.step {limit : Nat} {reading next : Reading} {token : Token}
    {tokens : List Token} (h : Unfinished reading tokens)
    (hstep : Reading.Step limit reading token next) : Unfinished next (tokens ++ [token]) := by
  cases hstep with
  | literal stack done literal line => exact h.push (.text literal line .nil)
  | substitution stack done path line => exact h.push (.substitution path line .nil)
  | opens stack done kind path line hlimit => exact .first rfl h .nil
  | turns block outer done line hkind hfirst =>
    cases h with
    | first _ hbefore hinner =>
      -- what stands before `else` becomes the first branch, and nothing stands behind it yet
      rw [List.append_assoc, List.cons_append]
      exact .second line hkind rfl hbefore hinner .nil
    | second _ _ hsecond => exact absurd (hfirst.symm.trans hsecond) (by simp)
  | closes block outer done line =>
    -- the block is written whole, as one more node of the block around it
    cases h with
    | first hfirst hbefore hinner =>
      simpa using hbefore.push (written_close_of_none hfirst hinner line)
    | second turned hkind hsecond hbefore hleft hinner =>
      simpa using hbefore.push (written_close_of_some hkind hsecond hleft hinner turned line)

/-- **Soundness.** A run keeps the invariant. -/
theorem Unfinished.readAll {limit : Nat} {reading next : Reading} {before tokens : List Token}
    (h : Unfinished reading before) (hread : reading.readAll limit tokens = .ok next) :
    Unfinished next (before ++ tokens) := by
  induction tokens generalizing reading before with
  | nil =>
    obtain rfl := Except.ok.inj hread
    simpa using h
  | cons token rest ih =>
    obtain ⟨middle, hstep, hrest⟩ := bind_eq_ok_iff.mp hread
    simpa using ih (h.step (read_eq_ok_iff.mp hstep)) hrest

/-! ### Parsing and the grammar -/

/-- Parsing accepts what nodes can be written with, with the blocks above the limit. -/
theorem parseTokens_eq_ok_iff_written (limit : Nat) (tokens : List Token) (nodes : List Node) :
    parseTokens limit tokens = .ok nodes ↔ Written nodes tokens ∧ nesting tokens ≤ limit := by
  rw [parseTokens_eq_ok_iff]
  constructor
  · intro h
    have hstart : Unfinished Reading.start [] := .top .nil
    refine ⟨?_, nestingFrom_le_of_readAll (Nat.zero_le limit) h⟩
    cases hstart.readAll h with
    | top hwritten => simpa using hwritten
  · rintro ⟨hwritten, hn⟩
    have hread : Reading.start.readAll limit tokens = .ok ⟨[], nodes.reverse ++ []⟩ :=
      readAll_of_written hwritten hn
    rwa [List.append_nil] at hread

/-- Tokens write out at most one list of nodes. -/
theorem Written.unique {left right : List Node} {tokens : List Token} (hl : Written left tokens)
    (hr : Written right tokens) : left = right := by
  have h := (parseTokens_eq_ok_iff_written (nesting tokens) tokens left).mpr ⟨hl, Nat.le_refl _⟩
  rw [(parseTokens_eq_ok_iff_written _ tokens right).mpr ⟨hr, Nat.le_refl _⟩] at h
  exact (Except.ok.inj h).symm

/-- A source that is parsed has tokens, and they write out its nodes. -/
theorem exists_written_of_parse {limit : Nat} {source : String} {nodes : List Node}
    (h : parse limit source = .ok nodes) :
    ∃ tokens, tokenize source = .ok tokens ∧ Written nodes tokens ∧ nesting tokens ≤ limit := by
  obtain ⟨tokens, htokens, hparse⟩ := bind_eq_ok_iff.mp h
  exact ⟨tokens, htokens, (parseTokens_eq_ok_iff_written limit tokens nodes).mp hparse⟩

/-- A source is parsed when its tokens write out nodes above the limit. -/
theorem parse_of_written {limit : Nat} {source : String} {nodes : List Node} {tokens : List Token}
    (htokens : tokenize source = .ok tokens) (hwritten : Written nodes tokens)
    (hn : nesting tokens ≤ limit) : parse limit source = .ok nodes := by
  rw [parse, htokens, ok_bind]
  exact (parseTokens_eq_ok_iff_written limit tokens nodes).mpr ⟨hwritten, hn⟩

/-- A source that is parsed is parsed to the same nodes at every higher limit. -/
theorem parse_mono {limit other : Nat} {source : String} {nodes : List Node}
    (h : parse limit source = .ok nodes) (hle : limit ≤ other) :
    parse other source = .ok nodes := by
  obtain ⟨tokens, htokens, hwritten, hn⟩ := exists_written_of_parse h
  exact parse_of_written htokens hwritten (Nat.le_trans hn hle)

/-- **Parsing accepts exactly the block grammar.** A list of tokens has the nodes that it writes
    out, if its blocks are not nested below the limit, and no others; so no tokens write out two
    lists of nodes. The limit decides only whether a source is parsed: from the nesting of its
    tokens on the nodes are the same. -/
theorem parsing_accepts_the_block_grammar :
    (∀ (limit : Nat) (tokens : List Token) (nodes : List Node),
      parseTokens limit tokens = .ok nodes ↔ Written nodes tokens ∧ nesting tokens ≤ limit) ∧
    (∀ (tokens : List Token) (left right : List Node),
      Written left tokens → Written right tokens → left = right) ∧
    (∀ (limit : Nat) (source : String) (nodes : List Node), parse limit source = .ok nodes →
      ∃ tokens, tokenize source = .ok tokens ∧
        ∀ other, parse other source = .ok nodes ↔ nesting tokens ≤ other) := by
  refine ⟨parseTokens_eq_ok_iff_written, fun _ _ _ => Written.unique, ?_⟩
  intro limit source nodes h
  obtain ⟨tokens, htokens, hwritten, _⟩ := exists_written_of_parse h
  refine ⟨tokens, htokens, fun other => ⟨fun hother => ?_, parse_of_written htokens hwritten⟩⟩
  obtain ⟨tokens', htokens', _, hn⟩ := exists_written_of_parse hother
  rw [htokens] at htokens'
  obtain rfl := Except.ok.inj htokens'
  exact hn

/-- An `else` with nothing behind it belongs to the same conditional as none at all. -/
theorem parsing_accepts_an_empty_alternative :
    let tokens : List Token :=
      [⟨.opener .truthy "done", 1⟩, ⟨.text "ok", 1⟩, ⟨.alternative, 1⟩, ⟨.closer .truthy, 2⟩]
    let nodes : List Node := [.conditional false "done" 1 [.text "ok"] []]
    Written nodes tokens ∧ nesting tokens ≤ 1 ∧ parseTokens 1 tokens = .ok nodes := by
  intro tokens nodes
  have hwritten : Written nodes tokens :=
    .conditional false "done" 1 1 2 (.text "ok" 1 .nil) .nil .nil
  have hn : nesting tokens ≤ 1 := by decide
  exact ⟨hwritten, hn, (parsing_accepts_the_block_grammar.1 1 tokens nodes).mpr ⟨hwritten, hn⟩⟩

end BilingualLessons.Template
