import BilingualLessons.Proofs.Template.BlockGrammar
import BilingualLessons.Proofs.Template.ReadingFaults
import BilingualLessons.Proofs.Template.RenderFaults
import BilingualLessons.Proofs.Template.TagPlaces

namespace BilingualLessons.Template

/-!
# Where faults point

The line of a fault goes from the scanner to tokens, from there to nodes and open blocks, and from
these into the fault. All the way it is the line of one tag.

* `Fault.About` — the tags that a fault can be about.
* `Unfinished.opener_mem` — the open blocks of the reader have their opening tags among the tokens;
  `Written.token_mem` — so have demands of nodes their tags.
* `Fault.PointsAt` — what stands behind the braces that a fault points at.
* `faults_point_at_a_tag` — there is such a tag on the line of every fault.
-/

/-! ### Tags at fault -/

/-- The tags that a fault can be about: a value that is missing or not fit is that of a
    substitution or a loop; a block that is not closed, too deep or has a second `else` is
    named by its opening tag; an `else` or a closing tag out of place is at fault itself. -/
inductive Fault.About : Fault → TokenKind → Prop where
  | undefinedVariable (path : String) (line : Nat) :
      About (.undefinedVariable path line) (.substitution path)
  | notScalar (path : String) (kind : Json.Kind) (line : Nat) :
      About (.notScalar path kind line) (.substitution path)
  | notAnArray (path : String) (kind : Json.Kind) (line : Nat) :
      About (.notAnArray path kind line) (.opener .each path)
  | unclosedBlock (kind : BlockKind) (path : String) (line : Nat) :
      About (.unclosedBlock kind line) (.opener kind path)
  | nestingTooDeep (limit : Nat) (kind : BlockKind) (path : String) (line : Nat) :
      About (.nestingTooDeep limit line) (.opener kind path)
  | secondElse (kind : BlockKind) (path : String) (line : Nat) :
      About (.malformed (.secondElse kind) line) (.opener kind path)
  | elseInEach (line : Nat) : About (.malformed .elseInEach line) .alternative
  | elseOutside (line : Nat) : About (.malformed .elseOutside line) .alternative
  | strayCloser (found : BlockKind) (line : Nat) :
      About (.malformed (.strayCloser found) line) (.closer found)
  | wrongCloser (expected found : BlockKind) (line : Nat) :
      About (.malformed (.wrongCloser expected found) line) (.closer found)

/-- No fault is about literal text. -/
theorem Fault.About.isText_eq_false {fault : Fault} {kind : TokenKind} (h : fault.About kind) :
    kind.isText = false := by
  cases h <;> rfl

/-- A fault has its tag among the tokens, on its line. -/
def Fault.Among (fault : Fault) (tokens : List Token) : Prop :=
  ∃ token ∈ tokens, token.line = fault.line ∧ fault.About token.kind

/-! ### Faults of reading -/

/-- The opening tags of all open blocks are among the tokens that have been read. -/
theorem Unfinished.opener_mem {reading : Reading} {tokens : List Token}
    (h : Unfinished reading tokens) {block : OpenBlock} (hmem : block ∈ reading.stack) :
    ⟨.opener block.kind block.path, block.line⟩ ∈ tokens := by
  -- the invariant has one case for each open block, with its opening tag in the middle
  induction h with
  | top => exact absurd hmem (by simp)
  | first _ _ _ ih =>
    rcases List.mem_cons.mp hmem with rfl | houter
    · simp
    · exact List.mem_append_left _ (ih houter)
  | second _ _ _ _ _ _ ih =>
    rcases List.mem_cons.mp hmem with rfl | houter
    · simp
    · exact List.mem_append_left _ (ih houter)

/-- A block that is left open by tokens has its opening tag among them. -/
theorem opener_mem_of_readAll {limit : Nat} {tokens : List Token} {reading : Reading}
    (h : Reading.start.readAll limit tokens = .ok reading) {block : OpenBlock}
    (hmem : block ∈ reading.stack) : ⟨.opener block.kind block.path, block.line⟩ ∈ tokens := by
  have hstart : Unfinished Reading.start [] := .top .nil
  exact (hstart.readAll h).opener_mem hmem

/-- A token is refused for itself, or for the opening tag of the innermost block. -/
theorem Reading.Fails.about {limit : Nat} {reading : Reading} {token : Token} {fault : Fault}
    (h : Reading.Fails limit reading token fault) :
    (token.line = fault.line ∧ fault.About token.kind) ∨ ∃ block ∈ reading.stack,
      block.line = fault.line ∧ fault.About (.opener block.kind block.path) := by
  cases h with
  | tooDeep _ _ kind path line => exact Or.inl ⟨rfl, .nestingTooDeep limit kind path line⟩
  | elseOutside _ line => exact Or.inl ⟨rfl, .elseOutside line⟩
  | elseInEach _ _ _ line => exact Or.inl ⟨rfl, .elseInEach line⟩
  | secondElse block =>
    -- a second `else` is blamed on the block, not on the tag itself
    exact Or.inr ⟨block, by simp, rfl, .secondElse block.kind block.path block.line⟩
  | strayCloser _ kind line => exact Or.inl ⟨rfl, .strayCloser kind line⟩
  | wrongCloser block _ _ kind line => exact Or.inl ⟨rfl, .wrongCloser block.kind kind line⟩

/-- **Faults of parsing** have their tag among the tokens. -/
theorem among_of_parseTokens {limit : Nat} {tokens : List Token} {fault : Fault}
    (h : parseTokens limit tokens = .error fault) : fault.Among tokens := by
  rcases parseTokens_eq_error_iff.mp h with hrefused | ⟨block, outer, done, hread, rfl⟩
  · obtain ⟨before, token, after, middle, rfl, hread, hbad⟩ := readAll_eq_error_iff.mp hrefused
    rcases hbad.about with ⟨hline, habout⟩ | ⟨block, hblock, hline, habout⟩
    · exact ⟨token, by simp, hline, habout⟩
    · exact ⟨_, List.mem_append_left _ (opener_mem_of_readAll hread hblock), hline, habout⟩
  · exact ⟨_, opener_mem_of_readAll hread List.mem_cons_self, rfl,
      .unclosedBlock block.kind block.path block.line⟩

/-! ### Faults of rendering -/

/-- The tag of a demand. -/
def Demand.token : Demand → Token
  | .scalar path line => ⟨.substitution path, line⟩
  | .array path line => ⟨.opener .each path, line⟩

/-- The tags of the demands of nodes are among the tokens that the nodes are written with. -/
theorem Written.token_mem {nodes : List Node} {tokens : List Token} (h : Written nodes tokens)
    {demand : Demand} (hmem : demand ∈ demandsOf nodes) : demand.token ∈ tokens := by
  -- a demand of a block is that of its own tag, or one of a branch, or one behind the block
  induction h with
  | nil => exact absurd hmem (by simp [demandsOf])
  | text literal line _ ih =>
    exact List.mem_cons_of_mem _ (ih (by simpa [demandsOf, Node.demands] using hmem))
  | substitution path line _ ih =>
    simp only [demandsOf, Node.demands, List.cons_append, List.nil_append, List.mem_cons] at hmem
    rcases hmem with rfl | hrest
    · exact List.mem_cons_self
    · exact List.mem_cons_of_mem _ (ih hrest)
  | each path line closed _ _ ihbody ih =>
    simp only [demandsOf, Node.demands, List.cons_append, List.mem_cons, List.mem_append] at hmem
    rcases hmem with rfl | hbody | hrest
    · exact List.mem_cons_self
    · simp [ihbody hbody]
    · simp [ih hrest]
  | conditional negated path line turned closed _ _ _ ihpos ihoth ih =>
    simp only [demandsOf, Node.demands, List.mem_append] at hmem
    rcases hmem with (hpos | hoth) | hrest
    · simp [ihpos hpos]
    · simp [ihoth hoth]
    · simp [ih hrest]
  | shortConditional negated path line closed _ _ ihpos ih =>
    simp only [demandsOf, Node.demands, List.append_nil, List.mem_append] at hmem
    rcases hmem with hpos | hrest
    · simp [ihpos hpos]
    · simp [ih hrest]

/-- A demand that is not met is the fault of its tag. -/
theorem Demand.Fails.about {demand : Demand} {fault : Fault} (h : demand.Fails fault) :
    demand.token.line = fault.line ∧ fault.About demand.token.kind := by
  cases h with
  | undefined path line => exact ⟨rfl, .undefinedVariable path line⟩
  | notScalar path kind line => exact ⟨rfl, .notScalar path kind line⟩
  | notAnArray path kind line => exact ⟨rfl, .notAnArray path kind line⟩

/-- **Faults of rendering** have their tag among the tokens of the nodes. -/
theorem among_of_renderNodes {scope : Scope} {nodes : List Node} {tokens : List Token}
    (hw : Written nodes tokens) {fault : Fault} (h : renderNodes scope nodes = .error fault) :
    fault.Among tokens := by
  obtain ⟨demand, hmem, hfails⟩ := renderNodes_fault nodes h
  exact ⟨demand.token, hw.token_mem hmem, hfails.about⟩

/-- A source is not rendered since a tag in it cannot be read, or for one of its tokens. -/
theorem tokenize_error_or_among {limit : Nat} {source : String} {context : Context} {fault : Fault}
    (h : renderBody limit source context = .error fault) :
    tokenize source = .error fault ∨ ∃ tokens, tokenize source = .ok tokens ∧
      fault.Among tokens := by
  rcases bind_eq_error_iff.mp h with hparse | ⟨nodes, hparse, hrender⟩
  · rcases bind_eq_error_iff.mp hparse with hscan | ⟨tokens, hscan, htokens⟩
    · exact Or.inl hscan
    · exact Or.inr ⟨tokens, hscan, among_of_parseTokens htokens⟩
  · obtain ⟨tokens, hscan, hwritten, _⟩ := exists_written_of_parse hparse
    exact Or.inr ⟨tokens, hscan, among_of_renderNodes hwritten hrender⟩

/-! ### Faults in the source -/

/-- What a fault says of the text behind the opening braces of a tag: the tag has no end, its
    content up to the first closing braces cannot be read, or the content is that of a tag that
    the fault can be about. -/
inductive Fault.PointsAt : Fault → List Char → Prop where
  | unterminated (line : Nat) {behind : List Char} (hopen : ¬ ['}', '}'] <:+: behind) :
      PointsAt (.malformed .unterminatedTag line) behind
  | unreadable (problem : SyntaxFault) (line : Nat) {content behind : List Char}
      (hcloses : Closes content behind) (hproblem : classify content = .error problem) :
      PointsAt (.malformed problem line) behind
  | tag {fault : Fault} {kind : TokenKind} (habout : fault.About kind) (padding : Padding)
      {behind : List Char} (hcloses : Closes (kind.content padding) behind) :
      PointsAt fault behind

/-- **Faults point at a tag.** If a source is not rendered, a tag starts in it, not in an escape
    and not in another tag, with one line end less before it than the fault has as its line, and
    it is a tag that the fault can be about; so where a value is missing or not fit, it is a
    substitution of the path that the fault names, or a loop over it. -/
theorem faults_point_at_a_tag {limit : Nat} {source : String} {context : Context} {fault : Fault}
    (h : renderBody limit source context = .error fault) :
    ∃ before behind, source.toList = before ++ '{' :: '{' :: behind ∧
      TagAt before behind source.toList ∧ fault.line = 1 + Text.lineEnds before ∧
      fault.PointsAt behind := by
  rcases tokenize_error_or_among h with hscan | ⟨tokens, hscan, token, hmem, hline, habout⟩
  · obtain ⟨before, behind, piece, problem, hat, rfl, hbegins, hbad⟩ :=
      exists_tagAt_of_tokenize_error hscan
    refine ⟨before, behind, hat.eq_append, hat, rfl, ?_⟩
    cases hbad with
    | unterminated => exact .unterminated _ hbegins
    | content hproblem => exact .unreadable problem _ hbegins hproblem
  · obtain ⟨before, behind, content, hat, hplace, hcloses, hkind⟩ :=
      exists_tagAt_of_mem_tokenize hscan hmem habout.isText_eq_false
    -- what is read as this tag is written as this tag
    obtain ⟨padding, rfl⟩ := exists_content_of_classify hkind
    exact ⟨before, behind, hat.eq_append, hat, hline.symm.trans hplace, .tag habout padding hcloses⟩

/-- A loop over a text, behind an escape, a line end and a tag with a line end in it: its fault is
    on line three, since two line ends stand before its braces. -/
theorem faults_point_at_a_tag_behind_line_ends :
    let source := "\\\x7b\x7b\n" ++ tagText "\nname " ++ tagText "#each name" ++ tagText "/each"
    let context : Context := ⟨[("name", .string "Ana")]⟩
    let fault := Fault.notAnArray "name" .string 3
    renderBody 1 source context = .error fault ∧
    ∃ before behind, source.toList = before ++ '{' :: '{' :: behind ∧
      TagAt before behind source.toList ∧ fault.line = 1 + Text.lineEnds before ∧
      fault.PointsAt behind := by
  intro source context fault
  have h : renderBody 1 source context = .error fault := by decide +kernel
  exact ⟨h, faults_point_at_a_tag h⟩

end BilingualLessons.Template
