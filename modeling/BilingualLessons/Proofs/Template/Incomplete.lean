import BilingualLessons.Proofs.Template.ReadingFaults

namespace BilingualLessons.Template

/-!
# Incomplete templates

Of the faults of a list of tokens, one says that tokens are missing and all others that some token
must not stand where it does.  The first can be mended at the end of the tokens, the others cannot.

* `openBlocks` — the blocks that tokens leave open, read off their opening and closing tags.
* `openBlocks_of_readAll` — the reader has the same blocks open.
* `readAll_closers` — the closing tags of all open blocks, the innermost first, are read.
* `unclosed_means_incomplete` — an unclosed block is a fault that more tokens can mend; every other
  fault stays, whatever follows.
-/

/-! ### Open blocks -/

/-- The kinds and lines of the open blocks behind a token, the innermost first. -/
def openAfter (blocks : List (BlockKind × Nat)) (token : Token) : List (BlockKind × Nat) :=
  match token.kind with
  | .opener kind _ => (kind, token.line) :: blocks
  | .closer _ => blocks.tail
  | _ => blocks

/-- The kinds and lines of the blocks that tokens leave open, the innermost first. -/
def openBlocks (tokens : List Token) : List (BlockKind × Nat) :=
  tokens.foldl openAfter []

/-- The kind of an open block and the line of its opening tag. -/
def OpenBlock.opening (block : OpenBlock) : BlockKind × Nat := (block.kind, block.line)

/-- A step opens and closes the blocks that its token does. -/
theorem Reading.Step.opening {limit : Nat} {reading next : Reading} {token : Token}
    (h : Reading.Step limit reading token next) :
    next.stack.map OpenBlock.opening = openAfter (reading.stack.map OpenBlock.opening) token := by
  cases h <;> rfl

/-- The blocks that are open in the reader are those that the tokens leave open. -/
theorem openBlocks_of_readAll {limit : Nat} {reading next : Reading} {tokens : List Token}
    (h : reading.readAll limit tokens = .ok next) :
    next.stack.map OpenBlock.opening
      = tokens.foldl openAfter (reading.stack.map OpenBlock.opening) := by
  induction tokens generalizing reading with
  | nil =>
    obtain rfl := Except.ok.inj h
    rfl
  | cons token rest ih =>
    obtain ⟨middle, hstep, hrest⟩ := bind_eq_ok_iff.mp h
    rw [ih hrest, (read_eq_ok_iff.mp hstep).opening, List.foldl_cons]

/-- **Closing tags** of all open blocks, the innermost first, are read and leave no block open. -/
theorem readAll_closers {limit : Nat} {stack : List OpenBlock} {done : List Node}
    {closers : List Token}
    (h : closers.map Token.kind = stack.map fun block => .closer block.kind) :
    ∃ nodes, Reading.readAll limit ⟨stack, done⟩ closers = .ok ⟨[], nodes⟩ := by
  induction stack generalizing done closers with
  | nil =>
    obtain rfl : closers = [] := by simpa using h
    exact ⟨done, rfl⟩
  | cons block outer ih =>
    cases closers with
    | nil => exact absurd h (by simp)
    | cons closer rest =>
      obtain ⟨kind, line⟩ := closer
      obtain rfl : kind = .closer block.kind := (List.cons.inj h).1
      -- each closing tag takes the innermost block off, and puts its node before the others
      obtain ⟨nodes, hrest⟩ : ∃ nodes,
          Reading.readAll limit ⟨outer, block.close done.reverse :: block.before⟩ rest
            = .ok ⟨[], nodes⟩ := ih (List.cons.inj h).2
      exact ⟨nodes, by rw [readAll_cons, read_closer, ok_bind, hrest]⟩

/-! ### Faults -/

/-- No token is refused for a block that is not closed. -/
theorem ne_unclosedBlock_of_fails {limit : Nat} {reading : Reading} {token : Token} {fault : Fault}
    (h : Reading.Fails limit reading token fault) (kind : BlockKind) (line : Nat) :
    fault ≠ .unclosedBlock kind line := by
  cases h <;> simp

/-- A token that is refused is refused whatever stands behind it. -/
theorem parseTokens_append_of_refused {limit : Nat} {tokens : List Token} {fault : Fault}
    (h : Reading.start.readAll limit tokens = .error fault) (more : List Token) :
    parseTokens limit (tokens ++ more) = .error fault := by
  rw [parseTokens_eq_readAll, readAll_append, h]
  rfl

section

variable {limit : Nat} {tokens : List Token}

/-- A block is unclosed when all tokens are read and it is the innermost one open. -/
theorem parseTokens_eq_unclosedBlock_iff {kind : BlockKind} {line : Nat} :
    parseTokens limit tokens = .error (.unclosedBlock kind line) ↔ ∃ block outer done,
      Reading.start.readAll limit tokens = .ok ⟨block :: outer, done⟩ ∧
        block.opening = (kind, line) := by
  rw [parseTokens_eq_error_iff]
  constructor
  · rintro (hrefused | ⟨block, outer, done, hread, hfault⟩)
    · -- a token that is refused is never refused for this
      obtain ⟨_, _, _, _, _, _, hbad⟩ := readAll_eq_error_iff.mp hrefused
      exact absurd rfl (ne_unclosedBlock_of_fails hbad kind line)
    · obtain ⟨rfl, rfl⟩ := Fault.unclosedBlock.inj hfault
      exact ⟨block, outer, done, hread, rfl⟩
  · rintro ⟨block, outer, done, hread, hopening⟩
    obtain ⟨rfl, rfl⟩ := Prod.mk.inj hopening
    exact Or.inr ⟨block, outer, done, hread, rfl⟩

/-- Tokens with an unclosed block are parsed once the closing tags of the open blocks stand behind
    them. -/
theorem parseTokens_append_closers {kind : BlockKind} {line : Nat}
    (h : parseTokens limit tokens = .error (.unclosedBlock kind line)) :
    (openBlocks tokens).head? = some (kind, line) ∧
    ∀ closers : List Token,
      closers.map Token.kind = (openBlocks tokens).map (fun block => .closer block.1) →
      ∃ nodes, parseTokens limit (tokens ++ closers) = .ok nodes := by
  obtain ⟨block, outer, done, hread, hopening⟩ := parseTokens_eq_unclosedBlock_iff.mp h
  have hopen : (block :: outer).map OpenBlock.opening = openBlocks tokens :=
    openBlocks_of_readAll hread
  rw [← hopen]
  refine ⟨congrArg some hopening, fun closers hclosers => ?_⟩
  have hkinds : closers.map Token.kind
      = (block :: outer).map fun block => .closer block.kind := by
    rw [hclosers, List.map_map]
    rfl
  obtain ⟨nodes, hclosed⟩ : ∃ nodes,
      Reading.readAll limit ⟨block :: outer, done⟩ closers = .ok ⟨[], nodes⟩ :=
    readAll_closers hkinds
  refine ⟨nodes.reverse, parseTokens_eq_ok_iff.mpr ?_⟩
  rw [readAll_append, hread, ok_bind, hclosed, List.reverse_reverse]

/-- Any other fault stays, whatever tokens follow. -/
theorem parseTokens_append_of_error {fault : Fault} (h : parseTokens limit tokens = .error fault)
    (hfault : ∀ kind line, fault ≠ .unclosedBlock kind line) (more : List Token) :
    parseTokens limit (tokens ++ more) = .error fault := by
  rcases parseTokens_eq_error_iff.mp h with hrefused | ⟨block, _, _, _, hunclosed⟩
  · exact parseTokens_append_of_refused hrefused more
  · exact absurd hunclosed (hfault block.kind block.line)

end

/-- **An unclosed block means that tokens are missing.** If parsing tokens fails since a block is
    not closed, this is the innermost block that they leave open, and with the closing tags of all
    open blocks behind them, the innermost first, the tokens are parsed. If it fails for any other
    reason, it fails in the same way whatever follows. So a block is unclosed exactly if the tokens
    are not parsed as they are, but are with others behind them. -/
theorem unclosed_means_incomplete (limit : Nat) (tokens : List Token) :
    (∀ (kind : BlockKind) (line : Nat),
      parseTokens limit tokens = .error (.unclosedBlock kind line) →
      (openBlocks tokens).head? = some (kind, line) ∧
      ∀ closers : List Token,
        closers.map Token.kind = (openBlocks tokens).map (fun block => .closer block.1) →
        ∃ nodes, parseTokens limit (tokens ++ closers) = .ok nodes) ∧
    (∀ fault : Fault, parseTokens limit tokens = .error fault →
      (∀ kind line, fault ≠ .unclosedBlock kind line) →
      ∀ more : List Token, parseTokens limit (tokens ++ more) = .error fault) ∧
    ((∃ kind line, parseTokens limit tokens = .error (.unclosedBlock kind line))
      ↔ (∀ nodes, parseTokens limit tokens ≠ .ok nodes) ∧
        ∃ more nodes, parseTokens limit (tokens ++ more) = .ok nodes) := by
  refine ⟨fun _ _ => parseTokens_append_closers, fun _ => parseTokens_append_of_error, ?_, ?_⟩
  · rintro ⟨kind, line, h⟩
    let closers : List Token := (openBlocks tokens).map fun block => ⟨.closer block.1, 1⟩
    obtain ⟨nodes, hnodes⟩ := (parseTokens_append_closers h).2 closers (by simp [closers])
    exact ⟨fun nodes hok => by simp [h] at hok, closers, nodes, hnodes⟩
  · rintro ⟨hnot, more, nodes, hmore⟩
    cases h : parseTokens limit tokens with
    | ok nodes => exact absurd h (hnot nodes)
    | error fault =>
      cases fault with
      | unclosedBlock kind line => exact ⟨kind, line, rfl⟩
      | _ =>
        -- a fault of another kind would still be there behind `more`
        have hstays := parseTokens_append_of_error h (by simp) more
        exact absurd (hmore.symm.trans hstays) (by simp)

/-- A loop with a condition open in it, and a second `else` that nothing behind it mends. -/
theorem unclosed_means_incomplete_in_a_loop :
    let tokens : List Token := [⟨.opener .each "words", 1⟩, ⟨.text "\n", 1⟩,
      ⟨.opener .truthy "this", 2⟩, ⟨.alternative, 2⟩]
    let closers : List Token := [⟨.closer .truthy, 2⟩, ⟨.closer .each, 3⟩]
    parseTokens 2 tokens = .error (.unclosedBlock .truthy 2) ∧
    openBlocks tokens = [(.truthy, 2), (.each, 1)] ∧
    (∃ nodes, parseTokens 2 (tokens ++ closers) = .ok nodes) ∧
    parseTokens 2 ((tokens ++ [⟨.alternative, 3⟩]) ++ closers)
      = .error (.malformed (.secondElse .truthy) 2) := by
  intro tokens closers
  have hunclosed : parseTokens 2 tokens = .error (.unclosedBlock .truthy 2) := by rfl
  have hsecond : parseTokens 2 (tokens ++ [⟨.alternative, 3⟩])
      = .error (.malformed (.secondElse .truthy) 2) := by rfl
  exact ⟨hunclosed, by rfl,
    ((unclosed_means_incomplete 2 tokens).1 _ _ hunclosed).2 closers (by rfl),
    (unclosed_means_incomplete 2 _).2.1 _ hsecond (by simp) closers⟩

end BilingualLessons.Template
