import BilingualLessons.Proofs.Template.Reading

namespace BilingualLessons.Template

/-!
# Where reading tokens fails

The other half of `Reading.Step`: all that can be wrong with one more token, and when no token is
left.

* `Reading.Fails` — the faults of a token in a state of the reader; `read_eq_error_iff` says that
  they are all.
* `readAll_eq_error_iff` — tokens in a row fail at the first token that does.
* `parseTokens_eq_error_iff` — parsing fails at a token, or since a block is left open.
-/

/-- What can be wrong with a token: an opening tag below the limit, `else` where no conditional
    is without one, a closing tag that is not that of the innermost block. -/
inductive Reading.Fails (limit : Nat) : Reading → Token → Fault → Prop where
  | tooDeep (stack : List OpenBlock) (done : List Node) (kind : BlockKind) (path : String)
      (line : Nat) (hlimit : limit < stack.length + 1) :
      Fails limit ⟨stack, done⟩ ⟨.opener kind path, line⟩ (.nestingTooDeep limit line)
  | elseOutside (done : List Node) (line : Nat) :
      Fails limit ⟨[], done⟩ ⟨.alternative, line⟩ (.malformed .elseOutside line)
  | elseInEach (block : OpenBlock) (outer : List OpenBlock) (done : List Node) (line : Nat)
      (hkind : block.kind = .each) :
      Fails limit ⟨block :: outer, done⟩ ⟨.alternative, line⟩ (.malformed .elseInEach line)
  | secondElse (block : OpenBlock) (outer : List OpenBlock) (done : List Node) (line : Nat)
      (hkind : block.kind ≠ .each) (hsecond : block.positive.isSome = true) :
      Fails limit ⟨block :: outer, done⟩ ⟨.alternative, line⟩
        (.malformed (.secondElse block.kind) block.line)
  | strayCloser (done : List Node) (kind : BlockKind) (line : Nat) :
      Fails limit ⟨[], done⟩ ⟨.closer kind, line⟩ (.malformed (.strayCloser kind) line)
  | wrongCloser (block : OpenBlock) (outer : List OpenBlock) (done : List Node)
      (kind : BlockKind) (line : Nat) (hkind : block.kind ≠ kind) :
      Fails limit ⟨block :: outer, done⟩ ⟨.closer kind, line⟩
        (.malformed (.wrongCloser block.kind kind) line)

/-- **Faults.** A token is refused exactly as the faults say. -/
theorem read_eq_error_iff {limit : Nat} {reading : Reading} {token : Token} {fault : Fault} :
    reading.read limit token = .error fault ↔ Reading.Fails limit reading token fault := by
  constructor
  · intro h
    obtain ⟨stack, done⟩ := reading
    obtain ⟨kind, line⟩ := token
    -- a literal text and a substitution are never refused; the other tokens are checked against the
    -- blocks that are open
    cases kind with
    | text literal => exact absurd h (by simp [Reading.read])
    | substitution path => exact absurd h (by simp [Reading.read])
    | opener kind path =>
      by_cases hlimit : limit < stack.length + 1
      · simp only [Reading.read, if_pos hlimit] at h
        obtain rfl := Except.error.inj h
        exact .tooDeep _ _ _ _ _ hlimit
      · simp [Reading.read, hlimit] at h
    | alternative =>
      cases stack with
      | nil =>
        obtain rfl := Except.error.inj h
        exact .elseOutside ..
      | cons block outer =>
        by_cases heach : block.kind = .each
        · simp only [Reading.read, if_pos heach] at h
          obtain rfl := Except.error.inj h
          exact .elseInEach _ _ _ _ heach
        · by_cases hsecond : block.positive.isSome
          · simp only [Reading.read, if_neg heach, if_pos hsecond] at h
            obtain rfl := Except.error.inj h
            exact .secondElse _ _ _ _ heach hsecond
          · simp [Reading.read, heach, hsecond] at h
    | closer kind =>
      cases stack with
      | nil =>
        obtain rfl := Except.error.inj h
        exact .strayCloser ..
      | cons block outer =>
        by_cases hkind : block.kind = kind
        · simp [Reading.read, hkind] at h
        · simp only [Reading.read, if_neg hkind] at h
          obtain rfl := Except.error.inj h
          exact .wrongCloser _ _ _ _ _ hkind
  · intro h
    cases h with
    | tooDeep _ _ _ _ _ hlimit => simp [Reading.read, hlimit]
    | elseOutside => rfl
    | elseInEach _ _ _ _ hkind => simp [Reading.read, hkind]
    | secondElse _ _ _ _ hkind hsecond => simp [Reading.read, hkind, hsecond]
    | strayCloser => rfl
    | wrongCloser _ _ _ _ _ hkind => simp [Reading.read, hkind]

/-- **First bad token.** Tokens in a row are refused when those before one of them are read and
    that one is refused, whatever stands behind it. -/
theorem readAll_eq_error_iff {limit : Nat} {reading : Reading} {tokens : List Token}
    {fault : Fault} :
    reading.readAll limit tokens = .error fault ↔ ∃ before token after middle,
      tokens = before ++ token :: after ∧ reading.readAll limit before = .ok middle ∧
        Reading.Fails limit middle token fault := by
  constructor
  · intro h
    induction tokens generalizing reading with
    | nil => exact absurd h (by simp)
    | cons token rest ih =>
      -- either this token is the bad one, or it is read and the bad one stands behind it
      rcases bind_eq_error_iff.mp h with hfirst | ⟨next, hfirst, hrest⟩
      · exact ⟨[], token, rest, reading, rfl, rfl, read_eq_error_iff.mp hfirst⟩
      · obtain ⟨before, bad, after, middle, rfl, hbefore, hbad⟩ := ih hrest
        refine ⟨token :: before, bad, after, middle, rfl, ?_, hbad⟩
        rw [readAll_cons, hfirst, ok_bind, hbefore]
  · rintro ⟨before, token, after, middle, rfl, hbefore, hbad⟩
    rw [readAll_append, hbefore, ok_bind, readAll_cons, read_eq_error_iff.mpr hbad]
    rfl

/-- When no token is left, the innermost block is unclosed if there is one. -/
theorem finish_eq_error_iff {reading : Reading} {fault : Fault} :
    reading.finish = .error fault ↔ ∃ block outer, reading.stack = block :: outer ∧
      fault = .unclosedBlock block.kind block.line := by
  obtain ⟨stack, done⟩ := reading
  cases stack with
  | nil => simp [Reading.finish]
  | cons block outer => simp [Reading.finish, eq_comm]

/-- Parsing fails where a token is refused, or at the end since a block is left open. -/
theorem parseTokens_eq_error_iff {limit : Nat} {tokens : List Token} {fault : Fault} :
    parseTokens limit tokens = .error fault ↔ Reading.start.readAll limit tokens = .error fault ∨
      ∃ block outer done, Reading.start.readAll limit tokens = .ok ⟨block :: outer, done⟩ ∧
        fault = .unclosedBlock block.kind block.line := by
  rw [parseTokens_eq_readAll, bind_eq_error_iff]
  refine or_congr Iff.rfl ⟨?_, ?_⟩
  · rintro ⟨⟨stack, done⟩, hread, hfinish⟩
    obtain ⟨block, outer, rfl, hfault⟩ := finish_eq_error_iff.mp hfinish
    exact ⟨block, outer, done, hread, hfault⟩
  · rintro ⟨block, outer, done, hread, hfault⟩
    exact ⟨_, hread, finish_eq_error_iff.mpr ⟨block, outer, rfl, hfault⟩⟩

end BilingualLessons.Template
