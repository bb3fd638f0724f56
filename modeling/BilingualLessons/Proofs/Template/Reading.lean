import BilingualLessons.Template.Block
import BilingualLessons.Proofs.Outcome

namespace BilingualLessons.Template

/-!
# Reading tokens one by one

Building the block tree as a state machine: what has been read so far, and what one more token
does to it.

* `Reading` — the open blocks and the nodes of the innermost one.
* `Reading.read`, `Reading.readAll`, `Reading.finish` — one token, tokens in a row, and the end.
* `nodesFrom_eq_readAll` — this is how nodes are read.
* `Reading.Step` — all that a token can do when it is no fault, with the conditions on it;
  `read_eq_ok_iff` says that nothing is missing and nothing too much.
-/

/-- How far tokens have been read: the open blocks, the innermost first, and the nodes read in
    the innermost one, the last first. -/
structure Reading where
  stack : List OpenBlock
  done : List Node

/-- Before the first token. -/
def Reading.start : Reading := ⟨[], []⟩

/-- What one token does. -/
def Reading.read (limit : Nat) (reading : Reading) (token : Token) : Except Fault Reading :=
  match token.kind with
  | .text literal => .ok ⟨reading.stack, .text literal :: reading.done⟩
  | .substitution path => .ok ⟨reading.stack, .substitution path token.line :: reading.done⟩
  | .opener kind path =>
    if limit < reading.stack.length + 1 then .error (.nestingTooDeep limit token.line)
    else .ok ⟨⟨kind, path, token.line, reading.done, none⟩ :: reading.stack, []⟩
  | .alternative =>
    match reading.stack with
    | [] => .error (.malformed .elseOutside token.line)
    | block :: outer =>
      if block.kind = .each then .error (.malformed .elseInEach token.line)
      else if block.positive.isSome then
        .error (.malformed (.secondElse block.kind) block.line)
      else .ok ⟨{ block with positive := some reading.done.reverse } :: outer, []⟩
  | .closer kind =>
    match reading.stack with
    | [] => .error (.malformed (.strayCloser kind) token.line)
    | block :: outer =>
      if block.kind = kind then .ok ⟨outer, block.close reading.done.reverse :: block.before⟩
      else .error (.malformed (.wrongCloser block.kind kind) token.line)

/-- What tokens do, one after the other. -/
def Reading.readAll (limit : Nat) (reading : Reading) (tokens : List Token) :
    Except Fault Reading :=
  tokens.foldlM (Reading.read limit) reading

/-- The nodes when no token is left. -/
def Reading.finish (reading : Reading) : Except Fault (List Node) :=
  match reading.stack with
  | [] => .ok reading.done.reverse
  | block :: _ => .error (.unclosedBlock block.kind block.line)

/-! ### Runs -/

@[simp] theorem readAll_nil (limit : Nat) (reading : Reading) :
    reading.readAll limit [] = .ok reading := rfl

@[simp] theorem readAll_cons (limit : Nat) (reading : Reading) (token : Token)
    (tokens : List Token) :
    reading.readAll limit (token :: tokens)
      = reading.read limit token >>= fun next => next.readAll limit tokens := rfl

theorem readAll_append (limit : Nat) (reading : Reading) (left right : List Token) :
    reading.readAll limit (left ++ right)
      = reading.readAll limit left >>= fun next => next.readAll limit right :=
  List.foldlM_append

/-- **The reader is this machine.** -/
theorem nodesFrom_eq_readAll (limit : Nat) (stack : List OpenBlock) (done : List Node)
    (tokens : List Token) :
    nodesFrom limit stack done tokens
      = Reading.readAll limit ⟨stack, done⟩ tokens >>= Reading.finish := by
  -- for all open blocks and nodes read: one token changes both
  induction tokens generalizing stack done with
  | nil => cases stack <;> rfl
  | cons token rest ih =>
    obtain ⟨kind, line⟩ := token
    cases kind with
    | text literal => rw [nodesFrom, ih]; rfl
    | substitution path => rw [nodesFrom, ih]; rfl
    | opener kind path =>
      rw [nodesFrom, readAll_cons, Reading.read]
      by_cases hlimit : limit < stack.length + 1
      · simp [hlimit]
      · simp [hlimit, ih]
    | alternative =>
      cases stack with
      | nil => rfl
      | cons block outer =>
        rw [nodesFrom, readAll_cons, Reading.read]
        by_cases heach : block.kind = .each
        · simp [heach]
        · by_cases hsecond : block.positive.isSome
          · simp [heach, hsecond]
          · simp [heach, hsecond, ih]
    | closer kind =>
      cases stack with
      | nil => rfl
      | cons block outer =>
        rw [nodesFrom, readAll_cons, Reading.read]
        by_cases hkind : block.kind = kind
        · simp [hkind, ih]
        · simp [hkind]

theorem parseTokens_eq_readAll (limit : Nat) (tokens : List Token) :
    parseTokens limit tokens = Reading.start.readAll limit tokens >>= Reading.finish :=
  nodesFrom_eq_readAll limit [] [] tokens

/-- Nodes are read when no block is left open. -/
theorem finish_eq_ok_iff {reading : Reading} {nodes : List Node} :
    reading.finish = .ok nodes ↔ reading = ⟨[], nodes.reverse⟩ := by
  obtain ⟨stack, done⟩ := reading
  cases stack with
  | nil =>
    simp only [Reading.finish, Except.ok.injEq, Reading.mk.injEq, true_and]
    exact List.reverse_eq_iff
  | cons block outer => simp [Reading.finish]

theorem parseTokens_eq_ok_iff {limit : Nat} {tokens : List Token} {nodes : List Node} :
    parseTokens limit tokens = .ok nodes
      ↔ Reading.start.readAll limit tokens = .ok ⟨[], nodes.reverse⟩ := by
  rw [parseTokens_eq_readAll, bind_eq_ok_iff]
  constructor
  · rintro ⟨reading, hread, hfinish⟩
    rw [hread, finish_eq_ok_iff.mp hfinish]
  · intro hread
    exact ⟨_, hread, finish_eq_ok_iff.mpr rfl⟩

/-! ### Steps -/

section

variable {limit : Nat} {stack : List OpenBlock} {done : List Node} {line : Nat}

theorem read_text (literal : String) :
    Reading.read limit ⟨stack, done⟩ ⟨.text literal, line⟩ = .ok ⟨stack, .text literal :: done⟩ :=
  rfl

theorem read_substitution (path : String) :
    Reading.read limit ⟨stack, done⟩ ⟨.substitution path, line⟩
      = .ok ⟨stack, .substitution path line :: done⟩ := rfl

theorem read_opener (kind : BlockKind) (path : String) (h : stack.length + 1 ≤ limit) :
    Reading.read limit ⟨stack, done⟩ ⟨.opener kind path, line⟩
      = .ok ⟨⟨kind, path, line, done, none⟩ :: stack, []⟩ := by
  simp [Reading.read, Nat.not_lt.mpr h]

theorem read_alternative {block : OpenBlock} (hkind : block.kind ≠ .each)
    (hfirst : block.positive = none) :
    Reading.read limit ⟨block :: stack, done⟩ ⟨.alternative, line⟩
      = .ok ⟨{ block with positive := some done.reverse } :: stack, []⟩ := by
  simp [Reading.read, hkind, hfirst]

theorem read_closer (block : OpenBlock) :
    Reading.read limit ⟨block :: stack, done⟩ ⟨.closer block.kind, line⟩
      = .ok ⟨stack, block.close done.reverse :: block.before⟩ := by
  simp [Reading.read]

end

/-- What a token can do: literal text and substitutions are nodes, an opening tag opens a block
    below the limit, `else` ends the first branch of a conditional that has none yet, and a
    closing tag ends the innermost block if that is of its kind. -/
inductive Reading.Step (limit : Nat) : Reading → Token → Reading → Prop where
  | literal (stack : List OpenBlock) (done : List Node) (literal : String) (line : Nat) :
      Step limit ⟨stack, done⟩ ⟨.text literal, line⟩ ⟨stack, .text literal :: done⟩
  | substitution (stack : List OpenBlock) (done : List Node) (path : String) (line : Nat) :
      Step limit ⟨stack, done⟩ ⟨.substitution path, line⟩
        ⟨stack, .substitution path line :: done⟩
  | opens (stack : List OpenBlock) (done : List Node) (kind : BlockKind) (path : String)
      (line : Nat) (hlimit : stack.length + 1 ≤ limit) :
      Step limit ⟨stack, done⟩ ⟨.opener kind path, line⟩
        ⟨⟨kind, path, line, done, none⟩ :: stack, []⟩
  | turns (block : OpenBlock) (outer : List OpenBlock) (done : List Node) (line : Nat)
      (hkind : block.kind ≠ .each) (hfirst : block.positive = none) :
      Step limit ⟨block :: outer, done⟩ ⟨.alternative, line⟩
        ⟨{ block with positive := some done.reverse } :: outer, []⟩
  | closes (block : OpenBlock) (outer : List OpenBlock) (done : List Node) (line : Nat) :
      Step limit ⟨block :: outer, done⟩ ⟨.closer block.kind, line⟩
        ⟨outer, block.close done.reverse :: block.before⟩

/-- **Steps.** A token is read exactly as the steps say. -/
theorem read_eq_ok_iff {limit : Nat} {reading next : Reading} {token : Token} :
    reading.read limit token = .ok next ↔ Reading.Step limit reading token next := by
  constructor
  · intro h
    obtain ⟨stack, done⟩ := reading
    obtain ⟨kind, line⟩ := token
    -- every test of the reader refuses the token on one side and is a condition of the step on the
    -- other
    cases kind with
    | text literal =>
      obtain rfl := Except.ok.inj h
      exact .literal ..
    | substitution path =>
      obtain rfl := Except.ok.inj h
      exact .substitution ..
    | opener kind path =>
      by_cases hlimit : limit < stack.length + 1
      · simp [Reading.read, hlimit] at h
      · simp only [Reading.read, if_neg hlimit] at h
        obtain rfl := Except.ok.inj h
        exact .opens _ _ _ _ _ (Nat.le_of_not_lt hlimit)
    | alternative =>
      cases stack with
      | nil => simp [Reading.read] at h
      | cons block outer =>
        by_cases heach : block.kind = .each
        · simp [Reading.read, heach] at h
        · by_cases hsecond : block.positive.isSome
          · simp [Reading.read, heach, hsecond] at h
          · simp only [Reading.read, if_neg heach, if_neg hsecond] at h
            obtain rfl := Except.ok.inj h
            exact .turns _ _ _ _ heach (by simpa using hsecond)
    | closer kind =>
      cases stack with
      | nil => simp [Reading.read] at h
      | cons block outer =>
        by_cases hkind : block.kind = kind
        · subst hkind
          simp only [Reading.read, if_true] at h
          obtain rfl := Except.ok.inj h
          exact .closes ..
        · simp [Reading.read, hkind] at h
  · intro h
    cases h with
    | literal => exact read_text _
    | substitution => exact read_substitution _
    | opens _ _ _ _ _ hlimit => exact read_opener _ _ hlimit
    | turns _ _ _ _ hkind hfirst => exact read_alternative hkind hfirst
    | closes => exact read_closer _

end BilingualLessons.Template
