import BilingualLessons.Template.Token

namespace BilingualLessons.Template

/-!
# The block tree of a template

* `Node` — literal text, substitutions, conditional blocks and loops.
* `OpenBlock` — a block whose closing tag has not been read.
* `nodesFrom` — one token after the other, with the open blocks at hand.
* `parseTokens`, `parse` — the nodes of a list of tokens and of a source.
-/

/-- A part of a template. -/
inductive Node where
  | text (text : String)
  | substitution (path : String) (line : Nat)
  | conditional (negated : Bool) (path : String) (line : Nat)
      (positive : List Node) (otherwise : List Node)
  | each (path : String) (line : Nat) (body : List Node)
deriving Repr

/-- A block whose closing tag has not been read. -/
structure OpenBlock where
  kind : BlockKind
  path : String
  line : Nat
  /-- The nodes before the block, the last one first. -/
  before : List Node
  /-- What stands before its `else`, once that has been read. -/
  positive : Option (List Node)

/-- The node of a block that ends, `body` being what was read since its opening tag or since its
    `else`. -/
def OpenBlock.close (block : OpenBlock) (body : List Node) : Node :=
  match block.kind, block.positive with
  | .each, _ => .each block.path block.line body
  | kind, none => .conditional (kind = .falsy) block.path block.line body []
  | kind, some positive => .conditional (kind = .falsy) block.path block.line positive body

/-- Reads tokens with the blocks of `stack` open, the innermost first, none of them below the
    `limit`. `done` holds the nodes read in the innermost block, the last one first. -/
def nodesFrom (limit : Nat) (stack : List OpenBlock) (done : List Node) :
    List Token → Except Fault (List Node)
  | [] =>
    match stack with
    | [] => .ok done.reverse
    | block :: _ => .error (.unclosedBlock block.kind block.line)
  | ⟨.text text, _⟩ :: rest => nodesFrom limit stack (.text text :: done) rest
  | ⟨.substitution path, line⟩ :: rest =>
    nodesFrom limit stack (.substitution path line :: done) rest
  | ⟨.opener kind path, line⟩ :: rest =>
    if limit < stack.length + 1 then .error (.nestingTooDeep limit line)
    else nodesFrom limit (⟨kind, path, line, done, none⟩ :: stack) [] rest
  | ⟨.alternative, line⟩ :: rest =>
    match stack with
    | [] => .error (.malformed .elseOutside line)
    | block :: outer =>
      if block.kind = .each then .error (.malformed .elseInEach line)
      else if block.positive.isSome then .error (.malformed (.secondElse block.kind) block.line)
      else
        nodesFrom limit
          (⟨block.kind, block.path, block.line, block.before, some done.reverse⟩ :: outer) [] rest
  | ⟨.closer kind, line⟩ :: rest =>
    match stack with
    | [] => .error (.malformed (.strayCloser kind) line)
    | block :: outer =>
      if block.kind = kind then
        nodesFrom limit outer (block.close done.reverse :: block.before) rest
      else .error (.malformed (.wrongCloser block.kind kind) line)

/-- The nodes of a list of tokens, with blocks inside one another up to `limit` deep. -/
def parseTokens (limit : Nat) (tokens : List Token) : Except Fault (List Node) :=
  nodesFrom limit [] [] tokens

/-- The nodes of a source. -/
def parse (limit : Nat) (source : String) : Except Fault (List Node) := do
  parseTokens limit (← tokenize source)

end BilingualLessons.Template
