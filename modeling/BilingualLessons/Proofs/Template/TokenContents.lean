import BilingualLessons.Proofs.Template.Agreement
import BilingualLessons.Proofs.Template.BlockGrammar

namespace BilingualLessons.Template

/-!
# What nodes take over from tokens

Building the block tree moves literal texts and paths about, but it neither makes nor drops one.

* `tokenPaths`, `tokenTexts` — the paths and the literal texts of tokens.
* `pathsOf_of_written`, `literalsOf_of_written` — the nodes that are written with tokens have the
  same ones, in the same order.
-/

/-- The path of a token that has one. -/
def TokenKind.path? : TokenKind → Option String
  | .substitution path => some path
  | .opener _ path => some path
  | .text _ | .alternative | .closer _ => none

/-- The literal text of a token that is no tag. -/
def TokenKind.literal? : TokenKind → Option String
  | .text literal => some literal
  | .substitution _ | .opener _ _ | .alternative | .closer _ => none

/-- The paths of tokens, one after the other. -/
def tokenPaths (tokens : List Token) : List String :=
  tokens.filterMap fun token => token.kind.path?

/-- The literal texts of tokens, one after the other. -/
def tokenTexts (tokens : List Token) : List String :=
  tokens.filterMap fun token => token.kind.literal?

mutual

/-- The literal texts of a node, those of the blocks inside it included. -/
def Node.literals : Node → List String
  | .text literal => [literal]
  | .substitution _ _ => []
  | .conditional _ _ _ positive otherwise => literalsOf positive ++ literalsOf otherwise
  | .each _ _ body => literalsOf body

/-- The literal texts of nodes, one after the other. -/
def literalsOf : List Node → List String
  | [] => []
  | node :: rest => node.literals ++ literalsOf rest

end

/-- **Paths.** The tags of tokens name the paths of the nodes that the tokens write out. -/
theorem pathsOf_of_written {nodes : List Node} {tokens : List Token} (h : Written nodes tokens) :
    pathsOf nodes = tokenPaths tokens := by
  -- the path of a block is that of its opening tag; `else` and closing tags have none
  induction h with
  | nil => rfl
  | text literal line _ ih => simpa [pathsOf, Node.paths, tokenPaths, TokenKind.path?] using ih
  | substitution path line _ ih =>
    simpa [pathsOf, Node.paths, tokenPaths, TokenKind.path?] using ih
  | each path line closed _ _ ihbody ih =>
    simp [pathsOf, Node.paths, ihbody, ih, tokenPaths, TokenKind.path?]
  | conditional negated path line turned closed _ _ _ ihpos ihoth ih =>
    simp [pathsOf, Node.paths, ihpos, ihoth, ih, tokenPaths, TokenKind.path?]
  | shortConditional negated path line closed _ _ ihpos ih =>
    simp [pathsOf, Node.paths, ihpos, ih, tokenPaths, TokenKind.path?]

/-- **Literal texts.** The texts of tokens are those of the nodes that the tokens write out. -/
theorem literalsOf_of_written {nodes : List Node} {tokens : List Token} (h : Written nodes tokens) :
    literalsOf nodes = tokenTexts tokens := by
  induction h with
  | nil => rfl
  | text literal line _ ih =>
    simpa [literalsOf, Node.literals, tokenTexts, TokenKind.literal?] using ih
  | substitution path line _ ih =>
    simpa [literalsOf, Node.literals, tokenTexts, TokenKind.literal?] using ih
  | each path line closed _ _ ihbody ih =>
    simp [literalsOf, Node.literals, ihbody, ih, tokenTexts, TokenKind.literal?]
  | conditional negated path line turned closed _ _ _ ihpos ihoth ih =>
    simp [literalsOf, Node.literals, ihpos, ihoth, ih, tokenTexts, TokenKind.literal?]
  | shortConditional negated path line closed _ _ ihpos ih =>
    simp [literalsOf, Node.literals, ihpos, ih, tokenTexts, TokenKind.literal?]

end BilingualLessons.Template
