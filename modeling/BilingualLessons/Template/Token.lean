import BilingualLessons.Template.Fault
import BilingualLessons.Template.Path
import BilingualLessons.Text.Blank

namespace BilingualLessons.Template

/-!
# Tokens of a template

A template is literal text with tags in double braces between.  A backslash before two opening
braces makes them literal text.

* `Piece`, `pieces` — characters, escapes and tags, as they stand in the source.
* `TokenKind`, `Token` — literal texts and tags, each with its line.
* `classify` — what the content of a tag says.
* `tokenize` — the tokens of a source.
-/

/-! ### Pieces -/

/-- A part of the source that the scanner takes at once. -/
inductive Piece where
  /-- A literal character. -/
  | char (c : Char)
  /-- A backslash and two opening braces. -/
  | escape
  /-- A tag with the text between its braces. -/
  | tag (content : List Char)
  /-- Two opening braces that no closing ones follow. -/
  | unterminated
deriving DecidableEq, Repr

/-- The pieces of a source. Inside a tag, `inside` holds its content so far, the last character
    first; the first two closing braces end it. -/
def piecesFrom : Option (List Char) → List Char → List Piece
  | none, '\\' :: '{' :: '{' :: rest => .escape :: piecesFrom none rest
  | none, '{' :: '{' :: rest => piecesFrom (some []) rest
  | none, c :: rest => .char c :: piecesFrom none rest
  | none, [] => []
  | some inside, '}' :: '}' :: rest => .tag inside.reverse :: piecesFrom none rest
  | some inside, c :: rest => piecesFrom (some (c :: inside)) rest
  | some _, [] => [.unterminated]

/-- The pieces of a whole source. -/
def pieces (source : List Char) : List Piece := piecesFrom none source

/-! ### Tokens -/

/-- What a token says. -/
inductive TokenKind where
  | text (text : String)
  | substitution (path : String)
  | opener (kind : BlockKind) (path : String)
  | alternative
  | closer (kind : BlockKind)
deriving DecidableEq, Repr

/-- A token and the line it starts on. -/
structure Token where
  kind : TokenKind
  line : Nat
deriving DecidableEq, Repr

/-- An opening tag behind its `#`: a keyword and one path. -/
def classifyOpener (content : List Char) : Except SyntaxFault TokenKind :=
  let parts := (Text.words content).map String.ofList
  let word := parts.headD ""
  match BlockKind.ofKeyword? word, parts.tail with
  | none, _ => .error (.unknownHelper word)
  | some kind, [path] =>
    if isPath path then .ok (.opener kind path) else .error (.argumentCount word)
  | some _, _ => .error (.argumentCount word)

/-- A closing tag behind its `/`: a keyword. -/
def classifyCloser (content : List Char) : Except SyntaxFault TokenKind :=
  let word := String.ofList (Text.trim content)
  match BlockKind.ofKeyword? word with
  | some kind => .ok (.closer kind)
  | none => .error (.unknownCloser word)

/-- What a tag says, given the text between its braces. Blanks at its ends do not count. -/
def classify (content : List Char) : Except SyntaxFault TokenKind :=
  let tag := Text.trim content
  if tag = ['e', 'l', 's', 'e'] then .ok .alternative
  else
    match tag with
    | '#' :: opener => classifyOpener opener
    | '/' :: closer => classifyCloser closer
    | _ =>
      let path := String.ofList tag
      if isPath path then .ok (.substitution path) else .error (.invalidExpression path)

/-- Puts literal text before tokens: it joins a text that comes first. -/
def prependText (text : String) (line : Nat) : List Token → List Token
  | ⟨.text more, _⟩ :: rest => ⟨.text (text ++ more), line⟩ :: rest
  | tokens => ⟨.text text, line⟩ :: tokens

/-- The tokens of pieces that start on `line`. The first tag that cannot be read is the fault. -/
def tokensFrom (line : Nat) : List Piece → Except Fault (List Token)
  | [] => .ok []
  | .char c :: rest => do
    let tokens ← tokensFrom (line + Text.lineEnds [c]) rest
    return prependText (String.singleton c) line tokens
  | .escape :: rest => do
    let tokens ← tokensFrom line rest
    return prependText "\x7b\x7b" line tokens
  | .tag content :: rest =>
    match classify content with
    | .error fault => .error (.malformed fault line)
    | .ok kind => do
      let tokens ← tokensFrom (line + Text.lineEnds content) rest
      return ⟨kind, line⟩ :: tokens
  | .unterminated :: _ => .error (.malformed .unterminatedTag line)

/-- The tokens of a source. -/
def tokenize (source : String) : Except Fault (List Token) :=
  tokensFrom 1 (pieces source.toList)

end BilingualLessons.Template
