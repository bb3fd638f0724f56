import BilingualLessons.Json.Value

namespace BilingualLessons.Template

/-!
# What can be wrong with a template

* `BlockKind` — the three kinds of block and their keywords.
* `SyntaxFault` — a tag that cannot be read, or stands where it must not.
* `Fault` — everything that makes rendering fail, with the line of the tag at fault.
-/

/-- The kinds of block: rendered if a value is truthy, unless it is, and once per element. -/
inductive BlockKind where
  | truthy
  | falsy
  | each
deriving DecidableEq, Repr

/-- The keyword of a kind of block, in its opening and its closing tag. -/
def BlockKind.keyword : BlockKind → String
  | .truthy => "if"
  | .falsy => "unless"
  | .each => "each"

/-- The kind of block that a keyword stands for. -/
def BlockKind.ofKeyword? (word : String) : Option BlockKind :=
  if word = "if" then some .truthy
  else if word = "unless" then some .falsy
  else if word = "each" then some .each
  else none

theorem BlockKind.ofKeyword?_keyword (kind : BlockKind) :
    BlockKind.ofKeyword? kind.keyword = some kind := by
  cases kind <;> decide

/-- A tag that cannot be read, or stands where it must not. -/
inductive SyntaxFault where
  | unterminatedTag
  | unknownHelper (word : String)
  | argumentCount (word : String)
  | unknownCloser (word : String)
  | invalidExpression (tag : String)
  | elseInEach
  | elseOutside
  | wrongCloser (expected found : BlockKind)
  | strayCloser (found : BlockKind)
  | secondElse (kind : BlockKind)
deriving DecidableEq, Repr

/-- A tag with the given content. -/
def tagText (content : String) : String :=
  "\x7b\x7b" ++ content ++ "\x7d\x7d"

/-- The words of a syntax fault. -/
def SyntaxFault.message : SyntaxFault → String
  | .unterminatedTag => "unterminated '\x7b\x7b' tag"
  | .unknownHelper word => s!"unknown block helper '#{word}'"
  | .argumentCount word => s!"#{word} expects exactly one path argument"
  | .unknownCloser word => s!"unknown block closer '/{word}'"
  | .invalidExpression tag => s!"invalid expression '{tag}'"
  | .elseInEach => tagText "else" ++ " is not supported inside #each"
  | .elseOutside => tagText "else" ++ " outside of a block"
  | .wrongCloser expected found =>
    "expected " ++ tagText ("/" ++ expected.keyword) ++
      " but found " ++ tagText ("/" ++ found.keyword)
  | .strayCloser found => "unexpected " ++ tagText ("/" ++ found.keyword)
  | .secondElse kind => "more than one " ++ tagText "else" ++ " in #" ++ kind.keyword ++ " block"

/-- Why a template does not render. Lines count from one and are those of the tag at fault; for a
    block that is not closed, of its opening tag. -/
inductive Fault where
  | undefinedVariable (path : String) (line : Nat)
  | notScalar (path : String) (kind : Json.Kind) (line : Nat)
  | notAnArray (path : String) (kind : Json.Kind) (line : Nat)
  | malformed (fault : SyntaxFault) (line : Nat)
  | unclosedBlock (kind : BlockKind) (line : Nat)
  | nestingTooDeep (limit : Nat) (line : Nat)
deriving DecidableEq, Repr

/-- The line a fault points at. -/
def Fault.line : Fault → Nat
  | .undefinedVariable _ line => line
  | .notScalar _ _ line => line
  | .notAnArray _ _ line => line
  | .malformed _ line => line
  | .unclosedBlock _ line => line
  | .nestingTooDeep _ line => line

/-- The fault `lines` lines further down. -/
def Fault.shift (lines : Nat) : Fault → Fault
  | .undefinedVariable path line => .undefinedVariable path (line + lines)
  | .notScalar path kind line => .notScalar path kind (line + lines)
  | .notAnArray path kind line => .notAnArray path kind (line + lines)
  | .malformed fault line => .malformed fault (line + lines)
  | .unclosedBlock kind line => .unclosedBlock kind (line + lines)
  | .nestingTooDeep limit line => .nestingTooDeep limit (line + lines)

/-- The words of a fault. -/
def Fault.message : Fault → String
  | .undefinedVariable path line => s!"undefined variable '{path}' at line {line}"
  | .notScalar path kind line =>
    s!"variable '{path}' at line {line} resolved to {kind.name}, expected a scalar"
  | .notAnArray path kind line =>
    s!"'{path}' at line {line} is {kind.name}, #each requires an array"
  | .malformed fault line => s!"malformed template at line {line}: {fault.message}"
  | .unclosedBlock kind line =>
    "unclosed " ++ tagText ("#" ++ kind.keyword) ++ s!" block opened at line {line}"
  | .nestingTooDeep limit line =>
    s!"block nesting exceeds maximum depth of {limit} at line {line}"

end BilingualLessons.Template
