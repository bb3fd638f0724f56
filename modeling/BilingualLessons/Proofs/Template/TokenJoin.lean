import BilingualLessons.Proofs.Outcome
import BilingualLessons.Proofs.Template.Scanning
import BilingualLessons.Proofs.Template.Tag

namespace BilingualLessons.Template

/-!
# The tokens of two sources in a row

Literal text can run over the border between two sources; then its two parts are one token.
Everything else about the second source is as it would be alone, but for the lines.

* `joinTokens` — the tokens of two sources in a row.
* `movedBy` — a result, with all lines in it further down.
* `tokensFrom_append`, `tokensFrom_add` — the tokens of two lists of pieces in a row, and of
  pieces that start on a later line.
* `tokenize_append` — the two together, for sources.
-/

/-! ### Results further down -/

/-- The token `lines` lines further down. -/
def Token.shift (lines : Nat) (token : Token) : Token :=
  { token with line := token.line + lines }

/-- A result with everything in it `lines` lines further down; `move` says how this is done to
    what was read. -/
def movedBy {α : Type} (lines : Nat) (move : α → α) : Except Fault α → Except Fault α
  | .ok a => .ok (move a)
  | .error fault => .error (fault.shift lines)

@[simp] theorem movedBy_ok {α : Type} (lines : Nat) (move : α → α) (a : α) :
    movedBy lines move (.ok a) = .ok (move a) := rfl

@[simp] theorem movedBy_error {α : Type} (lines : Nat) (move : α → α) (fault : Fault) :
    movedBy lines move (.error fault) = .error (fault.shift lines) := rfl

/-- Text put before tokens moves down with them. -/
theorem prependText_shift (lines : Nat) (text : String) (line : Nat) (tokens : List Token) :
    prependText text (line + lines) (tokens.map (Token.shift lines))
      = (prependText text line tokens).map (Token.shift lines) := by
  cases tokens with
  | nil => rfl
  | cons token rest =>
    obtain ⟨kind, at_⟩ := token
    cases kind <;> rfl

/-- **Later start.** Pieces that start on a later line give the same tokens and the same fault,
    that many lines further down. -/
theorem tokensFrom_add (line lines : Nat) (ps : List Piece) :
    tokensFrom (line + lines) ps
      = movedBy lines (List.map (Token.shift lines)) (tokensFrom line ps) := by
  induction ps generalizing line with
  | nil => rfl
  | cons piece rest ih =>
    cases piece with
    | char c =>
      have hline : line + lines + Text.lineEnds [c] = line + Text.lineEnds [c] + lines := by omega
      rw [tokensFrom, tokensFrom, hline, ih]
      cases tokensFrom (line + Text.lineEnds [c]) rest with
      | error fault => rfl
      | ok tokens => exact congrArg Except.ok (prependText_shift lines _ line tokens)
    | escape =>
      rw [tokensFrom, tokensFrom, ih]
      cases tokensFrom line rest with
      | error fault => rfl
      | ok tokens => exact congrArg Except.ok (prependText_shift lines _ line tokens)
    | tag content =>
      have hline : line + lines + Text.lineEnds content = line + Text.lineEnds content + lines := by
        omega
      rw [tokensFrom, tokensFrom]
      cases classify content with
      | error fault => rfl
      | ok kind =>
        simp only
        rw [hline, ih]
        cases tokensFrom (line + Text.lineEnds content) rest <;> rfl
    | unterminated => rfl

/-! ### Joining -/

/-- The tokens of two sources in a row. A text at the end of the first and one at the start of
    the second are one text. -/
def joinTokens : List Token → List Token → List Token
  | [], right => right
  | [⟨.text text, line⟩], ⟨.text more, _⟩ :: right => ⟨.text (text ++ more), line⟩ :: right
  | token :: left, right => token :: joinTokens left right

/-- Nothing behind tokens leaves them as they are. -/
theorem joinTokens_nil (left : List Token) : joinTokens left [] = left := by
  induction left with
  | nil => rfl
  | cons first left ih => rw [joinTokens, ih]; simp

/-- A token that is not the last one stays as it is. -/
theorem joinTokens_cons_cons (first second : Token) (left right : List Token) :
    joinTokens (first :: second :: left) right = first :: joinTokens (second :: left) right := by
  rw [joinTokens]
  simp

/-- Tokens in front of a tag stay as they are. -/
theorem joinTokens_of_tag {token : Token} (h : token.kind.isText = false)
    (left right : List Token) : joinTokens left (token :: right) = left ++ token :: right := by
  induction left with
  | nil => rfl
  | cons first left ih =>
    rw [joinTokens, ih, List.cons_append]
    rintro text line more line' right' heq
    rw [(List.cons.inj heq).1] at h
    exact absurd h (isText_text_ne_false _)

/-- Tokens in a row are joined, or the texts at the border are. -/
theorem joinTokens_cases (left right : List Token) :
    joinTokens left right = left ++ right ∨
      ∃ before text line more line' after, left = before ++ [⟨.text text, line⟩] ∧
        right = ⟨.text more, line'⟩ :: after ∧
        joinTokens left right = before ++ ⟨.text (text ++ more), line⟩ :: after := by
  fun_induction joinTokens left right with
  | case1 right => exact Or.inl rfl
  | case2 text line more line' right =>
    exact Or.inr ⟨[], text, line, more, line', right, rfl, rfl, rfl⟩
  | case3 token left right _ ih =>
    rcases ih with h | ⟨before, text, line, more, line', after, rfl, rfl, h⟩
    · exact Or.inl (by rw [h, List.cons_append])
    · exact Or.inr ⟨token :: before, text, line, more, line', after, rfl, rfl, by
        rw [h, List.cons_append]⟩

/-- A tag at the head stays as it is. -/
theorem joinTokens_cons {token : Token} (h : token.kind.isText = false)
    (left right : List Token) :
    joinTokens (token :: left) right = token :: joinTokens left right := by
  rw [joinTokens]
  rintro text line more line' right' rfl rfl
  exact absurd h (isText_text_ne_false _)

/-- Text put before tokens can be put there before or after others are joined behind them. -/
theorem joinTokens_prependText (text : String) (line : Nat) (left right : List Token) :
    joinTokens (prependText text line left) right
      = prependText text line (joinTokens left right) := by
  match left, right with
  | [], [] => rfl
  | [], ⟨kind, _⟩ :: _ => cases kind <;> rfl
  | [⟨kind, _⟩], [] => cases kind <;> rfl
  | [⟨kind, _⟩], ⟨kind', _⟩ :: _ =>
    cases kind
    case text more => cases kind' <;> simp [prependText, joinTokens, String.append_assoc]
    all_goals rfl
  | ⟨kind, _⟩ :: second :: left, right =>
    rw [joinTokens_cons_cons]
    cases kind <;> simp only [prependText, joinTokens_cons_cons]

/-! ### Pieces in a row -/

/-- The line ends in what a piece stands for. -/
def Piece.lineEnds : Piece → Nat
  | .char c => Text.lineEnds [c]
  | .escape => 0
  | .tag content => Text.lineEnds content
  | .unterminated => 0

/-- The line ends in what pieces stand for. -/
def lineEndsOf : List Piece → Nat
  | [] => 0
  | piece :: rest => piece.lineEnds + lineEndsOf rest

@[simp] theorem lineEndsOf_cons (piece : Piece) (ps : List Piece) :
    lineEndsOf (piece :: ps) = piece.lineEnds + lineEndsOf ps := rfl

/-- The pieces of a source hold its line ends, if every tag is closed. -/
theorem lineEndsOf_piecesFrom {inside : Option (List Char)} {cs : List Char}
    (ht : Piece.unterminated ∉ piecesFrom inside cs) :
    lineEndsOf (piecesFrom inside cs) = Text.lineEnds (inside.getD []) + Text.lineEnds cs := by
  -- the content that has been read of an open tag counts, since it ends up in the tag
  fun_induction piecesFrom inside cs with
  | case1 rest ih =>
    rw [lineEndsOf_cons, ih (by simpa using ht)]
    simp [Piece.lineEnds, Text.lineEnds]
  | case2 rest ih =>
    rw [ih ht]
    simp [Text.lineEnds]
  | case3 c rest _ _ ih =>
    rw [lineEndsOf_cons, ih (by simpa using ht)]
    simp [Piece.lineEnds, Text.lineEnds, List.count_cons]
    omega
  | case4 => rfl
  | case5 inside rest ih =>
    rw [lineEndsOf_cons, ih (by simpa using ht)]
    simp [Piece.lineEnds, Text.lineEnds]
  | case6 inside c rest _ ih =>
    rw [ih ht]
    simp [Text.lineEnds, List.count_cons]
    omega
  | case7 inside => exact absurd ht (by simp)

/-- **Pieces in a row.** The tokens of two lists of pieces in a row are those of the first and
    those of the second from its line on, joined. -/
theorem tokensFrom_append (line : Nat) (ps qs : List Piece) :
    tokensFrom line (ps ++ qs) = (do
      let left ← tokensFrom line ps
      let right ← tokensFrom (line + lineEndsOf ps) qs
      return joinTokens left right) := by
  induction ps generalizing line with
  | nil => simp [tokensFrom, lineEndsOf, joinTokens]
  | cons piece rest ih =>
    cases piece with
    | char c =>
      simp only [List.cons_append, tokensFrom, ih, lineEndsOf_cons, Piece.lineEnds, ← Nat.add_assoc]
      cases tokensFrom (line + Text.lineEnds [c]) rest with
      | error fault => rfl
      | ok left =>
        cases tokensFrom (line + Text.lineEnds [c] + lineEndsOf rest) qs <;>
          simp [joinTokens_prependText]
    | escape =>
      simp only [List.cons_append, tokensFrom, ih, lineEndsOf_cons, Piece.lineEnds, Nat.zero_add]
      cases tokensFrom line rest with
      | error fault => rfl
      | ok left =>
        cases tokensFrom (line + lineEndsOf rest) qs <;> simp [joinTokens_prependText]
    | tag content =>
      simp only [List.cons_append, tokensFrom, lineEndsOf_cons, Piece.lineEnds, ← Nat.add_assoc]
      cases hkind : classify content with
      | error fault => rfl
      | ok kind =>
        simp only [ih]
        cases tokensFrom (line + Text.lineEnds content) rest with
        | error fault => rfl
        | ok left =>
          cases tokensFrom (line + Text.lineEnds content + lineEndsOf rest) qs with
          | error fault => rfl
          | ok right =>
            -- a tag is no text, so nothing is joined to it
            have htag : (Token.mk kind line).kind.isText = false := (legible_of_classify hkind).1
            simp [joinTokens_cons htag]
    | unterminated => rfl

/-! ### Sources in a row -/

/-- Tokens of pieces are there only when every tag is closed. -/
theorem unterminated_not_mem_of_tokensFrom {line : Nat} {ps : List Piece} {tokens : List Token}
    (h : tokensFrom line ps = .ok tokens) : Piece.unterminated ∉ ps := by
  induction ps generalizing line tokens with
  | nil => simp
  | cons piece rest ih =>
    cases piece with
    | char c =>
      obtain ⟨more, hmore, _⟩ := bind_eq_ok_iff.mp h
      simpa using ih hmore
    | escape =>
      obtain ⟨more, hmore, _⟩ := bind_eq_ok_iff.mp h
      simpa using ih hmore
    | tag content =>
      rw [tokensFrom] at h
      split at h
      · exact absurd h (by simp)
      · obtain ⟨more, hmore, _⟩ := bind_eq_ok_iff.mp h
        simpa using ih hmore
    | unterminated => exact absurd h (by simp [tokensFrom])

/-- **Sources in a row.** Behind a sealed source the tokens of another one are joined to those of
    the first, as many lines further down as the first has line ends. -/
theorem tokenize_append {left right : String} {tokens : List Token} (hs : Sealed left.toList)
    (h : tokenize left = .ok tokens) :
    tokenize (left ++ right) = (fun more => joinTokens tokens more) <$>
      movedBy (Text.lineEnds left.toList) (List.map (Token.shift (Text.lineEnds left.toList)))
        (tokenize right) := by
  have hclosed : Piece.unterminated ∉ pieces left.toList := unterminated_not_mem_of_tokensFrom h
  have hlines : lineEndsOf (pieces left.toList) = Text.lineEnds left.toList := by
    rw [pieces, lineEndsOf_piecesFrom hclosed]
    exact Nat.zero_add _
  unfold tokenize at h ⊢
  rw [String.toList_append, pieces_append hs hclosed, tokensFrom_append, h, hlines,
    tokensFrom_add]
  simp

end BilingualLessons.Template
