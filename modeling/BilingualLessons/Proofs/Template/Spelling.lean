import BilingualLessons.Proofs.Template.CanonicalTokens
import BilingualLessons.Proofs.Template.TokenJoin

namespace BilingualLessons.Template

/-!
# Writing tokens out

A source for every canonical list of tokens.  Only opening braces need care in literal text, and
they can be escaped in pairs only: of an odd run the first brace stays as it is, since the
backslash behind it keeps it from being read together with the next.

* `printText` — literal text with its runs of braces escaped.
* `TokenKind.print`, `printTokens` — a token and tokens, with any blanks in the tags.
* `piecesFrom_printText` — the scanner takes written text apart as it was put together.
* `tokensFrom_printTokens` — written tokens are read back, each on the line it was written on.
* `tokens_are_canonical_and_read_back` — canonical tokens are exactly those that sources have.
-/

/-! ### Literal text -/

/-- How a run of opening braces is written: an odd one as it is, then the pairs as escapes. -/
def braceRun (count : Nat) : List Char :=
  List.replicate (count % 2) '{' ++ (List.replicate (count / 2) ['\\', '{', '{']).flatten

/-- How literal text is written behind a run of `count` opening braces. -/
def printText (count : Nat) : List Char → List Char
  | [] => braceRun count
  | c :: cs => if c = '{' then printText (count + 1) cs else braceRun count ++ c :: printText 0 cs

/-- The pieces of a run of opening braces. -/
def runPieces (count : Nat) : List Piece :=
  List.replicate (count % 2) (.char '{') ++ List.replicate (count / 2) .escape

/-- The pieces of literal text behind a run of `count` opening braces. -/
def textPieces (count : Nat) : List Char → List Piece
  | [] => runPieces count
  | c :: cs =>
    if c = '{' then textPieces (count + 1) cs else runPieces count ++ .char c :: textPieces 0 cs

/-- A run of braces is empty, a single brace, or has a backslash among its first two characters. -/
theorem braceRun_cases (count : Nat) :
    count = 0 ∧ braceRun count = [] ∨ count = 1 ∧ braceRun count = ['{'] ∨
      (∃ more, braceRun count = '\\' :: more) ∨ ∃ more, braceRun count = '{' :: '\\' :: more := by
  match count with
  | 0 => exact Or.inl ⟨rfl, rfl⟩
  | 1 => exact Or.inr (Or.inl ⟨rfl, rfl⟩)
  | count + 2 =>
    refine Or.inr (Or.inr ?_)
    have hhalf : (count + 2) / 2 = count / 2 + 1 := by omega
    have hrest : (count + 2) % 2 = count % 2 := by omega
    have hescapes : (List.replicate ((count + 2) / 2) ['\\', '{', '{']).flatten
        = '\\' :: '{' :: '{' :: (List.replicate (count / 2) ['\\', '{', '{']).flatten := by
      rw [hhalf, List.replicate_succ]
      rfl
    rcases Nat.mod_two_eq_zero_or_one count with heven | hodd
    · exact Or.inl ⟨_, by rw [braceRun, hrest, heven, hescapes]; rfl⟩
    · exact Or.inr ⟨_, by rw [braceRun, hrest, hodd, hescapes]; rfl⟩

/-- Escapes in a row are so many pieces. -/
theorem piecesFrom_escapes (count : Nat) (right : List Char) :
    piecesFrom none ((List.replicate count ['\\', '{', '{']).flatten ++ right)
      = List.replicate count .escape ++ piecesFrom none right := by
  induction count with
  | zero => rfl
  | succ count ih =>
    simp only [List.replicate_succ, List.flatten_cons, List.cons_append, List.nil_append,
      piecesFrom]
    rw [ih]

/-- A written run of braces is scanned back, if no brace comes right behind a single one. -/
theorem piecesFrom_braceRun (count : Nat) {right : List Char}
    (h : count = 1 → right.head? ≠ some '{') :
    piecesFrom none (braceRun count ++ right) = runPieces count ++ piecesFrom none right := by
  rcases Nat.mod_two_eq_zero_or_one count with heven | hodd
  · simp [braceRun, runPieces, heven, piecesFrom_escapes]
  · have hsingle : piecesFrom none
        ('{' :: ((List.replicate (count / 2) ['\\', '{', '{']).flatten ++ right))
          = .char '{' :: piecesFrom none
              ((List.replicate (count / 2) ['\\', '{', '{']).flatten ++ right) := by
      -- behind the single brace comes a backslash, or, if there is no pair, what `h` speaks of
      refine piecesFrom_char (by simp) ?_
      intro rest heq
      cases hhalf : count / 2 with
      | zero =>
        have hone : count = 1 := by omega
        exact h hone (by simp_all)
      | succ half => simp_all [List.replicate_succ]
    simp [braceRun, runPieces, hodd, hsingle, piecesFrom_escapes]

/-- What may come right behind a text: nothing, or a tag if the text may precede one. -/
def CanFollow (right text : List Char) : Prop :=
  right = [] ∨ text.getLast? ≠ some '\\' ∧ trailingBraces text ≠ 1

/-- What may follow a text may follow its last part. -/
theorem CanFollow.tail {right left cs : List Char} {c : Char} (hc : c ≠ '{') (hne : cs ≠ [])
    (h : CanFollow right (left ++ c :: cs)) : CanFollow right cs := by
  rcases h with hnil | ⟨hlast, hbraces⟩
  · exact Or.inl hnil
  · rw [trailingBraces_append_cons hc] at hbraces
    rw [List.getLast?_append_of_ne_nil _ (by simp), List.getLast?_cons_of_ne_nil hne] at hlast
    exact Or.inr ⟨hlast, hbraces⟩

/-- A brace at the head of a text belongs to the run before it. -/
theorem replicate_append_brace (count : Nat) (cs : List Char) :
    List.replicate count '{' ++ '{' :: cs = List.replicate (count + 1) '{' ++ cs := by
  rw [List.replicate_succ', List.append_assoc]
  rfl

/-- Behind a single brace nothing may follow. -/
theorem CanFollow.eq_nil_of_brace {right : List Char}
    (h : CanFollow right (List.replicate 1 '{' ++ [])) : right = [] := by
  rcases h with hnil | ⟨_, hbraces⟩
  · exact hnil
  · exact absurd rfl hbraces

/-- Written text that is not empty does not begin with the braces of a tag, with what may follow
    it behind it. -/
theorem printText_ne_braces {count : Nat} {cs right : List Char}
    (hne : List.replicate count '{' ++ cs ≠ [])
    (h : CanFollow right (List.replicate count '{' ++ cs)) (rest : List Char) :
    printText count cs ++ right ≠ '{' :: '{' :: rest := by
  -- a brace goes from the text into the run before it, so the run varies in the induction
  induction cs generalizing count with
  | nil =>
    rw [printText]
    rcases braceRun_cases count with ⟨rfl, _⟩ | ⟨rfl, hrun⟩ | ⟨more, hrun⟩ | ⟨more, hrun⟩
    · exact absurd rfl hne
    · simp [hrun, h.eq_nil_of_brace]
    · simp [hrun]
    · simp [hrun]
  | cons c cs ih =>
    by_cases hc : c = '{'
    · subst hc
      rw [replicate_append_brace] at hne h
      rw [printText, if_pos rfl]
      exact ih hne h
    · rw [printText, if_neg hc]
      rcases braceRun_cases count with ⟨_, hrun⟩ | ⟨_, hrun⟩ | ⟨more, hrun⟩ | ⟨more, hrun⟩ <;>
        simp [hrun, hc]

/-- **Written text** is taken apart as it was put together. -/
theorem piecesFrom_printText {count : Nat} {cs right : List Char}
    (h : CanFollow right (List.replicate count '{' ++ cs)) :
    piecesFrom none (printText count cs ++ right)
      = textPieces count cs ++ piecesFrom none right := by
  induction cs generalizing count with
  | nil =>
    rw [printText, textPieces]
    refine piecesFrom_braceRun count ?_
    rintro rfl
    simp [h.eq_nil_of_brace]
  | cons c cs ih =>
    by_cases hc : c = '{'
    · subst hc
      rw [replicate_append_brace] at h
      rw [printText, if_pos rfl, textPieces, if_pos rfl, ih h]
    · -- `c` ends the run; it is literal unless it is a backslash with two braces behind it, and
      -- no text is written with two braces at its head
      have hescape : ∀ rest, c :: (printText 0 cs ++ right) ≠ '\\' :: '{' :: '{' :: rest := by
        intro rest heq
        obtain ⟨rfl, hbraces⟩ := List.cons.inj heq
        by_cases hcs : cs = []
        · -- the backslash ends the text, so nothing follows
          subst hcs
          rcases h with rfl | ⟨hlast, _⟩
          · simp [printText, braceRun] at hbraces
          · simp at hlast
        · have hbare : List.replicate 0 '{' ++ cs ≠ [] := hcs
          exact printText_ne_braces hbare (h.tail hc hcs : CanFollow right cs) rest hbraces
      have hrest : piecesFrom none (printText 0 cs ++ right)
          = textPieces 0 cs ++ piecesFrom none right := by
        by_cases hcs : cs = []
        · subst hcs
          rfl
        · exact ih (h.tail hc hcs : CanFollow right cs)
      rw [printText, if_neg hc, textPieces, if_neg hc, List.append_assoc,
        piecesFrom_braceRun count (by simp [hc]), List.cons_append,
        piecesFrom_char hescape (by simp [hc]), hrest, List.append_assoc, List.cons_append]

/-! ### The token of a text -/

/-- Pieces that stand for literal text. -/
inductive StandFor : List Piece → List Char → Prop where
  | nil : StandFor [] []
  | char (c : Char) {ps : List Piece} {cs : List Char} :
      StandFor ps cs → StandFor (.char c :: ps) (c :: cs)
  | escape {ps : List Piece} {cs : List Char} :
      StandFor ps cs → StandFor (.escape :: ps) ('{' :: '{' :: cs)

theorem StandFor.append {ps qs : List Piece} {cs ds : List Char} (hl : StandFor ps cs)
    (hr : StandFor qs ds) : StandFor (ps ++ qs) (cs ++ ds) := by
  induction hl with
  | nil => exact hr
  | char c _ ih => exact .char c ih
  | escape _ ih => exact .escape ih

/-- Literal pieces have one token, their text, or none if that is empty. -/
theorem tokensFrom_of_standFor {ps : List Piece} {cs : List Char} (h : StandFor ps cs)
    (line : Nat) :
    tokensFrom line ps = .ok (if cs = [] then [] else [⟨.text (String.ofList cs), line⟩]) := by
  induction h generalizing line with
  | nil => rfl
  | @char c ps cs _ ih =>
    rw [tokensFrom, ih, ok_bind]
    by_cases hcs : cs = [] <;> simp [hcs, prependText]
  | @escape ps cs _ ih =>
    rw [tokensFrom, ih, ok_bind]
    have hbraces : String.ofList ('{' :: '{' :: cs) = "\x7b\x7b" ++ String.ofList cs := by
      rw [show '{' :: '{' :: cs = ['{', '{'] ++ cs from rfl, String.ofList_append]
    by_cases hcs : cs = []
    · subst hcs
      rfl
    · simp [hcs, prependText, hbraces]

/-- The pieces of a run of braces stand for it. -/
theorem standFor_runPieces (count : Nat) :
    StandFor (runPieces count) (List.replicate count '{') := by
  have hescapes : ∀ pairs,
      StandFor (List.replicate pairs .escape) (List.replicate (2 * pairs) '{') := by
    intro pairs
    induction pairs with
    | zero => exact .nil
    | succ pairs ih => exact .escape ih
  rcases Nat.mod_two_eq_zero_or_one count with heven | hodd
  · have hcount : count = 2 * (count / 2) := by omega
    rw [runPieces, heven]
    have := hescapes (count / 2)
    rwa [← hcount] at this
  · have hcount : count = 2 * (count / 2) + 1 := by omega
    rw [runPieces, hodd]
    have := StandFor.char '{' (hescapes (count / 2))
    rwa [← List.replicate_succ, ← hcount] at this

/-- The pieces of a text stand for it. -/
theorem standFor_textPieces (count : Nat) (cs : List Char) :
    StandFor (textPieces count cs) (List.replicate count '{' ++ cs) := by
  induction cs generalizing count with
  | nil => simpa [textPieces] using standFor_runPieces count
  | cons c cs ih =>
    by_cases hc : c = '{'
    · rw [textPieces, if_pos hc, hc, replicate_append_brace]
      exact ih (count + 1)
    · rw [textPieces, if_neg hc]
      exact (standFor_runPieces count).append (.char c (ih 0))

/-! ### Tokens -/

/-- How a token is written, with the blanks of `padding` if it is a tag. -/
def TokenKind.print (padding : Padding) (kind : TokenKind) : List Char :=
  match kind with
  | .text literal => printText 0 literal.toList
  | tag => '{' :: '{' :: (tag.content padding ++ ['}', '}'])

/-- How tokens are written, one behind the other, each with its own blanks. -/
def printTokens (items : List (TokenKind × Padding)) : List Char :=
  items.flatMap fun item => item.1.print item.2

theorem print_tag (padding : Padding) {kind : TokenKind} (htag : kind.isText = false) :
    kind.print padding = '{' :: '{' :: (kind.content padding ++ ['}', '}']) := by
  cases kind
  case text => exact absurd htag (isText_text_ne_false _)
  all_goals rfl

/-- What is written behind a text may follow it. -/
theorem canFollow_printTokens {literal : String} {items : List (TokenKind × Padding)}
    (h : ∀ next ∈ (items.map Prod.fst).head?, TokenKind.MayPrecede (.text literal) next) :
    CanFollow (printTokens items) literal.toList := by
  cases items with
  | nil => exact Or.inl rfl
  | cons item rest =>
    have hnext := h item.1 rfl
    exact Or.inr ((mayPrecede_tag_iff (isText_of_mayPrecede hnext)).mp hnext)

/-- A written text is one token, and has as many line ends as the text. -/
theorem pieces_print_text {literal : String} (hne : literal ≠ "") {right : List Char}
    (h : CanFollow right literal.toList) (padding : Padding) :
    ∃ ps, pieces ((TokenKind.text literal).print padding ++ right) = ps ++ pieces right ∧
      (∀ line, tokensFrom line ps = .ok [⟨.text literal, line⟩]) ∧
      lineEndsOf ps = Text.lineEnds ((TokenKind.text literal).print padding) := by
  have hne' : literal.toList ≠ [] := by simpa using hne
  have halone : pieces (printText 0 literal.toList) = textPieces 0 literal.toList := by
    have hnil : CanFollow [] (List.replicate 0 '{' ++ literal.toList) := Or.inl rfl
    have := piecesFrom_printText hnil
    rwa [List.append_nil, show piecesFrom none [] = [] from rfl, List.append_nil] at this
  have htokens : ∀ line, tokensFrom line (textPieces 0 literal.toList)
      = .ok [⟨.text literal, line⟩] := by
    intro line
    have := tokensFrom_of_standFor (standFor_textPieces 0 literal.toList) line
    simpa [hne'] using this
  refine ⟨textPieces 0 literal.toList, piecesFrom_printText h, htokens, ?_⟩
  -- the line ends are those of the written characters, since no tag is left open among them
  rw [← halone]
  show lineEndsOf (piecesFrom none (printText 0 literal.toList)) = _
  rw [lineEndsOf_piecesFrom]
  · exact Nat.zero_add _
  · show .unterminated ∉ pieces _
    rw [halone]
    exact unterminated_not_mem_of_tokensFrom (htokens 1)

/-- A written tag is one piece and one token. -/
theorem pieces_print_tag {kind : TokenKind} (htag : kind.isText = false) (h : kind.Legible)
    (padding : Padding) (right : List Char) :
    ∃ ps, pieces (kind.print padding ++ right) = ps ++ pieces right ∧
      (∀ line, tokensFrom line ps = .ok [⟨kind, line⟩]) ∧
      lineEndsOf ps = Text.lineEnds (kind.print padding) := by
  refine ⟨[.tag (kind.content padding)], ?_, ?_, ?_⟩
  · rw [print_tag padding htag]
    simpa using pieces_tag (brace_not_mem_content padding h) right
  · intro line
    simp [tokensFrom, classify_content padding htag h]
  · rw [print_tag padding htag]
    simp [lineEndsOf, Piece.lineEnds, Text.lineEnds]

/-- A token stays as it is before tokens that it may precede. -/
theorem joinTokens_of_mayPrecede {token : Token} {tokens : List Token}
    (h : ∀ next ∈ (tokens.map Token.kind).head?, token.kind.MayPrecede next) :
    joinTokens [token] tokens = token :: tokens := by
  cases htext : token.kind.isText
  · rw [joinTokens_cons htext]
    rfl
  · cases tokens with
    | nil => exact joinTokens_nil [token]
    | cons next more =>
      have hnext := h next.kind rfl
      obtain ⟨kind, line⟩ := token
      cases kind
      case text literal => exact joinTokens_of_tag (isText_of_mayPrecede hnext) _ _
      all_goals exact absurd htext (by simp [TokenKind.isText])

/-- **Written tokens are read back**, each on the line it was written on. -/
theorem tokensFrom_printTokens (line : Nat) {items : List (TokenKind × Padding)}
    (h : Canonical (items.map Prod.fst)) :
    tokensFrom line (pieces (printTokens items)) = .ok (items.mapIdx fun i item =>
      ⟨item.1, line + Text.lineEnds (printTokens (items.take i))⟩) := by
  induction items generalizing line with
  | nil => rfl
  | cons item rest ih =>
    obtain ⟨kind, padding⟩ := item
    obtain ⟨hlegible, hnext, hrest⟩ := canonical_cons_iff.mp h
    -- whatever the first token is, it is scanned apart from the rest
    obtain ⟨ps, hpieces, htokens, hlines⟩ : ∃ ps,
        pieces (kind.print padding ++ printTokens rest) = ps ++ pieces (printTokens rest) ∧
          (∀ line, tokensFrom line ps = .ok [⟨kind, line⟩]) ∧
          lineEndsOf ps = Text.lineEnds (kind.print padding) := by
      cases htext : kind.isText
      · exact pieces_print_tag htext hlegible padding _
      · cases kind
        case text literal =>
          exact pieces_print_text hlegible (canFollow_printTokens hnext) padding
        all_goals exact absurd htext (by simp [TokenKind.isText])
    have hcons : ∀ more, printTokens ((kind, padding) :: more)
        = kind.print padding ++ printTokens more := fun _ => rfl
    rw [hcons, hpieces, tokensFrom_append, htokens, ok_bind, hlines, ih _ hrest, ok_bind,
      List.mapIdx_cons, joinTokens_of_mayPrecede]
    · simp only [List.take_succ_cons, hcons, Text.lineEnds_append, Nat.add_assoc]
      rfl
    · intro next hmem
      cases rest with
      | nil => exact absurd hmem (by simp)
      | cons item more =>
        rw [List.mapIdx_cons] at hmem
        exact hnext next hmem

/-- **Canonical tokens are exactly those that sources have.** Every source that has tokens has
    canonical ones; and a source for canonical tokens is what they are written as, whatever blanks
    the tags are given: it has these tokens, each on the line that its first character is on. -/
theorem tokens_are_canonical_and_read_back :
    (∀ (source : String) (tokens : List Token), tokenize source = .ok tokens →
      Canonical (tokens.map Token.kind)) ∧
    (∀ items : List (TokenKind × Padding), Canonical (items.map Prod.fst) →
      tokenize (String.ofList (printTokens items)) = .ok (items.mapIdx fun i item =>
        ⟨item.1, 1 + Text.lineEnds (printTokens (items.take i))⟩)) := by
  refine ⟨fun _ _ => canonical_of_tokenize, fun items h => ?_⟩
  rw [tokenize, String.toList_ofList]
  exact tokensFrom_printTokens 1 h

/-- Three braces before a tag with a line end among its blanks. -/
theorem tokens_are_read_back_behind_braces :
    let wide : Padding := ⟨⟨['\n'], List.all_eq_true.mp rfl⟩, ⟨[], List.all_eq_true.mp rfl⟩,
      ⟨[' ', ' '], List.all_eq_true.mp rfl⟩, ⟨[' '], List.all_eq_true.mp rfl⟩, by simp⟩
    let items : List (TokenKind × Padding) :=
      [(.text "\x7b\x7b\x7b", .narrow), (.opener .each "words", wide), (.closer .each, .narrow)]
    Canonical (items.map Prod.fst) ∧
    String.ofList (printTokens items)
      = "\x7b\\\x7b\x7b" ++ tagText "\n#each  words " ++ tagText "/each" ∧
    tokenize (String.ofList (printTokens items)) = .ok [⟨.text "\x7b\x7b\x7b", 1⟩,
      ⟨.opener .each "words", 1⟩, ⟨.closer .each, 2⟩] := by
  intro wide items
  have hcanonical : Canonical (items.map Prod.fst) := by decide
  exact ⟨hcanonical, by rfl, tokens_are_canonical_and_read_back.2 items hcanonical⟩

end BilingualLessons.Template
