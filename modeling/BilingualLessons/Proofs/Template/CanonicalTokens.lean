import BilingualLessons.Proofs.Template.Scanning
import BilingualLessons.Proofs.Template.Tag
import Mathlib.Data.List.Chain

namespace BilingualLessons.Template

/-!
# Canonical tokens

Not every list of tokens can come from a source: two texts in a row would be one, and a text in
front of a tag cannot end in a character that would change how the braces of the tag are read.

* `trailingBraces` — the opening braces that a text ends in.
* `Canonical` — legible tokens, each of which may stand before the next.
* `canonical_of_tokenize` — every source has canonical tokens.
-/

/-! ### Trailing braces -/

/-- How many opening braces a text ends in. -/
def trailingBraces (cs : List Char) : Nat :=
  (cs.reverse.takeWhile (· = '{')).length

/-- Behind any other character the braces are counted anew. -/
theorem trailingBraces_append_cons {c : Char} (hc : c ≠ '{') (left cs : List Char) :
    trailingBraces (left ++ c :: cs) = trailingBraces cs := by
  simp only [trailingBraces, List.reverse_append, List.reverse_cons, List.append_assoc,
    List.singleton_append, List.takeWhile_append]
  split
  · next hall => simp [hc, hall]
  · rfl

/-- Text in front of a text does not leave it with one brace at its end. -/
theorem trailingBraces_append_ne_one (left : List Char) {cs : List Char} (hne : cs ≠ [])
    (h : trailingBraces cs ≠ 1) : trailingBraces (left ++ cs) ≠ 1 := by
  simp only [trailingBraces, List.reverse_append, List.takeWhile_append] at h ⊢
  split
  · next hall =>
    have hpos : 0 < cs.reverse.length := by
      simpa [List.length_pos_iff] using hne
    rw [List.length_append]
    omega
  · exact h

/-! ### Canonical tokens -/

/-- Whether a token may stand right before another one. -/
def TokenKind.MayPrecede : TokenKind → TokenKind → Prop
  | .text _, .text _ => False
  | .text literal, _ => literal.toList.getLast? ≠ some '\\' ∧ trailingBraces literal.toList ≠ 1
  | _, _ => True

instance : (kind next : TokenKind) → Decidable (kind.MayPrecede next)
  | .text _, .text _ => isFalse not_false
  | .text literal, .substitution _ | .text literal, .opener _ _ | .text literal, .alternative
  | .text literal, .closer _ => inferInstanceAs
    (Decidable (literal.toList.getLast? ≠ some '\\' ∧ trailingBraces literal.toList ≠ 1))
  | .substitution _, _ | .opener _ _, _ | .alternative, _ | .closer _, _ => isTrue trivial

/-- The tokens that a source can have: texts are not empty and never stand side by side, a text
    before a tag ends neither in a backslash nor in a single opening brace, paths are paths, and
    no substitution is named `else`. -/
structure Canonical (kinds : List TokenKind) : Prop where
  legible : ∀ kind ∈ kinds, kind.Legible
  mayPrecede : kinds.IsChain TokenKind.MayPrecede

instance (kinds : List TokenKind) : Decidable (Canonical kinds) :=
  decidable_of_iff ((∀ kind ∈ kinds, kind.Legible) ∧ kinds.IsChain TokenKind.MayPrecede)
    ⟨fun h => ⟨h.1, h.2⟩, fun h => ⟨h.legible, h.mayPrecede⟩⟩

theorem canonical_nil : Canonical [] := ⟨by simp, .nil⟩

theorem canonical_cons_iff {kind : TokenKind} {kinds : List TokenKind} :
    Canonical (kind :: kinds)
      ↔ kind.Legible ∧ (∀ next ∈ kinds.head?, kind.MayPrecede next) ∧ Canonical kinds := by
  constructor
  · rintro ⟨hlegible, hchain⟩
    rw [List.isChain_cons] at hchain
    exact ⟨hlegible _ (by simp), hchain.1, fun k hk => hlegible k (by simp [hk]), hchain.2⟩
  · rintro ⟨hlegible, hnext, hrest, hchain⟩
    refine ⟨?_, List.isChain_cons.mpr ⟨hnext, hchain⟩⟩
    intro k hk
    rcases List.mem_cons.mp hk with rfl | hmem
    · exact hlegible
    · exact hrest k hmem

/-! ### Text in front of canonical tokens -/

/-- What a text before a tag must not end in. -/
theorem mayPrecede_tag_iff {literal : String} {next : TokenKind} (h : next.isText = false) :
    TokenKind.MayPrecede (.text literal) next
      ↔ literal.toList.getLast? ≠ some '\\' ∧ trailingBraces literal.toList ≠ 1 := by
  cases next
  case text => exact absurd h (isText_text_ne_false _)
  all_goals exact Iff.rfl

/-- Nothing but a tag stands behind a text. -/
theorem isText_of_mayPrecede {literal : String} {next : TokenKind}
    (h : TokenKind.MayPrecede (.text literal) next) : next.isText = false := by
  cases next
  case text => exact h.elim
  all_goals rfl

/-- What a longer text may precede depends on its end alone. -/
theorem TokenKind.MayPrecede.append {literal : String} {next : TokenKind} (hne : literal ≠ "")
    (h : TokenKind.MayPrecede (.text literal) next) (front : String) :
    TokenKind.MayPrecede (.text (front ++ literal)) next := by
  have htag := isText_of_mayPrecede h
  have hne' : literal.toList ≠ [] := by simpa using hne
  obtain ⟨hlast, hbraces⟩ := (mayPrecede_tag_iff htag).mp h
  rw [mayPrecede_tag_iff htag, String.toList_append]
  refine ⟨?_, trailingBraces_append_ne_one _ hne' hbraces⟩
  rwa [List.getLast?_append_of_ne_nil _ hne']

/-- Text put before canonical tokens leaves them canonical, if it may stand before a tag that
    comes first. -/
theorem canonical_prependText {front : String} {tokens : List Token} (hne : front ≠ "")
    (line : Nat) (hready : ∀ token ∈ tokens.head?, token.kind.isText = false →
      TokenKind.MayPrecede (.text front) token.kind)
    (h : Canonical (tokens.map Token.kind)) :
    Canonical ((prependText front line tokens).map Token.kind) := by
  match tokens with
  | [] => exact canonical_cons_iff.mpr ⟨hne, by simp, canonical_nil⟩
  | ⟨.text literal, _⟩ :: rest =>
    -- the text at the head only grows at its front, and it is its end that matters
    obtain ⟨hliteral, hnext, hrest⟩ := canonical_cons_iff.mp h
    refine canonical_cons_iff.mpr ⟨?_, fun next hmem => (hnext next hmem).append hliteral front,
      hrest⟩
    show front ++ literal ≠ ""
    simp [hne]
  | ⟨.substitution _, _⟩ :: _ | ⟨.opener _ _, _⟩ :: _ | ⟨.alternative, _⟩ :: _
  | ⟨.closer _, _⟩ :: _ =>
    refine canonical_cons_iff.mpr ⟨hne, ?_, h⟩
    intro next hmem
    obtain rfl := Option.some.inj hmem
    exact hready _ rfl rfl

/-! ### The tokens of a source -/

/-- Whether the scanner can take one piece right before another: what stands right before the
    braces of a tag is neither a backslash nor a brace. -/
def Piece.MayPrecede : Piece → Piece → Prop
  | .char c, .tag _ => c ≠ '\\' ∧ c ≠ '{'
  | _, _ => True

/-- Where a tag is the next piece, its braces come next. -/
theorem exists_braces_of_pieces {cs content : List Char}
    (h : .tag content ∈ (piecesFrom none cs).head?) : ∃ rest, cs = '{' :: '{' :: rest := by
  rw [piecesFrom.eq_def] at h
  split at h
  · exact absurd h (by simp)
  · exact ⟨_, rfl⟩
  · exact absurd h (by simp)
  · exact absurd h (by simp)
  all_goals next heq => exact absurd heq (by simp)

/-- The pieces of a source may stand side by side. -/
theorem mayPrecede_pieces (inside : Option (List Char)) (cs : List Char) :
    (piecesFrom inside cs).IsChain Piece.MayPrecede := by
  fun_induction piecesFrom inside cs with
  | case1 rest ih => exact ih.cons (fun _ _ => trivial)
  | case2 rest ih => exact ih
  | case3 c rest hescape htag ih =>
    refine ih.cons ?_
    intro next hnext
    cases next with
    | tag content =>
      -- with the braces of the tag behind it `c` would be part of an escape or of a tag
      obtain ⟨more, rfl⟩ := exists_braces_of_pieces hnext
      constructor
      · rintro rfl
        exact hescape more rfl rfl
      · rintro rfl
        exact htag _ rfl rfl
    | _ => trivial
  | case4 => exact .nil
  | case5 inside rest ih => exact ih.cons (fun _ _ => trivial)
  | case6 inside c rest _ ih => exact ih
  | case7 inside => exact .singleton _

/-- A text comes first where text was put before tokens. -/
theorem prependText_eq_cons (front : String) (line : Nat) (tokens : List Token) :
    ∃ literal rest, prependText front line tokens = ⟨.text literal, line⟩ :: rest := by
  unfold prependText
  split
  · exact ⟨_, _, rfl⟩
  · exact ⟨_, _, rfl⟩

/-- A tag comes first among tokens only where it does among the pieces. -/
theorem exists_tag_of_tokensFrom {line : Nat} {ps : List Piece} {tokens : List Token}
    (h : tokensFrom line ps = .ok tokens) {token : Token} (hhead : token ∈ tokens.head?)
    (htag : token.kind.isText = false) : ∃ content, .tag content ∈ ps.head? := by
  have htext : ∀ (front : String) (line : Nat) (more : List Token),
      prependText front line more = tokens → False := by
    rintro front line more rfl
    obtain ⟨literal, rest, heq⟩ := prependText_eq_cons front line more
    rw [heq] at hhead
    obtain rfl := Option.some.inj hhead
    exact absurd htag (isText_text_ne_false _)
  cases ps with
  | nil =>
    obtain rfl := Except.ok.inj h
    exact absurd hhead (by simp)
  | cons piece rest =>
    -- a character and an escape put text at the head, so only a tag is left
    cases piece with
    | char c =>
      obtain ⟨more, _, hmore⟩ := bind_eq_ok_iff.mp h
      exact (htext _ _ _ (Except.ok.inj hmore)).elim
    | escape =>
      obtain ⟨more, _, hmore⟩ := bind_eq_ok_iff.mp h
      exact (htext _ _ _ (Except.ok.inj hmore)).elim
    | tag content => exact ⟨content, rfl⟩
    | unterminated => exact absurd h (by simp [tokensFrom])

/-- Pieces that may stand side by side have canonical tokens. -/
theorem canonical_of_tokensFrom {line : Nat} {ps : List Piece} {tokens : List Token}
    (hchain : ps.IsChain Piece.MayPrecede) (h : tokensFrom line ps = .ok tokens) :
    Canonical (tokens.map Token.kind) := by
  induction ps generalizing line tokens with
  | nil =>
    obtain rfl := Except.ok.inj h
    exact canonical_nil
  | cons piece rest ih =>
    obtain ⟨hnext, hrest⟩ := List.isChain_cons.mp hchain
    cases piece with
    | char c =>
      obtain ⟨more, hmore, heq⟩ := bind_eq_ok_iff.mp h
      obtain rfl := Except.ok.inj heq
      refine canonical_prependText (by simp) line ?_ (ih hrest hmore)
      intro token hhead htag
      obtain ⟨content, hpiece⟩ := exists_tag_of_tokensFrom hmore hhead htag
      -- the one character that is put before the tag is none that would change its braces
      obtain ⟨hbackslash, hbrace⟩ := hnext _ hpiece
      rw [mayPrecede_tag_iff htag]
      simp [trailingBraces, hbackslash, hbrace]
    | escape =>
      obtain ⟨more, hmore, heq⟩ := bind_eq_ok_iff.mp h
      obtain rfl := Except.ok.inj heq
      refine canonical_prependText (by decide) line ?_ (ih hrest hmore)
      -- an escape leaves two braces, so it may stand before any tag
      intro token _ htag
      rw [mayPrecede_tag_iff htag]
      decide
    | tag content =>
      rw [tokensFrom] at h
      split at h
      · exact absurd h (by simp)
      · next kind hkind =>
        obtain ⟨more, hmore, heq⟩ := bind_eq_ok_iff.mp h
        obtain rfl := Except.ok.inj heq
        obtain ⟨htag, hlegible⟩ := legible_of_classify hkind
        refine canonical_cons_iff.mpr ⟨hlegible, ?_, ih hrest hmore⟩
        intro next _
        cases kind
        case text => exact absurd htag (isText_text_ne_false _)
        all_goals trivial
    | unterminated => exact absurd h (by simp [tokensFrom])

/-- **Every source has canonical tokens.** -/
theorem canonical_of_tokenize {source : String} {tokens : List Token}
    (h : tokenize source = .ok tokens) : Canonical (tokens.map Token.kind) :=
  canonical_of_tokensFrom (mayPrecede_pieces none source.toList) h

end BilingualLessons.Template
