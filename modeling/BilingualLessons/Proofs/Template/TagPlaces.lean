import BilingualLessons.Proofs.Template.TokenJoin

namespace BilingualLessons.Template

/-!
# The places of tags

Where tags start in a source, told by the source alone, and that the line of a tag, as the scanner
counts it, is that of its place.

* `Closes` — content up to the first closing braces.
* `TagAt` — the places where a tag starts, with what stands before it and behind its braces.
* `tagAt_iff` — these are the places where the scanner takes a tag.
* `exists_tagAt_of_pieces` — every tag among the pieces of a source has a place, behind the pieces
  before it.
* `Piece.Unreadable` — what can be wrong with a tag as such.
* `exists_tagAt_of_mem_tokenize`, `exists_tagAt_of_tokenize_error` — every tag among the tokens of
  a source has a place on its line, and so has the tag that keeps a source from being read.
-/

/-! ### Places -/

/-- Whether the first closing braces in `behind` are those that stand behind `content`. -/
def Closes (content behind : List Char) : Prop :=
  (∃ after, behind = content ++ '}' :: '}' :: after) ∧ ¬ ['}', '}'] <:+: content ++ ['}']

/-- The places in a source where a tag starts: what stands before its opening braces, and what
    stands behind them. The source is passed from the left, escapes and whole tags at once, so no
    tag starts in an escape or in a tag. -/
inductive TagAt : List Char → List Char → List Char → Prop where
  | here (behind : List Char) : TagAt [] behind ('{' :: '{' :: behind)
  | passChar (c : Char) {before behind source : List Char}
      (hescape : ¬ ['\\', '{', '{'] <+: c :: source) (htag : ¬ ['{', '{'] <+: c :: source) :
      TagAt before behind source → TagAt (c :: before) behind (c :: source)
  | passEscape {before behind source : List Char} :
      TagAt before behind source →
      TagAt ('\\' :: '{' :: '{' :: before) behind ('\\' :: '{' :: '{' :: source)
  | passTag {content before behind source : List Char}
      (hclose : ¬ ['}', '}'] <:+: content ++ ['}']) :
      TagAt before behind source →
      TagAt ('{' :: '{' :: (content ++ '}' :: '}' :: before)) behind
        ('{' :: '{' :: (content ++ '}' :: '}' :: source))

/-- The source is what stands before a tag, its opening braces, and what stands behind them. -/
theorem TagAt.eq_append {before behind source : List Char} (h : TagAt before behind source) :
    source = before ++ '{' :: '{' :: behind := by
  induction h with
  | here behind => rfl
  | passChar c _ _ _ ih => rw [ih, List.cons_append]
  | passEscape _ ih => simp [ih]
  | passTag _ _ ih => simp [ih]

/-! ### Tags among the pieces -/

/-- How a piece is written; of a tag without an end, its opening braces. -/
def Piece.text : Piece → List Char
  | .char c => [c]
  | .escape => ['\\', '{', '{']
  | .tag content => '{' :: '{' :: (content ++ ['}', '}'])
  | .unterminated => ['{', '{']

/-- A piece is written with its line ends. -/
theorem lineEnds_text (piece : Piece) : Text.lineEnds piece.text = piece.lineEnds := by
  cases piece with
  | tag content => simp [Piece.text, Piece.lineEnds, Text.lineEnds]
  | _ => rfl

/-- Pieces are written with their line ends. -/
theorem lineEnds_flatMap_text (ps : List Piece) :
    Text.lineEnds (ps.flatMap Piece.text) = lineEndsOf ps := by
  induction ps with
  | nil => rfl
  | cons piece rest ih =>
    rw [List.flatMap_cons, Text.lineEnds_append, lineEnds_text, ih, lineEndsOf_cons]

/-- Whether a piece is a tag, closed or not. -/
def Piece.isTag : Piece → Bool
  | .tag _ | .unterminated => true
  | .char _ | .escape => false

/-- What stands behind the braces of a piece that is a tag. -/
def Piece.Begins (behind : List Char) : Piece → Prop
  | .tag content => Closes content behind
  | .unterminated => ¬ ['}', '}'] <:+: behind
  | .char _ | .escape => False

/-- What the scanner has read of a tag that it is in, with the opening braces. -/
def openedBy : Option (List Char) → List Char
  | none => []
  | some inside => '{' :: '{' :: inside.reverse

/-- The first of several characters makes no closing braces with what is before it, if it is not
    one of two closing braces itself. -/
theorem not_braces_infix_append_take {content rest : List Char} {c : Char}
    (hclose : ∀ more, c :: rest ≠ '}' :: '}' :: more) (h : ¬ ['}', '}'] <:+: content ++ [c]) :
    ¬ ['}', '}'] <:+: content ++ [c] ++ rest.take 1 := by
  cases rest with
  | nil => simpa using h
  | cons d more =>
    rw [List.take_succ_cons, List.take_zero, List.infix_concat_iff, not_or]
    refine ⟨?_, h⟩
    rintro ⟨before, heq⟩
    have hends : ['}', '}'] = [c, d] := List.append_inj_right' (by simpa using heq) rfl
    obtain ⟨rfl, rfl⟩ : '}' = c ∧ '}' = d := by simpa using hends
    exact hclose more rfl

/-- Tags among the pieces have a place in the source, behind the pieces before them. -/
theorem tagAt_of_piecesFrom {inside : Option (List Char)} {cs : List Char}
    (hinside : ∀ content ∈ inside, ¬ ['}', '}'] <:+: content.reverse ++ cs.take 1)
    {ps qs : List Piece} {piece : Piece} (h : piecesFrom inside cs = ps ++ piece :: qs)
    (hpiece : piece.isTag = true) :
    ∃ behind, TagAt (ps.flatMap Piece.text) behind (openedBy inside ++ cs) ∧
      piece.Begins behind := by
  -- the scanner goes into a tag and out of it again: what it has read of the tag is put back
  fun_induction piecesFrom inside cs generalizing ps with
  | case1 rest ih =>
    cases ps with
    | nil =>
      obtain rfl : Piece.escape = piece := (List.cons.inj h).1
      exact absurd hpiece (by simp [Piece.isTag])
    | cons first ps =>
      obtain ⟨rfl, hrest⟩ := List.cons.inj h
      obtain ⟨behind, hat, hbegins⟩ := ih (by simp) hrest
      exact ⟨behind, .passEscape hat, hbegins⟩
  | case2 rest ih =>
    refine ih ?_ h
    rintro content ⟨⟩ hinfix
    -- two braces do not fit into one character
    have hlength : 2 ≤ (rest.take 1).length := hinfix.length_le
    rw [List.length_take] at hlength
    omega
  | case3 c rest hescape htag ih =>
    cases ps with
    | nil =>
      obtain rfl : Piece.char c = piece := (List.cons.inj h).1
      exact absurd hpiece (by simp [Piece.isTag])
    | cons first ps =>
      obtain ⟨rfl, hrest⟩ := List.cons.inj h
      obtain ⟨behind, hat, hbegins⟩ := ih (by simp) hrest
      refine ⟨behind, .passChar c ?_ ?_ hat, hbegins⟩
      · -- the scanner would have taken an escape, or two braces, at once
        rintro ⟨more, heq⟩
        obtain ⟨rfl, rfl⟩ := List.cons.inj heq
        exact hescape more rfl rfl
      · rintro ⟨more, heq⟩
        obtain ⟨rfl, rfl⟩ := List.cons.inj heq
        exact htag more rfl rfl
  | case4 => exact absurd h (by simp)
  | case5 inside rest ih =>
    -- the tag ends here; the content was closed nowhere before
    have hfirst : ¬ ['}', '}'] <:+: inside.reverse ++ ['}'] := hinside inside rfl
    cases ps with
    | nil =>
      obtain rfl : Piece.tag inside.reverse = piece := (List.cons.inj h).1
      exact ⟨_, .here _, ⟨rest, rfl⟩, hfirst⟩
    | cons first ps =>
      obtain ⟨rfl, hrest⟩ := List.cons.inj h
      obtain ⟨behind, hat, hbegins⟩ := ih (by simp) hrest
      refine ⟨behind, ?_, hbegins⟩
      simpa [Piece.text, openedBy] using TagAt.passTag hfirst hat
  | case6 inside c rest hclose ih =>
    -- the tag goes on
    have hfirst : ¬ ['}', '}'] <:+: inside.reverse ++ [c] := hinside inside rfl
    obtain ⟨behind, hat, hbegins⟩ := ih (by
      rintro content ⟨⟩
      rw [List.reverse_cons]
      refine not_braces_infix_append_take ?_ hfirst
      rintro more heq
      obtain ⟨rfl, rfl⟩ := List.cons.inj heq
      exact hclose more rfl rfl) h
    refine ⟨behind, ?_, hbegins⟩
    simpa [openedBy] using hat
  | case7 inside =>
    obtain ⟨rfl, rfl, rfl⟩ : ps = [] ∧ piece = .unterminated ∧ qs = [] := by
      cases ps with
      | nil => simpa [eq_comm] using h
      | cons first ps => simp at h
    have hfirst : ¬ ['}', '}'] <:+: inside.reverse := by simpa using hinside inside rfl
    exact ⟨inside.reverse, by simpa [openedBy] using TagAt.here inside.reverse, hfirst⟩

/-- In a tag the next piece is a tag, whatever follows. -/
theorem exists_cons_of_piecesFrom_some (inside cs : List Char) :
    ∃ piece qs, piecesFrom (some inside) cs = piece :: qs ∧ piece.isTag = true := by
  generalize hstate : some inside = state
  fun_induction piecesFrom state cs generalizing inside with
  | case5 inside rest => exact ⟨_, _, rfl, rfl⟩
  | case6 inside c rest hclose ih => exact ih _ rfl
  | case7 inside => exact ⟨_, _, rfl, rfl⟩
  | _ => exact absurd hstate (by simp)

/-- A tag goes on up to its first closing braces. -/
theorem piecesFrom_some_append {content : List Char} (h : ¬ ['}', '}'] <:+: content ++ ['}'])
    (inside rest : List Char) : piecesFrom (some inside) (content ++ '}' :: '}' :: rest)
      = .tag (inside.reverse ++ content) :: piecesFrom none rest := by
  induction content generalizing inside with
  | nil => simp [piecesFrom]
  | cons c more ih =>
    have hclose : ∀ behind, c :: (more ++ '}' :: '}' :: rest) ≠ '}' :: '}' :: behind := by
      rintro behind heq
      obtain ⟨rfl, hmore⟩ := List.cons.inj heq
      refine h ?_
      cases more with
      | nil => exact List.infix_rfl
      | cons d more =>
        obtain ⟨rfl, _⟩ := List.cons.inj hmore
        exact ⟨[], more ++ ['}'], rfl⟩
    have hmore : ¬ ['}', '}'] <:+: more ++ ['}'] := fun hinfix => h (List.infix_cons hinfix)
    rw [List.cons_append, piecesFrom_inside hclose, ih hmore, List.reverse_cons, List.append_assoc]
    rfl

/-- The scanner takes a tag at the places of tags, and the pieces before it are what stands before
    it. -/
theorem exists_pieces_of_tagAt {before behind source : List Char} (h : TagAt before behind source) :
    ∃ ps piece qs, pieces source = ps ++ piece :: qs ∧ piece.isTag = true ∧
      before = ps.flatMap Piece.text := by
  induction h with
  | here behind =>
    obtain ⟨piece, qs, hpieces, hpiece⟩ := exists_cons_of_piecesFrom_some [] behind
    exact ⟨[], piece, qs, hpieces, hpiece, rfl⟩
  | @passChar c before behind source hescape htag _ ih =>
    obtain ⟨ps, piece, qs, hpieces, hpiece, rfl⟩ := ih
    have hchar : pieces (c :: source) = .char c :: pieces source :=
      piecesFrom_char (fun rest heq => hescape ⟨rest, heq.symm⟩)
        (fun rest heq => htag ⟨rest, heq.symm⟩)
    exact ⟨.char c :: ps, piece, qs, by rw [hchar, hpieces, List.cons_append], hpiece, rfl⟩
  | @passEscape before behind source _ ih =>
    obtain ⟨ps, piece, qs, hpieces, hpiece, rfl⟩ := ih
    have hescape : pieces ('\\' :: '{' :: '{' :: source) = .escape :: pieces source := rfl
    exact ⟨.escape :: ps, piece, qs, by rw [hescape, hpieces, List.cons_append], hpiece, rfl⟩
  | @passTag content before behind source hclose _ ih =>
    obtain ⟨ps, piece, qs, hpieces, hpiece, rfl⟩ := ih
    have htag : pieces ('{' :: '{' :: (content ++ '}' :: '}' :: source))
        = .tag content :: pieces source := piecesFrom_some_append hclose [] source
    exact ⟨.tag content :: ps, piece, qs, by rw [htag, hpieces, List.cons_append], hpiece, by
      simp [Piece.text]⟩

section

variable {source : List Char}

/-- **Tags among the pieces** of a whole source have a place in it, behind the pieces before
    them. -/
theorem exists_tagAt_of_pieces {ps qs : List Piece} {piece : Piece}
    (h : pieces source = ps ++ piece :: qs) (hpiece : piece.isTag = true) :
    ∃ behind, TagAt (ps.flatMap Piece.text) behind source ∧ piece.Begins behind :=
  tagAt_of_piecesFrom (by simp) h hpiece

/-- **Places** of tags are where the scanner takes a tag. -/
theorem tagAt_iff {before behind : List Char} :
    TagAt before behind source ↔ source = before ++ '{' :: '{' :: behind ∧
      ∃ ps piece qs, pieces source = ps ++ piece :: qs ∧ piece.isTag = true ∧
        before = ps.flatMap Piece.text := by
  refine ⟨fun h => ⟨h.eq_append, exists_pieces_of_tagAt h⟩, ?_⟩
  rintro ⟨hsource, ps, piece, qs, hpieces, hpiece, rfl⟩
  obtain ⟨behind', hat, _⟩ := exists_tagAt_of_pieces hpieces hpiece
  obtain rfl : behind' = behind := by simpa using hat.eq_append.symm.trans hsource
  exact hat

end

/-! ### Tags among the tokens -/

/-- Text put before tokens is no tag. -/
theorem mem_of_mem_prependText {text : String} {line : Nat} {tokens : List Token} {token : Token}
    (htag : token.kind.isText = false) (h : token ∈ prependText text line tokens) :
    token ∈ tokens := by
  have hne : ∀ literal at_, token ≠ ⟨.text literal, at_⟩ := by
    rintro literal at_ rfl
    exact absurd htag (isText_text_ne_false _)
  unfold prependText at h
  split at h
  · exact List.mem_cons_of_mem _ ((List.mem_cons.mp h).resolve_left (hne _ _))
  · exact (List.mem_cons.mp h).resolve_left (hne _ _)

/-- A tag among the tokens is a tag among the pieces, on the line that the pieces before it end
    on. -/
theorem exists_piece_of_mem_tokensFrom {line : Nat} {ps : List Piece} {tokens : List Token}
    (h : tokensFrom line ps = .ok tokens) {token : Token} (hmem : token ∈ tokens)
    (htag : token.kind.isText = false) : ∃ before content after,
      ps = before ++ .tag content :: after ∧ classify content = .ok token.kind ∧
        token.line = line + lineEndsOf before := by
  induction ps generalizing line tokens with
  | nil =>
    obtain rfl := Except.ok.inj h
    exact absurd hmem (by simp)
  | cons piece rest ih =>
    -- one more piece in front of the tag moves it down by the line ends in that piece
    have hfurther : ∀ {more : List Token}, tokensFrom (line + piece.lineEnds) rest = .ok more →
        token ∈ more → ∃ before content after, piece :: rest = before ++ .tag content :: after ∧
          classify content = .ok token.kind ∧ token.line = line + lineEndsOf before := by
      intro more hmore hin
      obtain ⟨before, content, after, rfl, hkind, hline⟩ := ih hmore hin
      exact ⟨piece :: before, content, after, rfl, hkind, by
        rw [hline, lineEndsOf_cons, Nat.add_assoc]⟩
    cases piece with
    | char c =>
      obtain ⟨more, hmore, hjoin⟩ := bind_eq_ok_iff.mp h
      obtain rfl := Except.ok.inj hjoin
      exact hfurther hmore (mem_of_mem_prependText htag hmem)
    | escape =>
      obtain ⟨more, hmore, hjoin⟩ := bind_eq_ok_iff.mp h
      obtain rfl := Except.ok.inj hjoin
      exact hfurther hmore (mem_of_mem_prependText htag hmem)
    | tag content =>
      rw [tokensFrom] at h
      split at h
      · exact absurd h (by simp)
      · next kind hkind =>
        obtain ⟨more, hmore, hjoin⟩ := bind_eq_ok_iff.mp h
        obtain rfl := Except.ok.inj hjoin
        rcases List.mem_cons.mp hmem with rfl | hin
        · exact ⟨[], content, rest, rfl, hkind, rfl⟩
        · exact hfurther hmore hin
    | unterminated => exact absurd h (by simp [tokensFrom])

/-- What can be wrong with a tag as such: it has no end, or its content says nothing. -/
inductive Piece.Unreadable : Piece → SyntaxFault → Prop where
  | unterminated : Unreadable .unterminated .unterminatedTag
  | content {content : List Char} {fault : SyntaxFault} (h : classify content = .error fault) :
      Unreadable (.tag content) fault

/-- A tag that cannot be read is a tag. -/
theorem Piece.Unreadable.isTag {piece : Piece} {fault : SyntaxFault}
    (h : piece.Unreadable fault) : piece.isTag = true := by
  cases h <;> rfl

/-- Pieces give no tokens where one of them cannot be read; the fault is on the line that the pieces
    before it end on. -/
theorem exists_piece_of_tokensFrom_error {line : Nat} {ps : List Piece} {fault : Fault}
    (h : tokensFrom line ps = .error fault) : ∃ before piece after problem,
      ps = before ++ piece :: after ∧ piece.Unreadable problem ∧
        fault = .malformed problem (line + lineEndsOf before) := by
  induction ps generalizing line with
  | nil => exact absurd h (by simp [tokensFrom])
  | cons piece rest ih =>
    -- the fault of the pieces behind one that can be read is the fault of all
    have hfurther : tokensFrom (line + piece.lineEnds) rest = .error fault →
        ∃ before bad after problem, piece :: rest = before ++ bad :: after ∧
          bad.Unreadable problem ∧ fault = .malformed problem (line + lineEndsOf before) := by
      intro hrest
      obtain ⟨before, bad, after, problem, rfl, hbad, hfault⟩ := ih hrest
      exact ⟨piece :: before, bad, after, problem, rfl, hbad, by
        rw [hfault, lineEndsOf_cons, Nat.add_assoc]⟩
    cases piece with
    | char c =>
      rcases bind_eq_error_iff.mp h with hrest | ⟨_, _, hjoin⟩
      · exact hfurther hrest
      · exact absurd hjoin (by simp)
    | escape =>
      rcases bind_eq_error_iff.mp h with hrest | ⟨_, _, hjoin⟩
      · exact hfurther hrest
      · exact absurd hjoin (by simp)
    | tag content =>
      rw [tokensFrom] at h
      split at h
      · next problem hproblem =>
        obtain rfl := Except.error.inj h
        exact ⟨[], _, rest, problem, rfl, .content hproblem, rfl⟩
      · rcases bind_eq_error_iff.mp h with hrest | ⟨_, _, hjoin⟩
        · exact hfurther hrest
        · exact absurd hjoin (by simp)
    | unterminated =>
      obtain rfl := Except.error.inj h
      exact ⟨[], _, rest, _, rfl, .unterminated, rfl⟩

section

variable {source : String}

/-- **Tags among the tokens** have a place in the source, on their line. -/
theorem exists_tagAt_of_mem_tokenize {tokens : List Token} (h : tokenize source = .ok tokens)
    {token : Token} (hmem : token ∈ tokens) (htag : token.kind.isText = false) :
    ∃ before behind content, TagAt before behind source.toList ∧
      token.line = 1 + Text.lineEnds before ∧ Closes content behind ∧
      classify content = .ok token.kind := by
  obtain ⟨ps, content, qs, hpieces, hkind, hline⟩ := exists_piece_of_mem_tokensFrom h hmem htag
  obtain ⟨behind, hat, hcloses⟩ := exists_tagAt_of_pieces hpieces rfl
  exact ⟨_, behind, content, hat, by rw [hline, lineEnds_flatMap_text], hcloses, hkind⟩

/-- **A source that cannot be read** has a tag that cannot, on the line of the fault. -/
theorem exists_tagAt_of_tokenize_error {fault : Fault} (h : tokenize source = .error fault) :
    ∃ (before behind : List Char) (piece : Piece) (problem : SyntaxFault),
      TagAt before behind source.toList ∧
        fault = .malformed problem (1 + Text.lineEnds before) ∧ piece.Begins behind ∧
        piece.Unreadable problem := by
  obtain ⟨ps, piece, qs, problem, hpieces, hbad, hfault⟩ := exists_piece_of_tokensFrom_error h
  obtain ⟨behind, hat, hbegins⟩ := exists_tagAt_of_pieces hpieces hbad.isTag
  exact ⟨_, behind, piece, problem, hat, by rw [hfault, lineEnds_flatMap_text], hbegins, hbad⟩

end

end BilingualLessons.Template
