import BilingualLessons.Proofs.Decimal.Characters
import BilingualLessons.Proofs.Template.CanonicalTokens
import BilingualLessons.Proofs.Template.Pasting

namespace BilingualLessons.Template

/-!
# Texts without the braces of a tag

Two opening braces side by side begin a tag.  Texts without them can be pasted together as long as
none but the last ends in a single one.

* `Unpaired`, `Settled` — no two opening braces side by side, and none at the end either.
* `lastsPasting_settled` — pasting keeps texts settled.
* `unpaired_of_tokenize` — without escapes all literal texts of a source are unpaired.
* `settled_of_followed` — what stands before another token is settled.
-/

/-! ### Braces side by side -/

/-- At least one of two characters is no opening brace. -/
def Apart (c d : Char) : Prop := ¬ (c = '{' ∧ d = '{')

/-- No two opening braces stand side by side. -/
def Unpaired (cs : List Char) : Prop := cs.IsChain Apart

/-- No two opening braces stand side by side, nor would they with a brace behind. -/
structure Settled (cs : List Char) : Prop where
  unpaired : Unpaired cs
  last_ne : cs.getLast? ≠ some '{'

theorem not_infix_of_unpaired {cs : List Char} (h : Unpaired cs) : ¬ ['{', '{'] <:+: cs := by
  intro hinfix
  have hpair : ['{', '{'].IsChain Apart := List.IsChain.infix h hinfix
  exact (List.isChain_cons_cons.mp hpair).1 ⟨rfl, rfl⟩

theorem settled_of_not_mem {cs : List Char} (h : '{' ∉ cs) : Settled cs where
  unpaired := by
    refine List.Pairwise.isChain (List.pairwise_of_forall_mem_list ?_)
    rintro c hc d _ ⟨rfl, _⟩
    exact h hc
  last_ne := fun hlast => h (List.mem_of_getLast? hlast)

/-- Behind a settled text no brace can find another one. -/
theorem Settled.append_unpaired {left right : List Char} (hl : Settled left)
    (hr : Unpaired right) : Unpaired (left ++ right) := by
  refine List.isChain_append.mpr ⟨hl.unpaired, hr, ?_⟩
  rintro c hc d _ ⟨rfl, _⟩
  exact hl.last_ne hc

theorem Settled.append {left right : List Char} (hl : Settled left) (hr : Settled right) :
    Settled (left ++ right) where
  unpaired := hl.append_unpaired hr.unpaired
  last_ne := by
    rw [List.getLast?_append]
    cases hlast : right.getLast? with
    | none => simpa using hl.last_ne
    | some c =>
      have hc := hr.last_ne
      rw [hlast] at hc
      simpa using hc

/-- Pasting keeps texts settled, and numbers and truth values are written without braces. -/
theorem lastsPasting_settled : LastsPasting fun text => Settled text.toList where
  empty := settled_of_not_mem (by simp)
  append hl hr := by
    rw [String.toList_append]
    exact hl.append hr
  counter {v text} hkind htext := by
    refine settled_of_not_mem fun hmem => ?_
    cases v with
    | number n =>
      obtain rfl := Option.some.inj htext
      exact absurd (isNumeric_of_mem_numberText hmem) (by decide)
    | bool b =>
      obtain rfl := Option.some.inj htext
      cases b <;> exact absurd hmem (by decide)
    | _ => simp [Json.kind] at hkind

/-! ### Pieces -/

/-- The characters of two pieces are not both opening braces. -/
def Piece.Apart : Piece → Piece → Prop
  | .char c, .char d => Template.Apart c d
  | _, _ => True

/-- Inside a tag the next piece is no character. -/
theorem char_not_mem_head?_inside (inside cs : List Char) (c : Char) :
    .char c ∉ (piecesFrom (some inside) cs).head? := by
  induction cs generalizing inside with
  | nil => simp [piecesFrom]
  | cons d rest ih =>
    -- a tag is the next piece here, or the scanner goes on inside it
    by_cases hclose : ∃ more, d :: rest = '}' :: '}' :: more
    · obtain ⟨more, heq⟩ := hclose
      simp [heq, piecesFrom]
    · rw [piecesFrom_inside (not_exists.mp hclose)]
      exact ih (d :: inside)

/-- Where a character is the next piece, it comes next. -/
theorem exists_cons_of_char {cs : List Char} {c : Char}
    (h : .char c ∈ (piecesFrom none cs).head?) : ∃ rest, cs = c :: rest := by
  rw [piecesFrom.eq_def] at h
  split at h
  · exact absurd h (by simp)
  · exact absurd h (char_not_mem_head?_inside _ _ _)
  · next d rest _ _ _ =>
    obtain rfl : d = c := by simpa using h
    exact ⟨rest, rfl⟩
  · exact absurd h (by simp)
  all_goals next heq => exact absurd heq (by simp)

/-- No two pieces in a row are opening braces: these would be the braces of a tag. -/
theorem apart_pieces (inside : Option (List Char)) (cs : List Char) :
    (piecesFrom inside cs).IsChain Piece.Apart := by
  fun_induction piecesFrom inside cs with
  | case1 rest ih => exact ih.cons (fun _ _ => trivial)
  | case2 rest ih => exact ih
  | case3 c rest hescape htag ih =>
    refine ih.cons ?_
    intro next hnext
    cases next with
    | char d =>
      -- two braces here would have opened a tag, and this branch is the one for no tag
      obtain ⟨more, rfl⟩ := exists_cons_of_char hnext
      rintro ⟨rfl, rfl⟩
      exact htag more rfl rfl
    | _ => trivial
  | case4 => exact .nil
  | case5 inside rest ih => exact ih.cons (fun _ _ => trivial)
  | case6 inside c rest _ ih => exact ih
  | case7 inside => exact .singleton _

/-- An escape among the pieces stands in the source. -/
theorem infix_of_escape {inside : Option (List Char)} {cs : List Char}
    (h : .escape ∈ piecesFrom inside cs) : ['\\', '{', '{'] <:+: cs := by
  fun_induction piecesFrom inside cs with
  | case1 rest ih => exact (List.prefix_append ['\\', '{', '{'] rest).isInfix
  | case2 rest ih => exact List.infix_cons (List.infix_cons (ih h))
  | case3 c rest hescape htag ih => exact List.infix_cons (ih (by simpa using h))
  | case4 => exact absurd h (by simp)
  | case5 inside rest ih => exact List.infix_cons (List.infix_cons (ih (by simpa using h)))
  | case6 inside c rest _ ih => exact List.infix_cons (ih h)
  | case7 inside => exact absurd h (by simp)

/-! ### Literal texts -/

/-- A tag is no literal text. -/
theorem tokenTexts_cons_tag {token : Token} (h : token.kind.isText = false) (tokens : List Token) :
    tokenTexts (token :: tokens) = tokenTexts tokens := by
  obtain ⟨kind, line⟩ := token
  cases kind with
  | text literal => exact absurd h (isText_text_ne_false _)
  | _ => rfl

/-- A text that comes first among tokens begins with the piece that comes first. -/
theorem char_mem_head?_of_tokensFrom {line : Nat} {ps : List Piece} (hescape : .escape ∉ ps)
    {literal : String} {at_ : Nat} {rest : List Token}
    (h : tokensFrom line ps = .ok (⟨.text literal, at_⟩ :: rest)) {c : Char}
    (hc : c ∈ literal.toList.head?) : .char c ∈ ps.head? := by
  cases ps with
  | nil => exact absurd h (by simp [tokensFrom])
  | cons piece more =>
    -- a text at the head comes from a character: tags are no texts, and there are no escapes
    cases piece with
    | char d =>
      obtain ⟨tokens, _, heq⟩ := bind_eq_ok_iff.mp h
      have htokens := Except.ok.inj heq
      have hfirst : literal.toList.head? = some d := by
        unfold prependText at htokens
        split at htokens
        · obtain rfl := TokenKind.text.inj (Token.mk.inj (List.cons.inj htokens).1).1
          simp
        · obtain rfl := TokenKind.text.inj (Token.mk.inj (List.cons.inj htokens).1).1
          simp
      simpa [hfirst] using hc
    | escape => exact absurd List.mem_cons_self hescape
    | tag content =>
      rw [tokensFrom] at h
      split at h
      · exact absurd h (by simp)
      · next kind hkind =>
        obtain ⟨tokens, _, heq⟩ := bind_eq_ok_iff.mp h
        obtain ⟨rfl, _⟩ := Token.mk.inj (List.cons.inj (Except.ok.inj heq)).1
        exact absurd (legible_of_classify hkind).1 (isText_text_ne_false _)
    | unterminated => exact absurd h (by simp [tokensFrom])

/-- Texts stay unpaired with a character put before them that may stand there. -/
theorem unpaired_prependText {c : Char} {tokens : List Token}
    (hfirst : ∀ literal at_ rest, tokens = ⟨.text literal, at_⟩ :: rest →
      ∀ d ∈ literal.toList.head?, Apart c d)
    (h : ∀ literal ∈ tokenTexts tokens, Unpaired literal.toList) (line : Nat) :
    ∀ literal ∈ tokenTexts (prependText (String.singleton c) line tokens),
      Unpaired literal.toList := by
  unfold prependText
  split
  · next more at_ rest =>
    intro literal hmem
    rcases List.mem_cons.mp hmem with rfl | hrest
    · rw [String.toList_append, String.toList_singleton, List.singleton_append]
      exact (h more List.mem_cons_self).cons (hfirst more at_ rest rfl)
    · exact h literal (List.mem_cons_of_mem _ hrest)
  · intro literal hmem
    rcases List.mem_cons.mp hmem with rfl | hrest
    · rw [String.toList_singleton]
      exact .singleton c
    · exact h literal hrest

/-- Pieces that are apart and no escapes have unpaired literal texts. -/
theorem unpaired_of_tokensFrom {line : Nat} {ps : List Piece} {tokens : List Token}
    (hescape : .escape ∉ ps) (hchain : ps.IsChain Piece.Apart)
    (h : tokensFrom line ps = .ok tokens) :
    ∀ literal ∈ tokenTexts tokens, Unpaired literal.toList := by
  induction ps generalizing line tokens with
  | nil =>
    obtain rfl := Except.ok.inj h
    simp [tokenTexts]
  | cons piece rest ih =>
    obtain ⟨hnext, hrest⟩ := List.isChain_cons.mp hchain
    have hescape' : .escape ∉ rest := fun hmem => hescape (List.mem_cons_of_mem _ hmem)
    cases piece with
    | char c =>
      obtain ⟨more, hmore, heq⟩ := bind_eq_ok_iff.mp h
      obtain rfl := Except.ok.inj heq
      refine unpaired_prependText ?_ (ih hescape' hrest hmore) line
      -- the next text starts with the next piece, and that is apart from this character
      rintro literal at_ others rfl d hd
      exact hnext _ (char_mem_head?_of_tokensFrom hescape' hmore hd)
    | escape => exact absurd List.mem_cons_self hescape
    | tag content =>
      rw [tokensFrom] at h
      split at h
      · exact absurd h (by simp)
      · next kind hkind =>
        obtain ⟨more, hmore, heq⟩ := bind_eq_ok_iff.mp h
        obtain rfl := Except.ok.inj heq
        rw [tokenTexts_cons_tag (legible_of_classify hkind).1]
        exact ih hescape' hrest hmore
    | unterminated => exact absurd h (by simp [tokensFrom])

/-- **Literal texts.** Without escapes no literal text of a source has two opening braces side by
    side. -/
theorem unpaired_of_tokenize {source : String} {tokens : List Token}
    (hescape : ¬ ['\\', '{', '{'] <:+: source.toList) (h : tokenize source = .ok tokens) :
    ∀ literal ∈ tokenTexts tokens, Unpaired literal.toList :=
  unpaired_of_tokensFrom (fun hmem => hescape (infix_of_escape hmem)) (apart_pieces _ _) h

/-! ### Texts before tags -/

/-- Unpaired text that does not end in a single brace ends in none. -/
theorem settled_of_trailingBraces {cs : List Char} (h : Unpaired cs)
    (hbraces : trailingBraces cs ≠ 1) : Settled cs where
  unpaired := h
  last_ne := by
    intro hlast
    have hreverse : cs.reverse.IsChain (fun c d => Apart d c) := by
      rwa [List.isChain_reverse]
    rw [List.getLast?_eq_head?_reverse] at hlast
    unfold trailingBraces at hbraces
    -- read backwards: a brace at the end is alone, since its neighbour is none
    cases hcs : cs.reverse with
    | nil => simp [hcs] at hlast
    | cons c rest =>
      rw [hcs] at hlast hreverse hbraces
      obtain rfl : c = '{' := by simpa using hlast
      cases rest with
      | nil => simp at hbraces
      | cons d rest =>
        have hd : d ≠ '{' := fun hd => (List.isChain_cons_cons.mp hreverse).1 ⟨hd, rfl⟩
        simp [hd] at hbraces

/-- In a chain every element but the last has one behind it. -/
theorem exists_next_of_isChain {α : Type} {R : α → α → Prop} {front : List α} {last a : α}
    (h : (front ++ [last]).IsChain R) (ha : a ∈ front) : ∃ next, R a next := by
  obtain ⟨before, behind, rfl⟩ := List.append_of_mem ha
  rw [List.append_assoc, List.cons_append, List.isChain_append] at h
  obtain ⟨next, hnext⟩ : ∃ next, next ∈ (behind ++ [last]).head? := by
    cases behind <;> simp
  exact ⟨next, (List.isChain_cons.mp h.2.1).1 next hnext⟩

/-- **Texts before tags** are settled, if they are unpaired. -/
theorem settled_of_followed {front : List Token} {last : Token}
    (hcanonical : Canonical ((front ++ [last]).map Token.kind))
    (hunpaired : ∀ literal ∈ tokenTexts front, Unpaired literal.toList) :
    ∀ literal ∈ tokenTexts front, Settled literal.toList := by
  intro literal hmem
  obtain ⟨token, htoken, hliteral⟩ := List.mem_filterMap.mp hmem
  have hkind : TokenKind.text literal ∈ front.map Token.kind := by
    refine List.mem_map.mpr ⟨token, htoken, ?_⟩
    cases hk : token.kind <;> simp_all [TokenKind.literal?]
  -- followed by another token, the text may stand before it only without a single brace at its end
  have hchain := hcanonical.mayPrecede
  rw [List.map_append] at hchain
  obtain ⟨next, hnext⟩ := exists_next_of_isChain hchain hkind
  have hbraces := ((mayPrecede_tag_iff (isText_of_mayPrecede hnext)).mp hnext).2
  exact settled_of_trailingBraces (hunpaired literal hmem) hbraces

end BilingualLessons.Template
