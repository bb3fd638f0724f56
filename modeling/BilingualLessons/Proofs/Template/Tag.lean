import BilingualLessons.Template.Token
import BilingualLessons.Proofs.Outcome
import BilingualLessons.Proofs.Template.PathCharacters
import BilingualLessons.Proofs.Text.Padding
import Mathlib.Data.List.Basic

namespace BilingualLessons.Template

/-!
# What stands in a tag

* `TokenKind.Legible` — the tokens that a source can give.
* `Padding` — the blanks of a tag.
* `TokenKind.content` — how a tag is written between its braces.
* `classify_content` — it is read back, whatever the padding; `legible_of_classify` — nothing but
  legible tokens is ever read; `exists_content_of_classify` — and nothing but what is written so.
-/

/-- Whether a token is literal text. -/
def TokenKind.isText : TokenKind → Bool
  | .text _ => true
  | _ => false

/-- Literal text is no tag. -/
theorem isText_text_ne_false (literal : String) : (TokenKind.text literal).isText ≠ false := by
  simp [TokenKind.isText]

/-- A token that a source can give: texts are not empty, paths are paths, and `else` names no
    value, since its tag means the alternative. -/
def TokenKind.Legible : TokenKind → Prop
  | .text literal => literal ≠ ""
  | .substitution path => isPath path = true ∧ path ≠ "else"
  | .opener _ path => isPath path = true
  | .alternative => True
  | .closer _ => True

instance : (kind : TokenKind) → Decidable kind.Legible
  | .text literal => inferInstanceAs (Decidable (literal ≠ ""))
  | .substitution path => inferInstanceAs (Decidable (isPath path = true ∧ path ≠ "else"))
  | .opener _ path => inferInstanceAs (Decidable (isPath path = true))
  | .alternative => isTrue trivial
  | .closer _ => isTrue trivial

/-! ### Reading -/

/-- **Only legible tags are read**, and no tag is literal text. -/
theorem legible_of_classify {content : List Char} {kind : TokenKind}
    (h : classify content = .ok kind) : kind.isText = false ∧ kind.Legible := by
  simp only [classify] at h
  split at h
  · obtain rfl := Except.ok.inj h
    exact ⟨rfl, trivial⟩
  · next helse =>
    split at h
    · simp only [classifyOpener] at h
      split at h
      · exact absurd h (by simp)
      · split at h
        · next hpath =>
          obtain rfl := Except.ok.inj h
          exact ⟨rfl, hpath⟩
        · exact absurd h (by simp)
      · exact absurd h (by simp)
    · simp only [classifyCloser] at h
      split at h
      · obtain rfl := Except.ok.inj h
        exact ⟨rfl, trivial⟩
      · exact absurd h (by simp)
    · split at h
      · next hpath =>
        obtain rfl := Except.ok.inj h
        -- the test for `else` comes first, so a path that gets here is another one
        refine ⟨rfl, hpath, fun heq => helse ?_⟩
        simpa using congrArg String.toList heq
      · exact absurd h (by simp)

/-! ### Writing -/

/-- The blanks of a tag: inside its braces, behind its mark `#` or `/`, and between the keyword
    and the path of an opening tag, where there must be one. -/
structure Padding where
  left : Text.Blanks
  mark : Text.Blanks
  gap : Text.Blanks
  right : Text.Blanks
  gap_ne_nil : gap.val ≠ []

/-- No blanks but one between keyword and path. -/
def Padding.narrow : Padding where
  left := ⟨[], by simp⟩
  mark := ⟨[], by simp⟩
  gap := ⟨[' '], List.all_eq_true.mp rfl⟩
  right := ⟨[], by simp⟩
  gap_ne_nil := by simp

/-- What a tag says, from its first character that is not blank to its last. -/
def TokenKind.core (padding : Padding) : TokenKind → List Char
  | .text _ => []
  | .substitution path => path.toList
  | .opener kind path =>
    '#' :: (padding.mark.val ++ (kind.keyword.toList ++ (padding.gap.val ++ path.toList)))
  | .alternative => ['e', 'l', 's', 'e']
  | .closer kind => '/' :: (padding.mark.val ++ kind.keyword.toList)

/-- How a tag is written between its braces. -/
def TokenKind.content (padding : Padding) (kind : TokenKind) : List Char :=
  padding.left.val ++ kind.core padding ++ padding.right.val

/-! ### Writing and reading back -/

theorem keyword_ne_nil (kind : BlockKind) : kind.keyword.toList ≠ [] := by
  cases kind <;> decide

theorem isPathChar_of_mem_keyword {kind : BlockKind} {c : Char} (hc : c ∈ kind.keyword.toList) :
    isPathChar c = true := by
  have hall : kind.keyword.toList.all isPathChar = true := by
    cases kind <;> decide
  exact List.all_eq_true.mp hall c hc

theorem isBlank_of_mem_keyword {kind : BlockKind} {c : Char} (hc : c ∈ kind.keyword.toList) :
    Text.isBlank c = false :=
  isBlank_of_isPathChar (isPathChar_of_mem_keyword hc)

theorem isBlank_of_mem_path {path : String} (h : isPath path = true) {c : Char}
    (hc : c ∈ path.toList) : Text.isBlank c = false :=
  isBlank_of_isPathChar (isPathChar_of_isPath h c hc)

theorem path_ne_nil {path : String} (h : isPath path = true) : path.toList ≠ [] := by
  obtain ⟨c, rest, heq, _⟩ := exists_cons_of_isPath h
  simp [heq]

/-- Trimming the content of a tag leaves what it says. -/
theorem trim_content (padding : Padding) {kind : TokenKind} (htag : kind.isText = false)
    (h : kind.Legible) : Text.trim (kind.content padding) = kind.core padding := by
  have hl := padding.left.property
  have hr := padding.right.property
  -- what the tag says neither starts nor ends with a blank, so only the padding is trimmed
  cases kind with
  | text literal => exact absurd htag (isText_text_ne_false _)
  | substitution path =>
    refine Text.trim_padded hl hr (path_ne_nil h.1) ?_ ?_
    · exact fun c hc => isBlank_of_mem_path h.1 (List.mem_of_head? hc)
    · exact fun c hc => isBlank_of_mem_path h.1 (List.mem_of_getLast? hc)
  | opener kind path =>
    have hpath : isPath path = true := h
    refine Text.trim_padded hl hr (List.cons_ne_nil _ _) ?_ ?_
    · simp only [TokenKind.core, List.head?_cons, Option.mem_some_iff, forall_eq']
      decide
    · intro c hc
      have hlast : (TokenKind.core padding (.opener kind path)).getLast?
          = path.toList.getLast? := by
        simp only [TokenKind.core, ← List.cons_append, ← List.append_assoc]
        exact List.getLast?_append_of_ne_nil _ (path_ne_nil hpath)
      rw [hlast] at hc
      exact isBlank_of_mem_path hpath (List.mem_of_getLast? hc)
  | alternative =>
    refine Text.trim_padded hl hr (List.cons_ne_nil _ _) ?_ ?_
    · simp only [TokenKind.core, List.head?_cons, Option.mem_some_iff, forall_eq']
      decide
    · intro c hc
      obtain rfl : 'e' = c := Option.some.inj hc
      decide
  | closer kind =>
    refine Text.trim_padded hl hr (List.cons_ne_nil _ _) ?_ ?_
    · simp only [TokenKind.core, List.head?_cons, Option.mem_some_iff, forall_eq']
      decide
    · intro c hc
      have hlast : (TokenKind.core padding (.closer kind)).getLast?
          = kind.keyword.toList.getLast? := by
        simp only [TokenKind.core, ← List.cons_append]
        exact List.getLast?_append_of_ne_nil _ (keyword_ne_nil kind)
      rw [hlast] at hc
      exact isBlank_of_mem_keyword (List.mem_of_getLast? hc)

/-- Behind the mark of an opening tag stand its keyword and its path. -/
theorem classifyOpener_core (padding : Padding) (kind : BlockKind) {path : String}
    (h : isPath path = true) :
    classifyOpener (padding.mark.val ++ (kind.keyword.toList ++ (padding.gap.val ++ path.toList)))
      = .ok (.opener kind path) := by
  have hwords : Text.words (padding.mark.val ++
      (kind.keyword.toList ++ (padding.gap.val ++ path.toList)))
        = [kind.keyword.toList, path.toList] := by
    cases hgap : padding.gap.val with
    | nil => exact absurd hgap padding.gap_ne_nil
    | cons b blanks =>
      have hblank : ∀ c ∈ b :: blanks, Text.isBlank c = true := hgap ▸ padding.gap.property
      -- the mark and the gap are blanks, keyword and path have none: these are the two words
      rw [Text.words_append_left padding.mark.property, List.cons_append,
        Text.words_word_append (keyword_ne_nil kind) (fun c => isBlank_of_mem_keyword)
          (hblank b (by simp)),
        Text.words_append_left (fun c hc => hblank c (by simp [hc])),
        Text.words_word (path_ne_nil h) (fun c => isBlank_of_mem_path h)]
  simp [classifyOpener, hwords, BlockKind.ofKeyword?_keyword, h]

/-- Behind the mark of a closing tag stands its keyword. -/
theorem classifyCloser_core (padding : Padding) (kind : BlockKind) :
    classifyCloser (padding.mark.val ++ kind.keyword.toList) = .ok (.closer kind) := by
  have htrim : Text.trim (padding.mark.val ++ kind.keyword.toList) = kind.keyword.toList := by
    rw [← List.append_nil (_ ++ _)]
    exact Text.trim_padded padding.mark.property (by simp) (keyword_ne_nil kind)
      (fun c hc => isBlank_of_mem_keyword (List.mem_of_head? hc))
      (fun c hc => isBlank_of_mem_keyword (List.mem_of_getLast? hc))
  simp [classifyCloser, htrim, BlockKind.ofKeyword?_keyword]

/-- A path that is not `else` is read as a substitution. -/
theorem classify_path {content : List Char} {path : String} (ht : Text.trim content = path.toList)
    (h : isPath path = true) (helse : path ≠ "else") :
    classify content = .ok (.substitution path) := by
  obtain ⟨c, rest, hcons, hc⟩ := exists_cons_of_isPath h
  have helse' : path.toList ≠ ['e', 'l', 's', 'e'] :=
    fun heq => helse (String.toList_inj.mp heq)
  simp only [classify, ht, if_neg helse']
  split
  · next heq =>
    -- a path does not start with a mark
    rw [(List.cons.inj (hcons.symm.trans heq)).1] at hc
    exact absurd hc (by decide)
  · next heq =>
    rw [(List.cons.inj (hcons.symm.trans heq)).1] at hc
    exact absurd hc (by decide)
  · simp [h]

/-- **Tags are read back**, whatever blanks are put into them. -/
theorem classify_content (padding : Padding) {kind : TokenKind} (htag : kind.isText = false)
    (h : kind.Legible) : classify (kind.content padding) = .ok kind := by
  have htrim := trim_content padding htag h
  cases kind with
  | text literal => exact absurd htag (isText_text_ne_false _)
  | substitution path => exact classify_path htrim h.1 h.2
  | opener kind path =>
    simp only [TokenKind.core] at htrim
    simp [classify, htrim, classifyOpener_core padding kind h]
  | alternative =>
    simp only [TokenKind.core] at htrim
    simp [classify, htrim]
  | closer kind =>
    simp only [TokenKind.core] at htrim
    simp [classify, htrim, classifyCloser_core]

/-- A keyword stands for one kind of block only. -/
theorem eq_keyword_of_ofKeyword? {word : String} {kind : BlockKind}
    (h : BlockKind.ofKeyword? word = some kind) : word = kind.keyword := by
  unfold BlockKind.ofKeyword? at h
  split at h
  · next hword => rw [hword, ← Option.some.inj h]; rfl
  · split at h
    · next hword => rw [hword, ← Option.some.inj h]; rfl
    · split at h
      · next hword => rw [hword, ← Option.some.inj h]; rfl
      · exact absurd h (by simp)

/-- What is read as an opening tag is a keyword and a path. -/
theorem words_of_classifyOpener {content : List Char} {kind : TokenKind}
    (h : classifyOpener content = .ok kind) : ∃ (block : BlockKind) (path : String),
      kind = .opener block path ∧ Text.words content = [block.keyword.toList, path.toList] := by
  simp only [classifyOpener] at h
  split at h
  · exact absurd h (by simp)
  · next block path hblock hpath =>
    split at h
    · obtain rfl := Except.ok.inj h
      refine ⟨block, path, rfl, ?_⟩
      cases hwords : Text.words content with
      | nil => simp [hwords] at hpath
      | cons v ws =>
        rw [hwords] at hblock hpath
        have hv : String.ofList v = block.keyword := eq_keyword_of_ofKeyword? hblock
        obtain ⟨w, rfl, rfl⟩ := List.map_eq_singleton_iff.mp hpath
        simp [← hv]
    · exact absurd h (by simp)
  · exact absurd h (by simp)

/-- **Tags are written as they are read**: what is read as a tag is that tag with blanks in it. -/
theorem exists_content_of_classify {content : List Char} {kind : TokenKind}
    (h : classify content = .ok kind) : ∃ padding, content = kind.content padding := by
  obtain ⟨left, right, hcontent⟩ := Text.exists_trim content
  have hgap := Padding.narrow.gap_ne_nil
  rw [hcontent]
  simp only [classify] at h
  split at h
  · next helse =>
    obtain rfl := Except.ok.inj h
    exact ⟨⟨left, left, Padding.narrow.gap, right, hgap⟩, by rw [helse]; rfl⟩
  · split at h
    · next opener hopener =>
      obtain ⟨block, path, rfl, hwords⟩ := words_of_classifyOpener h
      -- blanks behind the path belong to the right padding, since words drop them on both sides
      obtain ⟨mark, gap, behind, hne, rfl⟩ := Text.exists_of_words_pair hwords
      refine ⟨⟨left, mark, gap, behind.append right, hne⟩, ?_⟩
      simp [hopener, TokenKind.content, TokenKind.core, Text.Blanks.append]
    · next closer hcloser =>
      obtain ⟨mark, behind, hword⟩ := Text.exists_trim closer
      simp only [classifyCloser] at h
      split at h
      · next block hblock =>
        obtain rfl := Except.ok.inj h
        have htrim : Text.trim closer = block.keyword.toList := by
          rw [← eq_keyword_of_ofKeyword? hblock, String.toList_ofList]
        refine ⟨⟨left, mark, Padding.narrow.gap, behind.append right, hgap⟩, ?_⟩
        rw [hcloser, hword, htrim]
        simp [TokenKind.content, TokenKind.core, Text.Blanks.append]
      · exact absurd h (by simp)
    · split at h
      · obtain rfl := Except.ok.inj h
        refine ⟨⟨left, left, Padding.narrow.gap, right, hgap⟩, ?_⟩
        simp [TokenKind.content, TokenKind.core]
      · exact absurd h (by simp)

/-- A character in a tag is one of its blanks, a mark, or a character of a path. -/
theorem mem_content {padding : Padding} {kind : TokenKind} (h : kind.Legible) {c : Char}
    (hc : c ∈ kind.content padding) :
    (∃ blanks ∈ [padding.left, padding.mark, padding.gap, padding.right], c ∈ blanks.val) ∨
      c = '#' ∨ c = '/' ∨ isPathChar c = true := by
  simp only [TokenKind.content, List.mem_append] at hc
  -- the blanks around it, or a character of what the tag says
  rcases hc with (hleft | hcore) | hright
  · exact Or.inl ⟨padding.left, by simp, hleft⟩
  · cases kind with
    | text literal => exact absurd hcore (by simp [TokenKind.core])
    | substitution path => exact Or.inr (Or.inr (Or.inr (isPathChar_of_isPath h.1 c hcore)))
    | opener kind path =>
      simp only [TokenKind.core, List.mem_cons, List.mem_append] at hcore
      rcases hcore with hhash | hmark | hword | hgap | hpath
      · exact Or.inr (Or.inl hhash)
      · exact Or.inl ⟨padding.mark, by simp, hmark⟩
      · exact Or.inr (Or.inr (Or.inr (isPathChar_of_mem_keyword hword)))
      · exact Or.inl ⟨padding.gap, by simp, hgap⟩
      · exact Or.inr (Or.inr (Or.inr (isPathChar_of_isPath h c hpath)))
    | alternative =>
      have helse : ['e', 'l', 's', 'e'].all isPathChar = true := by decide
      exact Or.inr (Or.inr (Or.inr (List.all_eq_true.mp helse c hcore)))
    | closer kind =>
      simp only [TokenKind.core, List.mem_cons, List.mem_append] at hcore
      rcases hcore with hslash | hmark | hword
      · exact Or.inr (Or.inr (Or.inl hslash))
      · exact Or.inl ⟨padding.mark, by simp, hmark⟩
      · exact Or.inr (Or.inr (Or.inr (isPathChar_of_mem_keyword hword)))
  · exact Or.inl ⟨padding.right, by simp, hright⟩

/-- No closing brace stands in the content of a tag. -/
theorem brace_not_mem_content (padding : Padding) {kind : TokenKind} (h : kind.Legible) :
    '}' ∉ kind.content padding := by
  intro hmem
  rcases mem_content h hmem with ⟨blanks, _, hblank⟩ | hhash | hslash | hpath
  · exact absurd (blanks.property _ hblank) (by decide)
  · exact absurd hhash (by decide)
  · exact absurd hslash (by decide)
  · exact absurd hpath (by decide)

/-- A tag without needless blanks stands on one line. -/
theorem lineEnds_content_narrow {kind : TokenKind} (h : kind.Legible) :
    Text.lineEnds (kind.content .narrow) = 0 := by
  refine List.count_eq_zero.mpr fun hmem => ?_
  rcases mem_content h hmem with ⟨blanks, hblanks, hblank⟩ | hhash | hslash | hpath
  · revert blanks
    decide
  · exact absurd hhash (by decide)
  · exact absurd hslash (by decide)
  · exact absurd hpath (by decide)

end BilingualLessons.Template
