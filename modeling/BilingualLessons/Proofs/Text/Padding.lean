import BilingualLessons.Text.Blank

namespace BilingualLessons.Text

/-!
# Blanks around and between words

* `Blanks` — texts that can stand around words.
* `trim_padded` — trimming takes off exactly the blanks that were put around a text.
* `words_append_left`, `words_word_append`, `words_word` — blanks before, between and behind
  words make no words of their own.
* `exists_trim`, `exists_of_words_pair` — a text is its trimmed text, or its two words, amid
  blanks.
-/

/-- A text of nothing but blanks. -/
abbrev Blanks : Type := { cs : List Char // ∀ c ∈ cs, isBlank c = true }

/-- Blanks in a row. -/
def Blanks.append (left right : Blanks) : Blanks :=
  ⟨left.val ++ right.val, fun c hc =>
    (List.mem_append.mp hc).elim (left.property c) (right.property c)⟩

/-! ### Trimming -/

/-- Blanks in front go with the blanks that are dropped there. -/
theorem dropWhile_isBlank_append {blanks : List Char} (hb : ∀ c ∈ blanks, isBlank c = true)
    (cs : List Char) : (blanks ++ cs).dropWhile isBlank = cs.dropWhile isBlank := by
  induction blanks with
  | nil => rfl
  | cons b rest ih =>
    have hhead : isBlank b = true := hb b (by simp)
    rw [List.cons_append, List.dropWhile_cons, if_pos hhead]
    exact ih (fun c hc => hb c (by simp [hc]))

/-- A text that starts with no blank loses nothing in front. -/
theorem dropWhile_isBlank_eq_self {cs : List Char} (h : ∀ c ∈ cs.head?, isBlank c = false) :
    cs.dropWhile isBlank = cs := by
  cases cs with
  | nil => rfl
  | cons c rest =>
    have hc : isBlank c = false := h c (by simp)
    rw [List.dropWhile_cons, hc]
    rfl

/-- Trimming takes off exactly the blanks that stand around a text with no blank at its ends. -/
theorem trim_padded {left cs right : List Char} (hl : ∀ c ∈ left, isBlank c = true)
    (hr : ∀ c ∈ right, isBlank c = true) (hne : cs ≠ [])
    (hhead : ∀ c ∈ cs.head?, isBlank c = false) (hlast : ∀ c ∈ cs.getLast?, isBlank c = false) :
    trim (left ++ cs ++ right) = cs := by
  have hhead' : ∀ c ∈ (cs ++ right).head?, isBlank c = false := by
    cases cs with
    | nil => exact absurd rfl hne
    | cons c rest => exact hhead
  have hlast' : ∀ c ∈ cs.reverse.head?, isBlank c = false := by
    intro c hc
    rw [List.head?_reverse] at hc
    exact hlast c hc
  have hr' : ∀ c ∈ right.reverse, isBlank c = true := by
    intro c hc
    exact hr c (List.mem_reverse.mp hc)
  rw [List.append_assoc, trim, dropWhile_isBlank_append hl, dropWhile_isBlank_eq_self hhead',
    trimEnd, List.reverse_append, dropWhile_isBlank_append hr', dropWhile_isBlank_eq_self hlast',
    List.reverse_reverse]

/-- A text is its trimmed text with blanks on both sides. -/
theorem exists_trim (cs : List Char) :
    ∃ left right : Blanks, cs = left.val ++ trim cs ++ right.val := by
  have hfront : ∀ ds : List Char, ∀ c ∈ ds.takeWhile isBlank, isBlank c = true :=
    fun _ => List.all_eq_true.mp List.all_takeWhile
  let back := (cs.dropWhile isBlank).reverse
  refine ⟨⟨cs.takeWhile isBlank, hfront cs⟩, ⟨(back.takeWhile isBlank).reverse, fun c hc =>
    hfront back c (List.mem_reverse.mp hc)⟩, ?_⟩
  have hback : (cs.dropWhile isBlank) = trim cs ++ (back.takeWhile isBlank).reverse := by
    rw [trim, trimEnd, ← List.reverse_append, List.takeWhile_append_dropWhile,
      List.reverse_reverse]
  rw [List.append_assoc, ← hback, List.takeWhile_append_dropWhile]

/-! ### Words -/

variable {c d : Char}

theorem words_nil : words [] = [] := rfl

/-- A blank is part of no word. -/
theorem words_blank (hc : isBlank c = true) (cs : List Char) : words (c :: cs) = words cs := by
  rw [words.eq_def]
  exact if_pos hc

/-- A character that is not blank is a word of its own at the end of a text. -/
theorem words_singleton (hc : isBlank c = false) : words [c] = [[c]] := by
  rw [words.eq_def]
  simp [hc, words_nil]

/-- A character that is not blank is a word of its own in front of a blank. -/
theorem words_cons_blank (hc : isBlank c = false) (hd : isBlank d = true) (cs : List Char) :
    words (c :: d :: cs) = [c] :: words cs := by
  rw [words.eq_def]
  simp only [hc, words_blank hd]
  cases words cs <;> simp [hd]

/-- A character that is not blank joins the word behind it. -/
theorem words_cons_word (hc : isBlank c = false) (hd : isBlank d = false) {cs w : List Char}
    {ws : List (List Char)} (h : words (d :: cs) = w :: ws) :
    words (c :: d :: cs) = (c :: w) :: ws := by
  rw [words.eq_def]
  simp [hc, h, hd]

/-- Blanks in front of a text add no word. -/
theorem words_append_left {blanks : List Char} (hb : ∀ c ∈ blanks, isBlank c = true)
    (cs : List Char) : words (blanks ++ cs) = words cs := by
  induction blanks with
  | nil => rfl
  | cons b rest ih =>
    rw [List.cons_append, words_blank (hb b (by simp))]
    exact ih (fun c hc => hb c (by simp [hc]))

/-- A run of characters that are not blank is one word. -/
theorem words_word {w : List Char} (hne : w ≠ []) (hw : ∀ c ∈ w, isBlank c = false) :
    words w = [w] := by
  induction w with
  | nil => exact absurd rfl hne
  | cons c rest ih =>
    have hc : isBlank c = false := hw c (by simp)
    cases rest with
    | nil => exact words_singleton hc
    | cons d more =>
      have hd : isBlank d = false := hw d (by simp)
      exact words_cons_word hc hd (ih (by simp) (fun x hx => hw x (by simp [hx])))

/-- A run of characters that are not blank, up to the blank behind it, is the first word. -/
theorem words_word_append {w : List Char} (hne : w ≠ []) (hw : ∀ c ∈ w, isBlank c = false)
    (hd : isBlank d = true) (cs : List Char) : words (w ++ d :: cs) = w :: words cs := by
  induction w with
  | nil => exact absurd rfl hne
  | cons c rest ih =>
    have hc : isBlank c = false := hw c (by simp)
    cases rest with
    | nil => exact words_cons_blank hc hd cs
    | cons e more =>
      have he : isBlank e = false := hw e (by simp)
      exact words_cons_word hc he (ih (by simp) (fun x hx => hw x (by simp [hx])))

/-- A text that starts with no blank starts with its first word. -/
theorem exists_words_cons (hc : isBlank c = false) (cs : List Char) :
    ∃ w ws, words (c :: cs) = (c :: w) :: ws := by
  induction cs generalizing c with
  | nil => exact ⟨[], [], words_singleton hc⟩
  | cons d more ih =>
    by_cases hd : isBlank d = true
    · exact ⟨[], words more, words_cons_blank hc hd more⟩
    · obtain ⟨w, ws, hwords⟩ := ih (Bool.eq_false_iff.mpr hd)
      exact ⟨d :: w, ws, words_cons_word hc (Bool.eq_false_iff.mpr hd) hwords⟩

/-- The first word of a text stands behind blanks and ends at a blank or with the text; the other
    words are those of what stands behind it. -/
theorem exists_of_words_cons {cs w : List Char} {ws : List (List Char)} (h : words cs = w :: ws) :
    ∃ (blanks : Blanks) (rest : List Char), cs = blanks.val ++ w ++ rest ∧ words rest = ws ∧
      (∃ c ∈ w.head?, isBlank c = false) ∧ ∀ c ∈ rest.head?, isBlank c = true := by
  induction cs generalizing w ws with
  | nil => exact absurd h (by simp [words_nil])
  | cons c cs ih =>
    by_cases hc : isBlank c = true
    · rw [words_blank hc] at h
      obtain ⟨blanks, rest, rfl, hrest⟩ := ih h
      exact ⟨⟨c :: blanks.val, by simpa [hc] using blanks.property⟩, rest, rfl, hrest⟩
    · have hc' : isBlank c = false := Bool.eq_false_iff.mpr hc
      cases cs with
      | nil =>
        obtain ⟨rfl, rfl⟩ := List.cons.inj ((words_singleton hc').symm.trans h)
        exact ⟨⟨[], by simp⟩, [], rfl, rfl, ⟨c, rfl, hc'⟩, by simp⟩
      | cons d more =>
        by_cases hd : isBlank d = true
        · obtain ⟨rfl, rfl⟩ := List.cons.inj ((words_cons_blank hc' hd more).symm.trans h)
          refine ⟨⟨[], by simp⟩, d :: more, rfl, words_blank hd more, ⟨c, rfl, hc'⟩, ?_⟩
          simpa using hd
        · -- the first word of what follows goes on at once, so no blank stands before it
          have hd' : isBlank d = false := Bool.eq_false_iff.mpr hd
          obtain ⟨v, vs, hmore⟩ := exists_words_cons hd' more
          obtain ⟨rfl, rfl⟩ := List.cons.inj ((words_cons_word hc' hd' hmore).symm.trans h)
          obtain ⟨⟨blanks, hblanks⟩, rest, hcs, hrest, _, hnext⟩ := ih hmore
          cases blanks with
          | nil => exact ⟨⟨[], by simp⟩, rest, by rw [hcs]; rfl, hrest, ⟨c, rfl, hc'⟩, hnext⟩
          | cons b blanks =>
            obtain rfl : d = b := (List.cons.inj hcs).1
            exact absurd (hblanks d (by simp)) hd

/-- A text without words is blank. -/
theorem isBlank_of_words_eq_nil {cs : List Char} (h : words cs = []) :
    ∀ c ∈ cs, isBlank c = true := by
  induction cs with
  | nil => simp
  | cons c cs ih =>
    by_cases hc : isBlank c = true
    · rw [words_blank hc] at h
      simpa [hc] using ih h
    · obtain ⟨w, ws, hwords⟩ := exists_words_cons (Bool.eq_false_iff.mpr hc) cs
      exact absurd (hwords.symm.trans h) (by simp)

/-- A text of two words: blanks, a word, at least one blank, a word, blanks. -/
theorem exists_of_words_pair {cs v w : List Char} (h : words cs = [v, w]) :
    ∃ left gap right : Blanks, gap.val ≠ [] ∧
      cs = left.val ++ (v ++ (gap.val ++ w)) ++ right.val := by
  obtain ⟨left, behind, rfl, hbehind, _, hblank⟩ := exists_of_words_cons h
  obtain ⟨gap, rest, rfl, hrest, ⟨c, hc, hword⟩, _⟩ := exists_of_words_cons hbehind
  refine ⟨left, gap, ⟨rest, isBlank_of_words_eq_nil hrest⟩, ?_, by simp⟩
  -- without a gap the second word would start with a blank
  intro hgap
  obtain ⟨more, rfl⟩ := List.head?_eq_some_iff.mp hc
  have hstart : isBlank c = true := hblank c (by simp [hgap])
  exact absurd (hstart.symm.trans hword) (by simp)

end BilingualLessons.Text
