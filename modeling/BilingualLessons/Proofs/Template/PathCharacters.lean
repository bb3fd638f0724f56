import BilingualLessons.Template.Path
import BilingualLessons.Text.Blank

namespace BilingualLessons.Template

/-!
# The characters of a path

* `isPathChar` — letters, digits, underscores, points and `@`.
* `isPathChar_of_isPath` — a path is made of these characters; hence none is a blank
  (`isBlank_of_isPathChar`) or a brace (`toNat_of_isPathChar`).
* `exists_cons_of_isPath` — a path starts with a letter, an underscore or `@`.
-/

/-- A character that can stand in a path. -/
def isPathChar (c : Char) : Bool :=
  isNameChar c || c = '.' || c = '@'

/-! ### Code points -/

/-- The two ranges of the ASCII letters. -/
theorem toNat_of_isAlpha {c : Char} (h : c.isAlpha = true) :
    0x41 ≤ c.toNat ∧ c.toNat ≤ 0x5A ∨ 0x61 ≤ c.toNat ∧ c.toNat ≤ 0x7A := by
  have hcase : (c.isUpper || c.isLower) = true := h
  rcases Bool.or_eq_true_iff.mp hcase with hupper | hlower
  · have hrange : c.val ≥ 'A'.val ∧ c.val ≤ 'Z'.val := of_decide_eq_true hupper
    exact Or.inl ⟨UInt32.le_iff_toNat_le.mp hrange.1, UInt32.le_iff_toNat_le.mp hrange.2⟩
  · obtain ⟨hfrom, hto⟩ := Bool.and_eq_true_iff.mp hlower
    exact Or.inr ⟨UInt32.le_iff_toNat_le.mp (of_decide_eq_true hfrom),
      UInt32.le_iff_toNat_le.mp (of_decide_eq_true hto)⟩

/-- Letters and the underscore stand behind the digits and the marks of a tag. -/
theorem toNat_of_isNameStart {c : Char} (h : isNameStart c = true) :
    0x41 ≤ c.toNat ∧ c.toNat < 0x7B := by
  simp only [isNameStart, Bool.or_eq_true, decide_eq_true_eq] at h
  rcases h with halpha | rfl
  · have hrange := toNat_of_isAlpha halpha
    omega
  · decide

/-- Path characters stand between the blank and the braces. -/
theorem toNat_of_isPathChar {c : Char} (h : isPathChar c = true) :
    0x21 ≤ c.toNat ∧ c.toNat < 0x7B := by
  simp only [isPathChar, isNameChar, Bool.or_eq_true, decide_eq_true_eq] at h
  rcases h with ((halphanum | rfl) | rfl) | rfl
  · -- letters and digits are ranges of code points, the other marks single ones
    rcases Bool.or_eq_true_iff.mp halphanum with halpha | hdigit
    · have hrange := toNat_of_isAlpha halpha
      omega
    · have hrange : 0x30 ≤ c.toNat ∧ c.toNat ≤ 0x39 := Char.isDigit_iff_toNat.mp hdigit
      omega
  all_goals decide

/-- No path character is a blank. -/
theorem isBlank_of_isPathChar {c : Char} (h : isPathChar c = true) : Text.isBlank c = false := by
  have hrange := toNat_of_isPathChar h
  simp only [Text.isBlank, Bool.or_eq_false_iff, Bool.and_eq_false_iff, decide_eq_false_iff_not,
    beq_eq_false_iff_ne]
  omega

/-! ### The characters of segments -/

/-- A point starts a segment. -/
theorem segments_point (cs : List Char) : segments ('.' :: cs) = [] :: segments cs := by
  rw [segments, if_pos rfl]

/-- Any other character belongs to the first segment. -/
theorem segments_cons {c : Char} (hc : c ≠ '.') (cs : List Char) :
    ∃ first later, segments cs = first :: later ∧ segments (c :: cs) = (c :: first) :: later := by
  have hne : segments cs ≠ [] := by
    cases cs with
    | nil => simp [segments]
    | cons d rest =>
      unfold segments
      split
      · simp
      · split <;> simp
  cases hs : segments cs with
  | nil => exact absurd hs hne
  | cons first later => exact ⟨first, later, rfl, by rw [segments, if_neg hc, hs]⟩

/-- Splitting at the points loses nothing but the points. -/
theorem mem_segments {c : Char} {cs : List Char} (h : c ∈ cs) :
    c = '.' ∨ ∃ segment ∈ segments cs, c ∈ segment := by
  induction cs with
  | nil => exact absurd h (by simp)
  | cons d rest ih =>
    by_cases hd : d = '.'
    · subst hd
      rw [segments_point]
      rcases List.mem_cons.mp h with hpoint | hrest
      · exact Or.inl hpoint
      · exact (ih hrest).imp_right fun ⟨segment, hmem, hc⟩ => ⟨segment, by simp [hmem], hc⟩
    · obtain ⟨first, later, hs, hsegs⟩ := segments_cons hd rest
      rw [hsegs]
      rcases List.mem_cons.mp h with rfl | hrest
      · exact Or.inr ⟨c :: first, by simp, by simp⟩
      · -- the character is in a segment of the rest, of which the first one grows by `d` here
        rcases ih hrest with hpoint | ⟨segment, hmem, hc⟩
        · exact Or.inl hpoint
        · rw [hs] at hmem
          rcases List.mem_cons.mp hmem with rfl | hlater
          · exact Or.inr ⟨d :: segment, by simp, by simp [hc]⟩
          · exact Or.inr ⟨segment, by simp [hlater], hc⟩

/-- The characters of a name are path characters. -/
theorem isPathChar_of_isName {cs : List Char} (h : isName cs = true) :
    ∀ c ∈ cs, isPathChar c = true := by
  cases cs with
  | nil => simp
  | cons first rest =>
    simp only [isName, Bool.and_eq_true, List.all_eq_true] at h
    intro c hc
    rcases List.mem_cons.mp hc with rfl | hrest
    · have hstart : isNameStart c = true := h.1
      simp only [isNameStart, Bool.or_eq_true, decide_eq_true_eq] at hstart
      rcases hstart with halpha | rfl
      · simp [isPathChar, isNameChar, Char.isAlphanum, halpha]
      · decide
    · simp [isPathChar, h.2 c hrest]

/-- The characters of a first segment are path characters. -/
theorem isPathChar_of_isFirstSegment {cs : List Char} (h : isFirstSegment cs = true) :
    ∀ c ∈ cs, isPathChar c = true := by
  unfold isFirstSegment at h
  split at h
  · intro c hc
    rcases List.mem_cons.mp hc with rfl | hrest
    · decide
    · exact isPathChar_of_isName h c hrest
  · exact isPathChar_of_isName h

/-! ### Paths -/

/-- The first segment of a path and the segments behind it. -/
theorem exists_segments_of_isPath {path : String} (h : isPath path = true) :
    ∃ first later, segments path.toList = first :: later ∧ isFirstSegment first = true ∧
      later.all isLaterSegment = true := by
  unfold isPath at h
  split at h
  · exact absurd h (by simp)
  · next first later hs =>
    simp only [Bool.and_eq_true] at h
    exact ⟨first, later, hs, h.1, h.2⟩

/-- A path is made of path characters. -/
theorem isPathChar_of_isPath {path : String} (h : isPath path = true) :
    ∀ c ∈ path.toList, isPathChar c = true := by
  obtain ⟨first, later, hs, hfirst, hlater⟩ := exists_segments_of_isPath h
  intro c hc
  rcases mem_segments hc with rfl | ⟨segment, hmem, hcs⟩
  · decide
  · rw [hs] at hmem
    rcases List.mem_cons.mp hmem with rfl | htail
    · exact isPathChar_of_isFirstSegment hfirst c hcs
    · have hseg := List.all_eq_true.mp hlater segment htail
      simp only [isLaterSegment, Bool.and_eq_true, List.all_eq_true] at hseg
      simp [isPathChar, hseg.2 c hcs]

/-- A path starts with a letter, an underscore or `@`. -/
theorem exists_cons_of_isPath {path : String} (h : isPath path = true) :
    ∃ c rest, path.toList = c :: rest ∧ 0x40 ≤ c.toNat := by
  obtain ⟨first, later, hs, hfirst, _⟩ := exists_segments_of_isPath h
  cases hp : path.toList with
  | nil =>
    rw [hp, segments] at hs
    obtain ⟨rfl, _⟩ := List.cons.inj hs
    exact absurd hfirst (by decide)
  | cons c rest =>
    refine ⟨c, rest, rfl, ?_⟩
    rw [hp] at hs
    by_cases hc : c = '.'
    · rw [hc, segments_point] at hs
      obtain ⟨rfl, _⟩ := List.cons.inj hs
      exact absurd hfirst (by decide)
    · obtain ⟨tail, _, _, hsegs⟩ := segments_cons hc rest
      rw [hsegs] at hs
      obtain ⟨rfl, _⟩ := List.cons.inj hs
      unfold isFirstSegment at hfirst
      split at hfirst
      · next heq => rw [(List.cons.inj heq).1]; decide
      · simp only [isName, Bool.and_eq_true] at hfirst
        have := toNat_of_isNameStart hfirst.1
        omega

end BilingualLessons.Template
