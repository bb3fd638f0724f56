import BilingualLessons.Template.Token

namespace BilingualLessons.Template

/-!
# The pieces of a source

* `piecesFrom_char`, `piecesFrom_inside` — when the scanner takes a single character.
* `pieces_tag` — a tag is one piece, with the text up to its closing braces.
* `Sealed` — sources at whose end nothing waits for more braces.
* `pieces_append` — behind a sealed source the scanner starts afresh.
-/

/-! ### Single steps -/

/-- Outside a tag, a character that begins neither an escape nor a tag is literal. -/
theorem piecesFrom_char {c : Char} {cs : List Char}
    (hescape : ∀ rest, c :: cs ≠ '\\' :: '{' :: '{' :: rest)
    (htag : ∀ rest, c :: cs ≠ '{' :: '{' :: rest) :
    piecesFrom none (c :: cs) = .char c :: piecesFrom none cs := by
  rw [piecesFrom.eq_def]
  split
  · next heq => exact absurd heq (hescape _)
  · next heq => exact absurd heq (htag _)
  · next heq =>
    obtain ⟨rfl, rfl⟩ := List.cons.inj heq
    rfl
  all_goals simp_all

/-- Inside a tag, a character that does not begin the closing braces belongs to the content. -/
theorem piecesFrom_inside {inside : List Char} {c : Char} {cs : List Char}
    (hclose : ∀ rest, c :: cs ≠ '}' :: '}' :: rest) :
    piecesFrom (some inside) (c :: cs) = piecesFrom (some (c :: inside)) cs := by
  rw [piecesFrom.eq_def]
  split
  all_goals simp_all

/-! ### Tags -/

/-- Inside a tag, text without closing braces belongs to the content. -/
theorem piecesFrom_content {content : List Char} (hc : '}' ∉ content) (inside rest : List Char) :
    piecesFrom (some inside) (content ++ '}' :: '}' :: rest)
      = .tag (inside.reverse ++ content) :: piecesFrom none rest := by
  induction content generalizing inside with
  | nil => simp [piecesFrom]
  | cons c cs ih =>
    rw [List.mem_cons, not_or] at hc
    rw [List.cons_append, piecesFrom_inside (by simp [Ne.symm hc.1]), ih hc.2]
    simp

/-- A tag is one piece, with the text up to its closing braces. -/
theorem pieces_tag {content : List Char} (hc : '}' ∉ content) (rest : List Char) :
    pieces ('{' :: '{' :: content ++ '}' :: '}' :: rest) = .tag content :: pieces rest := by
  show piecesFrom none ('{' :: '{' :: (content ++ '}' :: '}' :: rest)) = _
  rw [piecesFrom, piecesFrom_content hc]
  rfl

/-! ### Sealed sources -/

/-- A source that ends neither in a backslash nor in an opening brace. -/
def Sealed (cs : List Char) : Prop :=
  cs.getLast? ≠ some '\\' ∧ cs.getLast? ≠ some '{'

instance (cs : List Char) : Decidable (Sealed cs) :=
  inferInstanceAs (Decidable (_ ∧ _))

theorem sealed_nil : Sealed [] := by
  simp [Sealed]

/-- What a sealed source ends in is sealed. -/
theorem Sealed.tail {c : Char} {cs : List Char} (h : Sealed (c :: cs)) : Sealed cs := by
  cases cs with
  | nil => exact sealed_nil
  | cons d rest => simpa [Sealed] using h

/-- Behind a sealed source without an open tag the scanner starts afresh. -/
theorem piecesFrom_append {inside : Option (List Char)} {left : List Char} (hs : Sealed left)
    (ht : Piece.unterminated ∉ piecesFrom inside left) (right : List Char) :
    piecesFrom inside (left ++ right) = piecesFrom inside left ++ pieces right := by
  fun_induction piecesFrom inside left with
  | case1 rest ih =>
    show _ :: piecesFrom none (rest ++ right) = _
    rw [ih hs.tail.tail.tail (by simpa using ht), List.cons_append]
  | case2 rest ih =>
    show piecesFrom (some []) (rest ++ right) = _
    exact ih hs.tail.tail ht
  | case3 c rest hescape htag ih =>
    -- more text behind `rest` could only make an escape or a tag of `c` if `rest` ran out first,
    -- and then `left` would not be sealed
    have hescape' : ∀ more, c :: (rest ++ right) ≠ '\\' :: '{' :: '{' :: more := by
      intro more heq
      match rest with
      | [] => simp_all [Sealed]
      | [d] => simp_all [Sealed]
      | d :: e :: rest => simp_all
    have htag' : ∀ more, c :: (rest ++ right) ≠ '{' :: '{' :: more := by
      intro more heq
      match rest with
      | [] => simp_all [Sealed]
      | d :: rest => simp_all
    rw [List.cons_append, piecesFrom_char hescape' htag', ih hs.tail (by simpa using ht),
      List.cons_append]
  | case4 => rfl
  | case5 inside rest ih =>
    show _ :: piecesFrom none (rest ++ right) = _
    rw [ih hs.tail.tail (by simpa using ht), List.cons_append]
  | case6 inside c rest hclose ih =>
    cases rest with
    | nil =>
      -- the tag would be left open
      exact absurd ht (by simp [piecesFrom])
    | cons d more =>
      rw [List.cons_append, piecesFrom_inside (by simp_all)]
      exact ih hs.tail ht
  | case7 inside => exact absurd ht (by simp)

/-- Behind a sealed source without an open tag the scanner starts afresh. -/
theorem pieces_append {left : List Char} (hs : Sealed left)
    (ht : Piece.unterminated ∉ pieces left) (right : List Char) :
    pieces (left ++ right) = pieces left ++ pieces right :=
  piecesFrom_append hs ht right

end BilingualLessons.Template
