import BilingualLessons.Text.LetterCase
import Mathlib.Data.List.Basic

namespace BilingualLessons.Text

/-!
# Lower case and surroundings

Putting a text into lower case goes character by character, but for the capital sigma: its small
form hangs on the letters around it, and so on what a text stands amid.

* `firstSeen`, `lastSeen` — what a text shows of itself to the sigmas before and behind it.
* `lowerAmid` — the lower case of a text amid others; `lowerFrom_append` — that it is this.
* `Steady` — the text itself settles the form of each of its sigmas; `steady_iff` — so that it has
  the same lower case amid any others.
* `lower_infix_iff_steady` — the lower case of a part is part of the lower case of every whole
  exactly if the part is steady.
-/

theorem toList_lowerText (s : String) : (lowerText s).toList = lowerFrom false s.toList :=
  String.toList_ofList

/-! ### What is seen of a text -/

/-- Whether the first character that is not passed over has case, if there is one. -/
def firstSeen (cs : List Char) : Option Bool :=
  (cs.find? fun c => !isCaseIgnorable c).map isCased

/-- Whether the last character that is not passed over has case, if there is one. -/
def lastSeen (cs : List Char) : Option Bool := firstSeen cs.reverse

theorem firstSeen_singleton (c : Char) :
    firstSeen [c] = if isCaseIgnorable c then none else some (isCased c) := by
  cases h : isCaseIgnorable c <;> simp [firstSeen, h]

theorem firstSeen_append (cs ds : List Char) :
    firstSeen (cs ++ ds) = (firstSeen cs).or (firstSeen ds) := by
  rw [firstSeen, List.find?_append, Option.map_or]
  rfl

/-- Behind a character stands what is seen of the rest, or else of the character. -/
theorem lastSeen_cons (c : Char) (cs : List Char) :
    lastSeen (c :: cs)
      = (lastSeen cs).or (if isCaseIgnorable c then none else some (isCased c)) := by
  rw [lastSeen, List.reverse_cons, firstSeen_append, firstSeen_singleton]
  rfl

theorem getD_lastSeen_cons (c : Char) (cs : List Char) (before : Bool) :
    (lastSeen (c :: cs)).getD before
      = (lastSeen cs).getD (if isCaseIgnorable c then before else isCased c) := by
  rw [lastSeen_cons]
  cases lastSeen cs <;> cases isCaseIgnorable c <;> rfl

theorem startsCased_eq (cs : List Char) : startsCased cs = (firstSeen cs).getD false := by
  induction cs with
  | nil => rfl
  | cons c cs ih =>
    unfold startsCased firstSeen at ih ⊢
    cases h : isCaseIgnorable c with
    | true => simpa [h] using ih
    | false => simp [h]

theorem startsCased_append (cs ds : List Char) :
    startsCased (cs ++ ds) = (firstSeen cs).getD (startsCased ds) := by
  rw [startsCased_eq, firstSeen_append, startsCased_eq]
  cases firstSeen cs <;> rfl

/-! ### The lower case amid other texts -/

/-- The small sigma; `before` and `after` tell whether a cased letter stands on that side of it. -/
def smallSigma (before after : Bool) : Char := if before && !after then 'ς' else 'σ'

/-- The lower case of a character that stands amid others. -/
def lowerCharAmid (before after : Bool) (c : Char) : List Char :=
  if c = 'Σ' then [smallSigma before after] else lowerChar c

/-- The lower case of a text that stands amid others; `before` and `after` tell whether a cased
    letter is the next that is seen on that side of it. -/
def lowerAmid (before after : Bool) : List Char → List Char
  | [] => []
  | c :: rest =>
    lowerCharAmid before ((firstSeen rest).getD after) c ++
      lowerAmid (if isCaseIgnorable c then before else isCased c) after rest

/-- One character of a text, and then the others. -/
theorem lowerFrom_cons (before : Bool) (c : Char) (rest : List Char) :
    lowerFrom before (c :: rest) = lowerCharAmid before (startsCased rest) c ++
      lowerFrom (if isCaseIgnorable c then before else isCased c) rest := by
  rw [lowerFrom, lowerCharAmid, smallSigma]
  split <;> split <;> simp_all

/-- **Two texts in a row.** Each is put into lower case by itself, amid what is seen of the
    other. -/
theorem lowerFrom_append (before : Bool) (cs ds : List Char) :
    lowerFrom before (cs ++ ds)
      = lowerAmid before (startsCased ds) cs ++ lowerFrom ((lastSeen cs).getD before) ds := by
  induction cs generalizing before with
  | nil => rfl
  | cons c cs ih =>
    -- the first character sees the rest, and what stands behind it only if the rest shows nothing
    rw [List.cons_append, lowerFrom_cons, ih, startsCased_append, lowerAmid, List.append_assoc,
      getD_lastSeen_cons]

/-- Alone, a text stands before nothing that has case. -/
theorem lowerFrom_eq_lowerAmid (before : Bool) (cs : List Char) :
    lowerFrom before cs = lowerAmid before false cs := by
  have happend := lowerFrom_append before cs []
  rw [List.append_nil, lowerFrom, List.append_nil] at happend
  exact happend

/-- A character has a lower case of one length amid any others. -/
theorem length_lowerCharAmid (before after before' after' : Bool) (c : Char) :
    (lowerCharAmid before after c).length = (lowerCharAmid before' after' c).length := by
  unfold lowerCharAmid
  split <;> rfl

/-- So has a text. -/
theorem length_lowerAmid (before after before' after' : Bool) (cs : List Char) :
    (lowerAmid before after cs).length = (lowerAmid before' after' cs).length := by
  induction cs generalizing before before' with
  | nil => rfl
  | cons c cs ih =>
    rw [lowerAmid, lowerAmid, List.length_append, List.length_append, ih,
      length_lowerCharAmid]

/-! ### Steady texts -/

/-- Among others, only a sigma can have another lower case. -/
theorem lowerCharAmid_eq_iff {before after before' after' : Bool} {c : Char} :
    lowerCharAmid before after c = lowerCharAmid before' after' c ↔
      (c = 'Σ' → smallSigma before after = smallSigma before' after') := by
  unfold lowerCharAmid
  split <;> simp_all

theorem lowerAmid_cons_eq_iff {before after before' after' : Bool} {c : Char} {cs : List Char} :
    lowerAmid before after (c :: cs) = lowerAmid before' after' (c :: cs) ↔
      (c = 'Σ' → smallSigma before ((firstSeen cs).getD after)
        = smallSigma before' ((firstSeen cs).getD after')) ∧
      lowerAmid (if isCaseIgnorable c then before else isCased c) after cs
        = lowerAmid (if isCaseIgnorable c then before' else isCased c) after' cs := by
  rw [lowerAmid, lowerAmid, ← lowerCharAmid_eq_iff]
  constructor
  · exact fun h => List.append_inj h (length_lowerCharAmid _ _ _ _ c)
  · rintro ⟨hfirst, hrest⟩
    rw [hfirst, hrest]

/-- The lower case of a text amid others differs in its sigmas only. -/
theorem lowerAmid_eq_iff {before after before' after' : Bool} {cs : List Char} :
    lowerAmid before after cs = lowerAmid before' after' cs ↔
      ∀ front back, cs = front ++ 'Σ' :: back →
        smallSigma ((lastSeen front).getD before) ((firstSeen back).getD after)
          = smallSigma ((lastSeen front).getD before') ((firstSeen back).getD after') := by
  induction cs generalizing before before' with
  | nil => simp [lowerAmid]
  | cons c cs ih =>
    rw [lowerAmid_cons_eq_iff, ih]
    constructor
    · rintro ⟨hfirst, hrest⟩ front back heq
      -- the sigma is the first character or one of the others
      cases front with
      | nil =>
        obtain ⟨rfl, rfl⟩ := List.cons.inj heq
        exact hfirst rfl
      | cons d front =>
        obtain ⟨rfl, htail⟩ := List.cons.inj heq
        rw [getD_lastSeen_cons, getD_lastSeen_cons]
        exact hrest front back htail
    · intro hall
      refine ⟨fun hsigma => hall [] cs (by rw [hsigma, List.nil_append]), ?_⟩
      intro front back heq
      have hrest := hall (c :: front) back (by rw [heq, List.cons_append])
      rwa [getD_lastSeen_cons, getD_lastSeen_cons] at hrest

/-- What is seen on the two sides of a sigma settles its form: on one side something that a final
    sigma cannot have there, or on both sides what it has. -/
def Settles (before after : Option Bool) : Prop :=
  before = some false ∨ after = some true ∨ (before = some true ∧ after = some false)

instance (before after : Option Bool) : Decidable (Settles before after) :=
  inferInstanceAs (Decidable (_ ∨ _ ∨ _))

/-- Nothing that stands farther away changes a form that is settled. -/
theorem settles_iff {before after : Option Bool} :
    Settles before after ↔ ∀ beyond behind,
      smallSigma (before.getD beyond) (after.getD behind)
        = smallSigma (before.getD false) (after.getD false) := by
  rcases before with _ | _ | _ <;> rcases after with _ | _ | _ <;> decide

/-- The text itself settles the form of each of its sigmas. -/
def Steady (cs : List Char) : Prop :=
  ∀ front back, cs = front ++ 'Σ' :: back → Settles (lastSeen front) (firstSeen back)

/-- A text without a sigma is steady. -/
theorem steady_of_notMem {cs : List Char} (h : 'Σ' ∉ cs) : Steady cs := by
  rintro front back rfl
  exact absurd (List.mem_append_right front List.mem_cons_self) h

/-- A steady text has the same lower case amid any others as alone. -/
theorem steady_iff {cs : List Char} :
    Steady cs ↔ ∀ before after, lowerAmid before after cs = lowerFrom false cs := by
  simp only [lowerFrom_eq_lowerAmid, lowerAmid_eq_iff, Steady, settles_iff]
  constructor
  · intro h before after front back heq
    exact h front back heq before after
  · intro h front back heq before after
    exact h before after front back heq

/-! ### Parts of a text -/

variable {part whole : List Char}

/-- The lower case of a steady part stands in that of the whole. -/
theorem Steady.infix_lowerFrom (h : Steady part) (hpart : part <:+: whole) :
    lowerFrom false part <:+: lowerFrom false whole := by
  obtain ⟨front, back, rfl⟩ := hpart
  rw [List.append_assoc, lowerFrom_append, lowerFrom_append, steady_iff.mp h]
  exact ⟨_, _, List.append_assoc _ _ _⟩

/-- A small letter that is its own lower case and that a sigma sees. -/
structure IsPlainLetter (letter : Char) : Prop where
  lower : lowerChar letter = [letter]
  notSigma : letter ≠ 'Σ'
  cased : isCased letter = true
  seen : isCaseIgnorable letter = false

/-- There is a plain letter besides any two characters. -/
theorem exists_isPlainLetter (c d : Option Char) :
    ∃ letter, IsPlainLetter letter ∧ c ≠ some letter ∧ d ≠ some letter := by
  have ha : IsPlainLetter 'a' := by constructor <;> decide +kernel
  have hb : IsPlainLetter 'b' := by constructor <;> decide +kernel
  have hc : IsPlainLetter 'c' := by constructor <;> decide +kernel
  by_contra hnone
  push Not at hnone
  -- two characters cannot be all three letters
  have hall : ∀ letter, IsPlainLetter letter → c = some letter ∨ d = some letter := by
    intro letter hletter
    by_cases h : c = some letter
    · exact .inl h
    · exact .inr (hnone letter hletter h)
  rcases hall 'a' ha with h | h <;> rcases hall 'b' hb with h' | h' <;>
    rcases hall 'c' hc with h'' | h'' <;> simp_all

/-- A letter beside a text, if it is wanted there. -/
def letterIf (wanted : Bool) (letter : Char) : List Char := if wanted then [letter] else []

theorem length_letterIf (wanted : Bool) (letter : Char) :
    (letterIf wanted letter).length = wanted.toNat := by
  cases wanted <;> rfl

theorem IsPlainLetter.firstSeen_letterIf {letter : Char} (h : IsPlainLetter letter)
    (wanted : Bool) :
    firstSeen (letterIf wanted letter) = if wanted then some true else none := by
  cases wanted
  · rfl
  · show firstSeen [letter] = some true
    rw [firstSeen_singleton, h.seen, h.cased]
    rfl

theorem IsPlainLetter.lowerAmid_letterIf {letter : Char} (h : IsPlainLetter letter)
    (before after wanted : Bool) :
    lowerAmid before after (letterIf wanted letter) = letterIf wanted letter := by
  cases wanted
  · rfl
  · show lowerAmid before after [letter] = [letter]
    rw [lowerAmid, lowerCharAmid, if_neg h.notSigma, h.lower]
    rfl

/-- Letters beside a text are what it stands amid. -/
theorem IsPlainLetter.lowerFrom_between {letter : Char} (h : IsPlainLetter letter)
    (before after : Bool) (cs : List Char) :
    lowerFrom false (letterIf before letter ++ cs ++ letterIf after letter)
      = letterIf before letter ++ lowerAmid before after cs ++ letterIf after letter := by
  have hreverse : (letterIf before letter).reverse = letterIf before letter := by
    cases before <;> rfl
  have hbefore : (lastSeen (letterIf before letter)).getD false = before := by
    rw [lastSeen, hreverse, h.firstSeen_letterIf]
    cases before <;> rfl
  have hafter : startsCased (letterIf after letter) = after := by
    rw [startsCased_eq, h.firstSeen_letterIf]
    cases after <;> rfl
  rw [List.append_assoc, lowerFrom_append, hbefore, lowerFrom_append, hafter,
    lowerFrom_eq_lowerAmid, h.lowerAmid_letterIf, h.lowerAmid_letterIf, List.append_assoc]

/-- A text stands between letters, with which it neither begins nor ends, only in the place of
    another one of its length. -/
theorem eq_of_infix_between {letter : Char} {before after : Bool} {cs ds : List Char}
    (hlength : cs.length = ds.length) (hhead : cs.head? ≠ some letter)
    (hlast : cs.getLast? ≠ some letter)
    (h : cs <:+: letterIf before letter ++ ds ++ letterIf after letter) : cs = ds := by
  obtain ⟨front, back, heq⟩ := h
  by_cases hnil : cs = []
  · rw [hnil, List.length_nil] at hlength
    rw [hnil, List.eq_nil_of_length_eq_zero hlength.symm]
  have hsum : front.length + back.length = before.toNat + after.toNat := by
    have hlengths := congrArg List.length heq
    simp only [List.length_append, length_letterIf] at hlengths
    omega
  rcases Nat.lt_trichotomy front.length before.toNat with hlt | hsame | hgt
  · -- it begins with the letter before it
    obtain rfl : before = true := by cases before <;> simp at hlt ⊢
    obtain rfl : front = [] := List.eq_nil_of_length_eq_zero (Nat.lt_one_iff.mp hlt)
    have hfirst := congrArg List.head? heq
    rw [List.nil_append, List.head?_append_of_ne_nil _ hnil] at hfirst
    exact absurd hfirst hhead
  · rw [List.append_assoc, List.append_assoc] at heq
    have hrest := (List.append_inj heq (by rw [hsame, length_letterIf])).2
    exact (List.append_inj hrest hlength).1
  · -- it ends with the letter behind it
    have hback : back.length < after.toNat := by omega
    obtain rfl : after = true := by cases after <;> simp at hback ⊢
    obtain rfl : back = [] := List.eq_nil_of_length_eq_zero (Nat.lt_one_iff.mp hback)
    have hfinal := congrArg List.getLast? heq
    rw [List.append_nil, List.getLast?_append_of_ne_nil _ hnil] at hfinal
    exact absurd (hfinal.trans List.getLast?_concat) hlast

/-- **Parts in lower case.** The lower case of a part stands in the lower case of every text that
    the part stands in, exactly if the part is steady. -/
theorem lower_infix_iff_steady :
    (∀ whole, part <:+: whole → lowerFrom false part <:+: lowerFrom false whole) ↔
      Steady part := by
  constructor
  · intro hparts
    refine steady_iff.mpr fun before after => ?_
    -- between letters that its lower case neither begins nor ends with, the part can be found in
    -- its own place only, where it has the lower case that it has amid them
    obtain ⟨letter, hletter, hhead, hlast⟩ := exists_isPlainLetter
      (lowerFrom false part).head? (lowerFrom false part).getLast?
    have hinfix := hparts (letterIf before letter ++ part ++ letterIf after letter) ⟨_, _, rfl⟩
    rw [hletter.lowerFrom_between] at hinfix
    have hlength : (lowerFrom false part).length = (lowerAmid before after part).length := by
      rw [lowerFrom_eq_lowerAmid]
      exact length_lowerAmid false false before after part
    exact (eq_of_infix_between hlength hhead hlast hinfix).symm
  · exact fun h whole hpart => h.infix_lowerFrom hpart

end BilingualLessons.Text
