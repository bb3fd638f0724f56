import BilingualLessons.Proofs.Template.Spelling
import BilingualLessons.Template.Render

namespace BilingualLessons.Template

/-!
# Escaped text

Any text can be put into a template: with a backslash before every two opening braces it is
literal, whatever stands around them.  A backslash before a backslash or before a single brace
stays what it is, and nothing that is not an escape begins with two braces.

* `escape` — a text with its pairs of opening braces escaped, from the left.
* `standFor_escape` — the scanner finds no tag in it, and the pieces stand for the text.
* `escaped_text_renders_as_itself` — so it is rendered as the text that it was.
-/

/-- Puts a backslash before two opening braces, wherever they stand side by side; of a run of braces
    the first two make a pair, then the next two. -/
def escape : List Char → List Char
  | '{' :: '{' :: rest => '\\' :: '{' :: '{' :: escape rest
  | c :: rest => c :: escape rest
  | [] => []

/-- `escape` on strings. -/
def escapeText (text : String) : String :=
  String.ofList (escape text.toList)

/-! ### Braces in escaped text -/

/-- A character that is not the first of two braces stays as it is. -/
theorem escape_cons {c : Char} {rest : List Char}
    (h : ∀ more, c :: rest ≠ '{' :: '{' :: more) : escape (c :: rest) = c :: escape rest := by
  rw [escape.eq_def]
  split
  · next heq => exact absurd heq (h _)
  · next heq =>
    obtain ⟨rfl, rfl⟩ := List.cons.inj heq
    rfl
  · next heq => exact absurd heq (by simp)

/-- A brace at the head of escaped text is a single one of the text. -/
theorem exists_of_escape_eq_brace {cs more : List Char} (h : escape cs = '{' :: more) :
    ∃ rest, cs = '{' :: rest ∧ more = escape rest ∧ rest.head? ≠ some '{' := by
  fun_cases escape cs with
  | case1 rest => simp [escape] at h
  | case2 c rest hpair =>
    rw [escape_cons fun more heq => hpair more (List.cons.inj heq).1 (List.cons.inj heq).2] at h
    obtain ⟨rfl, rfl⟩ := List.cons.inj h
    refine ⟨rest, rfl, rfl, fun hhead => ?_⟩
    obtain ⟨tail, rfl⟩ := List.head?_eq_some_iff.mp hhead
    exact hpair tail rfl rfl
  | case3 => simp [escape] at h

/-- Escaped text never begins with the braces of a tag. -/
theorem escape_ne_braces (cs more : List Char) : escape cs ≠ '{' :: '{' :: more := by
  intro h
  obtain ⟨rest, -, hrest, hsingle⟩ := exists_of_escape_eq_brace h
  obtain ⟨tail, rfl, -⟩ := exists_of_escape_eq_brace hrest.symm
  exact hsingle rfl

/-! ### What the scanner makes of it -/

/-- **No tag in escaped text.** The pieces of an escaped text stand for the text itself. -/
theorem standFor_escape (cs : List Char) : StandFor (pieces (escape cs)) cs := by
  fun_induction escape cs with
  | case1 rest ih => exact .escape ih
  | case2 c rest hpair ih =>
    -- `c` could only begin an escape or a tag if braces came behind it, and those that do are
    -- escaped, or single
    have hescape : ∀ more, c :: escape rest ≠ '\\' :: '{' :: '{' :: more :=
      fun more heq => escape_ne_braces rest more (List.cons.inj heq).2
    have htag : ∀ more, c :: escape rest ≠ '{' :: '{' :: more := by
      intro more heq
      obtain ⟨rfl, hbrace⟩ := List.cons.inj heq
      obtain ⟨tail, rfl, -⟩ := exists_of_escape_eq_brace hbrace
      exact hpair tail rfl rfl
    rw [pieces, piecesFrom_char hescape htag]
    exact .char c ih
  | case3 => exact .nil

/-- An escaped text is a single token, its text, or none if it is empty. -/
theorem tokenize_escapeText (text : String) :
    tokenize (escapeText text) = .ok (if text = "" then [] else [⟨.text text, 1⟩]) := by
  rw [tokenize, escapeText, String.toList_ofList, tokensFrom_of_standFor (standFor_escape _)]
  simp

/-- **Escaping embeds any text.** Whatever a text holds, escaped it is rendered as itself, in every
    context and under every nesting limit. -/
theorem escaped_text_renders_as_itself (limit : Nat) (text : String) (context : Context) :
    renderBody limit (escapeText text) context = .ok text := by
  rw [renderBody, parse, tokenize_escapeText]
  by_cases hempty : text = ""
  · subst hempty
    rfl
  · simp [hempty, parseTokens, nodesFrom, renderNodes, Node.render]

/-- A backslash and three braces: the text looks like an escape, and its escape does not. -/
example : renderBody 0 "\\\\\x7b\x7b\x7belse\x7d\x7d" ⟨[]⟩ = .ok "\\\x7b\x7b\x7belse\x7d\x7d" := by
  decide +kernel

end BilingualLessons.Template
