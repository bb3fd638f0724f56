import BilingualLessons.Proofs.Template.BlockSource
import BilingualLessons.Proofs.Template.Braces
import BilingualLessons.Proofs.Template.Concatenation

namespace BilingualLessons.Template

/-!
# No tag is left over

Without escapes in the source and without opening braces in the values, the braces of a tag cannot
come together anew where blocks vanish or values are put in: a literal text that ends in a brace
is the last of all.

* `exists_front_of_parse` — a source has settled nodes, and at most one literal text behind them.
* `scalarsHave_settled` — values without opening braces are written as settled texts.
* `no_tags_are_left_over` — what is rendered has no two opening braces side by side.
-/

/-- The nodes of a source without escapes: settled literal texts, but for one that can stand at
    the end of all. -/
theorem exists_front_of_parse {limit : Nat} {body : String} {nodes : List Node}
    (hescape : ¬ ['\\', '{', '{'] <:+: body.toList) (h : parse limit body = .ok nodes) :
    ∃ front back, nodes = front ++ back ∧
      (∀ literal ∈ literalsOf front, Settled literal.toList) ∧
      (back = [] ∨ ∃ literal, back = [.text literal] ∧ Unpaired literal.toList) := by
  obtain ⟨tokens, htokens, hparse⟩ := bind_eq_ok_iff.mp h
  have hunpaired := unpaired_of_tokenize hescape htokens
  have hcanonical := canonical_of_tokenize htokens
  have hwritten {ts ns} (hp : parseTokens limit ts = .ok ns) :=
    literalsOf_of_written ((parseTokens_eq_ok_iff_written limit ts ns).mp hp).1
  rcases List.eq_nil_or_concat' tokens with rfl | ⟨before, last, rfl⟩
  · obtain rfl := Except.ok.inj hparse
    exact ⟨[], [], rfl, by simp [literalsOf], Or.inl rfl⟩
  · have htexts : tokenTexts (before ++ [last]) = tokenTexts before ++ tokenTexts [last] :=
      List.filterMap_append
    rw [htexts] at hunpaired
    have hsettled := settled_of_followed hcanonical fun literal hmem =>
      hunpaired literal (List.mem_append_left _ hmem)
    obtain ⟨kind, line⟩ := last
    cases kind with
    | text literal =>
      -- this text may end in a brace, but nothing stands behind it
      obtain ⟨front, hfront, rfl⟩ := parseTokens_of_append_text hparse
      refine ⟨front, [.text literal], rfl, ?_, Or.inr ⟨literal, rfl, ?_⟩⟩
      · rwa [hwritten hfront]
      · exact hunpaired literal (List.mem_append_right _ List.mem_cons_self)
    | _ =>
      -- the last token is a tag, and every literal text stands before it
      refine ⟨nodes, [], (List.append_nil nodes).symm, ?_, Or.inl rfl⟩
      rw [hwritten hparse, htexts, tokenTexts_cons_tag rfl]
      simpa [tokenTexts] using hsettled

/-- Values without opening braces are written as settled texts. -/
theorem scalarsHave_settled {context : Context} (h : ∀ text ∈ context.texts, '{' ∉ text.toList) :
    Scope.ScalarsHave (fun text => Settled text.toList) [.values context.values] := by
  intro v hv text htext
  cases v with
  | string s =>
    obtain rfl := Option.some.inj htext
    refine settled_of_not_mem (h s ?_)
    rw [parts_of_context] at hv
    exact List.mem_filterMap.mpr ⟨.string s, hv, rfl⟩
  | number n => exact lastsPasting_settled.counter (Or.inl rfl) htext
  | bool b => exact lastsPasting_settled.counter (Or.inr rfl) htext
  | _ => exact absurd htext (by simp [scalarText])

/-- **No tag is left over.** From a source without escapes and values without opening braces
    nothing is rendered that has two opening braces side by side. -/
theorem no_tags_are_left_over (limit : Nat) (body : String) (context : Context) (text : String)
    (hescape : ¬ ['\\', '{', '{'] <:+: body.toList)
    (hbraces : ∀ value ∈ context.texts, '{' ∉ value.toList)
    (h : renderBody limit body context = .ok text) : ¬ ['{', '{'] <:+: text.toList := by
  obtain ⟨nodes, hparse, hrender⟩ := bind_eq_ok_iff.mp h
  obtain ⟨front, back, rfl, hfront, hback⟩ := exists_front_of_parse hescape hparse
  rw [renderInTurn_append front back] at hrender
  obtain ⟨first, hfirst, hrest⟩ := bind_eq_ok_iff.mp hrender
  obtain ⟨second, hsecond, hjoin⟩ := bind_eq_ok_iff.mp hrest
  obtain rfl := Except.ok.inj hjoin
  -- what is rendered before the last text is settled, so the two meet without two braces
  have hsettled : Settled first.toList :=
    renderNodes_lasts lastsPasting_settled (scalarsHave_settled hbraces) front hfront hfirst
  have hunpaired : Unpaired second.toList := by
    rcases hback with rfl | ⟨literal, rfl, hliteral⟩
    · obtain rfl : "" = second := by simpa [renderNodes] using hsecond
      exact .nil
    · obtain rfl : literal = second := by simpa [renderNodes, Node.render] using hsecond
      exact hliteral
  rw [String.toList_append]
  exact not_infix_of_unpaired (hsettled.append_unpaired hunpaired)

/-- Single braces before a loop, in its turns and at the end stay single, also where a condition
    that fails stands between them. -/
theorem no_tags_are_left_over_behind_single_braces :
    let body := "\x7b " ++ (openTag .each "words" ++ tagText "this" ++ "\x7b;" ++ closeTag .each) ++
      (openTag .truthy "more" ++ ".. " ++ closeTag .truthy) ++ "\x7b"
    let context : Context := ⟨[("words", .array [.string "tak\x7d", .ofNat 2])]⟩
    ¬ ['\\', '{', '{'] <:+: body.toList ∧ (∀ value ∈ context.texts, '{' ∉ value.toList) ∧
    renderBody 1 body context = .ok "\x7b tak\x7d\x7b;2\x7b;\x7b" ∧
    ¬ ['{', '{'] <:+: "\x7b tak\x7d\x7b;2\x7b;\x7b".toList := by
  intro body context
  have hescape : ¬ ['\\', '{', '{'] <:+: body.toList := by decide +kernel
  have hbraces : ∀ value ∈ context.texts, '{' ∉ value.toList := by decide +kernel
  have h : renderBody 1 body context = .ok "\x7b tak\x7d\x7b;2\x7b;\x7b" := by decide +kernel
  exact ⟨hescape, hbraces, h, no_tags_are_left_over 1 body context _ hescape hbraces h⟩

end BilingualLessons.Template
