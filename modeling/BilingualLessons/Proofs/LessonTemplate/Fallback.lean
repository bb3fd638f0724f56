import BilingualLessons.LessonTemplate.Shelf
import BilingualLessons.Proofs.Template.LoopUnrolling
import BilingualLessons.Vocabulary.Notes
import Mathlib.Data.List.Basic

namespace BilingualLessons.LessonTemplate

open Template

/-!
# The built-in template

* `parse_fallbackBody` — its body parses under every nesting limit that allows a loop.
* `validate_fallback_iff` — so it passes all checks under such a limit, and under no other.
* `render_fallback`, `render_fallback_without_count` — its text, or what it misses in a context.
-/

theorem validate_eq_ok_iff {limit : Nat} {template : LessonTemplate} :
    template.validate limit = .ok () ↔ template.brokenRules limit = [] := by
  unfold validate
  split <;> simp_all

/-! ### The body -/

/-- The tokens of the body. -/
def fallbackTokens : List Token :=
  [⟨.text "# ", 1⟩, ⟨.substitution "sectionTitle", 1⟩, ⟨.text "\n\nThis lesson contains ", 1⟩,
    ⟨.substitution "count", 3⟩, ⟨.text " vocabulary items.\n\n", 3⟩,
    ⟨.opener .each "vocabulary", 5⟩, ⟨.text "\n- ", 5⟩, ⟨.substitution "german", 6⟩,
    ⟨.text " / ", 6⟩, ⟨.substitution "bulgarian", 6⟩, ⟨.text "\n", 6⟩, ⟨.closer .each, 7⟩]

/-- The nodes for one word. -/
def fallbackLine : List Node :=
  [.text "\n- ", .substitution "german" 6, .text " / ", .substitution "bulgarian" 6, .text "\n"]

/-- The nodes of the body. -/
def fallbackNodes : List Node :=
  [.text "# ", .substitution "sectionTitle" 1, .text "\n\nThis lesson contains ",
    .substitution "count" 3, .text " vocabulary items.\n\n", .each "vocabulary" 5 fallbackLine]

theorem tokenize_fallbackBody : tokenize fallbackBody = .ok fallbackTokens := by decide +kernel

/-- The body has one loop, which a limit of zero forbids. -/
theorem parse_fallbackBody (limit : Nat) :
    parse limit fallbackBody
      = if limit = 0 then .error (.nestingTooDeep 0 5) else .ok fallbackNodes := by
  rw [parse, tokenize_fallbackBody]
  cases limit <;> rfl

/-! ### Its checks -/

/-- Apart from its body the built-in template breaks no rule. -/
theorem brokenRules_fallback (limit : Nat) :
    fallback.brokenRules limit = brokenByBody limit fallbackBody := by
  have hbefore : brokenIf (Text.isBlankText fallback.id) TemplateRule.idRequired ++
      brokenIf (Text.isBlankText fallback.name) .nameRequired ++
      brokenIf (Text.isBlankText fallback.description) .descriptionRequired ++
      brokenIf (!decide (fallback.lowest ≤ fallback.highest))
        (.rangeAscending fallback.lowest fallback.highest) = [] := by
    decide +kernel
  have hbehind : brokenByVariables [] fallback.declared = [] := by decide +kernel
  rw [brokenRules, hbefore, hbehind, List.nil_append, List.append_nil]
  rfl

/-- What is wrong with the built-in template under a nesting limit. -/
theorem validate_fallback (limit : Nat) :
    fallback.validate limit
      = if limit = 0 then .error (.invalidTemplate fallbackId [.bodyParses (.nestingTooDeep 0 5)])
        else .ok () := by
  have hblank : Text.isBlankText fallbackBody = false := by decide +kernel
  rw [validate, brokenRules_fallback, brokenByBody, parse_fallbackBody, hblank]
  cases limit <;> rfl

/-- The built-in template passes all checks wherever a loop may stand at all. -/
theorem validate_fallback_iff {limit : Nat} : fallback.validate limit = .ok () ↔ 0 < limit := by
  rw [validate_fallback]
  cases limit <;> simp

/-! ### Its text -/

/-- A path that is bound to a scalar is replaced by its text. -/
theorem renderPath_of_lookup {scope : Scope} {path text : String} {v : Json}
    (h : scope.lookup path = some v) (htext : scalarText v = some text) (line : Nat) :
    renderPath scope path line = .ok text := by
  have hvalue : v.nonNull = some v := by
    cases v with
    | null => exact absurd htext (by simp [scalarText])
    | _ => rfl
  rw [renderPath, Scope.resolve, h]
  simp only [hvalue, htext]

/-- The loop over the words of a lesson finds the fields that a word has of its own, unless the
    lesson or the loop puts something in their place. -/
theorem lookup_annotated (scope : Scope) (item : Vocabulary.Item) (index length : Nat)
    {key : String} {v : Json}
    (hkey : key ∉ ["this", "@index", "@first", "@last", "correctedPartOfSpeech", "grammarInfo"])
    (hown : Fields.get? key item.ownFields.reverse = some v) :
    Scope.lookup (.iteration item.annotated index length :: scope) key = some v := by
  simp only [List.mem_cons, List.not_mem_nil, or_false, not_or] at hkey
  obtain ⟨hthis, hindex, hfirst, hlast, hpart, hnote⟩ := hkey
  have hloop : loopValue? key item.annotated index length = none := by
    rw [loopValue?, if_neg hthis, if_neg hindex, if_neg hfirst, if_neg hlast]
  have hfield : item.annotated.field? key = some v := by
    show Fields.get? key _ = _
    rw [Fields.get?_insert, if_neg (Ne.symm hnote), Fields.get?_insert, if_neg (Ne.symm hpart),
      Vocabulary.Item.fields, Fields.get?_insertAll, hown, Option.some_or]
  rw [lookup_cons, get?_iteration, hloop, hfield]
  rfl

/-- The text for one word, whatever is in the words. -/
theorem render_fallbackLine (scope : Scope) (item : Vocabulary.Item) (index length : Nat) :
    renderNodes (.iteration item.annotated index length :: scope) fallbackLine
      = .ok ("\n- " ++ item.german ++ " / " ++ item.bulgarian ++ "\n") := by
  have hown : Fields.get? "german" item.ownFields.reverse = some (.string item.german) ∧
      Fields.get? "bulgarian" item.ownFields.reverse = some (.string item.bulgarian) := by
    cases hmetadata : item.metadata <;>
      simp [Vocabulary.Item.ownFields, hmetadata, Fields.get?_cons]
  have hgerman := lookup_annotated scope item index length (by decide) hown.1
  have hbulgarian := lookup_annotated scope item index length (by decide) hown.2
  simp [fallbackLine, renderNodes, Node.render, renderPath_of_lookup hgerman rfl,
    renderPath_of_lookup hbulgarian rfl, String.append_assoc]

/-- Numbered turns that do not show their number. -/
theorem map_zipIdx_map {α β γ : Type} {f : α → β} {turn : β × Nat → γ} {text : α → γ}
    (h : ∀ a i, turn (f a, i) = text a) (as : List α) (start : Nat) :
    ((as.map f).zipIdx start).map turn = as.map text := by
  induction as generalizing start with
  | nil => rfl
  | cons a rest ih => simp [h, ih]

/-- The text of the body: a heading, the number of the words, and a line for each of them. -/
theorem render_fallbackNodes {scope : Scope} {title : String} {count : Nat}
    {items : List Vocabulary.Item}
    (htitle : scope.lookup "sectionTitle" = some (.string title))
    (hcount : scope.lookup "count" = some (.ofNat count))
    (hwords : scope.lookup "vocabulary"
      = some (.array (items.map Vocabulary.Item.annotated))) :
    renderNodes scope fallbackNodes = .ok
      ("# " ++ title ++ "\n\nThis lesson contains " ++ toString count ++
        " vocabulary items.\n\n" ++
        String.join (items.map fun item =>
          "\n- " ++ item.german ++ " / " ++ item.bulgarian ++ "\n")) := by
  have htext : ∀ text : String, (Node.text text).render scope = .ok text := fun _ => by
    rw [Node.render]
  have hheading : (Node.substitution "sectionTitle" 1).render scope = .ok title := by
    rw [Node.render]
    exact renderPath_of_lookup htitle rfl 1
  have hnumber : (Node.substitution "count" 3).render scope = .ok (toString count) := by
    rw [Node.render]
    exact renderPath_of_lookup hcount rfl 3
  have hloop : (Node.each "vocabulary" 5 fallbackLine).render scope
      = .ok (String.join (items.map fun item =>
          "\n- " ++ item.german ++ " / " ++ item.bulgarian ++ "\n")) := by
    have hvalue : scope.resolve "vocabulary"
        = some (.array (items.map Vocabulary.Item.annotated)) := by
      rw [Scope.resolve, hwords]
      rfl
    rw [Node.render, hvalue]
    refine renderItems_of_ok ?_
    rw [List.map_map]
    exact map_zipIdx_map (fun item index => render_fallbackLine scope item index _) items 0
  simp only [fallbackNodes, renderNodes, htext, hheading, hnumber, hloop, ok_bind, pure_eq_ok,
    String.append_assoc, String.append_empty]

theorem get?_of_nonNull {context : Context} {key : String} {v : Json}
    (h : Fields.get? key context.values = some v) (hv : v.nonNull = some v) :
    context.get? key = some v := by
  rw [Context.get?, h]
  exact hv

section

variable {context : Context} {title : String}
  (htitle : Fields.get? "sectionTitle" context.values = some (.string title))
include htitle

/-- Without a number of words there is no text. -/
theorem render_fallback_without_count (limit : Nat)
    (hcount : Fields.get? "count" context.values = none) :
    fallback.render limit context = .error (.data (.missingVariable fallbackId "count")) := by
  have htitle' := get?_of_nonNull htitle rfl
  have hcount' : context.get? "count" = none := by
    rw [Context.get?, hcount]
    rfl
  have hcheck : fallback.checkContext context = .error (.missingVariable fallbackId "count") := by
    rw [checkContext]
    simp [fallback, Variable.check, htitle', hcount', VariableKind.accepts, VariableKind.kind,
      Json.kind]
  rw [render, hcheck]
  rfl

/-- The text where a title, a number and words are at hand, whatever is in the words. -/
theorem render_fallback {limit : Nat} (hlimit : 0 < limit) {count : Nat}
    {items : List Vocabulary.Item}
    (hcount : Fields.get? "count" context.values = some (.ofNat count))
    (hwords : Fields.get? "vocabulary" context.values
      = some (.array (items.map Vocabulary.Item.annotated))) :
    fallback.render limit context = .ok
      ("# " ++ title ++ "\n\nThis lesson contains " ++ toString count ++
        " vocabulary items.\n\n" ++
        String.join (items.map fun item =>
          "\n- " ++ item.german ++ " / " ++ item.bulgarian ++ "\n")) := by
  have htitle' := get?_of_nonNull htitle rfl
  have hcount' := get?_of_nonNull hcount rfl
  have hwords' := get?_of_nonNull hwords rfl
  have hcheck : fallback.checkContext context = .ok () := by
    rw [checkContext]
    simp [fallback, Variable.check, htitle', hcount', hwords', VariableKind.accepts,
      VariableKind.kind, Json.kind, Json.ofNat]
  have hparse : parse limit fallback.body = .ok fallbackNodes := by
    show parse limit fallbackBody = _
    rw [parse_fallbackBody, if_neg (Nat.ne_of_gt hlimit)]
  -- what the context binds stands before all defaults
  have hlookup : ∀ key v, Fields.get? key context.values = some v →
      Scope.lookup [.values context.values, .values (fallback.defaults context)] key = some v := by
    intro key v hkey
    rw [lookup_cons, Frame.get?, hkey, Option.some_or]
  have hnodes := render_fallbackNodes (hlookup _ _ htitle) (hlookup _ _ hcount)
    (hlookup _ _ hwords)
  rw [render, hcheck, hparse]
  simp only [mapError_ok, ok_bind, hnodes]

end

end BilingualLessons.LessonTemplate
