import BilingualLessons.CommandLine
import BilingualLessons.Proofs.Outcome
import BilingualLessons.Proofs.Text.Names

namespace BilingualLessons.CommandLine

/-!
# Flags among words

Arguments are taken in one after the other, and each changes what is known of the request.  What is
known in the end does not show in which order flags and words came: it is told by the words alone,
in their order, and by whether the flag was among them.  Only a flag that does not exist ends it
all, and of several such flags the first one is named.

* `IsUnknownFlag`, `wordsOf` — the flags that do not exist, and the words among arguments.
* `Arguments.after` — what is known once arguments have been taken in, told from the whole list.
* `Arguments.add_of_known` — one argument, `Arguments.foldlM_add` — a list of them,
  `foldlM_add_of_unknown` — and a list with a flag that does not exist.
* `Says` — what a word in a place says, and what holds where no word is there.
* `flags_may_stand_anywhere` — when arguments are refused, and the request that they stand for.
-/

/-- The argument looks like a flag and is not the one there is. -/
def IsUnknownFlag (arg : String) : Prop := "--".toList <+: arg.toList ∧ arg ≠ bulgarianFlag

instance (arg : String) : Decidable (IsUnknownFlag arg) := inferInstanceAs (Decidable (_ ∧ _))

/-- The words among arguments, in their order. -/
def wordsOf (args : List String) : List String := args.filter (· ≠ bulgarianFlag)

variable {args before behind : List String} {arg flag : String}

/-! ### Taking in arguments -/

namespace Arguments

variable {known : Arguments}

/-- What is known once arguments have been taken in, wherever among them the flag was. -/
def after (known : Arguments) (args : List String) : Arguments where
  direction := if bulgarianFlag ∈ args then .bulgarianToGerman else known.direction
  words := known.words ++ wordsOf args

theorem after_nil : known.after [] = known := by
  simp [after, wordsOf]

/-- Arguments can be taken in one by one. -/
theorem after_cons : (known.after [arg]).after args = known.after (arg :: args) := by
  have hwords : wordsOf (arg :: args) = wordsOf [arg] ++ wordsOf args :=
    List.filter_append (p := (· ≠ bulgarianFlag)) [arg] args
  rw [after, after, after, hwords, List.append_assoc]
  by_cases hargs : bulgarianFlag ∈ args
  · simp [hargs]
  · simp [hargs]

theorem add_of_unknown (h : IsUnknownFlag arg) : known.add arg = .error (.unknownFlag arg) := by
  rw [add, if_neg h.2, if_pos (String.startsWith_string_iff.mpr h.1)]

/-- **Step.** An argument that is not refused is known from then on. -/
theorem add_of_known (h : ¬IsUnknownFlag arg) : known.add arg = .ok (known.after [arg]) := by
  unfold add
  -- what is no unknown flag is the flag or a word
  by_cases hflag : arg = bulgarianFlag
  · subst hflag
    rw [if_pos rfl, after]
    simp [wordsOf]
  · have hword : ¬arg.startsWith "--" = true := fun hstart =>
      h ⟨String.startsWith_string_iff.mp hstart, hflag⟩
    rw [if_neg hflag, if_neg hword, after]
    simp [wordsOf, hflag, Ne.symm hflag]

/-- **Run.** So are any arguments none of which is refused. -/
theorem foldlM_add (h : ∀ arg ∈ args, ¬IsUnknownFlag arg) :
    args.foldlM add known = .ok (known.after args) := by
  induction args generalizing known with
  | nil => rw [after_nil, List.foldlM_nil, pure_eq_ok]
  | cons arg args ih =>
    rw [List.forall_mem_cons] at h
    rw [List.foldlM_cons, add_of_known h.1, ok_bind, ih h.2, after_cons]

/-- The first argument that is refused decides, whatever stands before and behind it. -/
theorem foldlM_add_of_unknown (hbefore : ∀ arg ∈ before, ¬IsUnknownFlag arg)
    (hflag : IsUnknownFlag flag) :
    (before ++ flag :: behind).foldlM add known = .error (.unknownFlag flag) := by
  rw [List.foldlM_append, foldlM_add hbefore, ok_bind, List.foldlM_cons, add_of_unknown hflag,
    error_bind]

end Arguments

/-! ### Words in their places -/

/-- What the word in a place says: a value that it is a name of, or `default` if there is no
    word. -/
def Says {α : Type} (isNamed : α → String → Prop) (default : α) : Option String → α → Prop
  | none, a => a = default
  | some word, a => isNamed a word

section

variable {α : Type} {isNamed : α → String → Prop} {default a : α}
  {parse : String → Except String α} {fault : String → UsageFault} {word? : Option String}

theorem wordOr_eq_ok_iff (h : ∀ {word a}, parse word = .ok a ↔ isNamed a word) :
    wordOr default parse fault word? = .ok a ↔ Says isNamed default word? a := by
  cases word? with
  | none => simp [wordOr, Says, eq_comm]
  | some word => rw [wordOr, mapError_eq_ok_iff, h, Says]

/-- A word is refused if it is a name of nothing. -/
theorem exists_wordOr_eq_error_iff (h : ∀ {word a}, parse word = .ok a ↔ isNamed a word) :
    (∃ e, wordOr default parse fault word? = .error e) ↔ ∃ word ∈ word?, ∀ a, ¬isNamed a word := by
  rw [exists_error_iff fun a => wordOr_eq_ok_iff h]
  cases word? with
  | none => simp [Says]
  | some word => simp [Says]

end

/-! ### Requests -/

namespace Arguments

variable {known : Arguments}

/-- Words are a request if the first is a kind and the second a level, or they end before. -/
theorem request_eq_ok_iff {request : Lesson.Request} :
    known.request = .ok request ↔ ∃ kind level,
      Says LessonKind.IsNamed .vocabulary known.words[0]? kind ∧
      Says Level.IsNamed .a1 known.words[1]? level ∧
      request = {
        kind? := some kind
        level
        criteria := { categories := known.words.drop 2 }
        direction := known.direction } := by
  simp only [Arguments.request, bind_eq_ok_iff, pure_eq_ok, Except.ok.injEq,
    wordOr_eq_ok_iff LessonKind.parse_eq_ok_iff, wordOr_eq_ok_iff Level.parse_eq_ok_iff]
  constructor
  · rintro ⟨kind, hkind, level, hlevel, rfl⟩
    exact ⟨kind, level, hkind, hlevel, rfl⟩
  · rintro ⟨kind, level, hkind, hlevel, rfl⟩
    exact ⟨kind, hkind, level, hlevel, rfl⟩

/-- Words are refused if the first is no kind or the second no level. -/
theorem exists_request_eq_error_iff :
    (∃ fault, known.request = .error fault) ↔
      (∃ word ∈ known.words[0]?, ∀ kind : LessonKind, ¬kind.IsNamed word) ∨
      ∃ word ∈ known.words[1]?, ∀ level : Level, ¬level.IsNamed word := by
  have hkind : (∃ fault, wordOr .vocabulary LessonKind.parse .badKind known.words[0]?
      = .error fault) ↔ _ := exists_wordOr_eq_error_iff LessonKind.parse_eq_ok_iff
  have hlevel : (∃ fault, wordOr .a1 Level.parse .badLevel known.words[1]?
      = .error fault) ↔ _ := exists_wordOr_eq_error_iff Level.parse_eq_ok_iff
  rw [← hkind, ← hlevel, request]
  cases wordOr .vocabulary LessonKind.parse .badKind known.words[0]? with
  | error fault => simp
  | ok kind =>
    -- the kind is no fault, so it is for the level to be one
    cases wordOr .a1 Level.parse .badLevel known.words[1]? with
    | error fault => simp
    | ok level => simp

end Arguments

/-! ### Whole command lines -/

theorem parse_of_unknown (hbefore : ∀ arg ∈ before, ¬IsUnknownFlag arg)
    (hflag : IsUnknownFlag flag) :
    parse (before ++ flag :: behind) = .error (.unknownFlag flag) := by
  rw [parse, Arguments.ofList, Arguments.foldlM_add_of_unknown hbefore hflag, error_bind]

theorem parse_of_known (h : ∀ arg ∈ args, ¬IsUnknownFlag arg) :
    parse args = (Arguments.after {} args).request := by
  rw [parse, Arguments.ofList, Arguments.foldlM_add h, ok_bind]

/-- **Flags anywhere.** The first flag that does not exist is what arguments are refused for,
    whatever else is among them.  All others stand for what their words say, the first of them as a
    kind, the second as a level and the rest as categories, in the direction that the flag asks for
    if it is there at all. -/
theorem flags_may_stand_anywhere (args : List String) :
    (∀ before flag behind, args = before ++ flag :: behind →
      (∀ arg ∈ before, ¬IsUnknownFlag arg) → IsUnknownFlag flag →
        parse args = .error (.unknownFlag flag) ∧
        (UsageFault.unknownFlag flag).message = "unknown flag " ++ flag ++ "\n\n" ++ usage) ∧
    ((∀ arg ∈ args, ¬IsUnknownFlag arg) →
      (∀ others, (∀ arg ∈ others, ¬IsUnknownFlag arg) → wordsOf others = wordsOf args →
        (bulgarianFlag ∈ others ↔ bulgarianFlag ∈ args) → parse others = parse args) ∧
      ((∃ fault, parse args = .error fault) ↔
        (∃ word ∈ (wordsOf args)[0]?, ∀ kind : LessonKind, ¬kind.IsNamed word) ∨
        ∃ word ∈ (wordsOf args)[1]?, ∀ level : Level, ¬level.IsNamed word) ∧
      ∀ request, parse args = .ok request ↔ ∃ kind level,
        Says LessonKind.IsNamed .vocabulary (wordsOf args)[0]? kind ∧
        Says Level.IsNamed .a1 (wordsOf args)[1]? level ∧
        request = {
          kind? := some kind
          level
          criteria := { categories := (wordsOf args).drop 2 }
          direction :=
            if bulgarianFlag ∈ args then .bulgarianToGerman else .germanToBulgarian }) := by
  refine ⟨?_, fun hknown => ?_⟩
  · rintro before flag behind rfl hbefore hflag
    exact ⟨parse_of_unknown hbefore hflag, rfl⟩
  · -- no flag is in the way, so only the words and the direction are left
    have hparse : parse args = (Arguments.after {} args).request := parse_of_known hknown
    refine ⟨fun others hothers hwords hflag => ?_, ?_, fun request => ?_⟩
    · have hsame : Arguments.after {} others = Arguments.after {} args := by
        simp only [Arguments.after, hwords, hflag]
      rw [hparse, parse_of_known hothers, hsame]
    · rw [hparse]
      exact Arguments.exists_request_eq_error_iff
    · rw [hparse]
      exact Arguments.request_eq_ok_iff

/-- A flag that does not exist behind a word that is no kind, and the flag that does, twice and
    among words. -/
theorem flags_may_stand_anywhere_among_words :
    IsUnknownFlag "--dry" ∧
    parse ["nonsense", "--bg", "--dry", "B7", "--"] = .error (.unknownFlag "--dry") ∧
    (∀ arg ∈ [" Culture\n", "--bg", "b2", "--bg", "food", " "], ¬IsUnknownFlag arg) ∧
    parse [" Culture\n", "--bg", "b2", "--bg", "food", " "] = .ok {
      kind? := some .cultural
      level := .b2
      criteria := { categories := ["food", " "] }
      direction := .bulgarianToGerman } := by
  have hdry : IsUnknownFlag "--dry" := by decide
  have hbefore : ∀ arg ∈ ["nonsense", "--bg"], ¬IsUnknownFlag arg := by decide
  have hknown : ∀ arg ∈ [" Culture\n", "--bg", "b2", "--bg", "food", " "], ¬IsUnknownFlag arg := by
    decide
  have hkind : LessonKind.cultural.IsNamed " Culture\n" := .inr ⟨rfl, by decide⟩
  have hlevel : Level.b2.IsNamed "b2" := by
    show Text.Spells "b2" "B2"
    decide
  refine ⟨hdry, ?_, hknown, ?_⟩
  · exact ((flags_may_stand_anywhere _).1 ["nonsense", "--bg"] "--dry" ["B7", "--"] rfl hbefore
      hdry).1
  · exact (((flags_may_stand_anywhere _).2 hknown).2.2 _).mpr
      ⟨.cultural, .b2, hkind, hlevel, rfl⟩

end BilingualLessons.CommandLine
