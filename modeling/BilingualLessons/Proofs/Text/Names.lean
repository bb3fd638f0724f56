import BilingualLessons.LessonKind
import BilingualLessons.Level
import Mathlib.Data.List.Nodup

namespace BilingualLessons

/-!
# Words that spell a name

Kinds of lesson are looked for in a table of names in lower case, levels in one of names in upper
case.  What is found does not depend on which of the two cases a table is written in: a word stands
for a value if it spells a name of the value.

* `Text.Spells` — the word is the name, but for blanks around it and the case of the letters from
  A to Z.
* `Text.map_toUpper_eq_iff` — texts are told apart in upper case as they are in lower case.
* `Text.spells_iff_lower`, `Text.spells_iff_upper` — as it is told by a comparison in either case.
* `LessonKind.IsNamed`, `Level.IsNamed` — the names of a value.
* `LessonKind.parse_eq_ok_iff`, `Level.parse_eq_ok_iff` — a word stands for the value that it is a
  name of.
-/

/-! ### Spelling -/

namespace Text

/-- The word is the name, whatever blanks are around it and in whatever case it is written. -/
def Spells (word name : String) : Prop :=
  (trim word.toList).map Char.toLower = name.toList.map Char.toLower

instance (word name : String) : Decidable (Spells word name) :=
  inferInstanceAs (Decidable (_ = _))

/-- The lower case of a letter from A to Z stands 32 places behind it. -/
theorem toNat_toLower (c : Char) :
    c.toLower.toNat = if 65 ≤ c.toNat ∧ c.toNat ≤ 90 then c.toNat + 32 else c.toNat := by
  have hupper : 'A'.val ≤ c.val ∧ c.val ≤ 'Z'.val ↔ 65 ≤ c.toNat ∧ c.toNat ≤ 90 := Iff.rfl
  by_cases h : 65 ≤ c.toNat ∧ c.toNat ≤ 90
  · have hlower : c.toLower = ⟨c.val + ('a'.val - 'A'.val), _⟩ := dif_pos (hupper.mpr h)
    rw [if_pos h, hlower]
    show (c.val + 32).toNat = c.toNat + 32
    rw [UInt32.toNat_add]
    exact Nat.mod_eq_of_lt (show c.toNat + 32 < 2 ^ 32 by omega)
  · have hsame : c.toLower = c := dif_neg (mt hupper.mp h)
    rw [if_neg h, hsame]

/-- The upper case of a letter from a to z stands 32 places before it. -/
theorem toNat_toUpper (c : Char) :
    c.toUpper.toNat = if 97 ≤ c.toNat ∧ c.toNat ≤ 122 then c.toNat - 32 else c.toNat := by
  have hlower : 'a'.val ≤ c.val ∧ c.val ≤ 'z'.val ↔ 97 ≤ c.toNat ∧ c.toNat ≤ 122 := Iff.rfl
  by_cases h : 97 ≤ c.toNat ∧ c.toNat ≤ 122
  · have hupper : c.toUpper = ⟨c.val + ('A'.val - 'a'.val), _⟩ := dif_pos (hlower.mpr h)
    -- 32 places back are as many forward as bring the sum around
    have hshift : ('A'.val - 'a'.val).toNat = 2 ^ 32 - 32 := by decide
    rw [if_pos h, hupper]
    show (c.val + ('A'.val - 'a'.val)).toNat = c.toNat - 32
    rw [UInt32.toNat_add, hshift]
    show (c.toNat + (2 ^ 32 - 32)) % 2 ^ 32 = c.toNat - 32
    omega
  · have hsame : c.toUpper = c := dif_neg (mt hlower.mp h)
    rw [if_neg h, hsame]

/-- Characters that differ in case only do so in upper case as in lower case. -/
theorem toUpper_eq_iff {c d : Char} : c.toUpper = d.toUpper ↔ c.toLower = d.toLower := by
  rw [← Char.toNat_inj, ← Char.toNat_inj, toNat_toUpper, toNat_toUpper, toNat_toLower,
    toNat_toLower]
  split_ifs <;> omega

/-- Texts that differ in the case of letters only do so in upper case as in lower case. -/
theorem map_toUpper_eq_iff {cs ds : List Char} :
    cs.map Char.toUpper = ds.map Char.toUpper ↔ cs.map Char.toLower = ds.map Char.toLower := by
  induction cs generalizing ds with
  | nil => simp
  | cons c rest ih => cases ds with
    | nil => simp
    | cons d others =>
      simp only [List.map_cons, List.cons.injEq]
      exact and_congr toUpper_eq_iff ih

variable {word name : String}

/-- A name in lower case is compared with the word in lower case. -/
theorem spells_iff_lower (hname : name.toList.map Char.toLower = name.toList) :
    String.ofList ((trim word.toList).map Char.toLower) = name ↔ Spells word name := by
  rw [Spells, hname, ← String.toList_inj, String.toList_ofList]

/-- A name in upper case is compared with the word in upper case. -/
theorem spells_iff_upper (hname : name.toList.map Char.toUpper = name.toList) :
    String.ofList ((trim word.toList).map Char.toUpper) = name ↔ Spells word name := by
  rw [Spells, ← map_toUpper_eq_iff, hname, ← String.toList_inj, String.toList_ofList]

end Text

/-! ### Values by name -/

/-- Where no name is used twice, an outcome that goes by what a search for a name finds is the value
    under that name. -/
theorem outcome_eq_ok_iff {ε α : Type} {names : List (String × α)}
    (honce : (names.map (·.1)).Nodup) {name : String} {outcome : Except ε α} {a : α}
    (hsome : ∀ entry, names.find? (·.1 == name) = some entry → outcome = .ok entry.2)
    (hnone : names.find? (·.1 == name) = none → ∃ fault, outcome = .error fault) :
    outcome = .ok a ↔ (name, a) ∈ names := by
  cases hfind : names.find? (·.1 == name) with
  | none =>
    obtain ⟨fault, hfault⟩ := hnone hfind
    have habsent : (name, a) ∉ names := fun hmem =>
      List.find?_eq_none.mp hfind _ hmem (beq_self_eq_true name)
    simpa [hfault] using habsent
  | some entry =>
    have hmem : entry ∈ names := List.mem_of_find?_eq_some hfind
    have hname : entry.1 = name := by simpa using List.find?_some hfind
    rw [hsome entry hfind, Except.ok.injEq]
    constructor
    · rintro rfl
      exact hname ▸ hmem
    · intro ha
      have hsame : entry = (name, a) := List.inj_on_of_nodup_map honce hmem ha hname
      rw [hsame]

/-- The word is a name of the kind. Cultural lessons have a second one. -/
def LessonKind.IsNamed (kind : LessonKind) (word : String) : Prop :=
  Text.Spells word kind.name ∨ kind = .cultural ∧ Text.Spells word "culture"

/-- The word is the name of the level. -/
def Level.IsNamed (level : Level) (word : String) : Prop := Text.Spells word level.name

theorem LessonKind.mem_names_iff {kind : LessonKind} {name : String} :
    (name, kind) ∈ names ↔ name = kind.name ∨ kind = .cultural ∧ name = "culture" := by
  cases kind <;> simp [names, LessonKind.name]

theorem Level.mem_names_iff {level : Level} {name : String} :
    (name, level) ∈ names ↔ name = level.name := by
  simp [names, mem_all, eq_comm]

/-- **Kinds.** A word stands for the kind that has it for a name. -/
theorem LessonKind.parse_eq_ok_iff {word : String} {kind : LessonKind} :
    parse word = .ok kind ↔ kind.IsNamed word := by
  have honce : (names.map (·.1)).Nodup := by decide
  have hname : kind.name.toList.map Char.toLower = kind.name.toList := by
    cases kind <;> decide
  have hsecond : "culture".toList.map Char.toLower = "culture".toList := by decide
  rw [IsNamed, ← Text.spells_iff_lower hname, ← Text.spells_iff_lower hsecond, ← mem_names_iff]
  exact outcome_eq_ok_iff honce (fun entry h => by simp [parse, h]) fun h => by simp [parse, h]

/-- **Levels.** A word stands for the level that has it for a name. -/
theorem Level.parse_eq_ok_iff {word : String} {level : Level} :
    parse word = .ok level ↔ level.IsNamed word := by
  have honce : (names.map (·.1)).Nodup := by decide
  have hname : level.name.toList.map Char.toUpper = level.name.toList := by
    cases level <;> decide
  rw [IsNamed, ← Text.spells_iff_upper hname, ← mem_names_iff]
  exact outcome_eq_ok_iff honce (fun entry h => by simp [parse, h]) fun h => by simp [parse, h]

end BilingualLessons
