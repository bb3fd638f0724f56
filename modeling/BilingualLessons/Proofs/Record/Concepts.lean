import BilingualLessons.Grammar.Catalogue
import BilingualLessons.Proofs.Record.Names

namespace BilingualLessons.Grammar

open Record

/-!
# Concepts read back

A concept and all its parts are texts, names and lists of them, so that every concept has a record
it can be read back from.  Criteria have one if their limit is a number that a record can hold.

* `Concept.decode_encode` — a concept, from the records of its parts.
* `Criteria.decode_encode` — criteria with such a limit.
* `Criteria.hasRecord_of_decode` — what criteria are decoded to has such a limit.
-/

/-! ### The parts of a concept -/

@[simp] theorem BilingualText.decode_encode (text : BilingualText) :
    BilingualText.decode text.encode = .ok text := by
  have hread : BilingualText.shape.read text.encode = _ :=
    BilingualText.shape.read_of_holds (by decide)
      ⟨by simp [BilingualText.shape], by simp, by simp [BilingualText.shape]⟩
  simp [BilingualText.decode, hread]

@[simp] theorem Explanation.decode_encode (explanation : Explanation) :
    Explanation.decode explanation.encode = .ok explanation := by
  have hread : Explanation.shape.read explanation.encode = _ :=
    Explanation.shape.read_of_holds (by decide)
      ⟨by simp [Explanation.shape], by simp, by simp [Explanation.shape]⟩
  simp [Explanation.decode, hread]

@[simp] theorem CulturalContext.decode_encode (context : CulturalContext) :
    CulturalContext.decode context.encode = .ok context := by
  have hread : CulturalContext.shape.read context.encode = _ :=
    CulturalContext.shape.read_of_holds (by decide)
      ⟨by simp [CulturalContext.shape], by simp, by simp [CulturalContext.shape]⟩
  simp [CulturalContext.decode, hread]

@[simp] theorem Example.decode_encode (ex : Example) : Example.decode ex.encode = .ok ex := by
  have hread : Example.shape.read ex.encode = _ :=
    Example.shape.read_of_holds (by decide)
      ⟨by simp [Example.shape], by simp, by simp [Example.shape]⟩
  simp [Example.decode, hread]

@[simp] theorem Mistakes.decode_encode (mistakes : Mistakes) :
    Mistakes.decode mistakes.encode = .ok mistakes := by
  have hread : Mistakes.shape.read mistakes.encode = _ :=
    Mistakes.shape.read_of_holds (by decide)
      ⟨by simp [Mistakes.shape], by simp, by simp [Mistakes.shape]⟩
  simp [Mistakes.decode, hread]

/-- **Concepts.** Every concept is read back from its record. -/
@[simp] theorem Concept.decode_encode (concept : Concept) :
    Concept.decode concept.encode = .ok concept := by
  have hread : Concept.shape.read concept.encode = _ :=
    Concept.shape.read_of_holds (by decide)
      ⟨by simp [Concept.shape], by simp, by simp [Concept.shape]⟩
  simp [Concept.decode, hread]

/-! ### Criteria -/

namespace Criteria

/-- The limit, if there is one, is a number that a record can hold. -/
def HasRecord (criteria : Criteria) : Prop := ∀ limit ∈ criteria.limit, limit < Nat.pow 2 64

/-- Criteria with a limit in bounds are read back from their record. -/
theorem decode_encode {criteria : Criteria} (h : criteria.HasRecord) :
    decode criteria.encode = .ok criteria := by
  have hlimit : nullable count (.ofOption .ofNat criteria.limit) = .ok criteria.limit :=
    nullable_natBelow h
  have hread : shape.read criteria.encode = _ :=
    shape.read_of_holds (by decide) ⟨by simp [shape, hlimit], by simp, by simp [shape]⟩
  simp [decode, hread, hlimit]

/-- What criteria are decoded to has a limit in bounds. -/
theorem hasRecord_of_decode : Decoder.Gives decode HasRecord := by
  intro v criteria h
  simp only [decode, bind_eq_ok_iff] at h
  obtain ⟨found, -, level, -, part, -, limit, hlimit, conceptType, -, h⟩ := h
  cases h
  exact natBelow_gives.optional hlimit

end Criteria

end BilingualLessons.Grammar
