import BilingualLessons.Proofs.Record.Names
import BilingualLessons.Vocabulary.Query

namespace BilingualLessons

open Record

/-!
# Requests read back

Requests, options and questions to a vocabulary hold numbers, and a record holds a number only below
its bound.  What they are decoded to keeps these bounds, and whatever keeps them is read back from
its record.

* `HasRecord` — the bounds, for each of them.
* `decode_encode` — what keeps the bounds is read back.
* `hasRecord_of_decode` — what is decoded keeps them.
-/

/-! ### Lessons -/

namespace Lesson.Criteria

/-- The number of words, if there is one, is a number that a record can hold. -/
def HasRecord (criteria : Criteria) : Prop := ∀ limit ∈ criteria.limit, limit < Nat.pow 2 64

theorem decode_encode {criteria : Criteria} (h : criteria.HasRecord) :
    decode criteria.encode = .ok criteria := by
  have hlimit : nullable count (.ofOption .ofNat criteria.limit) = .ok criteria.limit :=
    nullable_natBelow h
  have hread : shape.read criteria.encode = _ :=
    shape.read_of_holds (by decide) ⟨by simp [shape, hlimit], by simp, by simp [shape]⟩
  simp [decode, hread, hlimit]

theorem hasRecord_of_decode : Decoder.Gives decode HasRecord := by
  intro v criteria h
  simp only [decode, bind_eq_ok_iff] at h
  obtain ⟨found, -, categories, -, part, -, level, -, limit, hlimit, conceptType, -, h⟩ := h
  cases h
  exact natBelow_gives.optional hlimit

end Lesson.Criteria

namespace Lesson.Request

/-- The criteria have a record. -/
def HasRecord (request : Request) : Prop := request.criteria.HasRecord

theorem decode_encode {request : Request} (h : request.HasRecord) :
    decode request.encode = .ok request := by
  have hcriteria : Criteria.decode request.criteria.encode = .ok request.criteria :=
    Criteria.decode_encode h
  have hread : shape.read request.encode = _ :=
    shape.read_of_holds (by decide) ⟨by simp [shape, hcriteria], by simp, by simp [shape]⟩
  simp [decode, hread, hcriteria]

theorem hasRecord_of_decode : Decoder.Gives decode HasRecord := by
  intro v request h
  simp only [decode, bind_eq_ok_iff] at h
  obtain ⟨found, -, kind, -, level, -, criteria, hcriteria, userId, -, direction, -, metadata, -,
    h⟩ := h
  cases h
  -- without criteria the request has those that narrow nothing down, and they have no limit
  have hnone : ({} : Criteria).HasRecord := nofun
  exact (Criteria.hasRecord_of_decode.defaulted hnone hcriteria :)

end Lesson.Request

namespace Lesson.Options

/-- The number of words, if there is one, is a number that a record can hold. -/
def HasRecord (options : Options) : Prop := ∀ items ∈ options.maxItems, items < Nat.pow 2 64

theorem decode_encode {options : Options} (h : options.HasRecord) :
    decode options.encode = .ok options := by
  have hitems : nullable count (.ofOption .ofNat options.maxItems) = .ok options.maxItems :=
    nullable_natBelow h
  have hread : shape.read options.encode = _ :=
    shape.read_of_holds (by decide) ⟨by simp [shape, hitems], by simp, by simp [shape]⟩
  simp [decode, hread, hitems]

theorem hasRecord_of_decode : Decoder.Gives decode HasRecord := by
  intro v options h
  simp only [decode, bind_eq_ok_iff] at h
  obtain ⟨found, -, repetition, -, adjustment, -, context, -, degree, -, items, hitems, h⟩ := h
  cases h
  exact natBelow_gives.optional hitems

end Lesson.Options

/-! ### Vocabulary -/

namespace Vocabulary.Search

/-- The grade, the limit and the offset are numbers that a record can hold. -/
structure HasRecord (search : Search) : Prop where
  difficulty : ∀ difficulty ∈ search.difficulty, difficulty < Nat.pow 2 8
  limit : ∀ limit ∈ search.limit, limit < Nat.pow 2 64
  offset : search.offset < Nat.pow 2 64

theorem decode_encode {search : Search} (h : search.HasRecord) :
    decode search.encode = .ok search := by
  have hdifficulty : nullable octet (.ofOption .ofNat search.difficulty) = .ok search.difficulty :=
    nullable_natBelow h.difficulty
  have hlimit : nullable count (.ofOption .ofNat search.limit) = .ok search.limit :=
    nullable_natBelow h.limit
  have hoffset : count (.ofNat search.offset) = .ok search.offset := natBelow_ofNat h.offset
  have hread : shape.read search.encode = _ :=
    shape.read_of_holds (by decide)
      ⟨by simp [shape, hdifficulty, hlimit, hoffset], by simp, by simp [shape]⟩
  simp [decode, hread, hdifficulty, hlimit, hoffset]

theorem hasRecord_of_decode : Decoder.Gives decode HasRecord := by
  intro v search h
  simp only [decode, bind_eq_ok_iff] at h
  obtain ⟨found, -, query, -, part, -, difficulty, hdifficulty, categories, -, limit, hlimit,
    offset, hoffset, h⟩ := h
  cases h
  have hbound := natBelow_gives.defaulted (by decide) hoffset
  exact {
    difficulty := natBelow_gives.optional hdifficulty
    limit := natBelow_gives.optional hlimit
    offset := hbound }

end Vocabulary.Search

namespace Vocabulary.Filter

/-- The grade and the limit are numbers that a record can hold. -/
structure HasRecord (filter : Filter) : Prop where
  difficulty : ∀ difficulty ∈ filter.difficulty, difficulty < Nat.pow 2 8
  limit : ∀ limit ∈ filter.limit, limit < Nat.pow 2 64

theorem decode_encode {filter : Filter} (h : filter.HasRecord) :
    decode filter.encode = .ok filter := by
  have hdifficulty : nullable octet (.ofOption .ofNat filter.difficulty) = .ok filter.difficulty :=
    nullable_natBelow h.difficulty
  have hlimit : nullable count (.ofOption .ofNat filter.limit) = .ok filter.limit :=
    nullable_natBelow h.limit
  have hread : shape.read filter.encode = _ :=
    shape.read_of_holds (by decide)
      ⟨by simp [shape, hdifficulty, hlimit], by simp, by simp [shape]⟩
  simp [decode, hread, hdifficulty, hlimit]

theorem hasRecord_of_decode : Decoder.Gives decode HasRecord := by
  intro v filter h
  simp only [decode, bind_eq_ok_iff] at h
  obtain ⟨found, -, difficulty, hdifficulty, category, -, limit, hlimit, h⟩ := h
  cases h
  exact {
    difficulty := natBelow_gives.optional hdifficulty
    limit := natBelow_gives.optional hlimit }

end Vocabulary.Filter

end BilingualLessons
