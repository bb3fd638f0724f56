import BilingualLessons.Proofs.Loading.Acceptance

namespace BilingualLessons.Grammar

open Loading

/-!
# Served concepts

* `Concept.validate_of_mem_contents` — whatever a repository of concepts serves keeps all rules,
  the built-in concept included.
* `Concept.exists_primaryPart` — so it is about some class of words first of all.
* `Catalogue.head?_query` — the first answer to criteria is the first concept that meets them,
  however many are asked for.
-/

/-- **Served concepts.** What a repository of concepts serves keeps all rules. -/
theorem Concept.validate_of_mem_contents {source : Source} {concept : Concept}
    (h : concept ∈ (conceptRepository source).contents.records) : concept.validate = .ok () := by
  -- a concept of the source was checked when it was accepted; the built-in one never was
  rcases judge_of_mem_contents h with ⟨kept, record, hjudge⟩ | ⟨-, rfl⟩
  · exact (ofRecord_eq_ok_iff.mp hjudge).2
  · show fallback.validate = .ok ()
    decide +kernel

theorem Concept.validate_eq_ok_iff {concept : Concept} :
    concept.validate = .ok () ↔ concept.brokenRules = [] := by
  unfold validate
  split <;> simp_all

/-- A concept that keeps all rules is about some class of words first of all. -/
theorem Concept.exists_primaryPart {concept : Concept} (h : concept.validate = .ok ()) :
    ∃ part, concept.primaryPart? = some part := by
  have hparts : concept.partsOfSpeech.isEmpty = false := by
    have hrules := validate_eq_ok_iff.mp h
    simp only [brokenRules, List.append_eq_nil_iff] at hrules
    simpa using hrules.1.1.2
  cases hfirst : concept.partsOfSpeech with
  | nil => exact absurd hparts (by simp [hfirst])
  | cons part others => exact ⟨part, by rw [primaryPart?, hfirst, List.head?_cons]⟩

theorem Criteria.wanted_pos (criteria : Criteria) : 0 < criteria.wanted := by
  unfold wanted
  split <;> exact Nat.succ_pos _

/-- The first answer is the first concept that meets the criteria. -/
theorem Catalogue.head?_query (catalogue : Catalogue) (criteria : Criteria) :
    (catalogue.query criteria).head? = catalogue.records.find? criteria.admits := by
  rw [query, List.head?_take, if_neg (Nat.ne_of_gt criteria.wanted_pos), List.head?_filter]

end BilingualLessons.Grammar
