import BilingualLessons.Grammar.Catalogue
import BilingualLessons.LessonTemplate.Shelf
import BilingualLessons.Proofs.Loading.Verdicts
import BilingualLessons.Proofs.Outcome

namespace BilingualLessons

/-!
# What is accepted of a load

* `LessonTemplate.judge_eq_ok_iff` — a template is accepted if its record decodes, it keeps all
  rules, and no template accepted before it has its id.
* `Grammar.Concept.ofRecord_eq_ok_iff` — a concept is accepted if its record decodes and it keeps
  all rules.
* `loading_accounts_for_every_record` — the verdicts on records at hand, and that reports and
  served records follow them.
-/

/-! ### The judges -/

/-- A record is a template if it decodes to one that keeps all rules. -/
theorem LessonTemplate.ofRecord_eq_ok_iff {limit : Nat} {record : Loading.RawRecord}
    {template : LessonTemplate} :
    ofRecord limit record = .ok template ↔
      decode record.value = .ok template ∧ template.validate limit = .ok () := by
  rw [ofRecord, bind_eq_ok_iff]
  simp only [mapError_eq_ok_iff, bind_eq_ok_iff, pure_eq_ok, Except.ok.injEq]
  constructor
  · rintro ⟨decoded, hdecode, ⟨⟩, hvalid, rfl⟩
    exact ⟨hdecode, hvalid⟩
  · rintro ⟨hdecode, hvalid⟩
    exact ⟨template, hdecode, (), hvalid, rfl⟩

/-- A template is accepted if none of those kept has its id. -/
theorem LessonTemplate.judge_eq_ok_iff {limit : Nat} {kept : List LessonTemplate}
    {record : Loading.RawRecord} {template : LessonTemplate} :
    judge limit kept record = .ok template ↔
      ofRecord limit record = .ok template ∧ ∀ earlier ∈ kept, earlier.id ≠ template.id := by
  rw [judge, bind_eq_ok_iff]
  constructor
  · rintro ⟨decoded, hrecord, hunique⟩
    -- the id is compared with the ids of those that were accepted before, not of all records
    split at hunique
    · exact absurd hunique (by simp)
    · next hnew =>
      obtain rfl : decoded = template := Except.ok.inj hunique
      simpa [hrecord] using hnew
  · rintro ⟨hrecord, hnew⟩
    refine ⟨template, hrecord, ?_⟩
    rw [if_neg (by simpa using hnew)]
    rfl

/-- A record is a concept if it decodes to one that keeps all rules. -/
theorem Grammar.Concept.ofRecord_eq_ok_iff {record : Loading.RawRecord}
    {concept : Grammar.Concept} :
    ofRecord record = .ok concept ↔
      decode record.value = .ok concept ∧ concept.validate = .ok () := by
  rw [ofRecord, bind_eq_ok_iff]
  simp only [mapError_eq_ok_iff, bind_eq_ok_iff, pure_eq_ok, Except.ok.injEq]
  constructor
  · rintro ⟨decoded, hdecode, ⟨⟩, hvalid, rfl⟩
    exact ⟨hdecode, hvalid⟩
  · rintro ⟨hdecode, hvalid⟩
    exact ⟨concept, hdecode, (), hvalid, rfl⟩

/-! ### The accounts of both repositories -/

open Loading

/-- What verdicts accept is served. -/
theorem Loading.Accounts.served_of_accepted {α : Type} {contents : Contents α} {fallback : α}
    {name : String} {values : List Json} {verdicts : List (Except DataFault α)}
    (h : Accounts contents fallback name values verdicts) {a : α}
    (ha : a ∈ accepted verdicts) : a ∈ contents.records := by
  have hsome : contents.report.accepted ≠ 0 := by
    rw [h.accepted_count]
    exact Nat.ne_of_gt (List.length_pos_of_mem ha)
  rw [h.served, if_neg hsome]
  exact ha

/-- The template that a repository over records at hand accepts in a place. -/
theorem LessonTemplate.verdict_eq_ok_iff {limit : Nat} {name : String} {values : List Json}
    {i : Nat} {template : LessonTemplate} :
    (verdicts (judge limit) [] (recordsAtHand name values))[i]? = some (.ok template) ↔
      (∃ v, values[i]? = some v ∧ decode v = .ok template ∧ template.validate limit = .ok ()) ∧
      ∀ j < i, ∀ earlier,
        (verdicts (judge limit) [] (recordsAtHand name values))[j]? = some (.ok earlier) →
        earlier.id ≠ template.id := by
  have hverdict := getElem?_verdicts (judge limit) [] (recordsAtHand name values) i
  rw [hverdict, getElem?_recordsAtHand, Option.map_map, Option.map_eq_some_iff]
  simp only [Function.comp, List.nil_append, judge_eq_ok_iff, ofRecord_eq_ok_iff,
    mem_accepted_take_iff]
  constructor
  · rintro ⟨v, hv, hvalid, hnew⟩
    exact ⟨⟨v, hv, hvalid⟩, fun j hj earlier hearlier => hnew earlier ⟨j, hj, hearlier⟩⟩
  · rintro ⟨⟨v, hv, hvalid⟩, hnew⟩
    exact ⟨v, hv, hvalid, fun earlier ⟨j, hj, hearlier⟩ => hnew j hj earlier hearlier⟩

/-- The concept that a repository over records at hand accepts in a place. -/
theorem Grammar.Concept.verdict_eq_ok_iff {name : String} {values : List Json} {i : Nat}
    {concept : Grammar.Concept} :
    (verdicts judge [] (recordsAtHand name values))[i]? = some (.ok concept) ↔
      ∃ v, values[i]? = some v ∧ decode v = .ok concept ∧ concept.validate = .ok () := by
  rw [getElem?_verdicts, getElem?_recordsAtHand, Option.map_map, Option.map_eq_some_iff]
  simp only [Function.comp, judge, ofRecord_eq_ok_iff]

/-- The templates that are accepted have ids of their own. -/
theorem LessonTemplate.nodup_accepted (limit : Nat) (records : List RawRecord) :
    ((accepted (verdicts (judge limit) [] records)).map (·.id)).Nodup := by
  have hids : (([] : List LessonTemplate) ++ accepted (verdicts (judge limit) [] records)).Pairwise
      fun earlier template => earlier.id ≠ template.id :=
    pairwise_accepted (fun kept record template hjudge => (judge_eq_ok_iff.mp hjudge).2)
      List.Pairwise.nil records
  exact List.pairwise_map.mpr hids

/-- The id of a record that is a template is the id of an accepted one. -/
theorem LessonTemplate.exists_accepted_of_valid {limit : Nat} {name : String} {values : List Json}
    {v : Json} (hv : v ∈ values) {template : LessonTemplate} (hdecode : decode v = .ok template)
    (hvalid : template.validate limit = .ok ()) :
    ∃ served ∈ accepted (verdicts (judge limit) [] (recordsAtHand name values)),
      served.id = template.id := by
  obtain ⟨i, hi⟩ := List.mem_iff_getElem?.mp hv
  by_cases hnew : ∀ j < i, ∀ earlier,
      (verdicts (judge limit) [] (recordsAtHand name values))[j]? = some (.ok earlier) →
      earlier.id ≠ template.id
  · have haccepted := verdict_eq_ok_iff.mpr ⟨⟨v, hi, hdecode, hvalid⟩, hnew⟩
    exact ⟨template, mem_accepted_iff.mpr (List.mem_of_getElem? haccepted), rfl⟩
  · -- an earlier record has taken the id
    push Not at hnew
    obtain ⟨j, _, earlier, hearlier, hid⟩ := hnew
    exact ⟨earlier, mem_accepted_iff.mpr (List.mem_of_getElem? hearlier), hid⟩

/-- If no record is a template, the built-in one stands alone. -/
theorem LessonTemplate.records_eq_fallback {limit : Nat} {name : String} {values : List Json}
    (h : ∀ v ∈ values, ∀ template, decode v = .ok template → template.validate limit ≠ .ok ()) :
    (templateRepository limit (.records name values)).contents.records = [fallback] := by
  have hnone : accepted (verdicts (judge limit) [] (recordsAtHand name values)) = [] := by
    rw [List.eq_nil_iff_forall_not_mem]
    intro template haccepted
    obtain ⟨i, hi⟩ := List.mem_iff_getElem?.mp (mem_accepted_iff.mp haccepted)
    obtain ⟨⟨v, hv, hdecode, hvalid⟩, _⟩ := verdict_eq_ok_iff.mp hi
    exact h v (List.mem_of_getElem? hv) template hdecode hvalid
  have haccounts := accounts_of_records (templateRepository limit (.records name values)) rfl
  rw [haccounts.served, haccounts.accepted_count]
  exact if_pos (congrArg List.length hnone)

/-- **Loading accounts for every record.** Of records at hand, repositories of templates and of
    concepts say what became of each: the reports follow the verdicts, and so does what is served.
    A concept is accepted exactly if its record decodes and keeps all rules; a template, if no
    accepted record before it has its id either. So the templates have ids of their own, and every
    id of a valid record is served. -/
theorem loading_accounts_for_every_record (limit : Nat) (name : String) (values : List Json) :
    (let contents := (templateRepository limit (.records name values)).contents
      ∃ verdicts : List (Except DataFault LessonTemplate),
        Accounts contents LessonTemplate.fallback name values verdicts ∧
        (∀ (i : Nat) (template : LessonTemplate), verdicts[i]? = some (.ok template) ↔
          (∃ v, values[i]? = some v ∧ LessonTemplate.decode v = .ok template ∧
            template.validate limit = .ok ()) ∧
          ∀ j < i, ∀ earlier, verdicts[j]? = some (.ok earlier) → earlier.id ≠ template.id) ∧
        ((accepted verdicts).map (·.id)).Nodup ∧
        ∀ v ∈ values, ∀ template, LessonTemplate.decode v = .ok template →
          template.validate limit = .ok () →
          ∃ served ∈ contents.records, served.id = template.id) ∧
    (let contents := (Grammar.conceptRepository (.records name values)).contents
      ∃ verdicts : List (Except DataFault Grammar.Concept),
        Accounts contents Grammar.Concept.fallback name values verdicts ∧
        ∀ (i : Nat) (concept : Grammar.Concept), verdicts[i]? = some (.ok concept) ↔
          ∃ v, values[i]? = some v ∧ Grammar.Concept.decode v = .ok concept ∧
            concept.validate = .ok ()) := by
  refine ⟨⟨verdicts (LessonTemplate.judge limit) [] (recordsAtHand name values), ?_, ?_, ?_, ?_⟩,
    ⟨verdicts Grammar.Concept.judge [] (recordsAtHand name values), ?_, ?_⟩⟩
  · exact accounts_of_records (templateRepository limit (.records name values)) rfl
  · exact fun i template => LessonTemplate.verdict_eq_ok_iff
  · exact LessonTemplate.nodup_accepted limit (recordsAtHand name values)
  · intro v hv template hdecode hvalid
    have haccounts := accounts_of_records (templateRepository limit (.records name values)) rfl
    obtain ⟨served, hserved, hid⟩ := LessonTemplate.exists_accepted_of_valid hv hdecode hvalid
    exact ⟨served, haccounts.served_of_accepted hserved, hid⟩
  · exact accounts_of_records (Grammar.conceptRepository (.records name values)) rfl
  · exact fun i concept => Grammar.Concept.verdict_eq_ok_iff

end BilingualLessons
