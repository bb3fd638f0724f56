import BilingualLessons.Loading.Repository
import Mathlib.Data.List.Basic

namespace BilingualLessons.Loading

/-!
# The verdicts of a load

A repository judges its records one after the other, each with what was accepted before it at
hand.  What it serves and what it reports are read off the list of these verdicts.

* `verdicts` — the verdict on each record; `accepted` and `refusals` — what comes of them.
* `sift_eq` — sifting keeps what the verdicts accept and reports what they refuse.
* `getElem?_verdicts` — the verdict on one record, from the verdicts before it.
* `pairwise_accepted` — a relation that the judge asks for between a record and those before it
  holds between all that are accepted.
* `accepted_verdicts_of_forall` — what is accepted by a judge that looks at one record at a time.
* `Accounts` — a report that says what became of every record; `accounts_of_records` — the report
  of a repository over records at hand does.
* `judge_of_mem_contents`, `mem_contents_of_judge`, `records_of_usedFallback` — what any repository
  serves.
-/

variable {α : Type}

/-! ### Verdicts -/

/-- What a judge says of each record, in order, with `kept` accepted before them. -/
def verdicts (judge : Judge α) (kept : List α) : List RawRecord → List (Except DataFault α)
  | [] => []
  | record :: rest =>
    judge kept record :: verdicts judge (kept ++ (judge kept record).toOption.toList) rest

/-- What verdicts accept, in order. -/
def accepted (verdicts : List (Except DataFault α)) : List α :=
  verdicts.filterMap Except.toOption

@[simp] theorem accepted_nil : accepted ([] : List (Except DataFault α)) = [] := rfl

@[simp] theorem accepted_ok (a : α) (verdicts : List (Except DataFault α)) :
    accepted (.ok a :: verdicts) = a :: accepted verdicts := rfl

@[simp] theorem accepted_error (fault : DataFault) (verdicts : List (Except DataFault α)) :
    accepted (.error fault :: verdicts) = accepted verdicts := rfl

/-- The fault that a verdict reports under the origin of its record. -/
def refusal? (origin : String) : Except DataFault α → Option LoadFault
  | .ok _ => none
  | .error fault => some ⟨origin, .invalid fault⟩

/-- What verdicts report of the records they refuse, in order. -/
def refusals (origins : List String) (verdicts : List (Except DataFault α)) : List LoadFault :=
  (origins.zip verdicts).filterMap fun (origin, verdict) => refusal? origin verdict

@[simp] theorem refusals_ok (origin : String) (origins : List String) (a : α)
    (verdicts : List (Except DataFault α)) :
    refusals (origin :: origins) (.ok a :: verdicts) = refusals origins verdicts := rfl

@[simp] theorem refusals_error (origin : String) (origins : List String) (fault : DataFault)
    (verdicts : List (Except DataFault α)) :
    refusals (origin :: origins) (.error fault :: verdicts)
      = ⟨origin, .invalid fault⟩ :: refusals origins verdicts := rfl

/-- Sifting keeps what the verdicts accept and reports what they refuse. -/
theorem sift_eq (judge : Judge α) (kept : List α) (records : List RawRecord) :
    sift judge kept records
      = (kept ++ accepted (verdicts judge kept records),
        refusals (records.map (·.origin)) (verdicts judge kept records)) := by
  induction records generalizing kept with
  | nil => simp [sift, verdicts, refusals]
  | cons record rest ih =>
    cases hverdict : judge kept record <;>
      simp [sift, verdicts, hverdict, ih, Except.toOption]

@[simp] theorem length_verdicts (judge : Judge α) (kept : List α) (records : List RawRecord) :
    (verdicts judge kept records).length = records.length := by
  induction records generalizing kept with
  | nil => rfl
  | cons record rest ih => simp [verdicts, ih]

/-- A record is judged with what the verdicts before it accept. -/
theorem getElem?_verdicts (judge : Judge α) (kept : List α) (records : List RawRecord) (i : Nat) :
    (verdicts judge kept records)[i]?
      = records[i]?.map
          (judge (kept ++ accepted ((verdicts judge kept records).take i))) := by
  induction records generalizing kept i with
  | nil => simp [verdicts]
  | cons record rest ih =>
    cases i with
    | zero => simp [verdicts]
    | succ i =>
      cases hverdict : judge kept record <;>
        simp [verdicts, hverdict, ih, Except.toOption]

theorem mem_accepted_iff {verdicts : List (Except DataFault α)} {a : α} :
    a ∈ accepted verdicts ↔ .ok a ∈ verdicts := by
  induction verdicts with
  | nil => simp
  | cons verdict rest ih => cases verdict <;> simp [ih]

/-- What is accepted before a place. -/
theorem mem_accepted_take_iff {verdicts : List (Except DataFault α)} {i : Nat} {a : α} :
    a ∈ accepted (verdicts.take i) ↔ ∃ j < i, verdicts[j]? = some (.ok a) := by
  rw [mem_accepted_iff, List.mem_iff_getElem?]
  constructor
  · rintro ⟨j, hj⟩
    rw [List.getElem?_take] at hj
    split at hj
    · next hlt => exact ⟨j, hlt, hj⟩
    · exact absurd hj (by simp)
  · rintro ⟨j, hlt, hj⟩
    exact ⟨j, by rw [List.getElem?_take, if_pos hlt, hj]⟩

/-- What is accepted is what the judge said of some record. -/
theorem exists_judge_of_mem_accepted {judge : Judge α} {kept : List α} {records : List RawRecord}
    {a : α} (h : a ∈ accepted (verdicts judge kept records)) :
    ∃ before, ∃ record ∈ records, judge before record = .ok a := by
  obtain ⟨i, hi⟩ := List.mem_iff_getElem?.mp (mem_accepted_iff.mp h)
  rw [getElem?_verdicts, Option.map_eq_some_iff] at hi
  obtain ⟨record, hrecord, hjudge⟩ := hi
  exact ⟨_, record, List.mem_of_getElem? hrecord, hjudge⟩

/-- A relation that the judge asks for between a record and those accepted before it holds
    between all that are accepted. -/
theorem pairwise_accepted {judge : Judge α} {R : α → α → Prop}
    (hjudge : ∀ kept record a, judge kept record = .ok a → ∀ earlier ∈ kept, R earlier a)
    {kept : List α} (hkept : kept.Pairwise R) (records : List RawRecord) :
    (kept ++ accepted (verdicts judge kept records)).Pairwise R := by
  induction records generalizing kept with
  | nil => simpa [verdicts] using hkept
  | cons record rest ih =>
    cases hverdict : judge kept record with
    | error fault => simpa [verdicts, hverdict, Except.toOption] using ih hkept
    | ok a =>
      have hnext : (kept ++ [a]).Pairwise R := by
        rw [List.pairwise_append]
        exact ⟨hkept, List.pairwise_singleton R a, fun earlier hearlier b hb =>
          List.mem_singleton.mp hb ▸ hjudge kept record a hverdict earlier hearlier⟩
      simpa [verdicts, hverdict, Except.toOption] using ih hnext

/-- A judge that looks at one record at a time accepts the same of it wherever it stands. -/
theorem accepted_verdicts_of_forall {judge : Judge α} {judgeOne : RawRecord → Except DataFault α}
    (h : ∀ kept record, judge kept record = judgeOne record) (kept : List α)
    (records : List RawRecord) :
    accepted (verdicts judge kept records)
      = records.filterMap fun record => (judgeOne record).toOption := by
  induction records generalizing kept with
  | nil => rfl
  | cons record rest ih =>
    rw [verdicts, h, accepted, List.filterMap_cons, List.filterMap_cons, ← ih]
    rfl

/-! ### Reports -/

/-- Every verdict either accepts or reports. -/
theorem length_accepted_add_refusals {origins : List String}
    {verdicts : List (Except DataFault α)} (h : verdicts.length = origins.length) :
    (accepted verdicts).length + (refusals origins verdicts).length = origins.length := by
  induction origins generalizing verdicts with
  | nil => simp [List.length_eq_zero_iff.mp h, refusals]
  | cons origin origins ih =>
    obtain ⟨verdict, rest, rfl⟩ := List.exists_cons_of_length_eq_add_one h
    have hrest := ih (Nat.succ.inj h)
    cases verdict <;> simp <;> omega

/-- What the verdicts refuse is invalid. -/
theorem kind_of_mem_refusals {origins : List String} {verdicts : List (Except DataFault α)}
    {fault : LoadFault} (h : fault ∈ refusals origins verdicts) : fault.kind = .invalid := by
  obtain ⟨⟨origin, verdict⟩, _, hverdict⟩ := List.mem_filterMap.mp h
  cases verdict with
  | ok a => exact absurd hverdict (by simp [refusal?])
  | error cause =>
    obtain rfl : ⟨origin, .invalid cause⟩ = fault := Option.some.inj hverdict
    rfl

/-- Origins that are told by a number. -/
theorem refusals_zipIdx {β : Type} (origin : Nat → String) {values : List β} (start : Nat)
    {verdicts : List (Except DataFault α)} (h : verdicts.length = values.length) :
    refusals ((values.zipIdx start).map fun (_, i) => origin i) verdicts
      = (verdicts.zipIdx start).filterMap fun (verdict, i) => refusal? (origin i) verdict := by
  induction values generalizing start verdicts with
  | nil => simp [List.length_eq_zero_iff.mp h, refusals]
  | cons value values ih =>
    obtain ⟨verdict, rest, rfl⟩ := List.exists_cons_of_length_eq_add_one h
    have hrest := ih (start + 1) (Nat.succ.inj h)
    cases verdict <;> simp [hrest, refusal?]

/-- The origin of a record at hand, by its place under the name of the source. -/
def originAt (name : String) (i : Nat) : String := s!"{name}[{i}]"

/-- The records of a source that has them at hand. -/
def recordsAtHand (name : String) (values : List Json) : List RawRecord :=
  values.zipIdx.map fun (v, i) => ⟨originAt name i, v⟩

theorem getElem?_recordsAtHand (name : String) (values : List Json) (i : Nat) :
    (recordsAtHand name values)[i]? = values[i]?.map fun v => ⟨originAt name i, v⟩ := by
  simp [recordsAtHand, Function.comp_def]

/-- What a load of records at hand serves and reports, if `verdicts` are what became of them. -/
structure Accounts (contents : Contents α) (fallback : α) (name : String) (values : List Json)
    (verdicts : List (Except DataFault α)) : Prop where
  verdict_each : verdicts.length = values.length
  seen : contents.report.recordsSeen = values.length
  accepted_count : contents.report.accepted = (accepted verdicts).length
  balance : contents.report.accepted + contents.report.rejected = contents.report.recordsSeen
  /-- One fault for each refused record, in the order of the records and with its origin. -/
  faults : contents.report.faults
    = verdicts.zipIdx.filterMap fun (verdict, i) => refusal? (originAt name i) verdict
  usedFallback : contents.report.usedFallback = true ↔ contents.report.accepted = 0
  served : contents.records
    = if contents.report.accepted = 0 then [fallback] else accepted verdicts

/-- What a repository over records at hand serves and reports, from its verdicts. -/
theorem contents_of_records (repository : Repository α) {name : String} {values : List Json}
    (hsource : repository.source = .records name values) :
    let records := recordsAtHand name values
    let verdicts := verdicts repository.judge [] records
    repository.contents = {
      records := if (accepted verdicts).isEmpty then [repository.fallback] else accepted verdicts
      report := {
        source := name
        filesProcessed := 0
        recordsSeen := records.length
        accepted := (accepted verdicts).length
        faults := refusals (records.map (·.origin)) verdicts
        usedFallback := (accepted verdicts).isEmpty } } := by
  simp [Repository.contents, hsource, Source.fetch, Source.name, Contents.ofBatch, sift_eq,
    recordsAtHand, originAt]

/-- What a repository over records at hand says became of each of them. -/
theorem accounts_of_records (repository : Repository α) {name : String} {values : List Json}
    (hsource : repository.source = .records name values) :
    Accounts repository.contents repository.fallback name values
      (verdicts repository.judge [] (recordsAtHand name values)) := by
  rw [contents_of_records repository hsource]
  have hseen : (recordsAtHand name values).length = values.length := by simp [recordsAtHand]
  have hlength : (verdicts repository.judge [] (recordsAtHand name values)).length
      = values.length := by
    rw [length_verdicts, hseen]
  have horigins : (recordsAtHand name values).map (·.origin)
      = values.zipIdx.map fun (_, i) => originAt name i := by
    simp [recordsAtHand, Function.comp_def]
  -- from here on only the number of the verdicts matters, not how they came about
  generalize verdicts repository.judge [] (recordsAtHand name values) = verdicts at hlength ⊢
  generalize hfaults : refusals ((recordsAtHand name values).map (·.origin)) verdicts = faults
  have htotal : (accepted verdicts).length + faults.length = values.length := by
    rw [← hfaults, length_accepted_add_refusals] <;> simp [hseen, hlength]
  have hrejected : faults.countP (fun fault => fault.kind = .invalid) = faults.length := by
    rw [List.countP_eq_length, ← hfaults]
    exact fun fault hfault => decide_eq_true (kind_of_mem_refusals hfault)
  exact {
    verdict_each := hlength
    seen := hseen
    accepted_count := rfl
    balance := by rw [Report.rejected, hrejected, htotal, hseen]
    faults := by rw [← hfaults, horigins, refusals_zipIdx (originAt name) 0 hlength]
    usedFallback := by simp
    served := by simp }

/-! ### Contents of any source -/

/-- What a repository serves has been accepted by its judge, or it is the built-in record. -/
theorem judge_of_mem_contents {repository : Repository α} {a : α}
    (h : a ∈ repository.contents.records) :
    (∃ kept record, repository.judge kept record = .ok a) ∨
      repository.contents.report.usedFallback = true ∧ a = repository.fallback := by
  unfold Repository.contents at h ⊢
  cases hfetch : repository.source.fetch with
  | error fault =>
    rw [hfetch] at h
    exact .inr ⟨rfl, List.mem_singleton.mp h⟩
  | ok batch =>
    simp only [hfetch, Contents.ofBatch, sift_eq, List.nil_append] at h ⊢
    split at h
    · next hempty => exact .inr ⟨hempty, List.mem_singleton.mp h⟩
    · obtain ⟨kept, record, _, hjudge⟩ := exists_judge_of_mem_accepted h
      exact .inl ⟨kept, record, hjudge⟩

/-- A record that the judge accepts whatever stands before it is served. -/
theorem mem_contents_of_judge {repository : Repository α} {batch : Batch}
    (hfetch : repository.source.fetch = .ok batch) {record : RawRecord}
    (hrecord : record ∈ batch.records) {a : α}
    (hjudge : ∀ kept, repository.judge kept record = .ok a) :
    a ∈ repository.contents.records := by
  have haccepted : a ∈ accepted (verdicts repository.judge [] batch.records) := by
    obtain ⟨i, hi⟩ := List.mem_iff_getElem?.mp hrecord
    refine mem_accepted_iff.mpr (List.mem_of_getElem? (i := i) ?_)
    rw [getElem?_verdicts, hi, Option.map_some, hjudge]
  unfold Repository.contents
  simp only [hfetch, Contents.ofBatch, sift_eq, List.nil_append]
  split
  · next hempty => exact absurd haccepted (by simp [List.isEmpty_iff.mp hempty])
  · exact haccepted

/-- The built-in record stands alone. -/
theorem records_of_usedFallback {repository : Repository α}
    (h : repository.contents.report.usedFallback = true) :
    repository.contents.records = [repository.fallback] := by
  unfold Repository.contents at h ⊢
  cases hfetch : repository.source.fetch with
  | error fault => rfl
  | ok batch =>
    simp only [hfetch, Contents.ofBatch] at h ⊢
    rw [if_pos h]

end BilingualLessons.Loading
