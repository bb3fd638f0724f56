import BilingualLessons.Loading.Source

namespace BilingualLessons.Loading

/-!
# Repositories

Records of one type, loaded from a source when they are first asked for.  Invalid records are left
out and reported; where nothing valid is left, a built-in record takes their place.

* `sift` — the records that a judge accepts and the faults of the others.
* `Contents` — the records that a repository serves and the report of its load.
* `Repository` — a source, a judge and a built-in record.
-/

/-- Accepts or refuses a raw record, given the records accepted before it. -/
abbrev Judge (α : Type) := List α → RawRecord → Except DataFault α

/-- The records that the judge accepts, behind those `kept` already, and a fault for each of the
    others, in order. -/
def sift (judge : Judge α) (kept : List α) : List RawRecord → List α × List LoadFault
  | [] => (kept, [])
  | record :: rest =>
    match judge kept record with
    | .ok a => sift judge (kept ++ [a]) rest
    | .error fault =>
      let (kept, faults) := sift judge kept rest
      (kept, ⟨record.origin, .invalid fault⟩ :: faults)

/-- The records that a repository serves and the report of its load. -/
structure Contents (α : Type) where
  records : List α
  report : Report
deriving DecidableEq, Repr

/-- What comes of a batch: the accepted records, or the built-in one if there is none. -/
def Contents.ofBatch (judge : Judge α) (fallback : α) (source : String) (batch : Batch) :
    Contents α :=
  let (accepted, faults) := sift judge [] batch.records
  { records := if accepted.isEmpty then [fallback] else accepted
    report := {
      source
      filesProcessed := batch.filesProcessed
      recordsSeen := batch.records.length
      accepted := accepted.length
      faults := batch.faults ++ faults
      usedFallback := accepted.isEmpty } }

/-- What comes of a source that is unavailable. -/
def Contents.ofUnavailable (fallback : α) (source : String) (fault : Unavailable) : Contents α :=
  { records := [fallback]
    report := {
      source
      filesProcessed := 0
      recordsSeen := 0
      accepted := 0
      faults := [⟨source, .unavailable fault⟩]
      usedFallback := true } }

/-- Records of one type, loaded when they are first asked for. -/
structure Repository (α : Type) where
  source : Source
  judge : Judge α
  fallback : α
  /-- Whether the records have been asked for. -/
  loaded : Bool := false

namespace Repository

/-- What the repository serves. -/
def contents (repository : Repository α) : Contents α :=
  match repository.source.fetch with
  | .ok batch =>
    .ofBatch repository.judge repository.fallback repository.source.name batch
  | .error fault => .ofUnavailable repository.fallback repository.source.name fault

/-- Loads the records. -/
def load (repository : Repository α) : Repository α := { repository with loaded := true }

/-- Asks something about the contents, which loads them. -/
def ask (repository : Repository α) (question : Contents α → β) : β × Repository α :=
  (question repository.contents, repository.load)

end Repository

end BilingualLessons.Loading
