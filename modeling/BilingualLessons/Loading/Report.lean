import BilingualLessons.DataFault
import BilingualLessons.Json.Reader

namespace BilingualLessons.Loading

/-!
# Records and load reports

* `RawRecord` — a value that has not been decoded, and where it comes from.
* `LoadFault` — a file or a record that did not load.
* `Report` — what a load found, kept and refused.
-/

/-- A value that has not been decoded, and where it comes from. -/
structure RawRecord where
  origin : String
  value : Json
deriving DecidableEq, Repr

/-- The text under `id`, if the record has one. -/
def RawRecord.id? (record : RawRecord) : Option String :=
  (record.value.field? "id").bind Json.asString?

/-! ### Faults -/

/-- Why a whole source gives nothing. -/
inductive UnavailableReason where
  | missingFile
  | missingDirectory
  | unreadable
deriving DecidableEq, Repr

/-- A source that gives nothing at all. -/
structure Unavailable where
  source : String
  reason : UnavailableReason
deriving DecidableEq, Repr

/-- The words for an unavailable source. -/
def Unavailable.message (u : Unavailable) : String :=
  let reason := match u.reason with
    | .missingFile => "file does not exist"
    | .missingDirectory => "directory does not exist"
    | .unreadable => "file cannot be read as text"
  s!"data source '{u.source}' unavailable: {reason}"

/-- The kinds of load fault. -/
inductive LoadFaultKind where
  | unreadable
  | unparsable
  | invalid
  | unavailable
deriving DecidableEq, Repr

namespace LoadFaultKind

/-- The names of the kinds in a report. -/
def names : List (String × LoadFaultKind) :=
  [("io_error", .unreadable), ("parse_error", .unparsable), ("validation_error", .invalid),
    ("source_unavailable", .unavailable)]

/-- The name of a kind. -/
def name : LoadFaultKind → String
  | .unreadable => "io_error"
  | .unparsable => "parse_error"
  | .invalid => "validation_error"
  | .unavailable => "source_unavailable"

/-- The kind of exactly this name. -/
def decode : Record.Decoder LoadFaultKind := Record.variant names

/-- The name as a value. -/
def encode (kind : LoadFaultKind) : Json := .string kind.name

end LoadFaultKind

/-- Why a file or a record did not load. -/
inductive LoadCause where
  /-- The content of the file is not text. -/
  | unreadable
  /-- The content of the file is not JSON. -/
  | unparsable (reason : Json.ReadReason) (line : Nat)
  | invalid (fault : DataFault)
  | unavailable (fault : Unavailable)
deriving DecidableEq, Repr

/-- A file or a record that did not load. -/
structure LoadFault where
  origin : String
  cause : LoadCause
deriving DecidableEq, Repr

namespace LoadFault

/-- The kind of a fault. -/
def kind (fault : LoadFault) : LoadFaultKind :=
  match fault.cause with
  | .unreadable => .unreadable
  | .unparsable _ _ => .unparsable
  | .invalid _ => .invalid
  | .unavailable _ => .unavailable

/-- The words for a fault. -/
def message (fault : LoadFault) : String :=
  match fault.cause with
  | .unreadable => "stream did not contain valid UTF-8"
  | .unparsable reason line => s!"{reason.message} at line {line}"
  | .invalid fault => fault.message
  | .unavailable fault => fault.message

/-- The line in a file that is not JSON. -/
def line? (fault : LoadFault) : Option Nat :=
  match fault.cause with
  | .unparsable _ line => some line
  | _ => none

end LoadFault

/-! ### Reports -/

/-- What a load found, kept and refused. -/
structure Report where
  source : String
  filesProcessed : Nat
  recordsSeen : Nat
  accepted : Nat
  faults : List LoadFault
  usedFallback : Bool
deriving DecidableEq, Repr

namespace Report

/-- Whether everything was kept. -/
def isSuccess (report : Report) : Bool := report.faults.isEmpty && !report.usedFallback

/-- The number of records that were refused. -/
def rejected (report : Report) : Nat := report.faults.countP (·.kind = .invalid)

/-- The number of faults. -/
def faultCount (report : Report) : Nat := report.faults.length

end Report

end BilingualLessons.Loading
