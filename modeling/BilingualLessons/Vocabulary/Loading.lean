import BilingualLessons.Loading.Source
import BilingualLessons.Vocabulary.Store

namespace BilingualLessons.Vocabulary

/-!
# Vocabulary files

* `StoreFault` — why a file gives no vocabulary.
* `Store.load` — the vocabulary of a file.
-/

/-- Why a file gives no vocabulary. -/
inductive StoreFault where
  | unavailable (fault : Loading.Unavailable)
  /-- The content of the file is not JSON. -/
  | unparsable (path : String) (reason : Json.ReadReason) (line : Nat)
  | undecodable (misfit : Record.Misfit)
deriving DecidableEq, Repr

/-- The words for a value that holds no vocabulary. -/
def misfitMessage (misfit : Record.Misfit) : String :=
  s!"invalid vocabulary data: {misfit.message}"

/-- The words for a fault. -/
def StoreFault.message : StoreFault → String
  | .unavailable fault => fault.message
  | .unparsable path reason line => s!"{path}: {reason.message} at line {line}"
  | .undecodable misfit => misfitMessage misfit

/-- The vocabulary of a file. -/
def Store.load (volume : Loading.Volume) (path : String) : Except StoreFault Store :=
  match volume.readText? path with
  | none => .error (.unavailable ⟨volume.display path, .unreadable⟩)
  | some text =>
    let source := text.toList
    match Json.read source with
    | .error fault => .error (.unparsable (volume.display path) fault.reason (fault.line source))
    | .ok v => (Store.decode v).mapError .undecodable

end BilingualLessons.Vocabulary
