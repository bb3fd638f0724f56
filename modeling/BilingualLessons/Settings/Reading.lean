import BilingualLessons.Settings.Basic
import BilingualLessons.Toml.Document

namespace BilingualLessons

/-!
# Reading settings

* `Settings.ofDocument` — the settings of a document.
* `SettingsOrigin`, `Settings.ofFile` — the settings of a file, or the defaults, and which of them.
-/

/-- Where settings come from. -/
inductive SettingsOrigin where
  | file
  /-- There is no file, or no text in it. -/
  | missing
  /-- The file is no document, or its values do not fit. -/
  | invalid
deriving DecidableEq, Repr

/-- The name of an origin. -/
def SettingsOrigin.name : SettingsOrigin → String
  | .file => "file"
  | .missing => "missing"
  | .invalid => "invalid"

namespace Settings

/-- The groups of settings. -/
def groups : List (String × Record.Shape) :=
  [("data", DataSettings.shape), ("generation", GenerationSettings.shape),
    ("render", RenderSettings.shape), ("logging", LoggingSettings.shape)]

/-- A group that is written as an array counts up to the number of its settings. -/
def cropGroup (name : String) (v : Json) : Json :=
  match groups.lookup name, v with
  | some shape, .array items => .array (items.take shape.slots.length)
  | _, v => v

/-- The settings of a document; none if the text is not one or its values do not fit. -/
def ofDocument (source : String) : Option Settings := do
  let fields ← Toml.read source
  (decode (.object (fields.map fun (name, v) => (name, cropGroup name v)))).toOption

/-- The settings of a file, if there is one: the defaults unless they can be read. -/
def ofFile (content? : Option ByteArray) : SettingsOrigin × Settings :=
  match content?.bind String.fromUTF8? with
  | none => (.missing, {})
  | some source =>
    match ofDocument source with
    | some settings => (.file, settings)
    | none => (.invalid, {})

end Settings

end BilingualLessons
