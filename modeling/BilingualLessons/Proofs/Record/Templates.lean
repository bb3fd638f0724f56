import BilingualLessons.LessonTemplate.Basic
import BilingualLessons.Proofs.Record.Names

namespace BilingualLessons

open Record

/-!
# Templates read back

A variable or a template leaves out of its record what it does not have.  The one thing that gets
lost on the way is a default that is `null`: it is written, and read as none.  No record gives such
a default.

* `Variable.decode_encode`, `LessonTemplate.decode_encode` — without such a default a variable, and
  a template with its variables, is read back.
* `hasRecord_of_decode` — none is ever decoded.
-/

namespace Variable

/-- The default, if there is one, is not `null`. -/
def HasRecord (var : Variable) : Prop := var.default? ≠ some .null

theorem decode_encode {var : Variable} (h : var.HasRecord) : decode var.encode = .ok var := by
  obtain ⟨name, kind, description, required, default⟩ := var
  have htext : ∀ s, nullable text (.string s) = .ok (some s) := fun _ => rfl
  have hdefault : ∀ v, default = some v → nullable anything v = .ok (some v) := by
    rintro v rfl
    exact nullable_of_ne_null fun hnull => h (congrArg some hnull)
  -- the record has a field for the description and the default only where there are some
  have hholds : ∀ fields, encode ⟨name, kind, description, required, default⟩ = .object fields →
      shape.Holds fields := by
    intro fields hfields
    obtain rfl := Json.object.inj hfields
    refine ⟨?_, ?_, by simp [shape]⟩
    · cases description <;> cases default <;> simp [shape, htext, hdefault]
    · cases description <;> cases default <;> simp
  have hread : shape.read (encode ⟨name, kind, description, required, default⟩) = _ :=
    shape.read_of_holds (by decide) (hholds _ rfl)
  cases description <;> cases default <;> simp [decode, hread, htext, hdefault]

theorem hasRecord_of_decode : Decoder.Gives decode HasRecord := by
  intro v var h
  simp only [decode, bind_eq_ok_iff] at h
  obtain ⟨found, -, name, -, kind, -, description, -, required, -, default, hdefault, h⟩ := h
  cases h
  have hnone : (none : Option Json) ≠ some .null := nofun
  exact (nullable_anything_gives.defaulted hnone hdefault :)

end Variable

namespace LessonTemplate

/-- Every declared variable has a record. -/
def HasRecord (template : LessonTemplate) : Prop := ∀ var ∈ template.declared, var.HasRecord

theorem decode_encode {template : LessonTemplate} (h : template.HasRecord) :
    decode template.encode = .ok template := by
  obtain ⟨id, name, description, kind, lowest, highest, body, declared, exampleData⟩ := template
  have hdeclared : list Variable.decode (.array (declared.map Variable.encode)) = .ok declared :=
    list_encode fun var hvar => Variable.decode_encode (h var hvar)
  have hrange : pair Level.decode (.array [lowest.encode, highest.encode])
      = .ok (lowest, highest) := by
    simp [pair]
  have hexample : ∀ fields, nullable map (.object fields) = .ok (some fields) := fun _ => rfl
  -- the record has a field for example data only where there is some
  have hholds : ∀ fields,
      encode ⟨id, name, description, kind, lowest, highest, body, declared, exampleData⟩
        = .object fields → shape.Holds fields := by
    intro fields hfields
    obtain rfl := Json.object.inj hfields
    refine ⟨?_, ?_, by simp [shape]⟩
    · cases exampleData <;> simp [shape, hdeclared, hrange, hexample]
    · cases exampleData <;> simp
  have hread : shape.read
      (encode ⟨id, name, description, kind, lowest, highest, body, declared, exampleData⟩) = _ :=
    shape.read_of_holds (by decide) (hholds _ rfl)
  cases exampleData <;> simp [decode, hread, hdeclared, hrange, hexample]

theorem hasRecord_of_decode : Decoder.Gives decode HasRecord := by
  intro v template h
  simp only [decode, bind_eq_ok_iff] at h
  obtain ⟨found, -, id, -, name, -, description, -, kind, -, ⟨lowest, highest⟩, -, body, -,
    declared, hdeclared, exampleData, -, h⟩ := h
  cases h
  exact (Variable.hasRecord_of_decode.list.required hdeclared :)

end LessonTemplate

end BilingualLessons
