import BilingualLessons.Lesson.Request
import BilingualLessons.LessonTemplate.Variable
import BilingualLessons.Proofs.Record.Reading

namespace BilingualLessons

/-!
# Names read back

The name by which a record shows a value of an enumeration leads back to the value, also where
records may use a second name for it.

* `decode_encode` — for each enumeration.
-/

@[simp] theorem Level.decode_encode (level : Level) : Level.decode level.encode = .ok level := by
  cases level <;> rfl

@[simp] theorem LessonKind.decode_encode (kind : LessonKind) :
    LessonKind.decode kind.encode = .ok kind := by
  cases kind <;> rfl

@[simp] theorem PartOfSpeech.decode_encode (part : PartOfSpeech) :
    PartOfSpeech.decode part.encode = .ok part := by
  cases part <;> rfl

@[simp] theorem Direction.decode_encode (direction : Direction) :
    Direction.decode direction.encode = .ok direction := by
  cases direction <;> rfl

@[simp] theorem VariableKind.decode_encode (kind : VariableKind) :
    VariableKind.decode kind.encode = .ok kind := by
  cases kind <;> rfl

@[simp] theorem Lesson.Personalization.decode_encode (degree : Personalization) :
    Personalization.decode degree.encode = .ok degree := by
  cases degree <;> rfl

/-! ### A name is never `null` -/

@[simp] theorem Level.encode_ne_null (level : Level) : level.encode ≠ .null := nofun

@[simp] theorem LessonKind.encode_ne_null (kind : LessonKind) : kind.encode ≠ .null := nofun

@[simp] theorem PartOfSpeech.encode_ne_null (part : PartOfSpeech) : part.encode ≠ .null := nofun

@[simp] theorem Lesson.Personalization.encode_ne_null (degree : Personalization) :
    degree.encode ≠ .null := nofun

end BilingualLessons
