import BilingualLessons.Template.Scalar

namespace BilingualLessons

/-!
# The characters of a number

A number is written with digits, a point and a minus sign, whether it is whole or not and however
large it is.

* `isNumeric` — these characters.
* `isNumeric_of_mem_numberText` — a number is written with no others.
-/

namespace Decimal

/-- A digit, a point or a minus sign. -/
def isNumeric (c : Char) : Bool :=
  c.isDigit || c = '.' || c = '-'

theorem isNumeric_of_isDigit {c : Char} (h : c.isDigit = true) : isNumeric c = true := by
  simp [isNumeric, h]

theorem isNumeric_of_mem_natText {n : Nat} {c : Char} (h : c ∈ (natText n).toList) :
    isNumeric c = true := by
  rw [natText, Nat.toString_eq_repr, Nat.toList_repr] at h
  exact isNumeric_of_isDigit (Nat.isDigit_of_mem_toDigits (by decide) (by decide) h)

theorem isNumeric_of_mem_zeros {n : Nat} {c : Char} (h : c ∈ (zeros n).toList) :
    isNumeric c = true := by
  rw [zeros, String.toList_ofList] at h
  obtain rfl := (List.mem_replicate.mp h).2
  decide

/-- A decimal without an exponent. -/
theorem isNumeric_of_mem_positional {d : Digits} {c : Char} (h : c ∈ d.positional.toList) :
    isNumeric c = true := by
  unfold Digits.positional at h
  -- zeros behind the digits, a point among them, or zeros between the point and them
  split at h
  · rw [String.toList_append, List.mem_append] at h
    rcases h with hdigits | hzeros
    · exact isNumeric_of_mem_natText hdigits
    · split at hzeros
      · exact absurd hzeros (by simp)
      · exact isNumeric_of_mem_zeros hzeros
  · simp only at h
    split at h
    · simp only [String.toList_append, String.toList_ofList, List.mem_append] at h
      rcases h with (hfront | hpoint) | hbehind
      · exact isNumeric_of_mem_natText (List.mem_of_mem_take hfront)
      · obtain rfl : c = '.' := by simpa using hpoint
        decide
      · exact isNumeric_of_mem_natText (List.mem_of_mem_drop hbehind)
    · simp only [String.toList_append, String.toList_ofList, List.mem_append] at h
      rcases h with (hpoint | hzeros) | hdigits
      · obtain rfl | rfl : c = '0' ∨ c = '.' := by simpa using hpoint
        · decide
        · decide
      · exact isNumeric_of_mem_zeros hzeros
      · exact isNumeric_of_mem_natText hdigits

/-- A double without an exponent. -/
theorem isNumeric_of_mem_plainText {x : Binary64} {c : Char} (h : c ∈ (plainText x).toList) :
    isNumeric c = true := by
  unfold plainText at h
  split at h
  · obtain rfl : c = '0' := by simpa using h
    decide
  · rw [String.toList_append, List.mem_append] at h
    rcases h with hsign | hdigits
    · split at hsign
      · obtain rfl : c = '-' := by simpa using hsign
        decide
      · exact absurd hsign (by simp)
    · exact isNumeric_of_mem_positional hdigits

end Decimal

namespace Template

/-- **Numbers** are written with digits, a point and a minus sign. -/
theorem isNumeric_of_mem_numberText {n : Number} {c : Char} (h : c ∈ (numberText n).toList) :
    Decimal.isNumeric c = true := by
  cases n with
  | whole i =>
    cases i with
    | ofNat n => exact Decimal.isNumeric_of_mem_natText h
    | negSucc n =>
      have htext : numberText (.whole (.negSucc n)) = "-" ++ Decimal.natText (n + 1) := rfl
      rw [htext, String.toList_append, List.mem_append] at h
      rcases h with hsign | hdigits
      · obtain rfl : c = '-' := by simpa using hsign
        decide
      · exact Decimal.isNumeric_of_mem_natText hdigits
  | real x => exact Decimal.isNumeric_of_mem_plainText h

end Template

end BilingualLessons
