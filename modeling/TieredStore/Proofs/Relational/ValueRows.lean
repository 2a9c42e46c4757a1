import TieredStore.Proofs.Binary64.BitPatterns
import TieredStore.Proofs.Comparison.Numerals
import TieredStore.Proofs.Relational.Representation

/-!
# What rows keep of values

A row has two accounts of a value.  Kind and text are what the value is restored from, and they keep
all of it: a number comes back with the bits that it had, and a text that reads like a number, or
like a truth value, comes back as a text.  The number is what conditions compare.  It is there for
the numeric values and for no others, and it is the number that the text of the row spells, so the
two accounts never disagree.

Main results:

- Theorem `Value.isSome_asNumber?_iff`: the values that have a number.
- Theorem `FieldRow.exists_keeps_iff`: the values that rows keep are all but null.
-/

namespace TieredStore

/-! ## Numeric values -/

/-- Whether a value is numeric: integers are, and finite numbers, and texts that spell a finite
number between white space. -/
def Value.IsNumeric : Value → Prop
  | .int _ => True
  | .float x => ∃ number, x = .finite number
  | .text s => ∃ number, Binary64.read? (trim s.toList) = some (.finite number)
  | .bool _ => False
  | .null => False

/-- Numeric texts spell a finite number. -/
theorem Value.isSome_numberOfText?_iff (s : String) : (numberOfText? s).isSome = true ↔
    ∃ number, Binary64.read? (trim s.toList) = some (.finite number) := by
  unfold numberOfText?
  split
  · simp [*]
  · rename_i hnone
    exact iff_of_false nofun fun ⟨number, hnumber⟩ => hnone number hnumber

/-- A value has a number if it is numeric. -/
theorem Value.isSome_asNumber?_iff (v : Value) : v.asNumber?.isSome = true ↔ v.IsNumeric := by
  cases v with
  | null => exact iff_of_false nofun id
  | bool b => exact iff_of_false nofun id
  | int i =>
    obtain ⟨x, hx⟩ := Binary64.exists_ofInt_eq_finite i
    rw [asNumber?_int, hx]
    exact iff_of_true rfl trivial
  | float x =>
    cases x with
    | nan => exact iff_of_false nofun nofun
    | infinite negative => exact iff_of_false nofun nofun
    | finite x => exact iff_of_true rfl ⟨x, rfl⟩
  | text s => exact isSome_numberOfText?_iff s

/-! ## Rows of values -/

namespace FieldRow

/-- What a row keeps of a value. -/
structure Keeps (row : FieldRow) (v : Value) : Prop where
  /-- Kind and text restore the value. -/
  value_eq : row.value = .ok v
  /-- A number is restored with its bits, and what is no number as such. -/
  bits_eq : ∀ pattern, v = .float (.ofBits pattern) → ∃ x, row.value = .ok (.float x) ∧
    if Binary64.ofBits pattern = .nan then x = .nan else x.bits = pattern
  /-- The number is that of the value. -/
  number_eq : row.number = v.asNumber?
  /-- There is one if the value is numeric. -/
  isSome_number_iff : row.number.isSome = true ↔ v.IsNumeric
  /-- It can be told from the text alone. -/
  number_eq_numberOfText? : row.number = Value.numberOfText? row.text

/-- A value that is not null is kept by its row. -/
theorem keeps_of_not_null {v : Value} (h : v.isNull = false) :
    Keeps ⟨v.kind, v.display, v.asNumber?⟩ v where
  value_eq := value_of_ofValue? (ofValue?_of_not_null h)
  bits_eq := by
    rintro pattern rfl
    refine ⟨_, value_of_ofValue? (ofValue?_of_not_null h), ?_⟩
    split
    · assumption
    · exact Binary64.bits_ofBits ‹_›
  number_eq := rfl
  isSome_number_iff := v.isSome_asNumber?_iff
  number_eq_numberOfText? := Value.asNumber?_eq_numberOfText?_display h

/-- The values that rows keep are all but null. -/
theorem exists_keeps_iff (v : Value) :
    (∃ row, ofValue? v = some row ∧ row.Keeps v) ↔ v ≠ .null := by
  constructor
  · rintro ⟨row, hrow, -⟩ rfl
    cases hrow
  · intro hne
    have hnull : v.isNull = false := by
      rw [← Bool.not_eq_true, v.isNull_eq_true_iff]
      exact hne
    exact ⟨_, ofValue?_of_not_null hnull, keeps_of_not_null hnull⟩

/-- Minus zero keeps its sign in the text and in the number. -/
example : ofValue? (.float (.ofBits 0x8000000000000000)) =
    some ⟨"f", "-0", some ⟨true, ⟨0, by decide⟩⟩⟩ := by
  decide +kernel

end FieldRow

end TieredStore
