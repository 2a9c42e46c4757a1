import TieredStore.Value
import TieredStore.Error

/-!
# Values as rows

A field value as it is kept in a relational table: the kind of the value, its text
and, if the value is numeric, its number.  Kind and text restore the value; the
number only serves comparisons.

Main results:

- Theorem `FieldRow.decode_text`: a text of the text kind is restored as it is.
- Theorem `FieldRow.ofValue?_eq_none_iff`: null is the only value without a row.
-/

namespace TieredStore

/-- How a field value is kept in a table. -/
structure FieldRow where
  kind : String
  text : String
  number : Option Finite64
  deriving DecidableEq

/-- The letter of a value's kind. -/
def Value.kind : Value → String
  | .null => "n"
  | .bool _ => "b"
  | .int _ => "i"
  | .float _ => "f"
  | .text _ => "s"

namespace FieldRow

/-- The row of a value; null has none. -/
def ofValue? (v : Value) : Option FieldRow :=
  v.asText?.map fun text => ⟨v.kind, text, v.asNumber?⟩

/-- The value of a kind and a text, if they denote one. -/
def decode (kind text : String) : Option Value :=
  match kind with
  | "s" => some (.text text)
  | "b" => some (.bool (text == "true"))
  | "i" => (readInt64? text.toList).map .int
  | "f" => (Binary64.read? text.toList).map .float
  | _ => none

/-- The value of a row. -/
def value (row : FieldRow) : Except StoreError Value :=
  match decode row.kind row.text with
  | some v => .ok v
  | none => .error (.storage (.corruptRow row.kind row.text))

/-- Null is the only value without a row. -/
theorem ofValue?_eq_none_iff (v : Value) : ofValue? v = none ↔ v = .null := by
  simp [ofValue?, Value.asText?_eq_none_iff]

/-- A text of the text kind is restored as it is. -/
theorem decode_text (s : String) : decode "s" s = some (.text s) := rfl

/-- Integers are restored from their texts. -/
theorem decode_int (i : Int64) : decode "i" (Value.int i).display = some (.int i) := by
  simp [decode, Value.display, readInt64?_int64Digits]

end FieldRow

end TieredStore
