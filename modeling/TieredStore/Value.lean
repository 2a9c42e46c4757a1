import TieredStore.Binary64.Layout
import TieredStore.SortedMap
import TieredStore.Text.Blank

/-!
# Values

The scalars that records hold.  A value has two views besides itself: a numeric
one, for integers, finite numbers and texts that spell a finite number, and a text
one, for everything but null.  Sorting ranks null before numbers before texts.

Main results:

- Theorem `Value.asText?_eq_none_iff`: null is the only value without text.
- Theorem `Value.asNumber?_null`: null is not numeric.
-/

namespace TieredStore

/-- A scalar held by a field.  Null stands for an absent field. -/
inductive Value where
  | null
  | bool (b : Bool)
  | int (i : Int64)
  | float (x : Binary64)
  | text (s : String)
  deriving DecidableEq

/-- Field values by field name. -/
abbrev Fields := SortedMap String Value

namespace Value

/-! ## Views of a value -/

/-- Whether the value is null. -/
def isNull : Value → Bool
  | .null => true
  | _ => false

/-- The finite number that a text spells between white space. -/
def numberOfText? (s : String) : Option Finite64 :=
  match Binary64.read? (trim s.toList) with
  | some (.finite x) => some x
  | _ => none

/-- The numeric view: integers to the nearest number, finite numbers, and texts
that spell a finite number. -/
def asNumber? : Value → Option Finite64
  | .int i =>
    match Binary64.ofInt i.toInt with
    | .finite x => some x
    | _ => none
  | .float (.finite x) => some x
  | .text s => numberOfText? s
  | _ => none

/-- The text of any value; null has the text `null`. -/
def display : Value → String
  | .null => "null"
  | .bool b => if b then "true" else "false"
  | .int i => String.ofList (int64Digits i)
  | .float x => x.text
  | .text s => s

/-- The text view: every value but null. -/
def asText? : Value → Option String
  | .null => none
  | v => some v.display

/-- The text of a value that is a text. -/
def asString? : Value → Option String
  | .text s => some s
  | _ => none

/-- The integer view: integers, and texts that spell one between white space. -/
def asInt? : Value → Option Int64
  | .int i => some i
  | .text s => readInt64? (trim s.toList)
  | _ => none

/-- Equality of values, in which numbers are equal by value. -/
def equals : Value → Value → Bool
  | .float a, .float b => a.equals b
  | a, b => a == b

/-- Null is the only value without text. -/
theorem asText?_eq_none_iff (v : Value) : v.asText? = none ↔ v = .null := by
  cases v <;> simp [asText?]

/-- Null is the only null value. -/
theorem isNull_eq_true_iff (v : Value) : v.isNull = true ↔ v = .null := by
  cases v <;> simp [isNull]

/-- Null is not numeric. -/
@[simp] theorem asNumber?_null : Value.null.asNumber? = none := rfl

/-! ## Sorting -/

/-- What a value is sorted by. -/
inductive SortKey where
  | absent
  | number (x : Finite64)
  | text (s : String)
  deriving DecidableEq

/-- Absent keys come first, then numbers in their total order, then texts in the
order of their characters. -/
def SortKey.compare : SortKey → SortKey → Ordering
  | .absent, .absent => .eq
  | .absent, _ => .lt
  | _, .absent => .gt
  | .number a, .number b => a.compareTotal b
  | .number _, .text _ => .lt
  | .text _, .number _ => .gt
  | .text a, .text b => Ord.compare a b

/-- The key that a value is sorted by. -/
def sortKey (v : Value) : SortKey :=
  if v.isNull then .absent
  else match v.asNumber? with
    | some x => .number x
    | none => .text v.display

/-- The order in which values are sorted. -/
def compareForSort (a b : Value) : Ordering := a.sortKey.compare b.sortKey

end Value

/-- Fields without those that hold null. -/
def Fields.present (fields : Fields) : Fields := fields.filter fun _ v => !v.isNull

/-- Equality of field maps by the equality of their values. -/
def Fields.equals (a b : Fields) : Bool :=
  a.entries.length == b.entries.length &&
    (a.entries.zip b.entries).all fun e => e.1.1 == e.2.1 && e.1.2.equals e.2.2

end TieredStore
