import TieredStore.Error

/-!
# Field names and keys

A field name is a letter or underscore followed by letters, digits and
underscores, all of the ASCII range.  A key is any text but the empty one.

Main results:

- Theorem `checkFieldName_eq_ok_iff`: the check accepts exactly the field names.
-/

namespace TieredStore

/-- Whether a text is a field name. -/
def isFieldName (name : String) : Bool :=
  match name.toList with
  | [] => false
  | first :: rest => (first.isAlpha || first == '_') && rest.all Token.isNameChar

/-- Rejects a text that is no field name. -/
def checkFieldName (name : String) : Except StoreError Unit :=
  if isFieldName name then .ok () else .error (.invalidField name)

/-- The check accepts exactly the field names. -/
theorem checkFieldName_eq_ok_iff (name : String) :
    checkFieldName name = .ok () ↔ isFieldName name = true := by
  unfold checkFieldName
  split <;> simp_all

/-- Rejects the empty key. -/
def checkKey (key : String) : Except StoreError Unit :=
  if key.isEmpty then .error .invalidKey else .ok ()

end TieredStore
