import TieredStore.Json.Basic
import TieredStore.Json.Source
import TieredStore.SortedMap

/-!
# Decoding JSON texts

Decoders turn what is written into values of a type.  Each of them is told how
many levels of sequences and objects may still be opened.  A structure is written
as an object of its fields, in any order and among members that nobody asks for,
or as the sequence of its fields.

Main results:

- Theorem `Json.ofSource?_string`: a string denotes the text of its pieces.
-/

namespace TieredStore

namespace Json

/-- How many levels of sequences and objects a text may open. -/
def nestingLimit : Nat := 127

namespace Source

/-! ## Plain values -/

/-- The number that is written. -/
def number? : Source → Option JsonNumber
  | .number literal => literal.evaluate
  | _ => none

/-- The integer that is written, if it lies in a range. -/
def integerWithin? (low high : Int) (s : Source) : Option Int :=
  match s.number? with
  | some (.integer i) => if low ≤ i && i ≤ high then some i else none
  | _ => none

/-- An unsigned 64-bit word. -/
def word? (s : Source) : Option UInt64 :=
  (s.integerWithin? 0 0xFFFFFFFFFFFFFFFF).map fun i => UInt64.ofNat i.toNat

/-- A value that may be written as `null`. -/
def nullable? {α : Type} (decode : Source → Option α) : Source → Option (Option α)
  | .null => some none
  | s => (decode s).map some

/-- A sequence of values; its elements are one level further down. -/
def list? {α : Type} (decode : Nat → Source → Option α) : Nat → Source → Option (List α)
  | levels + 1, .array elements => elements.mapM (decode levels)
  | _, _ => none

/-! ## Structures -/

/-- The fields of a structure as written. -/
structure Members where
  /-- Whether they are written as a sequence. -/
  positional : Bool
  /-- What is written for each field, in the order of the fields. -/
  slots : List (Option Source)

/-- The members of an object under one name. -/
def valuesOf (name : String) (members : List (String × Source)) : List Source :=
  members.filterMap fun m => if m.1 = name then some m.2 else none

/-- The slot of a field: absent or written once. -/
def slotOf? (members : List (String × Source)) (name : String) : Option (Option Source) :=
  match valuesOf name members with
  | [] => some none
  | [value] => some (some value)
  | _ => none

/-- The members of an object under their texts. -/
def namedMembers? (members : List (List Piece × Source)) : Option (List (String × Source)) :=
  members.mapM fun m => (pieceText? m.1).map fun name => (name, m.2)

/-- The fields of a structure with the given field names. -/
def members? (names : List String) : Source → Option Members
  | .object members => do
    let members ← namedMembers? members
    let slots ← names.mapM (slotOf? members)
    some ⟨false, slots⟩
  | .array elements =>
    if elements.length ≤ names.length then
      some ⟨true, elements.map some ++ List.replicate (names.length - elements.length) none⟩
    else none
  | _ => none

/-- A field that has to be written. -/
def Members.required? {α : Type} (m : Members) (index : Nat) (decode : Source → Option α) :
    Option α :=
  match m.slots[index]? with
  | some (some s) => decode s
  | _ => none

/-- A field that may be `null`, and in an object also missing. -/
def Members.optional? {α : Type} (m : Members) (index : Nat) (decode : Source → Option α) :
    Option (Option α) :=
  match m.slots[index]? with
  | some (some s) => nullable? decode s
  | _ => if m.positional then none else some none

/-- A field with a value for the case that it is missing. -/
def Members.defaulted? {α : Type} (m : Members) (index : Nat) (default : α)
    (decode : Source → Option α) : Option α :=
  match m.slots[index]? with
  | some (some s) => decode s
  | _ => some default

/-! ## Words -/

/-- A word out of a fixed choice: a string, or an object whose only member has the
word as its key and the value `null`. -/
def choice? {α : Type} (ofWord? : String → Option α) : Nat → Source → Option α
  | _, .string pieces => (pieceText? pieces).bind ofWord?
  | _ + 1, .object [(key, .null)] => (pieceText? key).bind ofWord?
  | _, _ => none

end Source

/-! ## Any value -/

mutual

/-- The value that is written, numbers evaluated and members sorted by key, the
last one of a key counting. -/
def ofSource? : Nat → Source → Option Json
  | _, .null => some .null
  | _, .bool b => some (.bool b)
  | _, .number literal =>
    match literal.evaluate with
    | some (.integer i) => some (.integer i)
    | some (.float x) => some (.float x)
    | none => none
  | _, .string pieces => (Source.pieceText? pieces).map .string
  | levels + 1, .array elements => (ofSources? levels elements).map .array
  | levels + 1, .object members =>
    (ofMembers? levels members).map fun members => .object (SortedMap.ofList members).entries
  | 0, .array _ => none
  | 0, .object _ => none

/-- The elements of a sequence. -/
def ofSources? : Nat → List Source → Option (List Json)
  | _, [] => some []
  | levels, s :: rest =>
    match ofSource? levels s, ofSources? levels rest with
    | some value, some others => some (value :: others)
    | _, _ => none

/-- The members of an object. -/
def ofMembers? : Nat → List (List Piece × Source) → Option (List (String × Json))
  | _, [] => some []
  | levels, (key, s) :: rest =>
    match Source.pieceText? key, ofSource? levels s, ofMembers? levels rest with
    | some key, some value, some others => some ((key, value) :: others)
    | _, _, _ => none

end

/-- A string denotes the text of its pieces. -/
theorem ofSource?_string (levels : Nat) (pieces : List Piece) :
    ofSource? levels (.string pieces) = (Source.pieceText? pieces).map .string := by
  cases levels <;> simp [ofSource?]

end Json

end TieredStore
