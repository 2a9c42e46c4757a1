import TieredStore.Json.Decode
import TieredStore.Query.Basic

/-!
# Values and queries in JSON

The JSON forms of values, field maps, OIDs, operators, predicates, orders and
queries.  A value is written as the JSON value of its kind; a predicate is an
object with one member that names the kind of its root.

Main results:

- Theorem `Value.ofNumber_integer`: an integer of 64 signed bits stays an
  integer.
-/

namespace TieredStore

open Json

/-! ## Values -/

/-- The JSON form of a value. -/
def Value.toJson : Value → Json
  | .null => .null
  | .bool b => .bool b
  | .int i => .integer i.toInt
  | .float x => .float x
  | .text s => .string s

/-- The value of a number: an integer if it fits 64 signed bits. -/
def Value.ofNumber : JsonNumber → Value
  | .integer i =>
    match int64? i with
    | some word => .int word
    | none => .float (.ofInt i)
  | .float x => .float x

/-- An integer of 64 signed bits stays an integer. -/
theorem Value.ofNumber_integer (i : Int64) : Value.ofNumber (.integer i.toInt) = .int i := by
  simp [Value.ofNumber]

/-- Decodes a value. -/
def Value.ofSource? : Source → Option Value
  | .null => some .null
  | .bool b => some (.bool b)
  | .number literal => literal.evaluate.map Value.ofNumber
  | .string pieces => (Source.pieceText? pieces).map .text
  | .array _ => none
  | .object _ => none

/-- The JSON form of a field map. -/
def Fields.toJson (fields : Fields) : Json :=
  .object (fields.entries.map fun e => (e.1, e.2.toJson))

/-- Decodes a field map; the last member of a name counts. -/
def Fields.ofSource? : Nat → Source → Option Fields
  | _ + 1, .object members => do
    let members ← Source.namedMembers? members
    let entries ← members.mapM fun m => (Value.ofSource? m.2).map fun v => (m.1, v)
    some (SortedMap.ofList entries)
  | _, _ => none

/-! ## OIDs -/

/-- The JSON form of an OID. -/
def Oid.toJson (oid : Oid) : Json := .string oid.text

/-- Decodes an OID. -/
def Oid.ofSource? (s : Source) : Option Oid := s.text?.bind Oid.parse?

/-! ## Predicates -/

/-- The JSON form of an operator. -/
def Operator.toJson (op : Operator) : Json := .string op.word

/-- Decodes an operator. -/
def Operator.ofSource? : Nat → Source → Option Operator := Source.choice? Operator.ofWord?

mutual

/-- The JSON form of a predicate. -/
def Predicate.toJson : Predicate → Json
  | .compare field op argument =>
    .object [("compare", .object [("field", .string field), ("op", op.toJson),
      ("arg", argument.toJson)])]
  | .all parts => .object [("and", .array (Predicate.toJsons parts))]
  | .any parts => .object [("or", .array (Predicate.toJsons parts))]

/-- The JSON forms of the parts of a predicate. -/
def Predicate.toJsons : List Predicate → List Json
  | [] => []
  | p :: rest => p.toJson :: Predicate.toJsons rest

end

/-- Decodes the body of a comparison. -/
def Predicate.comparisonOfSource? : Nat → Source → Option Predicate
  | 0, _ => none
  | levels + 1, s => do
    let members ← s.members? ["field", "op", "arg"]
    let field ← members.required? 0 Source.text?
    let op ← members.required? 1 (Operator.ofSource? levels)
    let argument ← members.required? 2 Value.ofSource?
    some (.compare field op argument)

/-- Decodes a predicate: an object with one member. -/
def Predicate.ofSource? : Nat → Source → Option Predicate
  | levels + 1, .object [(key, body)] =>
    match Source.pieceText? key with
    | some "compare" => Predicate.comparisonOfSource? levels body
    | some "and" =>
      match levels, body with
      | inner + 1, .array parts => (parts.mapM (Predicate.ofSource? inner)).map .all
      | _, _ => none
    | some "or" =>
      match levels, body with
      | inner + 1, .array parts => (parts.mapM (Predicate.ofSource? inner)).map .any
      | _, _ => none
    | _ => none
  | _, _ => none

/-! ## Queries -/

/-- The word of a direction. -/
def Direction.word : Direction → String
  | .ascending => "asc"
  | .descending => "desc"

/-- The direction of a word. -/
def Direction.ofWord? (w : String) : Option Direction :=
  [Direction.ascending, .descending].find? fun d => d.word == w

/-- The JSON form of a sort order. -/
def OrderBy.toJson (order : OrderBy) : Json :=
  .object [("field", .string order.field), ("direction", .string order.direction.word)]

/-- Decodes a sort order. -/
def OrderBy.ofSource? : Nat → Source → Option OrderBy
  | 0, _ => none
  | levels + 1, s => do
    let members ← s.members? ["field", "direction"]
    let field ← members.required? 0 Source.text?
    let direction ← members.required? 1 (Source.choice? Direction.ofWord? levels)
    some ⟨field, direction⟩

/-- The JSON form of what may be missing. -/
def Json.ofOption {α : Type} (form : α → Json) : Option α → Json
  | none => .null
  | some a => form a

/-- The JSON form of an unsigned word. -/
def Json.ofWord (n : UInt64) : Json := .integer n.toNat

/-- The JSON form of a query. -/
def Query.toJson (q : Query) : Json :=
  .object [("predicate", Json.ofOption Predicate.toJson q.predicate),
    ("order", Json.ofOption OrderBy.toJson q.order), ("offset", Json.ofWord q.offset),
    ("limit", Json.ofOption Json.ofWord q.limit)]

/-- Decodes a query. -/
def Query.ofSource? : Nat → Source → Option Query
  | 0, _ => none
  | levels + 1, s => do
    let members ← s.members? ["predicate", "order", "offset", "limit"]
    let predicate ← members.optional? 0 (Predicate.ofSource? levels)
    let order ← members.optional? 1 (OrderBy.ofSource? levels)
    let offset ← members.required? 2 Source.word?
    let limit ← members.optional? 3 Source.word?
    some { predicate := predicate, order := order, offset := offset, limit := limit }

end TieredStore
