import TieredStore.Context.Basic

/-!
# Descriptions

Texts that show what values, relationships, stacks, memberships and contexts are
made of, for people who look for a mistake.
-/

namespace TieredStore

/-- Named parts between braces. -/
def describeParts (name : String) (parts : List (String × String)) : String :=
  name ++ " \x7b " ++ String.intercalate ", " (parts.map fun p => p.1 ++ ": " ++ p.2) ++ " \x7d"

/-- A value with its kind. -/
def Value.describe : Value → String
  | .null => "Null"
  | .bool b => "Bool(" ++ (if b then "true" else "false") ++ ")"
  | .int i => "Int(" ++ String.ofList (int64Digits i) ++ ")"
  | .float x => "Float(" ++ String.ofList (NumberLayout.debug.ofBinary64 x) ++ ")"
  | .text s => "String(" ++ quoteText s ++ ")"

/-- Fields by name. -/
def Fields.describe (fields : Fields) : String :=
  "\x7b" ++
    String.intercalate ", " (fields.entries.map fun e => quoteText e.1 ++ ": " ++ e.2.describe) ++
    "\x7d"

/-- An OID by its text. -/
def Oid.describe (oid : Oid) : String := "Oid(" ++ quoteText oid.text ++ ")"

/-- A relationship with its link and fields. -/
def Relationship.describe (r : Relationship) : String :=
  describeParts "Relationship" [("oid", r.record.oid.describe), ("group_id", r.link.group.describe),
    ("member_id", r.link.member.describe), ("fields", r.record.fields.describe)]

/-- A stack by its name and the number of its layers. -/
def describeStack (name : String) (layers : Nat) : String :=
  describeParts "Stack" [("name", quoteText name), ("layers", toString layers)]

/-- A membership by the names of its stores. -/
def MembershipStores.describe (stores : MembershipStores) : String :=
  describeParts "Membership" [("groups", quoteText stores.groups.name),
    ("members", quoteText stores.members.name), ("relations", quoteText stores.relations.name)]

/-- A context by what it knows and what is open. -/
def Context.describe (context : Context) : String :=
  describeParts "StoreContext"
    [("provider_types", "[" ++ String.intercalate ", " (context.types.keys.map quoteText) ++ "]"),
      ("connections", context.registry.describe),
      ("data_object_maps", toString context.records.size),
      ("key_value_maps", toString context.texts.size),
      ("key_long_maps", toString context.counters.size ++ ", ..")]

end TieredStore
