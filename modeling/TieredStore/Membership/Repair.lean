import TieredStore.Membership.Link

/-!
# Keeping links in order

Groups, members and links lie in three stores that know nothing of each other.
Links whose group or member is gone, and all links of a pair but the one with the
highest OID, are removed whenever an access comes across them.
-/

namespace TieredStore

/-- The stores of a membership. -/
inductive MembershipTable where
  | groups
  | members
  | relations
  deriving DecidableEq

/-- The store that the OIDs of a side refer to. -/
def Side.table : Side → MembershipTable
  | .group => .groups
  | .member => .members

/-- What is to be done on the stores of a membership. -/
abbrev MembershipProgram (α : Type) : Type := Program (At MembershipTable RecordCall) α

namespace Membership

/-- The links that satisfy a predicate. -/
def relationsWhere (p : Predicate) : MembershipProgram (List Record) :=
  (Records.query (Query.filter p)).at .relations

/-- Removes links. -/
def removeRelations (rows : List Record) : MembershipProgram Unit :=
  (Records.removeAll (rows.map (·.oid))).at .relations

/-- Removes the links of a group or member and counts them. -/
def purge (side : Side) (oid : Oid) : MembershipProgram Nat := do
  let rows ← relationsWhere (Link.sidePredicate side oid)
  removeRelations rows
  pure rows.length

/-- Whether the group or member of an OID is stored; if not, its links are
removed. -/
def healSide (side : Side) (oid : Oid) : MembershipProgram Bool := do
  let stored ← (Records.contains oid).at side.table
  if stored then pure true
  else do
    let _ ← purge side oid
    pure false

/-- Whether both sides of a link are stored; the links of one that is not are
removed. -/
def healSides (link : Link) : MembershipProgram Bool := do
  let group ← healSide .group link.group
  let member ← healSide .member link.member
  pure (group && member)

/-- Records by descending OID. -/
def byDescendingOid (rows : List Record) : List Record :=
  sortBy (fun a b => (compare b.oid a.oid).isLE) rows

/-- Keeps the record with the highest OID and removes the others. -/
def collapse (rows : List Record) : MembershipProgram (Option Record) :=
  match byDescendingOid rows with
  | [] => pure none
  | keep :: duplicates => do
    removeRelations duplicates
    pure (some keep)

/-- The relationship of a pair, all but one of its records being removed. -/
def collapsePair (link : Link) : MembershipProgram (Option Relationship) := do
  let rows ← relationsWhere link.predicate
  let keep ← collapse rows
  pure (keep.bind Relationship.ofRecord?)

/-! ## Pairs -/

/-- The relationship of a pair, if both sides are stored and linked. -/
def resolve (link : Link) : MembershipProgram (Option Relationship) := do
  let intact ← healSides link
  if intact then collapsePair link else pure none

/-- Adds a record for a pair and gives the relationship that is left after
duplicates were removed, which may be one that was added in the meantime. -/
def addRecord (fresh : Oid) (link : Link) : MembershipProgram (Option Relationship) := do
  let row ← .ofExcept (link.newRecord fresh)
  let _ ← (Records.save row).at .relations
  collapsePair link

/-- Adds a record for a pair that has no relationship yet. -/
def addUnlessFound (fresh : Oid) (link : Link) :
    Option Relationship → MembershipProgram (Option Relationship)
  | some existing => pure (some existing)
  | none => addRecord fresh link

/-- Links a pair under a fresh OID unless it is linked already, and gives its
relationship; `none` if one of the sides is not stored. -/
def add (fresh : Oid) (link : Link) : MembershipProgram (Option Relationship) := do
  let intact ← healSides link
  if intact then do
    let existing ← collapsePair link
    addUnlessFound fresh link existing
  else pure none

/-- Removes the relationship of a pair, and tells whether there was one. -/
def unlink (link : Link) : MembershipProgram Bool := do
  let rows ← relationsWhere link.predicate
  removeRelations rows
  pure !rows.isEmpty

end Membership

end TieredStore
