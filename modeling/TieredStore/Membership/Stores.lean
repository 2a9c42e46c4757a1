import TieredStore.Membership.Find
import TieredStore.Storage.RecordStore

/-!
# Memberships over stores

A membership is three stores of records: programs on its tables are run against
these stores.
-/

namespace TieredStore

/-- The stores of a membership. -/
structure MembershipStores where
  groups : RecordStore
  members : RecordStore
  relations : RecordStore

namespace MembershipStores

/-- The store of a table. -/
def store (stores : MembershipStores) : MembershipTable → RecordStore
  | .groups => stores.groups
  | .members => stores.members
  | .relations => stores.relations

/-- How the stores answer the calls that are meant for their tables. -/
def perform (stores : MembershipStores) : Handler (At MembershipTable RecordCall) Storage :=
  fun request => (stores.store request.place).perform request.call

/-- Runs a program against the stores. -/
def run {α : Type} (stores : MembershipStores) (p : MembershipProgram α) : Action Storage α :=
  Program.run stores.perform p

/-- Links a pair, drawing a fresh OID for the case that it needs a record. -/
def add (stores : MembershipStores) (link : Link) : Action Storage (Option Relationship) := do
  let fresh ← Storage.freshOid
  stores.run (Membership.add fresh link)

end MembershipStores

end TieredStore
