import TieredStore.Membership.Link

/-!
# Membership queries

What relationships are wanted, and along which route candidates for them are
fetched.

Main results:

- Theorem `MembershipQuery.route_eq_pair_iff`: the pair route is taken exactly if
  both sides are given.
-/

namespace TieredStore

/-- Criteria for relationships.  Each one that is set has to be met. -/
structure MembershipQuery where
  group : Option Oid := none
  /-- A condition on the record of the group. -/
  groupFilter : Option Predicate := none
  member : Option Oid := none
  /-- A condition on the record of the member. -/
  memberFilter : Option Predicate := none
  /-- A condition on the record of the link, and the order and paging of the
  result. -/
  relationQuery : Option Query := none

/-- How candidates are fetched. -/
inductive Route where
  | pair
  | group
  | member
  /-- The links of all groups that meet their condition. -/
  | groupFanOut
  | relationScan
  /-- The links of all members that meet their condition. -/
  | memberFanOut
  | fullScan
  deriving DecidableEq

/-- The name of a route. -/
def Route.name : Route → String
  | .pair => "Pair"
  | .group => "Group"
  | .member => "Member"
  | .groupFanOut => "GroupFanOut"
  | .relationScan => "RelationScan"
  | .memberFanOut => "MemberFanOut"
  | .fullScan => "FullScan"

namespace MembershipQuery

/-- The condition on the record of the link. -/
def relationPredicate (q : MembershipQuery) : Option Predicate := q.relationQuery.bind (·.predicate)

/-- The condition on the record of a side. -/
def filter (q : MembershipQuery) : Side → Option Predicate
  | .group => q.groupFilter
  | .member => q.memberFilter

/-- The route: given sides come before conditions, and of these a condition on the
group before one on the link before one on the member. -/
def route (q : MembershipQuery) : Route :=
  match q.group, q.member with
  | some _, some _ => .pair
  | some _, none => .group
  | none, some _ => .member
  | none, none =>
    if q.groupFilter.isSome then .groupFanOut
    else if q.relationPredicate.isSome then .relationScan
    else if q.memberFilter.isSome then .memberFanOut
    else .fullScan

/-- Rejects the first name in the conditions that is no field name. -/
def validate (q : MembershipQuery) : Except StoreError Unit := do
  match q.groupFilter with
  | some p => p.validate
  | none => pure ()
  match q.memberFilter with
  | some p => p.validate
  | none => pure ()
  match q.relationQuery with
  | some relations => relations.validate
  | none => pure ()

/-- A predicate narrowed by the condition on the link. -/
def narrow (q : MembershipQuery) (base : Predicate) : Predicate :=
  match q.relationPredicate with
  | some extra => base.and extra
  | none => base

/-- The order and paging of the result. -/
def paging (q : MembershipQuery) : Query := q.relationQuery.getD Query.all

/-- The pair route is taken exactly if both sides are given. -/
theorem route_eq_pair_iff (q : MembershipQuery) :
    q.route = .pair ↔ q.group.isSome = true ∧ q.member.isSome = true := by
  unfold route
  cases q.group <;> cases q.member <;> simp
  split <;> try split
  all_goals try split
  all_goals simp

end MembershipQuery

end TieredStore
