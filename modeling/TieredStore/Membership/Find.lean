import TieredStore.Membership.Query
import TieredStore.Membership.Repair

/-!
# Finding relationships

A search fetches candidates along the route of its query, checks what the route
has not checked already, repairs what it comes across, and puts the rest into
order.  Every group and member is looked up once at most.
-/

namespace TieredStore

namespace Membership

/-! ## What a search knows -/

/-- What a search has learnt so far. -/
structure Search where
  groups : SortedMap Oid (Option Record) := ∅
  members : SortedMap Oid (Option Record) := ∅
  /-- The groups and members whose links were removed. -/
  purged : List (Side × Oid) := []
  /-- The candidates that met all criteria, by link. -/
  kept : SortedMap Link (List Record) := ∅

namespace Search

/-- What was found under an OID, if it was looked up. -/
def known? (search : Search) (side : Side) (oid : Oid) : Option (Option Record) :=
  match side with
  | .group => search.groups.get? oid
  | .member => search.members.get? oid

/-- Notes what is stored under an OID. -/
def learn (search : Search) (side : Side) (oid : Oid) (found : Option Record) : Search :=
  match side with
  | .group => { search with groups := search.groups.insert oid found }
  | .member => { search with members := search.members.insert oid found }

/-- Notes records of one side. -/
def learnAll (search : Search) (side : Side) (found : List Record) : Search :=
  found.foldl (fun search r => search.learn side r.oid (some r)) search

/-- Notes a candidate that met all criteria. -/
def keep (search : Search) (link : Link) (row : Record) : Search :=
  { search with kept := search.kept.insert link (((search.kept.get? link).getD []) ++ [row]) }

end Search

/-! ## Candidates -/

/-- The links of some groups or members that meet the condition on links. -/
def relationsOf (q : MembershipQuery) (side : Side) : List Record → MembershipProgram (List Record)
  | [] => pure []
  | r :: rest => do
    let rows ← relationsWhere (q.narrow (Link.sidePredicate side r.oid))
    let others ← relationsOf q side rest
    pure (rows ++ others)

/-- The candidates of a route that goes through all groups or members that meet
their condition. -/
def fanOut (q : MembershipQuery) (side : Side) (filter : Predicate) :
    MembershipProgram (List Record × Search) := do
  let matched ← (Records.query (Query.filter filter)).at side.table
  let rows ← relationsOf q side matched
  pure (rows, Search.learnAll {} side matched)

/-- Candidates with nothing learnt about groups and members. -/
def unlearned (rows : MembershipProgram (List Record)) :
    MembershipProgram (List Record × Search) := do
  let rows ← rows
  pure (rows, {})

/-- The candidates along the route of a query. -/
def fetch (q : MembershipQuery) : MembershipProgram (List Record × Search) :=
  match q.group, q.member with
  | some group, some member =>
    unlearned (relationsWhere (q.narrow (Link.mk group member).predicate))
  | some group, none => unlearned (relationsWhere (q.narrow (Link.sidePredicate .group group)))
  | none, some member => unlearned (relationsWhere (q.narrow (Link.sidePredicate .member member)))
  | none, none =>
    match q.groupFilter, q.relationPredicate, q.memberFilter with
    | some filter, _, _ => fanOut q .group filter
    | none, some relation, _ => unlearned (relationsWhere relation)
    | none, none, some filter => fanOut q .member filter
    | none, none, none => unlearned ((Records.query Query.all).at .relations)

/-! ## Criteria -/

/-- The group or member under an OID, looked up unless it is known. -/
def lookUp (search : Search) (side : Side) (oid : Oid) :
    MembershipProgram (Option Record × Search) :=
  match search.known? side oid with
  | some found => pure (found, search)
  | none => do
    let found ← (Records.record? oid).at side.table
    pure (found, search.learn side oid found)

/-- The condition on a side that the route has left to be checked. -/
def openFilter (q : MembershipQuery) (side : Side) : Option Predicate :=
  match q.route, side with
  | .groupFanOut, .group => none
  | .memberFanOut, .member => none
  | _, side => q.filter side

/-- Whether the group or member of a candidate is stored and meets its condition.
The links of one that is not stored are removed, once in a search. -/
def checkSide (q : MembershipQuery) (side : Side) (oid : Oid) (search : Search) :
    MembershipProgram (Bool × Search) :=
  if (side, oid) ∈ search.purged then pure (false, search)
  else do
    let (found, search) ← lookUp search side oid
    match found with
    | some r => pure ((openFilter q side).all fun p => p.holds r.fields, search)
    | none => do
      let _ ← purge side oid
      pure (false, { search with purged := (side, oid) :: search.purged })

/-- Checks both sides of a candidate and keeps it if they pass. -/
def checkLink (q : MembershipQuery) (row : Record) (link : Link) (search : Search) :
    MembershipProgram Search := do
  let (group, search) ← checkSide q .group link.group search
  let (member, search) ← checkSide q .member link.member search
  pure (if group && member then search.keep link row else search)

/-- Checks a candidate; one without a link is removed. -/
def checkRow (q : MembershipQuery) (row : Record) (search : Search) : MembershipProgram Search :=
  match Link.ofRecord? row with
  | some link => checkLink q row link search
  | none => do
    removeRelations [row]
    pure search

/-- Checks candidates one after the other. -/
def checkRows (q : MembershipQuery) : List Record → Search → MembershipProgram Search
  | [], search => pure search
  | row :: rest, search => do
    let search ← checkRow q row search
    checkRows q rest search

/-! ## Results -/

/-- Keeps one record of each link. -/
def collapseAll : List (List Record) → MembershipProgram (List Record)
  | [] => pure []
  | rows :: rest => do
    let keep ← collapse rows
    let others ← collapseAll rest
    pure (keep.toList ++ others)

/-- The relationships that meet all criteria, ordered and paged as the query
says. -/
def find (q : MembershipQuery) : MembershipProgram (List Relationship) := do
  .ofExcept q.validate
  let (rows, search) ← fetch q
  let search ← checkRows q rows search
  let survivors ← collapseAll search.kept.values
  pure ((q.paging.orderAndPage survivors).filterMap Relationship.ofRecord?)

/-- The relationships of a member. -/
def groupsOf (member : Oid) : MembershipProgram (List Relationship) :=
  find { member := some member }

/-- The relationships of a group. -/
def membersOf (group : Oid) : MembershipProgram (List Relationship) := find { group := some group }

end Membership

end TieredStore
