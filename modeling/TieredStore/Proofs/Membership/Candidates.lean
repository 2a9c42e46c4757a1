import TieredStore.Membership.Find
import TieredStore.Proofs.Membership.Repairs

/-!
# What a search knows and where it looks

A search keeps what it has looked up and whose links it has purged.  Both stay true as long
as only links are removed.  Each route fetches the rows that one look-up accepts, or those of
one look-up per record of a side.

Main results:

- Theorems `MembershipTables.Sound.learn` and `MembershipTables.Sound.drop`: looking up and
  removing links keep a search sound.
- Theorem `MembershipTables.validate_parts`: a valid query has valid conditions.
- Theorem `MembershipTables.run_fetch`: the candidates of each route.
-/

namespace TieredStore

open Std TieredStore.Membership

/-- The route that goes through the records of a side. -/
def Side.fanOut : Side → Route
  | .group => .groupFanOut
  | .member => .memberFanOut

/-- A condition is left open unless the route goes through the records that meet it. -/
theorem Membership.openFilter_eq (q : MembershipQuery) (side : Side) :
    openFilter q side = if q.route = side.fanOut then none else q.filter side := by
  unfold openFilter
  cases side <;> cases q.route <;> rfl

namespace MembershipTables

variable (t : MembershipTables)

/-! ## Candidates -/

/-- The records of a side that a predicate accepts. -/
def selectSide (side : Side) (p : Predicate) : List Record :=
  (t.table side.table).records.filter fun r => p.holds r.fields

/-- The links of all records of a side that a predicate accepts. -/
def fanOut (q : MembershipQuery) (side : Side) (p : Predicate) : List Record :=
  (t.selectSide side p).flatMap fun r => t.select (q.narrow (Link.sidePredicate side r.oid))

/-- The candidates along the route of a query. -/
def candidates (q : MembershipQuery) : List Record :=
  match q.group, q.member with
  | some group, some member => t.select (q.narrow (Link.mk group member).predicate)
  | some group, none => t.select (q.narrow (Link.sidePredicate .group group))
  | none, some member => t.select (q.narrow (Link.sidePredicate .member member))
  | none, none =>
    match q.groupFilter, q.relationPredicate, q.memberFilter with
    | some p, _, _ => t.fanOut q .group p
    | none, some relation, _ => t.select relation
    | none, none, some p => t.fanOut q .member p
    | none, none, none => t.rows

theorem holds_narrow_iff {q : MembershipQuery} (base : Predicate) (fields : Fields) :
    (q.narrow base).holds fields = true ↔ base.holds fields = true ∧
      ∀ p, q.relationPredicate = some p → p.holds fields = true := by
  unfold MembershipQuery.narrow
  cases q.relationPredicate with
  | none => simp
  | some extra => simp

theorem mem_rows_of_mem_fanOut {q : MembershipQuery} {side : Side} {p : Predicate} {r : Record}
    (h : r ∈ t.fanOut q side p) : r ∈ t.rows := by
  obtain ⟨s, -, hr⟩ := List.mem_flatMap.1 h
  exact (t.mem_select.1 hr).1

/-- Candidates are rows. -/
theorem mem_rows_of_mem_candidates {q : MembershipQuery} {r : Record}
    (h : r ∈ t.candidates q) : r ∈ t.rows := by
  unfold candidates at h
  split at h
  · exact (t.mem_select.1 h).1
  · exact (t.mem_select.1 h).1
  · exact (t.mem_select.1 h).1
  · split at h
    · exact t.mem_rows_of_mem_fanOut h
    · exact (t.mem_select.1 h).1
    · exact t.mem_rows_of_mem_fanOut h
    · exact h

/-! ## What a search knows -/

/-- The record that is stored under an OID of a side. -/
def find? (side : Side) (oid : Oid) : Option Record :=
  ((t.table side.table).get? oid).map (Record.loaded oid)

theorem stores_eq_isSome (side : Side) (oid : Oid) :
    t.stores side oid = (t.find? side oid).isSome := by
  rw [stores, find?, Option.isSome_map]
  rfl

theorem stores_iff {side : Side} {oid : Oid} :
    t.stores side oid = true ↔ ∃ r, t.find? side oid = some r := by
  rw [stores_eq_isSome, Option.isSome_iff_exists]

theorem stores_eq_false_iff {side : Side} {oid : Oid} :
    t.stores side oid = false ↔ t.find? side oid = none := by
  rw [stores_eq_isSome, Option.isSome_eq_false_iff, Option.isNone_iff_eq_none]

/-- What a search has learnt is true, and what it has purged is gone. -/
structure Sound (t : MembershipTables) (search : Search) : Prop where
  /-- Looked up records are those that are stored. -/
  known : ∀ side oid found, search.known? side oid = some found → found = t.find? side oid
  /-- A purged side is not stored and has no links. -/
  purged : ∀ side oid, (side, oid) ∈ search.purged →
    t.stores side oid = false ∧ t.select (Link.sidePredicate side oid) = []

variable {t}

theorem sound_empty : t.Sound {} where
  known side oid found h := by
    cases side with
    | group => cases h
    | member => cases h
  purged side oid h := by cases h

/-- Looking a record up keeps the search sound. -/
theorem Sound.learn {search : Search} (h : t.Sound search) (side : Side) (oid : Oid) :
    t.Sound (search.learn side oid (t.find? side oid)) := by
  refine ⟨?_, ?_⟩
  · intro other otherOid found hknown
    -- Maps of different sides are apart, so only the one that was written counts.
    by_cases hsame : otherOid = oid
    · subst hsame
      cases side <;> cases other <;>
        simp only [Search.learn, Search.known?, SortedMap.get?_insert_self] at hknown
      · exact (Option.some.inj hknown).symm
      · exact h.known .member otherOid found hknown
      · exact h.known .group otherOid found hknown
      · exact (Option.some.inj hknown).symm
    · apply h.known other otherOid found
      cases side <;> cases other <;>
        simp only [Search.learn, Search.known?,
          SortedMap.get?_insert_of_ne _ _ hsame] at hknown ⊢ <;>
        exact hknown
  · intro other otherOid hpurged
    cases side with
    | group => exact h.purged other otherOid hpurged
    | member => exact h.purged other otherOid hpurged

/-- Dropping links keeps the search sound. -/
theorem Sound.drop {search : Search} (h : t.Sound search) (dropped : List Record) :
    (t.drop dropped).Sound search := by
  refine ⟨?_, ?_⟩
  · intro side oid found hknown
    rw [find?, table_drop]
    exact h.known side oid found hknown
  · intro side oid hpurged
    obtain ⟨hstored, hnone⟩ := h.purged side oid hpurged
    refine ⟨(t.stores_drop dropped side oid).trans hstored, ?_⟩
    rw [List.eq_nil_iff_forall_not_mem] at hnone ⊢
    intro r hr
    obtain ⟨hrow, hholds⟩ := (t.drop dropped).mem_select.1 hr
    exact hnone r (t.mem_select.2 ⟨(t.mem_rows_drop.1 hrow).1, hholds⟩)

theorem Sound.learnAll {search : Search} (h : t.Sound search) (side : Side) {found : List Record}
    (hfound : ∀ r ∈ found, t.find? side r.oid = some r) :
    t.Sound (search.learnAll side found) := by
  induction found generalizing search with
  | nil => exact h
  | cons r rest ih =>
    obtain ⟨hr, hrest⟩ := List.forall_mem_cons.1 hfound
    have hlearn := h.learn side r.oid
    rw [hr] at hlearn
    exact ih hlearn hrest

theorem kept_learnAll (search : Search) (side : Side) (found : List Record) :
    (search.learnAll side found).kept = search.kept := by
  induction found generalizing search with
  | nil => rfl
  | cons r rest ih =>
    refine (ih (search.learn side r.oid (some r))).trans ?_
    cases side <;> rfl

theorem find?_of_mem_selectSide {side : Side} {p : Predicate} {r : Record}
    (h : r ∈ t.selectSide side p) : t.find? side r.oid = some r := by
  obtain ⟨fields, hget, hr⟩ := (RecordTable.mem_records _ r).1 (List.mem_filter.1 h).1
  rw [find?, hget]
  exact congrArg some hr.symm

theorem mem_selectSide_of_find? {side : Side} {oid : Oid} {s : Record} {p : Predicate}
    (h : t.find? side oid = some s) (hp : p.holds s.fields = true) :
    s ∈ t.selectSide side p ∧ s.oid = oid := by
  obtain ⟨fields, hget, rfl⟩ := Option.map_eq_some_iff.1 h
  refine ⟨List.mem_filter.2 ⟨?_, hp⟩, rfl⟩
  exact (RecordTable.mem_records _ _).2 ⟨fields, hget, rfl⟩

/-! ## Fetching -/

/-- A check is passed if both of its parts are. -/
theorem ok_of_bind_ok {x y : Except StoreError Unit} (h : (x >>= fun _ => y) = .ok ()) :
    x = .ok () ∧ y = .ok () := by
  cases x with
  | error e => cases h
  | ok u => exact ⟨rfl, h⟩

/-- A query is checked condition by condition. -/
theorem validate_eq (q : MembershipQuery) :
    q.validate = (q.groupFilter.elim (pure ()) Predicate.validate >>= fun _ =>
      q.memberFilter.elim (pure ()) Predicate.validate >>= fun _ =>
        q.relationQuery.elim (pure ()) Query.validate) := by
  obtain ⟨group, groupFilter, member, memberFilter, relationQuery⟩ := q
  cases groupFilter <;> cases memberFilter <;> cases relationQuery <;> rfl

/-- The condition of a valid query on rows is valid. -/
theorem validate_predicate {q : Query} (valid : q.validate = .ok ()) {p : Predicate}
    (hp : q.predicate = some p) : p.validate = .ok () := by
  unfold Query.validate at valid
  rw [hp] at valid
  exact (ok_of_bind_ok valid).1

/-- The conditions of a valid query are valid. -/
theorem validate_parts {q : MembershipQuery} (valid : q.validate = .ok ()) :
    (∀ side p, q.filter side = some p → p.validate = .ok ()) ∧
      ∀ p, q.relationPredicate = some p → p.validate = .ok () := by
  rw [validate_eq] at valid
  obtain ⟨hgroup, hrest⟩ := ok_of_bind_ok valid
  obtain ⟨hmember, hrelation⟩ := ok_of_bind_ok hrest
  refine ⟨?_, ?_⟩
  · intro side p hp
    cases side with
    | group =>
      have hfilter : q.groupFilter = some p := hp
      rw [hfilter] at hgroup
      exact hgroup
    | member =>
      have hfilter : q.memberFilter = some p := hp
      rw [hfilter] at hmember
      exact hmember
  · intro p hp
    obtain ⟨relations, hrelations, hpredicate⟩ := Option.bind_eq_some_iff.1 hp
    rw [hrelations] at hrelation
    exact validate_predicate hrelation hpredicate

/-- A valid condition narrowed by that on the link is valid. -/
theorem validate_narrow {q : MembershipQuery} (valid : q.validate = .ok ()) {base : Predicate}
    (hbase : base.validate = .ok ()) : (q.narrow base).validate = .ok () := by
  unfold MembershipQuery.narrow
  cases hrelation : q.relationPredicate with
  | none => exact hbase
  | some extra =>
    exact (Predicate.validate_and base extra).2 ⟨hbase, (validate_parts valid).2 extra hrelation⟩

variable (t)

theorem run_selectSide {p : Predicate} (valid : p.validate = .ok ()) (side : Side) :
    run ((Records.query (Query.filter p)).at side.table) t = (.ok (t.selectSide side p), t) := by
  have hvalid : (Query.filter p).validate = .ok () := by
    show (p.validate >>= fun _ => _) = _
    rw [valid]
    rfl
  have hquery := (t.table side.table).run_query hvalid
  have hrecords : (t.table side.table).query (Query.filter p) = t.selectSide side p :=
    (t.table side.table).query_unpaged (some p)
  rw [hrecords] at hquery
  exact t.run_at_of_read hquery

theorem run_relationsOf {q : MembershipQuery} (valid : q.validate = .ok ()) (side : Side)
    (found : List Record) :
    run (relationsOf q side found) t =
      (.ok (found.flatMap fun r => t.select (q.narrow (Link.sidePredicate side r.oid))), t) := by
  induction found with
  | nil => rfl
  | cons r rest ih =>
    have hnarrow := validate_narrow valid (Link.validate_sidePredicate side r.oid)
    unfold relationsOf
    rw [run_bind_of_ok (t.run_relationsWhere hnarrow), run_bind_of_ok ih]
    rfl

theorem run_fanOut {q : MembershipQuery} (valid : q.validate = .ok ()) {side : Side}
    {p : Predicate} (hp : q.filter side = some p) :
    run (Membership.fanOut q side p) t =
      (.ok (t.fanOut q side p, Search.learnAll {} side (t.selectSide side p)), t) := by
  unfold Membership.fanOut
  rw [run_bind_of_ok (t.run_selectSide ((validate_parts valid).1 side p hp) side),
    run_bind_of_ok (t.run_relationsOf valid side _)]
  rfl

theorem run_unlearned {p : MembershipProgram (List Record)} {found : List Record}
    (h : run p t = (.ok found, t)) : run (unlearned p) t = (.ok (found, {}), t) := by
  unfold unlearned
  rw [run_bind_of_ok h]
  rfl

/-- Fetching gives the candidates, changes nothing and keeps nothing yet. -/
theorem run_fetch {q : MembershipQuery} (valid : q.validate = .ok ()) :
    ∃ search, run (fetch q) t = (.ok (t.candidates q, search), t) ∧ t.Sound search ∧
      search.kept = ∅ := by
  have fanOut : ∀ side p, q.filter side = some p → ∃ search,
      run (Membership.fanOut q side p) t = (.ok (t.fanOut q side p, search), t) ∧
        t.Sound search ∧ search.kept = ∅ := by
    intro side p hp
    refine ⟨_, t.run_fanOut valid hp, ?_, kept_learnAll {} side _⟩
    exact sound_empty.learnAll side fun r hr => find?_of_mem_selectSide hr
  have look : ∀ base : Predicate, base.validate = .ok () → ∃ search,
      run (unlearned (relationsWhere base)) t = (.ok (t.select base, search), t) ∧
        t.Sound search ∧ search.kept = ∅ := by
    intro base hbase
    exact ⟨{}, t.run_unlearned (t.run_relationsWhere hbase), sound_empty, rfl⟩
  unfold fetch candidates
  cases hgroup : q.group with
  | some group =>
    cases hmember : q.member with
    | some member => exact look _ (validate_narrow valid (Link.validate_predicate _))
    | none => exact look _ (validate_narrow valid (Link.validate_sidePredicate _ _))
  | none =>
    cases hmember : q.member with
    | some member => exact look _ (validate_narrow valid (Link.validate_sidePredicate _ _))
    | none =>
      cases hgroupFilter : q.groupFilter with
      | some p => exact fanOut .group p hgroupFilter
      | none =>
        cases hrelation : q.relationPredicate with
        | some relation => exact look relation ((validate_parts valid).2 relation hrelation)
        | none =>
          cases hmemberFilter : q.memberFilter with
          | some p => exact fanOut .member p hmemberFilter
          | none =>
            have hall := t.relations.run_query (q := Query.all) rfl
            rw [Query.all, t.relations.query_unpaged none] at hall
            have hrows : (t.relations.records.filter fun r =>
                ({ predicate := none } : Query).matchesFields r.fields) = t.rows :=
              List.filter_eq_self.2 fun _ _ => rfl
            rw [hrows] at hall
            exact ⟨{}, t.run_unlearned (t.run_at_of_read hall), sound_empty, rfl⟩

end MembershipTables

end TieredStore
