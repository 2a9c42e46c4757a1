import TieredStore.Proofs.Membership.Search

/-!
# Every route finds the same

Whatever route a query takes, it finds the links that meet all criteria, the highest row of
each link standing for it.  No group and no member with a numeric OID may be stored: such an
OID is looked up together with its twins.

Main results:

- Theorem `MembershipTables.mem_candidates_iff`: what a route checks of a row with a link.
- Theorem `MembershipTables.mem_admitted_iff`: what is checked altogether does not depend on
  the route.
- Theorem `MembershipTables.mem_survivors_iff`: of each link the highest row is left.
- Theorem `MembershipTables.find_eq_reference`: a search gives the reference result.
-/

namespace TieredStore

open Std TieredStore.Membership

/-- The OID that a query gives for a side. -/
def MembershipQuery.given (q : MembershipQuery) : Side → Option Oid
  | .group => q.group
  | .member => q.member

namespace MembershipTables

variable (t : MembershipTables)

/-! ## The reference result -/

/-- Whether an OID is the one that is given for its side, if there is one, and belongs to a
stored record that meets the condition on its side. -/
def meetsSide (q : MembershipQuery) (side : Side) (oid : Oid) : Bool :=
  (q.given side).all (fun given => decide (oid = given)) &&
    (t.find? side oid).any fun r => (q.filter side).all fun p => p.holds r.fields

/-- Whether a row holds a link and meets all criteria. -/
def meets (q : MembershipQuery) (r : Record) : Bool :=
  (Link.ofRecord? r).any (fun link =>
    t.meetsSide q .group link.group && t.meetsSide q .member link.member) &&
      q.relationPredicate.all fun p => p.holds r.fields

/-- The rows that meet all criteria, by ascending OID. -/
def matching (q : MembershipQuery) : List Record := t.rows.filter (t.meets q)

/-- Whether no row of the same link has a higher OID. -/
def isHighest (rows : List Record) (r : Record) : Bool :=
  rows.all fun s => decide (Link.ofRecord? s = Link.ofRecord? r →
    (compare s.oid r.oid).isLE = true)

/-- The relationships that meet all criteria, one for each link, ordered and paged. -/
def reference (q : MembershipQuery) : List Relationship :=
  (q.paging.orderAndPage ((t.matching q).filter (isHighest (t.matching q)))).filterMap
    Relationship.ofRecord?

/-- No group and no member has an OID that spells a number. -/
def Plain : Prop := ∀ side oid, t.stores side oid = true → oid.number? = none

instance : Decidable t.Plain :=
  decidable_of_iff (∀ side ∈ [Side.group, Side.member],
      ∀ oid ∈ (t.table side.table).keys, oid.number? = none) <| by
    rw [List.forall_mem_cons, List.forall_mem_singleton, Plain, Side.forall_iff]
    simp only [stores, SortedMap.contains_iff, SortedMap.mem_keys_iff]

/-! ## What a route checks -/

variable {t} {q : MembershipQuery} {r : Record} {link : Link}

/-- What has to hold of a row for it to be a candidate. -/
structure Reached (t : MembershipTables) (q : MembershipQuery) (r : Record) (link : Link) :
    Prop where
  /-- The sides are those that are given. -/
  given : ∀ side oid, q.given side = some oid → link.side side = oid
  /-- The condition on the link is met. -/
  relation : ∀ p, q.relationPredicate = some p → p.holds r.fields = true
  /-- The condition on the side that the route goes through is met. -/
  fanOut : ∀ side p s, q.route = side.fanOut → q.filter side = some p →
    t.find? side (link.side side) = some s → p.holds s.fields = true

/-- A look-up by side accepts a row whose side is stored exactly for its own OID. -/
theorem Plain.holds_iff (plain : t.Plain) (hlink : Link.ofRecord? r = some link) {side : Side}
    (hstored : t.stores side (link.side side) = true) (oid : Oid) :
    (Link.sidePredicate side oid).holds r.fields = true ↔ link.side side = oid := by
  rw [Link.holds_sidePredicate_of_side ((Link.ofRecord?_eq_some_iff r link).1 hlink side)]
  have hno := Oid.not_twins_of_number?_eq_none (b := oid) (plain side _ hstored)
  simp only [hno, or_false]

/-- Going through the records of a side reaches the rows whose own record meets the
condition. -/
theorem Plain.mem_fanOut_iff (plain : t.Plain) (hr : r ∈ t.rows)
    (hlink : Link.ofRecord? r = some link) {side : Side}
    (hstored : t.stores side (link.side side) = true) (p : Predicate) :
    r ∈ t.fanOut q side p ↔
      (∀ extra, q.relationPredicate = some extra → extra.holds r.fields = true) ∧
        ∀ s, t.find? side (link.side side) = some s → p.holds s.fields = true := by
  rw [MembershipTables.fanOut, List.mem_flatMap]
  constructor
  · rintro ⟨s, hs, hselected⟩
    obtain ⟨-, hholds⟩ := t.mem_select.1 hselected
    obtain ⟨hside, hrelation⟩ := (holds_narrow_iff _ _).1 hholds
    rw [plain.holds_iff hlink hstored] at hside
    refine ⟨hrelation, ?_⟩
    intro s' hs'
    rw [hside, find?_of_mem_selectSide hs] at hs'
    cases hs'
    exact (List.mem_filter.1 hs).2
  · rintro ⟨hrelation, hcondition⟩
    obtain ⟨s, hs⟩ := t.stores_iff.1 hstored
    obtain ⟨hselected, hoid⟩ := mem_selectSide_of_find? hs (hcondition s hs)
    refine ⟨s, hselected, t.mem_select.2 ⟨hr, (holds_narrow_iff _ _).2 ⟨?_, hrelation⟩⟩⟩
    rw [plain.holds_iff hlink hstored]
    exact hoid.symm

/-- A look-up that is no fan-out reaches the rows that it accepts. -/
theorem mem_select_narrow_iff (hr : r ∈ t.rows) {base : Predicate}
    (hbase : base.holds r.fields = true ↔
      ∀ side oid, q.given side = some oid → link.side side = oid)
    (hroute : ∀ side : Side, q.route ≠ side.fanOut) :
    r ∈ t.select (q.narrow base) ↔ Reached t q r link := by
  rw [mem_select, holds_narrow_iff, hbase]
  constructor
  · rintro ⟨-, hgiven, hrelation⟩
    exact ⟨hgiven, hrelation, fun side _ _ h => absurd h (hroute side)⟩
  · intro h
    exact ⟨hr, h.given, h.relation⟩

/-- Without given sides and fan-out only the condition on the link is left. -/
theorem reached_iff (hgiven : ∀ side oid, q.given side = some oid → link.side side = oid)
    (hroute : ∀ side : Side, q.route ≠ side.fanOut) :
    Reached t q r link ↔ ∀ p, q.relationPredicate = some p → p.holds r.fields = true := by
  constructor
  · intro h
    exact h.relation
  · intro hrelation
    exact ⟨hgiven, hrelation, fun side _ _ h => absurd h (hroute side)⟩

theorem Plain.mem_fanOut_iff_reached (plain : t.Plain) (hr : r ∈ t.rows)
    (hlink : Link.ofRecord? r = some link) {side : Side}
    (hstored : t.stores side (link.side side) = true)
    (hgiven : ∀ side oid, q.given side = some oid → link.side side = oid)
    (hroute : q.route = side.fanOut) {p : Predicate} (hp : q.filter side = some p) :
    r ∈ t.fanOut q side p ↔ Reached t q r link := by
  rw [plain.mem_fanOut_iff hr hlink hstored]
  constructor
  · rintro ⟨hrelation, hcondition⟩
    refine ⟨hgiven, hrelation, ?_⟩
    intro other p' s hother hp' hs
    -- One route goes through the records of one side only.
    have hsame : other = side := by
      rw [hroute] at hother
      cases other <;> cases side <;> first | rfl | cases hother
    subst hsame
    rw [hp] at hp'
    cases hp'
    exact hcondition s hs
  · intro h
    exact ⟨h.relation, fun s hs => h.fanOut side p s hroute hp hs⟩

/-- The look-up for a given side reaches the rows that it accepts. -/
theorem Plain.mem_candidates_iff_of_given (plain : t.Plain) (hr : r ∈ t.rows)
    (hlink : Link.ofRecord? r = some link)
    (hstored : ∀ side, t.stores side (link.side side) = true)
    (hgiven : q.group ≠ none ∨ q.member ≠ none) :
    r ∈ t.candidates q ↔ Reached t q r link := by
  have hside : ∀ side oid, (Link.sidePredicate side oid).holds r.fields = true ↔
      link.side side = oid := fun side oid => plain.holds_iff hlink (hstored side) oid
  unfold candidates
  cases hgroup : q.group with
  | some group =>
    cases hmember : q.member with
    | some member =>
      apply mem_select_narrow_iff hr
      · rw [Link.holds_predicate_iff]
        simp [hside, Side.forall_iff, MembershipQuery.given, hgroup, hmember, Link.side]
      · intro side
        cases side <;> simp [MembershipQuery.route, hgroup, hmember, Side.fanOut]
    | none =>
      apply mem_select_narrow_iff hr
      · simp [hside, Side.forall_iff, MembershipQuery.given, hgroup, hmember, Link.side]
      · intro side
        cases side <;> simp [MembershipQuery.route, hgroup, hmember, Side.fanOut]
  | none =>
    cases hmember : q.member with
    | some member =>
      apply mem_select_narrow_iff hr
      · simp [hside, Side.forall_iff, MembershipQuery.given, hgroup, hmember, Link.side]
      · intro side
        cases side <;> simp [MembershipQuery.route, hgroup, hmember, Side.fanOut]
    | none => simp [hgroup, hmember] at hgiven

/-- Without a given side the rows are reached through one side, through the condition on
links or not at all restricted. -/
theorem Plain.mem_candidates_iff_of_open (plain : t.Plain) (hr : r ∈ t.rows)
    (hlink : Link.ofRecord? r = some link)
    (hstored : ∀ side, t.stores side (link.side side) = true)
    (hgroup : q.group = none) (hmember : q.member = none) :
    r ∈ t.candidates q ↔ Reached t q r link := by
  have hgiven : ∀ side oid, q.given side = some oid → link.side side = oid := by
    simp [Side.forall_iff, MembershipQuery.given, hgroup, hmember]
  unfold candidates
  simp only [hgroup, hmember]
  cases hgroupFilter : q.groupFilter with
  | some p =>
    have hroute : q.route = .groupFanOut := by
      simp [MembershipQuery.route, hgroup, hmember, hgroupFilter]
    exact plain.mem_fanOut_iff_reached hr hlink (hstored .group) hgiven hroute hgroupFilter
  | none =>
    cases hrelation : q.relationPredicate with
    | some relation =>
      have hroute : ∀ side : Side, q.route ≠ side.fanOut := by
        intro side
        cases side <;>
          simp [MembershipQuery.route, hgroup, hmember, hgroupFilter, hrelation, Side.fanOut]
      rw [mem_select, reached_iff hgiven hroute]
      simp [hr, hrelation]
    | none =>
      cases hmemberFilter : q.memberFilter with
      | some p =>
        have hroute : q.route = .memberFanOut := by
          simp [MembershipQuery.route, hgroup, hmember, hgroupFilter, hrelation, hmemberFilter]
        exact plain.mem_fanOut_iff_reached hr hlink (hstored .member) hgiven hroute
          hmemberFilter
      | none =>
        have hroute : ∀ side : Side, q.route ≠ side.fanOut := by
          intro side
          cases side <;> simp [MembershipQuery.route, hgroup, hmember, hgroupFilter, hrelation,
            hmemberFilter, Side.fanOut]
        rw [reached_iff hgiven hroute]
        simp [hr, hrelation]

/-- What a route checks of a row with a link whose sides are stored. -/
theorem Plain.mem_candidates_iff (plain : t.Plain) (hr : r ∈ t.rows)
    (hlink : Link.ofRecord? r = some link)
    (hstored : ∀ side, t.stores side (link.side side) = true) :
    r ∈ t.candidates q ↔ Reached t q r link := by
  by_cases hgiven : q.group ≠ none ∨ q.member ≠ none
  · exact plain.mem_candidates_iff_of_given hr hlink hstored hgiven
  · push Not at hgiven
    exact plain.mem_candidates_iff_of_open hr hlink hstored hgiven.1 hgiven.2

/-! ## What is checked altogether -/

theorem meetsSide_iff {side : Side} {oid : Oid} :
    t.meetsSide q side oid = true ↔ (∀ given, q.given side = some given → oid = given) ∧
      ∃ s, t.find? side oid = some s ∧ ∀ p, q.filter side = some p → p.holds s.fields = true := by
  rw [meetsSide, Bool.and_eq_true, Option.any_eq_true]
  simp only [Option.all_eq_true, decide_eq_true_eq]

theorem meets_iff (hlink : Link.ofRecord? r = some link) :
    t.meets q r = true ↔ (∀ side, t.meetsSide q side (link.side side) = true) ∧
      ∀ p, q.relationPredicate = some p → p.holds r.fields = true := by
  rw [meets, hlink, Bool.and_eq_true, Side.forall_iff, Option.all_eq_true]
  show (t.meetsSide q .group link.group && t.meetsSide q .member link.member) = true ∧ _ ↔ _
  rw [Bool.and_eq_true]
  rfl

/-- What is checked altogether does not depend on the route. -/
theorem Plain.mem_admitted_iff (plain : t.Plain) :
    r ∈ t.admitted q link ↔ r ∈ t.matching q ∧ Link.ofRecord? r = some link := by
  rw [mem_admitted, admits?_eq_some_iff, matching, List.mem_filter]
  constructor
  · rintro ⟨hcandidate, hlink, hpasses⟩
    have hr := t.mem_rows_of_mem_candidates hcandidate
    simp only [passes_iff] at hpasses
    have hstored : ∀ side, t.stores side (link.side side) = true := by
      intro side
      obtain ⟨s, hs, -⟩ := hpasses side
      exact t.stores_iff.2 ⟨s, hs⟩
    have hreached := (plain.mem_candidates_iff hr hlink hstored).1 hcandidate
    refine ⟨⟨hr, (meets_iff hlink).2 ⟨?_, hreached.relation⟩⟩, hlink⟩
    intro side
    obtain ⟨s, hs, hopen⟩ := hpasses side
    refine meetsSide_iff.2 ⟨hreached.given side, s, hs, ?_⟩
    intro p hp
    by_cases hroute : q.route = side.fanOut
    · exact hreached.fanOut side p s hroute hp hs
    · apply hopen p
      rw [openFilter_eq, if_neg hroute, hp]
  · rintro ⟨⟨hr, hmeets⟩, hlink⟩
    obtain ⟨hsides, hrelation⟩ := (meets_iff hlink).1 hmeets
    simp only [meetsSide_iff] at hsides
    have hstored : ∀ side, t.stores side (link.side side) = true := by
      intro side
      obtain ⟨-, s, hs, -⟩ := hsides side
      exact t.stores_iff.2 ⟨s, hs⟩
    refine ⟨(plain.mem_candidates_iff hr hlink hstored).2 ⟨?_, hrelation, ?_⟩, hlink, ?_⟩
    · exact fun side => (hsides side).1
    · intro side p s _ hp hs
      obtain ⟨-, s', hs', hfilter⟩ := hsides side
      rw [hs] at hs'
      cases hs'
      exact hfilter p hp
    · intro side
      obtain ⟨-, s, hs, hfilter⟩ := hsides side
      refine passes_iff.2 ⟨s, hs, ?_⟩
      intro p hp
      apply hfilter p
      rw [openFilter_eq] at hp
      split at hp
      · cases hp
      · exact hp

/-! ## One row for each link -/

theorem isHighest_iff {rows : List Record} :
    isHighest rows r = true ↔ ∀ s ∈ rows, Link.ofRecord? s = Link.ofRecord? r →
      (compare s.oid r.oid).isLE = true := by
  rw [isHighest, List.all_eq_true]
  simp only [decide_eq_true_eq]

/-- Of each link the highest row is left. -/
theorem Plain.mem_survivors_iff (plain : t.Plain) :
    r ∈ t.survivors q ↔ r ∈ (t.matching q).filter (isHighest (t.matching q)) := by
  rw [mem_survivors, List.mem_filter, isHighest_iff]
  constructor
  · rintro ⟨link, hhighest⟩
    obtain ⟨hadmitted, hmaximal⟩ := highest?_eq_some hhighest
    obtain ⟨hmatching, hlink⟩ := plain.mem_admitted_iff.1 hadmitted
    refine ⟨hmatching, ?_⟩
    intro s hs hsame
    exact hmaximal s (plain.mem_admitted_iff.2 ⟨hs, hsame.trans hlink⟩)
  · rintro ⟨hmatching, hmaximal⟩
    have hmeets := (List.mem_filter.1 hmatching).2
    rw [meets, Bool.and_eq_true, Option.any_eq_true] at hmeets
    obtain ⟨⟨link, hlink, -⟩, -⟩ := hmeets
    have hadmitted : r ∈ t.admitted q link := plain.mem_admitted_iff.2 ⟨hmatching, hlink⟩
    obtain ⟨keep, hhighest⟩ := exists_highest? hadmitted
    obtain ⟨hkeep, habove⟩ := highest?_eq_some hhighest
    obtain ⟨hkeepMatching, hkeepLink⟩ := plain.mem_admitted_iff.1 hkeep
    have hbelow := hmaximal keep hkeepMatching (hkeepLink.trans hlink.symm)
    have hoid : keep.oid = r.oid :=
      LawfulEqOrd.eq_of_compare (OrientedCmp.isLE_antisymm hbelow (habove r hadmitted))
    have hsame : keep = r := t.row_eq_of_oid (List.mem_filter.1 hkeepMatching).1
      (List.mem_filter.1 hmatching).1 hoid
    rw [hsame] at hhighest
    exact ⟨link, hhighest⟩

/-- No row is left twice. -/
theorem nodup_survivors (t : MembershipTables) (q : MembershipQuery) :
    ((t.survivors q).map (·.oid)).Nodup := by
  rw [survivors, SortedMap.values, List.filterMap_map, List.Nodup, List.pairwise_map,
    List.pairwise_filterMap]
  refine (t.kept q).ascending.imp_of_mem ?_
  intro a b ha hb hlt r hr s hs hoid
  have hr' := (highest?_eq_some hr).1
  have hs' := (highest?_eq_some hs).1
  rw [t.eq_admitted_of_mem_kept ha] at hr'
  rw [t.eq_admitted_of_mem_kept hb] at hs'
  have hsame := t.row_eq_of_oid (t.mem_rows_of_mem_admitted hr')
    (t.mem_rows_of_mem_admitted hs') hoid
  subst hsame
  -- A row is admitted under one link only.
  have hlinks := (t.mem_admitted.1 hr').2.symm.trans (t.mem_admitted.1 hs').2
  rw [Option.some.inj hlinks, ReflOrd.compare_self] at hlt
  cases hlt

/-- A search gives the reference result, whatever route it takes. -/
theorem find_eq_reference (plain : t.Plain) (valid : q.validate = .ok ()) :
    (run (find q) t).1 = .ok (t.reference q) := by
  rw [t.run_find valid, reference]
  have hnodup : ((t.matching q).filter (isHighest (t.matching q))).Nodup :=
    (t.nodup_rows.filter _).filter _
  have hperm : (t.survivors q).Perm ((t.matching q).filter (isHighest (t.matching q))) := by
    refine (List.perm_ext_iff_of_nodup (List.Nodup.of_map _ (nodup_survivors t q)) hnodup).2 ?_
    intro r
    exact plain.mem_survivors_iff
  rw [q.paging.orderAndPage_eq_of_perm hperm (nodup_survivors t q)]

/-- A search through the groups finds the higher one of two rows of a link, and passes over a row
of a group that is not stored and a malformed row. -/
theorem find_eq_reference_of_duplicates :
    let g : Oid := ⟨"g", by decide⟩
    let m : Oid := ⟨"m", by decide⟩
    let gone : Oid := ⟨"1", by decide⟩
    let row : String → String → Fields := fun group member =>
      .ofList [("groupID", .text group), ("memberID", .text member)]
    let t : MembershipTables := {
      groups := .ofList [(g, .ofList [("size", .int 3)])]
      members := .ofList [(m, ∅)]
      relations := .ofList [(⟨"r1", by decide⟩, row "g" "m"), (⟨"r2", by decide⟩, row "g" "m"),
        (⟨"r3", by decide⟩, row gone.text "m"), (⟨"r4", by decide⟩, row "g" "no OID")] }
    let q : MembershipQuery := {
      groupFilter := some (.compare "size" .ge (.text "3.0"))
      relationQuery := some { predicate := some (.compare "memberID" .ne .null), limit := some 5 } }
    t.Plain ∧ q.validate = .ok () ∧ (run (find q) t).1 = .ok (t.reference q) ∧
      (t.reference q).map (fun found => found.record.oid.text) = ["r2"] := by
  intro g m gone row t q
  have plain : t.Plain := by
    have hgroups : ∀ oid ∈ t.groups.keys, oid.number? = none := by decide +kernel
    have hmembers : ∀ oid ∈ t.members.keys, oid.number? = none := by decide +kernel
    intro side oid hstored
    have hkey := (SortedMap.mem_keys_iff _ oid).2 ((SortedMap.contains_iff _ oid).1 hstored)
    cases side with
    | group => exact hgroups oid hkey
    | member => exact hmembers oid hkey
  have valid : q.validate = .ok () := by decide +kernel
  exact ⟨plain, valid, find_eq_reference plain valid, by decide +kernel⟩

end MembershipTables

end TieredStore
