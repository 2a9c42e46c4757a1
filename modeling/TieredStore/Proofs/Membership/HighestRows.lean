import TieredStore.Proofs.Membership.PairRows
import TieredStore.Proofs.Membership.Reference
import TieredStore.Proofs.Membership.Safety

/-!
# Which row of a pair a search returns

Of several rows of one pair the highest one counts, and resolving the pair gives it.  A search
checks the condition on rows before it looks for the highest one, so it may return a lower row if
the highest one does not meet the condition.  The highest row stays stored, though, so resolving
the pair gives another relationship than the search.

Main results:

- Theorem `MembershipTables.run_resolve_eq_iff`: what resolving a pair gives.
- Theorem `MembershipTables.NoLiveTwins.highest?_rowsOf_afterFind`: a search leaves the highest row
  of a pair.
- Theorem `MembershipTables.highest_of_find_iff`: a search returns the highest row of a pair, and
  so what resolving it gives, exactly if that row meets the condition on rows.
-/

namespace TieredStore

open Std TieredStore.Membership

namespace MembershipTables

variable {t : MembershipTables} {q : MembershipQuery} {r row : Record} {link : Link}

/-! ## The highest row -/

/-- Of two different rows one is higher. -/
theorem row_eq_of_isLE (hr : r ∈ t.rows) (hrow : row ∈ t.rows)
    (hle : (compare r.oid row.oid).isLE = true) (hge : (compare row.oid r.oid).isLE = true) :
    r = row :=
  t.row_eq_of_oid hr hrow (LawfulEqOrd.eq_of_compare (OrientedCmp.isLE_antisymm hle hge))

/-- Of some rows of a table the one that no other surpasses is the highest. -/
theorem highest?_eq_some_iff {rows : List Record} (hrows : ∀ r ∈ rows, r ∈ t.rows) :
    highest? rows = some row ↔
      row ∈ rows ∧ ∀ r ∈ rows, (compare r.oid row.oid).isLE = true := by
  constructor
  · exact highest?_eq_some
  · rintro ⟨hmem, habove⟩
    obtain ⟨keep, hkeep⟩ := exists_highest? hmem
    obtain ⟨hkeepMem, hkeepAbove⟩ := highest?_eq_some hkeep
    rw [hkeep, row_eq_of_isLE (hrows keep hkeepMem) (hrows row hmem) (habove keep hkeepMem)
      (hkeepAbove row hmem)]

/-- The highest row of a pair is the one that no row of the pair surpasses. -/
theorem highest?_rowsOf_eq_some_iff :
    highest? (t.rowsOf link) = some row ↔
      (row ∈ t.rows ∧ Link.ofRecord? row = some link) ∧
        ∀ r ∈ t.rows, Link.ofRecord? r = some link → (compare r.oid row.oid).isLE = true := by
  rw [highest?_eq_some_iff (t := t) fun r hr => (mem_rowsOf.1 hr).1]
  simp only [mem_rowsOf, and_imp]

/-- The look-up of a pair accepts the rows that hold its link. -/
theorem mem_select_of_mem_rowsOf (h : r ∈ t.rowsOf link) : r ∈ t.select link.predicate := by
  obtain ⟨hr, hlink⟩ := mem_rowsOf.1 h
  refine t.mem_select.2 ⟨hr, (Link.holds_predicate_iff _ _).2 fun side => ?_⟩
  exact (Link.holds_sidePredicate_of_side ((Link.ofRecord?_eq_some_iff r link).1 hlink side) _).2
    (Or.inl rfl)

/-- Resolving a pair gives its highest row, unless the look-up of the pair accepts a higher row
that holds another link or none. -/
theorem run_resolve_eq_iff (hstored : t.storesLink link = true)
    (hhighest : highest? (t.rowsOf link) = some row) {found : Relationship}
    (hfound : found.link = link) :
    (run (resolve link) t).1 = .ok (some found) ↔
      found.record = row ∧
        ∀ r ∈ t.select link.predicate, (compare r.oid row.oid).isLE = true := by
  obtain ⟨hrow, habove⟩ := highest?_eq_some hhighest
  have hselect : highest? (t.select link.predicate) = some row ↔ _ :=
    highest?_eq_some_iff fun r hr => (t.mem_select.1 hr).1
  rw [run_resolve, if_pos hstored, run_collapsePair, Except.ok.injEq, Option.bind_eq_some_iff]
  constructor
  · rintro ⟨keep, hkeep, hrecord⟩
    obtain ⟨other, hlink, rfl⟩ := Option.map_eq_some_iff.1 hrecord
    subst hfound
    obtain ⟨hkeepSelect, hkeepAbove⟩ := highest?_eq_some hkeep
    have hkeepRow := (t.mem_select.1 hkeepSelect).1
    have hbelow := habove keep (mem_rowsOf.2 ⟨hkeepRow, hlink⟩)
    have hsame := row_eq_of_isLE hkeepRow (mem_rowsOf.1 hrow).1 hbelow
      (hkeepAbove row (mem_select_of_mem_rowsOf hrow))
    exact ⟨hsame, hsame ▸ hkeepAbove⟩
  · rintro ⟨hrecord, hnone⟩
    refine ⟨row, hselect.2 ⟨mem_select_of_mem_rowsOf hrow, hnone⟩, ?_⟩
    rw [ofRecord?_of_highest? hhighest, ← hrecord, ← hfound]

/-! ## What a search returns -/

/-- What is found is left of the candidates and holds its link. -/
theorem mem_survivors_of_mem_found {found : Relationship}
    (h : found ∈ (q.paging.orderAndPage (t.survivors q)).filterMap Relationship.ofRecord?) :
    found.record ∈ t.survivors q ∧ Link.ofRecord? found.record = some found.link := by
  obtain ⟨r, hr, hrecord⟩ := List.mem_filterMap.1 h
  obtain ⟨link, hlink, rfl⟩ := Option.map_eq_some_iff.1 hrecord
  exact ⟨Query.mem_of_mem_orderAndPage hr, hlink⟩

/-- A row that is left of the candidates is live. -/
theorem live_of_mem_survivors (h : r ∈ t.survivors q) (hlink : Link.ofRecord? r = some link) :
    t.Live r link := by
  obtain ⟨other, hhighest⟩ := t.mem_survivors.1 h
  have hlive := live_of_mem_admitted (highest?_eq_some hhighest).1
  rwa [Option.some.inj (hlive.holds.symm.trans hlink)] at hlive

/-- Of a pair the highest row is left if and only if it meets the condition on rows. -/
theorem Plain.eq_highest_iff (plain : t.Plain) (h : r ∈ t.survivors q)
    (hlink : Link.ofRecord? r = some link) (hhighest : highest? (t.rowsOf link) = some row) :
    r = row ↔ (q.relationPredicate.all fun p => p.holds row.fields) = true := by
  obtain ⟨hmatching, hmaximal⟩ := List.mem_filter.1 (plain.mem_survivors_iff.1 h)
  obtain ⟨hr, hmeets⟩ := List.mem_filter.1 hmatching
  obtain ⟨hsides, hrelation⟩ := (meets_iff hlink).1 hmeets
  obtain ⟨⟨hrow, hrowLink⟩, habove⟩ := highest?_rowsOf_eq_some_iff.1 hhighest
  rw [Option.all_eq_true]
  constructor
  · rintro rfl
    exact hrelation
  · intro haccepted
    have hrowMatching : row ∈ t.matching q :=
      List.mem_filter.2 ⟨hrow, (meets_iff hrowLink).2 ⟨hsides, haccepted⟩⟩
    have hbelow := isHighest_iff.1 hmaximal row hrowMatching (hrowLink.trans hlink.symm)
    exact row_eq_of_isLE hr hrow (habove r hr hlink) hbelow

/-! ## What a search leaves -/

theorem stores_foldl_repair (found : List Record) (side : Side) (oid : Oid) :
    (found.foldl repair t).stores side oid = t.stores side oid := by
  induction found generalizing t with
  | nil => rfl
  | cons first rest ih => rw [List.foldl_cons, ih, stores_repair]

/-- A search leaves the groups and the members alone. -/
@[simp] theorem stores_afterFind (side : Side) (oid : Oid) :
    (t.afterFind q).stores side oid = t.stores side oid := by
  rw [afterFind, stores_drop, stores_foldl_repair]

theorem Live.storesLink (h : t.Live r link) : t.storesLink link = true := by
  rw [MembershipTables.storesLink, Bool.and_eq_true]
  exact ⟨h.stored .group, h.stored .member⟩

/-- Without numeric OIDs there are no twins. -/
theorem Plain.noLiveTwins (plain : t.Plain) : t.NoLiveTwins := fun _ _ live side _ htwins =>
  absurd htwins (Oid.not_twins_of_number?_eq_none (plain side _ (live.stored side)))

/-- A search does not remove the highest row of a live pair. -/
theorem NoLiveTwins.highest?_rowsOf_afterFind (h : t.NoLiveTwins) (live : t.Live row link)
    (hhighest : highest? (t.rowsOf link) = some row) (q : MembershipQuery) :
    highest? ((t.afterFind q).rowsOf link) = some row := by
  obtain ⟨-, habove⟩ := highest?_rowsOf_eq_some_iff.1 hhighest
  have hkept : row ∈ (t.afterFind q).rows := by
    by_contra hgone
    -- A row that is removed leaves a higher one of its pair.
    rcases h.dispensable live.row hgone link live.holds with ⟨side, hmissing⟩ | ⟨s, hs, hlink, hlt⟩
    · rw [live.stored side] at hmissing
      cases hmissing
    · have hle := habove s (t.mem_rows_afterFind.1 hs).1 hlink
      rw [OrientedOrd.eq_swap, hlt] at hle
      cases hle
  rw [highest?_rowsOf_eq_some_iff]
  exact ⟨⟨hkept, live.holds⟩, fun r hr => habove r (t.mem_rows_afterFind.1 hr).1⟩

/-- What a search returns of a pair is the highest row of the pair exactly if that row meets the
condition on rows.  Before and after the search, resolving the pair gives what was returned exactly
if it is the highest row and the look-up of the pair accepts no higher one. -/
theorem highest_of_find_iff (plain : t.Plain) (valid : q.validate = .ok ()) :
    ∃ found, (run (find q) t).1 = .ok found ∧ ∀ relationship ∈ found,
      ∃ row, highest? (t.rowsOf relationship.link) = some row ∧
        (relationship.record = row ↔
          (q.relationPredicate.all fun p => p.holds row.fields) = true) ∧
        ∀ tables ∈ [t, (run (find q) t).2],
          (run (resolve relationship.link) tables).1 = .ok (some relationship) ↔
            relationship.record = row ∧ ∀ r ∈ tables.select relationship.link.predicate,
              (compare r.oid row.oid).isLE = true := by
  rw [t.run_find valid]
  refine ⟨_, rfl, fun relationship hrelationship => ?_⟩
  obtain ⟨hsurvivor, hlink⟩ := mem_survivors_of_mem_found hrelationship
  have hlive := live_of_mem_survivors hsurvivor hlink
  obtain ⟨row, hhighest⟩ := exists_highest? (mem_rowsOf.2 ⟨hlive.row, hlink⟩)
  have hrowLive : t.Live row relationship.link :=
    ⟨(highest?_rowsOf_eq_some_iff.1 hhighest).1.1, (highest?_rowsOf_eq_some_iff.1 hhighest).1.2,
      hlive.stored⟩
  refine ⟨row, hhighest, plain.eq_highest_iff hsurvivor hlink hhighest, ?_⟩
  rw [List.forall_mem_cons, List.forall_mem_singleton]
  constructor
  · exact run_resolve_eq_iff hlive.storesLink hhighest rfl
  · have hstored : (t.afterFind q).storesLink relationship.link = true := by
      rw [storesLink, stores_afterFind, stores_afterFind]
      exact hlive.storesLink
    exact run_resolve_eq_iff hstored
      (plain.noLiveTwins.highest?_rowsOf_afterFind hrowLive hhighest q) rfl

/-- Of two rows of a pair that differ in a field the search for the role of the higher one returns
that row. -/
theorem highest_of_find_iff_of_two :
    let g : Oid := ⟨"g", by decide⟩
    let u : Oid := ⟨"u", by decide⟩
    let higher : Oid := ⟨"r2", by decide⟩
    let row : String → Fields := fun role =>
      .ofList [("groupID", .text "g"), ("memberID", .text "u"), ("role", .text role)]
    let t : MembershipTables := {
      groups := .ofList [(g, ∅)]
      members := .ofList [(u, ∅)]
      relations := .ofList [(⟨"r1", by decide⟩, row "a"), (higher, row "b")] }
    let q : MembershipQuery := {
      relationQuery := some { predicate := some (.compare "role" .eq (.text "b")) } }
    t.Plain ∧ q.validate = .ok () ∧
      (run (find q) t).1 = .ok [⟨Record.loaded higher (row "b"), ⟨g, u⟩⟩] ∧
      ∃ found, (run (find q) t).1 = .ok found ∧ ∀ relationship ∈ found,
        ∃ row, highest? (t.rowsOf relationship.link) = some row ∧
          (relationship.record = row ↔
            (q.relationPredicate.all fun p => p.holds row.fields) = true) ∧
          ∀ tables ∈ [t, (run (find q) t).2],
            (run (resolve relationship.link) tables).1 = .ok (some relationship) ↔
              relationship.record = row ∧ ∀ r ∈ tables.select relationship.link.predicate,
                (compare r.oid row.oid).isLE = true := by
  intro g u higher row t q
  have plain : t.Plain := by decide +kernel
  have valid : q.validate = .ok () := by decide +kernel
  exact ⟨plain, valid, by decide +kernel, highest_of_find_iff plain valid⟩

/-- The search for the role of the lower one of two rows of a pair returns that row, although
resolving the pair gives the higher one. -/
theorem not_highest_of_find :
    let g : Oid := ⟨"g", by decide⟩
    let u : Oid := ⟨"u", by decide⟩
    let lower : Oid := ⟨"r1", by decide⟩
    let higher : Oid := ⟨"r2", by decide⟩
    let row : String → Fields := fun role =>
      .ofList [("groupID", .text "g"), ("memberID", .text "u"), ("role", .text role)]
    let t : MembershipTables := {
      groups := .ofList [(g, ∅)]
      members := .ofList [(u, ∅)]
      relations := .ofList [(lower, row "a"), (higher, row "b")] }
    let q : MembershipQuery := {
      relationQuery := some { predicate := some (.compare "role" .eq (.text "a")) } }
    t.Plain ∧ (run (find q) t).1 = .ok [⟨Record.loaded lower (row "a"), ⟨g, u⟩⟩] ∧
      highest? (t.rowsOf ⟨g, u⟩) = some (Record.loaded higher (row "b")) ∧
      (run (resolve ⟨g, u⟩) t).1 = .ok (some ⟨Record.loaded higher (row "b"), ⟨g, u⟩⟩) := by
  intro g u lower higher row t q
  exact ⟨by decide +kernel, by decide +kernel, by decide +kernel, by decide +kernel⟩

end MembershipTables

end TieredStore
