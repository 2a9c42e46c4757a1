import TieredStore.Proofs.Membership.Candidates

/-!
# How a search runs

A search goes through its candidates one by one.  Which of them it keeps depends on the
tables at the start alone, and what it removes on the way is condemned by one of them.

Main results:

- Theorem `MembershipTables.run_checkRow`: one candidate is kept or not, and repaired.
- Theorem `MembershipTables.run_checkRows`: the same for all candidates, by induction.
- Theorem `MembershipTables.run_find`: the result of a valid query and the tables that are
  left.
-/

namespace TieredStore

open Std TieredStore.Membership

namespace MembershipTables

variable (t : MembershipTables)

/-! ## Single candidates -/

/-- Whether the record of a side is stored and meets what the route has left open. -/
def passes (q : MembershipQuery) (side : Side) (oid : Oid) : Bool :=
  (t.find? side oid).any fun r => (openFilter q side).all fun p => p.holds r.fields

/-- The link under which a candidate is kept, if it is. -/
def admits? (q : MembershipQuery) (r : Record) : Option Link :=
  (Link.ofRecord? r).filter fun link =>
    t.passes q .group link.group && t.passes q .member link.member

/-- The candidates that were kept, with one more if it is admitted. -/
def keep (q : MembershipQuery) (kept : SortedMap Link (List Record)) (r : Record) :
    SortedMap Link (List Record) :=
  match t.admits? q r with
  | some link => kept.insert link ((kept.get? link).getD [] ++ [r])
  | none => kept

/-- The tables after a candidate was checked. -/
def repair (r : Record) : MembershipTables :=
  match Link.ofRecord? r with
  | some link => t.healLink link
  | none => t.drop [r]

@[simp] theorem find?_drop (dropped : List Record) (side : Side) (oid : Oid) :
    (t.drop dropped).find? side oid = t.find? side oid := by
  rw [find?, table_drop, find?]

@[simp] theorem find?_heal (side other : Side) (oid otherOid : Oid) :
    (t.heal side oid).find? other otherOid = t.find? other otherOid := by
  rw [find?, table_heal, find?]

@[simp] theorem find?_repair (r : Record) (side : Side) (oid : Oid) :
    (t.repair r).find? side oid = t.find? side oid := by
  unfold repair
  split
  · rw [healLink, find?_heal, find?_heal]
  · rw [find?_drop]

/-- What is kept does not depend on the links that are left. -/
theorem keep_congr {t t' : MembershipTables}
    (h : ∀ side oid, t'.find? side oid = t.find? side oid) (q : MembershipQuery) :
    t'.keep q = t.keep q := by
  funext kept r
  simp only [keep, admits?, passes, h]

variable {t}

theorem passes_iff {q : MembershipQuery} {side : Side} {oid : Oid} :
    t.passes q side oid = true ↔ ∃ s, t.find? side oid = some s ∧
      ∀ p, openFilter q side = some p → p.holds s.fields = true := by
  rw [passes, Option.any_eq_true]
  simp only [Option.all_eq_true]

/-- A candidate is admitted under its link if both sides pass. -/
theorem admits?_eq_some_iff {q : MembershipQuery} {r : Record} {link : Link} :
    t.admits? q r = some link ↔
      Link.ofRecord? r = some link ∧ ∀ side, t.passes q side (link.side side) = true := by
  rw [admits?, Option.filter_eq_some_iff, Bool.and_eq_true, Side.forall_iff]
  rfl

theorem heal_of_purged {search : Search} (h : t.Sound search) {side : Side} {oid : Oid}
    (hpurged : (side, oid) ∈ search.purged) : t.heal side oid = t := by
  obtain ⟨hstored, hnone⟩ := h.purged side oid hpurged
  rw [heal, hnone, drop_nil, ite_self]

theorem Sound.heal {search : Search} (h : t.Sound search) (side : Side) (oid : Oid) :
    (t.heal side oid).Sound search := by
  unfold MembershipTables.heal
  split
  · exact h
  · exact h.drop _

/-- Looking a side up gives what is stored and keeps the search sound. -/
theorem run_lookUp {search : Search} (h : t.Sound search) (side : Side) (oid : Oid) :
    ∃ search', run (lookUp search side oid) t = (.ok (t.find? side oid, search'), t) ∧
      t.Sound search' ∧ search'.kept = search.kept ∧ search'.purged = search.purged := by
  unfold lookUp
  cases hknown : search.known? side oid with
  | some found =>
    rw [h.known side oid found hknown]
    exact ⟨search, rfl, h, rfl, rfl⟩
  | none =>
    refine ⟨search.learn side oid (t.find? side oid), ?_, h.learn side oid, ?_, ?_⟩
    · exact run_bind_of_ok (t.run_at_of_read ((t.table side.table).run_record? oid)) _
    · cases side <;> rfl
    · cases side <;> rfl

/-- Purging a side that is not stored keeps the search sound. -/
theorem Sound.purge {search : Search} (h : t.Sound search) {side : Side} {oid : Oid}
    (hstored : t.stores side oid = false) :
    (t.heal side oid).Sound { search with purged := (side, oid) :: search.purged } := by
  have hheal := h.heal side oid
  refine ⟨hheal.known, ?_⟩
  intro other otherOid hpurged
  rcases List.mem_cons.1 hpurged with hsame | hold
  · cases hsame
    rw [stores_heal]
    refine ⟨hstored, List.eq_nil_iff_forall_not_mem.2 ?_⟩
    intro r hr
    obtain ⟨hrow, hholds⟩ := (mem_select _).1 hr
    rcases (t.mem_rows_heal.1 hrow).2 with hkept | hkept
    · rw [hstored] at hkept
      cases hkept
    · rw [hholds] at hkept
      cases hkept
  · exact hheal.purged other otherOid hold

/-- A side of a candidate is checked, and healed. -/
theorem run_checkSide {search : Search} (h : t.Sound search) (q : MembershipQuery) (side : Side)
    (oid : Oid) :
    ∃ search', run (checkSide q side oid search) t =
        (.ok (t.passes q side oid, search'), t.heal side oid) ∧
      (t.heal side oid).Sound search' ∧ search'.kept = search.kept := by
  unfold checkSide
  by_cases hpurged : (side, oid) ∈ search.purged
  · rw [if_pos hpurged, heal_of_purged h hpurged]
    have hnone := t.stores_eq_false_iff.1 (h.purged side oid hpurged).1
    refine ⟨search, ?_, h, rfl⟩
    rw [passes, hnone]
    rfl
  · rw [if_neg hpurged]
    obtain ⟨search', hrun, hsound, hkept, -⟩ := run_lookUp h side oid
    rw [run_bind_of_ok hrun]
    cases hfound : t.find? side oid with
    | some r =>
      have hstored := t.stores_iff.2 ⟨r, hfound⟩
      refine ⟨search', ?_, (t.heal_of_stores hstored).symm ▸ hsound, hkept⟩
      rw [passes, hfound, t.heal_of_stores hstored]
      rfl
    | none =>
      have hstored := t.stores_eq_false_iff.2 hfound
      refine ⟨{ search' with purged := (side, oid) :: search'.purged }, ?_,
        hsound.purge hstored, hkept⟩
      have hheal : t.heal side oid = t.drop (t.select (Link.sidePredicate side oid)) :=
        if_neg (Bool.eq_false_iff.1 hstored)
      rw [passes, hfound, hheal]
      exact run_bind_of_ok (t.run_purge side oid) _

/-- A candidate is kept if it is admitted, and the tables are repaired. -/
theorem run_checkRow {search : Search} (h : t.Sound search) (q : MembershipQuery) (r : Record) :
    ∃ search', run (checkRow q r search) t = (.ok search', t.repair r) ∧
      (t.repair r).Sound search' ∧ search'.kept = t.keep q search.kept r := by
  unfold checkRow repair keep admits?
  cases hlink : Link.ofRecord? r with
  | none =>
    exact ⟨search, run_bind_of_ok (t.run_removeRelations [r]) _, h.drop [r], rfl⟩
  | some link =>
    obtain ⟨first, hgroup, hfirst, hkeptFirst⟩ := run_checkSide h q .group link.group
    obtain ⟨second, hmember, hsecond, hkeptSecond⟩ := run_checkSide hfirst q .member link.member
    have hpasses : (t.heal .group link.group).passes q .member link.member =
        t.passes q .member link.member := by
      rw [passes, find?_heal, passes]
    rw [hpasses] at hmember
    have hkept : second.kept = search.kept := hkeptSecond.trans hkeptFirst
    have hrun : run (checkLink q r link search) t =
        (.ok (if t.passes q .group link.group && t.passes q .member link.member then
          second.keep link r else second), t.healLink link) := by
      unfold checkLink
      rw [run_bind_of_ok hgroup, run_bind_of_ok hmember]
      rfl
    by_cases hadmitted :
        (t.passes q .group link.group && t.passes q .member link.member) = true
    · rw [if_pos hadmitted] at hrun
      refine ⟨second.keep link r, hrun, ⟨hsecond.known, hsecond.purged⟩, ?_⟩
      simp only [Option.filter, hadmitted, if_true]
      rw [← hkept]
      rfl
    · rw [if_neg hadmitted] at hrun
      refine ⟨second, hrun, hsecond, ?_⟩
      simp only [Option.filter, hadmitted]
      exact hkept

/-- All candidates are checked one after the other. -/
theorem run_checkRows {search : Search} (h : t.Sound search) (q : MembershipQuery)
    (found : List Record) :
    ∃ search', run (checkRows q found search) t = (.ok search', found.foldl repair t) ∧
      search'.kept = found.foldl (t.keep q) search.kept := by
  induction found generalizing t search with
  | nil => exact ⟨search, rfl, rfl⟩
  | cons r rest ih =>
    obtain ⟨next, hrun, hsound, hkept⟩ := run_checkRow h q r
    obtain ⟨last, hrest, hlast⟩ := ih hsound
    refine ⟨last, ?_, ?_⟩
    · unfold checkRows
      rw [run_bind_of_ok hrun]
      exact hrest
    · rw [hlast, hkept, List.foldl_cons, keep_congr (t.find?_repair r) q]

/-! ## Removed on the way -/

variable (t)

@[simp] theorem stores_repair (r : Record) (side : Side) (oid : Oid) :
    (t.repair r).stores side oid = t.stores side oid := by
  rw [stores_eq_isSome, find?_repair, ← stores_eq_isSome]

/-- Whether checking a candidate removes a row: the candidate itself if it is malformed, and
the rows that a look-up accepts for a side of it that is not stored. -/
def Condemns (t : MembershipTables) (candidate r : Record) : Prop :=
  match Link.ofRecord? candidate with
  | some link => ∃ side, t.stores side (link.side side) = false ∧
      (Link.sidePredicate side (link.side side)).holds r.fields = true
  | none => r.oid = candidate.oid

theorem mem_rows_repair {candidate r : Record} :
    r ∈ (t.repair candidate).rows ↔ r ∈ t.rows ∧ ¬t.Condemns candidate r := by
  unfold repair Condemns
  cases Link.ofRecord? candidate with
  | some link =>
    simp only [mem_rows_healLink, not_exists, not_and, Bool.not_eq_true]
    refine and_congr_right fun _ => forall_congr' fun side => ?_
    cases t.stores side (link.side side) <;> simp
  | none => simp [mem_rows_drop]

/-- What is left after all candidates were checked is what none of them condemns. -/
theorem mem_rows_foldl_repair (found : List Record) {r : Record} :
    r ∈ (found.foldl repair t).rows ↔
      r ∈ t.rows ∧ ∀ candidate ∈ found, ¬t.Condemns candidate r := by
  induction found generalizing t with
  | nil => simp
  | cons first rest ih =>
    have hcondemns : ∀ candidate,
        (t.repair first).Condemns candidate r ↔ t.Condemns candidate r := by
      intro candidate
      simp only [Condemns, stores_repair]
    rw [List.foldl_cons, ih, mem_rows_repair, List.forall_mem_cons]
    simp only [hcondemns, and_assoc]

/-! ## Kept candidates -/

/-- The candidates that a search keeps, by link. -/
def kept (q : MembershipQuery) : SortedMap Link (List Record) :=
  (t.candidates q).foldl (t.keep q) ∅

/-- The candidates that are admitted under a link. -/
def admitted (q : MembershipQuery) (link : Link) : List Record :=
  (t.candidates q).filter fun r => decide (t.admits? q r = some link)

theorem mem_admitted {q : MembershipQuery} {link : Link} {r : Record} :
    r ∈ t.admitted q link ↔ r ∈ t.candidates q ∧ t.admits? q r = some link := by
  rw [admitted, List.mem_filter, decide_eq_true_eq]

theorem mem_rows_of_mem_admitted {q : MembershipQuery} {link : Link} {r : Record}
    (h : r ∈ t.admitted q link) : r ∈ t.rows :=
  t.mem_rows_of_mem_candidates (t.mem_admitted.1 h).1

theorem getD_keep (q : MembershipQuery) (kept : SortedMap Link (List Record)) (r : Record)
    (link : Link) :
    ((t.keep q kept r).get? link).getD [] =
      (kept.get? link).getD [] ++ [r].filter fun r => decide (t.admits? q r = some link) := by
  unfold keep
  cases hadmits : t.admits? q r with
  | none => simp [hadmits]
  | some other =>
    by_cases hlink : other = link
    · subst hlink
      simp [hadmits]
    · have hne : link ≠ other := fun h => hlink h.symm
      simp [hadmits, hlink, SortedMap.get?_insert_of_ne _ _ hne]

/-- Under each link the admitted candidates are kept. -/
theorem getD_kept (q : MembershipQuery) (link : Link) :
    ((t.kept q).get? link).getD [] = t.admitted q link := by
  have hfold : ∀ (found : List Record) (kept : SortedMap Link (List Record)),
      ((found.foldl (t.keep q) kept).get? link).getD [] =
        (kept.get? link).getD [] ++ found.filter fun r => decide (t.admits? q r = some link) := by
    intro found
    induction found with
    | nil => simp
    | cons r rest ih =>
      intro kept
      rw [List.foldl_cons, ih, getD_keep, List.append_assoc, ← List.filter_append]
      rfl
  exact hfold (t.candidates q) ∅

theorem eq_admitted_of_mem_kept {q : MembershipQuery} {e : Link × List Record}
    (h : e ∈ (t.kept q).entries) : e.2 = t.admitted q e.1 := by
  rw [← getD_kept, ((t.kept q).get?_eq_some_iff e.1 e.2).2 h]
  rfl

/-- A link with admitted candidates has an entry. -/
theorem mem_kept_of_ne_nil {q : MembershipQuery} {link : Link} (h : t.admitted q link ≠ []) :
    (link, t.admitted q link) ∈ (t.kept q).entries := by
  rw [← SortedMap.get?_eq_some_iff]
  rw [← getD_kept] at h ⊢
  cases hget : (t.kept q).get? link with
  | none =>
    rw [hget] at h
    exact absurd rfl h
  | some found => rfl

/-! ## Results -/

/-- The rows that a search returns, before they are ordered and paged. -/
def survivors (q : MembershipQuery) : List Record := (t.kept q).values.filterMap highest?

/-- The rows that a search removes as duplicates. -/
def outranked (q : MembershipQuery) : List Record := (t.kept q).values.flatMap duplicates

theorem mem_survivors {q : MembershipQuery} {r : Record} :
    r ∈ t.survivors q ↔ ∃ link, highest? (t.admitted q link) = some r := by
  rw [survivors, List.mem_filterMap]
  constructor
  · rintro ⟨found, hfound, hhighest⟩
    obtain ⟨e, he, rfl⟩ := List.mem_map.1 hfound
    rw [t.eq_admitted_of_mem_kept he] at hhighest
    exact ⟨e.1, hhighest⟩
  · rintro ⟨link, hhighest⟩
    have hne : t.admitted q link ≠ [] := by
      intro hempty
      rw [highest?_eq_none_iff.2 hempty] at hhighest
      cases hhighest
    exact ⟨_, List.mem_map.2 ⟨_, t.mem_kept_of_ne_nil hne, rfl⟩, hhighest⟩

theorem mem_outranked {q : MembershipQuery} {r : Record} :
    r ∈ t.outranked q ↔ ∃ link, r ∈ duplicates (t.admitted q link) := by
  rw [outranked, List.mem_flatMap]
  constructor
  · rintro ⟨found, hfound, hr⟩
    obtain ⟨e, he, rfl⟩ := List.mem_map.1 hfound
    rw [t.eq_admitted_of_mem_kept he] at hr
    exact ⟨e.1, hr⟩
  · rintro ⟨link, hr⟩
    have hne : t.admitted q link ≠ [] := List.ne_nil_of_mem (mem_of_mem_duplicates hr)
    exact ⟨_, List.mem_map.2 ⟨_, t.mem_kept_of_ne_nil hne, rfl⟩, hr⟩

theorem drop_drop (first second : List Record) :
    (t.drop first).drop second = t.drop (first ++ second) := by
  have hrelations : RecordTable.without (t.relations.without (first.map (·.oid)))
      (second.map (·.oid)) = t.relations.without ((first ++ second).map (·.oid)) := by
    apply SortedMap.ext_get?
    intro oid
    rw [RecordTable.get?_without, RecordTable.get?_without, RecordTable.get?_without]
    by_cases hsecond : oid ∈ second.map (·.oid)
    · simp only [hsecond, List.map_append, List.mem_append, or_true, if_true]
    · simp only [hsecond, List.map_append, List.mem_append, or_false, if_false]
  show { t with relations := _ } = { t with relations := _ }
  rw [← hrelations]
  rfl

theorem run_collapseAll (lists : List (List Record)) :
    run (collapseAll lists) t =
      (.ok (lists.filterMap highest?), t.drop (lists.flatMap duplicates)) := by
  induction lists generalizing t with
  | nil =>
    rw [List.flatMap_nil, drop_nil]
    rfl
  | cons rows rest ih =>
    unfold collapseAll
    rw [run_bind_of_ok (t.run_collapse rows), run_bind_of_ok (ih _), run_pure, drop_drop,
      List.filterMap_cons, List.flatMap_cons]
    cases highest? rows with
    | none => rfl
    | some keep => rfl

/-- The tables that a search leaves. -/
def afterFind (q : MembershipQuery) : MembershipTables :=
  ((t.candidates q).foldl repair t).drop (t.outranked q)

/-- The result of a valid query and the tables that are left. -/
theorem run_find {q : MembershipQuery} (valid : q.validate = .ok ()) :
    run (find q) t =
      (.ok ((q.paging.orderAndPage (t.survivors q)).filterMap Relationship.ofRecord?),
        t.afterFind q) := by
  obtain ⟨search, hfetch, hsound, hempty⟩ := t.run_fetch valid
  obtain ⟨search', hcheck, hkept⟩ := run_checkRows hsound q (t.candidates q)
  have hkept' : search'.kept = t.kept q := by
    rw [hkept, hempty]
    rfl
  have hvalid : run (Program.ofExcept q.validate : MembershipProgram Unit) t = (.ok (), t) := by
    rw [valid]
    rfl
  unfold find
  rw [run_bind_of_ok hvalid, run_bind_of_ok hfetch, run_bind_of_ok hcheck, hkept',
    run_bind_of_ok (run_collapseAll _ _)]
  rfl

/-- An invalid query is refused and changes nothing. -/
theorem run_find_of_invalid {q : MembershipQuery} {e : StoreError}
    (invalid : q.validate = .error e) :
    run (find q) t = (.error e, t) := by
  unfold find
  rw [invalid]
  rfl

end MembershipTables

end TieredStore
