import TieredStore.Proofs.Membership.Search

/-!
# What a search may lose

A search repairs links on its way.  A link is live if both of its sides are stored; a search
that removes a live link has to leave a higher row of the same link.  This is so if and only
if no live link has a twin: an OID that spells the same number as one of its sides, and that is
stored on that side or named there by another row.

Main results:

- Theorem `MembershipTables.NoLiveTwins.not_condemns`: checking a candidate does not remove a
  live link.
- Theorem `MembershipTables.NoLiveTwins.nodup_admitted`: no route fetches a live link twice.
- Theorem `MembershipTables.forall_safe_iff`: all searches are safe if and only if no live link
  has a twin.
- Theorem `MembershipTables.not_safe_twin`: a search through the groups `1` and `01` returns the
  link of the first one and removes it.
-/

namespace TieredStore

open Std TieredStore.Membership

namespace MembershipTables

variable (t : MembershipTables)

/-! ## Safe searches -/

/-- A row whose link has both of its sides stored. -/
structure Live (t : MembershipTables) (r : Record) (link : Link) : Prop where
  row : r ∈ t.rows
  holds : Link.ofRecord? r = some link
  stored : ∀ side, t.stores side (link.side side) = true

/-- A row that may be missing afterwards: it is malformed, or one of its sides is not stored,
or there is a higher row of the same link. -/
def Dispensable (t after : MembershipTables) (r : Record) : Prop :=
  ∀ link, Link.ofRecord? r = some link →
    (∃ side, t.stores side (link.side side) = false) ∨
      ∃ s ∈ after.rows, Link.ofRecord? s = some link ∧ compare r.oid s.oid = .lt

/-- What a search that succeeds owes to the links: what it returns is still stored, and what it
deletes is dispensable. -/
structure Safe (t : MembershipTables) (q : MembershipQuery) : Prop where
  returned : ∀ found, (run (find q) t).1 = .ok found →
    ∀ relationship ∈ found, relationship.record ∈ (run (find q) t).2.rows
  deleted : ∀ found, (run (find q) t).1 = .ok found →
    ∀ r, Deleted t (run (find q) t).2 r → t.Dispensable (run (find q) t).2 r

/-- No twin of a side of a live link is stored on that side or named there by a row. -/
def NoLiveTwins : Prop :=
  ∀ r link, t.Live r link → ∀ side oid, (link.side side).Twins oid →
    t.stores side oid = false ∧
      ∀ s ∈ t.rows, ∀ other, Link.ofRecord? s = some other → other.side side ≠ oid

/-! ## What is left after a search -/

theorem mem_rows_of_mem_outranked {q : MembershipQuery} {r : Record} (h : r ∈ t.outranked q) :
    r ∈ t.rows := by
  obtain ⟨link, hr⟩ := t.mem_outranked.1 h
  exact t.mem_rows_of_mem_admitted (mem_of_mem_duplicates hr)

theorem mem_rows_afterFind {q : MembershipQuery} {r : Record} :
    r ∈ (t.afterFind q).rows ↔
      r ∈ t.rows ∧ (∀ candidate ∈ t.candidates q, ¬t.Condemns candidate r) ∧ r ∉ t.outranked q := by
  rw [afterFind, mem_rows_drop, mem_rows_foldl_repair, and_assoc]
  refine and_congr_right fun hr => and_congr_right fun _ => not_congr ?_
  rw [List.mem_map]
  constructor
  · rintro ⟨s, hs, hoid⟩
    rw [← t.row_eq_of_oid (t.mem_rows_of_mem_outranked hs) hr hoid]
    exact hs
  · intro h
    exact ⟨r, h, rfl⟩

theorem deleted_afterFind_iff {q : MembershipQuery} {r : Record} :
    Deleted t (t.afterFind q) r ↔ r ∈ t.rows ∧ r ∉ (t.afterFind q).rows :=
  deleted_iff fun _ hs => (t.mem_rows_afterFind.1 hs).1

variable {t} {q : MembershipQuery} {r : Record} {link : Link}

/-- A row that is admitted under a link is live. -/
theorem live_of_admits? (hr : r ∈ t.rows) (h : t.admits? q r = some link) : t.Live r link := by
  obtain ⟨hlink, hpasses⟩ := admits?_eq_some_iff.1 h
  refine ⟨hr, hlink, ?_⟩
  intro side
  obtain ⟨s, hs, -⟩ := passes_iff.1 (hpasses side)
  exact t.stores_iff.2 ⟨s, hs⟩

theorem live_of_mem_admitted (h : r ∈ t.admitted q link) : t.Live r link :=
  live_of_admits? (t.mem_rows_of_mem_admitted h) (t.mem_admitted.1 h).2

/-- A live link is accepted for its own OID and its twins. -/
theorem Live.holds_iff (h : t.Live r link) (side : Side) (oid : Oid) :
    (Link.sidePredicate side oid).holds r.fields = true ↔
      link.side side = oid ∨ (link.side side).Twins oid :=
  Link.holds_sidePredicate_of_side ((Link.ofRecord?_eq_some_iff r link).1 h.holds side) oid

namespace NoLiveTwins

/-! ## Without twins -/

/-- Checking a candidate does not remove a live link. -/
theorem not_condemns (h : t.NoLiveTwins) (live : t.Live r link) {candidate : Record}
    (hcandidate : candidate ∈ t.rows) : ¬t.Condemns candidate r := by
  unfold Condemns
  cases hother : Link.ofRecord? candidate with
  | none =>
    intro hoid
    have hsame := t.row_eq_of_oid live.row hcandidate hoid
    rw [← hsame, live.holds] at hother
    cases hother
  | some other =>
    rintro ⟨side, hmissing, hholds⟩
    rcases (live.holds_iff side _).1 hholds with hoid | htwins
    · have hstored := live.stored side
      rw [hoid, hmissing] at hstored
      cases hstored
    · exact (h r link live side _ htwins).2 candidate hcandidate other hother rfl

/-- The own record of a live link is the only stored one that it is found for. -/
theorem eq_of_holds (h : t.NoLiveTwins) (live : t.Live r link) {side : Side} {oid : Oid}
    (hstored : t.stores side oid = true)
    (hholds : (Link.sidePredicate side oid).holds r.fields = true) : link.side side = oid := by
  rcases (live.holds_iff side oid).1 hholds with hoid | htwins
  · exact hoid
  · have hmissing := (h r link live side oid htwins).1
    rw [hstored] at hmissing
    cases hmissing

/-- Going through the records of a side finds a live link once. -/
theorem nodup_fanOut (h : t.NoLiveTwins) (q : MembershipQuery) (side : Side) (p : Predicate)
    {accept : Record → Bool} (live : ∀ r ∈ t.rows, accept r = true → ∃ link, t.Live r link) :
    ((t.fanOut q side p).filter accept).Nodup := by
  rw [fanOut, List.filter_flatMap, List.nodup_flatMap]
  refine ⟨fun s _ => (t.nodup_select _).filter _, ?_⟩
  have hdistinct : (t.selectSide side p).Pairwise fun a b => a.oid ≠ b.oid := by
    have hnodup := (t.table side.table).nodup_oids
    rw [List.Nodup, List.pairwise_map] at hnodup
    exact hnodup.filter _
  refine hdistinct.imp_of_mem ?_
  intro a b ha hb hne
  refine List.disjoint_left.2 ?_
  intro r hra hrb
  obtain ⟨hselected, haccept⟩ := List.mem_filter.1 hra
  obtain ⟨hrow, hholdsA⟩ := t.mem_select.1 hselected
  obtain ⟨-, hholdsB⟩ := t.mem_select.1 (List.mem_filter.1 hrb).1
  obtain ⟨link, hlive⟩ := live r hrow haccept
  have hstored : ∀ s ∈ t.selectSide side p, t.stores side s.oid = true := by
    intro s hs
    exact t.stores_iff.2 ⟨s, find?_of_mem_selectSide hs⟩
  have hoidA := h.eq_of_holds hlive (hstored a ha) ((holds_narrow_iff _ _).1 hholdsA).1
  have hoidB := h.eq_of_holds hlive (hstored b hb) ((holds_narrow_iff _ _).1 hholdsB).1
  exact hne (hoidA.symm.trans hoidB)

/-- No route fetches a live link twice. -/
theorem nodup_admitted (h : t.NoLiveTwins) (q : MembershipQuery) (link : Link) :
    (t.admitted q link).Nodup := by
  have hlive : ∀ r ∈ t.rows, decide (t.admits? q r = some link) = true →
      ∃ link, t.Live r link := by
    intro r hr hadmits
    exact ⟨link, live_of_admits? hr (of_decide_eq_true hadmits)⟩
  unfold admitted candidates
  split
  · exact (t.nodup_select _).filter _
  · exact (t.nodup_select _).filter _
  · exact (t.nodup_select _).filter _
  · split
    · exact h.nodup_fanOut q .group _ hlive
    · exact (t.nodup_select _).filter _
    · exact h.nodup_fanOut q .member _ hlive
    · exact t.nodup_rows.filter _

/-- What is kept of a link is no duplicate. -/
theorem not_mem_outranked (h : t.NoLiveTwins)
    (hhighest : highest? (t.admitted q link) = some r) : r ∉ t.outranked q := by
  intro houtranked
  obtain ⟨other, hduplicate⟩ := t.mem_outranked.1 houtranked
  have hkept := live_of_mem_admitted (highest?_eq_some hhighest).1
  have hother := live_of_mem_admitted (mem_of_mem_duplicates hduplicate)
  have hlink : other = link := Option.some.inj (hother.holds.symm.trans hkept.holds)
  rw [hlink] at hduplicate
  have hnodup := (perm_of_highest? hhighest).nodup_iff.2 (h.nodup_admitted q link)
  exact (List.nodup_cons.1 hnodup).1 hduplicate

/-- What is kept of a link is still stored. -/
theorem mem_rows_of_highest? (h : t.NoLiveTwins)
    (hhighest : highest? (t.admitted q link) = some r) : r ∈ (t.afterFind q).rows := by
  have hlive := live_of_mem_admitted (highest?_eq_some hhighest).1
  refine t.mem_rows_afterFind.2 ⟨hlive.row, ?_, h.not_mem_outranked hhighest⟩
  intro candidate hcandidate
  exact h.not_condemns hlive (t.mem_rows_of_mem_candidates hcandidate)

/-- A live link that is removed leaves a higher row. -/
theorem dispensable (h : t.NoLiveTwins) (hr : r ∈ t.rows) (hgone : r ∉ (t.afterFind q).rows) :
    t.Dispensable (t.afterFind q) r := by
  intro link hlink
  by_cases hstored : ∀ side, t.stores side (link.side side) = true
  · right
    have hlive : t.Live r link := ⟨hr, hlink, hstored⟩
    have houtranked : r ∈ t.outranked q := by
      by_contra hkept
      apply hgone
      refine t.mem_rows_afterFind.2 ⟨hr, ?_, hkept⟩
      intro candidate hcandidate
      exact h.not_condemns hlive (t.mem_rows_of_mem_candidates hcandidate)
    obtain ⟨other, hduplicate⟩ := t.mem_outranked.1 houtranked
    have hadmitted := mem_of_mem_duplicates hduplicate
    have hother : other = link :=
      Option.some.inj ((live_of_mem_admitted hadmitted).holds.symm.trans hlink)
    rw [hother] at hduplicate hadmitted
    obtain ⟨keep, hhighest⟩ := exists_highest? hadmitted
    obtain ⟨hkeep, habove⟩ := highest?_eq_some hhighest
    have hkeepLive := live_of_mem_admitted hkeep
    refine ⟨keep, h.mem_rows_of_highest? hhighest, hkeepLive.holds, ?_⟩
    have hne : compare r.oid keep.oid ≠ .eq := by
      intro heq
      have hsame := t.row_eq_of_oid hr hkeepLive.row (LawfulEqOrd.eq_of_compare heq)
      rw [hsame] at houtranked
      exact h.not_mem_outranked hhighest houtranked
    have hle := habove r hadmitted
    cases hcompare : compare r.oid keep.oid with
    | lt => rfl
    | eq => exact absurd hcompare hne
    | gt =>
      rw [hcompare] at hle
      cases hle
  · left
    push Not at hstored
    obtain ⟨side, hmissing⟩ := hstored
    exact ⟨side, Bool.eq_false_iff.2 hmissing⟩

/-- Without twins every search is safe. -/
theorem safe (h : t.NoLiveTwins) (q : MembershipQuery) : t.Safe q := by
  cases hvalid : q.validate with
  | error e =>
    have hrun := t.run_find_of_invalid hvalid
    constructor
    · intro found hfound
      rw [hrun] at hfound
      cases hfound
    · intro found hfound
      rw [hrun] at hfound
      cases hfound
  | ok u =>
    have hrun := t.run_find hvalid
    constructor
    · intro found hfound relationship hrelationship
      rw [hrun] at hfound ⊢
      cases hfound
      obtain ⟨r, hr, hrecord⟩ := List.mem_filterMap.1 hrelationship
      obtain ⟨link, hhighest⟩ := t.mem_survivors.1 (Query.mem_of_mem_orderAndPage hr)
      obtain ⟨other, -, rfl⟩ := Option.map_eq_some_iff.1 hrecord
      exact h.mem_rows_of_highest? hhighest
    · intro found hfound r hdeleted
      rw [hrun] at hdeleted ⊢
      obtain ⟨hr, hgone⟩ := t.deleted_afterFind_iff.1 hdeleted
      exact h.dispensable hr hgone

end NoLiveTwins

/-! ## With a twin -/

/-- A row that is found for two records is found twice. -/
theorem two_le_count_flatMap {α β : Type} [DecidableEq β] {found : List α} {rows : α → List β}
    {a b : α} {x : β} (ha : a ∈ found) (hb : b ∈ found) (hne : a ≠ b) (hxa : x ∈ rows a)
    (hxb : x ∈ rows b) : 2 ≤ (found.flatMap rows).count x := by
  have hpos : ∀ {c : α} {rest : List α}, c ∈ rest → x ∈ rows c →
      0 < (rest.flatMap rows).count x := by
    intro c rest hc hx
    exact List.count_pos_iff.2 (List.mem_flatMap.2 ⟨c, hc, hx⟩)
  induction found with
  | nil => cases ha
  | cons c rest ih =>
    rw [List.flatMap_cons, List.count_append]
    rcases List.mem_cons.1 ha with rfl | ha'
    · have hb' : b ∈ rest := (List.mem_cons.1 hb).resolve_left fun h => hne h.symm
      have hfirst := List.count_pos_iff.2 hxa
      have hrest := hpos hb' hxb
      omega
    · rcases List.mem_cons.1 hb with rfl | hb'
      · have hfirst := List.count_pos_iff.2 hxb
        have hrest := hpos ha' hxa
        omega
      · have hrest := ih ha' hb'
        omega

/-- The query for all links, through the records of a side. -/
def fanOutQuery : Side → MembershipQuery
  | .group => { groupFilter := some (.all []) }
  | .member => { memberFilter := some (.all []) }

theorem validate_fanOutQuery (side : Side) : (fanOutQuery side).validate = .ok () := by
  cases side <;> rfl

theorem candidates_fanOutQuery (side : Side) :
    t.candidates (fanOutQuery side) = t.fanOut (fanOutQuery side) side (.all []) := by
  cases side <;> rfl

theorem narrow_fanOutQuery (side : Side) (base : Predicate) :
    (fanOutQuery side).narrow base = base := by
  cases side <;> rfl

theorem paging_fanOutQuery (side : Side) : (fanOutQuery side).paging = Query.all := by
  cases side <;> rfl

theorem openFilter_fanOutQuery (side other : Side) :
    openFilter (fanOutQuery side) other = none := by
  cases side <;> cases other <;> rfl

/-- Going through the records of a side, every live link is admitted. -/
theorem Live.admits?_fanOutQuery (h : t.Live r link) (side : Side) :
    t.admits? (fanOutQuery side) r = some link := by
  refine admits?_eq_some_iff.2 ⟨h.holds, ?_⟩
  intro other
  obtain ⟨s, hs⟩ := t.stores_iff.1 (h.stored other)
  refine passes_iff.2 ⟨s, hs, ?_⟩
  intro p hp
  rw [openFilter_fanOutQuery] at hp
  cases hp

/-- A live link is found for every stored record whose OID it is accepted for. -/
theorem Live.mem_select_fanOutQuery (h : t.Live r link) (side : Side) {oid : Oid}
    (hoid : link.side side = oid ∨ (link.side side).Twins oid) :
    r ∈ t.select ((fanOutQuery side).narrow (Link.sidePredicate side oid)) := by
  rw [narrow_fanOutQuery, mem_select]
  exact ⟨h.row, (h.holds_iff side oid).2 hoid⟩

theorem exists_mem_selectSide {side : Side} {oid : Oid} (hstored : t.stores side oid = true) :
    ∃ s ∈ t.selectSide side (.all []), s.oid = oid := by
  obtain ⟨s, hs⟩ := t.stores_iff.1 hstored
  exact ⟨s, mem_selectSide_of_find? hs (Predicate.holds_all _ _)⟩

/-- A live link with a stored twin is a candidate twice. -/
theorem Live.two_le_count_admitted (h : t.Live r link) {side : Side} {oid : Oid}
    (htwins : (link.side side).Twins oid) (hstored : t.stores side oid = true) :
    2 ≤ (t.admitted (fanOutQuery side) link).count r := by
  obtain ⟨own, hown, hownOid⟩ := exists_mem_selectSide (h.stored side)
  obtain ⟨twin, htwin, htwinOid⟩ := exists_mem_selectSide hstored
  have hne : own ≠ twin := by
    intro hsame
    apply htwins.1
    rw [← hownOid, ← htwinOid, hsame]
  have hadmits := h.admits?_fanOutQuery side
  rw [admitted, List.count_filter (by simp [hadmits]), candidates_fanOutQuery]
  refine two_le_count_flatMap hown htwin hne (h.mem_select_fanOutQuery side (Or.inl ?_))
    (h.mem_select_fanOutQuery side (Or.inr ?_))
  · exact hownOid.symm
  · rw [htwinOid]
    exact htwins

/-- A live link with a stored twin is returned and removed by a search through the records of
the side. -/
theorem not_safe_of_stored_twin (live : t.Live r link) {side : Side} {oid : Oid}
    (htwins : (link.side side).Twins oid) (hstored : t.stores side oid = true) :
    ¬t.Safe (fanOutQuery side) := by
  intro hsafe
  have hrun := t.run_find (validate_fanOutQuery side)
  have hadmitted : r ∈ t.admitted (fanOutQuery side) link := by
    have htwice := live.two_le_count_admitted htwins hstored
    exact List.count_pos_iff.1 (by omega)
  obtain ⟨keep, hhighest⟩ := exists_highest? hadmitted
  -- The highest row is a candidate twice as well, so it is kept and removed.
  have hkeep := live_of_mem_admitted (highest?_eq_some hhighest).1
  have hduplicate : keep ∈ duplicates (t.admitted (fanOutQuery side) link) := by
    have hcount := (perm_of_highest? hhighest).count_eq keep
    rw [List.count_cons_self] at hcount
    have htwice := hkeep.two_le_count_admitted htwins hstored
    exact List.count_pos_iff.1 (by omega)
  have hsurvives :
      keep ∈ (fanOutQuery side).paging.orderAndPage (t.survivors (fanOutQuery side)) := by
    rw [paging_fanOutQuery]
    exact Query.mem_orderAndPage_all.2 (t.mem_survivors.2 ⟨link, hhighest⟩)
  have hrelationship : Relationship.ofRecord? keep = some ⟨keep, link⟩ := by
    rw [Relationship.ofRecord?, hkeep.holds]
    rfl
  have hreturned := hsafe.returned _ (congrArg Prod.fst hrun) ⟨keep, link⟩
    (List.mem_filterMap.2 ⟨keep, hsurvives, hrelationship⟩)
  rw [hrun] at hreturned
  exact (t.mem_rows_afterFind.1 hreturned).2.2 (t.mem_outranked.2 ⟨link, hduplicate⟩)

/-- A live link with a twin that a row names is removed, with all rows of the same link, by a
search through all links. -/
theorem not_safe_of_named_twin (live : t.Live r link) {side : Side} {oid : Oid}
    (htwins : (link.side side).Twins oid) (hmissing : t.stores side oid = false) {s : Record}
    (hs : s ∈ t.rows) {other : Link} (hother : Link.ofRecord? s = some other)
    (hnamed : other.side side = oid) : ¬t.Safe {} := by
  intro hsafe
  have hrun := t.run_find (q := {}) rfl
  have hgone : ∀ k, t.Live k link → k ∉ (t.afterFind {}).rows := by
    intro k hk hkept
    apply (t.mem_rows_afterFind.1 hkept).2.1 s hs
    unfold Condemns
    rw [hother]
    refine ⟨side, ?_, ?_⟩
    · rw [hnamed]
      exact hmissing
    · rw [hnamed]
      exact (hk.holds_iff side oid).2 (Or.inr htwins)
  have hdeleted : Deleted t (run (find {}) t).2 r := by
    rw [hrun]
    exact t.deleted_afterFind_iff.2 ⟨live.row, hgone r live⟩
  have hdispensable := hsafe.deleted _ (congrArg Prod.fst hrun) r hdeleted
  rw [hrun] at hdispensable
  rcases hdispensable link live.holds with ⟨missing, hmissing'⟩ | ⟨k, hk, hklink, -⟩
  · rw [live.stored missing] at hmissing'
    cases hmissing'
  · exact hgone k ⟨(t.mem_rows_afterFind.1 hk).1, hklink, live.stored⟩ hk

/-- All searches are safe if and only if no live link has a twin. -/
theorem forall_safe_iff (t : MembershipTables) : (∀ q, t.Safe q) ↔ t.NoLiveTwins := by
  constructor
  · intro hsafe r link live side oid htwins
    cases hstored : t.stores side oid with
    | true => exact absurd (hsafe _) (not_safe_of_stored_twin live htwins hstored)
    | false =>
      refine ⟨rfl, ?_⟩
      intro s hs other hother hnamed
      exact not_safe_of_named_twin live htwins hstored hs hother hnamed (hsafe _)
  · intro h q
    exact h.safe q

/-- The only link of the groups `1` and `01` is returned by a search through both and removed by
it. -/
theorem not_safe_twin :
    let one : Oid := ⟨"1", by decide⟩
    let zeroOne : Oid := ⟨"01", by decide⟩
    let m : Oid := ⟨"m", by decide⟩
    let row : Oid := ⟨"r", by decide⟩
    let fields : Fields := .ofList [("groupID", .text "1"), ("memberID", .text "m")]
    let t : MembershipTables := {
      groups := .ofList [(one, ∅), (zeroOne, ∅)]
      members := .ofList [(m, ∅)]
      relations := .ofList [(row, fields)] }
    let q : MembershipQuery := { groupFilter := some (.all []) }
    (run (find q) t).1 = .ok [⟨Record.loaded row fields, ⟨one, m⟩⟩] ∧
      (run (find q) t).2.rows = [] ∧ ¬t.Safe q := by
  intro one zeroOne m row fields t q
  have hfound : (run (find q) t).1 = .ok [⟨Record.loaded row fields, ⟨one, m⟩⟩] := by
    decide +kernel
  have hrows : (run (find q) t).2.rows = [] := by
    decide +kernel
  refine ⟨hfound, hrows, ?_⟩
  intro hsafe
  have hstored := hsafe.returned _ hfound _ List.mem_cons_self
  rw [hrows] at hstored
  cases hstored

end MembershipTables

end TieredStore
