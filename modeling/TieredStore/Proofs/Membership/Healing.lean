import TieredStore.Proofs.Membership.PairRows
import TieredStore.Proofs.Membership.SeparateBases

/-!
# What healing a pair removes

Resolving or adding a pair of which a side is not stored removes all rows that name such a side
and keeps every other row as it is.  Resolving a pair that is intact removes rows of the pair
alone, each because the pair has a higher one.  Groups and members are never changed.

Main results:

- Theorem `MembershipTables.healed_healLink`: healing removes the rows of missing sides, and no
  others.
- Theorem `MembershipTables.collapsed_drop`: collapsing a pair removes lower rows of the pair, and
  no others.
- Theorem `MembershipBases.heals_orphans_only`: both for a membership over base stores.
-/

namespace TieredStore

open Std

instance (r : Record) (side : Side) (oid : Oid) : Decidable (Link.Names r side oid) :=
  inferInstanceAs (Decidable (_ = _))

namespace MembershipTables

variable {t t' : MembershipTables} {link : Link} {fresh : Oid}

/-! ## Tables that lose rows -/

/-- Whether rows of links are removed, and nothing else changes. -/
structure Shrinks (before after : MembershipTables) : Prop where
  rows : ∀ oid, after.relations.get? oid = before.relations.get? oid ∨
    after.relations.get? oid = none
  groups : after.groups = before.groups
  members : after.members = before.members

namespace Shrinks

theorem refl (t : MembershipTables) : Shrinks t t := ⟨fun _ => .inl rfl, rfl, rfl⟩

theorem trans {t'' : MembershipTables} (h : Shrinks t t') (h' : Shrinks t' t'') :
    Shrinks t t'' where
  rows oid := by
    rcases h'.rows oid with hsame | hnone
    · rw [hsame]
      exact h.rows oid
    · exact .inr hnone
  groups := h'.groups.trans h.groups
  members := h'.members.trans h.members

/-- Rows that are dropped are removed. -/
theorem drop (t : MembershipTables) (dropped : List Record) : Shrinks t (t.drop dropped) where
  rows oid := by
    show (t.relations.without _).get? oid = _ ∨ (t.relations.without _).get? oid = _
    rw [RecordTable.get?_without]
    split
    · exact .inr rfl
    · exact .inl rfl
  groups := rfl
  members := rfl

/-- Healing removes rows. -/
theorem healLink (t : MembershipTables) (link : Link) : Shrinks t (t.healLink link) := by
  have hheal : ∀ (t : MembershipTables) side oid, Shrinks t (t.heal side oid) := by
    intro t side oid
    unfold heal
    split
    · exact refl t
    · exact drop t _
  exact (hheal t .group link.group).trans (hheal _ .member link.member)

/-- A row that is left was there before. -/
theorem get?_of_get? (h : Shrinks t t') {oid : Oid} {fields : Fields}
    (hget : t'.relations.get? oid = some fields) : t.relations.get? oid = some fields := by
  rcases h.rows oid with hsame | hnone
  · rw [← hsame, hget]
  · rw [hnone] at hget
    cases hget

/-- A row that is still listed is left as it was. -/
theorem get?_of_mem (h : Shrinks t t') {oid : Oid} {fields : Fields}
    (hget : t.relations.get? oid = some fields) (hmem : Record.loaded oid fields ∈ t'.rows) :
    t'.relations.get? oid = some fields := by
  obtain ⟨fields', hget', -⟩ := (RecordTable.mem_records _ _).1 hmem
  rcases h.rows oid with hsame | hnone
  · rw [hsame, hget]
  · have hthere : t'.relations.get? oid = some fields' := hget'
    rw [hnone] at hthere
    cases hthere

end Shrinks

/-- A stored row is listed. -/
theorem mem_rows_of_get? {oid : Oid} {fields : Fields}
    (hget : t.relations.get? oid = some fields) : Record.loaded oid fields ∈ t.rows :=
  (RecordTable.mem_records _ _).2 ⟨fields, hget, rfl⟩

/-! ## Pairs with a missing side -/

/-- What is left of the tables after a pair was healed. -/
structure Healed (before after : MembershipTables) (link : Link) : Prop where
  /-- No row names a side that is not stored. -/
  purged : ∀ r ∈ after.rows, ∀ side, before.stores side (link.side side) = false →
    ¬Link.Names r side (link.side side)
  /-- A row that names no such side stays as it is. -/
  kept : ∀ oid fields, before.relations.get? oid = some fields →
    (∀ side, before.stores side (link.side side) = false →
      ¬Link.Names (Record.loaded oid fields) side (link.side side)) →
    after.relations.get? oid = some fields
  /-- No row is added or changed. -/
  nothingElse : ∀ oid fields, after.relations.get? oid = some fields →
    before.relations.get? oid = some fields

/-- Healing removes the rows of sides that are not stored, and no others. -/
theorem healed_healLink (texts : t.TextLinks) (plain : link.Plain) :
    Healed t (t.healLink link) link := by
  have hnames : ∀ r ∈ t.rows, ∀ side,
      (Link.sidePredicate side (link.side side)).holds r.fields = true ↔
        Link.Names r side (link.side side) :=
    fun r hr side => (texts.hasNoLookalikes plain).holds_iff hr side
  refine ⟨fun r hr side hmissing hnamed => ?_, fun oid fields hget hunnamed => ?_,
    fun oid fields hget => (Shrinks.healLink t link).get?_of_get? hget⟩
  · obtain ⟨hold, hsides⟩ := t.mem_rows_healLink.1 hr
    rcases hsides side with hstored | hrejected
    · rw [hmissing] at hstored
      cases hstored
    · rw [(hnames r hold side).2 hnamed] at hrejected
      cases hrejected
  · have hrow := mem_rows_of_get? hget
    refine (Shrinks.healLink t link).get?_of_mem hget (t.mem_rows_healLink.2 ⟨hrow, fun side => ?_⟩)
    cases hstored : t.stores side (link.side side) with
    | true => exact .inl rfl
    | false =>
      refine .inr (Bool.eq_false_iff.2 fun hholds => ?_)
      exact hunnamed side hstored ((hnames _ hrow side).1 hholds)

/-! ## Pairs that are intact -/

/-- What is left of the tables after a pair was collapsed. -/
structure Collapsed (before after : MembershipTables) (link : Link) : Prop where
  /-- A row that is removed is one of the pair, which has a row with a higher OID left. -/
  lower : ∀ oid fields, before.relations.get? oid = some fields →
    after.relations.get? oid = some fields ∨
      Record.loaded oid fields ∈ before.rowsOf link ∧
        ∃ keep ∈ after.rowsOf link, compare oid keep.oid = .lt
  /-- No row is added or changed. -/
  nothingElse : ∀ oid fields, after.relations.get? oid = some fields →
    before.relations.get? oid = some fields

/-- Collapsing a pair removes lower rows of the pair, and no others. -/
theorem collapsed_drop (t : MembershipTables) (link : Link) :
    Collapsed t (t.drop (Membership.duplicates (t.rowsOf link))) link := by
  have hshrinks := Shrinks.drop t (Membership.duplicates (t.rowsOf link))
  refine ⟨fun oid fields hget => ?_, fun oid fields hget => hshrinks.get?_of_get? hget⟩
  have hrow := mem_rows_of_get? hget
  have hduplicates : ∀ r ∈ Membership.duplicates (t.rowsOf link), r ∈ t.rows :=
    fun r hr => (mem_rowsOf.1 (Membership.mem_of_mem_duplicates hr)).1
  by_cases hdropped : Record.loaded oid fields ∈ Membership.duplicates (t.rowsOf link)
  · right
    -- The row that is kept has a higher OID, since no two rows have the same one.
    have hpair := Membership.mem_of_mem_duplicates hdropped
    obtain ⟨keep, hkeep⟩ := Membership.exists_highest? hpair
    have hne := ((mem_duplicates_rowsOf hkeep).1 hdropped).2
    obtain ⟨hkeepRow, hhighest⟩ := Membership.highest?_eq_some hkeep
    have hleft : keep ∈ (t.drop (Membership.duplicates (t.rowsOf link))).rowsOf link := by
      rw [rowsOf_drop_duplicates hkeep]
      exact List.mem_singleton_self keep
    refine ⟨hpair, keep, hleft, ?_⟩
    have hle : (compare oid keep.oid).isLE = true := hhighest _ hpair
    rcases hcompare : compare oid keep.oid with _ | _ | _
    · rfl
    · have hoid : oid = keep.oid := LawfulEqOrd.eq_of_compare hcompare
      exact absurd (t.row_eq_of_oid hrow (mem_rowsOf.1 hkeepRow).1 hoid) hne
    · rw [hcompare] at hle
      cases hle
  · left
    exact hshrinks.get?_of_mem hget ((t.mem_rows_drop_of_rows hduplicates).2 ⟨hrow, hdropped⟩)

/-- Resolving a pair that is intact keeps its highest row. -/
theorem run_resolve_of_intact (texts : t.TextLinks) (plain : link.Plain)
    (hstored : t.storesLink link = true) :
    ∃ found, run (Membership.resolve link) t =
      (.ok found, t.drop (Membership.duplicates (t.rowsOf link))) := by
  rw [run_resolve, if_pos hstored, run_collapsePair, select_predicate texts plain]
  exact ⟨_, rfl⟩

/-- Adding a pair changes neither groups nor members. -/
theorem run_add_of_intact (texts : t.TextLinks) (plain : link.Plain)
    (hstored : t.storesLink link = true) (fresh : Oid) :
    ∃ found t', run (Membership.add fresh link) t = (.ok found, t') ∧
      t'.groups = t.groups ∧ t'.members = t.members := by
  rw [run_add_of_stores texts plain hstored]
  cases Membership.highest? (t.rowsOf link) with
  | some keep => exact ⟨_, _, rfl, rfl, rfl⟩
  | none => exact ⟨_, _, rfl, rfl, rfl⟩

end MembershipTables

/-! ## Memberships over base stores -/

namespace MembershipBases

open MembershipTables (Healed Collapsed Shrinks)

variable {bases : MembershipBases} {s : Storage} {t : MembershipTables} {link : Link}

/-- A pair is resolved on the stores as on the tables that they keep. -/
theorem run_resolve_holds (h : bases.Holds s t) {result : Except StoreError (Option Relationship)}
    {t' : MembershipTables}
    (hrun : MembershipTables.run (Membership.resolve link) t = (result, t')) :
    ∃ s', bases.membership.run (Membership.resolve link) s = (result, s') ∧ bases.Holds s' t' := by
  obtain ⟨hresult, hholds⟩ := run_holds_of_fits h (Membership.makes_resolve link)
  rw [hrun] at hresult hholds
  exact ⟨_, Prod.ext hresult rfl, hholds⟩

/-- A pair is added to the stores, under an OID that is drawn, as to the tables that they keep. -/
theorem add_holds (h : bases.Holds s t) {result : Except StoreError (Option Relationship)}
    {t' : MembershipTables}
    (hrun : MembershipTables.run (Membership.add (Oid.fresh s.drawn) link) t = (result, t')) :
    ∃ s', bases.membership.add link s = (result, s') ∧ bases.Holds s' t' := by
  obtain ⟨hresult, hholds⟩ :=
    run_holds_of_fits (h.withDrawn (s.drawn + 1)) (Membership.makes_add (Oid.fresh s.drawn) link)
  rw [hrun] at hresult hholds
  exact ⟨_, Prod.ext hresult rfl, hholds⟩

/-- Resolving and adding a pair of which a side is not stored give nothing, remove the rows that
name such a side and keep all others.  Resolving a pair that is intact removes only rows of the
pair that are lower than another one.  Neither changes groups or members. -/
theorem heals_orphans_only (h : bases.Holds s t) (texts : t.TextLinks) (plain : link.Plain) :
    (t.storesLink link = false →
      ∀ operation ∈ [bases.membership.run (Membership.resolve link), bases.membership.add link],
        ∃ s' t', operation s = (.ok none, s') ∧ bases.Holds s' t' ∧ Healed t t' link ∧
          t'.groups = t.groups ∧ t'.members = t.members) ∧
    (t.storesLink link = true →
      (∃ found s' t', bases.membership.run (Membership.resolve link) s = (.ok found, s') ∧
        bases.Holds s' t' ∧ Collapsed t t' link ∧
        t'.groups = t.groups ∧ t'.members = t.members) ∧
      ∃ found s' t', bases.membership.add link s = (.ok found, s') ∧ bases.Holds s' t' ∧
        t'.groups = t.groups ∧ t'.members = t.members) := by
  constructor
  · intro hmissing operation hoperation
    have hnot : ¬t.storesLink link = true := Bool.eq_false_iff.1 hmissing
    have hhealed := MembershipTables.healed_healLink texts plain
    have hshrinks := Shrinks.healLink t link
    have hresolve : MembershipTables.run (Membership.resolve link) t =
        (.ok none, t.healLink link) := by
      rw [MembershipTables.run_resolve, if_neg hnot]
    have hadd : MembershipTables.run (Membership.add (Oid.fresh s.drawn) link) t =
        (.ok none, t.healLink link) := by
      rw [MembershipTables.run_add, if_neg hnot]
    rw [List.mem_pair] at hoperation
    rcases hoperation with rfl | rfl
    · obtain ⟨s', hrun, hholds⟩ := run_resolve_holds h hresolve
      exact ⟨s', _, hrun, hholds, hhealed, hshrinks.groups, hshrinks.members⟩
    · obtain ⟨s', hrun, hholds⟩ := add_holds h hadd
      exact ⟨s', _, hrun, hholds, hhealed, hshrinks.groups, hshrinks.members⟩
  · intro hstored
    constructor
    · obtain ⟨found, hresolve⟩ := MembershipTables.run_resolve_of_intact texts plain hstored
      obtain ⟨s', hrun, hholds⟩ := run_resolve_holds h hresolve
      exact ⟨found, s', _, hrun, hholds, MembershipTables.collapsed_drop t link, rfl, rfl⟩
    · obtain ⟨found, t', hadd, hgroups, hmembers⟩ :=
        MembershipTables.run_add_of_intact texts plain hstored (Oid.fresh s.drawn)
      obtain ⟨s', hrun, hholds⟩ := add_holds h hadd
      exact ⟨found, s', t', hrun, hholds, hgroups, hmembers⟩

/-- Groups and members in memory, links in a database: of a group that is gone one row is left,
and resolving a pair of it removes this row and keeps that of another group. -/
theorem heals_orphans_only_mixed :
    let place : MembershipTable → RecordBase
      | .groups => .memory "groups" ⟨0⟩
      | .members => .memory "members" ⟨1⟩
      | .relations => .relational "links" ⟨0⟩
    let g : Oid := ⟨"g", by decide⟩
    let m : Oid := ⟨"m", by decide⟩
    let link : Link := ⟨⟨"gone", by decide⟩, m⟩
    let kept : RecordUpdate := ⟨⟨"r1", by decide⟩, (Link.mk g m).fields, ∅, true⟩
    let orphan : RecordUpdate := ⟨⟨"r2", by decide⟩, link.fields, ∅, true⟩
    let s : Storage := {
      records := ⟨#[.ofList [(g, ∅)], .ofList [(m, ∅)]]⟩
      databases := ⟨#[((({ ready := true } : Database).apply "links" kept).apply "links" orphan)]⟩ }
    let t : MembershipTables := {
      groups := .ofList [(g, ∅)]
      members := .ofList [(m, ∅)]
      relations := ((∅ : RecordTable).apply kept).apply orphan }
    ∃ bases : MembershipBases, bases.base = place ∧ bases.Holds s t ∧ t.TextLinks ∧ link.Plain ∧
      t.storesLink link = false ∧
      ∃ s' t', bases.membership.run (Membership.resolve link) s = (.ok none, s') ∧
        bases.Holds s' t' ∧ t'.relations.get? kept.oid = some kept.fields ∧
        t'.relations.get? orphan.oid = none := by
  intro place g m link kept orphan s t
  let bases : MembershipBases := ⟨place, by
    intro a b hsame
    cases a <;> cases b <;> first | rfl | (revert hsame; decide)⟩
  have blank : ({ ready := true } : Database).IsBlank "links" :=
    ⟨rfl, fun _ => rfl, fun _ _ => rfl⟩
  have hrows : (s.cell (⟨0⟩ : Ref Database)).Represents "links" t.relations :=
    ((Database.Represents.of_isBlank blank).apply kept).apply orphan
  have hcell : ∀ ref : Ref RecordTable, ref.index < 2 → s.Holds ref := fun _ h => h
  have hholds : bases.Holds s t := by
    refine ⟨fun a => ?_, fun a => ?_⟩
    · cases a with
      | groups => exact ⟨hcell ⟨0⟩ (by decide), rfl⟩
      | members => exact ⟨hcell ⟨1⟩ (by decide), rfl⟩
      | relations => exact ⟨RecordStore.holds_of_ready _ hrows.ready, hrows.keeps⟩
    · cases a with
      | groups => trivial
      | members => trivial
      | relations => exact hrows.ready
  have htexts : t.TextLinks := by decide +kernel
  have plain : link.Plain := by decide +kernel
  have hmissing : t.storesLink link = false := by decide +kernel
  obtain ⟨s', t', hrun, hholds', hhealed, -, -⟩ :=
    (heals_orphans_only hholds htexts plain).1 hmissing _ List.mem_cons_self
  refine ⟨bases, rfl, hholds, htexts, plain, hmissing, s', t', hrun, hholds', ?_, ?_⟩
  · exact hhealed.kept _ _ (by decide +kernel) (Side.forall_iff.2 (by decide +kernel))
  · rw [Option.eq_none_iff_forall_ne_some]
    intro fields hget
    have hfields : t.relations.get? orphan.oid = some link.fields := by decide +kernel
    have hsame := hhealed.nothingElse _ _ hget
    rw [hfields] at hsame
    obtain rfl := Option.some.inj hsame
    exact hhealed.purged _ (MembershipTables.mem_rows_of_get? hget) .group (by decide +kernel)
      (by decide +kernel)

end MembershipBases

end TieredStore
