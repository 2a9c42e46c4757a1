import TieredStore.Proofs.Membership.Tables

/-!
# What repairs remove

Purging a side removes the rows that a look-up of its OID accepts, and collapsing removes
all rows but the one with the highest OID.  The programs on pairs are made of these two.

Main results:

- Theorem `MembershipTables.mem_rows_heal`: links of what is not stored are removed.
- Theorem `Membership.head_byDescendingOid`: the first of descending rows is the highest.
- Theorems `MembershipTables.run_healSides`, `MembershipTables.run_collapse` and
  `MembershipTables.run_collapsePair`: what the programs give and leave.
-/

namespace TieredStore

open Std

namespace MembershipTables

variable (t : MembershipTables)

/-! ## Single steps -/

theorem run_relationsWhere {p : Predicate} (valid : p.validate = .ok ()) :
    run (Membership.relationsWhere p) t = (.ok (t.select p), t) := by
  have hvalid : (Query.filter p).validate = .ok () := by
    show (p.validate >>= fun _ => _) = _
    rw [valid]
    rfl
  have hrows : t.relations.query (Query.filter p) = t.select p :=
    t.relations.query_unpaged (some p)
  have hquery := t.relations.run_query hvalid
  rw [hrows] at hquery
  exact t.run_at_of_read hquery

theorem run_removeRelations (dropped : List Record) :
    run (Membership.removeRelations dropped) t = (.ok (), t.drop dropped) :=
  t.run_at_of_eq .relations (t.relations.run_removeAll (dropped.map (·.oid)))

theorem run_contains (side : Side) (oid : Oid) :
    run ((Records.contains oid).at side.table) t = (.ok (t.stores side oid), t) :=
  t.run_at_of_read ((t.table side.table).run_contains oid)

theorem run_purge (side : Side) (oid : Oid) :
    run (Membership.purge side oid) t =
      (.ok (t.select (Link.sidePredicate side oid)).length,
        t.drop (t.select (Link.sidePredicate side oid))) := by
  unfold Membership.purge
  rw [run_bind_of_ok (t.run_relationsWhere (Link.validate_sidePredicate side oid)),
    run_bind_of_ok (t.run_removeRelations _), run_pure]

/-! ## Healing -/

/-- The tables without the links of an OID that is not stored. -/
def heal (side : Side) (oid : Oid) : MembershipTables :=
  if t.stores side oid then t else t.drop (t.select (Link.sidePredicate side oid))

/-- The tables without the links of either side of a link that is not stored. -/
def healLink (link : Link) : MembershipTables :=
  (t.heal .group link.group).heal .member link.member

@[simp] theorem table_heal (side other : Side) (oid : Oid) :
    (t.heal side oid).table other.table = t.table other.table := by
  unfold heal
  split
  · rfl
  · rw [table_drop]

@[simp] theorem stores_heal (side other : Side) (oid otherOid : Oid) :
    (t.heal side oid).stores other otherOid = t.stores other otherOid := by
  rw [stores, table_heal, stores]

theorem heal_of_stores {side : Side} {oid : Oid} (h : t.stores side oid = true) :
    t.heal side oid = t :=
  if_pos h

/-- The links of what is not stored are removed, and no other rows. -/
theorem mem_rows_heal {side : Side} {oid : Oid} {r : Record} :
    r ∈ (t.heal side oid).rows ↔ r ∈ t.rows ∧
      (t.stores side oid = true ∨ (Link.sidePredicate side oid).holds r.fields = false) := by
  by_cases hstored : t.stores side oid = true
  · rw [t.heal_of_stores hstored]
    simp only [hstored, true_or, and_true]
  · have hselected : ∀ s ∈ t.select (Link.sidePredicate side oid), s ∈ t.rows :=
      fun s hs => (t.mem_select.1 hs).1
    rw [heal, if_neg hstored, t.mem_rows_drop_of_rows hselected, mem_select]
    refine and_congr_right fun hr => ?_
    simp [hr, hstored]

theorem mem_rows_healLink {link : Link} {r : Record} :
    r ∈ (t.healLink link).rows ↔ r ∈ t.rows ∧ ∀ side,
      t.stores side (link.side side) = true ∨
        (Link.sidePredicate side (link.side side)).holds r.fields = false := by
  rw [healLink, mem_rows_heal, mem_rows_heal, stores_heal, and_assoc, Side.forall_iff]
  rfl

theorem run_healSide (side : Side) (oid : Oid) :
    run (Membership.healSide side oid) t = (.ok (t.stores side oid), t.heal side oid) := by
  unfold Membership.healSide
  rw [run_bind_of_ok (t.run_contains side oid)]
  by_cases hstored : t.stores side oid = true
  · rw [if_pos hstored, run_pure, t.heal_of_stores hstored, hstored]
  · rw [if_neg hstored, run_bind_of_ok (t.run_purge side oid), run_pure, heal, if_neg hstored,
      Bool.eq_false_iff.2 hstored]

/-- Whether both sides of a link are stored. -/
def storesLink (link : Link) : Bool :=
  t.stores .group link.group && t.stores .member link.member

theorem healLink_of_stores {link : Link} (h : t.storesLink link = true) : t.healLink link = t := by
  rw [storesLink, Bool.and_eq_true] at h
  rw [healLink, t.heal_of_stores h.1, t.heal_of_stores h.2]

/-- Healing a link tells whether both sides are stored. -/
theorem run_healSides (link : Link) :
    run (Membership.healSides link) t = (.ok (t.storesLink link), t.healLink link) := by
  unfold Membership.healSides
  rw [run_bind_of_ok (t.run_healSide .group link.group),
    run_bind_of_ok ((t.heal .group link.group).run_healSide .member link.member), run_pure,
    stores_heal]
  rfl

end MembershipTables

/-! ## Collapsing -/

namespace Membership

theorem byDescendingOid_perm (rows : List Record) : (byDescendingOid rows).Perm rows :=
  sortBy_perm rows

/-- Rows are sorted by descending OID. -/
theorem pairwise_byDescendingOid (rows : List Record) :
    (byDescendingOid rows).Pairwise fun a b => (compare b.oid a.oid).isLE = true := by
  apply pairwise_sortBy
  · intro a b
    rw [OrientedOrd.eq_swap (a := b.oid)]
    cases compare a.oid b.oid
    · exact Or.inr rfl
    · exact Or.inr rfl
    · exact Or.inl rfl
  · intro a b c hab hbc
    exact TransOrd.isLE_trans hbc hab

/-- The first of descending rows is the highest. -/
theorem head_byDescendingOid {rows duplicates : List Record} {keep : Record}
    (h : byDescendingOid rows = keep :: duplicates) :
    keep ∈ rows ∧ ∀ r ∈ rows, (compare r.oid keep.oid).isLE = true := by
  have hperm := byDescendingOid_perm rows
  have hsorted := pairwise_byDescendingOid rows
  rw [h] at hperm hsorted
  refine ⟨hperm.mem_iff.1 List.mem_cons_self, ?_⟩
  intro r hr
  rcases List.mem_cons.1 (hperm.mem_iff.2 hr) with rfl | hdup
  · rw [ReflOrd.compare_self]
    rfl
  · exact (List.pairwise_cons.1 hsorted).1 r hdup

/-- The row that collapsing keeps. -/
def highest? (rows : List Record) : Option Record := (byDescendingOid rows).head?

/-- The rows that collapsing removes. -/
def duplicates (rows : List Record) : List Record := (byDescendingOid rows).tail

theorem mem_of_mem_duplicates {rows : List Record} {r : Record} (h : r ∈ duplicates rows) :
    r ∈ rows :=
  (byDescendingOid_perm rows).mem_iff.1 (List.mem_of_mem_tail h)

/-- A single row has no duplicates. -/
theorem duplicates_eq_nil {rows : List Record} (hnodup : rows.Nodup)
    (h : ∀ a ∈ rows, ∀ b ∈ rows, a = b) : duplicates rows = [] := by
  have hperm := byDescendingOid_perm rows
  have hsorted := hperm.nodup_iff.2 hnodup
  unfold duplicates
  cases hrows : byDescendingOid rows with
  | nil => rfl
  | cons keep rest =>
    rw [hrows] at hperm hsorted
    cases rest with
    | nil => rfl
    | cons other rest =>
      have hkeep : keep ∈ rows := hperm.mem_iff.1 List.mem_cons_self
      have hother : other ∈ rows := hperm.mem_iff.1 (List.mem_cons_of_mem _ List.mem_cons_self)
      have hsame := h keep hkeep other hother
      exact absurd (hsame ▸ List.mem_cons_self) (List.nodup_cons.1 hsorted).1

theorem highest?_eq_some {rows : List Record} {keep : Record} (h : highest? rows = some keep) :
    keep ∈ rows ∧ ∀ r ∈ rows, (compare r.oid keep.oid).isLE = true := by
  obtain ⟨rest, hrest⟩ := List.head?_eq_some_iff.1 h
  exact head_byDescendingOid hrest

/-- The highest row is followed by its duplicates. -/
theorem perm_of_highest? {rows : List Record} {keep : Record} (h : highest? rows = some keep) :
    (keep :: duplicates rows).Perm rows := by
  obtain ⟨rest, hrest⟩ := List.head?_eq_some_iff.1 h
  have hperm := byDescendingOid_perm rows
  rw [duplicates, hrest]
  rw [hrest] at hperm
  exact hperm

theorem highest?_eq_none_iff {rows : List Record} : highest? rows = none ↔ rows = [] := by
  rw [highest?, List.head?_eq_none_iff]
  constructor
  · intro h
    have hperm := byDescendingOid_perm rows
    rw [h] at hperm
    exact hperm.nil_eq.symm
  · rintro rfl
    rfl

theorem exists_highest? {rows : List Record} {r : Record} (h : r ∈ rows) :
    ∃ keep, highest? rows = some keep := by
  apply Option.ne_none_iff_exists'.1
  intro hnone
  rw [highest?_eq_none_iff.1 hnone] at h
  cases h

end Membership

namespace MembershipTables

variable (t : MembershipTables)

/-- Collapsing keeps the highest row and removes the others. -/
theorem run_collapse (rows : List Record) :
    run (Membership.collapse rows) t =
      (.ok (Membership.highest? rows), t.drop (Membership.duplicates rows)) := by
  unfold Membership.collapse Membership.highest? Membership.duplicates
  cases Membership.byDescendingOid rows with
  | nil =>
    show (Except.ok none, t) = (Except.ok none, t.drop [])
    rw [drop_nil]
  | cons keep rest => exact run_bind_of_ok (t.run_removeRelations rest) _

/-- Of the rows of a pair the highest one is kept. -/
theorem run_collapsePair (link : Link) :
    run (Membership.collapsePair link) t =
      (.ok ((Membership.highest? (t.select link.predicate)).bind Relationship.ofRecord?),
        t.drop (Membership.duplicates (t.select link.predicate))) := by
  unfold Membership.collapsePair
  rw [run_bind_of_ok (t.run_relationsWhere (Link.validate_predicate link)),
    run_bind_of_ok (t.run_collapse _), run_pure]

/-- A pair is resolved if both sides are stored, and healed otherwise. -/
theorem run_resolve (link : Link) :
    run (Membership.resolve link) t =
      if t.storesLink link then run (Membership.collapsePair link) t
      else (.ok none, t.healLink link) := by
  unfold Membership.resolve
  rw [run_bind_of_ok (t.run_healSides link)]
  by_cases hstored : t.storesLink link = true
  · rw [if_pos hstored, if_pos hstored, t.healLink_of_stores hstored]
  · rw [if_neg hstored, if_neg hstored, run_pure]

/-- All rows of a pair are removed when it is unlinked. -/
theorem run_unlink (link : Link) :
    run (Membership.unlink link) t =
      (.ok !(t.select link.predicate).isEmpty, t.drop (t.select link.predicate)) := by
  unfold Membership.unlink
  rw [run_bind_of_ok (t.run_relationsWhere (Link.validate_predicate link)),
    run_bind_of_ok (t.run_removeRelations _), run_pure]

end MembershipTables

end TieredStore
