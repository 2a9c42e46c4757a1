import TieredStore.Proofs.Membership.PairOperations

/-!
# The rows of a pair

A pair is plain if neither of its OIDs spells a number.  In tables whose rows name their sides
by texts, the operations on a plain pair concern exactly the rows that hold its link: they keep
the highest one, and add one if there is none.

Main results:

- Theorem `MembershipTables.select_predicate`: a look-up of a plain pair gives the rows that
  hold its link.
- Theorem `MembershipTables.run_add_of_stores`: adding a pair keeps its highest row, or adds one.
- Theorem `MembershipTables.run_resolve_of_stores`: resolving it keeps its highest row.
-/

namespace TieredStore

open Std

/-- Whether no OID of a link spells a number. -/
def Link.Plain (link : Link) : Prop := ∀ side, (link.side side).number? = none

instance (link : Link) : Decidable link.Plain :=
  decidable_of_iff (link.group.number? = none ∧ link.member.number? = none)
    (Side.forall_iff (P := fun side => (link.side side).number? = none)).symm

/-- A record holds a link exactly if it names both of its sides. -/
theorem Link.ofRecord?_eq_some_iff_names (r : Record) (link : Link) :
    ofRecord? r = some link ↔ ∀ side, Names r side (link.side side) := by
  rw [ofRecord?_eq_some_iff]
  exact forall_congr' fun side => sideOfRecord?_eq_some_iff r side _

/-- A new row holds its link. -/
theorem Link.ofRecord?_loaded (oid : Oid) (link : Link) :
    ofRecord? (Record.loaded oid link.fields) = some link := by
  refine (ofRecord?_eq_some_iff_names _ _).2 fun side => ?_
  show link.fields.present.get? side.field = _
  rw [Fields.get?_present, get?_fields]
  rfl

namespace MembershipTables

variable (t : MembershipTables)

/-- Whether the field of a side is a text wherever a row has it. -/
def TextLinks : Prop :=
  ∀ r ∈ t.rows, ∀ (side : Side) v, r.fields.get? side.field = some v → ∃ s, v = .text s

instance : Decidable t.TextLinks :=
  decidable_of_iff (∀ r ∈ t.rows, ∀ side ∈ [Side.group, Side.member],
      (r.fields.get? side.field).all (fun v => v.asString?.isSome) = true) <| by
    refine forall₂_congr fun r _ => ?_
    rw [List.forall_mem_cons, List.forall_mem_singleton, Side.forall_iff]
    refine and_congr ?_ ?_ <;>
    · rw [Option.all_eq_true]
      exact forall₂_congr fun v _ => by cases v <;> simp [Value.asString?]

/-- The rows that hold a link, by ascending OID. -/
def rowsOf (link : Link) : List Record :=
  t.rows.filter fun r => decide (Link.ofRecord? r = some link)

/-- The OIDs of the rows that hold a link. -/
def oidsOf (link : Link) : List Oid := (t.rowsOf link).map (·.oid)

variable {t} {link : Link} {fresh : Oid}

theorem mem_rowsOf {r : Record} :
    r ∈ t.rowsOf link ↔ r ∈ t.rows ∧ Link.ofRecord? r = some link := by
  rw [rowsOf, List.mem_filter, decide_eq_true_eq]

theorem mem_oidsOf {oid : Oid} :
    oid ∈ t.oidsOf link ↔ ∃ r ∈ t.rows, Link.ofRecord? r = some link ∧ r.oid = oid := by
  simp only [oidsOf, List.mem_map, mem_rowsOf, and_assoc]

/-- A row that is the only one of a pair is the list of its rows. -/
theorem rowsOf_eq_singleton {row : Record} (h : ∀ r, r ∈ t.rowsOf link ↔ r = row) :
    t.rowsOf link = [row] := by
  refine List.perm_singleton.1 ((List.perm_ext_iff_of_nodup (t.nodup_rows.filter _)
    (List.nodup_singleton row)).2 fun r => ?_)
  rw [List.mem_singleton]
  exact h r

/-- Rows that name their sides by texts hold no lookalike of a plain pair. -/
theorem TextLinks.hasNoLookalikes (h : t.TextLinks) (plain : link.Plain) :
    t.HasNoLookalikes link := by
  intro r hr side v hv hresembles
  obtain ⟨s, rfl⟩ := h r hr side v hv
  have hno := plain side
  unfold Value.Resembles at hresembles
  rw [hno] at hresembles
  cases hs : (Value.text s).asNumber? with
  | none =>
    rw [hs] at hresembles
    exact congrArg Value.text hresembles.2
  | some x =>
    rw [hs] at hresembles
    exact congrArg Value.text hresembles.2

/-- A look-up of a plain pair gives the rows that hold its link. -/
theorem select_predicate (h : t.TextLinks) (plain : link.Plain) :
    t.select link.predicate = t.rowsOf link := by
  refine List.filter_congr fun r hr => ?_
  rw [Bool.eq_iff_iff, decide_eq_true_eq, Link.ofRecord?_eq_some_iff_names,
    Link.holds_predicate_iff]
  exact forall_congr' fun side => (h.hasNoLookalikes plain).holds_iff hr side

/-! ## What is kept -/

/-- The highest row of a pair gives its relationship. -/
theorem ofRecord?_of_highest? {keep : Record}
    (hkeep : Membership.highest? (t.rowsOf link) = some keep) :
    Relationship.ofRecord? keep = some ⟨keep, link⟩ := by
  rw [Relationship.ofRecord?, (mem_rowsOf.1 (Membership.highest?_eq_some hkeep).1).2]
  rfl

/-- The duplicates of a pair are its rows but the highest one. -/
theorem mem_duplicates_rowsOf {keep r : Record}
    (hkeep : Membership.highest? (t.rowsOf link) = some keep) :
    r ∈ Membership.duplicates (t.rowsOf link) ↔ r ∈ t.rowsOf link ∧ r ≠ keep := by
  have hperm := Membership.perm_of_highest? hkeep
  have hnodup := hperm.nodup_iff.2 (t.nodup_rows.filter _)
  rw [← hperm.mem_iff, List.mem_cons]
  constructor
  · intro hr
    refine ⟨Or.inr hr, ?_⟩
    rintro rfl
    exact (List.nodup_cons.1 hnodup).1 hr
  · rintro ⟨rfl | hr, hne⟩
    · exact absurd rfl hne
    · exact hr

/-- Of the rows of a pair the highest one is left. -/
theorem rowsOf_drop_duplicates {keep : Record}
    (hkeep : Membership.highest? (t.rowsOf link) = some keep) :
    (t.drop (Membership.duplicates (t.rowsOf link))).rowsOf link = [keep] := by
  have hrows : ∀ r ∈ Membership.duplicates (t.rowsOf link), r ∈ t.rows :=
    fun r hr => (mem_rowsOf.1 (Membership.mem_of_mem_duplicates hr)).1
  apply rowsOf_eq_singleton
  intro r
  rw [mem_rowsOf, t.mem_rows_drop_of_rows hrows, mem_duplicates_rowsOf hkeep, mem_rowsOf]
  constructor
  · rintro ⟨⟨hr, hkept⟩, hlink⟩
    by_contra hne
    exact hkept ⟨⟨hr, hlink⟩, hne⟩
  · rintro rfl
    obtain ⟨hr, hlink⟩ := mem_rowsOf.1 (Membership.highest?_eq_some hkeep).1
    exact ⟨⟨hr, fun hdropped => hdropped.2 rfl⟩, hlink⟩

/-- A new row is a further row of its pair. -/
theorem mem_rowsOf_addLink {r : Record} :
    r ∈ (t.addLink fresh link).rowsOf link ↔
      r = Record.loaded fresh link.fields ∨ r ∈ t.rowsOf link ∧ r.oid ≠ fresh := by
  rw [mem_rowsOf, t.mem_rows_addLink, mem_rowsOf]
  constructor
  · rintro ⟨rfl | ⟨hr, hne⟩, hlink⟩
    · exact Or.inl rfl
    · exact Or.inr ⟨⟨hr, hlink⟩, hne⟩
  · rintro (rfl | ⟨⟨hr, hlink⟩, hne⟩)
    · exact ⟨Or.inl rfl, Link.ofRecord?_loaded fresh link⟩
    · exact ⟨Or.inr ⟨hr, hne⟩, hlink⟩

/-- A new row is the only one of a pair that had none. -/
theorem rowsOf_addLink_of_nil (hnil : t.rowsOf link = []) :
    (t.addLink fresh link).rowsOf link = [Record.loaded fresh link.fields] := by
  apply rowsOf_eq_singleton
  intro r
  rw [mem_rowsOf_addLink, hnil]
  simp

/-- A new row names its sides by texts. -/
theorem TextLinks.addLink (h : t.TextLinks) : (t.addLink fresh link).TextLinks := by
  intro r hr side v hv
  rcases t.mem_rows_addLink.1 hr with rfl | ⟨hold, -⟩
  · have hnames := (Link.ofRecord?_eq_some_iff_names _ _).1 (Link.ofRecord?_loaded fresh link) side
    rw [Link.Names, hv] at hnames
    exact ⟨_, Option.some.inj hnames⟩
  · exact h r hold side v hv

/-- Rows that are left name their sides by texts if all did. -/
theorem TextLinks.drop (h : t.TextLinks) (dropped : List Record) : (t.drop dropped).TextLinks :=
  fun r hr => h r (t.mem_rows_drop.1 hr).1

/-! ## The operations -/

/-- Collapsing a pair keeps its highest row. -/
theorem run_collapsePair_of_highest? (h : t.TextLinks) (plain : link.Plain) {keep : Record}
    (hkeep : Membership.highest? (t.rowsOf link) = some keep) :
    run (Membership.collapsePair link) t =
      (.ok (some ⟨keep, link⟩), t.drop (Membership.duplicates (t.rowsOf link))) := by
  rw [run_collapsePair, select_predicate h plain, hkeep, Option.bind_some,
    ofRecord?_of_highest? hkeep]

/-- Resolving a pair whose sides are stored keeps its highest row. -/
theorem run_resolve_of_stores (h : t.TextLinks) (plain : link.Plain)
    (hstored : t.storesLink link = true) {keep : Record}
    (hkeep : Membership.highest? (t.rowsOf link) = some keep) :
    run (Membership.resolve link) t =
      (.ok (some ⟨keep, link⟩), t.drop (Membership.duplicates (t.rowsOf link))) := by
  rw [run_resolve, if_pos hstored, run_collapsePair_of_highest? h plain hkeep]

/-- A row that is the only one of its pair is its highest one, without duplicates. -/
theorem highest?_of_single {row : Record} (hsingle : t.rowsOf link = [row]) :
    Membership.highest? (t.rowsOf link) = some row ∧
      Membership.duplicates (t.rowsOf link) = [] := by
  have hperm := Membership.byDescendingOid_perm (t.rowsOf link)
  rw [hsingle] at hperm
  rw [Membership.highest?, Membership.duplicates, hsingle, List.perm_singleton.1 hperm]
  exact ⟨rfl, rfl⟩

/-- Adding a pair whose sides are stored keeps its highest row, or adds one. -/
theorem run_add_of_stores (h : t.TextLinks) (plain : link.Plain)
    (hstored : t.storesLink link = true) (fresh : Oid) :
    run (Membership.add fresh link) t =
      match Membership.highest? (t.rowsOf link) with
      | some keep =>
        (.ok (some ⟨keep, link⟩), t.drop (Membership.duplicates (t.rowsOf link)))
      | none =>
        (.ok (some ⟨Record.loaded fresh link.fields, link⟩), t.addLink fresh link) := by
  rw [run_add, if_pos hstored, select_predicate h plain]
  cases hkeep : Membership.highest? (t.rowsOf link) with
  | some keep => rw [Option.bind_some, ofRecord?_of_highest? hkeep]
  | none =>
    have hnil : t.rowsOf link = [] := Membership.highest?_eq_none_iff.1 hkeep
    have hnothing : Membership.duplicates (t.rowsOf link) = [] := by
      rw [hnil]
      rfl
    have hrow : (t.addLink fresh link).rowsOf link = [Record.loaded fresh link.fields] :=
      rowsOf_addLink_of_nil hnil
    obtain ⟨hnew, hsingle⟩ := highest?_of_single hrow
    rw [Option.bind_none, hnothing, drop_nil]
    show run (Membership.collapsePair link) (t.addLink fresh link) = _
    rw [run_collapsePair_of_highest? h.addLink plain hnew, hsingle, drop_nil]

end MembershipTables

end TieredStore
