import TieredStore.Proofs.Membership.Repairs

/-!
# Operations on a pair

Looking a pair up, adding it, removing it and purging its sides are all based on the
comparison of fields.  They concern exactly the rows that name the pair or its sides, if no
row holds a lookalike: a value that is not the text of the OID but resembles it.

Main results:

- Theorem `MembershipTables.run_add`: the steps of adding a pair.
- Theorem `MembershipTables.exactOn_iff`: the operations on a pair are exact if and only if
  there is no lookalike of its OIDs.
- Theorem `MembershipTables.not_exactOn_twin`: the pair of the group `1` is resolved by a
  row of the group `01`.
-/

namespace TieredStore

open Std

namespace Link

/-- Whether a record has the text of an OID in the field of a side. -/
def Names (r : Record) (side : Side) (oid : Oid) : Prop :=
  r.fields.get? side.field = some (.text oid.text)

/-- A record that names both sides of a link holds it. -/
theorem ofRecord?_of_names {r : Record} {link : Link}
    (h : ∀ side, Names r side (link.side side)) : ofRecord? r = some link :=
  (ofRecord?_eq_some_iff r link).2 fun side =>
    (sideOfRecord?_eq_some_iff r side (link.side side)).2 (h side)

/-- The fields of a new record that holds a link. -/
def fields (link : Link) : Fields :=
  ((∅ : Fields).insert Side.group.field (.text link.group.text)).insert
    Side.member.field (.text link.member.text)

theorem get?_fields (link : Link) (side : Side) :
    link.fields.get? side.field = some (.text (link.side side).text) := by
  cases side with
  | group =>
    have hne : Side.group.field ≠ Side.member.field := by decide
    rw [fields, SortedMap.get?_insert_of_ne _ _ hne, SortedMap.get?_insert_self]
    rfl
  | member =>
    rw [fields, SortedMap.get?_insert_self]
    rfl

end Link

namespace MembershipTables

variable (t : MembershipTables)

/-! ## Adding a row -/

/-- The tables with one more row. -/
def addLink (fresh : Oid) (link : Link) : MembershipTables :=
  { t with relations := t.relations.insert fresh link.fields }

theorem mem_rows_addLink {fresh : Oid} {link : Link} {r : Record} :
    r ∈ (t.addLink fresh link).rows ↔
      r = Record.loaded fresh link.fields ∨ r ∈ t.rows ∧ r.oid ≠ fresh := by
  unfold rows addLink
  rw [RecordTable.mem_records, RecordTable.mem_records]
  by_cases hfresh : r.oid = fresh
  · rw [hfresh, SortedMap.get?_insert_self]
    simp
  · rw [SortedMap.get?_insert_of_ne _ _ hfresh]
    have hne : r ≠ Record.loaded fresh link.fields := by
      rintro rfl
      exact hfresh rfl
    simp [hne, hfresh]

theorem run_addRecord (fresh : Oid) (link : Link) :
    run (Membership.addRecord fresh link) t =
      run (Membership.collapsePair link) (t.addLink fresh link) := by
  unfold Membership.addRecord
  rw [Link.newRecord_eq]
  exact run_bind_of_ok (t.run_at_of_eq .relations (t.relations.run_save_new rfl)) _

/-- A pair is added if both sides are stored and no relationship is found. -/
theorem run_add (fresh : Oid) (link : Link) :
    run (Membership.add fresh link) t =
      if t.storesLink link then
        match (Membership.highest? (t.select link.predicate)).bind Relationship.ofRecord? with
        | some existing =>
          (.ok (some existing), t.drop (Membership.duplicates (t.select link.predicate)))
        | none => run (Membership.collapsePair link)
            ((t.drop (Membership.duplicates (t.select link.predicate))).addLink fresh link)
      else (.ok none, t.healLink link) := by
  unfold Membership.add
  rw [run_bind_of_ok (t.run_healSides link)]
  by_cases hstored : t.storesLink link = true
  · rw [if_pos hstored, if_pos hstored, t.healLink_of_stores hstored,
      run_bind_of_ok (t.run_collapsePair link)]
    cases (Membership.highest? (t.select link.predicate)).bind Relationship.ofRecord? with
    | none => exact run_addRecord _ fresh link
    | some existing => rfl
  · rw [if_neg hstored, if_neg hstored, run_pure]

/-! ## Lookalikes -/

/-- No row holds a value that resembles an OID of the link without being its text. -/
def HasNoLookalikes (link : Link) : Prop :=
  ∀ r ∈ t.rows, ∀ side v, r.fields.get? side.field = some v →
    v.Resembles (link.side side) → v = .text (link.side side).text

variable {t}

/-- Without lookalikes a look-up by side accepts the rows that name the OID. -/
theorem HasNoLookalikes.holds_iff {link : Link} (h : t.HasNoLookalikes link) {r : Record}
    (hr : r ∈ t.rows) (side : Side) :
    (Link.sidePredicate side (link.side side)).holds r.fields = true ↔
      Link.Names r side (link.side side) := by
  rw [Link.holds_sidePredicate_iff]
  constructor
  · rintro ⟨v, hv, hresembles⟩
    rw [Link.Names, hv, h r hr side v hv hresembles]
  · intro hnames
    exact ⟨_, hnames, (Value.resembles_text_iff _ _).2 (Or.inl rfl)⟩

theorem HasNoLookalikes.mem_select {link : Link} (h : t.HasNoLookalikes link) {r : Record} :
    r ∈ t.select link.predicate ↔ r ∈ t.rows ∧ ∀ side, Link.Names r side (link.side side) := by
  rw [t.mem_select, Link.holds_predicate_iff]
  exact and_congr_right fun hr => forall_congr' fun side => h.holds_iff hr side

/-- A new row is no lookalike. -/
theorem HasNoLookalikes.addLink {link : Link} (h : t.HasNoLookalikes link) (fresh : Oid) :
    (t.addLink fresh link).HasNoLookalikes link := by
  intro r hr side v hv hresembles
  rcases t.mem_rows_addLink.1 hr with rfl | ⟨hold, -⟩
  · have hfields : (Record.loaded fresh link.fields).fields.get? side.field =
        some (.text (link.side side).text) := by
      show link.fields.present.get? side.field = _
      rw [Fields.get?_present, Link.get?_fields]
      rfl
    rw [hfields] at hv
    exact (Option.some.inj hv).symm
  · exact h r hold side v hv hresembles

/-! ## Exactness -/

/-- A row that the operations on a pair may delete: it names the OID of a side that is not
stored, or both OIDs. -/
def MayDelete (t : MembershipTables) (link : Link) (r : Record) : Prop :=
  (∃ side, t.stores side (link.side side) = false ∧ Link.Names r side (link.side side)) ∨
    ∀ side, Link.Names r side (link.side side)

/-- What the operations on a pair owe to their callers: a relationship that they return is
that of the pair, and a row that they delete names the OIDs that they were called with. -/
structure ExactOn (t : MembershipTables) (fresh : Oid) (link : Link) : Prop where
  /-- The pair is resolved by its own relationship. -/
  resolved : ∀ found, (run (Membership.resolve link) t).1 = .ok (some found) → found.link = link
  /-- Adding the pair gives its own relationship. -/
  added : ∀ found, (run (Membership.add fresh link) t).1 = .ok (some found) → found.link = link
  resolve_deletes : ∀ r, Deleted t (run (Membership.resolve link) t).2 r → t.MayDelete link r
  add_deletes : ∀ r, Deleted t (run (Membership.add fresh link) t).2 r → t.MayDelete link r
  /-- Unlinking deletes only rows that name the pair. -/
  unlink_deletes : ∀ r, Deleted t (run (Membership.unlink link) t).2 r →
    ∀ side, Link.Names r side (link.side side)
  /-- Purging a side deletes only rows that name its OID. -/
  purge_deletes : ∀ side r, Deleted t (run (Membership.purge side (link.side side)) t).2 r →
    Link.Names r side (link.side side)

namespace HasNoLookalikes

variable {link : Link}

/-- The highest row of a pair is its relationship. -/
theorem link_of_highest? (h : t.HasNoLookalikes link) {keep : Record}
    (hkeep : Membership.highest? (t.select link.predicate) = some keep) :
    Relationship.ofRecord? keep = some ⟨keep, link⟩ := by
  have hselected := (Membership.highest?_eq_some hkeep).1
  rw [Relationship.ofRecord?, Link.ofRecord?_of_names (h.mem_select.1 hselected).2]
  rfl

theorem link_of_found (h : t.HasNoLookalikes link) {found : Relationship}
    (hfound : (Membership.highest? (t.select link.predicate)).bind Relationship.ofRecord? =
      some found) : found.link = link := by
  obtain ⟨keep, hkeep, hrelationship⟩ := Option.bind_eq_some_iff.1 hfound
  rw [h.link_of_highest? hkeep] at hrelationship
  cases hrelationship
  rfl

/-- Duplicates of a pair name it. -/
theorem names_of_deleted (h : t.HasNoLookalikes link) {r : Record}
    (hdeleted : Deleted t (t.drop (Membership.duplicates (t.select link.predicate))) r) :
    ∀ side, Link.Names r side (link.side side) := by
  have hrows : ∀ s ∈ Membership.duplicates (t.select link.predicate), s ∈ t.rows :=
    fun s hs => (t.mem_select.1 (Membership.mem_of_mem_duplicates hs)).1
  have hduplicate := t.mem_of_deleted_drop hrows hdeleted
  exact (h.mem_select.1 (Membership.mem_of_mem_duplicates hduplicate)).2

/-- Healing a link deletes rows that name a side that is not stored. -/
theorem mayDelete_of_healed (h : t.HasNoLookalikes link) {r : Record}
    (hdeleted : Deleted t (t.healLink link) r) : t.MayDelete link r := by
  have hgone := hdeleted.not_mem
  rw [t.mem_rows_healLink] at hgone
  push Not at hgone
  obtain ⟨side, hstored, hholds⟩ := hgone hdeleted.1
  rw [Ne, Bool.not_eq_false] at hholds
  exact Or.inl ⟨side, Bool.eq_false_iff.2 hstored, (h.holds_iff hdeleted.1 side).1 hholds⟩

/-- Without a relationship of the pair there is no row of it. -/
theorem select_eq_nil (h : t.HasNoLookalikes link)
    (hnone : (Membership.highest? (t.select link.predicate)).bind Relationship.ofRecord? = none) :
    t.select link.predicate = [] := by
  rw [← Membership.highest?_eq_none_iff]
  cases hkeep : Membership.highest? (t.select link.predicate) with
  | none => rfl
  | some keep =>
    rw [hkeep, Option.bind_some, h.link_of_highest? hkeep] at hnone
    cases hnone

/-- A row that was added to a pair without rows has no duplicates. -/
theorem duplicates_addLink (h : t.HasNoLookalikes link) (fresh : Oid)
    (hempty : t.select link.predicate = []) :
    Membership.duplicates ((t.addLink fresh link).select link.predicate) = [] := by
  have honly : ∀ r ∈ (t.addLink fresh link).select link.predicate,
      r = Record.loaded fresh link.fields := by
    intro r hr
    obtain ⟨hrow, hnames⟩ := (h.addLink fresh).mem_select.1 hr
    rcases t.mem_rows_addLink.1 hrow with hnew | ⟨hold, -⟩
    · exact hnew
    · have hselected := h.mem_select.2 ⟨hold, hnames⟩
      rw [hempty] at hselected
      cases hselected
  apply Membership.duplicates_eq_nil
  · exact (t.addLink fresh link).nodup_select _
  · intro a ha b hb
    rw [honly a ha, honly b hb]

/-- A row that is added replaces no other row than the one under its OID. -/
theorem not_deleted_addLink (fresh : Oid) (link : Link) (r : Record) :
    ¬Deleted t (t.addLink fresh link) r := by
  rintro ⟨hr, hgone⟩
  apply hgone
  by_cases hfresh : r.oid = fresh
  · rw [hfresh]
    exact List.mem_map.2 ⟨_, t.mem_rows_addLink.2 (Or.inl rfl), rfl⟩
  · exact List.mem_map.2 ⟨r, t.mem_rows_addLink.2 (Or.inr ⟨hr, hfresh⟩), rfl⟩

/-- Resolving a pair that has no lookalikes is exact. -/
theorem resolve_exact (h : t.HasNoLookalikes link) :
    (∀ found, (run (Membership.resolve link) t).1 = .ok (some found) → found.link = link) ∧
      ∀ r, Deleted t (run (Membership.resolve link) t).2 r → t.MayDelete link r := by
  rw [run_resolve]
  by_cases hstored : t.storesLink link = true
  · rw [if_pos hstored, run_collapsePair]
    constructor
    · intro found hfound
      exact h.link_of_found (Except.ok.inj hfound)
    · intro r hdeleted
      exact Or.inr (h.names_of_deleted hdeleted)
  · rw [if_neg hstored]
    constructor
    · intro found hfound
      cases hfound
    · intro r hdeleted
      exact h.mayDelete_of_healed hdeleted

/-- Adding a pair that has no lookalikes is exact. -/
theorem add_exact (h : t.HasNoLookalikes link) (fresh : Oid) :
    (∀ found, (run (Membership.add fresh link) t).1 = .ok (some found) → found.link = link) ∧
      ∀ r, Deleted t (run (Membership.add fresh link) t).2 r → t.MayDelete link r := by
  rw [run_add]
  by_cases hstored : t.storesLink link = true
  · rw [if_pos hstored]
    cases hexisting :
        (Membership.highest? (t.select link.predicate)).bind Relationship.ofRecord? with
    | some existing =>
      constructor
      · intro found hfound
        cases hfound
        exact h.link_of_found hexisting
      · intro r hdeleted
        exact Or.inr (h.names_of_deleted hdeleted)
    | none =>
      have hempty := h.select_eq_nil hexisting
      have hnothing : Membership.duplicates (t.select link.predicate) = [] := by
        rw [hempty]
        rfl
      simp only [hnothing, drop_nil, run_collapsePair, h.duplicates_addLink fresh hempty]
      constructor
      · intro found hfound
        exact (h.addLink fresh).link_of_found (Except.ok.inj hfound)
      · intro r hdeleted
        exact absurd hdeleted (not_deleted_addLink fresh link r)
  · rw [if_neg hstored]
    constructor
    · intro found hfound
      cases hfound
    · intro r hdeleted
      exact h.mayDelete_of_healed hdeleted

theorem unlink_exact (h : t.HasNoLookalikes link) {r : Record}
    (hdeleted : Deleted t (run (Membership.unlink link) t).2 r) :
    ∀ side, Link.Names r side (link.side side) := by
  rw [run_unlink] at hdeleted
  have hselected := t.mem_of_deleted_drop (fun s hs => (t.mem_select.1 hs).1) hdeleted
  exact (h.mem_select.1 hselected).2

theorem purge_exact (h : t.HasNoLookalikes link) {side : Side} {r : Record}
    (hdeleted : Deleted t (run (Membership.purge side (link.side side)) t).2 r) :
    Link.Names r side (link.side side) := by
  rw [run_purge] at hdeleted
  have hselected := t.mem_of_deleted_drop (fun s hs => (t.mem_select.1 hs).1) hdeleted
  obtain ⟨hrow, hholds⟩ := t.mem_select.1 hselected
  exact (h.holds_iff hrow side).1 hholds

end HasNoLookalikes

/-- The operations on a pair are exact if and only if there is no lookalike of its OIDs. -/
theorem exactOn_iff (t : MembershipTables) (fresh : Oid) (link : Link) :
    t.ExactOn fresh link ↔ t.HasNoLookalikes link := by
  constructor
  · -- A lookalike is deleted when its side is purged.
    intro h r hr side v hv hresembles
    have hholds : (Link.sidePredicate side (link.side side)).holds r.fields = true :=
      (Link.holds_sidePredicate_iff _ _ _).2 ⟨v, hv, hresembles⟩
    have hdeleted : Deleted t (run (Membership.purge side (link.side side)) t).2 r := by
      rw [run_purge]
      exact t.deleted_drop hr (t.mem_select.2 ⟨hr, hholds⟩)
    have hnames := h.purge_deletes side r hdeleted
    rw [Link.Names, hv] at hnames
    exact Option.some.inj hnames
  · intro h
    exact ⟨h.resolve_exact.1, (h.add_exact fresh).1, h.resolve_exact.2, (h.add_exact fresh).2,
      fun _ hdeleted => h.unlink_exact hdeleted, fun _ _ hdeleted => h.purge_exact hdeleted⟩

/-- The pair of the group `1` and a member is resolved by a row that names the group `01`. -/
theorem not_exactOn_twin :
    let one : Oid := ⟨"1", by decide⟩
    let zeroOne : Oid := ⟨"01", by decide⟩
    let m : Oid := ⟨"m", by decide⟩
    let row : Oid := ⟨"r", by decide⟩
    let t : MembershipTables := {
      groups := .ofList [(one, ∅)]
      members := .ofList [(m, ∅)]
      relations := .ofList [(row, Link.fields ⟨zeroOne, m⟩)] }
    (run (Membership.resolve ⟨one, m⟩) t).1 =
        .ok (some ⟨Record.loaded row (Link.fields ⟨zeroOne, m⟩), ⟨zeroOne, m⟩⟩) ∧
      ¬t.ExactOn (Oid.fresh 0) ⟨one, m⟩ := by
  intro one zeroOne m row t
  have hresolved : (run (Membership.resolve ⟨one, m⟩) t).1 =
      .ok (some ⟨Record.loaded row (Link.fields ⟨zeroOne, m⟩), ⟨zeroOne, m⟩⟩) := by
    decide +kernel
  refine ⟨hresolved, ?_⟩
  intro h
  have hlink : (⟨zeroOne, m⟩ : Link) = ⟨one, m⟩ := h.resolved _ hresolved
  exact absurd hlink (by decide)

end MembershipTables

end TieredStore
