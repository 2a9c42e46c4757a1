import TieredStore.Membership.Stores
import TieredStore.Proofs.Membership.Tables
import TieredStore.Proofs.Storage.Contents

/-!
# Memberships over separate base stores

Three base stores, each in memory or in a database, that share no part of the storage answer like
the tables that they keep.  Hence what is true of the programs on the tables of a membership is true
of these programs on the stores, as long as databases take the conditions of their queries.  The
look-ups by side and by pair are such queries.

Main results:

- Theorem `MembershipBases.perform_holds`: a call to one store is answered from its table and
  leaves the others alone.
- Theorem `MembershipBases.run_holds`: a program has the same result on the stores and on the
  tables, and leaves stores that keep the tables that are left.
- Theorems `Membership.makes_resolve` and `Membership.makes_add`: a database takes all calls that
  resolving and adding a pair make.
-/

namespace TieredStore

/-- Whether a base store takes a call: a store in memory takes all, and one in a database those that
fit a statement. -/
def RecordBase.Takes : RecordBase → RecordCall → Prop
  | .memory _ _, _ => True
  | .relational _ _, call => call.FitsStatement

/-- Every base store takes the calls that fit a statement. -/
theorem RecordBase.takes_of_fits (base : RecordBase) {call : RecordCall}
    (fits : call.FitsStatement) : base.Takes call := by
  cases base with
  | memory name table => trivial
  | relational name database => exact fits

/-- Three base stores, each with a part of the storage of its own. -/
structure MembershipBases where
  base : MembershipTable → RecordBase
  separate : ∀ {a b}, RecordPart.ofBase (base a) = RecordPart.ofBase (base b) → a = b

namespace MembershipBases

variable (bases : MembershipBases)

/-- The membership over the stores. -/
def membership : MembershipStores where
  groups := .base (bases.base .groups)
  members := .base (bases.base .members)
  relations := .base (bases.base .relations)

/-- Whether the stores are set up and keep some tables. -/
structure Holds (s : Storage) (t : MembershipTables) : Prop where
  keeps : ∀ place, RecordPart.Keeps s (.ofBase (bases.base place)) (t.table place)
  setUp : ∀ place, (RecordPart.ofBase (bases.base place)).IsSetUp s

variable {bases} {s : Storage} {t : MembershipTables}

/-- A call is answered by the base store that it is meant for. -/
theorem perform_eq (request : At MembershipTable RecordCall) :
    bases.membership.perform request = (bases.base request.place).answer request.call := by
  obtain ⟨place, call⟩ := request
  cases place <;>
  · show RecordStore.perform (.base _) call = _
    rw [RecordStore.perform, Store.perform]
    rfl

/-- A base store that is set up answers the calls that it takes like its table. -/
theorem answer_of_keeps {base : RecordBase} {table : RecordTable} {call : RecordCall}
    (hkeeps : RecordPart.Keeps s (.ofBase base) table)
    (hsetUp : (RecordPart.ofBase base).IsSetUp s) (takes : base.Takes call) :
    (base.answer call s).1 = (RecordTable.answer call table).1 ∧
      RecordPart.Keeps (base.answer call s).2 (.ofBase base) (RecordTable.answer call table).2 := by
  cases base with
  | memory name ref =>
    obtain ⟨hholds, rfl⟩ := hkeeps
    exact ⟨rfl, (Storage.holds_setCell_iff _).2 hholds, Storage.cell_setCell_self _ hholds⟩
  | relational name database =>
    obtain ⟨hholds, hrows⟩ := hkeeps
    have hrepresents := hrows.represents hsetUp
    refine ⟨hrepresents.answer_eq takes, (Storage.holds_setCell_iff _).2 hholds, ?_⟩
    have hcell : (RecordBase.answer (.relational name database) call s).2.cell database =
        (Database.answer name call (s.cell database)).2 := Storage.cell_setCell_self _ hholds
    rw [hcell]
    exact (hrepresents.answer_represents call).keeps

/-- A call to one store is answered from its table and leaves the others alone. -/
theorem perform_holds (h : bases.Holds s t) {request : At MembershipTable RecordCall}
    (takes : (bases.base request.place).Takes request.call) :
    (bases.membership.perform request s).1 = (MembershipTables.answer request t).1 ∧
      bases.Holds (bases.membership.perform request s).2 (MembershipTables.answer request t).2 := by
  obtain ⟨hresult, hkeeps⟩ :=
    answer_of_keeps (h.keeps request.place) (h.setUp request.place) takes
  rw [perform_eq]
  refine ⟨hresult, fun place => ?_, fun place => ?_⟩
  · show RecordPart.Keeps _ _ ((t.withTable request.place
      (RecordTable.answer request.call (t.table request.place)).2).table place)
    by_cases hplace : place = request.place
    · subst hplace
      rw [MembershipTables.table_withTable]
      exact hkeeps
    · rw [MembershipTables.table_withTable_of_ne _ _ hplace]
      exact RecordPart.keeps_answer_of_ne _ _ _ _ _ (h.keeps place)
        fun hsame => hplace (bases.separate hsame)
  · exact ((bases.base request.place).spares_answer request.call s).setUp (.records _)
      (h.setUp place)

/-- A program whose calls the stores take has the same result on the stores and on the tables that
they keep. -/
theorem run_holds {α : Type} (h : bases.Holds s t) {p : MembershipProgram α}
    (hp : p.Makes fun request => (bases.base request.place).Takes request.call) :
    (bases.membership.run p s).1 = (MembershipTables.run p t).1 ∧
      bases.Holds (bases.membership.run p s).2 (MembershipTables.run p t).2 := by
  have step : ∀ (request : At MembershipTable RecordCall) s t,
      (bases.base request.place).Takes request.call → bases.Holds s t →
        (bases.membership.perform request s).1 = (MembershipTables.answer request t).1 ∧
          bases.Holds (bases.membership.perform request s).2
            (MembershipTables.answer request t).2 :=
    fun request s t takes held => perform_holds held takes
  exact Program.run_related_of_makes step hp h

/-- Any stores take a program whose calls fit statements. -/
theorem run_holds_of_fits {α : Type} (h : bases.Holds s t) {p : MembershipProgram α}
    (hp : p.Makes fun request => request.call.FitsStatement) :
    (bases.membership.run p s).1 = (MembershipTables.run p t).1 ∧
      bases.Holds (bases.membership.run p s).2 (MembershipTables.run p t).2 :=
  run_holds h (hp.mono fun request fits => (bases.base request.place).takes_of_fits fits)

/-- Drawing an OID leaves the stores alone. -/
theorem Holds.withDrawn (h : bases.Holds s t) (drawn : Nat) : bases.Holds { s with drawn } t where
  keeps place := by
    have hkeeps := h.keeps place
    cases hpart : RecordPart.ofBase (bases.base place) <;> rw [hpart] at hkeeps <;> exact hkeeps
  setUp place := by
    have hsetUp := h.setUp place
    cases hpart : RecordPart.ofBase (bases.base place) <;> rw [hpart] at hsetUp <;> exact hsetUp

end MembershipBases

/-! ## Calls that fit statements -/

namespace Membership

/-- A test of a field against a text is short. -/
theorem accepts_sidePredicate (side : Side) (oid : Oid) :
    (Condition.ofQuery (Query.filter (Link.sidePredicate side oid))).isAccepted = true := by
  show (Condition.someRow side.field (Condition.testOf .eq (.text oid.text))).isAccepted = true
  unfold Condition.testOf
  cases (Value.text oid.text).asNumber? <;> rfl

theorem accepts_predicate (link : Link) :
    (Condition.ofQuery (Query.filter link.predicate)).isAccepted = true := by
  show (Condition.conjunction
    [.someRow Side.group.field (Condition.testOf .eq (.text link.group.text)),
      .someRow Side.member.field (Condition.testOf .eq (.text link.member.text))]).isAccepted = true
  unfold Condition.testOf
  cases (Value.text link.group.text).asNumber? <;>
    cases (Value.text link.member.text).asNumber? <;> rfl

/-- The calls of a membership that a database takes. -/
abbrev Fits (request : At MembershipTable RecordCall) : Prop := request.call.FitsStatement

theorem makes_relationsWhere {p : Predicate}
    (h : (Condition.ofQuery (Query.filter p)).isAccepted = true) :
    (relationsWhere p).Makes Fits := by
  have hquery : (Records.query (Query.filter p)).Makes RecordCall.FitsStatement :=
    Program.makes_ofCall h
  exact hquery.at MembershipTable.relations

theorem makes_removeRelations (rows : List Record) : (removeRelations rows).Makes Fits := by
  have hremove : ∀ oids, (Records.removeAll oids).Makes RecordCall.FitsStatement := by
    intro oids
    induction oids with
    | nil => trivial
    | cons oid rest ih => exact (Program.makes_ofCall trivial).bind fun _ => ih
  exact (hremove _).at MembershipTable.relations

theorem makes_healSide (side : Side) (oid : Oid) : (healSide side oid).Makes Fits := by
  have hcontains : (Records.contains oid).Makes RecordCall.FitsStatement :=
    (Program.makes_ofCall trivial).bind fun _ => trivial
  refine (hcontains.at side.table).bind fun stored => ?_
  cases stored with
  | true => trivial
  | false =>
    have hpurge : (purge side oid).Makes Fits :=
      (makes_relationsWhere (accepts_sidePredicate side oid)).bind fun rows =>
        (makes_removeRelations rows).bind fun _ => trivial
    exact hpurge.bind fun _ => trivial

theorem makes_healSides (link : Link) : (healSides link).Makes Fits :=
  (makes_healSide .group link.group).bind fun _ =>
    (makes_healSide .member link.member).bind fun _ => trivial

theorem makes_collapsePair (link : Link) : (collapsePair link).Makes Fits := by
  refine (makes_relationsWhere (accepts_predicate link)).bind fun rows => ?_
  have hcollapse : (collapse rows).Makes Fits := by
    unfold collapse
    split
    · trivial
    · exact (makes_removeRelations _).bind fun _ => trivial
  exact hcollapse.bind fun _ => trivial

/-- A database takes all calls that resolving a pair makes. -/
theorem makes_resolve (link : Link) : (resolve link).Makes Fits := by
  refine (makes_healSides link).bind fun intact => ?_
  cases intact with
  | true => exact makes_collapsePair link
  | false => trivial

/-- A database takes all calls that adding a pair makes. -/
theorem makes_add (fresh : Oid) (link : Link) : (add fresh link).Makes Fits := by
  refine (makes_healSides link).bind fun intact => ?_
  cases intact with
  | false => trivial
  | true =>
    refine (makes_collapsePair link).bind fun existing => ?_
    cases existing with
    | some found => trivial
    | none =>
      have hrow : (Program.ofExcept (link.newRecord fresh)).Makes Fits := by
        cases link.newRecord fresh <;> trivial
      have hsave : ∀ r, (Records.save r).Makes RecordCall.FitsStatement := by
        intro r
        unfold Records.save
        split
        · exact (Program.makes_ofCall trivial).bind fun _ => trivial
        · trivial
      exact hrow.bind fun row =>
        ((hsave row).at MembershipTable.relations).bind fun _ => makes_collapsePair link

end Membership

end TieredStore
