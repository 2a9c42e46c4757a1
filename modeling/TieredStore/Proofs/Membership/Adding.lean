import TieredStore.Proofs.Membership.PairRows

/-!
# Adding a pair again and again

Adding a pair settles it: of all its rows one is left, and from then on the pair can be added
and resolved any number of times without a change.

Main results:

- Theorem `MembershipTables.settled_add`: what adding a pair leaves.
- Theorem `MembershipTables.Single.answerAll`: a pair with a single row is answered with this
  row, however often it is asked for.
- Theorem `MembershipTables.add_settles`: both together.
-/

namespace TieredStore

open Std

/-- A request for the relationship of a pair. -/
inductive PairRequest where
  /-- The pair is added, with an OID for the case that it needs a new row. -/
  | add (fresh : Oid)
  | resolve

/-- What is done for a request. -/
def PairRequest.program (link : Link) : PairRequest → MembershipProgram (Option Relationship)
  | .add fresh => Membership.add fresh link
  | .resolve => Membership.resolve link

namespace MembershipTables

/-- The results of requests that are made one after the other, and the tables that they leave. -/
def answerAll (link : Link) : List PairRequest → MembershipTables →
    List (Except StoreError (Option Relationship)) × MembershipTables
  | [], t => ([], t)
  | request :: rest, t =>
    let first := run (request.program link) t
    let others := answerAll link rest first.2
    (first.1 :: others.1, others.2)

/-- How a pair is settled: one of its rows is left, or one is added to a pair without rows. -/
structure Settled (before after : MembershipTables) (fresh : Oid) (link : Link) (row : Record) :
    Prop where
  /-- The pair has one row afterwards. -/
  single : after.rowsOf link = [row]
  /-- This is the highest row that there was. -/
  highest : before.rowsOf link ≠ [] →
    row ∈ before.rowsOf link ∧ ∀ r ∈ before.rowsOf link, (compare r.oid row.oid).isLE = true
  /-- If there was none, it is a new one that holds the link and nothing else. -/
  added : before.rowsOf link = [] → after.relations.get? fresh = some link.fields ∧
    row = Record.loaded fresh link.fields
  /-- A row that is left of several is not changed. -/
  kept : before.rowsOf link ≠ [] →
    after.relations.get? row.oid = before.relations.get? row.oid
  /-- The rows of all other pairs, and those without a link, are not changed. -/
  others : ∀ oid fields, before.relations.get? oid = some fields → oid ∉ before.oidsOf link →
    after.relations.get? oid = some fields
  /-- There is no other new row. -/
  nothingElse : ∀ oid, before.relations.get? oid = none → oid ≠ row.oid →
    after.relations.get? oid = none
  groups : after.groups = before.groups
  members : after.members = before.members

variable {t : MembershipTables} {link : Link} {fresh : Oid} {row : Record}

/-- A pair of which all rows but the highest one are dropped is settled. -/
theorem settled_drop {keep : Record} (hkeep : Membership.highest? (t.rowsOf link) = some keep) :
    Settled t (t.drop (Membership.duplicates (t.rowsOf link))) fresh link keep := by
  have hhighest := Membership.highest?_eq_some hkeep
  have hsome : t.rowsOf link ≠ [] := List.ne_nil_of_mem hhighest.1
  have hget : ∀ oid, (∀ r ∈ Membership.duplicates (t.rowsOf link), r.oid ≠ oid) →
      (t.drop (Membership.duplicates (t.rowsOf link))).relations.get? oid =
        t.relations.get? oid := by
    intro oid hspared
    refine (RecordTable.get?_without _ _ _).trans (if_neg fun hmem => ?_)
    obtain ⟨r, hr, hoid⟩ := List.mem_map.1 hmem
    exact hspared r hr hoid
  have hother : ∀ oid, oid ∉ t.oidsOf link →
      (t.drop (Membership.duplicates (t.rowsOf link))).relations.get? oid =
        t.relations.get? oid := by
    intro oid hother
    refine hget oid fun r hr hoid => hother ?_
    exact List.mem_map.2 ⟨r, Membership.mem_of_mem_duplicates hr, hoid⟩
  refine ⟨rowsOf_drop_duplicates hkeep, fun _ => hhighest, fun hnil => absurd hnil hsome, ?_, ?_,
    ?_, rfl, rfl⟩
  · intro _
    refine hget keep.oid fun r hr hoid => ?_
    obtain ⟨hrow, hne⟩ := (mem_duplicates_rowsOf hkeep).1 hr
    exact hne (t.row_eq_of_oid (mem_rowsOf.1 hrow).1 (mem_rowsOf.1 hhighest.1).1 hoid)
  · intro oid fields hstored hpair
    rw [hother oid hpair, hstored]
  · intro oid habsent _
    refine (RecordTable.get?_without _ _ _).trans ?_
    rw [habsent, ite_self]

/-- A pair without rows is settled by a new row. -/
theorem settled_addLink (hnil : t.rowsOf link = []) (hfresh : t.relations.get? fresh = none) :
    Settled t (t.addLink fresh link) fresh link (Record.loaded fresh link.fields) := by
  refine ⟨rowsOf_addLink_of_nil hnil, fun hsome => absurd hnil hsome, fun _ => ?_,
    fun hsome => absurd hnil hsome, ?_, ?_, rfl, rfl⟩
  · exact ⟨SortedMap.get?_insert_self _ _ _, rfl⟩
  · intro oid fields hstored _
    have hne : oid ≠ fresh := by
      rintro rfl
      rw [hfresh] at hstored
      cases hstored
    exact (SortedMap.get?_insert_of_ne _ _ hne).trans hstored
  · intro oid habsent hne
    exact (SortedMap.get?_insert_of_ne _ _ hne).trans habsent

/-- Adding a pair whose sides are stored gives its relationship and settles it. -/
theorem settled_add (htexts : t.TextLinks) (plain : link.Plain)
    (hstored : t.storesLink link = true) (hfresh : t.relations.get? fresh = none) :
    ∃ row, (run (Membership.add fresh link) t).1 = .ok (some ⟨row, link⟩) ∧
      Settled t (run (Membership.add fresh link) t).2 fresh link row := by
  rw [run_add_of_stores htexts plain hstored]
  cases hkeep : Membership.highest? (t.rowsOf link) with
  | some keep => exact ⟨keep, rfl, settled_drop hkeep⟩
  | none => exact ⟨_, rfl, settled_addLink (Membership.highest?_eq_none_iff.1 hkeep) hfresh⟩

/-! ## Settled pairs -/

/-- Whether a pair is linked by a single row. -/
structure Single (t : MembershipTables) (link : Link) (row : Record) : Prop where
  texts : t.TextLinks
  stored : t.storesLink link = true
  single : t.rowsOf link = [row]

/-- A pair with a single row is answered with this row, and nothing changes. -/
theorem Single.run_program (h : t.Single link row) (plain : link.Plain) (request : PairRequest) :
    run (request.program link) t = (.ok (some ⟨row, link⟩), t) := by
  obtain ⟨hkeep, hnone⟩ := highest?_of_single h.single
  cases request with
  | add fresh =>
    show run (Membership.add fresh link) t = _
    rw [run_add_of_stores h.texts plain h.stored, hkeep]
    exact congrArg (Prod.mk _) ((congrArg t.drop hnone).trans t.drop_nil)
  | resolve =>
    show run (Membership.resolve link) t = _
    rw [run_resolve_of_stores h.texts plain h.stored hkeep, hnone, drop_nil]

/-- However often a pair with a single row is asked for, the answer is this row, and nothing
changes. -/
theorem Single.answerAll (h : t.Single link row) (plain : link.Plain)
    (requests : List PairRequest) :
    MembershipTables.answerAll link requests t =
      (requests.map fun _ => .ok (some ⟨row, link⟩), t) := by
  induction requests with
  | nil => rfl
  | cons request rest ih =>
    rw [MembershipTables.answerAll, h.run_program plain request, ih]
    rfl

/-- Adding a pair whose sides are stored leaves a single row of it. -/
theorem single_add (htexts : t.TextLinks) (plain : link.Plain)
    (hstored : t.storesLink link = true) {after : MembershipTables}
    (hafter : (run (Membership.add fresh link) t).2 = after)
    (hsettled : Settled t after fresh link row) : after.Single link row := by
  rw [run_add_of_stores htexts plain hstored] at hafter
  cases hkeep : Membership.highest? (t.rowsOf link) with
  | some keep =>
    rw [hkeep] at hafter
    subst hafter
    refine ⟨htexts.drop _, ?_, hsettled.single⟩
    rw [storesLink, stores_drop, stores_drop]
    exact hstored
  | none =>
    rw [hkeep] at hafter
    subst hafter
    exact ⟨htexts.addLink, hstored, hsettled.single⟩

/-- Adding a pair whose sides are stored and have OIDs that are not numeric gives its relationship
and settles it; after that the pair can be added and resolved any number of times, with the same
relationship each time and without a change. -/
theorem add_settles (htexts : t.TextLinks) (plain : link.Plain)
    (hstored : t.storesLink link = true) (hfresh : t.relations.get? fresh = none) :
    ∃ row after, run (Membership.add fresh link) t = (.ok (some ⟨row, link⟩), after) ∧
      Settled t after fresh link row ∧
      ∀ requests, answerAll link requests after =
        (requests.map fun _ => .ok (some ⟨row, link⟩), after) := by
  obtain ⟨row, hresult, hsettled⟩ := settled_add htexts plain hstored hfresh
  exact ⟨row, _, Prod.ext hresult rfl, hsettled,
    (single_add htexts plain hstored rfl hsettled).answerAll plain⟩

/-- A pair with three rows, beside a row of another pair, one of a missing group and a malformed
one, is settled by its highest row. -/
theorem add_settles_duplicates :
    let g : Oid := ⟨"g", by decide⟩
    let m : Oid := ⟨"m", by decide⟩
    let row : String → String → Fields := fun group member =>
      .ofList [("groupID", .text group), ("memberID", .text member)]
    let t : MembershipTables := {
      groups := .ofList [(g, ∅), (⟨"h", by decide⟩, ∅)]
      members := .ofList [(m, ∅)]
      relations := .ofList [(⟨"r3", by decide⟩, (row "g" "m").insert "role" (.int 3)),
        (⟨"r1", by decide⟩, row "g" "m"), (⟨"r4", by decide⟩, row "h" "m"),
        (⟨"r2", by decide⟩, row "g" "m"), (⟨"r5", by decide⟩, row "gone" "m"),
        (⟨"r6", by decide⟩, .ofList [("groupID", .text "g")])] }
    let link : Link := ⟨g, m⟩
    t.TextLinks ∧ link.Plain ∧ t.storesLink link = true ∧
      t.relations.get? (Oid.fresh 0) = none ∧
      ∃ row after, run (Membership.add (Oid.fresh 0) link) t = (.ok (some ⟨row, link⟩), after) ∧
        row.oid.text = "r3" ∧ Settled t after (Oid.fresh 0) link row ∧
        ∀ requests, answerAll link requests after =
          (requests.map fun _ => .ok (some ⟨row, link⟩), after) := by
  intro g m row t link
  have htexts : t.TextLinks := by decide +kernel
  have plain : link.Plain := by decide +kernel
  have hstored : t.storesLink link = true := by decide +kernel
  have hfresh : t.relations.get? (Oid.fresh 0) = none := by decide +kernel
  obtain ⟨row, after, hrun, hsettled, hlater⟩ := add_settles htexts plain hstored hfresh
  have hname : (run (Membership.add (Oid.fresh 0) link) t).1.toOption.join.map
      (fun found => found.record.oid.text) = some "r3" := by
    decide +kernel
  rw [hrun] at hname
  exact ⟨htexts, plain, hstored, hfresh, row, after, hrun, Option.some.inj hname, hsettled, hlater⟩

end MembershipTables

end TieredStore
