import TieredStore.Proofs.Interleaving.Upholds
import TieredStore.Proofs.Membership.PairRows

/-!
# One pair, added by many clients

Several clients add one pair at the same time, taking turns with single calls.  Each of them
looks for rows of the pair, adds one if it finds none, and removes the rows that it takes for
duplicates, though others may have changed the table since it looked.  A row is removed only if
there was a higher one, so the highest row of all stays; and of any two rows the later one was
added by a client that looked once more after that and saw both.

Main results:

- Theorem `MembershipTables.Adds.mem_oidsOf_of_isTop`: the highest row is still stored.
- Theorem `MembershipTables.upholds_add`: a client that is through has a relationship, and all rows
  but one are removed of those that were there at a moment after it had added its own.
- Theorem `MembershipTables.Adds.single`: when all clients are through, the highest row is the only
  one.
- Theorem `MembershipTables.reliable_addAll`: all of this after every schedule.
-/

namespace TieredStore

open Std

/-- An OID that is the highest one of a list. -/
structure Oid.IsTop (oids : List Oid) (top : Oid) : Prop where
  mem : top ∈ oids
  le : ∀ oid ∈ oids, (compare oid top).isLE = true

/-- Some OIDs have a highest one. -/
theorem Oid.exists_isTop {oids : List Oid} (hsome : oids ≠ []) : ∃ top, Oid.IsTop oids top := by
  induction oids with
  | nil => exact absurd rfl hsome
  | cons first rest ih =>
    by_cases hrest : rest = []
    · subst hrest
      refine ⟨first, List.mem_cons_self, fun oid hoid => ?_⟩
      rw [List.mem_singleton.1 hoid, ReflOrd.compare_self]
      rfl
    · obtain ⟨top, hmem, hle⟩ := ih hrest
      by_cases hfirst : (compare first top).isLE = true
      · exact ⟨top, List.mem_cons_of_mem _ hmem, List.forall_mem_cons.2 ⟨hfirst, hle⟩⟩
      · have htop : (compare top first).isLE = true :=
          Ordering.isLE_of_eq_lt (OrientedCmp.lt_of_not_isLE hfirst)
        refine ⟨first, List.mem_cons_self, List.forall_mem_cons.2 ⟨?_, ?_⟩⟩
        · rw [ReflOrd.compare_self]
          rfl
        · intro oid hoid
          exact TransOrd.isLE_trans (hle oid hoid) htop

/-- There is only one highest OID. -/
theorem Oid.IsTop.unique {oids : List Oid} {top other : Oid} (h : Oid.IsTop oids top)
    (h' : Oid.IsTop oids other) : other = top :=
  LawfulEqOrd.eq_of_compare (OrientedCmp.isLE_antisymm (h.le other h'.mem) (h'.le top h.mem))

namespace MembershipTables

/-! ## Single rows -/

section Rows

variable {t : MembershipTables} {link : Link} {oid fresh : Oid}

/-- The tables without the row of an OID. -/
def removeRow (t : MembershipTables) (oid : Oid) : MembershipTables :=
  { t with relations := t.relations.erase oid }

/-- The update that adds a row of a pair. -/
def addition (link : Link) (fresh : Oid) : RecordUpdate := ⟨fresh, link.fields, link.fields, true⟩

/-- A row of a pair is found under its OID. -/
theorem mem_oidsOf_iff_get? :
    oid ∈ t.oidsOf link ↔ ∃ fields, t.relations.get? oid = some fields ∧
      Link.ofRecord? (Record.loaded oid fields) = some link := by
  rw [mem_oidsOf]
  constructor
  · rintro ⟨r, hr, hlink, rfl⟩
    obtain ⟨fields, hget, hloaded⟩ := (RecordTable.mem_records _ r).1 hr
    exact ⟨fields, hget, hloaded ▸ hlink⟩
  · rintro ⟨fields, hget, hlink⟩
    exact ⟨_, (RecordTable.mem_records _ _).2 ⟨fields, hget, rfl⟩, hlink, rfl⟩

/-- The other rows are left. -/
theorem mem_oidsOf_removeRow {removed : Oid} :
    oid ∈ (t.removeRow removed).oidsOf link ↔ oid ∈ t.oidsOf link ∧ oid ≠ removed := by
  rw [mem_oidsOf_iff_get?, mem_oidsOf_iff_get?, removeRow]
  by_cases hsame : oid = removed
  · subst hsame
    simp
  · simp [SortedMap.get?_erase_of_ne _ hsame, hsame]

/-- A new row is one of its pair. -/
theorem mem_oidsOf_addLink :
    oid ∈ (t.addLink fresh link).oidsOf link ↔ oid = fresh ∨ oid ∈ t.oidsOf link := by
  rw [mem_oidsOf_iff_get?, mem_oidsOf_iff_get?, addLink]
  by_cases hsame : oid = fresh
  · subst hsame
    simp [Link.ofRecord?_loaded]
  · simp [SortedMap.get?_insert_of_ne _ _ hsame, hsame]

/-- Rows that are left name their sides by texts if all did. -/
theorem TextLinks.removeRow (h : t.TextLinks) (oid : Oid) : (t.removeRow oid).TextLinks := by
  intro r hr
  refine h r ((RecordTable.mem_records _ r).2 ?_)
  obtain ⟨fields, hget, hloaded⟩ := (RecordTable.mem_records _ r).1 hr
  refine ⟨fields, ?_, hloaded⟩
  by_cases hsame : r.oid = oid
  · rw [hsame, MembershipTables.removeRow, SortedMap.get?_erase_self] at hget
    cases hget
  · rwa [MembershipTables.removeRow, SortedMap.get?_erase_of_ne _ hsame] at hget

/-- Both sides of a link are stored exactly if each of them is. -/
theorem storesLink_iff (t : MembershipTables) (link : Link) :
    t.storesLink link = true ↔ ∀ side, t.stores side (link.side side) = true := by
  rw [storesLink, Bool.and_eq_true, Side.forall_iff]
  rfl

/-- No pair without rows has a highest one. -/
theorem oidsOf_of_highest?_eq_none (h : Membership.highest? (t.rowsOf link) = none) :
    t.oidsOf link = [] := by
  rw [oidsOf, Membership.highest?_eq_none_iff.1 h, List.map_nil]

end Rows

/-! ## What was there, and what was removed -/

/-- The calls that clients of a membership made. -/
abbrev Log (ι : Type) : Type := List (Event ι (At MembershipTable RecordCall) MembershipTables)

section Logs

variable {ι : Type}

/-- The OID of the row of links that a call adds. -/
def inserted? : Event ι (At MembershipTable RecordCall) MembershipTables → Option Oid
  | ⟨_, ⟨.relations, .apply update⟩, _⟩ => some update.oid
  | _ => none

/-- The OID of the row of links that a call removes. -/
def removed? : Event ι (At MembershipTable RecordCall) MembershipTables → Option Oid
  | ⟨_, ⟨.relations, .remove oid⟩, _⟩ => some oid
  | _ => none

/-- The OIDs of the rows of a pair that were there at the start or were added since. -/
def seen (start : MembershipTables) (link : Link) (log : Log ι) : List Oid :=
  start.oidsOf link ++ log.filterMap inserted?

/-- The OIDs of the rows that were removed. -/
def removed (log : Log ι) : List Oid := log.filterMap removed?

variable {start : MembershipTables} {link : Link} {log later last : Log ι} {oid : Oid} {i : ι}

theorem mem_seen : oid ∈ seen start link log ↔
    oid ∈ start.oidsOf link ∨ ∃ e ∈ log, inserted? e = some oid := by
  rw [seen, List.mem_append, List.mem_filterMap]

/-- A row that was there stays one that was there. -/
theorem mem_seen_later (h : oid ∈ seen start link log) (hlater : log <+: later) :
    oid ∈ seen start link later := by
  rcases mem_seen.1 h with hstart | ⟨e, he, hinserted⟩
  · exact mem_seen.2 (Or.inl hstart)
  · exact mem_seen.2 (Or.inr ⟨e, hlater.subset he, hinserted⟩)

/-- A row that was removed stays one that was removed. -/
theorem mem_removed_later (h : oid ∈ removed log) (hlater : log <+: later) :
    oid ∈ removed later :=
  (hlater.sublist.filterMap removed?).subset h

/-- Whether a log went on without a further row of a client. -/
def Since (i : ι) (log later : Log ι) : Prop :=
  ∃ more, later = log ++ more ∧ ∀ e ∈ more, e.client = i → inserted? e = none

namespace Since

/-- Nothing may have been called. -/
theorem refl (i : ι) (log : Log ι) : Since i log log :=
  ⟨[], (List.append_nil log).symm, fun _ h => nomatch h⟩

theorem trans (h : Since i log later) (h' : Since i later last) : Since i log last := by
  obtain ⟨more, rfl, hmore⟩ := h
  obtain ⟨others, rfl, hothers⟩ := h'
  refine ⟨more ++ others, List.append_assoc _ _ _, fun e he => ?_⟩
  rcases List.mem_append.1 he with he | he
  · exact hmore e he
  · exact hothers e he

/-- Calls of others add no row of the client. -/
theorem of_meanwhile (h : Meanwhile i log later) : Since i log later := by
  obtain ⟨others, rfl, hothers⟩ := h
  exact ⟨others, rfl, fun e he hclient => absurd hclient (hothers e he)⟩

/-- A call that adds nothing is one. -/
theorem of_event {e : Event ι (At MembershipTable RecordCall) MembershipTables}
    (h : inserted? e = none) : Since i log (log ++ [e]) :=
  ⟨[e], rfl, fun _ he _ => List.mem_singleton.1 he ▸ h⟩

/-- No call is taken back. -/
theorem isPrefix (h : Since i log later) : log <+: later := by
  obtain ⟨more, rfl, -⟩ := h
  exact List.prefix_append log more

/-- A row of the client that was added by now had been added by then. -/
theorem mem_of_client (h : Since i log later)
    {e : Event ι (At MembershipTable RecordCall) MembershipTables} (he : e ∈ later)
    (hclient : e.client = i) (hinserted : inserted? e = some oid) : e ∈ log := by
  obtain ⟨more, rfl, hmore⟩ := h
  rcases List.mem_append.1 he with he | he
  · exact he
  · rw [hmore e he hclient] at hinserted
    cases hinserted

end Since

end Logs

/-! ## What holds all the time -/

section Invariant

variable {ι : Type}

/-- What clients that add a pair keep true of the tables: the rows of the pair are those that were
seen and not removed, and whatever was removed had a higher one. -/
structure Adds (start : MembershipTables) (link : Link) (fresh : ι → Oid) (log : Log ι)
    (t : MembershipTables) : Prop where
  texts : t.TextLinks
  stored : t.storesLink link = true
  present : ∀ oid, oid ∈ t.oidsOf link ↔ oid ∈ seen start link log ∧ oid ∉ removed log
  outranked : ∀ oid ∈ removed log, oid ∈ seen start link log ∧
    ∃ higher ∈ seen start link log, compare oid higher = .lt
  /-- Every client adds its own row only. -/
  own : ∀ e ∈ log, ∀ oid, inserted? e = some oid → oid = fresh e.client

variable {start t : MembershipTables} {link : Link} {fresh : ι → Oid} {log : Log ι} {i : ι}

namespace Adds

/-- At first nothing is removed. -/
theorem init (htexts : start.TextLinks) (hstored : start.storesLink link = true) :
    Adds start link fresh [] start := by
  refine ⟨htexts, hstored, fun oid => ?_, fun _ h => (nomatch h), fun _ h => (nomatch h)⟩
  simp [seen, removed]

/-- The highest row of all is still stored. -/
theorem mem_oidsOf_of_isTop (h : Adds start link fresh log t) {top : Oid}
    (htop : Oid.IsTop (seen start link log) top) : top ∈ t.oidsOf link := by
  refine (h.present top).2 ⟨htop.mem, fun hremoved => ?_⟩
  obtain ⟨-, higher, hseen, hlt⟩ := h.outranked top hremoved
  have hle := htop.le higher hseen
  rw [OrientedCmp.gt_of_lt hlt] at hle
  cases hle

/-- As long as there is no row of the pair, there was none. -/
theorem seen_eq_nil (h : Adds start link fresh log t) (hnone : t.oidsOf link = []) :
    seen start link log = [] := by
  by_contra hsome
  obtain ⟨top, htop⟩ := Oid.exists_isTop hsome
  have hmem := h.mem_oidsOf_of_isTop htop
  rw [hnone] at hmem
  cases hmem

/-- The highest row that is stored is the highest one of all. -/
theorem isTop_of_highest? (h : Adds start link fresh log t) {keep : Record}
    (hkeep : Membership.highest? (t.rowsOf link) = some keep) :
    Oid.IsTop (seen start link log) keep.oid := by
  obtain ⟨hrow, hhighest⟩ := Membership.highest?_eq_some hkeep
  have hseen : keep.oid ∈ seen start link log :=
    ((h.present keep.oid).1 (List.mem_map_of_mem hrow)).1
  obtain ⟨top, htop⟩ := Oid.exists_isTop (List.ne_nil_of_mem hseen)
  obtain ⟨r, hr, hoid⟩ := List.mem_map.1 (h.mem_oidsOf_of_isTop htop)
  have hsame : keep.oid = top := by
    refine LawfulEqOrd.eq_of_compare (OrientedCmp.isLE_antisymm (htop.le keep.oid hseen) ?_)
    rw [← hoid]
    exact hhighest r hr
  rwa [hsame]

/-- A call that neither adds nor removes a row changes nothing. -/
theorem quiet (h : Adds start link fresh log t)
    {e : Event ι (At MembershipTable RecordCall) MembershipTables} (hinserted : inserted? e = none)
    (hremoved : removed? e = none) : Adds start link fresh (log ++ [e]) t := by
  have hseen : seen start link (log ++ [e]) = seen start link log := by
    simp [seen, List.filterMap_append, hinserted]
  have hgone : removed (log ++ [e]) = removed log := by
    simp [removed, List.filterMap_append, hremoved]
  refine ⟨h.texts, h.stored, ?_, ?_, ?_⟩
  · rw [hseen, hgone]
    exact h.present
  · rw [hseen, hgone]
    exact h.outranked
  · intro e' he' oid hoid
    rcases List.mem_append.1 he' with he' | he'
    · exact h.own e' he' oid hoid
    · rw [List.mem_singleton.1 he', hinserted] at hoid
      cases hoid

/-- A row is removed that had a higher one. -/
theorem remove (h : Adds start link fresh log t) {oid : Oid} (hseen : oid ∈ seen start link log)
    (hhigher : ∃ higher ∈ seen start link log, compare oid higher = .lt) :
    Adds start link fresh (log ++ [⟨i, ⟨.relations, .remove oid⟩, t⟩]) (t.removeRow oid) := by
  have hsame : seen start link (log ++ [⟨i, ⟨.relations, .remove oid⟩, t⟩]) =
      seen start link log := by
    simp [seen, List.filterMap_append, inserted?]
  have hgone : removed (log ++ [⟨i, ⟨.relations, .remove oid⟩, t⟩]) = removed log ++ [oid] := by
    simp [removed, List.filterMap_append, removed?]
  refine ⟨h.texts.removeRow oid, h.stored, ?_, ?_, ?_⟩
  · intro other
    rw [mem_oidsOf_removeRow, h.present, hsame, hgone, List.mem_append, List.mem_singleton, not_or,
      and_assoc]
  · rw [hsame, hgone]
    intro other hother
    rcases List.mem_append.1 hother with hother | hother
    · exact h.outranked other hother
    · rw [List.mem_singleton.1 hother]
      exact ⟨hseen, hhigher⟩
  · intro e he other hother
    rcases List.mem_append.1 he with he | he
    · exact h.own e he other hother
    · rw [List.mem_singleton.1 he] at hother
      cases hother

/-- A client adds its row, if it has not done so before. -/
theorem insert (h : Adds start link fresh log t) (distinct : Function.Injective fresh)
    (hnew : fresh i ∉ start.oidsOf link)
    (hfirst : Since i [] log) :
    Adds start link fresh (log ++ [⟨i, ⟨.relations, .apply (addition link (fresh i))⟩, t⟩])
      (t.addLink (fresh i) link) := by
  have hseen : seen start link (log ++ [⟨i, ⟨.relations, .apply (addition link (fresh i))⟩, t⟩]) =
      seen start link log ++ [fresh i] := by
    simp [seen, List.filterMap_append, inserted?, addition]
  have hsame : removed (log ++ [⟨i, ⟨.relations, .apply (addition link (fresh i))⟩, t⟩]) =
      removed log := by
    simp [removed, List.filterMap_append, removed?]
  have hunseen : fresh i ∉ seen start link log := by
    intro hmem
    rcases mem_seen.1 hmem with hstart | ⟨e, he, hinserted⟩
    · exact hnew hstart
    · have hclient := distinct (h.own e he _ hinserted)
      exact nomatch hfirst.mem_of_client he hclient.symm hinserted
  refine ⟨h.texts.addLink, h.stored, ?_, ?_, ?_⟩
  · intro oid
    rw [mem_oidsOf_addLink, h.present, hseen, hsame, List.mem_append, List.mem_singleton]
    constructor
    · rintro (rfl | ⟨hmem, hkept⟩)
      · exact ⟨Or.inr rfl, fun hremoved => hunseen (h.outranked _ hremoved).1⟩
      · exact ⟨Or.inl hmem, hkept⟩
    · rintro ⟨hmem | rfl, hkept⟩
      · exact Or.inr ⟨hmem, hkept⟩
      · exact Or.inl rfl
  · rw [hseen, hsame]
    intro oid hoid
    obtain ⟨hmem, higher, hhigher, hlt⟩ := h.outranked oid hoid
    exact ⟨List.mem_append_left _ hmem, higher, List.mem_append_left _ hhigher, hlt⟩
  · intro e he oid hoid
    rcases List.mem_append.1 he with he | he
    · exact h.own e he oid hoid
    · rw [List.mem_singleton.1 he] at hoid ⊢
      exact (Option.some.inj hoid).symm

end Adds

/-! ## What a client does -/

/-- Whether all rows but one are removed of those that were there at some moment. -/
def ClearedSince (start : MembershipTables) (link : Link) (early log : Log ι) : Prop :=
  ∃ top, Oid.IsTop (seen start link early) top ∧
    ∀ oid ∈ seen start link early, oid = top ∨ oid ∈ removed log

/-- Whether this is so for a moment since which a client has added no row. -/
def Cleared (start : MembershipTables) (link : Link) (i : ι) (log : Log ι) : Prop :=
  ∃ early, Since i early log ∧ ClearedSince start link early log

/-- It stays so until the client adds a row. -/
theorem Cleared.since {later : Log ι} (h : Cleared start link i log) (hlater : Since i log later) :
    Cleared start link i later := by
  obtain ⟨early, hearly, top, htop, hremoved⟩ := h
  exact ⟨early, hearly.trans hlater, top, htop, fun oid hoid =>
    (hremoved oid hoid).imp_right fun hgone => mem_removed_later hgone hlater.isPrefix⟩

variable {α : Type} {Knows : Except StoreError α → Log ι → Prop}

/-- A client that asks whether a record is stored goes on with the answer. -/
theorem upholds_contains (place : MembershipTable) (oid : Oid) {f : Bool → MembershipProgram α}
    (h : ∀ later t, Since i log later → Adds start link fresh later t →
      Program.Upholds answer (Adds start link fresh) i Knows (f ((t.table place).contains oid))
        later) :
    Program.Upholds answer (Adds start link fresh) i Knows
      ((Records.contains oid).at place >>= f) log := by
  show Program.Upholds _ _ i Knows (.ofCall (⟨place, .get oid⟩ : At MembershipTable RecordCall) >>=
    fun (found : Option Record) => f found.isSome) log
  refine Program.Upholds.call fun later t hlater hinv => ?_
  have hinserted : inserted? ⟨i, ⟨place, .get oid⟩, t⟩ = none := by cases place <;> rfl
  have hremoved : removed? ⟨i, ⟨place, .get oid⟩, t⟩ = none := by cases place <;> rfl
  have hsame : (answer ⟨place, .get oid⟩ t).2 = t := t.withTable_table place
  have hkept := hinv.quiet hinserted hremoved
  refine ⟨((t.table place).get? oid).map (Record.loaded oid), rfl, ?_, ?_⟩
  · rw [hsame]
    exact hkept
  · rw [Option.isSome_map]
    exact h _ t ((Since.of_meanwhile hlater).trans (Since.of_event hinserted)) hkept

/-- A client that looks a pair up goes on with its rows. -/
theorem upholds_relationsWhere (plain : link.Plain) {f : List Record → MembershipProgram α}
    (h : ∀ later t, Since i log later → Adds start link fresh later t →
      Program.Upholds answer (Adds start link fresh) i Knows (f (t.rowsOf link)) later) :
    Program.Upholds answer (Adds start link fresh) i Knows
      (Membership.relationsWhere link.predicate >>= f) log := by
  show Program.Upholds _ _ i Knows
    (.ofCall (⟨.relations, .query (.filter link.predicate)⟩ : At MembershipTable RecordCall) >>=
      fun (rows : List Record) => f rows) log
  refine Program.Upholds.call fun later t hlater hinv => ?_
  have hanswer : answer ⟨.relations, .query (.filter link.predicate)⟩ t =
      (.ok (t.rowsOf link), t) := by
    have hrun := t.run_relationsWhere (Link.validate_predicate link)
    rw [select_predicate hinv.texts plain] at hrun
    exact (congrFun (Program.run_ofCall answer _) t).symm.trans hrun
  have hkept := hinv.quiet (e := ⟨i, ⟨.relations, .query (.filter link.predicate)⟩, t⟩) rfl rfl
  refine ⟨t.rowsOf link, by rw [hanswer], ?_, ?_⟩
  · rw [hanswer]
    exact hkept
  · exact h _ t ((Since.of_meanwhile hlater).trans (Since.of_event rfl)) hkept

/-- A client removes rows that had a higher one when it looked. -/
theorem upholds_removeAll {early : Log ι} {oids : List Oid} {f : Unit → MembershipProgram α}
    (hearly : early <+: log)
    (hoids : ∀ oid ∈ oids, oid ∈ seen start link early ∧
      ∃ higher ∈ seen start link early, compare oid higher = .lt)
    (h : ∀ later, Since i log later → (∀ oid ∈ oids, oid ∈ removed later) →
      Program.Upholds answer (Adds start link fresh) i Knows (f ()) later) :
    Program.Upholds answer (Adds start link fresh) i Knows
      ((Records.removeAll oids).at .relations >>= f) log := by
  induction oids generalizing log with
  | nil => exact h log (Since.refl i log) fun _ hoid => nomatch hoid
  | cons oid rest ih =>
    obtain ⟨⟨hseen, higher, hhigher, hlt⟩, hrest⟩ := List.forall_mem_cons.1 hoids
    show Program.Upholds _ _ i Knows (.ofCall (⟨.relations, .remove oid⟩ :
      At MembershipTable RecordCall) >>= fun _ => (Records.removeAll rest).at .relations >>= f) log
    refine Program.Upholds.call fun later t hlater hinv => ?_
    have hextends := hearly.trans hlater.isPrefix
    have hnext : Since i log (later ++ [⟨i, ⟨.relations, .remove oid⟩, t⟩]) :=
      (Since.of_meanwhile hlater).trans (Since.of_event rfl)
    refine ⟨(), rfl, hinv.remove (mem_seen_later hseen hextends)
      ⟨higher, mem_seen_later hhigher hextends, hlt⟩, ?_⟩
    refine ih (hearly.trans hnext.isPrefix) hrest fun last hlast hgone => ?_
    refine h last (hnext.trans hlast) (List.forall_mem_cons.2 ⟨?_, hgone⟩)
    refine mem_removed_later ?_ hlast.isPrefix
    simp [removed, List.filterMap_append, removed?]

/-- Rows without a highest one are none, and collapsing them does nothing. -/
theorem collapse_of_none {rows : List Record} (h : Membership.highest? rows = none) :
    Membership.collapse rows = pure none := by
  rw [Membership.collapse, List.head?_eq_none_iff.1 h]

/-- Collapsing rows is removing all but the highest one. -/
theorem collapse_of_some {rows : List Record} {keep : Record}
    (h : Membership.highest? rows = some keep) :
    Membership.collapse rows =
      Membership.removeRelations (Membership.duplicates rows) >>= fun _ => pure (some keep) := by
  obtain ⟨rest, hrest⟩ := List.head?_eq_some_iff.1 h
  rw [Membership.collapse, Membership.duplicates, hrest]
  rfl

/-- The duplicates of a pair have a higher row, its highest one. -/
theorem Adds.lt_of_mem_duplicates (h : Adds start link fresh log t) {keep r : Record}
    (hkeep : Membership.highest? (t.rowsOf link) = some keep)
    (hr : r ∈ Membership.duplicates (t.rowsOf link)) :
    r.oid ∈ seen start link log ∧ compare r.oid keep.oid = .lt := by
  obtain ⟨hrow, hne⟩ := (mem_duplicates_rowsOf hkeep).1 hr
  obtain ⟨hkeeprow, hhighest⟩ := Membership.highest?_eq_some hkeep
  refine ⟨((h.present r.oid).1 (List.mem_map_of_mem hrow)).1, ?_⟩
  rcases Ordering.isLE_iff_eq_lt_or_eq_eq.1 (hhighest r hrow) with hlt | heq
  · exact hlt
  · exact absurd (t.row_eq_of_oid (mem_rowsOf.1 hrow).1 (mem_rowsOf.1 hkeeprow).1
      (LawfulEqOrd.eq_of_compare heq)) hne

/-- A client that collapses a pair goes on without a relationship if there never was a row, or with
one of the pair, all rows but one being removed. -/
theorem upholds_collapsePair (plain : link.Plain) {f : Option Relationship → MembershipProgram α}
    (hnone : ∀ later, Since i log later → seen start link later = [] →
      Program.Upholds answer (Adds start link fresh) i Knows (f none) later)
    (hsome : ∀ later found, Since i log later → found.link = link → Cleared start link i later →
      Program.Upholds answer (Adds start link fresh) i Knows (f (some found)) later) :
    Program.Upholds answer (Adds start link fresh) i Knows
      (Membership.collapsePair link >>= f) log := by
  show Program.Upholds _ _ i Knows (Membership.relationsWhere link.predicate >>= fun rows =>
    (Membership.collapse rows >>= fun keep => pure (keep.bind Relationship.ofRecord?)) >>= f) log
  refine upholds_relationsWhere plain fun early t hearly hinv => ?_
  cases hkeep : Membership.highest? (t.rowsOf link) with
  | none =>
    rw [collapse_of_none hkeep]
    exact hnone early hearly (hinv.seen_eq_nil (oidsOf_of_highest?_eq_none hkeep))
  | some keep =>
    have htop := hinv.isTop_of_highest? hkeep
    rw [collapse_of_some hkeep, Program.bind_assoc, Program.bind_assoc]
    refine upholds_removeAll (List.prefix_refl early) ?_ fun later hlater hgone => ?_
    · intro oid hoid
      obtain ⟨r, hr, rfl⟩ := List.mem_map.1 hoid
      obtain ⟨hseen, hlt⟩ := hinv.lt_of_mem_duplicates hkeep hr
      exact ⟨hseen, keep.oid, htop.mem, hlt⟩
    · show Program.Upholds _ _ i Knows (f ((some keep).bind Relationship.ofRecord?)) later
      rw [Option.bind_some, ofRecord?_of_highest? hkeep]
      refine hsome later _ (hearly.trans hlater) rfl
        ⟨early, hlater, keep.oid, htop, fun oid hoid => ?_⟩
      -- What was gone at the look is still gone; the rest was there, and is a duplicate or kept.
      by_cases hold : oid ∈ removed early
      · exact Or.inr (mem_removed_later hold hlater.isPrefix)
      · obtain ⟨r, hr, rfl⟩ := List.mem_map.1 ((hinv.present oid).2 ⟨hoid, hold⟩)
        by_cases hkept : r = keep
        · exact Or.inl (congrArg (·.oid) hkept)
        · exact Or.inr (hgone _ (List.mem_map_of_mem
            ((mem_duplicates_rowsOf hkeep).2 ⟨hr, hkept⟩)))

/-- What a client knows that is through with adding a pair: it has a relationship of the pair, and
all rows but one are removed of those that were there when it looked last. -/
def Added (start : MembershipTables) (link : Link) (i : ι)
    (outcome : Except StoreError (Option Relationship)) (log : Log ι) : Prop :=
  (∃ found, outcome = .ok (some found) ∧ found.link = link) ∧ Cleared start link i log

/-- A client that has a relationship of the pair is through. -/
theorem upholds_pure {found : Relationship} (hlink : found.link = link)
    (hcleared : Cleared start link i log) :
    Program.Upholds answer (Adds start link fresh) i (Added start link i)
      (pure (some found)) log :=
  Program.Upholds.pure fun _ hlater =>
    ⟨⟨found, rfl, hlink⟩, hcleared.since (Since.of_meanwhile hlater)⟩

/-- A client that adds its row, as its first one, and collapses the pair is through. -/
theorem upholds_addRecord (plain : link.Plain) (distinct : Function.Injective fresh)
    (hnew : fresh i ∉ start.oidsOf link)
    (hfirst : Since i [] log) :
    Program.Upholds answer (Adds start link fresh) i (Added start link i)
      (Membership.addRecord (fresh i) link) log := by
  have hprogram : Membership.addRecord (fresh i) link =
      .ofCall (⟨.relations, .apply (addition link (fresh i))⟩ : At MembershipTable RecordCall) >>=
        fun _ => Membership.collapsePair link >>= pure := by
    unfold Membership.addRecord
    rw [Link.newRecord_eq, Program.bind_pure]
    rfl
  rw [hprogram]
  refine Program.Upholds.call fun later t hlater hinv => ?_
  have hanswer : answer ⟨.relations, .apply (addition link (fresh i))⟩ t =
      (.ok (), t.addLink (fresh i) link) := by
    refine Prod.ext rfl ?_
    show ({ t with relations := t.relations.apply (addition link (fresh i)) } :
      MembershipTables) = { t with relations := t.relations.insert (fresh i) link.fields }
    rw [RecordTable.apply]
    cases t.relations.get? (addition link (fresh i)).oid <;> rfl
  refine ⟨(), by rw [hanswer], ?_, ?_⟩
  · rw [hanswer]
    exact hinv.insert distinct hnew (hfirst.trans (Since.of_meanwhile hlater))
  · refine upholds_collapsePair plain ?_ ?_
    · -- There is a row: the client's own.
      intro last hlast hnone
      have hadded := List.mem_append_right later (List.mem_singleton_self
        (⟨i, ⟨.relations, .apply (addition link (fresh i))⟩, t⟩ : Event ι _ MembershipTables))
      have hown : fresh i ∈ seen start link last :=
        mem_seen.2 (Or.inr ⟨_, hlast.isPrefix.subset hadded, rfl⟩)
      rw [hnone] at hown
      cases hown
    · intro last found _ hlink hcleared
      exact upholds_pure hlink hcleared

/-- A client that asks for a side of the pair finds it stored. -/
theorem upholds_healSide (side : Side) {f : Bool → MembershipProgram α}
    (h : ∀ later, Since i log later →
      Program.Upholds answer (Adds start link fresh) i Knows (f true) later) :
    Program.Upholds answer (Adds start link fresh) i Knows
      (Membership.healSide side (link.side side) >>= f) log := by
  unfold Membership.healSide
  rw [Program.bind_assoc]
  refine upholds_contains side.table (link.side side) fun later t hlater hinv => ?_
  have hfound : (t.table side.table).contains (link.side side) = true :=
    (t.storesLink_iff link).1 hinv.stored side
  rw [hfound]
  exact h later hlater

/-- A client that adds a pair is through with a relationship of it, and with all rows but one
removed of those that were there when it looked last. -/
theorem upholds_add (plain : link.Plain) (distinct : Function.Injective fresh)
    (hnew : fresh i ∉ start.oidsOf link) :
    Program.Upholds answer (Adds start link fresh) i (Added start link i)
      (Membership.add (fresh i) link) [] := by
  unfold Membership.add Membership.healSides
  rw [Program.bind_assoc]
  refine upholds_healSide .group fun log hgroup => ?_
  rw [Program.bind_assoc]
  refine upholds_healSide .member fun later hmember => ?_
  show Program.Upholds _ _ i _
    (Membership.collapsePair link >>= Membership.addUnlessFound (fresh i) link) later
  refine upholds_collapsePair plain ?_ ?_
  · intro last hlast _
    exact upholds_addRecord plain distinct hnew ((hgroup.trans hmember).trans hlast)
  · intro last found _ hlink hcleared
    exact upholds_pure hlink hcleared

/-! ## When all clients are through -/

/-- A row that was there was seen by a client that has cleared the pair since. -/
theorem exists_clearedSince [Nonempty ι]
    (hall : ∀ i, Cleared start link i log) {oid : Oid} (hseen : oid ∈ seen start link log) :
    ∃ early, early <+: log ∧ oid ∈ seen start link early ∧ ClearedSince start link early log := by
  rcases mem_seen.1 hseen with hstart | ⟨e, he, hinserted⟩
  · obtain ⟨early, hearly, hcleared⟩ := hall (Classical.arbitrary ι)
    exact ⟨early, hearly.isPrefix, mem_seen.2 (Or.inl hstart), hcleared⟩
  · obtain ⟨early, hearly, hcleared⟩ := hall e.client
    have hold := hearly.mem_of_client he rfl hinserted
    exact ⟨early, hearly.isPrefix, mem_seen.2 (Or.inr ⟨e, hold, hinserted⟩), hcleared⟩

/-- Two rows that were not removed are one row: of the looks that saw them the later one saw
both. -/
theorem Adds.eq_of_mem_oidsOf (h : Adds start link fresh log t) [Nonempty ι]
    (hall : ∀ i, Cleared start link i log) {a b : Oid} (ha : a ∈ t.oidsOf link)
    (hb : b ∈ t.oidsOf link) : a = b := by
  obtain ⟨haseen, hakept⟩ := (h.present a).1 ha
  obtain ⟨hbseen, hbkept⟩ := (h.present b).1 hb
  have same : ∀ early, ClearedSince start link early log → a ∈ seen start link early →
      b ∈ seen start link early → a = b := by
    rintro early ⟨top, -, hremoved⟩ haold hbold
    rw [(hremoved a haold).resolve_right hakept, (hremoved b hbold).resolve_right hbkept]
  obtain ⟨early, hearly, haold, hacleared⟩ := exists_clearedSince hall haseen
  obtain ⟨other, hother, hbold, hbcleared⟩ := exists_clearedSince hall hbseen
  rcases List.prefix_or_prefix_of_prefix hearly hother with hle | hle
  · exact same other hbcleared (mem_seen_later haold hle) hbold
  · exact same early hacleared haold (mem_seen_later hbold hle)

/-- When all clients are through, the highest row of all is the only one. -/
theorem Adds.single (h : Adds start link fresh log t) [Nonempty ι]
    (hall : ∀ i, Cleared start link i log) :
    ∃ row, t.rowsOf link = [row] ∧ Oid.IsTop (seen start link log) row.oid := by
  obtain ⟨early, hearly, _, hsome, -⟩ := hall (Classical.arbitrary ι)
  obtain ⟨top, htop⟩ := Oid.exists_isTop
    (List.ne_nil_of_mem (mem_seen_later hsome.mem hearly.isPrefix))
  obtain ⟨row, hrow, rfl⟩ := List.mem_map.1 (h.mem_oidsOf_of_isTop htop)
  refine ⟨row, rowsOf_eq_singleton fun r => ⟨fun hr => ?_, fun hr => hr ▸ hrow⟩, htop⟩
  exact t.row_eq_of_oid (mem_rowsOf.1 hr).1 (mem_rowsOf.1 hrow).1
    (h.eq_of_mem_oidsOf hall (List.mem_map_of_mem hr) (List.mem_map_of_mem hrow))

end Invariant

/-! ## Every schedule -/

section Schedules

variable {ι : Type}

/-- Whether a pair is spared: both sides are stored, all rows name their sides by texts, and the
pair has rows under the same OIDs. -/
def Spares (link : Link) (before after : MembershipTables) : Prop :=
  after.storesLink link = true ∧ after.TextLinks ∧ after.oidsOf link = before.oidsOf link

instance (link : Link) (before after : MembershipTables) : Decidable (Spares link before after) :=
  inferInstanceAs (Decidable (_ ∧ _ ∧ _))

/-- What others do: they leave any tables that spare the pair. -/
def elsewhere (link : Link) (after before : MembershipTables) : MembershipTables :=
  if Spares link before after then after else before

variable {start t : MembershipTables} {link : Link} {fresh : ι → Oid} {log : Log ι}

/-- Others keep what the clients keep. -/
theorem Adds.elsewhere (h : Adds start link fresh log t) (after : MembershipTables) :
    Adds start link fresh log (elsewhere link after t) := by
  unfold MembershipTables.elsewhere
  by_cases hspares : Spares link t after
  · rw [if_pos hspares]
    obtain ⟨hstored, htexts, hoids⟩ := hspares
    refine ⟨htexts, hstored, ?_, h.outranked, h.own⟩
    rw [hoids]
    exact h.present
  · rwa [if_neg hspares]

variable [DecidableEq ι]

/-- What clients that each add a pair come to if they take turns with single calls, while others
change the tables. -/
def addAll (start : MembershipTables) (link : Link) (fresh : ι → Oid)
    (moves : List (Move ι MembershipTables)) :
    Crowd ι (At MembershipTable RecordCall) MembershipTables (Option Relationship) :=
  Crowd.run answer (elsewhere link) moves
    { state := start, rest := fun i => Membership.add (fresh i) link }

/-- What clients that add a pair may rely on. -/
structure Reliable (start : MembershipTables) (link : Link)
    (c : Crowd ι (At MembershipTable RecordCall) MembershipTables (Option Relationship)) :
    Prop where
  /-- The highest row of all that were there is still stored. -/
  top_stored : ∀ top, Oid.IsTop (seen start link c.log) top → top ∈ c.state.oidsOf link
  /-- Whoever is through has a relationship of the pair. -/
  linked : ∀ i outcome, (c.rest i).outcome? = some outcome →
    ∃ found, outcome = .ok (some found) ∧ found.link = link
  /-- Every client gets through if it has enough turns. -/
  gets_through : ∀ i, ∃ turns, ((c.run answer (elsewhere link)
    (List.replicate turns (.client i))).rest i).outcome?.isSome
  /-- When all are through, the highest row of all that were there is the only one. -/
  single : Nonempty ι → (∀ i, (c.rest i).outcome?.isSome) →
    ∃ row, c.state.rowsOf link = [row] ∧ Oid.IsTop (seen start link c.log) row.oid

/-- Clients that add a pair whose sides are stored may rely on it after every schedule, whatever
rows the pair had. -/
theorem reliable_addAll (htexts : start.TextLinks) (plain : link.Plain)
    (hstored : start.storesLink link = true) (distinct : Function.Injective fresh)
    (hfresh : ∀ i, start.relations.get? (fresh i) = none)
    (moves : List (Move ι MembershipTables)) :
    Reliable start link (start.addAll link fresh moves) := by
  have hnew : ∀ i, fresh i ∉ start.oidsOf link := by
    intro i hmem
    obtain ⟨fields, hget, -⟩ := mem_oidsOf_iff_get?.1 hmem
    rw [hfresh i] at hget
    cases hget
  have hkept : (start.addAll link fresh moves).Kept answer (Adds start link fresh)
      (fun i => Added start link i) :=
    Crowd.Kept.run (fun after _ _ _ h => h.elsewhere after)
      ⟨Adds.init htexts hstored, fun i => upholds_add plain distinct (hnew i)⟩
  refine ⟨fun top htop => hkept.inv.mem_oidsOf_of_isTop htop,
    fun i outcome hover => (hkept.knows hover).1, fun i => Crowd.over_alone _ i, ?_⟩
  intro hclients hall
  refine hkept.inv.single fun i => ?_
  obtain ⟨outcome, hover⟩ := Option.isSome_iff_exists.1 (hall i)
  exact (hkept.knows hover).2

/-- Two clients add a pair that has no row yet: both find none and add theirs, others remove the row
of another pair in between, and both clients remove the lower one of their rows. -/
theorem reliable_addAll_race :
    let g : Oid := ⟨"g", by decide⟩
    let m : Oid := ⟨"m", by decide⟩
    let link : Link := ⟨g, m⟩
    let start : MembershipTables := {
      groups := .ofList [(g, ∅)]
      members := .ofList [(m, ∅)]
      relations := .ofList [(⟨"r1", by decide⟩, Link.fields ⟨m, g⟩)] }
    let fresh : Bool → Oid := fun late => Oid.fresh late.toNat
    let moves : List (Move Bool MembershipTables) :=
      List.replicate 3 (.client false) ++ List.replicate 3 (.client true) ++
      .outside { start with relations := ∅ } ::
      (List.replicate 3 [.client true, .client false]).flatten
    let c := start.addAll link fresh moves
    start.TextLinks ∧ link.Plain ∧ start.storesLink link = true ∧ Function.Injective fresh ∧
      (∀ late, start.relations.get? (fresh late) = none) ∧ Reliable start link c ∧
      (∀ late, (c.rest late).outcome?.isSome) ∧ c.log.length = 12 ∧
      c.state.relations.keys = [Oid.fresh 1] := by
  intro g m link start fresh moves c
  have htexts : start.TextLinks := by decide +kernel
  have plain : link.Plain := by decide +kernel
  have hstored : start.storesLink link = true := by decide +kernel
  have distinct : Function.Injective fresh := by
    unfold Function.Injective
    decide +kernel
  have hfresh : ∀ late, start.relations.get? (fresh late) = none := by decide +kernel
  have hrace : (∀ late, (c.rest late).outcome?.isSome) ∧ c.log.length = 12 ∧
      c.state.relations.keys = [Oid.fresh 1] := by
    decide +kernel
  exact ⟨htexts, plain, hstored, distinct, hfresh,
    reliable_addAll htexts plain hstored distinct hfresh moves, hrace⟩

end Schedules

end MembershipTables

end TieredStore
