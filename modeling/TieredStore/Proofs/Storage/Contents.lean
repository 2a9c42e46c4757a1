import TieredStore.Proofs.Relational.Noninterference
import TieredStore.Proofs.Storage.Invariance

/-!
# The contents of parts of the storage

Each base store keeps its contents in one part of the storage: a table of its own, or its rows in
a database.  Storage that was written through some stores, or that has grown, has the old contents
in all other parts.  And a base store answers alike on storages that have the same in its part.

Main results:

- Theorem `Storage.Spares.trans`: what two changes in a row spare.
- Theorem `Storage.AlikeOn.setCell`: equal contents in a part replaced by equal contents.
- Instances of `Kept`: what base stores of each kind spare, and what decides about their answers.
-/

namespace TieredStore

/-! ## Cells -/

namespace Storage

variable {α : Type} [Inhabited α] [Stored α] {s t : Storage} {ref other : Ref α}

/-- What a cell holds, if there is one. -/
def cell? (s : Storage) (ref : Ref α) : Option α := if s.Holds ref then some (s.cell ref) else none

/-- A cell that is there has something. -/
theorem cell?_of_holds (h : s.Holds ref) : s.cell? ref = some (s.cell ref) := if_pos h

/-- What a cell has it holds. -/
theorem cell?_eq_some_iff {a : α} : s.cell? ref = some a ↔ s.Holds ref ∧ s.cell ref = a := by
  unfold cell?
  split <;> simp [*]

/-- A reference to a cell is one that holds something. -/
theorem isSome_cell?_iff : (s.cell? ref).isSome ↔ s.Holds ref := by
  unfold cell?
  split <;> simp [*]

/-- A reference to no cell gives the default. -/
theorem cell_of_not_holds (h : ¬s.Holds ref) : s.cell ref = default := by
  have hnone : (Stored.heap s).cells[ref.index]? = none :=
    Array.getElem?_eq_none (Nat.not_lt.1 h)
  rw [cell, Heap.get, hnone, Option.getD_none]

/-- Cells with the same in them are read alike, also if there is none. -/
theorem cell_eq_of_cell?_eq (h : t.cell? ref = s.cell? ref) : t.cell ref = s.cell ref := by
  by_cases hs : s.Holds ref
  · rw [cell?_of_holds hs] at h
    exact (cell?_eq_some_iff.1 h).2
  · have ht : ¬t.Holds ref := by
      intro ht
      rw [cell?_of_holds ht, cell?, if_neg hs] at h
      cases h
    rw [cell_of_not_holds hs, cell_of_not_holds ht]

variable [StoredApart α]

/-- A write is seen through its own reference if there is a cell. -/
theorem cell?_setCell_self (s : Storage) (ref : Ref α) (a : α) :
    (s.setCell ref a).cell? ref = (s.cell? ref).map fun _ => a := by
  by_cases hs : s.Holds ref
  · rw [cell?_of_holds hs, cell?_of_holds ((holds_setCell_iff a).2 hs), cell_setCell_self a hs]
    rfl
  · rw [cell?, cell?, if_neg hs, if_neg fun h => hs ((holds_setCell_iff a).1 h)]
    rfl

/-- A write is not seen through other references. -/
theorem cell?_setCell_of_ne (s : Storage) (a : α) (hne : other ≠ ref) :
    (s.setCell ref a).cell? other = s.cell? other := by
  rw [cell?, cell?, cell_setCell_of_ne s a hne]
  exact if_congr (holds_setCell_iff a) rfl rfl

end Storage

/-! ## Parts and their contents -/

/-- The rows of one store in a database. -/
structure StoredRows where
  listed : String → Bool
  row? : String → String → Option FieldRow

/-- The rows that a database has for a store. -/
def Database.rowsUnder (db : Database) (store : String) : StoredRows where
  listed identifier := db.records.contains ⟨store, identifier⟩
  row? identifier field := db.row? ⟨store, identifier⟩ field

/-- Databases have the same rows exactly if they have equal ones. -/
theorem Database.sameRows_iff {store : String} {db db' : Database} :
    SameRows store db db' ↔ db'.rowsUnder store = db.rowsUnder store := by
  constructor
  · intro h
    rw [rowsUnder, rowsUnder, StoredRows.mk.injEq]
    exact ⟨funext h.listed, funext fun identifier => funext (h.rows identifier)⟩
  · intro h
    obtain ⟨hlisted, hrows⟩ := StoredRows.mk.inj h
    exact ⟨congrFun hlisted, fun identifier => congrFun (congrFun hrows identifier)⟩

/-- A part of the storage that a base store of any kind keeps its contents in. -/
inductive StoragePart where
  | records (part : RecordPart)
  | texts (table : Ref (EntryTable String))
  | counters (table : Ref (EntryTable Int64))
  deriving DecidableEq

/-- What there is in a part of the storage. -/
inductive PartContents where
  | records (table : RecordTable)
  | rows (rows : StoredRows)
  | texts (table : EntryTable String)
  | counters (table : EntryTable Int64)

namespace StoragePart

/-- The contents of a part, if it is there. -/
def contents (s : Storage) : StoragePart → Option PartContents
  | .records (.inMemory table) => (s.cell? table).map .records
  | .records (.inDatabase database store) =>
    (s.cell? database).map fun db => .rows (db.rowsUnder store)
  | .texts table => (s.cell? table).map .texts
  | .counters table => (s.cell? table).map .counters

/-- The part of a table in memory is there if its cell is. -/
theorem isSome_contents_inMemory_iff {s : Storage} (table : Ref RecordTable) :
    ((records (.inMemory table)).contents s).isSome ↔ s.Holds table := by
  rw [contents, Option.isSome_map, Storage.isSome_cell?_iff]

/-- The part of a store in a database is there if the database is. -/
theorem isSome_contents_inDatabase_iff {s : Storage} (database : Ref Database) (store : String) :
    ((records (.inDatabase database store)).contents s).isSome ↔ s.Holds database := by
  rw [contents, Option.isSome_map, Storage.isSome_cell?_iff]

/-- What a part has that was never written. -/
def nothing : StoragePart → PartContents
  | .records (.inMemory _) => .records ∅
  | .records (.inDatabase _ _) => .rows ⟨fun _ => false, fun _ _ => none⟩
  | .texts _ => .texts ∅
  | .counters _ => .counters ∅

/-- Whether the tables are set up that a part needs. -/
def IsSetUp (s : Storage) : StoragePart → Prop
  | .records part => part.IsSetUp s
  | _ => True

/-- Whether the contents of a part are a table in a cell. -/
structure HoldsTable {Table : Type} [Inhabited Table] [Stored Table] (part : StoragePart)
    (table : Ref Table) : Prop where
  own : ∃ wrap : Table → PartContents, Function.Injective wrap ∧
    ∀ s, part.contents s = (s.cell? table).map wrap
  other : ∀ (s : Storage) (a : Table) (other : StoragePart), other ≠ part →
    other.contents (s.setCell table a) = other.contents s
  setUp : ∀ (s : Storage) (a : Table) (other : StoragePart),
    other.IsSetUp (s.setCell table a) ↔ other.IsSetUp s

/-- A table of records in memory. -/
theorem holdsTable_records (table : Ref RecordTable) :
    HoldsTable (.records (.inMemory table)) table where
  own := ⟨.records, fun _ _ h => PartContents.records.inj h, fun _ => rfl⟩
  other s a other hne := by
    cases other with
    | records part =>
      cases part with
      | inMemory other =>
        have hother : other ≠ table := fun h => hne (h ▸ rfl)
        rw [contents, contents, Storage.cell?_setCell_of_ne s a hother]
      | inDatabase database store => rfl
    | texts other => rfl
    | counters other => rfl
  setUp s a other := by
    cases other with
    | records part => cases part <;> rfl
    | texts other => rfl
    | counters other => rfl

/-- A table of texts. -/
theorem holdsTable_texts (table : Ref (EntryTable String)) : HoldsTable (.texts table) table where
  own := ⟨.texts, fun _ _ h => PartContents.texts.inj h, fun _ => rfl⟩
  other s a other hne := by
    cases other with
    | records part => cases part <;> rfl
    | texts other =>
      have hother : other ≠ table := fun h => hne (h ▸ rfl)
      rw [contents, contents, Storage.cell?_setCell_of_ne s a hother]
    | counters other => rfl
  setUp s a other := by
    cases other with
    | records part => cases part <;> rfl
    | texts other => rfl
    | counters other => rfl

/-- A table of integers. -/
theorem holdsTable_counters (table : Ref (EntryTable Int64)) :
    HoldsTable (.counters table) table where
  own := ⟨.counters, fun _ _ h => PartContents.counters.inj h, fun _ => rfl⟩
  other s a other hne := by
    cases other with
    | records part => cases part <;> rfl
    | texts other => rfl
    | counters other =>
      have hother : other ≠ table := fun h => hne (h ▸ rfl)
      rw [contents, contents, Storage.cell?_setCell_of_ne s a hother]
  setUp s a other := by
    cases other with
    | records part => cases part <;> rfl
    | texts other => rfl
    | counters other => rfl

variable (s : Storage) {part : StoragePart}

/-- A database in which the rows of a part stay as they are leaves its contents alone. -/
theorem contents_setCell_database {database : Ref Database} {db : Database}
    (hrows : ∀ store, part = .records (.inDatabase database store) →
      Database.SameRows store (s.cell database) db) :
    part.contents (s.setCell database db) = part.contents s := by
  cases part with
  | records part =>
    cases part with
    | inMemory table => rfl
    | inDatabase other store =>
      by_cases hsame : other = database
      · subst hsame
        rw [contents, contents, Storage.cell?_setCell_self]
        by_cases hholds : s.Holds other
        · rw [Storage.cell?_of_holds hholds]
          exact congrArg (some ∘ PartContents.rows) (Database.sameRows_iff.1 (hrows store rfl))
        · rw [Storage.cell?, if_neg hholds]
          rfl
      · rw [contents, contents, Storage.cell?_setCell_of_ne s db hsame]
  | texts table => rfl
  | counters table => rfl

/-- Only databases can be set up or not. -/
theorem isSetUp_setCell_database {database : Ref Database} {db : Database}
    (hready : (s.cell database).ready = true → db.ready = true) (h : part.IsSetUp s) :
    part.IsSetUp (s.setCell database db) := by
  cases part with
  | records part =>
    cases part with
    | inMemory table => trivial
    | inDatabase other store =>
      show ((s.setCell database db).cell other).ready = true
      by_cases hsame : other = database
      · subst hsame
        rw [Storage.cell_setCell_self db (RecordStore.holds_of_ready other h)]
        exact hready h
      · rw [Storage.cell_setCell_of_ne s db hsame]
        exact h
  | texts table => trivial
  | counters table => trivial

/-- Settings of a guard are no contents. -/
theorem contents_setCell_guard (guard : Ref Guard) (settings : Guard) (part : StoragePart) :
    part.contents (s.setCell guard settings) = part.contents s ∧
      (part.IsSetUp (s.setCell guard settings) ↔ part.IsSetUp s) := by
  cases part with
  | records part => cases part <;> exact ⟨rfl, Iff.rfl⟩
  | texts table => exact ⟨rfl, Iff.rfl⟩
  | counters table => exact ⟨rfl, Iff.rfl⟩

end StoragePart

/-! ## What a change spares -/

namespace Storage

/-- Whether storage differs from what it was in the contents of some parts at most, and in parts
that were not there. -/
structure Spares (touched : List StoragePart) (s t : Storage) : Prop where
  same : ∀ part ∉ touched, ∀ contents, part.contents s = some contents →
    part.contents t = some contents
  held : ∀ part : StoragePart, (part.contents s).isSome → (part.contents t).isSome
  setUp : ∀ part : StoragePart, part.IsSetUp s → part.IsSetUp t

variable {touched more : List StoragePart} {s t u : Storage}

/-- Nothing has changed at first. -/
theorem Spares.refl (touched : List StoragePart) (s : Storage) : Spares touched s s :=
  ⟨fun _ _ _ h => h, fun _ h => h, fun _ h => h⟩

/-- A change of fewer parts. -/
theorem Spares.mono (h : Spares touched s t) (hmore : touched ⊆ more) : Spares more s t :=
  ⟨fun part hpart => h.same part fun hmem => hpart (hmore hmem), h.held, h.setUp⟩

/-- Two changes in a row. -/
theorem Spares.trans (h : Spares touched s t) (h' : Spares touched t u) : Spares touched s u where
  same part hpart contents hcontents :=
    h'.same part hpart contents (h.same part hpart contents hcontents)
  held part hheld := h'.held part (h.held part hheld)
  setUp part hsetUp := h'.setUp part (h.setUp part hsetUp)

/-- Contents that are the same up to some parts. -/
theorem Spares.of_contents_eq
    (hsame : ∀ part ∉ touched, part.contents t = part.contents s)
    (hheld : ∀ part ∈ touched, (part.contents s).isSome → (part.contents t).isSome)
    (hsetUp : ∀ part : StoragePart, part.IsSetUp s → part.IsSetUp t) : Spares touched s t where
  same part hpart contents hcontents := (hsame part hpart).trans hcontents
  held part hpart := by
    by_cases hmem : part ∈ touched
    · exact hheld part hmem hpart
    · rwa [hsame part hmem]
  setUp := hsetUp

/-- The settings of a guard are changed. -/
theorem Spares.setGuard (s : Storage) (guard : Ref Guard) (settings : Guard) :
    Spares touched s (s.setCell guard settings) :=
  Spares.of_contents_eq
    (fun part _ => (StoragePart.contents_setCell_guard s guard settings part).1)
    (fun part _ h => by rwa [(StoragePart.contents_setCell_guard s guard settings part).1])
    fun part => (StoragePart.contents_setCell_guard s guard settings part).2.2

/-- Whether two storages have the same in some parts, and everything else that stores see. -/
structure AlikeOn (parts : List StoragePart) (s t : Storage) : Prop where
  clock : t.clock = s.clock
  guards : t.guards = s.guards
  contents : ∀ part ∈ parts, part.contents t = part.contents s
  setUp : ∀ part ∈ parts, part.IsSetUp t ↔ part.IsSetUp s

namespace AlikeOn

variable {parts : List StoragePart} {u : Storage}

/-- Storage is like itself. -/
protected theorem refl (parts : List StoragePart) (s : Storage) : AlikeOn parts s s :=
  ⟨rfl, rfl, fun _ _ => rfl, fun _ _ => Iff.rfl⟩

/-- The two storages can be swapped. -/
protected theorem symm (h : AlikeOn parts s t) : AlikeOn parts t s :=
  ⟨h.clock.symm, h.guards.symm, fun part hpart => (h.contents part hpart).symm,
    fun part hpart => (h.setUp part hpart).symm⟩

/-- Storage that is like a third one by way of a second one. -/
protected theorem trans (h : AlikeOn parts s t) (h' : AlikeOn parts t u) : AlikeOn parts s u :=
  ⟨h'.clock.trans h.clock, h'.guards.trans h.guards,
    fun part hpart => (h'.contents part hpart).trans (h.contents part hpart),
    fun part hpart => (h'.setUp part hpart).trans (h.setUp part hpart)⟩

end AlikeOn

/-- What a change spares that is set up is the same as before. -/
theorem Spares.alikeOn (h : Spares touched s t) (hclock : t.clock = s.clock)
    (hguards : t.guards = s.guards) {parts : List StoragePart}
    (hparts : ∀ part ∈ parts, part ∉ touched ∧ (part.contents s).isSome ∧ part.IsSetUp s) :
    AlikeOn parts s t where
  clock := hclock
  guards := hguards
  contents part hpart := by
    obtain ⟨hmem, hheld, -⟩ := hparts part hpart
    obtain ⟨contents, hcontents⟩ := Option.isSome_iff_exists.1 hheld
    rw [hcontents]
    exact h.same part hmem contents hcontents
  setUp part hpart := by
    obtain ⟨-, -, hsetUp⟩ := hparts part hpart
    exact iff_of_true (h.setUp part hsetUp) hsetUp

/-- The settings of a guard are changed on both sides. -/
theorem AlikeOn.setGuard {parts : List StoragePart} (h : AlikeOn parts s t) (guard : Ref Guard)
    (settings : Guard) : AlikeOn parts (s.setCell guard settings) (t.setCell guard settings) where
  clock := h.clock
  guards := congrArg (fun guards : Heap Guard => guards.set guard settings) h.guards
  contents part hpart := by
    rw [(StoragePart.contents_setCell_guard s guard settings part).1,
      (StoragePart.contents_setCell_guard t guard settings part).1, h.contents part hpart]
  setUp part hpart := by
    rw [(StoragePart.contents_setCell_guard s guard settings part).2,
      (StoragePart.contents_setCell_guard t guard settings part).2, h.setUp part hpart]

section Tables

variable {Table : Type} [Inhabited Table] [Stored Table] [StoredApart Table]
  {part : StoragePart} {table : Ref Table} {parts : List StoragePart}

/-- A table is written. -/
theorem Spares.setCell (h : part.HoldsTable table) (s : Storage) (a : Table) :
    Spares [part] s (s.setCell table a) := by
  refine Spares.of_contents_eq (fun other hother => h.other s a other fun hsame =>
    hother (List.mem_singleton.2 hsame)) (fun other hother hheld => ?_)
    fun other => (h.setUp s a other).2
  obtain ⟨wrap, -, hown⟩ := h.own
  rw [List.mem_singleton.1 hother, hown] at hheld ⊢
  rw [cell?_setCell_self]
  simpa using hheld

/-- A table is written with what it holds. -/
theorem Spares.setCell_cell (h : part.HoldsTable table) (s : Storage) :
    Spares [] s (s.setCell table (s.cell table)) := by
  refine Spares.of_contents_eq (fun other _ => ?_) (fun _ hother => nomatch hother)
    fun other => (h.setUp s _ other).2
  by_cases hsame : other = part
  · obtain ⟨wrap, -, hown⟩ := h.own
    rw [hsame, hown, hown, cell?_setCell_self]
    by_cases hholds : s.Holds table
    · rw [cell?_of_holds hholds]
      rfl
    · rw [cell?, if_neg hholds]
      rfl
  · exact h.other s _ other hsame

omit [StoredApart Table] in
/-- Tables that are alike hold the same. -/
theorem AlikeOn.cell_eq (h : AlikeOn parts s t) (hpart : part.HoldsTable table)
    (hmem : part ∈ parts) : t.cell table = s.cell table := by
  obtain ⟨wrap, hinj, hown⟩ := hpart.own
  have hcontents := h.contents part hmem
  rw [hown, hown] at hcontents
  exact cell_eq_of_cell?_eq (Option.map_injective hinj hcontents)

/-- A table is written on both sides. -/
theorem AlikeOn.setCell (h : AlikeOn parts s t) (hpart : part.HoldsTable table)
    (hmem : part ∈ parts) (a : Table) : AlikeOn parts (s.setCell table a) (t.setCell table a) where
  clock := by rw [clock_setCell, clock_setCell, h.clock]
  guards := by rw [guards_setCell, guards_setCell, h.guards]
  contents other hother := by
    by_cases hsame : other = part
    · obtain ⟨wrap, hinj, hown⟩ := hpart.own
      have hcontents := h.contents part hmem
      rw [hown, hown] at hcontents
      rw [hsame, hown, hown, cell?_setCell_self, cell?_setCell_self,
        Option.map_injective hinj hcontents]
    · rw [hpart.other s a other hsame, hpart.other t a other hsame, h.contents other hother]
  setUp other hother := by
    rw [hpart.setUp, hpart.setUp, h.setUp other hother]

end Tables

section Databases

variable {parts : List StoragePart} {database : Ref Database} {store : String}

/-- Where the contents are the same, there is a database on both sides or on neither. -/
theorem AlikeOn.holds_iff (h : AlikeOn parts s t)
    (hmem : .records (.inDatabase database store) ∈ parts) :
    t.Holds database ↔ s.Holds database := by
  rw [← StoragePart.isSome_contents_inDatabase_iff database store,
    ← StoragePart.isSome_contents_inDatabase_iff database store, h.contents _ hmem]

/-- Where the contents are the same, the databases are alike for the store. -/
theorem AlikeOn.alike (h : AlikeOn parts s t)
    (hmem : .records (.inDatabase database store) ∈ parts) :
    Database.Alike store (s.cell database) (t.cell database) where
  toSameRows := by
    have hcontents := h.contents _ hmem
    rw [StoragePart.contents, StoragePart.contents] at hcontents
    by_cases hs : s.Holds database
    · rw [cell?_of_holds hs, cell?_of_holds ((h.holds_iff hmem).2 hs)] at hcontents
      exact Database.sameRows_iff.2 (PartContents.rows.inj (Option.some.inj hcontents))
    · rw [cell_of_not_holds hs, cell_of_not_holds fun ht => hs ((h.holds_iff hmem).1 ht)]
      exact Database.SameRows.refl store _
  ready := Bool.eq_iff_iff.2 (h.setUp _ hmem)

/-- A database is written on both sides. -/
theorem AlikeOn.setDatabase (h : AlikeOn parts s t) {db db' : Database}
    (halike : ∀ store, .records (.inDatabase database store) ∈ parts →
      Database.Alike store db db') :
    AlikeOn parts (s.setCell database db) (t.setCell database db') where
  clock := by rw [clock_setCell, clock_setCell, h.clock]
  guards := by rw [guards_setCell, guards_setCell, h.guards]
  contents part hpart := by
    by_cases hown : ∃ store, part = .records (.inDatabase database store)
    · obtain ⟨store, rfl⟩ := hown
      rw [StoragePart.contents, StoragePart.contents, cell?_setCell_self, cell?_setCell_self,
        Option.map_map, Option.map_map]
      by_cases hs : s.Holds database
      · rw [cell?_of_holds hs, cell?_of_holds ((h.holds_iff hpart).2 hs)]
        exact congrArg (some ∘ PartContents.rows)
          (Database.sameRows_iff.1 (halike store hpart).toSameRows)
      · rw [cell?, cell?, if_neg hs, if_neg fun ht => hs ((h.holds_iff hpart).1 ht)]
        rfl
    · have hrows : ∀ (u : Storage) (d : Database),
          part.contents (u.setCell database d) = part.contents u := fun u d =>
        StoragePart.contents_setCell_database u fun store hstore => absurd ⟨store, hstore⟩ hown
      rw [hrows, hrows, h.contents part hpart]
  setUp part hpart := by
    cases part with
    | records part =>
      cases part with
      | inMemory table => rfl
      | inDatabase other store =>
        show ((t.setCell database db').cell other).ready = true ↔
          ((s.setCell database db).cell other).ready = true
        by_cases hsame : other = database
        · subst hsame
          by_cases hs : s.Holds other
          · rw [cell_setCell_self db hs, cell_setCell_self db' ((h.holds_iff hpart).2 hs),
              (halike store hpart).ready]
          · rw [cell_setCell_of_not_holds db hs,
              cell_setCell_of_not_holds db' fun ht => hs ((h.holds_iff hpart).1 ht)]
            exact h.setUp _ hpart
        · rw [cell_setCell_of_ne s db hsame, cell_setCell_of_ne t db' hsame]
          exact h.setUp _ hpart
    | texts table => rfl
    | counters table => rfl

end Databases

end Storage

/-! ## Base stores -/

open Storage (Spares AlikeOn)

/-- A kind of store whose base stores keep to their parts of the storage, and whose lifecycle calls
are made to base stores as they are. -/
class Kept (Call : Type) {Table : outParam Type} [Interface Call] [StoreKind Call]
    [Inhabited Table] [Stored Table] [MemoryKind Call Table] [PartKind Call Table] where
  place : PartKind.Part Call → StoragePart
  lifecycle : Lifecycle → Call
  spares_answer : ∀ (base : StoreKind.Base Call) (call : Call) (s : Storage),
    Spares [place (PartKind.part base)] s (StoreKind.answer base call s).2
  shared_answer : ∀ (base : StoreKind.Base Call) (call : Call) (s : Storage),
    (StoreKind.answer base call s).2.shared = s.shared
  alikeOn_answer : ∀ {parts : List StoragePart} {base : StoreKind.Base Call},
    place (PartKind.part base) ∈ parts → ∀ (call : Call) {s t : Storage}, AlikeOn parts s t →
      (StoreKind.answer base call s).1 = (StoreKind.answer base call t).1 ∧
        AlikeOn parts (StoreKind.answer base call s).2 (StoreKind.answer base call t).2
  closed_lifecycle : ∀ op, StoreKind.Closed fun call : Call => call = lifecycle op
  rival_lifecycle : ∀ value op, StoreKind.rivalCall value (lifecycle op) = none
  /-- Setting a base store up changes nothing that it keeps. -/
  spares_setup : ∀ (base : StoreKind.Base Call) (s : Storage),
    Spares [] s (StoreKind.answer base (lifecycle .setup) s).2

section Entries

variable {V : Type} [DecidableEq V] [Stored (EntryTable V)] [StoredApart (EntryTable V)]
  [EntryValue V]

/-- Stores of entries keep to the tables in which they keep their entries. -/
@[reducible]
def keptEntries (place : Ref (EntryTable V) → StoragePart)
    (hplace : ∀ table, (place table).HoldsTable table)
    (hshared : ∀ (s : Storage) (table : Ref (EntryTable V)) (a : EntryTable V),
      (s.setCell table a).shared = s.shared) : Kept (EntryCall V) where
  place := place
  lifecycle := .lifecycle
  spares_answer base call s := Spares.setCell (hplace base.table) s _
  shared_answer base call s := hshared s _ _
  alikeOn_answer {parts base} hmem call {s t} h := by
    have hone : ∀ u : Storage, base.answer call u =
        ((EntryTable.answer u.clock call (u.cell base.table)).1,
          u.setCell base.table (EntryTable.answer u.clock call (u.cell base.table)).2) :=
      fun _ => rfl
    show (base.answer call s).1 = (base.answer call t).1 ∧
      AlikeOn parts (base.answer call s).2 (base.answer call t).2
    rw [hone s, hone t, h.clock, h.cell_eq (hplace base.table) hmem]
    exact ⟨rfl, h.setCell (hplace base.table) hmem _⟩
  closed_lifecycle _ := EntryCall.closed nofun
  rival_lifecycle _ _ := rfl
  spares_setup base s := Spares.setCell_cell (hplace base.table) s

end Entries

instance : Kept (EntryCall String) :=
  keptEntries .texts StoragePart.holdsTable_texts fun _ _ _ => rfl

instance : Kept (EntryCall Int64) :=
  keptEntries .counters StoragePart.holdsTable_counters fun _ _ _ => rfl

namespace RecordBase

/-- A base store of records changes its own part only. -/
theorem spares_answer (base : RecordBase) (call : RecordCall) (s : Storage) :
    Spares [.records (.ofBase base)] s (base.answer call s).2 := by
  cases base with
  | memory name table => exact Spares.setCell (StoragePart.holdsTable_records table) s _
  | relational name database =>
    refine Spares.of_contents_eq (fun part hpart => ?_) (fun part hpart hheld => ?_) fun part =>
      StoragePart.isSetUp_setCell_database s (Database.ready_answer_of_ready name call)
    · refine StoragePart.contents_setCell_database s fun store hstore => ?_
      refine Database.SameRows.answer (fun hname => hpart (List.mem_singleton.2 ?_)) _ call
      rw [hstore, hname]
      rfl
    · rw [List.mem_singleton.1 hpart] at hheld ⊢
      show (((s.setCell database _).cell? database).map _).isSome
      rw [Storage.cell?_setCell_self]
      simpa [StoragePart.contents, RecordPart.ofBase] using hheld

/-- Setting a base store of records up changes nothing that it keeps. -/
theorem spares_setup (base : RecordBase) (s : Storage) :
    Spares [] s (base.answer (.lifecycle .setup) s).2 := by
  cases base with
  | memory name table => exact Spares.setCell_cell (StoragePart.holdsTable_records table) s
  | relational name database =>
    exact Spares.of_contents_eq
      (fun part _ => StoragePart.contents_setCell_database s fun _ _ =>
        ⟨fun _ => rfl, fun _ _ => rfl⟩)
      (fun _ hpart => nomatch hpart)
      fun part => StoragePart.isSetUp_setCell_database s fun _ => rfl

/-- A base store of records answers alike on storages that have the same in its part. -/
theorem alikeOn_answer {parts : List StoragePart} {base : RecordBase}
    (hmem : .records (.ofBase base) ∈ parts) (call : RecordCall) {s t : Storage}
    (h : AlikeOn parts s t) :
    (base.answer call s).1 = (base.answer call t).1 ∧
      AlikeOn parts (base.answer call s).2 (base.answer call t).2 := by
  cases base with
  | memory name table =>
    have hpart := StoragePart.holdsTable_records table
    have hone : ∀ u : Storage, answer (.memory name table) call u =
        ((RecordTable.answer call (u.cell table)).1,
          u.setCell table (RecordTable.answer call (u.cell table)).2) := fun _ => rfl
    rw [hone s, hone t, h.cell_eq hpart hmem]
    exact ⟨rfl, h.setCell hpart hmem _⟩
  | relational name database =>
    obtain ⟨hresult, hown⟩ := (h.alike hmem).answer call
    have hone : ∀ u : Storage, answer (.relational name database) call u =
        ((Database.answer name call (u.cell database)).1,
          u.setCell database (Database.answer name call (u.cell database)).2) := fun _ => rfl
    rw [hone s, hone t]
    refine ⟨hresult.symm, h.setDatabase fun store hstore => ?_⟩
    by_cases hname : store = name
    · rw [hname]
      exact hown
    · refine ⟨?_, hown.ready⟩
      exact ((Database.SameRows.answer hname _ call).symm.trans (h.alike hstore).toSameRows).trans
        (Database.SameRows.answer hname _ call)

end RecordBase

instance : Kept RecordCall where
  place := .records
  lifecycle := .lifecycle
  spares_answer := RecordBase.spares_answer
  shared_answer base call s := by cases base <;> rfl
  alikeOn_answer := RecordBase.alikeOn_answer
  closed_lifecycle op := RecordCall.closed (.lifecycle op)
  rival_lifecycle _ _ := rfl
  spares_setup := RecordBase.spares_setup

end TieredStore
