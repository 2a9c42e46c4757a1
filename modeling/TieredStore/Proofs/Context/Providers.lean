import TieredStore.Context.ProviderType
import TieredStore.Proofs.Context.Growth

/-!
# What providers may do

A provider makes the layers of stores, and may open the database under its connection for that.  A
layer consists of new tables and, if the provider has a connection, of the rows under the store's
name in the database there.  So the layers of stores with different names have no part in common.

Main results:

- Theorems `ProviderType.keepsApart_memory`, `ProviderType.keepsApart_relational`,
  `ProviderType.keepsApart_tagged` and `ProviderType.keepsApart_flaky`: all types of provider keep
  the layers of stores apart.
-/

namespace TieredStore

open Storage (Spares)

/-! ## Types of provider -/

namespace ProviderType

/-- Whether a type of provider keeps the layers of stores apart: it makes new parts for each of
them, and stores of records may have their rows in the database of one link. -/
structure KeepsApart (type : ProviderType) (p : ProviderConfig) (link : Option DatabaseLink) :
    Prop where
  records : ∀ make, type.records = some make → ∀ store s,
    Made (link = some ·) store (fun layer => (AnyStore.records layer).footprint) s
      (make store p s)
  texts : ∀ make, type.texts = some make → ∀ store s,
    Made (fun _ => False) store (fun layer => (AnyStore.texts layer).footprint) s
      (make store p s)
  counters : ∀ make, type.counters = some make → ∀ store s,
    Made (fun _ => False) store (fun layer => (AnyStore.counters layer).footprint) s
      (make store p s)

/-! ### Stores in memory -/

section Memory

variable {links : DatabaseLink → Prop} (store name : String) (s : Registry × Storage)

/-- A store that is a new table in memory. -/
theorem made_newTable {Table Base : Type} [Inhabited Table] [Stored Table] [StoredApart Table]
    {footprint : Store Base → List StoragePart} {layer : Ref Table → Store Base}
    {place : Ref Table → StoragePart} (wrap : Table → PartContents) (empty : Table)
    (hspares : Spares [] s.2 (Storage.alloc empty s.2).2)
    (hshared : (Storage.alloc empty s.2).2.shared = s.2.shared)
    (hfootprint : ∀ table, footprint (layer table) = [place table])
    (hcontents : ∀ table t, (place table).contents t = (t.cell? table).map wrap)
    (hnothing : ∀ table, (place table).nothing = wrap empty)
    (hplace : ∀ table database name, place table ≠ .records (.inDatabase database name))
    (hlinks : ∀ l, ¬links l) :
    Made links store footprint s
      (Registry.onStorage (Storage.alloc empty >>= fun table => pure (layer table)) s) := by
  obtain ⟨table, hok, habsent, hheld⟩ := Storage.exists_alloc s.2 empty
  refine Made.unlinked (Grown.of_spares _ hspares rfl hshared) (fun store hstore part hpart => ?_)
    hlinks
  obtain rfl : store = layer table := by
    obtain rfl := Except.ok.inj hok
    exact (Except.ok.inj hstore).symm
  rw [hfootprint] at hpart
  rw [List.mem_singleton.1 hpart]
  refine ⟨?_, ?_, fun database name hsame => absurd hsame (hplace table database name)⟩
  · rw [hcontents, habsent]
    rfl
  · rw [Storage.IsEmptyPart, hcontents, hnothing]
    exact congrArg (Option.map wrap) hheld

/-- A store of records in memory is a new table. -/
theorem made_newMemory_records (hlinks : ∀ l, ¬links l) :
    Made links store (fun layer => (AnyStore.records layer).footprint) s
      (Registry.onStorage (RecordStore.newMemory name) s) :=
  @made_newTable _ store s RecordTable RecordBase _ _ _ _
    (fun table => .base (.memory name table)) (fun table => .records (.inMemory table))
    .records ∅
    (Spares.of_extends (Heap.extends_alloc _ _) (Heap.extends_refl _) (Heap.extends_refl _)
      (Heap.extends_refl _))
    rfl (fun _ => by rw [AnyStore.footprint, Store.footprint, Store.parts]; rfl)
    (fun _ _ => rfl) (fun _ => rfl) (fun _ _ _ hsame => nomatch hsame) hlinks

/-- A store of texts in memory is a new table. -/
theorem made_newMemory_texts (hlinks : ∀ l, ¬links l) :
    Made links store (fun layer => (AnyStore.texts layer).footprint) s
      (Registry.onStorage (EntryStore.newMemory name) s) :=
  @made_newTable _ store s (EntryTable String) (EntryBase String) _ _ _ _
    (fun table => .base ⟨name, table⟩) .texts .texts ∅
    (Spares.of_extends (Heap.extends_refl _) (Heap.extends_alloc _ _) (Heap.extends_refl _)
      (Heap.extends_refl _))
    rfl (fun _ => by rw [AnyStore.footprint, Store.footprint, Store.parts]; rfl)
    (fun _ _ => rfl) (fun _ => rfl) (fun _ _ _ hsame => nomatch hsame) hlinks

/-- A store of integers in memory is a new table. -/
theorem made_newMemory_counters (hlinks : ∀ l, ¬links l) :
    Made links store (fun layer => (AnyStore.counters layer).footprint) s
      (Registry.onStorage (EntryStore.newMemory name) s) :=
  @made_newTable _ store s (EntryTable Int64) (EntryBase Int64) _ _ _ _
    (fun table => .base ⟨name, table⟩) .counters .counters ∅
    (Spares.of_extends (Heap.extends_refl _) (Heap.extends_refl _) (Heap.extends_alloc _ _)
      (Heap.extends_refl _))
    rfl (fun _ => by rw [AnyStore.footprint, Store.footprint, Store.parts]; rfl)
    (fun _ _ => rfl) (fun _ => rfl) (fun _ _ _ hsame => nomatch hsame) hlinks

/-- A guard before a store has no part of its own. -/
theorem made_guard (settings : Guard) {make : Action Storage RecordStore}
    (h : Made links store (fun layer => (AnyStore.records layer).footprint) s
      (Registry.onStorage make s)) :
    Made links store (fun layer => (AnyStore.records layer).footprint) s
      (Registry.onStorage (make >>= Store.guard settings) s) := by
  rcases hmake : make s.2 with ⟨_ | inner, t⟩
  · have hsame : Registry.onStorage (make >>= Store.guard settings) s =
        Registry.onStorage make s := by
      simp only [Registry.onStorage, Action.onPart, Action.bind_apply, hmake]
    rwa [hsame]
  · have hinner : Registry.onStorage make s = (.ok inner, s.1, t) := by
      simp only [Registry.onStorage, Action.onPart, hmake]
    have hguarded : Registry.onStorage (make >>= Store.guard settings) s =
        (.ok (.guarded ⟨t.guards.cells.size⟩ inner), s.1,
          { t with guards := (t.guards.alloc settings).2 }) := by
      simp only [Registry.onStorage, Action.onPart, Action.bind_apply, hmake]
      rfl
    have hspares : Spares [] t { t with guards := (t.guards.alloc settings).2 } :=
      Spares.of_extends (Heap.extends_refl _) (Heap.extends_refl _) (Heap.extends_refl _)
        (Heap.extends_refl _)
    rw [hinner] at h
    rw [hguarded]
    have hfootprint : (AnyStore.records (.guarded ⟨t.guards.cells.size⟩ inner)).footprint =
        (AnyStore.records inner).footprint := by
      rw [AnyStore.footprint, AnyStore.footprint, Store.footprint, Store.footprint, Store.parts]
    exact h.and_spared hspares rfl hfootprint

end Memory

/-! ### Databases -/

section Databases

variable (registry : Registry) (storage : Storage)

/-- The place of a database that is opened at a path, if one can be opened there. -/
def openingPlace? : Option String → Option Location.Place
  | none => some .own
  | some path => Location.place? path

/-- Opens the database at a place. -/
def openAt : Location.Place → Action Storage (Ref Database)
  | .own => Storage.alloc {}
  | .shared place => Storage.openShared place

/-- A database is opened at the place of its path. -/
theorem openDatabase_eq (path : Option String) :
    openDatabase path = match openingPlace? path with
      | some place => openAt place
      | none => Action.fail (.storage .database) := by
  unfold openDatabase openingPlace?
  cases path with
  | none => rfl
  | some path =>
    dsimp only
    rcases Location.place? path with _ | _ | _ <;> rfl

/-- Opening the database at a place makes a new one, finds one that is shared, or fails without
a trace. -/
theorem grown_openAt (place : Location.Place) :
    Grown (fun _ => False) (registry, storage) (registry, (openAt place storage).2) ∧
      ∀ database, (openAt place storage).1 = .ok database →
        (openAt place storage).2.IsAt database place := by
  have hspares : ∀ shared, Spares [] storage
      { (Storage.alloc ({} : Database) storage).2 with shared } := fun _ =>
    Spares.of_extends (Heap.extends_refl _) (Heap.extends_refl _) (Heap.extends_refl _)
      (Heap.extends_alloc _ _)
  obtain ⟨new, hnew, -, hheld⟩ := Storage.exists_alloc storage ({} : Database)
  have hblank : (Storage.alloc ({} : Database) storage).2.IsBlank new :=
    fun store => congrArg (Option.map _) hheld
  cases place with
  | own =>
    refine ⟨Grown.of_spares _ (hspares storage.shared) rfl rfl, fun database h => ?_⟩
    rw [← Except.ok.inj (hnew.symm.trans h)]
    exact hblank
  | shared place =>
    cases hget : storage.shared.get? place with
    | some database =>
      have hopened : openAt (.shared place) storage = (.ok database, storage) := by
        simp only [openAt, Storage.openShared, hget]
      rw [hopened]
      exact ⟨Grown.refl _ _, fun _ h => Except.ok.inj h ▸ hget⟩
    | none =>
      obtain rfl := Except.ok.inj hnew
      cases hinsert : storage.shared.insert? place (storage.databases.alloc {}).1 with
      | none =>
        have hopened : openAt (.shared place) storage = (.error (.storage .database), storage) := by
          simp only [openAt, Storage.openShared, hget, hinsert]
        rw [hopened]
        exact ⟨Grown.refl _ _, nofun⟩
      | some shared =>
        have hopened : openAt (.shared place) storage = (.ok (storage.databases.alloc {}).1,
            { (Storage.alloc ({} : Database) storage).2 with shared }) := by
          simp only [openAt, Storage.openShared, hget, hinsert]
          rfl
        rw [hopened]
        refine ⟨⟨hspares shared, fun _ _ h => h, fun _ _ hother =>
          SharedDatabases.get?_insert? hinsert hget hother, fun _ database hother => ?_,
          fun _ _ h => .inl h⟩, fun _ h => Except.ok.inj h ▸
          SharedDatabases.get?_insert?_self hinsert⟩
        refine (SharedDatabases.get?_of_insert? hinsert hother).imp_right ?_
        rintro rfl
        exact hblank

/-- A connection is opened at the place of its path, unless it is there. -/
theorem grown_connect (name : String) (path : Option String) (s : Registry × Storage) :
    Grown (some ⟨name, openingPlace? path⟩ = some ·) s
        (Registry.connect name (openDatabase path) s).2 ∧
      ∀ database, (Registry.connect name (openDatabase path) s).1 = .ok database →
        (Registry.connect name (openDatabase path) s).2.1.get? name = some database := by
  obtain ⟨registry, storage⟩ := s
  rw [openDatabase_eq]
  unfold Registry.connect
  cases hget : registry.connections.get? name with
  | some connection =>
    cases hclient : Client.ofConnection? (α := Ref Database) connection with
    | none =>
      simp only [hclient]
      exact ⟨Grown.refl _ _, fun _ h => nomatch h⟩
    | some client =>
      simp only [hclient]
      refine ⟨Grown.refl _ _, fun database h => ?_⟩
      rw [← Except.ok.inj h]
      exact Option.bind_eq_some_iff.2 ⟨connection, hget, hclient⟩
  | none =>
    cases hplace : openingPlace? path with
    | none => exact ⟨Grown.refl _ _, fun _ h => nomatch h⟩
    | some place =>
      obtain ⟨hgrown, hat⟩ := grown_openAt registry storage place
      rcases hopen : openAt place storage with ⟨e | new, t⟩
      · rw [hopen] at hgrown
        simp only [hopen]
        exact ⟨hgrown.mono fun _ hfalse => hfalse.elim, fun _ h => nomatch h⟩
      rw [hopen] at hgrown hat
      replace hat := hat new rfl
      simp only [hopen]
      have hself : Registry.get? (α := Ref Database)
          ⟨registry.connections.insert name (Client.connection new)⟩ name = some new := by
        rw [Registry.get?, SortedMap.get?_insert_self]
        rfl
      have hother : ∀ other, other ≠ name → Registry.get? (α := Ref Database)
          ⟨registry.connections.insert name (Client.connection new)⟩ other =
            registry.get? other := by
        intro other hne
        rw [Registry.get?, Registry.get?, SortedMap.get?_insert_of_ne _ _ hne]
      refine ⟨⟨hgrown.spares, fun other database h => ?_, hgrown.shared, hgrown.newShared,
        fun other database h => ?_⟩, fun database h => ?_⟩
      · have hne : other ≠ name := by
          rintro rfl
          rw [Registry.get?, hget] at h
          cases h
        exact (hother other hne).trans h
      · by_cases hsame : other = name
        · subst hsame
          rw [← Option.some.inj (hself.symm.trans h)]
          exact .inr ⟨place, rfl, hat⟩
        · exact .inl ((hother other hsame).symm.trans h)
      · rw [← Except.ok.inj h]
        exact hself

end Databases

/-! ### The types -/

/-- How a provider of stores in databases is linked, if its options can be read. -/
def databaseLink (p : ProviderConfig) : Option DatabaseLink :=
  match p.databaseOptions with
  | .ok options => some ⟨connectionName p options, openingPlace? options.path⟩
  | .error _ => none

/-- How a provider of one of the known types is linked. -/
def trialLink (p : ProviderConfig) : Option DatabaseLink :=
  if p.kind = "sqlite" then databaseLink p else none

/-- Providers of stores in memory make new tables. -/
theorem keepsApart_memory (p : ProviderConfig) : memory.KeepsApart p none where
  records make hmake store s := by
    obtain rfl := Option.some.inj hmake
    exact Made.after_known fun _ _ =>
      made_newMemory_records store _ s fun _ hl => nomatch hl
  texts make hmake store s := by
    obtain rfl := Option.some.inj hmake
    exact Made.after_known fun _ _ => made_newMemory_texts store _ s fun _ hl => hl
  counters make hmake store s := by
    obtain rfl := Option.some.inj hmake
    exact Made.after_known fun _ _ => made_newMemory_counters store _ s fun _ hl => hl

/-- Providers of stores in databases link each store to its rows. -/
theorem keepsApart_relational (p : ProviderConfig) : relational.KeepsApart p (databaseLink p) where
  records make hmake store s := by
    obtain rfl := Option.some.inj hmake
    refine Made.after_known fun options hoptions => ?_
    have hlink : databaseLink p =
        some ⟨connectionName p options, openingPlace? options.path⟩ := by
      rw [databaseLink, hoptions]
    obtain ⟨hgrown, hget⟩ := grown_connect (connectionName p options) options.path s
    rw [hlink, Action.bind_apply]
    rcases hconnect : Registry.connect (connectionName p options) (openDatabase options.path) s with
      ⟨_ | database, t⟩
    · rw [hconnect] at hgrown
      exact Made.failed _ _ _ _ hgrown
    rw [hconnect] at hgrown hget
    have hfootprint : (AnyStore.records (RecordStore.inDatabase store database)).footprint =
        [.records (.inDatabase database store)] := by
      rw [AnyStore.footprint, Store.footprint, RecordStore.inDatabase, Store.parts]
      rfl
    refine ⟨hgrown, fun layer hlayer part hpart => ?_, fun layer hlayer l hl => ?_⟩
    · obtain rfl := Except.ok.inj hlayer
      rw [hfootprint] at hpart
      exact .inr ⟨_, database, rfl, hget database rfl, List.mem_singleton.1 hpart⟩
    · obtain rfl := Except.ok.inj hlayer
      obtain rfl := Option.some.inj hl
      rw [hfootprint]
      exact ⟨database, hget database rfl, List.mem_singleton_self _⟩
  texts make hmake := nomatch hmake
  counters make hmake := nomatch hmake

/-- So do those that tag the names. -/
theorem keepsApart_tagged (p : ProviderConfig) : tagged.KeepsApart p none where
  records make hmake store s := by
    obtain rfl := Option.some.inj hmake
    exact made_newMemory_records store _ s fun _ hl => nomatch hl
  texts make hmake := nomatch hmake
  counters make hmake := nomatch hmake

/-- So do those whose layers fail. -/
theorem keepsApart_flaky (p : ProviderConfig) : flaky.KeepsApart p none where
  records make hmake store s := by
    obtain rfl := Option.some.inj hmake
    exact made_guard store s _ (made_newMemory_records store _ s fun _ hl => nomatch hl)
  texts make hmake := nomatch hmake
  counters make hmake := nomatch hmake

/-- All known types of provider keep the layers of stores apart. -/
theorem keepsApart_trial {p : ProviderConfig} {type : ProviderType}
    (h : trial.get? p.kind = some type) : type.KeepsApart p (trialLink p) := by
  have hentries : trial.entries = [("flaky", flaky), ("memory", memory), ("sqlite", relational),
      ("tagged", tagged)] := rfl
  rw [SortedMap.get?_eq_some_iff, hentries] at h
  have hlink : p.kind ≠ "sqlite" → trialLink p = none := fun hne => if_neg hne
  simp only [List.mem_cons, Prod.mk.injEq, List.not_mem_nil, or_false] at h
  rcases h with ⟨hkind, rfl⟩ | ⟨hkind, rfl⟩ | ⟨hkind, rfl⟩ | ⟨hkind, rfl⟩
  · rw [hlink (by rw [hkind]; decide)]
    exact keepsApart_flaky p
  · rw [hlink (by rw [hkind]; decide)]
    exact keepsApart_memory p
  · rw [trialLink, if_pos hkind]
    exact keepsApart_relational p
  · rw [hlink (by rw [hkind]; decide)]
    exact keepsApart_tagged p

end ProviderType

end TieredStore
