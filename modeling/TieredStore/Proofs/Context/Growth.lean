import TieredStore.Context.Registry
import TieredStore.Proofs.SortedMap
import TieredStore.Proofs.Storage.EmptyRecords

/-!
# Storage that grows

What is made for a store is new, and everything that was stored before stays as it is.  Connections
that are opened stay, and lead to databases that are new or shared.

Main results:

- Theorem `Storage.Spares.of_extends`: larger heaps have all contents of the old ones.
- Theorem `Grown.trans`: what is made step by step.
- Theorem `Made.and_then`: things that are made one after the other for one store.
-/

namespace TieredStore

open Storage (Spares)

/-! ## Allocation -/

/-- Whether a heap has the cells of another one, with the same in them. -/
def Heap.Extends {α : Type} [Inhabited α] (heap grown : Heap α) : Prop :=
  ∀ ref, heap.Holds ref → grown.Holds ref ∧ grown.get ref = heap.get ref

/-- A heap has its own cells. -/
theorem Heap.extends_refl {α : Type} [Inhabited α] (heap : Heap α) : heap.Extends heap :=
  fun _ h => ⟨h, rfl⟩

/-- Allocation adds a cell. -/
theorem Heap.extends_alloc {α : Type} [Inhabited α] (heap : Heap α) (a : α) :
    heap.Extends (heap.alloc a).2 := by
  refine fun ref h => ⟨?_, get_alloc_of_holds a h⟩
  show ref.index < (heap.cells.push a).size
  rw [Array.size_push]
  exact Nat.lt_succ_of_lt h

namespace Storage

variable {s t : Storage}

/-- What a cell holds it holds in a larger heap. -/
theorem cell?_of_extends {α : Type} [Inhabited α] [Stored α]
    (h : (Stored.heap s : Heap α).Extends (Stored.heap t)) {ref : Ref α} {a : α}
    (ha : s.cell? ref = some a) : t.cell? ref = some a := by
  obtain ⟨hholds, hcell⟩ := cell?_eq_some_iff.1 ha
  obtain ⟨hholds', hcell'⟩ := h ref hholds
  exact cell?_eq_some_iff.2 ⟨hholds', hcell'.trans hcell⟩

/-- Larger heaps have all contents of the old ones. -/
theorem Spares.of_extends (records : s.records.Extends t.records)
    (texts : s.texts.Extends t.texts) (counters : s.counters.Extends t.counters)
    (databases : s.databases.Extends t.databases) : Spares [] s t := by
  have hsame : ∀ (part : StoragePart) (contents : PartContents),
      part.contents s = some contents → part.contents t = some contents := by
    intro part contents hcontents
    cases part with
    | records part =>
      cases part with
      | inMemory table =>
        obtain ⟨a, ha, rfl⟩ := Option.map_eq_some_iff.1 hcontents
        exact Option.map_eq_some_iff.2 ⟨a, cell?_of_extends records ha, rfl⟩
      | inDatabase database store =>
        obtain ⟨a, ha, rfl⟩ := Option.map_eq_some_iff.1 hcontents
        exact Option.map_eq_some_iff.2 ⟨a, cell?_of_extends databases ha, rfl⟩
    | texts table =>
      obtain ⟨a, ha, rfl⟩ := Option.map_eq_some_iff.1 hcontents
      exact Option.map_eq_some_iff.2 ⟨a, cell?_of_extends texts ha, rfl⟩
    | counters table =>
      obtain ⟨a, ha, rfl⟩ := Option.map_eq_some_iff.1 hcontents
      exact Option.map_eq_some_iff.2 ⟨a, cell?_of_extends counters ha, rfl⟩
  refine ⟨fun part _ => hsame part, fun part hheld => ?_, fun part hsetUp => ?_⟩
  · obtain ⟨contents, hcontents⟩ := Option.isSome_iff_exists.1 hheld
    rw [hsame part contents hcontents]
    rfl
  · cases part with
    | records part =>
      cases part with
      | inMemory table => trivial
      | inDatabase database store =>
        have hholds : s.Holds database := RecordStore.holds_of_ready database hsetUp
        have hcell : t.cell database = s.cell database := (databases database hholds).2
        exact (congrArg Database.ready hcell).trans hsetUp
    | texts table => trivial
    | counters table => trivial

/-- A new cell was not there before, and has what it was allocated with. -/
theorem exists_alloc {α : Type} [Inhabited α] [Stored α] [StoredApart α] (s : Storage) (a : α) :
    ∃ ref : Ref α, (alloc a s).1 = .ok ref ∧ s.cell? ref = none ∧
      (alloc a s).2.cell? ref = some a := by
  refine ⟨⟨(Stored.heap s : Heap α).cells.size⟩, rfl, if_neg (Nat.lt_irrefl _),
    cell?_eq_some_iff.2 ⟨?_, ?_⟩⟩
  · show (Stored.heap (Stored.withHeap _ s)).Holds _
    rw [StoredApart.heap_withHeap]
    show (Stored.heap s : Heap α).cells.size < ((Stored.heap s).cells.push a).size
    rw [Array.size_push]
    exact Nat.lt_succ_self _
  · show (Stored.heap (Stored.withHeap _ s)).get _ = a
    rw [StoredApart.heap_withHeap]
    exact Heap.get_alloc_self _ a

end Storage

/-! ## Links to databases -/

/-- How a provider is linked to a database: the name of its connection, and the place at which the
connection is opened, if one can be opened there. -/
structure DatabaseLink where
  connection : String
  place : Option Location.Place
  deriving DecidableEq

namespace Storage

variable {s t : Storage}

/-- Whether a part is there and has nothing. -/
def IsEmptyPart (s : Storage) (part : StoragePart) : Prop := part.contents s = some part.nothing

/-- Whether there is a database without any rows. -/
def IsBlank (s : Storage) (database : Ref Database) : Prop :=
  ∀ store, s.IsEmptyPart (.records (.inDatabase database store))

/-- Whether a database is what a connection to a place leads to at first. -/
def IsAt (s : Storage) (database : Ref Database) : Location.Place → Prop
  | .own => s.IsBlank database
  | .shared place => s.shared.get? place = some database

/-- Empty storage has no shared database. -/
theorem shared_empty_ne (place : Location.SharedPlace) (database : Ref Database) :
    ({} : Storage).shared.get? place ≠ some database := by
  rw [show ({} : Storage).shared.get? place = none from SharedDatabases.get?_empty place]
  nofun

/-- A database without rows is there. -/
theorem IsBlank.holds {database : Ref Database} (h : s.IsBlank database) : s.Holds database :=
  (StoragePart.isSome_contents_inDatabase_iff database "").1 (by rw [h ""]; rfl)

/-- What is spared stays empty. -/
theorem Spares.isEmptyPart (h : Spares [] s t) {part : StoragePart} (hs : s.IsEmptyPart part) :
    t.IsEmptyPart part :=
  h.same part List.not_mem_nil _ hs

/-- What is spared stays blank. -/
theorem Spares.isBlank (h : Spares [] s t) {database : Ref Database} (hs : s.IsBlank database) :
    t.IsBlank database :=
  fun store => h.isEmptyPart (hs store)

/-- What is spared stays there. -/
theorem Spares.holds {touched : List StoragePart} (h : Spares touched s t)
    {database : Ref Database} (hs : s.Holds database) : t.Holds database :=
  (StoragePart.isSome_contents_inDatabase_iff database "").1
    (h.held _ ((StoragePart.isSome_contents_inDatabase_iff database "").2 hs))

end Storage

/-! ## Connections and storage that grow -/

/-- Whether connections and storage have only grown, where connections were opened only for some
links. -/
structure Grown (links : DatabaseLink → Prop) (before after : Registry × Storage) : Prop where
  spares : Spares [] before.2 after.2
  connected : ∀ (name : String) (database : Ref Database),
    before.1.get? name = some database → after.1.get? name = some database
  shared : ∀ place database, before.2.shared.get? place = some database →
    after.2.shared.get? place = some database
  newShared : ∀ place database, after.2.shared.get? place = some database →
    before.2.shared.get? place = some database ∨ after.2.IsBlank database
  newConnection : ∀ (name : String) (database : Ref Database),
    after.1.get? name = some database → before.1.get? name = some database ∨
      ∃ place, links ⟨name, some place⟩ ∧ after.2.IsAt database place

namespace Grown

variable {links more : DatabaseLink → Prop} {s t u : Registry × Storage}

/-- Nothing has grown at first. -/
theorem refl (links : DatabaseLink → Prop) (s : Registry × Storage) : Grown links s s where
  spares := Spares.refl [] s.2
  connected _ _ h := h
  shared _ _ h := h
  newShared _ _ h := .inl h
  newConnection _ _ h := .inl h

/-- Storage alone has grown. -/
theorem of_spares (links : DatabaseLink → Prop) (h : Spares [] s.2 t.2) (hregistry : t.1 = s.1)
    (hshared : t.2.shared = s.2.shared) : Grown links s t where
  spares := h
  connected _ _ hname := by rwa [hregistry]
  shared _ _ hname := by rwa [hshared]
  newShared _ _ hname := .inl (by rwa [← hshared])
  newConnection _ _ hname := .inl (by rwa [← hregistry])

/-- For more links. -/
theorem mono (h : Grown links s t) (hmore : ∀ l, links l → more l) : Grown more s t :=
  { h with
    newConnection := fun name database hname =>
      (h.newConnection name database hname).imp_right fun ⟨place, hlink, hat⟩ =>
        ⟨place, hmore _ hlink, hat⟩ }

/-- What is made step by step. -/
theorem trans (h : Grown links s t) (h' : Grown links t u) : Grown links s u where
  spares := h.spares.trans h'.spares
  connected name database hname := h'.connected name database (h.connected name database hname)
  shared place database hplace := h'.shared place database (h.shared place database hplace)
  newShared place database hplace := by
    rcases h'.newShared place database hplace with hold | hblank
    · exact (h.newShared place database hold).imp_right h'.spares.isBlank
    · exact .inr hblank
  newConnection name database hname := by
    rcases h'.newConnection name database hname with hold | hnew
    · refine (h.newConnection name database hold).imp_right fun ⟨place, hlink, hat⟩ =>
        ⟨place, hlink, ?_⟩
      cases place with
      | own => exact h'.spares.isBlank hat
      | shared shared => exact h'.shared shared database hat
    · exact .inr hnew

end Grown

/-- Whether all connections to databases lead to databases that are there. -/
structure Wired (s : Registry × Storage) : Prop where
  connected : ∀ (name : String) (database : Ref Database),
    s.1.get? name = some database → s.2.Holds database
  shared : ∀ place database, s.2.shared.get? place = some database → s.2.Holds database

/-- Connections that grow lead to databases that are there. -/
theorem Wired.grown {links : DatabaseLink → Prop} {s t : Registry × Storage} (hs : Wired s)
    (h : Grown links s t) : Wired t := by
  have hshared : ∀ place database, t.2.shared.get? place = some database →
      t.2.Holds database := by
    intro place database hplace
    rcases h.newShared place database hplace with hold | hblank
    · exact h.spares.holds (hs.shared place database hold)
    · exact hblank.holds
  refine ⟨fun name database hname => ?_, hshared⟩
  rcases h.newConnection name database hname with hold | ⟨place, -, hat⟩
  · exact h.spares.holds (hs.connected name database hold)
  · cases place with
    | own => exact hat.holds
    | shared shared => exact hshared shared database hat

/-! ## What is made for a store -/

/-- Whether a part was made for a store. -/
structure StoragePart.IsNew (store : String) (s t : Storage) (part : StoragePart) : Prop where
  absent : part.contents s = none
  empty : t.IsEmptyPart part
  named : ∀ database name, part = .records (.inDatabase database name) → name = store

/-- Whether a part is what a store has in the database of a link. -/
def DatabaseLink.Gives (links : DatabaseLink → Prop) (store : String) (s : Registry × Storage)
    (part : StoragePart) : Prop :=
  ∃ l database, links l ∧ s.1.get? l.connection = some database ∧
    part = .records (.inDatabase database store)

/-- What may come of making something for a store that consists of parts: it has new parts and the
rows of the store at some links, and it has these at each of the links. -/
structure Made {A : Type} (links : DatabaseLink → Prop) (store : String)
    (parts : A → List StoragePart) (s : Registry × Storage)
    (r : Except StoreError A × (Registry × Storage)) : Prop where
  grown : Grown links s r.2
  given : ∀ a, r.1 = .ok a → ∀ part ∈ parts a,
    part.IsNew store s.2 r.2.2 ∨ DatabaseLink.Gives links store r.2 part
  linked : ∀ a, r.1 = .ok a → ∀ l, links l → ∃ database,
    r.2.1.get? l.connection = some database ∧ .records (.inDatabase database store) ∈ parts a

namespace Made

variable {A B C : Type} {links more : DatabaseLink → Prop} {store : String}
  {parts : A → List StoragePart} {s t u : Registry × Storage}

/-- Nothing is made by a failure. -/
theorem failed (links : DatabaseLink → Prop) (store : String) (parts : A → List StoragePart)
    (e : StoreError) (h : Grown links s t) : Made links store parts s (.error e, t) where
  grown := h
  given _ hok := nomatch hok
  linked _ hok := nomatch hok

/-- A provider that is not linked makes new parts only. -/
theorem unlinked {r : Except StoreError A × (Registry × Storage)} (h : Grown (fun _ => False) s r.2)
    (hparts : ∀ a, r.1 = .ok a → ∀ part ∈ parts a, part.IsNew store s.2 r.2.2)
    (hlinks : ∀ l, ¬links l) : Made links store parts s r where
  grown := h.mono fun _ hfalse => hfalse.elim
  given a hok part hpart := .inl (hparts a hok part hpart)
  linked _ _ l hl := absurd hl (hlinks l)

/-- For the same links. -/
theorem congr {r : Except StoreError A × (Registry × Storage)} (h : Made links store parts s r)
    (hlinks : ∀ l, links l ↔ more l) : Made more store parts s r := by
  rwa [← funext fun l => propext (hlinks l)]

/-- What depends on a result that is known. -/
theorem after_known {result : Except StoreError C} {f : C → Action (Registry × Storage) A}
    (h : ∀ c, result = .ok c → Made links store parts s (f c s)) :
    Made links store parts s ((Action.ofExcept result >>= f) s) := by
  cases result with
  | ok c => exact h c rfl
  | error e => exact failed links store parts e (Grown.refl links s)

/-- Things that are made one after the other. -/
theorem and_then {a : A} {parts' : B → List StoragePart} {together : C → List StoragePart}
    {r : Except StoreError B × (Registry × Storage)} {f : B → C}
    (h : Made links store parts s (.ok a, t)) (h' : Made more store parts' t r)
    (htogether : ∀ b, together (f b) = parts a ++ parts' b) :
    Made (fun l => links l ∨ more l) store together s (r.1.map f, r.2) := by
  have hfirst : Grown (fun l => links l ∨ more l) s t := h.grown.mono fun _ => .inl
  have hrest : Grown (fun l => links l ∨ more l) t r.2 := h'.grown.mono fun _ => .inr
  rcases r with ⟨_ | b, u⟩
  · exact failed _ store together _ (hfirst.trans hrest)
  refine ⟨hfirst.trans hrest, fun c hc part hpart => ?_, fun c hc l hl => ?_⟩
  · obtain rfl := Except.ok.inj hc
    rw [htogether] at hpart
    rcases List.mem_append.1 hpart with hpart | hpart
    · rcases h.given a rfl part hpart with hnew | ⟨l, database, hl, hget, hsame⟩
      · exact .inl ⟨hnew.absent, h'.grown.spares.isEmptyPart hnew.empty, hnew.named⟩
      · exact .inr ⟨l, database, .inl hl, h'.grown.connected _ _ hget, hsame⟩
    · rcases h'.given b rfl part hpart with hnew | ⟨l, database, hl, hget, hsame⟩
      · refine .inl ⟨?_, hnew.empty, hnew.named⟩
        cases hs : part.contents s.2 with
        | none => rfl
        | some contents =>
          have hcontents := h.grown.spares.same part List.not_mem_nil contents hs
          exact absurd (hcontents.symm.trans hnew.absent) (by simp)
      · exact .inr ⟨l, database, .inr hl, hget, hsame⟩
  · obtain rfl := Except.ok.inj hc
    rw [htogether]
    rcases hl with hl | hl
    · obtain ⟨database, hget, hmem⟩ := h.linked a rfl l hl
      exact ⟨database, h'.grown.connected _ _ hget, List.mem_append_left _ hmem⟩
    · obtain ⟨database, hget, hmem⟩ := h'.linked b rfl l hl
      exact ⟨database, hget, List.mem_append_right _ hmem⟩

/-- What is made is named. -/
theorem map {parts' : B → List StoragePart} {r : Except StoreError A × (Registry × Storage)}
    (h : Made links store parts s r) (f : A → B) (hparts : ∀ a, parts' (f a) = parts a) :
    Made links store parts' s (r.1.map f, r.2) := by
  rcases r with ⟨_ | a, t⟩
  · exact failed _ _ _ _ h.grown
  · refine ⟨h.grown, fun b hb part hpart => ?_, fun b hb l hl => ?_⟩
    · obtain rfl := Except.ok.inj hb
      rw [hparts] at hpart
      exact h.given a rfl part hpart
    · obtain rfl := Except.ok.inj hb
      rw [hparts]
      exact h.linked a rfl l hl

/-- What is made is there. -/
theorem held {a : A} (h : Made links store parts s (.ok a, t)) (hs : Wired s)
    {part : StoragePart} (hpart : part ∈ parts a) : (part.contents t.2).isSome := by
  rcases h.given a rfl part hpart with hnew | ⟨l, database, -, hget, rfl⟩
  · rw [hnew.empty]
    rfl
  · exact (StoragePart.isSome_contents_inDatabase_iff database store).2
      ((hs.grown h.grown).connected _ _ hget)

/-- What is made stays so when storage alone grows. -/
theorem and_spared {a : A} {b : B} {parts' : B → List StoragePart} {storage : Storage}
    (h : Made links store parts s (.ok a, t)) (hspares : Spares [] t.2 storage)
    (hshared : storage.shared = t.2.shared) (hparts : parts' b = parts a) :
    Made links store parts' s (.ok b, (t.1, storage)) where
  grown := h.grown.trans (Grown.of_spares _ hspares rfl hshared)
  given c hc part hpart := by
    obtain rfl := Except.ok.inj hc
    rw [hparts] at hpart
    exact (h.given a rfl part hpart).imp_left fun hnew =>
      ⟨hnew.absent, hspares.isEmptyPart hnew.empty, hnew.named⟩
  linked c hc l hl := by
    obtain rfl := Except.ok.inj hc
    rw [hparts]
    exact h.linked a rfl l hl

end Made

end TieredStore
