import TieredStore.Relational.Database
import TieredStore.Relational.Location
import TieredStore.Storage.Heap

/-!
# Databases that are shared

Databases that do not belong to whoever opens them: those in memory that are shared
under a name, and those in files.  Several paths may lead to one file; this depends on
the directories, and not on the paths alone.

Main results:

- Theorem `SharedDatabases.get?_insert?_self`: a database is found where it was put.
- Theorems `SharedDatabases.get?_insert?` and `SharedDatabases.get?_of_insert?`: the
  databases of other places stay, and none but the new one is added.
-/

namespace TieredStore

/-- The databases that are shared. -/
structure SharedDatabases where
  /-- Those in memory, by name. -/
  inMemory : SortedMap String (Ref Database) := ∅
  /-- Those in files. -/
  inFiles : SortedMap String (Ref Database) := ∅
  /-- The file to which a path leads, whether or not it is there.  Unless another one is
  given, there is a single directory without others in it. -/
  file? : String → Option String := fun path =>
    if path.toList.contains '/' || path == "." || path == ".." then none else some path

namespace SharedDatabases

instance : EmptyCollection SharedDatabases := ⟨{}⟩

/-- The database at a place, if there is one. -/
def get? (shared : SharedDatabases) : Location.SharedPlace → Option (Ref Database)
  | .memory name => shared.inMemory.get? name
  | .file path _ => (shared.file? path).bind shared.inFiles.get?

/-- Puts a database at a place, if one can be created there. -/
def insert? (shared : SharedDatabases) (place : Location.SharedPlace) (database : Ref Database) :
    Option SharedDatabases :=
  match place with
  | .memory name => some { shared with inMemory := shared.inMemory.insert name database }
  | .file path creates =>
    if creates then
      (shared.file? path).map fun file =>
        { shared with inFiles := shared.inFiles.insert file database }
    else none

variable {shared later : SharedDatabases} {place other : Location.SharedPlace}
  {database found : Ref Database}

/-- Nothing is shared at first. -/
theorem get?_empty (place : Location.SharedPlace) : (∅ : SharedDatabases).get? place = none := by
  cases place with
  | memory name => rfl
  | file path creates =>
    rw [get?]
    cases (∅ : SharedDatabases).file? path <;> rfl

/-- A database that was put into a file is there. -/
theorem insert?_file_eq_some {path : String} {creates : Bool}
    (h : shared.insert? (.file path creates) database = some later) :
    ∃ file, shared.file? path = some file ∧
      later = { shared with inFiles := shared.inFiles.insert file database } := by
  unfold insert? at h
  cases creates with
  | false => cases h
  | true =>
    obtain ⟨file, hfile, hlater⟩ := Option.map_eq_some_iff.1 h
    exact ⟨file, hfile, hlater.symm⟩

/-- A database is found where it was put. -/
theorem get?_insert?_self (h : shared.insert? place database = some later) :
    later.get? place = some database := by
  cases place with
  | memory name =>
    obtain rfl := Option.some.inj h
    exact SortedMap.get?_insert_self _ _ _
  | file path creates =>
    obtain ⟨file, hfile, rfl⟩ := insert?_file_eq_some h
    simp only [get?, hfile, Option.bind_some, SortedMap.get?_insert_self]

/-- What is found elsewhere was there before, or is the new database. -/
theorem get?_of_insert? (h : shared.insert? place database = some later)
    (hfound : later.get? other = some found) :
    shared.get? other = some found ∨ found = database := by
  have hcases : ∀ {map : SortedMap String (Ref Database)} {key name : String},
      (map.insert key database).get? name = some found →
        map.get? name = some found ∨ found = database := by
    intro map key name hget
    by_cases hname : name = key
    · subst hname
      exact .inr (Option.some.inj (hget.symm.trans (SortedMap.get?_insert_self _ _ _)))
    · exact .inl ((SortedMap.get?_insert_of_ne _ _ hname).symm.trans hget)
  cases place with
  | memory name =>
    obtain rfl := Option.some.inj h
    cases other with
    | memory another => exact hcases hfound
    | file path creates => exact .inl hfound
  | file path creates =>
    obtain ⟨file, hfile, rfl⟩ := insert?_file_eq_some h
    cases other with
    | memory name => exact .inl hfound
    | file path' creates' =>
      obtain ⟨file', hfile', hget⟩ := Option.bind_eq_some_iff.1 hfound
      exact (hcases hget).imp_left fun hold => Option.bind_eq_some_iff.2 ⟨file', hfile', hold⟩

/-- What was found is still there, if a database is put where none was. -/
theorem get?_insert? (h : shared.insert? place database = some later)
    (habsent : shared.get? place = none) (hfound : shared.get? other = some found) :
    later.get? other = some found := by
  have hkept : ∀ {map : SortedMap String (Ref Database)} {key name : String},
      map.get? key = none → map.get? name = some found →
        (map.insert key database).get? name = some found := by
    intro map key name hnone hget
    refine (SortedMap.get?_insert_of_ne _ _ ?_).trans hget
    rintro rfl
    rw [hnone] at hget
    cases hget
  cases place with
  | memory name =>
    obtain rfl := Option.some.inj h
    cases other with
    | memory another => exact hkept habsent hfound
    | file path creates => exact hfound
  | file path creates =>
    obtain ⟨file, hfile, rfl⟩ := insert?_file_eq_some h
    cases other with
    | memory name => exact hfound
    | file path' creates' =>
      rw [get?, hfile, Option.bind_some] at habsent
      obtain ⟨file', hfile', hget⟩ := Option.bind_eq_some_iff.1 hfound
      exact Option.bind_eq_some_iff.2 ⟨file', hfile', hkept habsent hget⟩

end SharedDatabases

end TieredStore
