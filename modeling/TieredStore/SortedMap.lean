/-!
# Sorted maps

A finite map kept as one list of entries whose keys strictly ascend.  The list
is the whole state, so equal contents are equal values, iteration order is key
order, and every operation is a structural recursion that can be evaluated in a
proof.

Main results:

- Theorems `SortedMap.get?_insert_self` and `SortedMap.get?_insert_of_ne`: an
  insertion is visible at its own key and nowhere else.
- Theorems `SortedMap.get?_erase_self` and `SortedMap.get?_erase_of_ne`: the
  same for a removal.
- Theorem `SortedMap.ext_get?`: a map is determined by its look-ups.
-/

namespace TieredStore

open Std

/-- Entries whose keys strictly ascend. -/
abbrev Ascending {κ ν : Type} [Ord κ] (entries : List (κ × ν)) : Prop :=
  entries.Pairwise fun a b => compare a.1 b.1 = .lt

/-- A finite map from `κ` to `ν`, listed by ascending key. -/
structure SortedMap (κ ν : Type) [Ord κ] where
  entries : List (κ × ν)
  /-- Keys strictly ascend, so no key occurs twice. -/
  ascending : Ascending entries
  deriving DecidableEq

namespace SortedMap

variable {κ ν μ : Type} [Ord κ]

/-! ## Operations on the list of entries -/

/-- The value under a key in a list of entries. -/
def lookup (key : κ) : List (κ × ν) → Option ν
  | [] => none
  | (k, v) :: rest => if compare key k = .eq then some v else lookup key rest

/-- Puts an entry at its place, replacing an entry of the same key. -/
def insertEntry (key : κ) (value : ν) : List (κ × ν) → List (κ × ν)
  | [] => [(key, value)]
  | (k, v) :: rest =>
    match compare key k with
    | .lt => (key, value) :: (k, v) :: rest
    | .eq => (key, value) :: rest
    | .gt => (k, v) :: insertEntry key value rest

/-- A key of the list after an insertion is the new key or an old one. -/
theorem fst_of_mem_insertEntry {key : κ} {value : ν} {entries : List (κ × ν)} {e : κ × ν}
    (h : e ∈ insertEntry key value entries) : e.1 = key ∨ e ∈ entries := by
  induction entries with
  | nil => simp [insertEntry] at h; simp [h]
  | cons head rest ih =>
    obtain ⟨k, v⟩ := head
    simp only [insertEntry] at h
    split at h
    · rcases List.mem_cons.1 h with h | h
      · exact Or.inl (by rw [h])
      · exact Or.inr h
    · rcases List.mem_cons.1 h with h | h
      · exact Or.inl (by rw [h])
      · exact Or.inr (List.mem_cons_of_mem _ h)
    · rcases List.mem_cons.1 h with h | h
      · exact Or.inr (by rw [h]; exact List.mem_cons_self)
      · rcases ih h with h | h
        · exact Or.inl h
        · exact Or.inr (List.mem_cons_of_mem _ h)

/-- Insertion keeps the keys strictly ascending. -/
theorem ascending_insertEntry [TransOrd κ] [LawfulEqOrd κ] (key : κ) (value : ν)
    {entries : List (κ × ν)} (h : Ascending entries) :
    Ascending (insertEntry key value entries) := by
  induction entries with
  | nil => simp [insertEntry]
  | cons head rest ih =>
    obtain ⟨k, v⟩ := head
    obtain ⟨hhead, hrest⟩ := List.pairwise_cons.1 h
    simp only [insertEntry]
    split
    · rename_i hlt
      refine List.pairwise_cons.2 ⟨fun e he => ?_, h⟩
      rcases List.mem_cons.1 he with rfl | he
      · exact hlt
      · exact TransCmp.lt_trans hlt (hhead e he)
    · rename_i heq
      have hk : key = k := LawfulEqCmp.eq_of_compare heq
      refine List.pairwise_cons.2 ⟨fun e he => ?_, hrest⟩
      rw [hk]
      exact hhead e he
    · rename_i hgt
      refine List.pairwise_cons.2 ⟨fun e he => ?_, ih hrest⟩
      rcases fst_of_mem_insertEntry he with he | he
      · simp only [he]
        exact OrientedCmp.gt_iff_lt.1 hgt
      · exact hhead e he

/-! ## The map -/

/-- The map without entries. -/
def empty : SortedMap κ ν := ⟨[], List.Pairwise.nil⟩

instance : EmptyCollection (SortedMap κ ν) := ⟨empty⟩

instance : Inhabited (SortedMap κ ν) := ⟨empty⟩

/-- The value stored under a key. -/
def get? (m : SortedMap κ ν) (key : κ) : Option ν := lookup key m.entries

/-- Whether a key is present. -/
def contains (m : SortedMap κ ν) (key : κ) : Bool := (m.get? key).isSome

/-- The number of entries. -/
def size (m : SortedMap κ ν) : Nat := m.entries.length

/-- Whether there is no entry. -/
def isEmpty (m : SortedMap κ ν) : Bool := m.entries.isEmpty

/-- The keys in ascending order. -/
def keys (m : SortedMap κ ν) : List κ := m.entries.map Prod.fst

/-- The values by ascending key. -/
def values (m : SortedMap κ ν) : List ν := m.entries.map Prod.snd

/-- Stores a value under a key, replacing what was there. -/
def insert [TransOrd κ] [LawfulEqOrd κ] (m : SortedMap κ ν) (key : κ) (value : ν) :
    SortedMap κ ν :=
  ⟨insertEntry key value m.entries, ascending_insertEntry key value m.ascending⟩

/-- Keeps the entries that pass a test. -/
def filter (m : SortedMap κ ν) (keep : κ → ν → Bool) : SortedMap κ ν :=
  ⟨m.entries.filter fun e => keep e.1 e.2, m.ascending.filter _⟩

/-- Drops the entry of a key, if there is one. -/
def erase (m : SortedMap κ ν) (key : κ) : SortedMap κ ν :=
  m.filter fun k _ => compare key k != .eq

/-- Replaces every value by its image. -/
def mapValues (f : κ → ν → μ) (m : SortedMap κ ν) : SortedMap κ μ :=
  ⟨m.entries.map fun e => (e.1, f e.1 e.2), List.pairwise_map.2 (by simpa using m.ascending)⟩

/-- Inserts the entries of a list one after another, so that the last entry of
a key wins. -/
def ofList [TransOrd κ] [LawfulEqOrd κ] (entries : List (κ × ν)) : SortedMap κ ν :=
  entries.foldl (fun m e => m.insert e.1 e.2) empty

/-! ## Look-ups after each operation -/

section Lookups

/-- Nothing is found in the empty map. -/
@[simp] theorem get?_empty (key : κ) : (empty : SortedMap κ ν).get? key = none := rfl

/-- An inserted entry is found under its key. -/
theorem lookup_insertEntry_self [ReflOrd κ] (key : κ) (value : ν) (entries : List (κ × ν)) :
    lookup key (insertEntry key value entries) = some value := by
  induction entries with
  | nil => simp [insertEntry, lookup]
  | cons head rest ih =>
    obtain ⟨k, v⟩ := head
    simp only [insertEntry]
    split
    · simp [lookup]
    · simp [lookup]
    · rename_i hgt
      simp [lookup, hgt, ih]

/-- An insertion leaves the other keys as they were. -/
theorem lookup_insertEntry_of_ne [LawfulEqOrd κ] {key other : κ} (value : ν)
    (entries : List (κ × ν)) (hne : other ≠ key) :
    lookup other (insertEntry key value entries) = lookup other entries := by
  have hother : compare other key ≠ .eq := fun h => hne (LawfulEqCmp.eq_of_compare h)
  induction entries with
  | nil => simp [insertEntry, lookup, hother]
  | cons head rest ih =>
    obtain ⟨k, v⟩ := head
    simp only [insertEntry]
    split
    · simp [lookup, hother]
    · rename_i heq
      have hk : key = k := LawfulEqCmp.eq_of_compare heq
      subst hk
      simp [lookup, hother]
    · simp [lookup, ih]

variable [TransOrd κ] [LawfulEqOrd κ]

/-- An inserted value is found under its key. -/
@[simp] theorem get?_insert_self (m : SortedMap κ ν) (key : κ) (value : ν) :
    (m.insert key value).get? key = some value :=
  lookup_insertEntry_self key value m.entries

/-- An insertion is invisible at every other key. -/
theorem get?_insert_of_ne (m : SortedMap κ ν) {key other : κ} (value : ν) (hne : other ≠ key) :
    (m.insert key value).get? other = m.get? other :=
  lookup_insertEntry_of_ne value m.entries hne

omit [TransOrd κ] [LawfulEqOrd κ] in
/-- Dropping the entries of a key leaves nothing to find under it. -/
theorem lookup_filter_ne_self (key : κ) (entries : List (κ × ν)) :
    lookup key (entries.filter fun e => compare key e.1 != .eq) = none := by
  induction entries with
  | nil => rfl
  | cons head rest ih =>
    by_cases h : compare key head.1 = .eq
    · simp [h, ih]
    · simp [h, lookup, ih]

omit [TransOrd κ] in
/-- Dropping the entries of a key leaves the other keys as they were. -/
theorem lookup_filter_ne_of_ne {key other : κ} (entries : List (κ × ν)) (hne : other ≠ key) :
    lookup other (entries.filter fun e => compare key e.1 != .eq) = lookup other entries := by
  induction entries with
  | nil => rfl
  | cons head rest ih =>
    by_cases h : compare key head.1 = .eq
    · have hk : key = head.1 := LawfulEqCmp.eq_of_compare h
      have ho : compare other head.1 ≠ .eq := fun e =>
        hne ((LawfulEqCmp.eq_of_compare e).trans hk.symm)
      simp [h, lookup, ho, ih]
    · simp [h, lookup, ih]

omit [TransOrd κ] [LawfulEqOrd κ] in
/-- A removed key is absent. -/
@[simp] theorem get?_erase_self (m : SortedMap κ ν) (key : κ) : (m.erase key).get? key = none :=
  lookup_filter_ne_self key m.entries

omit [TransOrd κ] in
/-- A removal is invisible at every other key. -/
theorem get?_erase_of_ne (m : SortedMap κ ν) {key other : κ} (hne : other ≠ key) :
    (m.erase key).get? other = m.get? other :=
  lookup_filter_ne_of_ne m.entries hne

/-- An entry of an ascending list is what a look-up of its key finds. -/
theorem lookup_of_mem {entries : List (κ × ν)} (h : Ascending entries) {e : κ × ν}
    (he : e ∈ entries) : lookup e.1 entries = some e.2 := by
  induction entries with
  | nil => cases he
  | cons head rest ih =>
    obtain ⟨hhead, hrest⟩ := List.pairwise_cons.1 h
    rcases List.mem_cons.1 he with rfl | he
    · simp [lookup]
    · have hlt := hhead e he
      have hne : compare e.1 head.1 ≠ .eq := by
        rw [OrientedCmp.gt_iff_lt.2 hlt]
        simp
      simp [lookup, hne, ih hrest he]

omit [TransOrd κ] in
/-- What a look-up finds is an entry. -/
theorem mem_of_lookup {entries : List (κ × ν)} {key : κ} {value : ν}
    (h : lookup key entries = some value) : (key, value) ∈ entries := by
  induction entries with
  | nil => cases h
  | cons head rest ih =>
    obtain ⟨k, v⟩ := head
    simp only [lookup] at h
    split at h
    · rename_i heq
      cases h
      rw [LawfulEqCmp.eq_of_compare heq]
      exact List.mem_cons_self
    · exact List.mem_cons_of_mem _ (ih h)

/-- Looking a key up finds a value exactly when the entry is listed. -/
theorem get?_eq_some_iff (m : SortedMap κ ν) (key : κ) (value : ν) :
    m.get? key = some value ↔ (key, value) ∈ m.entries :=
  ⟨mem_of_lookup, fun h => lookup_of_mem m.ascending h⟩

/-- Two ascending lists with the same look-ups are equal. -/
theorem entries_eq_of_lookup {a b : List (κ × ν)} (ha : Ascending a) (hb : Ascending b)
    (h : ∀ key, lookup key a = lookup key b) : a = b := by
  induction a generalizing b with
  | nil =>
    cases b with
    | nil => rfl
    | cons head rest =>
      have := h head.1
      simp [lookup] at this
  | cons x xs ih =>
    cases b with
    | nil =>
      have := h x.1
      simp [lookup] at this
    | cons y ys =>
      obtain ⟨hx, hxs⟩ := List.pairwise_cons.1 ha
      obtain ⟨hy, hys⟩ := List.pairwise_cons.1 hb
      have hmem : ∀ e, e ∈ x :: xs ↔ e ∈ y :: ys := fun e =>
        ⟨fun he => mem_of_lookup ((h e.1).symm.trans (lookup_of_mem ha he)),
          fun he => mem_of_lookup ((h e.1).trans (lookup_of_mem hb he))⟩
      have hxy : x = y := by
        rcases List.mem_cons.1 ((hmem x).1 List.mem_cons_self) with e | hin
        · exact e
        · rcases List.mem_cons.1 ((hmem y).2 List.mem_cons_self) with e | hin'
          · exact e.symm
          · have h1 := hy x hin
            have h2 := hx y hin'
            rw [OrientedCmp.gt_iff_lt.2 h1] at h2
            cases h2
      subst hxy
      have htail : ∀ key, lookup key xs = lookup key ys := fun key => by
        by_cases hk : compare key x.1 = .eq
        · have hkey := LawfulEqCmp.eq_of_compare hk
          have habs : ∀ {l : List (κ × ν)}, (∀ e ∈ l, compare x.1 e.1 = .lt) →
              lookup key l = none := fun {l} hl => by
            cases hval : lookup key l with
            | none => rfl
            | some v =>
              have := hl _ (mem_of_lookup hval)
              rw [← hkey] at this
              simp at this
          rw [habs hx, habs hy]
        · have := h key
          simpa [lookup, hk] using this
      rw [ih hxs hys htail]

/-- Two maps with the same look-ups are the same map. -/
theorem ext_get? {a b : SortedMap κ ν} (h : ∀ key, a.get? key = b.get? key) : a = b := by
  obtain ⟨as, ha⟩ := a
  obtain ⟨bs, hb⟩ := b
  have : as = bs := entries_eq_of_lookup ha hb h
  subst this
  rfl

end Lookups

end SortedMap

/-! ## Keys of two parts -/

/-- Keys that are compared part by part are equal only if both parts are. -/
theorem parts_eq_of_compareLex {α β γ : Type} [Ord β] [Ord γ] [LawfulEqOrd β] [LawfulEqOrd γ]
    {first : α → β} {second : α → γ} {a b : α}
    (h : compareLex (compareOn first) (compareOn second) a b = .eq) :
    first a = first b ∧ second a = second b := by
  obtain ⟨hfirst, hsecond⟩ := compareLex_eq_eq.1 h
  exact ⟨LawfulEqOrd.eq_of_compare hfirst, LawfulEqOrd.eq_of_compare hsecond⟩

end TieredStore
