import TieredStore.SortedMap

/-!
# Views of sorted maps

What filtering, listing keys and building a map from entries do to look-ups.

Main results:

- Theorem `SortedMap.get?_filter`: a filtered map finds what passes the filter.
- Theorem `SortedMap.get?_ofList`: a map built from entries with different keys finds
  these entries.
- Theorem `SortedMap.keys_eq_of_mem_iff`: ascending keys are determined by their members.
-/

namespace TieredStore

open Std

namespace SortedMap

variable {κ ν : Type} [Ord κ]

/-! ## Entries and keys -/

/-- The keys of a map strictly ascend. -/
theorem keys_ascending (m : SortedMap κ ν) : m.keys.Pairwise fun a b => compare a b = .lt :=
  List.pairwise_map.2 m.ascending

/-- A key is contained exactly if it has a value. -/
theorem contains_iff (m : SortedMap κ ν) (key : κ) :
    m.contains key = true ↔ ∃ v, m.get? key = some v := by
  rw [contains, Option.isSome_iff_exists]

/-- No key occurs twice among ascending ones. -/
theorem nodup_of_ascending [ReflOrd κ] {keys : List κ}
    (h : keys.Pairwise fun a b => compare a b = .lt) : keys.Nodup :=
  h.imp fun hlt heq => by
    rw [heq, ReflOrd.compare_self] at hlt
    cases hlt

/-- Ascending keys are determined by their members. -/
theorem keys_eq_of_mem_iff [TransOrd κ] {a b : List κ}
    (ha : a.Pairwise fun x y => compare x y = .lt) (hb : b.Pairwise fun x y => compare x y = .lt)
    (h : ∀ key, key ∈ a ↔ key ∈ b) : a = b := by
  have hperm : a.Perm b :=
    (List.perm_ext_iff_of_nodup (nodup_of_ascending ha) (nodup_of_ascending hb)).2 h
  apply hperm.eq_of_pairwise _ ha hb
  intro x y _ _ hxy hyx
  rw [OrientedCmp.gt_iff_lt.2 hxy] at hyx
  cases hyx

variable [TransOrd κ] [LawfulEqOrd κ]

/-- A key is listed exactly if it has a value. -/
theorem mem_keys_iff (m : SortedMap κ ν) (key : κ) : key ∈ m.keys ↔ ∃ v, m.get? key = some v := by
  constructor
  · intro h
    obtain ⟨e, he, rfl⟩ := List.mem_map.1 h
    exact ⟨e.2, (m.get?_eq_some_iff e.1 e.2).2 he⟩
  · rintro ⟨v, hv⟩
    exact List.mem_map.2 ⟨(key, v), (m.get?_eq_some_iff key v).1 hv, rfl⟩

/-! ## Filtering -/

/-- A filtered map finds what passes the filter. -/
theorem get?_filter (m : SortedMap κ ν) (keep : κ → ν → Bool) (key : κ) :
    (m.filter keep).get? key = (m.get? key).filter (keep key) := by
  apply Option.ext
  intro v
  rw [get?_eq_some_iff, Option.filter_eq_some_iff, get?_eq_some_iff]
  exact List.mem_filter

/-- Maps that agree on the keys that pass a filter are the same map behind the filter. -/
theorem filter_eq_filter {a b : SortedMap κ ν} {keep : κ → Bool}
    (h : ∀ key, keep key = true → a.get? key = b.get? key) :
    a.filter (fun key _ => keep key) = b.filter fun key _ => keep key := by
  refine ext_get? fun key => ?_
  rw [get?_filter, get?_filter]
  cases hkeep : keep key with
  | true => rw [h key hkeep]
  | false => cases a.get? key <;> cases b.get? key <;> rfl

/-! ## Building from entries -/

/-- Inserting entries with different keys makes them visible and leaves the rest. -/
theorem get?_foldl_insert (entries : List (κ × ν)) (m : SortedMap κ ν)
    (hnodup : (entries.map Prod.fst).Nodup) (key : κ) (v : ν) :
    (entries.foldl (fun m e => m.insert e.1 e.2) m).get? key = some v ↔
      (key, v) ∈ entries ∨ (key ∉ entries.map Prod.fst ∧ m.get? key = some v) := by
  induction entries generalizing m with
  | nil => simp
  | cons e rest ih =>
    obtain ⟨hfirst, hrest⟩ := List.nodup_cons.1 hnodup
    rw [List.foldl_cons, ih _ hrest]
    by_cases hkey : key = e.1
    · subst hkey
      have hne : (e.1, v) ∉ rest := fun h => hfirst (List.mem_map.2 ⟨_, h, rfl⟩)
      simp only [hne, hfirst, false_or, not_false_iff, true_and, get?_insert_self,
        List.map_cons, List.mem_cons, not_true, false_and, or_false]
      constructor
      · intro h
        rw [← Option.some.inj h]
      · intro h
        rw [← h]
    · have hne : (key, v) ≠ e := fun h => hkey (congrArg Prod.fst h)
      simp [get?_insert_of_ne _ _ hkey, hkey, hne]

/-- A map built from entries with different keys finds these entries. -/
theorem get?_ofList {entries : List (κ × ν)} (hnodup : (entries.map Prod.fst).Nodup) (key : κ)
    (v : ν) : (ofList entries).get? key = some v ↔ (key, v) ∈ entries := by
  rw [ofList, get?_foldl_insert entries empty hnodup]
  simp

/-- A map is built again from its entries. -/
theorem ofList_entries (m : SortedMap κ ν) : ofList m.entries = m := by
  refine ext_get? fun key => Option.ext fun value => ?_
  have hnodup : (m.entries.map Prod.fst).Nodup := nodup_of_ascending m.keys_ascending
  rw [get?_ofList hnodup, get?_eq_some_iff]

end SortedMap

end TieredStore
