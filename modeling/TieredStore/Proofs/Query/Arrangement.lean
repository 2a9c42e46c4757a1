import Mathlib.Data.List.Nodup
import TieredStore.Query.Basic

/-!
# The order of a result

Rows with different OIDs never tie in the order of a query, so a sorted result does not
depend on the order in which the rows were collected.

Main results:

- Theorem `Query.pairwise_arrange`: arranged rows are in the order of the query.
- Theorem `Query.arrange_eq_of_perm`: rows with different OIDs have one arrangement.
- Theorem `Query.orderAndPage_eq_of_perm`: nor do they have more than one page.
-/

namespace TieredStore

open Std

/-! ## Sorting by keys -/

/-- A list that is sorted by keys is in the order of the keys. -/
theorem pairwise_sortOn {α κ : Type} (key : α → κ) {le : κ → κ → Bool}
    (total : ∀ a b, le a b = true ∨ le b a = true)
    (trans : ∀ a b c, le a b = true → le b c = true → le a c = true) (l : List α) :
    (sortOn key le l).Pairwise fun a b => le (key a) (key b) = true := by
  unfold sortOn
  rw [List.pairwise_map]
  have hsorted : (sortBy (fun a b : κ × α => le a.1 b.1) (l.map fun a => (key a, a))).Pairwise
      fun a b => le a.1 b.1 = true :=
    pairwise_sortBy (fun a b => total a.1 b.1) (fun a b c => trans a.1 b.1 c.1) _
  refine hsorted.imp_of_mem ?_
  intro a b ha hb hle
  obtain ⟨a, -, rfl⟩ := List.mem_map.1 (mem_sortBy.1 ha)
  obtain ⟨b, -, rfl⟩ := List.mem_map.1 (mem_sortBy.1 hb)
  exact hle

/-! ## Sort keys -/

instance : OrientedCmp Value.SortKey.compare where
  eq_swap {a b} := by
    cases a <;> cases b
    case number.number x y => exact OrientedOrd.eq_swap
    case text.text s t => exact OrientedOrd.eq_swap
    all_goals rfl

instance : TransCmp Value.SortKey.compare where
  isLE_trans {a b c} hab hbc := by
    -- Kinds are ranked, so the middle key has no rank outside those of the outer ones.
    cases a <;> cases b <;> cases c
    case number.number.number x y z => exact TransOrd.isLE_trans hab hbc
    case text.text.text s t u => exact TransOrd.isLE_trans hab hbc
    all_goals simp_all [Value.SortKey.compare]

namespace Query

/-- The order of row keys under a query is a comparison of one part after the other. -/
theorem compareKeys_eq (order : Option OrderBy) :
    compareKeys order = match order with
      | none => compareOn Prod.snd
      | some ⟨_, .ascending⟩ =>
        compareLex (fun a b => Value.SortKey.compare a.1 b.1) (compareOn Prod.snd)
      | some ⟨_, .descending⟩ =>
        compareLex (fun a b => Value.SortKey.compare b.1 a.1) (compareOn Prod.snd) := by
  funext a b
  rcases order with - | ⟨field, - | -⟩
  · rfl
  · rfl
  · have hswap : b.1.compare a.1 = (a.1.compare b.1).swap := OrientedCmp.eq_swap
    show (a.1.compare b.1).swap.then _ = (b.1.compare a.1).then _
    rw [hswap]
    rfl

/-- The first parts of keys are compared like sort keys. -/
instance {α : Type} : TransCmp fun a b : Value.SortKey × α => a.1.compare b.1 where
  eq_swap {a b} := by
    show a.1.compare b.1 = (b.1.compare a.1).swap
    exact OrientedCmp.eq_swap
  isLE_trans {a b c} hab hbc := by
    have hle : (a.1.compare c.1).isLE = true := TransCmp.isLE_trans (b := b.1) hab hbc
    exact hle

instance (order : Option OrderBy) : TransCmp (compareKeys order) := by
  rw [compareKeys_eq]
  rcases order with - | ⟨field, - | -⟩
  · exact inferInstanceAs (TransCmp (compareOn Prod.snd))
  · exact inferInstanceAs (TransCmp (compareLex _ _))
  · have : TransCmp fun a b : Value.SortKey × Oid => b.1.compare a.1 :=
      inferInstanceAs (TransCmp fun a b => (fun x y : Value.SortKey × Oid => x.1.compare y.1) b a)
    exact inferInstanceAs (TransCmp (compareLex _ _))

/-- Keys that tie have one OID. -/
theorem snd_eq_of_compareKeys {order : Option OrderBy} {a b : Value.SortKey × Oid}
    (h : compareKeys order a b = .eq) : a.2 = b.2 := by
  rcases order with - | ⟨field, - | -⟩
  · exact LawfulEqOrd.eq_of_compare h
  · exact LawfulEqOrd.eq_of_compare (Ordering.then_eq_eq.1 h).2
  · exact LawfulEqOrd.eq_of_compare (Ordering.then_eq_eq.1 h).2

/-! ## Arranged rows -/

variable {α : Type} [Row α]

/-- Arranged rows are in the order of the query. -/
theorem pairwise_arrange (q : Query) (rows : List α) :
    (q.arrange rows).Pairwise fun a b =>
      (compareKeys q.order (rowKey q.order a) (rowKey q.order b)).isLE = true := by
  have total : ∀ a b : Value.SortKey × Oid,
      (compareKeys q.order a b).isLE = true ∨ (compareKeys q.order b a).isLE = true := by
    intro a b
    have hswap : compareKeys q.order b a = (compareKeys q.order a b).swap := OrientedCmp.eq_swap
    rw [hswap]
    cases compareKeys q.order a b
    · exact Or.inl rfl
    · exact Or.inl rfl
    · exact Or.inr rfl
  have trans : ∀ a b c : Value.SortKey × Oid, (compareKeys q.order a b).isLE = true →
      (compareKeys q.order b c).isLE = true → (compareKeys q.order a c).isLE = true :=
    fun a b c hab hbc => TransCmp.isLE_trans hab hbc
  exact pairwise_sortOn (rowKey q.order) total trans rows

/-- Rows with different OIDs have one arrangement. -/
theorem arrange_eq_of_perm (q : Query) {rows others : List α} (hperm : rows.Perm others)
    (distinct : (rows.map Row.oid).Nodup) : q.arrange rows = q.arrange others := by
  have harranged : (q.arrange rows).Perm (q.arrange others) :=
    (sortOn_perm _ _ rows).trans (hperm.trans (sortOn_perm _ _ others).symm)
  apply harranged.eq_of_pairwise _ (q.pairwise_arrange rows) (q.pairwise_arrange others)
  intro a b ha hb hab hba
  have htie : compareKeys q.order (rowKey q.order a) (rowKey q.order b) = .eq :=
    OrientedCmp.isLE_antisymm hab hba
  have hoid : Row.oid a = Row.oid b := snd_eq_of_compareKeys htie
  have harow : a ∈ rows := mem_sortOn.1 ha
  have hbrow : b ∈ rows := hperm.mem_iff.2 (mem_sortOn.1 hb)
  exact List.inj_on_of_nodup_map distinct harow hbrow hoid

/-- The page of a result does not depend on the order in which rows were collected. -/
theorem orderAndPage_eq_of_perm (q : Query) {rows others : List α} (hperm : rows.Perm others)
    (distinct : (rows.map Row.oid).Nodup) : q.orderAndPage rows = q.orderAndPage others := by
  unfold orderAndPage
  rw [q.arrange_eq_of_perm hperm distinct]

/-- Every row of a page is one of the rows that were arranged. -/
theorem mem_of_mem_orderAndPage {q : Query} {rows : List α} {row : α}
    (h : row ∈ q.orderAndPage rows) : row ∈ rows :=
  mem_sortOn.1 (mem_of_mem_page h)

/-- The query for all rows leaves none out. -/
theorem mem_orderAndPage_all {rows : List α} {row : α} :
    row ∈ Query.all.orderAndPage rows ↔ row ∈ rows := by
  show row ∈ (Query.all.arrange rows).drop 0 ↔ row ∈ rows
  rw [List.drop_zero, arrange, mem_sortOn]

end Query

end TieredStore
