import TieredStore.Proofs.Comparison.Numerals
import TieredStore.Proofs.Query.Arrangement

/-!
# Laws of comparison

Every pair of operands is compared in a mode of its own, by number or by text, so the ordering
operators need not be transitive.  Equality is: what a value is equal to is told by its likeness,
which is the number that it spells, or else its text.  The order of a sort is another relation.
It ranks numbers before texts, and is transitive for that reason; inside a rank the two agree up to
the order of the two zeros.

Main results:

- Theorem `Operator.holds_eq_iff`: values are equal if they have one likeness.
- Theorem `Operator.relates_laws`: the laws of the six operators.
- Theorem `Value.compareForSort_laws`: sorting goes by a total preorder that does not contradict
  the operators on values of one rank.
-/

namespace TieredStore

open Std

/-! ## Comparison of two values -/

/-- Numbers that are ordered by their total positions are not ordered otherwise by value. -/
theorem Finite64.compareValue_ne_gt {a b : Finite64} (h : a.compareTotal b = .lt) :
    a.compareValue b ≠ .gt := by
  intro hgt
  have hlt : b.compareValue a = .lt := Int.compare_eq_lt.2 (Int.compare_eq_gt.1 hgt)
  have htotal := compareTotal_eq_lt_of_compareValue hlt
  unfold compareTotal at h htotal
  rw [Int.compare_eq_lt] at h htotal
  omega

namespace Value

/-- Every value but null is not null. -/
theorem isNull_eq_false_iff {v : Value} : v.isNull = false ↔ v ≠ .null := by
  rw [← Bool.not_eq_true, v.isNull_eq_true_iff]

/-- Comparison the other way round. -/
theorem compareWith_swap (a b : Value) : b.compareWith a = (a.compareWith b).swap := by
  unfold compareWith
  cases a.asNumber? <;> cases b.asNumber?
  case some.some x y => exact (Int.compare_swap x.position y.position).symm
  all_goals exact OrientedOrd.eq_swap

/-- What a value has in common with the values that it is equal to: being absent, the position of
its number, or its text. -/
inductive Likeness where
  | absent
  | number (position : Int)
  | text (s : String)
  deriving DecidableEq

/-- The likeness of a value. -/
def likeness (v : Value) : Likeness :=
  if v.isNull then .absent
  else match v.asNumber? with
    | some x => .number x.position
    | none => .text v.display

/-- Values tie if they are the same number up to the sign of zero, or not numeric and of one
text. -/
theorem compareWith_eq_iff {a b : Value} (ha : a.isNull = false) (hb : b.isNull = false) :
    a.compareWith b = .eq ↔ a.likeness = b.likeness := by
  -- Values of one text are numeric together, so a tie by text never joins a number and another.
  have htext : compare a.display b.display = .eq → a.asNumber? = b.asNumber? := fun h =>
    asNumber?_eq_of_display_eq ha hb (LawfulEqOrd.eq_of_compare h)
  have hties : compare a.display b.display = .eq ↔ a.display = b.display :=
    LawfulEqOrd.compare_eq_iff_eq
  simp only [compareWith, likeness, ha, hb, Bool.false_eq_true, if_false]
  cases hx : a.asNumber? <;> cases hy : b.asNumber? <;> rw [hx, hy] at htext
  case none.none => simp only [hties, Likeness.text.injEq]
  case none.some y => exact ⟨fun h => absurd (htext h) nofun, nofun⟩
  case some.none x => exact ⟨fun h => absurd (htext h) nofun, nofun⟩
  case some.some x y =>
    simp only [Finite64.compareValue, Int.compare_eq_eq, Likeness.number.injEq]

end Value

namespace Operator

/-- The operator for the operands in the other order. -/
def reverse : Operator → Operator
  | .eq => .eq
  | .ne => .ne
  | .gt => .lt
  | .lt => .gt
  | .ge => .le
  | .le => .ge

/-- An operator holds of two values if its reverse holds of them in the other order. -/
theorem holds_reverse (op : Operator) (a b : Value) : op.reverse.holds b a = op.holds a b := by
  unfold holds
  cases a.isNull <;> cases b.isNull
  · rw [Value.compareWith_swap a b]
    cases op <;> cases a.compareWith b <;> rfl
  all_goals cases op <;> rfl

/-- An operator on values that are not null accepts or rejects their order. -/
theorem holds_of_not_null (op : Operator) {a b : Value} (ha : a.isNull = false)
    (hb : b.isNull = false) : op.holds a b = op.accepts (a.compareWith b) := by
  simp only [holds, ha, hb]

/-- Only equal and unequal hold if one of the values is null. -/
theorem holds_of_null {op : Operator} {a b : Value} (h : a.isNull = true ∨ b.isNull = true)
    (heq : op ≠ .eq) (hne : op ≠ .ne) : op.holds a b = false := by
  have heq' : (op == .eq) = false := beq_eq_false_iff_ne.2 heq
  have hne' : (op == .ne) = false := beq_eq_false_iff_ne.2 hne
  unfold holds
  rcases h with h | h <;> rw [h]
  · cases b.isNull
    · exact hne'
    · exact heq'
  · cases a.isNull
    · exact hne'
    · exact heq'

/-- Values are equal if they have one likeness. -/
theorem holds_eq_iff (a b : Value) : eq.holds a b = true ↔ a.likeness = b.likeness := by
  have habsent : ∀ {v : Value}, v.isNull = false → v.likeness ≠ .absent := by
    intro v hv
    simp only [Value.likeness, hv, Bool.false_eq_true, if_false]
    cases v.asNumber? <;> nofun
  cases ha : a.isNull <;> cases hb : b.isNull
  case false.false =>
    rw [holds_of_not_null eq ha hb, ← Value.compareWith_eq_iff ha hb]
    exact beq_iff_eq
  all_goals simp only [holds, ha, hb]
  case false.true =>
    rw [(b.isNull_eq_true_iff).1 hb]
    exact ⟨nofun, fun h => absurd h (habsent ha)⟩
  case true.false =>
    rw [(a.isNull_eq_true_iff).1 ha]
    exact ⟨nofun, fun h => absurd h.symm (habsent hb)⟩
  case true.true =>
    rw [(a.isNull_eq_true_iff).1 ha, (b.isNull_eq_true_iff).1 hb]
    exact ⟨fun _ => rfl, fun _ => rfl⟩

/-! ## Fields -/

/-- Whether an operator holds between two fields, a missing one counting as null. -/
def relates (op : Operator) (a b : Option Value) : Bool := op.test a (b.getD .null)

/-- What is expected of six operators that compare fields. -/
structure ComparisonLaws (relates : Operator → Option Value → Option Value → Bool) : Prop where
  /-- Unequal is the negation of equal. -/
  ne_eq_not (a b : Option Value) : relates .ne a b = !relates .eq a b
  /-- Less is greater the other way round. -/
  lt_eq_gt (a b : Option Value) : relates .lt a b = relates .gt b a
  /-- At most is at least the other way round. -/
  le_eq_ge (a b : Option Value) : relates .le a b = relates .ge b a
  /-- Null is not ordered. -/
  null_unordered (a b : Option Value) (h : a.getD .null = .null ∨ b.getD .null = .null) :
    ∀ op ∈ [Operator.lt, .gt, .le, .ge], relates op a b = false
  /-- One of less, equal and greater holds, and no two of them do. -/
  trichotomy (a b : Option Value) (ha : a.getD .null ≠ .null) (hb : b.getD .null ≠ .null) :
    [Operator.lt, .eq, .gt].countP (fun op => relates op a b) = 1
  /-- At most is less or equal. -/
  le_eq_or (a b : Option Value) (ha : a.getD .null ≠ .null) (hb : b.getD .null ≠ .null) :
    relates .le a b = (relates .lt a b || relates .eq a b)
  /-- At least is greater or equal. -/
  ge_eq_or (a b : Option Value) (ha : a.getD .null ≠ .null) (hb : b.getD .null ≠ .null) :
    relates .ge a b = (relates .gt a b || relates .eq a b)
  /-- Equality is reflexive, symmetric and transitive. -/
  equivalence : Equivalence fun a b => relates .eq a b = true

/-- An operator on fields that are not null accepts or rejects the order of their values. -/
theorem relates_of_not_null (op : Operator) {a b : Option Value} (ha : a.getD .null ≠ .null)
    (hb : b.getD .null ≠ .null) :
    op.relates a b = op.accepts ((a.getD .null).compareWith (b.getD .null)) :=
  op.holds_of_not_null (Value.isNull_eq_false_iff.2 ha) (Value.isNull_eq_false_iff.2 hb)

/-- The laws of the six operators, for values of all kinds. -/
theorem relates_laws : ComparisonLaws relates where
  ne_eq_not a b := holds_ne _ _
  lt_eq_gt a b := holds_reverse .gt _ _
  le_eq_ge a b := holds_reverse .ge _ _
  null_unordered a b h op hop := by
    simp only [List.mem_cons, List.not_mem_nil, or_false] at hop
    rw [← Value.isNull_eq_true_iff, ← Value.isNull_eq_true_iff] at h
    rcases hop with rfl | rfl | rfl | rfl <;> exact holds_of_null h nofun nofun
  trichotomy a b ha hb := by
    simp only [relates_of_not_null _ ha hb]
    cases (a.getD .null).compareWith (b.getD .null) <;> rfl
  le_eq_or a b ha hb := by
    simp only [relates_of_not_null _ ha hb]
    cases (a.getD .null).compareWith (b.getD .null) <;> rfl
  ge_eq_or a b ha hb := by
    simp only [relates_of_not_null _ ha hb]
    cases (a.getD .null).compareWith (b.getD .null) <;> rfl
  equivalence := by
    simp only [relates, test, holds_eq_iff]
    exact ⟨fun _ => rfl, Eq.symm, Eq.trans⟩

/-- Equality leads from an integer to a text of its number, and from there to another; a text that
is no number stands on one side of the integer. -/
theorem relates_mixed :
    Operator.eq.relates (some (.int 10)) (some (.text "1e1")) = true ∧
      Operator.eq.relates (some (.int 10)) (some (.text " 10.0 ")) = true ∧
      [Operator.lt, .eq, .gt].countP
        (fun op => op.relates (some (.text "NaN")) (some (.int 10))) = 1 := by
  have hexponent : Operator.eq.relates (some (.int 10)) (some (.text "1e1")) = true := by
    decide +kernel
  have hblanks : Operator.eq.relates (some (.text "1e1")) (some (.text " 10.0 ")) = true := by
    decide +kernel
  exact ⟨hexponent, relates_laws.equivalence.trans hexponent hblanks,
    relates_laws.trichotomy _ _ nofun nofun⟩

end Operator

/-! ## Sorting -/

namespace Value

/-- Values of one rank are sorted by number, or by text. -/
theorem compareForSort_of_not_null {a b : Value} (ha : a.isNull = false) (hb : b.isNull = false)
    (hrank : a.asNumber?.isSome = b.asNumber?.isSome) :
    a.compareForSort b = match a.asNumber?, b.asNumber? with
      | some x, some y => x.compareTotal y
      | _, _ => compare a.display b.display := by
  simp only [compareForSort, sortKey, ha, hb, Bool.false_eq_true, if_false]
  cases hx : a.asNumber? <;> cases hy : b.asNumber?
  case none.none => rfl
  case some.some x y => rfl
  all_goals simp_all

/-- Sorting goes by a total preorder on all values.  On two values that are both numeric or both
not, it neither contradicts the operators nor is contradicted by them. -/
theorem compareForSort_laws :
    (∀ a b : Value, b.compareForSort a = (a.compareForSort b).swap) ∧
      (∀ a b c : Value, a.compareForSort b ≠ .gt → b.compareForSort c ≠ .gt →
        a.compareForSort c ≠ .gt) ∧
      ∀ a b : Value, a ≠ .null → b ≠ .null → a.asNumber?.isSome = b.asNumber?.isSome →
        (Operator.lt.test (some a) b = true → a.compareForSort b = .lt) ∧
          (a.compareForSort b = .lt → Operator.le.test (some a) b = true) := by
  have hswap : ∀ a b : SortKey, b.compare a = (a.compare b).swap := fun _ _ => OrientedCmp.eq_swap
  refine ⟨fun a b => hswap a.sortKey b.sortKey, ?_, ?_⟩
  · intro a b c hab hbc
    have hle : (a.sortKey.compare c.sortKey).isLE = true :=
      TransCmp.isLE_trans (Ordering.ne_gt_iff_isLE.1 hab) (Ordering.ne_gt_iff_isLE.1 hbc)
    exact Ordering.ne_gt_iff_isLE.2 hle
  · intro a b ha hb hrank
    have ha' := isNull_eq_false_iff.2 ha
    have hb' := isNull_eq_false_iff.2 hb
    have htest : ∀ op : Operator, op.test (some a) b = op.accepts (a.compareWith b) := fun op =>
      op.holds_of_not_null ha' hb'
    rw [htest, htest, compareForSort_of_not_null ha' hb' hrank, Operator.accepts, Operator.accepts,
      beq_iff_eq, bne_iff_ne, compareWith]
    cases a.asNumber? <;> cases b.asNumber?
    case some.some x y =>
      exact ⟨Finite64.compareTotal_eq_lt_of_compareValue, Finite64.compareValue_ne_gt⟩
    all_goals exact ⟨id, fun h => h.trans_ne nofun⟩

/-- A numeric text is sorted among the numbers and before what is no number; minus zero is sorted
before the text of zero, though the operators do not tell them apart. -/
theorem compareForSort_mixed :
    (Value.int 2).compareForSort (.float .nan) ≠ .gt ∧
      (Value.text "9").compareForSort (.int 10) = .lt ∧
      Operator.le.test (some (.float (.zero true))) (.text "0") = true := by
  have htwo : (Value.int 2).compareForSort (.text "10") ≠ .gt := by decide +kernel
  have hten : (Value.text "10").compareForSort (.float .nan) ≠ .gt := by decide +kernel
  refine ⟨compareForSort_laws.2.1 _ _ _ htwo hten, ?_, ?_⟩
  · exact (compareForSort_laws.2.2 (.text "9") (.int 10) nofun nofun (by decide +kernel)).1
      (by decide +kernel)
  · exact (compareForSort_laws.2.2 (.float (.zero true)) (.text "0") nofun nofun
      (by decide +kernel)).2 (by decide +kernel)

end Value

end TieredStore
