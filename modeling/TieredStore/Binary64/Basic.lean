/-!
# Binary64 numbers

The numbers of the 64-bit binary interchange format, without their arithmetic:
stores only compare, read and write them.  A finite number is a sign and one of
the magnitudes `0 … 0x7FEFFFFFFFFFFFFF`, numbered in ascending order; that number
is at once the bit pattern without the sign.  Every finite magnitude is a whole
multiple of the smallest positive one, and `units` counts how often it fits.
All not-a-numbers are one value.

Main results:

- Theorem `unitsOf_lt_iff`: magnitudes are numbered in the order of their values.
-/

namespace TieredStore

/-! ## The numbers -/

/-- A finite number: a sign and the position of its magnitude among all finite
magnitudes. -/
structure Finite64 where
  /-- Whether the sign is minus; zero has both signs. -/
  negative : Bool
  /-- The position of the magnitude, which is also its bit pattern. -/
  magnitude : Fin 0x7FF0000000000000
  deriving DecidableEq

/-- A number of the binary64 format. -/
inductive Binary64 where
  | nan
  | infinite (negative : Bool)
  | finite (number : Finite64)
  deriving DecidableEq

/-! ## Magnitudes -/

/-- How many of the smallest positive magnitude make one. -/
@[irreducible] def unitsPerOne : Nat := Nat.pow 2 1074

/-- There is a smallest positive magnitude. -/
theorem unitsPerOne_pos : 0 < unitsPerOne := by
  unfold unitsPerOne
  generalize 1074 = n
  exact Nat.two_pow_pos n

/-- A magnitude as a multiple of the smallest positive one.  The last fifty-two bits
of the position are the fraction, and the bits before them the exponent. -/
def unitsOf (magnitude : Nat) : Nat :=
  if magnitude < 0x10000000000000 then magnitude
  else (0x10000000000000 + magnitude % 0x10000000000000) *
    Nat.pow 2 (magnitude / 0x10000000000000 - 1)

/-- The magnitude of a finite number as a multiple of the smallest positive
one. -/
def Finite64.units (x : Finite64) : Nat := unitsOf x.magnitude.val

/-- Neighbouring magnitudes have different values. -/
theorem unitsOf_lt_succ (m : Nat) : unitsOf m < unitsOf (m + 1) := by
  unfold unitsOf
  by_cases h : m + 1 < 0x10000000000000
  · have h' : m < 0x10000000000000 := by omega
    rw [if_pos h, if_pos h']
    omega
  · rw [if_neg h]
    by_cases h' : m < 0x10000000000000
    · rw [if_pos h']
      have hm : m + 1 = 0x10000000000000 := by omega
      rw [hm]
      have hpos : 0 < Nat.pow 2 (0x10000000000000 / 0x10000000000000 - 1) := Nat.two_pow_pos _
      calc m < 0x10000000000000 := h'
        _ = 0x10000000000000 * 1 := by omega
        _ ≤ (0x10000000000000 + 0x10000000000000 % 0x10000000000000) *
              Nat.pow 2 (0x10000000000000 / 0x10000000000000 - 1) := by
          apply Nat.mul_le_mul
          · omega
          · exact hpos
    · rw [if_neg h']
      by_cases hlast : m % 0x10000000000000 = 0x10000000000000 - 1
      · have hdiv : (m + 1) / 0x10000000000000 = m / 0x10000000000000 + 1 := by omega
        have hmod : (m + 1) % 0x10000000000000 = 0 := by omega
        have hpow : Nat.pow 2 ((m + 1) / 0x10000000000000 - 1) =
            2 * Nat.pow 2 (m / 0x10000000000000 - 1) := by
          rw [hdiv,
            show m / 0x10000000000000 + 1 - 1 = (m / 0x10000000000000 - 1) + 1 by omega]
          exact (Nat.pow_succ 2 _).trans (Nat.mul_comm _ _)
        rw [hpow, hmod, hlast]
        have hpos : 0 < Nat.pow 2 (m / 0x10000000000000 - 1) := Nat.two_pow_pos _
        rw [← Nat.mul_assoc]
        exact Nat.mul_lt_mul_of_pos_right (by decide) hpos
      · have hdiv : (m + 1) / 0x10000000000000 = m / 0x10000000000000 := by omega
        have hmod : (m + 1) % 0x10000000000000 = m % 0x10000000000000 + 1 := by omega
        rw [hdiv, hmod]
        exact Nat.mul_lt_mul_of_pos_right (by omega) (Nat.two_pow_pos _)

/-- A larger position is a larger value. -/
theorem unitsOf_lt_of_lt {a b : Nat} (h : a < b) : unitsOf a < unitsOf b := by
  induction b with
  | zero => omega
  | succ b ih =>
    rcases Nat.lt_or_ge a b with hab | hab
    · exact Nat.lt_trans (ih hab) (unitsOf_lt_succ b)
    · have : a = b := by omega
      rw [this]
      exact unitsOf_lt_succ b

/-- Magnitudes are numbered in the order of their values. -/
theorem unitsOf_lt_iff {a b : Nat} : unitsOf a < unitsOf b ↔ a < b := by
  refine ⟨fun h => ?_, unitsOf_lt_of_lt⟩
  rcases Nat.lt_trichotomy a b with hab | hab | hab
  · exact hab
  · rw [hab] at h
    exact absurd h (Nat.lt_irrefl _)
  · exact absurd (Nat.lt_trans h (unitsOf_lt_of_lt hab)) (Nat.lt_irrefl _)

/-! ## Order -/

namespace Finite64

/-- The position of a number among all numbers, the two zeros sharing one. -/
def position (x : Finite64) : Int :=
  if x.negative then -(x.magnitude.val : Int) else x.magnitude.val

/-- The position of a number among all numbers, minus zero before zero. -/
def totalPosition (x : Finite64) : Int :=
  if x.negative then -(x.magnitude.val : Int) - 1 else x.magnitude.val

/-- Comparison by value. -/
def compareValue (a b : Finite64) : Ordering := compare a.position b.position

/-- Comparison by value that tells minus zero from zero. -/
def compareTotal (a b : Finite64) : Ordering := compare a.totalPosition b.totalPosition

/-- The total position determines the number. -/
theorem eq_of_totalPosition_eq {a b : Finite64} (h : a.totalPosition = b.totalPosition) :
    a = b := by
  obtain ⟨sa, ma⟩ := a
  obtain ⟨sb, mb⟩ := b
  unfold totalPosition at h
  cases sa <;> cases sb <;> simp only [Bool.false_eq_true, if_true, if_false] at h
  · have same : ma = mb := Fin.ext (by omega)
    rw [same]
  · omega
  · omega
  · have same : ma = mb := Fin.ext (by omega)
    rw [same]

/-- A number before another in value is before it in the total order. -/
theorem compareTotal_eq_lt_of_compareValue {a b : Finite64} (h : a.compareValue b = .lt) :
    a.compareTotal b = .lt := by
  obtain ⟨sa, ma⟩ := a
  obtain ⟨sb, mb⟩ := b
  unfold compareValue position at h
  unfold compareTotal totalPosition
  rw [Int.compare_eq_lt] at h ⊢
  cases sa <;> cases sb <;> simp only [Bool.false_eq_true, if_true, if_false] at h ⊢
  · exact h
  · omega
  · omega
  · omega

end Finite64

/-- Equality of values: no number equals nothing, not even itself, and the two
zeros are equal. -/
def Binary64.equals : Binary64 → Binary64 → Bool
  | .finite a, .finite b => a.position == b.position
  | .infinite a, .infinite b => a == b
  | _, _ => false

end TieredStore
