import TieredStore.Binary64.Basic

/-!
# Rounding to binary64

The number nearest to an exact ratio of two naturals.  A ratio halfway between
two numbers goes to the one with the even pattern, and a ratio beyond the largest
finite number by half a step or more becomes infinite.

Main results:

- Theorem `roundHalfEven_mul_right`: a common factor does not change a quotient.
- Theorem `nearestMagnitude_mul`: nor does it change the nearest magnitude.
-/

namespace TieredStore

/-! ## Quotients -/

/-- The natural number nearest to `num / den`, a half going to the even
neighbour. -/
def roundHalfEven (num den : Nat) : Nat :=
  let quotient := num / den
  let rest := num % den
  if 2 * rest < den then quotient
  else if den < 2 * rest then quotient + 1
  else if quotient % 2 = 0 then quotient
  else quotient + 1

/-- A common factor does not change a rounded quotient. -/
theorem roundHalfEven_mul_right (num den : Nat) {factor : Nat} (h : 0 < factor) :
    roundHalfEven (num * factor) (den * factor) = roundHalfEven num den := by
  have hdiv : num * factor / (den * factor) = num / den :=
    Nat.mul_div_mul_right num den h
  have hmod : num * factor % (den * factor) = num % den * factor :=
    Nat.mul_mod_mul_right factor num den
  have hlt : ∀ a b : Nat, a * factor < b * factor ↔ a < b := fun a b =>
    Nat.mul_lt_mul_right h
  have hassoc : ∀ a : Nat, 2 * (a * factor) = 2 * a * factor := fun a => by
    rw [Nat.mul_assoc]
  simp only [roundHalfEven, hdiv, hmod, hassoc, hlt]

/-- A whole quotient is exact. -/
theorem roundHalfEven_mul_self (n : Nat) {den : Nat} (h : 0 < den) :
    roundHalfEven (n * den) den = n := by
  have hdiv : n * den / den = n := Nat.mul_div_cancel n h
  have hmod : n * den % den = 0 := Nat.mul_mod_left n den
  simp [roundHalfEven, hdiv, hmod, h]

/-! ## Magnitudes -/

/-- The position of the magnitude nearest to `num / den`, counted on beyond the
finite magnitudes. -/
def nearestMagnitude (num den : Nat) : Nat :=
  let scaled := num * unitsPerOne
  let shift := (scaled / den).log2 - 52
  shift * 0x10000000000000 + roundHalfEven scaled (den * Nat.pow 2 shift)

/-- Only the ratio counts. -/
theorem nearestMagnitude_mul (num den : Nat) {factor : Nat} (h : 0 < factor) :
    nearestMagnitude (num * factor) (den * factor) = nearestMagnitude num den := by
  have hscaled : num * factor * unitsPerOne = num * unitsPerOne * factor := Nat.mul_right_comm _ _ _
  have hdiv : num * unitsPerOne * factor / (den * factor) = num * unitsPerOne / den :=
    Nat.mul_div_mul_right _ _ h
  simp only [nearestMagnitude, hscaled, hdiv]
  rw [Nat.mul_right_comm den factor, roundHalfEven_mul_right _ _ h]

/-- The number nearest to `num / den`. -/
def Binary64.ofRatio (negative : Bool) (num den : Nat) : Binary64 :=
  let magnitude := nearestMagnitude num den
  if h : magnitude < 0x7FF0000000000000 then .finite ⟨negative, ⟨magnitude, h⟩⟩
  else .infinite negative

/-- Zero of either sign. -/
def Binary64.zero (negative : Bool) : Binary64 := .finite ⟨negative, ⟨0, by decide⟩⟩

/-- The number nearest to an integer. -/
def Binary64.ofInt (i : Int) : Binary64 := .ofRatio (i < 0) i.natAbs 1

/-! ## Decimal numbers -/

/-- A decimal number `significand · 10 ^ exponent`. -/
structure Decimal where
  significand : Nat
  /-- The power of ten they are multiplied by. -/
  exponent : Int
  deriving DecidableEq

/-- The numerator of a decimal number written as a ratio. -/
def Decimal.numerator (d : Decimal) : Nat := d.significand * Nat.pow 10 d.exponent.toNat

/-- The denominator of a decimal number written as a ratio. -/
def Decimal.denominator (d : Decimal) : Nat := Nat.pow 10 (-d.exponent).toNat

/-- The number nearest to a decimal number.  A value of at least `10 ^ 309` is
beyond the largest number and one below `10 ^ -324` nearer to zero than to the
smallest one, so the powers of ten that are computed stay small. -/
def Binary64.ofDecimal (negative : Bool) (d : Decimal) : Binary64 :=
  let size := (Nat.toDigits 10 d.significand).length
  if d.significand = 0 then .zero negative
  else if 310 < size + d.exponent then .infinite negative
  else if size + d.exponent < -324 then .zero negative
  else .ofRatio negative d.numerator d.denominator

end TieredStore
