import TieredStore.Binary64.Layout

/-!
# Numbers in JSON texts

A number is first kept as it is written and evaluated when somebody asks for it.
Without fraction and exponent it denotes an integer as long as it fits the 64-bit
ranges.  Otherwise its leading digits, as far as they fit 64 unsigned bits, are
taken as a binary64 number and scaled by one power of ten, so the value is rounded
once for the digits and once for the power.  A value beyond the finite numbers
does not count as a number.

Main results:

- Theorem `NumberLiteral.exists_scaled_eq`: a scaled number is no integer.
-/

namespace TieredStore

/-- A number as it is written. -/
structure NumberLiteral where
  /-- Whether it starts with a minus sign. -/
  negative : Bool
  whole : List Char
  /-- The digits after the point; none without a point. -/
  fraction : List Char
  exponent : Option Int
  deriving DecidableEq

/-- What a written number denotes. -/
inductive JsonNumber where
  /-- An integer in the range of 64 signed or unsigned bits. -/
  | integer (i : Int)
  | float (x : Binary64)
  deriving DecidableEq

namespace NumberLiteral

/-- The first number beyond 64 unsigned bits. -/
def wordLimit : Nat := 0x10000000000000000

/-- The leading digits of the whole part that fit 64 bits, as a number, and the
count of the digits after them. -/
def leading : Nat → List Char → Nat × Nat
  | significand, [] => (significand, 0)
  | significand, c :: rest =>
    let next := 10 * significand + (c.toNat - '0'.toNat)
    if next < wordLimit then leading next rest else (significand, rest.length + 1)

/-- The significand continued by digits of the fraction as long as it fits 64
bits, and the count of the digits taken. -/
def continued : Nat → Nat → List Char → Nat × Nat
  | significand, taken, [] => (significand, taken)
  | significand, taken, c :: rest =>
    let next := 10 * significand + (c.toNat - '0'.toNat)
    if next < wordLimit then continued next (taken + 1) rest else (significand, taken)

/-- The binary64 number nearest to `10 ^ exponent`. -/
def powerOfTen (exponent : Nat) : Binary64 := .ofDecimal false ⟨1, exponent⟩

/-- The rounded product of two finite numbers, with the sign of the first. -/
def times : Finite64 → Binary64 → Binary64
  | x, .finite y => .ofRatio x.negative (x.units * y.units) (unitsPerOne * unitsPerOne)
  | x, _ => .infinite x.negative

/-- The rounded quotient of two finite numbers, with the sign of the first. -/
def dividedBy : Finite64 → Binary64 → Binary64
  | x, .finite y => .ofRatio x.negative x.units y.units
  | x, _ => .zero x.negative

/-- A number scaled by a power of ten in steps of at most `10 ^ 308`; none if the
result is infinite.  After `steps` steps nothing is left of the number. -/
def scale : Nat → Finite64 → Int → Option Binary64
  | 0, x, _ => some (.finite x)
  | steps + 1, x, exponent =>
    if exponent.natAbs ≤ 308 then
      if 0 ≤ exponent then
        match times x (powerOfTen exponent.natAbs) with
        | .finite y => some (.finite y)
        | _ => none
      else some (dividedBy x (powerOfTen exponent.natAbs))
    else if x.magnitude.val = 0 then some (.finite x)
    else if 0 ≤ exponent then none
    else match dividedBy x (powerOfTen 308) with
      | .finite y => scale steps y (exponent + 308)
      | _ => none

/-- The value of a number with a sign, leading digits and a power of ten. -/
def scaled (negative : Bool) (significand : Nat) (exponent : Int) : Option JsonNumber :=
  let value := match Binary64.ofRatio negative significand 1 with
    | .finite x => scale 4 x exponent
    | _ => none
  value.map .float

/-- A scaled number is no integer. -/
theorem exists_scaled_eq (negative : Bool) (significand : Nat) (exponent : Int) :
    ∃ value : Option Binary64, scaled negative significand exponent = value.map .float :=
  ⟨_, rfl⟩

/-- What a written number denotes; none if it is beyond the finite numbers. -/
def evaluate (literal : NumberLiteral) : Option JsonNumber :=
  match leading 0 literal.whole with
  | (significand, dropped) =>
    if literal.fraction.isEmpty && literal.exponent.isNone && dropped = 0 then
      if !literal.negative then some (.integer significand)
      else if 0 < significand && significand ≤ 0x8000000000000000 then
        some (.integer (-(significand : Int)))
      else some (.float (.ofRatio true significand 1))
    else
      match continued significand 0 literal.fraction with
      | (digits, taken) =>
        scaled literal.negative digits (dropped - taken + literal.exponent.getD 0)

end NumberLiteral

end TieredStore
