import TieredStore.Binary64.Reader
import TieredStore.Binary64.Shortest

/-!
# Texts of binary64 numbers

A number is written with the digits of its shortest decimal.  A layout says where
positional notation ends and how the exponent form and the special numbers look;
the three layouts of this library are values of one type.
-/

namespace TieredStore

/-- How the digits of a number are arranged. -/
structure NumberLayout where
  /-- Which of two equally near shortest decimals is written. -/
  tie : Tie
  /-- The positions of the decimal point, counted from the first digit, for which
  the number is written without an exponent; `none` for all of them. -/
  positional : Option (Int × Int)
  /-- Whether a whole number ends in `.0`. -/
  pointZero : Bool
  /-- Whether a positive exponent carries a plus sign. -/
  exponentPlus : Bool

namespace NumberLayout

/-- Positional notation throughout, whole numbers without a point; a half goes
up. -/
def plain : NumberLayout := ⟨.up, none, false, false⟩

/-- The form inside debugging output: exponents from `1e16` on and below
`0.0001`. -/
def debug : NumberLayout := ⟨.up, some (-3, 16), true, false⟩

/-- The form inside JSON texts: exponents from `1e+16` on and below `0.00001`; a
half goes to the even digit. -/
def json : NumberLayout := ⟨.even, some (-4, 16), true, true⟩

/-- The digits with the point at position `point`. -/
def arrange (layout : NumberLayout) (digits : List Char) (point : Int) : List Char :=
  if point ≤ 0 then '0' :: '.' :: (List.replicate (-point).toNat '0' ++ digits)
  else if (digits.length : Int) ≤ point then
    digits ++ List.replicate (point - digits.length).toNat '0' ++
      (if layout.pointZero then ['.', '0'] else [])
  else digits.take point.toNat ++ '.' :: digits.drop point.toNat

/-- One digit before the point, the others behind it, and an exponent. -/
def withExponent (layout : NumberLayout) (digits : List Char) (point : Int) : List Char :=
  let mantissa := match digits with
    | first :: next :: others => first :: '.' :: next :: others
    | few => few
  let exponent := point - 1
  mantissa ++ 'e' :: (if layout.exponentPlus && 0 ≤ exponent then ['+'] else []) ++
    intDigits exponent

/-- The text of a decimal. -/
def ofDecimal (layout : NumberLayout) (d : Decimal) : List Char :=
  let digits := natDigits d.significand
  let point := digits.length + d.exponent
  let fits := match layout.positional with
    | none => true
    | some (first, last) => first ≤ point && point ≤ last
  if fits then layout.arrange digits point else layout.withExponent digits point

/-- The text of a finite number. -/
def ofFinite (layout : NumberLayout) (x : Finite64) : List Char :=
  (if x.negative then ['-'] else []) ++
    layout.ofDecimal (Decimal.ofMagnitude layout.tie x.magnitude.val)

/-- The text of a number. -/
def ofBinary64 (layout : NumberLayout) : Binary64 → List Char
  | .nan => "NaN".toList
  | .infinite negative => (if negative then ['-'] else []) ++ "inf".toList
  | .finite x => layout.ofFinite x

end NumberLayout

/-- The plain text of a number. -/
def Binary64.text (x : Binary64) : String := String.ofList (NumberLayout.plain.ofBinary64 x)

end TieredStore
