import TieredStore.Binary64.Rounding
import TieredStore.Text.Decimal

/-!
# Reading binary64 numbers

The texts that denote a number: an optional sign, then `inf`, `infinity` or `nan`
in any letter case, or decimal digits with an optional point and an optional
exponent.  There is at least one digit before or after the point, and at least
one digit in an exponent.  The value is the number nearest to the decimal.
-/

namespace TieredStore

/-- Splits off a sign; the first component tells whether it is a minus. -/
def splitSign : List Char → Bool × List Char
  | '-' :: rest => (true, rest)
  | '+' :: rest => (false, rest)
  | rest => (false, rest)

/-- Reads what follows the digits: nothing, or an exponent to the end. -/
def readExponent? : List Char → Option Int
  | [] => some 0
  | 'e' :: rest => readInt? rest
  | 'E' :: rest => readInt? rest
  | _ :: _ => none

/-- Splits the digits after a point from the rest; without a point there are
none. -/
def splitFraction : List Char → List Char × List Char
  | '.' :: rest => (rest.takeWhile Char.isDigit, rest.dropWhile Char.isDigit)
  | rest => ([], rest)

/-- Reads an unsigned decimal number with optional point and exponent. -/
def readDecimal? (cs : List Char) : Option Decimal :=
  let whole := cs.takeWhile Char.isDigit
  let (fraction, rest) := splitFraction (cs.dropWhile Char.isDigit)
  if whole.isEmpty && fraction.isEmpty then none
  else (readExponent? rest).map fun exponent =>
    ⟨digitsValue (whole ++ fraction), exponent - fraction.length⟩

/-- Reads a number to the end of the text. -/
def Binary64.read? (cs : List Char) : Option Binary64 :=
  let (negative, body) := splitSign cs
  let name := body.map Char.toLower
  if name = "inf".toList || name = "infinity".toList then some (.infinite negative)
  else if name = "nan".toList then some .nan
  else (readDecimal? body).map (Binary64.ofDecimal negative)

end TieredStore
