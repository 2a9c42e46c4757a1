import TieredStore.Binary64.Rounding

/-!
# Shortest decimals

The decimal with the fewest digits that is read back as a given number.  For one
digit, two digits and so on up to seventeen, only the two neighbours of the value
on that decimal grid are tried: if a point of the grid is read back, so is one of
them.  Of two neighbours the nearer one is taken; a rule decides an exact tie.

Main results:

- Theorem `Decimal.readsBack_of_firstOnGrid?`: the decimal chosen from the grids is
  nearest to the magnitude it was chosen for.
-/

namespace TieredStore

/-- Which of two equally near decimals is taken. -/
inductive Tie where
  | up
  /-- The one whose last digit is even. -/
  | even
  deriving DecidableEq

/-- The smallest exponent with `value < 10 ^ exponent`, for a positive magnitude. -/
def decimalPoint (magnitude : Nat) : Int :=
  (Nat.toDigits 10 (unitsOf magnitude * Nat.pow 10 400 / unitsPerOne)).length - 400

/-- Whether a decimal is read back as a magnitude. -/
def Decimal.readsBack (d : Decimal) (magnitude : Nat) : Bool :=
  nearestMagnitude d.numerator d.denominator == magnitude

/-- The two neighbours of a magnitude among the multiples of `10 ^ exponent`, the
preferred one first: the nearer one, and of two equally near ones what the rule
says. -/
def Decimal.neighbours (tie : Tie) (magnitude : Nat) (exponent : Int) : List Decimal :=
  let num := unitsOf magnitude * Nat.pow 10 (-exponent).toNat
  let den := unitsPerOne * Nat.pow 10 exponent.toNat
  let below := num / den
  let rest := num % den
  let low : Decimal := ⟨below, exponent⟩
  let high : Decimal := ⟨below + 1, exponent⟩
  if 2 * rest < den || (2 * rest == den && tie == .even && below % 2 == 0) then [low, high]
  else [high, low]

/-- The preferred neighbour on a grid that is read back. -/
def Decimal.onGrid? (tie : Tie) (magnitude : Nat) (exponent : Int) : Option Decimal :=
  (Decimal.neighbours tie magnitude exponent).find? fun d => d.readsBack magnitude

/-- The exact value of a magnitude. -/
def Decimal.exact (magnitude : Nat) : Decimal := ⟨unitsOf magnitude * Nat.pow 5 1074, -1074⟩

/-- Moves the zeros at the end of the significand into the exponent; `fuel` bounds
how many. -/
def Decimal.dropZeros : Nat → Decimal → Decimal
  | 0, d => d
  | fuel + 1, d =>
    if d.significand ≠ 0 ∧ d.significand % 10 = 0 then
      dropZeros fuel ⟨d.significand / 10, d.exponent + 1⟩
    else d

/-- The first decimal that is read back, by number of digits, before zeros are
dropped. -/
def Decimal.firstOnGrid? (tie : Tie) (magnitude : Nat) : Option Decimal :=
  let point := decimalPoint magnitude
  (List.range 17).findSome? fun (digits : Nat) =>
    Decimal.onGrid? tie magnitude (point - (digits + 1))

/-- The shortest decimal that is read back as a magnitude. -/
def Decimal.ofMagnitude (tie : Tie) (magnitude : Nat) : Decimal :=
  if magnitude = 0 then ⟨0, 0⟩
  else match Decimal.firstOnGrid? tie magnitude with
    | some d => d.dropZeros 20
    | none => (Decimal.exact magnitude).dropZeros 1100

/-- A neighbour is only taken if it is read back. -/
theorem Decimal.readsBack_of_onGrid? {tie : Tie} {magnitude : Nat} {exponent : Int} {d : Decimal}
    (h : Decimal.onGrid? tie magnitude exponent = some d) : d.readsBack magnitude = true := by
  unfold Decimal.onGrid? at h
  have found := List.find?_some h
  exact found

/-- The decimal chosen from the grids is nearest to the magnitude it was chosen
for. -/
theorem Decimal.readsBack_of_firstOnGrid? {tie : Tie} {magnitude : Nat} {d : Decimal}
    (h : Decimal.firstOnGrid? tie magnitude = some d) : d.readsBack magnitude = true := by
  obtain ⟨_, _, h⟩ := List.exists_of_findSome?_eq_some h
  exact readsBack_of_onGrid? h

end TieredStore
