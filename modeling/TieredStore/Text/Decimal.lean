/-!
# Whole numbers as decimal text

Writing and reading of whole numbers.  A number is written with the fewest
digits and a minus sign where it is negative; a reader accepts a sign of either
kind, leading zeros, and nothing else around the digits.

Main results:

- Theorem `readNat?_natDigits`: a written number is read back.
- Theorem `readInt64?_int64Digits`: every 64-bit integer is read back from its
  text.
-/

namespace TieredStore

/-! ## Natural numbers -/

/-- The decimal digits of a number, most significant first. -/
def natDigits (n : Nat) : List Char := Nat.toDigits 10 n

/-- The number that a list of decimal digits denotes. -/
def digitsValue (digits : List Char) : Nat := Nat.ofDigitChars 10 digits 0

/-- Reads one or more decimal digits. -/
def readNat? (cs : List Char) : Option Nat :=
  if !cs.isEmpty && cs.all Char.isDigit then some (digitsValue cs) else none

/-- Written digits denote the number. -/
@[simp] theorem digitsValue_natDigits (n : Nat) : digitsValue (natDigits n) = n :=
  Nat.ofDigitChars_toDigits (by decide) (by decide)

/-- A number has at least one digit. -/
theorem natDigits_ne_nil (n : Nat) : natDigits n ≠ [] := Nat.toDigits_ne_nil

/-- A number is written with digits only. -/
theorem isDigit_of_mem_natDigits {n : Nat} {c : Char} (h : c ∈ natDigits n) : c.isDigit = true :=
  Nat.isDigit_of_mem_toDigits (by decide) (by decide) h

/-- A written number is read back. -/
@[simp] theorem readNat?_natDigits (n : Nat) : readNat? (natDigits n) = some n := by
  have hall : (natDigits n).all Char.isDigit = true :=
    List.all_eq_true.2 fun c hc => isDigit_of_mem_natDigits hc
  simp [readNat?, hall, natDigits_ne_nil]

/-! ## Integers -/

/-- The text of an integer. -/
def intDigits (i : Int) : List Char :=
  if i < 0 then '-' :: natDigits i.natAbs else natDigits i.natAbs

/-- Reads an integer with an optional sign. -/
def readInt? : List Char → Option Int
  | '-' :: rest => (readNat? rest).map fun n => -Int.ofNat n
  | '+' :: rest => (readNat? rest).map Int.ofNat
  | rest => (readNat? rest).map Int.ofNat

/-- A written integer is read back. -/
theorem readInt?_intDigits (i : Int) : readInt? (intDigits i) = some i := by
  unfold intDigits
  split
  · rename_i h
    have hi : -((i.natAbs : Nat) : Int) = i := by omega
    rw [readInt?, readNat?_natDigits, Option.map_some]
    exact congrArg some hi
  · rename_i h
    have hread := readNat?_natDigits i.natAbs
    have hdigit : ∀ c ∈ natDigits i.natAbs, c.isDigit = true := fun c hc =>
      isDigit_of_mem_natDigits hc
    unfold readInt?
    split
    · rename_i rest heq
      have := hdigit '-' (by rw [heq]; exact List.mem_cons_self)
      exact absurd this (by decide)
    · rename_i rest heq
      have := hdigit '+' (by rw [heq]; exact List.mem_cons_self)
      exact absurd this (by decide)
    · have hi : ((i.natAbs : Nat) : Int) = i := by omega
      rw [hread, Option.map_some]
      exact congrArg some hi

/-! ## 64-bit integers -/

/-- The text of a 64-bit integer. -/
def int64Digits (i : Int64) : List Char := intDigits i.toInt

/-- The integer as a 64-bit word, if it fits. -/
def int64? (i : Int) : Option Int64 :=
  if -0x8000000000000000 ≤ i ∧ i < 0x8000000000000000 then some (Int64.ofInt i) else none

/-- Reads an integer that fits 64 bits. -/
def readInt64? (cs : List Char) : Option Int64 := (readInt? cs).bind int64?

/-- Every word is the word of its value. -/
@[simp] theorem int64?_toInt (i : Int64) : int64? i.toInt = some i := by
  have hfits : -0x8000000000000000 ≤ i.toInt ∧ i.toInt < 0x8000000000000000 :=
    ⟨Int64.le_toInt i, Int64.toInt_lt i⟩
  rw [int64?, if_pos hfits, Int64.ofInt_toInt]

/-- Every 64-bit integer is read back from its text. -/
theorem readInt64?_int64Digits (i : Int64) : readInt64? (int64Digits i) = some i := by
  simp [readInt64?, int64Digits, readInt?_intDigits]

end TieredStore
