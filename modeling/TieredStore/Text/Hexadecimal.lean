/-!
# Hexadecimal digits

Numbers in base sixteen, as escapes of several text formats write them; the letters
may be of either case.

Main results:

- Theorem `hexDigit?_lt`: a digit is below sixteen.
-/

namespace TieredStore

/-- The value of a hexadecimal digit. -/
def hexDigit? (c : Char) : Option Nat :=
  if c.isDigit then some (c.toNat - '0'.toNat)
  else if 'a' ≤ c ∧ c ≤ 'f' then some (c.toNat - 'a'.toNat + 10)
  else if 'A' ≤ c ∧ c ≤ 'F' then some (c.toNat - 'A'.toNat + 10)
  else none

/-- The number that a list of hexadecimal digits denotes; there is at least one. -/
def hexValue? (digits : List Char) : Option Nat :=
  if digits.isEmpty then none
  else digits.foldlM (fun value c => (hexDigit? c).map fun d => value * 16 + d) 0

/-- A digit is below sixteen. -/
theorem hexDigit?_lt {c : Char} {d : Nat} (h : hexDigit? c = some d) : d < 16 := by
  unfold hexDigit? at h
  split at h
  · next hdigit =>
    have := Char.isDigit_iff_toNat.1 hdigit
    have hd : c.toNat - '0'.toNat = d := Option.some.inj h
    have : '0'.toNat = 48 := rfl
    have : '9'.toNat = 57 := rfl
    omega
  · split at h
    · next hletter =>
      have hle : c.toNat ≤ 'f'.toNat := hletter.2
      have hd : c.toNat - 'a'.toNat + 10 = d := Option.some.inj h
      have : 'f'.toNat = 102 := rfl
      have : 'a'.toNat = 97 := rfl
      omega
    · split at h
      · next hletter =>
        have hle : c.toNat ≤ 'F'.toNat := hletter.2
        have hd : c.toNat - 'A'.toNat + 10 = d := Option.some.inj h
        have : 'F'.toNat = 70 := rfl
        have : 'A'.toNat = 65 := rfl
        omega
      · cases h

end TieredStore
