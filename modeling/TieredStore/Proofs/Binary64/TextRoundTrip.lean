import Mathlib.Algebra.Group.Nat.Defs
import Mathlib.Data.List.TakeWhile
import TieredStore.Binary64.Layout

/-!
# Numbers read back from their texts

The plain text of a binary64 number is read back as that number.  The argument has
three parts: the decimal that is chosen for a magnitude is nearest to it, laying its
digits out keeps its value, and the shortcuts of the reader for very large and very
small decimals give the number that is nearest.

Main results:

- Theorem `Decimal.readsBack_ofMagnitude`: the decimal chosen for a magnitude is
  nearest to it.
- Theorem `NumberLayout.readDecimal?_plain`: a plain text denotes the decimal that it
  was laid out for.
- Theorem `Binary64.ofDecimal_eq_ofRatio`: the shortcuts of the reader change nothing.
- Theorem `Binary64.read?_text`: every number is read back from its text.
-/

namespace TieredStore

/-! ## Magnitudes are nearest to themselves -/

/-- The positive exponents of two in a magnitude are those of its value. -/
theorem log2_unitsOf_of_normal {m : Nat} (h : 0x10000000000000 ≤ m) :
    (unitsOf m).log2 - 52 = m / 0x10000000000000 - 1 := by
  have hsmall : ¬m < 0x10000000000000 := by omega
  rw [unitsOf, if_neg hsmall]
  generalize hk : m / 0x10000000000000 - 1 = k
  generalize hr : m % 0x10000000000000 = r
  have hr' : r < 0x10000000000000 := by omega
  have hpos : 0 < 2 ^ k := Nat.two_pow_pos k
  have hne : (0x10000000000000 + r) * 2 ^ k ≠ 0 := by
    have : 0 < (0x10000000000000 + r) * 2 ^ k := Nat.mul_pos (by omega) hpos
    omega
  have hlog : ((0x10000000000000 + r) * 2 ^ k).log2 = 52 + k := by
    rw [Nat.log2_eq_iff hne]
    constructor
    · rw [Nat.pow_add]
      exact Nat.mul_le_mul_right _ (by omega)
    · rw [show 52 + k + 1 = 53 + k by omega, Nat.pow_add]
      exact Nat.mul_lt_mul_of_pos_right (by omega) hpos
  show ((0x10000000000000 + r) * 2 ^ k).log2 - 52 = k
  omega

/-- A magnitude is the one nearest to its value. -/
theorem nearestMagnitude_unitsOf (m : Nat) : nearestMagnitude (unitsOf m) unitsPerOne = m := by
  have hpos := unitsPerOne_pos
  have hdiv : unitsOf m * unitsPerOne / unitsPerOne = unitsOf m := Nat.mul_div_cancel _ hpos
  simp only [nearestMagnitude, hdiv]
  by_cases h : m < 0x10000000000000
  · have hunits : unitsOf m = m := by rw [unitsOf, if_pos h]
    have hshift : m.log2 - 52 = 0 := by
      by_cases hzero : m = 0
      · simp [hzero]
      · have hlog : m.log2 < 52 := (Nat.log2_lt hzero).2 (by omega)
        omega
    rw [hunits, hshift]
    show 0 * 0x10000000000000 + roundHalfEven (m * unitsPerOne) (unitsPerOne * 1) = m
    rw [Nat.mul_one, roundHalfEven_mul_self m hpos, Nat.zero_mul, Nat.zero_add]
  · rw [log2_unitsOf_of_normal (by omega), unitsOf, if_neg h]
    generalize hk : m / 0x10000000000000 - 1 = k
    have hden : 0 < unitsPerOne * Nat.pow 2 k := Nat.mul_pos hpos (Nat.two_pow_pos k)
    rw [Nat.mul_assoc _ (Nat.pow 2 k) unitsPerOne, Nat.mul_comm (Nat.pow 2 k) unitsPerOne,
      roundHalfEven_mul_self _ hden]
    omega

/-! ## Magnitudes of very large and very small ratios -/

/-- The value zero is nearest to nothing else. -/
theorem nearestMagnitude_zero (den : Nat) : nearestMagnitude 0 den = 0 := by
  simp [nearestMagnitude, roundHalfEven]

/-- A ratio of at least `10 ^ 310` is beyond the finite magnitudes. -/
theorem le_nearestMagnitude_of_huge {num den places : Nat} (hden : 0 < den)
    (hplaces : 310 ≤ places) (h : 10 ^ places * den ≤ num) :
    0x7FF0000000000000 ≤ nearestMagnitude num den := by
  have hbig : 2 ^ 2100 ≤ 10 ^ 310 * unitsPerOne := by
    unfold unitsPerOne
    decide +kernel
  have hmono : ∀ least, least ≤ places → 10 ^ least ≤ 10 ^ places :=
    fun least h => Nat.pow_le_pow_right (by decide) h
  have hpow := hmono 310 hplaces
  generalize 10 ^ 310 = least at hbig hpow
  generalize hbits : 2100 = bits at hbig
  have hquot : 2 ^ bits ≤ num * unitsPerOne / den := by
    rw [Nat.le_div_iff_mul_le hden]
    calc 2 ^ bits * den ≤ least * unitsPerOne * den := Nat.mul_le_mul_right _ hbig
      _ = least * den * unitsPerOne := Nat.mul_right_comm _ _ _
      _ ≤ 10 ^ places * den * unitsPerOne :=
        Nat.mul_le_mul_right _ (Nat.mul_le_mul_right _ hpow)
      _ ≤ num * unitsPerOne := Nat.mul_le_mul_right _ h
  have hne : num * unitsPerOne / den ≠ 0 := by
    intro hzero
    rw [hzero] at hquot
    exact absurd hquot (Nat.not_le.2 (Nat.two_pow_pos bits))
  have hlog : bits ≤ (num * unitsPerOne / den).log2 := (Nat.le_log2 hne).2 hquot
  simp only [nearestMagnitude]
  omega

/-- A ratio below `10 ^ (-324)` is nearest to zero. -/
theorem nearestMagnitude_of_tiny {num den : Nat} (h : num * 10 ^ 324 < den) :
    nearestMagnitude num den = 0 := by
  have hsmall : 2 * unitsPerOne < 10 ^ 324 := by
    unfold unitsPerOne
    decide +kernel
  have hhalf : 2 * (num * unitsPerOne) < den := by
    calc 2 * (num * unitsPerOne) = num * (2 * unitsPerOne) := by
          rw [Nat.mul_left_comm]
      _ ≤ num * 10 ^ 324 := Nat.mul_le_mul_left _ (Nat.le_of_lt hsmall)
      _ < den := h
  have hquot : num * unitsPerOne / den = 0 := Nat.div_eq_of_lt (by omega)
  have hrest : num * unitsPerOne % den = num * unitsPerOne := Nat.mod_eq_of_lt (by omega)
  simp only [nearestMagnitude, hquot]
  show 0 * 0x10000000000000 + roundHalfEven (num * unitsPerOne) (den * 1) = 0
  simp only [Nat.mul_one, roundHalfEven, hrest, hquot, if_pos hhalf, Nat.zero_mul, Nat.add_zero]

/-! ## The chosen decimal is nearest to its magnitude -/

namespace Decimal

/-- Dropping zeros keeps the magnitude that a decimal is nearest to. -/
theorem readsBack_dropZeros (fuel : Nat) {d : Decimal} {magnitude : Nat}
    (h : d.readsBack magnitude = true) : (d.dropZeros fuel).readsBack magnitude = true := by
  induction fuel generalizing d with
  | zero => exact h
  | succ fuel ih =>
    unfold dropZeros
    split
    · rename_i hzero
      apply ih
      have htens : d.significand / 10 * 10 = d.significand := by omega
      rw [readsBack, beq_iff_eq] at h ⊢
      rw [← h]
      by_cases hexp : 0 ≤ d.exponent
      · have hnat : (d.exponent + 1).toNat = d.exponent.toNat + 1 := by omega
        have hneg : (-(d.exponent + 1)).toNat = (-d.exponent).toNat := by omega
        have hnum : d.significand / 10 * 10 ^ (d.exponent + 1).toNat =
            d.significand * 10 ^ d.exponent.toNat := by
          rw [hnat, Nat.pow_succ, Nat.mul_comm (10 ^ _) 10, ← Nat.mul_assoc, htens]
        show nearestMagnitude (d.significand / 10 * 10 ^ (d.exponent + 1).toNat)
          (10 ^ (-(d.exponent + 1)).toNat) = nearestMagnitude d.numerator d.denominator
        rw [hnum, hneg]
        rfl
      · have hnat : (d.exponent + 1).toNat = 0 := by omega
        have hnat' : d.exponent.toNat = 0 := by omega
        have hneg : (-d.exponent).toNat = (-(d.exponent + 1)).toNat + 1 := by omega
        have hnum : d.numerator = d.significand / 10 * 10 ^ (d.exponent + 1).toNat * 10 := by
          show d.significand * 10 ^ d.exponent.toNat = _
          rw [hnat, hnat', Nat.pow_zero, Nat.mul_one, Nat.mul_one, htens]
        have hden : d.denominator = 10 ^ (-(d.exponent + 1)).toNat * 10 := by
          show 10 ^ (-d.exponent).toNat = _
          rw [hneg, Nat.pow_succ]
        rw [hnum, hden]
        exact (nearestMagnitude_mul _ _ (by decide)).symm
    · exact h

/-- A magnitude is nearest to the decimal that counts its units in powers of ten. -/
theorem readsBack_units (magnitude : Nat) {places : Nat} (h : unitsPerOne = Nat.pow 2 places) :
    (Decimal.mk (unitsOf magnitude * Nat.pow 5 places) (-places)).readsBack magnitude = true := by
  have hten : Nat.pow 10 places = unitsPerOne * Nat.pow 5 places := by
    rw [h]
    exact Nat.mul_pow 2 5 places
  have hpos : 0 < Nat.pow 5 places := Nat.pow_pos (by decide)
  have hnum : (-(places : Int)).toNat = 0 := by omega
  have hden : (-(-(places : Int))).toNat = places := by omega
  rw [readsBack, beq_iff_eq, numerator, denominator, hnum, hden, hten]
  show nearestMagnitude (unitsOf magnitude * Nat.pow 5 places * 1) _ = magnitude
  rw [Nat.mul_one, nearestMagnitude_mul _ _ hpos, nearestMagnitude_unitsOf]

/-- The exact value of a magnitude is nearest to it. -/
theorem readsBack_exact (magnitude : Nat) : (exact magnitude).readsBack magnitude = true := by
  -- the number of places stays a variable, so that no power of it is computed
  have hplaces : ∃ places, places = 1074 ∧ unitsPerOne = Nat.pow 2 places := by
    unfold unitsPerOne
    generalize 1074 = places
    exact ⟨places, rfl, rfl⟩
  obtain ⟨places, hplaces, hunits⟩ := hplaces
  have hexact := readsBack_units magnitude hunits
  rw [hplaces] at hexact
  exact hexact

/-- The decimal chosen for a magnitude is nearest to it. -/
theorem readsBack_ofMagnitude (tie : Tie) (magnitude : Nat) :
    (ofMagnitude tie magnitude).readsBack magnitude = true := by
  unfold ofMagnitude
  split
  · rename_i hzero
    rw [readsBack, beq_iff_eq, hzero]
    exact nearestMagnitude_zero _
  · cases hfirst : firstOnGrid? tie magnitude with
    | some d => exact readsBack_dropZeros 20 (readsBack_of_firstOnGrid? hfirst)
    | none => exact readsBack_dropZeros 1100 (readsBack_exact magnitude)

end Decimal

/-! ## Laying digits out keeps the decimal -/

/-- Leading zeros do not change what digits denote. -/
theorem digitsValue_replicate_append (n : Nat) (digits : List Char) :
    digitsValue (List.replicate n '0' ++ digits) = digitsValue digits := by
  simp [digitsValue, Nat.ofDigitChars_append]

/-- Zeros behind digits multiply what they denote. -/
theorem digitsValue_append_replicate (n : Nat) (digits : List Char) :
    digitsValue (digits ++ List.replicate n '0') = digitsValue digits * 10 ^ n := by
  simp [digitsValue, Nat.ofDigitChars_append, Nat.mul_comm]

/-- The decimal with no positive exponent that has the same value. -/
def Decimal.settled (d : Decimal) : Decimal :=
  if 0 ≤ d.exponent then ⟨d.significand * 10 ^ d.exponent.toNat, 0⟩ else d

/-- Settling a decimal keeps its value. -/
theorem Decimal.readsBack_settled {d : Decimal} {magnitude : Nat}
    (h : d.readsBack magnitude = true) : d.settled.readsBack magnitude = true := by
  unfold settled
  split
  · rename_i hexp
    have hneg : (-d.exponent).toNat = 0 := by omega
    rw [readsBack, beq_iff_eq] at h ⊢
    rw [← h, numerator, numerator, denominator, denominator, hneg]
    show nearestMagnitude (d.significand * 10 ^ d.exponent.toNat * 1) 1 = _
    rw [Nat.mul_one]
    rfl
  · exact h

namespace NumberLayout

/-- Digits without a point denote a whole number. -/
theorem readDecimal?_digits {digits : List Char} (hne : digits ≠ [])
    (hdigits : ∀ c ∈ digits, c.isDigit = true) :
    readDecimal? digits = some ⟨digitsValue digits, 0⟩ := by
  have htake : digits.takeWhile Char.isDigit = digits := List.takeWhile_eq_self_iff.2 hdigits
  have hdrop : digits.dropWhile Char.isDigit = [] := List.dropWhile_eq_nil_iff.2 hdigits
  simp [readDecimal?, htake, hdrop, splitFraction, readExponent?, hne]

/-- Digits around a point denote what they denote without it, moved behind the point. -/
theorem readDecimal?_point {whole fraction : List Char} (hne : whole ≠ [])
    (hwhole : ∀ c ∈ whole, c.isDigit = true)
    (hfraction : ∀ c ∈ fraction, c.isDigit = true) :
    readDecimal? (whole ++ '.' :: fraction) =
      some ⟨digitsValue (whole ++ fraction), -fraction.length⟩ := by
  have hpoint : ('.' :: fraction).takeWhile Char.isDigit = [] := rfl
  have htake : (whole ++ '.' :: fraction).takeWhile Char.isDigit = whole := by
    rw [List.takeWhile_append_of_pos hwhole, hpoint, List.append_nil]
  have hdrop : (whole ++ '.' :: fraction).dropWhile Char.isDigit = '.' :: fraction := by
    rw [List.dropWhile_append_of_pos hwhole]
    rfl
  have hrest : fraction.takeWhile Char.isDigit = fraction := List.takeWhile_eq_self_iff.2 hfraction
  have hend : fraction.dropWhile Char.isDigit = [] := List.dropWhile_eq_nil_iff.2 hfraction
  simp [readDecimal?, htake, hdrop, splitFraction, hrest, hend, readExponent?, hne]

theorem isDigit_of_mem_zeros (n : Nat) : ∀ c ∈ List.replicate n '0', c.isDigit = true := by
  intro c hc
  rw [List.eq_of_mem_replicate hc]
  decide

/-- Zeros between the point and the digits only move the digits. -/
theorem readDecimal?_point_zeros {digits : List Char}
    (hdigits : ∀ c ∈ digits, c.isDigit = true) (n : Nat) :
    readDecimal? ('0' :: '.' :: (List.replicate n '0' ++ digits)) =
      some ⟨digitsValue digits, -(n + digits.length : Nat)⟩ := by
  have hall : ∀ c ∈ List.replicate n '0' ++ digits, c.isDigit = true :=
    List.forall_mem_append.2 ⟨isDigit_of_mem_zeros n, hdigits⟩
  have hread := readDecimal?_point (List.cons_ne_nil '0' []) (isDigit_of_mem_zeros 1) hall
  have hvalue : digitsValue (['0'] ++ (List.replicate n '0' ++ digits)) = digitsValue digits :=
    (digitsValue_replicate_append 1 _).trans (digitsValue_replicate_append n digits)
  rw [hvalue, List.length_append, List.length_replicate] at hread
  exact hread

/-- Zeros behind the digits denote a multiple. -/
theorem readDecimal?_digits_zeros {digits : List Char} (hne : digits ≠ [])
    (hdigits : ∀ c ∈ digits, c.isDigit = true) (n : Nat) :
    readDecimal? (digits ++ List.replicate n '0') = some ⟨digitsValue digits * 10 ^ n, 0⟩ := by
  have hall : ∀ c ∈ digits ++ List.replicate n '0', c.isDigit = true :=
    List.forall_mem_append.2 ⟨hdigits, isDigit_of_mem_zeros n⟩
  rw [readDecimal?_digits (List.append_ne_nil_of_left_ne_nil hne _) hall,
    digitsValue_append_replicate]

/-- A point between the digits counts the digits behind it. -/
theorem readDecimal?_digits_point {digits : List Char} (hne : digits ≠ [])
    (hdigits : ∀ c ∈ digits, c.isDigit = true) {n : Nat} (hpos : 0 < n) :
    readDecimal? (digits.take n ++ '.' :: digits.drop n) =
      some ⟨digitsValue digits, -(digits.length - n : Nat)⟩ := by
  have hwhole : digits.take n ≠ [] := by
    intro hnil
    rcases List.take_eq_nil_iff.1 hnil with hzero | hzero
    · omega
    · exact hne hzero
  have hfraction : ∀ c ∈ digits.drop n, c.isDigit = true := fun c hc =>
    hdigits c (List.mem_of_mem_drop hc)
  have hread := readDecimal?_point hwhole
    (fun c hc => hdigits c (List.mem_of_mem_take hc)) hfraction
  rw [List.take_append_drop, List.length_drop] at hread
  exact hread

/-- A plain text denotes the decimal that it was laid out for. -/
theorem readDecimal?_plain (d : Decimal) : readDecimal? (plain.ofDecimal d) = some d.settled := by
  have hdigits : ∀ c ∈ natDigits d.significand, c.isDigit = true := fun c hc =>
    isDigit_of_mem_natDigits hc
  have hne := natDigits_ne_nil d.significand
  have hvalue := digitsValue_natDigits d.significand
  show readDecimal? (plain.arrange (natDigits d.significand) _) = _
  generalize natDigits d.significand = digits at hdigits hne hvalue
  have hlength : 0 < digits.length := List.length_pos_iff.2 hne
  unfold arrange
  split
  · rename_i hpoint
    have hexp : ¬0 ≤ d.exponent := by omega
    have hplaces : -(((-(digits.length + d.exponent)).toNat + digits.length : Nat) : Int) =
        d.exponent := by
      omega
    rw [readDecimal?_point_zeros hdigits, hvalue, hplaces, Decimal.settled, if_neg hexp]
  · split
    · rename_i hpoint hlong
      have hexp : 0 ≤ d.exponent := by omega
      have hplaces : (digits.length + d.exponent - digits.length).toNat = d.exponent.toNat := by
        omega
      show readDecimal? (digits ++ List.replicate _ '0' ++ []) = _
      rw [List.append_nil, readDecimal?_digits_zeros hne hdigits, hvalue, hplaces,
        Decimal.settled, if_pos hexp]
    · rename_i hpoint hlong
      have hexp : ¬0 ≤ d.exponent := by omega
      have hpos : 0 < (digits.length + d.exponent).toNat := by omega
      have hplaces : -((digits.length - (digits.length + d.exponent).toNat : Nat) : Int) =
          d.exponent := by
        omega
      rw [readDecimal?_digits_point hne hdigits hpos, hvalue, hplaces, Decimal.settled,
        if_neg hexp]

/-- A plain text of a decimal starts with a digit. -/
theorem exists_ofDecimal_eq_cons (d : Decimal) :
    ∃ c rest, plain.ofDecimal d = c :: rest ∧ c.isDigit = true := by
  have hdigits : ∀ c ∈ natDigits d.significand, c.isDigit = true := fun c hc =>
    isDigit_of_mem_natDigits hc
  have hne := natDigits_ne_nil d.significand
  show ∃ c rest, plain.arrange (natDigits d.significand) _ = c :: rest ∧ c.isDigit = true
  generalize natDigits d.significand = digits at hdigits hne
  cases digits with
  | nil => exact absurd rfl hne
  | cons c rest =>
    unfold arrange
    split
    · exact ⟨'0', _, rfl, by decide⟩
    · split
      · exact ⟨c, _, rfl, hdigits c List.mem_cons_self⟩
      · rename_i hpoint hlong
        have hpos : ∃ n, ((c :: rest).length + d.exponent).toNat = n + 1 :=
          ⟨((c :: rest).length + d.exponent).toNat - 1, by omega⟩
        obtain ⟨n, hn⟩ := hpos
        rw [hn, List.take_succ_cons]
        exact ⟨c, _, rfl, hdigits c List.mem_cons_self⟩

end NumberLayout

/-! ## Numbers are read back -/

namespace Decimal

/-- A decimal is at least the power of ten that its first digit stands for. -/
theorem pow_le_significand {d : Decimal} (h : d.significand ≠ 0) :
    10 ^ ((Nat.toDigits 10 d.significand).length - 1) ≤ d.significand := by
  by_cases hone : (Nat.toDigits 10 d.significand).length - 1 = 0
  · rw [hone, Nat.pow_zero]
    omega
  · by_contra hlt
    have hle := (Nat.length_toDigits_le_iff (by decide) (Nat.pos_of_ne_zero hone)).2
      (Nat.not_le.1 hlt)
    omega

/-- A decimal that is too large for the reader is beyond the finite magnitudes. -/
theorem le_nearestMagnitude {d : Decimal} (hne : d.significand ≠ 0)
    (h : 310 < (Nat.toDigits 10 d.significand).length + d.exponent) :
    0x7FF0000000000000 ≤ nearestMagnitude d.numerator d.denominator := by
  have hlower := pow_le_significand hne
  have hden : 0 < d.denominator := Nat.pow_pos (by decide)
  generalize (Nat.toDigits 10 d.significand).length = size at h hlower
  have hplaces : 310 ≤ size - 1 + d.exponent.toNat - (-d.exponent).toNat := by omega
  apply le_nearestMagnitude_of_huge hden hplaces
  calc 10 ^ (size - 1 + d.exponent.toNat - (-d.exponent).toNat) * d.denominator
    _ = 10 ^ (size - 1 + d.exponent.toNat - (-d.exponent).toNat + (-d.exponent).toNat) :=
      (Nat.pow_add ..).symm
    _ = 10 ^ (size - 1) * 10 ^ d.exponent.toNat := by
      rw [Nat.sub_add_cancel (by omega), Nat.pow_add]
    _ ≤ d.numerator := Nat.mul_le_mul_right _ hlower

/-- A decimal that is too small for the reader is nearest to zero. -/
theorem nearestMagnitude_eq_zero {d : Decimal}
    (h : (Nat.toDigits 10 d.significand).length + d.exponent < -324) :
    nearestMagnitude d.numerator d.denominator = 0 := by
  apply nearestMagnitude_of_tiny
  have hupper : d.significand < 10 ^ (Nat.toDigits 10 d.significand).length :=
    (Nat.length_toDigits_le_iff (by decide) Nat.length_toDigits_pos).1 (Nat.le_refl _)
  generalize (Nat.toDigits 10 d.significand).length = size at h hupper
  have hpos : 0 < 10 ^ (d.exponent.toNat + 324) := Nat.pow_pos (by decide)
  calc d.numerator * 10 ^ 324 = d.significand * 10 ^ (d.exponent.toNat + 324) := by
        rw [Nat.pow_add, ← Nat.mul_assoc]
        rfl
    _ < 10 ^ size * 10 ^ (d.exponent.toNat + 324) := Nat.mul_lt_mul_of_pos_right hupper hpos
    _ = 10 ^ (size + (d.exponent.toNat + 324)) := (Nat.pow_add ..).symm
    _ ≤ d.denominator := Nat.pow_le_pow_right (by decide) (by omega)

end Decimal

namespace Binary64

/-- The bounds that the reader puts on decimals do not change the number that is nearest. -/
theorem ofDecimal_eq_ofRatio (negative : Bool) (d : Decimal) :
    ofDecimal negative d = ofRatio negative d.numerator d.denominator := by
  have hzero : nearestMagnitude d.numerator d.denominator = 0 →
      zero negative = ofRatio negative d.numerator d.denominator := by
    intro h
    simp only [ofRatio, h]
    rfl
  unfold ofDecimal
  by_cases hsig : d.significand = 0
  · rw [if_pos hsig]
    apply hzero
    rw [Decimal.numerator, hsig, Nat.zero_mul, nearestMagnitude_zero]
  · rw [if_neg hsig]
    split
    · rename_i hhuge
      have hle := Decimal.le_nearestMagnitude hsig hhuge
      rw [ofRatio, dif_neg (Nat.not_lt.2 hle)]
    · split
      · rename_i htiny
        exact hzero (Decimal.nearestMagnitude_eq_zero htiny)
      · rfl

/-- A decimal that is nearest to a finite magnitude denotes it. -/
theorem ofDecimal_of_readsBack (negative : Bool) {d : Decimal}
    {magnitude : Fin 0x7FF0000000000000} (h : d.readsBack magnitude.val = true) :
    ofDecimal negative d = .finite ⟨negative, magnitude⟩ := by
  have hnearest : nearestMagnitude d.numerator d.denominator = magnitude.val := by
    rwa [Decimal.readsBack, beq_iff_eq] at h
  simp only [ofDecimal_eq_ofRatio, ofRatio, hnearest, magnitude.isLt, dite_true]

/-- A text that starts with a digit has no sign and is no name of a number. -/
theorem read?_of_digit {c : Char} (hc : c.isDigit = true) (rest : List Char) (negative : Bool) :
    read? ((if negative then ['-'] else []) ++ c :: rest) =
      (readDecimal? (c :: rest)).map (ofDecimal negative) := by
  have hminus : c ≠ '-' := by
    rintro rfl
    exact absurd hc (by decide)
  have hplus : c ≠ '+' := by
    rintro rfl
    exact absurd hc (by decide)
  have hsplit : splitSign ((if negative then ['-'] else []) ++ c :: rest) =
      (negative, c :: rest) := by
    cases negative with
    | true => rfl
    | false =>
      show splitSign (c :: rest) = (false, c :: rest)
      unfold splitSign
      split <;> simp_all
  have hlower : c.toLower = c := by
    have hupper : ¬('A'.val ≤ c.val ∧ c.val ≤ 'Z'.val) := by
      intro h
      simp only [Char.isDigit, Bool.and_eq_true, decide_eq_true_eq] at hc
      exact absurd (UInt32.le_trans h.1 hc.2) (by decide)
    exact dif_neg hupper
  have hname : ∀ first others, first ≠ c →
      (c :: rest).map Char.toLower ≠ first :: others := by
    intro first others hne heq
    rw [List.map_cons, hlower] at heq
    exact hne (List.cons.inj heq).1.symm
  have hi : 'i' ≠ c := by
    rintro rfl
    exact absurd hc (by decide)
  have hn : 'n' ≠ c := by
    rintro rfl
    exact absurd hc (by decide)
  have hinf : (c :: rest).map Char.toLower ≠ "inf".toList := hname 'i' _ hi
  have hinfinity : (c :: rest).map Char.toLower ≠ "infinity".toList := hname 'i' _ hi
  have hnan : (c :: rest).map Char.toLower ≠ "nan".toList := hname 'n' _ hn
  simp only [read?, hsplit, hinf, hinfinity, hnan, decide_false, Bool.or_false, if_false,
    Bool.false_eq_true]

/-- Every number is read back from its text. -/
theorem read?_text (x : Binary64) : read? x.text.toList = some x := by
  rw [text, String.toList_ofList]
  cases x with
  | nan => decide
  | infinite negative => cases negative <;> decide
  | finite x =>
    obtain ⟨negative, magnitude⟩ := x
    have hreads := Decimal.readsBack_settled
      (Decimal.readsBack_ofMagnitude NumberLayout.plain.tie magnitude.val)
    obtain ⟨c, rest, htext, hc⟩ := NumberLayout.exists_ofDecimal_eq_cons
      (Decimal.ofMagnitude NumberLayout.plain.tie magnitude.val)
    have hdecimal := NumberLayout.readDecimal?_plain
      (Decimal.ofMagnitude NumberLayout.plain.tie magnitude.val)
    show read? ((if negative then ['-'] else []) ++ NumberLayout.plain.ofDecimal
      (Decimal.ofMagnitude NumberLayout.plain.tie magnitude.val)) = _
    rw [htext] at hdecimal ⊢
    rw [read?_of_digit hc, hdecimal, Option.map_some, ofDecimal_of_readsBack negative hreads]

end Binary64

end TieredStore
