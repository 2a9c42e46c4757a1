import TieredStore.Json.Decode
import TieredStore.Proofs.Binary64.TextRoundTrip

/-!
# Strings and numbers in JSON texts

A string is written piece by piece with its escapes, and a number digit by digit.  Both are read
back as they are written, whatever stands behind them, and a number with a fraction or an exponent
is told from an integer.

Main results:

- Theorem `Json.readPieces?_quote`: the pieces of a string are read back.
- Theorem `Json.Source.pieceText?_pieces`: the pieces of a string denote the string.
- Theorem `Json.readUnsigned?_append`: the parts of a number are read back.
- Theorem `NumberLiteral.evaluate_integer`: an integer that fits 64 bits is evaluated to itself.
- Theorem `NumberLayout.isFractional_ofDecimal`: a number that is no integer is written with a
  fraction or an exponent.
-/

namespace TieredStore

namespace Json

/-! ## Strings -/

/-- The piece that a character is written as. -/
def Piece.ofChar (c : Char) : Piece :=
  if c.toNat < 0x20 ∧ c ∉ ['\x08', '\x0c', '\n', '\r', '\t'] then .unit c.toNat else .char c

/-- The pieces that a string is written as. -/
def pieces (s : String) : List Piece := s.toList.map .ofChar

/-- Two hexadecimal digits denote the code of a control character. -/
theorem hexValue?_control {n : Nat} (h : n < 0x20) :
    hexValue? ['0', '0', Nat.digitChar (n / 16), Nat.digitChar (n % 16)] = some n := by
  have hall : ∀ n < 0x20,
      hexValue? ['0', '0', Nat.digitChar (n / 16), Nat.digitChar (n % 16)] = some n := by decide
  exact hall n h

/-- An escaped character is read as its piece. -/
theorem readPieces?_escape (c : Char) (rest : List Char) :
    readPieces? (escape c ++ rest) =
      (readPieces? rest).map fun read => (.ofChar c :: read.1, read.2) := by
  by_cases hquote : c = '"'
  · subst hquote
    simp [escape, readPieces?, shortEscape?, Piece.ofChar]
  by_cases hbackslash : c = '\\'
  · subst hbackslash
    simp [escape, readPieces?, shortEscape?, Piece.ofChar]
  by_cases hshort : c ∈ ['\x08', '\x0c', '\n', '\r', '\t']
  · simp only [List.mem_cons, List.not_mem_nil, or_false] at hshort
    rcases hshort with rfl | rfl | rfl | rfl | rfl <;>
      simp [escape, readPieces?, shortEscape?, Piece.ofChar]
  have hothers : c ≠ '\x08' ∧ c ≠ '\x0c' ∧ c ≠ '\n' ∧ c ≠ '\r' ∧ c ≠ '\t' := by
    simpa using hshort
  by_cases hcontrol : c.toNat < 0x20
  · have hescape : escape c =
        ['\\', 'u', '0', '0', Nat.digitChar (c.toNat / 16), Nat.digitChar (c.toNat % 16)] := by
      simp [escape, hquote, hbackslash, hothers, hcontrol]
    rw [hescape, Piece.ofChar, if_pos ⟨hcontrol, hshort⟩]
    simp only [List.cons_append, List.nil_append, readPieces?, hexValue?_control hcontrol]
  · have hescape : escape c = [c] := by
      simp [escape, hquote, hbackslash, hothers, hcontrol]
    rw [hescape, Piece.ofChar, if_neg fun h => hcontrol h.1]
    simp [readPieces?, hbackslash, hcontrol]

/-- The pieces of a string are read back, up to its closing quotation mark. -/
theorem readPieces?_quote (s : String) (rest : List Char) :
    readPieces? (s.toList.flatMap escape ++ '"' :: rest) = some (pieces s, rest) := by
  unfold pieces
  induction s.toList with
  | nil => simp [readPieces?]
  | cons c cs ih =>
    rw [List.flatMap_cons, List.append_assoc, readPieces?_escape, ih]
    rfl

/-- The piece of a character denotes it, whatever the next pieces are. -/
theorem textOfPieces?_ofChar (c : Char) (rest : List Piece) :
    textOfPieces? (.ofChar c :: rest) = (textOfPieces? rest).map (c :: ·) := by
  unfold Piece.ofChar
  split
  · rename_i h
    have hlow : c.toNat < 0x20 := h.1
    have hhigh : ¬(0xD800 ≤ c.toNat ∧ c.toNat < 0xDC00) := by omega
    have hsurrogate : ¬(0xD800 ≤ c.toNat ∧ c.toNat < 0xE000) := by omega
    have hsecond : ¬(0xDC00 ≤ c.toNat ∧ c.toNat < 0xE000) := by omega
    rcases rest with _ | ⟨d | code, rest⟩ <;>
      simp [textOfPieces?, hhigh, hsurrogate, hsecond, Char.ofNat_toNat]
  · simp [textOfPieces?]

/-- The pieces of a string denote its characters. -/
theorem textOfPieces?_pieces (s : String) : textOfPieces? (pieces s) = some s.toList := by
  unfold pieces
  induction s.toList with
  | nil => rfl
  | cons c cs ih => rw [List.map_cons, textOfPieces?_ofChar, ih]; rfl

/-- The pieces of a string denote the string. -/
theorem Source.pieceText?_pieces (s : String) : Source.pieceText? (pieces s) = some s := by
  rw [pieceText?, textOfPieces?_pieces]
  exact congrArg some String.ofList_toList

end Json

/-! ## Numbers -/

/-- No whole number but zero is written with a zero in front. -/
theorem natDigits_eq_cons {n : Nat} (hn : n ≠ 0) :
    ∃ first rest, natDigits n = first :: rest ∧ first ≠ '0' := by
  have hdigit : ∀ d < 10, d ≠ 0 → Nat.digitChar d ≠ '0' := by decide
  unfold natDigits
  induction n using Nat.strongRecOn with
  | _ n ih =>
    rcases Nat.lt_or_ge n 10 with hsmall | hlarge
    · exact ⟨_, [], Nat.toDigits_of_lt_base hsmall, hdigit n hsmall hn⟩
    · obtain ⟨first, rest, heq, hfirst⟩ := ih (n / 10) (by omega) (by omega)
      rw [Nat.toDigits_of_base_le (by decide) hlarge, heq]
      exact ⟨first, _, List.cons_append, hfirst⟩

namespace Json

/-- Whether digits may stand at the beginning of a number: a zero alone, or no zero first. -/
structure IsWhole (digits : List Char) : Prop where
  isDigit : ∀ c ∈ digits, c.isDigit = true
  first : digits = ['0'] ∨ ∃ first rest, digits = first :: rest ∧ first ≠ '0'

/-- The digits of a whole number may stand at the beginning. -/
theorem isWhole_natDigits (n : Nat) : IsWhole (natDigits n) := by
  refine ⟨fun c hc => isDigit_of_mem_natDigits hc, ?_⟩
  by_cases hn : n = 0
  · subst hn
    exact .inl rfl
  · exact .inr (natDigits_eq_cons hn)

/-- The point and the digits after it, if there are any. -/
def fractionChars (fraction : List Char) : List Char :=
  if fraction.isEmpty then [] else '.' :: fraction

/-- The exponent, if there is one; a plus sign stands before one that is not negative. -/
def scaleChars : Option Int → List Char
  | none => []
  | some power => 'e' :: (if 0 ≤ power then ['+'] else []) ++ intDigits power

/-- The text of a number without its sign. -/
def unsignedChars (whole fraction : List Char) (power : Option Int) : List Char :=
  whole ++ (fractionChars fraction ++ scaleChars power)

/-- Whether a number or any other value may end before a text. -/
def EndsValue (rest : List Char) : Prop := ∀ c ∈ rest.head?, c = ',' ∨ c = ']' ∨ c = '\x7d'

/-- Digits end before anything that is no digit. -/
theorem takeWhile_isDigit_append {digits rest : List Char}
    (hdigits : ∀ c ∈ digits, c.isDigit = true)
    (hend : ∀ c ∈ rest.head?, c.isDigit = false) :
    (digits ++ rest).takeWhile Char.isDigit = digits ∧
      (digits ++ rest).dropWhile Char.isDigit = rest := by
  rw [List.takeWhile_append_of_pos hdigits, List.dropWhile_append_of_pos hdigits]
  cases rest with
  | nil => exact ⟨List.append_nil _, rfl⟩
  | cons c others =>
    have hc : c.isDigit = false := hend c rfl
    rw [List.takeWhile_cons_of_neg (by simp [hc]), List.dropWhile_cons_of_neg (by simp [hc])]
    exact ⟨List.append_nil _, rfl⟩

/-- The digits before the point are read back. -/
theorem readWhole?_append {whole rest : List Char} (hwhole : IsWhole whole)
    (hend : ∀ c ∈ rest.head?, c.isDigit = false) :
    readWhole? (whole ++ rest) = some (whole, rest) := by
  obtain ⟨hdigits, rfl | ⟨first, others, rfl, hfirst⟩⟩ := hwhole
  · cases rest with
    | nil => rfl
    | cons c others =>
      have hc : c.isDigit = false := hend c rfl
      simp [readWhole?, hc]
  · have hsplit := takeWhile_isDigit_append hdigits hend
    rw [List.cons_append] at hsplit ⊢
    unfold readWhole?
    split
    · rename_i heq
      exact absurd (List.cons.inj heq).1 hfirst
    · rw [hsplit.1, hsplit.2]
      rfl

/-- A fraction is read back. -/
theorem readFraction?_append {fraction rest : List Char}
    (hdigits : ∀ c ∈ fraction, c.isDigit = true)
    (hend : ∀ c ∈ rest.head?, c.isDigit = false ∧ c ≠ '.') :
    readFraction? (fractionChars fraction ++ rest) = some (fraction, rest) := by
  unfold fractionChars
  by_cases hempty : fraction = []
  · subst hempty
    show readFraction? rest = _
    unfold readFraction?
    split
    · exact absurd rfl (hend '.' rfl).2
    · rfl
  · have hsplit := takeWhile_isDigit_append hdigits fun c hc => (hend c hc).1
    simp [readFraction?, hsplit.1, hsplit.2, hempty]

/-- An exponent is read back. -/
theorem readScale?_append (power : Option Int) {rest : List Char}
    (hend : ∀ c ∈ rest.head?, c.isDigit = false ∧ c ≠ 'e' ∧ c ≠ 'E') :
    readScale? (scaleChars power ++ rest) = some (power, rest) := by
  cases power with
  | none =>
    show readScale? rest = _
    unfold readScale?
    split
    · exact absurd rfl (hend 'e' rfl).2.1
    · exact absurd rfl (hend 'E' rfl).2.2
    · rfl
  | some power =>
    have hdigits : ∀ c ∈ natDigits power.natAbs, c.isDigit = true := fun c hc =>
      isDigit_of_mem_natDigits hc
    have hsplit := takeWhile_isDigit_append hdigits fun c hc => (hend c hc).1
    by_cases hsign : 0 ≤ power
    · have hpower : (power.natAbs : Int) = power := by omega
      simp [scaleChars, intDigits, hsign, Int.not_lt.2 hsign, readScale?, readPower?, hsplit.1,
        hsplit.2, natDigits_ne_nil, hpower]
    · have hpower : -(power.natAbs : Int) = power := by omega
      simpa [scaleChars, intDigits, hsign, Int.not_le.1 hsign, readScale?, readPower?, hsplit.1,
        hsplit.2, natDigits_ne_nil] using hpower

/-- What follows the whole part of a number is no digit. -/
theorem head?_scaleChars_append (power : Option Int) {rest : List Char} (hend : EndsValue rest) :
    ∀ c ∈ (scaleChars power ++ rest).head?, c.isDigit = false ∧ c ≠ '.' := by
  cases power with
  | none =>
    intro c hc
    rcases hend c hc with rfl | rfl | rfl <;> decide
  | some power =>
    intro c hc
    cases hc
    decide

/-- A number is read back as it is written. -/
theorem readUnsigned?_append (negative : Bool) {whole fraction : List Char} (hwhole : IsWhole whole)
    (hfraction : ∀ c ∈ fraction, c.isDigit = true) (power : Option Int) {rest : List Char}
    (hend : EndsValue rest) :
    readUnsigned? negative (unsignedChars whole fraction power ++ rest) =
      some (⟨negative, whole, fraction, power⟩, rest) := by
  have hscale := head?_scaleChars_append power hend
  have hpoint : ∀ c ∈ (fractionChars fraction ++ (scaleChars power ++ rest)).head?,
      c.isDigit = false := by
    cases fraction with
    | nil => exact fun c hc => (hscale c hc).1
    | cons first others =>
      intro c hc
      cases hc
      decide
  have hrest : ∀ c ∈ rest.head?, c.isDigit = false ∧ c ≠ 'e' ∧ c ≠ 'E' := by
    intro c hc
    rcases hend c hc with rfl | rfl | rfl <;> decide
  unfold readUnsigned?
  rw [unsignedChars, List.append_assoc, List.append_assoc, readWhole?_append hwhole hpoint]
  simp only [Option.bind_eq_bind, Option.bind_some]
  rw [readFraction?_append hfraction hscale]
  simp only [Option.bind_some]
  rw [readScale?_append power hrest]
  rfl

end Json

namespace NumberLiteral

/-- Digits are worth at least what stands before them. -/
theorem le_ofDigitChars (digits : List Char) (value : Nat) :
    value ≤ Nat.ofDigitChars 10 digits value := by
  induction digits generalizing value with
  | nil => exact Nat.le_refl _
  | cons c rest ih =>
    rw [Nat.ofDigitChars_cons]
    have hnext := ih (10 * value + (c.toNat - '0'.toNat))
    omega

/-- Digits that are worth less than the limit are all taken. -/
theorem leading_eq {digits : List Char} {significand : Nat}
    (h : Nat.ofDigitChars 10 digits significand < wordLimit) :
    leading significand digits = (Nat.ofDigitChars 10 digits significand, 0) := by
  induction digits generalizing significand with
  | nil => rfl
  | cons c rest ih =>
    rw [Nat.ofDigitChars_cons] at h ⊢
    have hnext := Nat.lt_of_le_of_lt (le_ofDigitChars rest _) h
    rw [leading, if_pos hnext, ih h]

/-- An integer that fits 64 bits is evaluated to itself. -/
theorem evaluate_integer {i : Int} (hlow : -0x8000000000000000 ≤ i)
    (hhigh : i < 0x10000000000000000) :
    evaluate ⟨decide (i < 0), natDigits i.natAbs, [], none⟩ = some (.integer i) := by
  have hvalue : Nat.ofDigitChars 10 (natDigits i.natAbs) 0 = i.natAbs :=
    digitsValue_natDigits i.natAbs
  have hfits : i.natAbs < wordLimit := by
    unfold wordLimit
    omega
  have hleading : leading 0 (natDigits i.natAbs) = (i.natAbs, 0) := by
    rw [leading_eq (by rwa [hvalue]), hvalue]
  rw [evaluate, hleading]
  by_cases hsign : i < 0
  · have hrange : 0 < i.natAbs ∧ i.natAbs ≤ 0x8000000000000000 := by omega
    have hi : -(i.natAbs : Int) = i := by omega
    simpa [hsign, hrange] using hi
  · have hi : (i.natAbs : Int) = i := by omega
    simp [hsign, hi]

/-- A number with a fraction or an exponent is evaluated to no integer. -/
theorem exists_evaluate_eq {literal : NumberLiteral}
    (h : literal.fraction ≠ [] ∨ literal.exponent ≠ none) :
    ∃ value : Option Binary64, literal.evaluate = value.map .float := by
  have hno : (literal.fraction.isEmpty && literal.exponent.isNone) = false := by
    rcases h with hfraction | hexponent
    · rw [List.isEmpty_eq_false_iff.2 hfraction, Bool.false_and]
    · rw [Option.isNone_eq_false_iff.2 (Option.isSome_iff_ne_none.2 hexponent), Bool.and_false]
  unfold evaluate
  split
  rw [if_neg (by simp [hno])]
  exact exists_scaled_eq _ _ _

end NumberLiteral

/-- Whether a text is that of a number with a fraction or an exponent. -/
def Json.IsFractional (text : List Char) : Prop :=
  ∃ whole fraction power, text = Json.unsignedChars whole fraction power ∧ Json.IsWhole whole ∧
    (∀ c ∈ fraction, c.isDigit = true) ∧ (fraction ≠ [] ∨ power ≠ none)

namespace NumberLayout

open Json

section Digits

variable {first : Char} {rest : List Char} (hfirst : first ≠ '0')
  (hdigits : ∀ c ∈ first :: rest, c.isDigit = true) (point : Int)

include hfirst hdigits

/-- In positional notation there is a fraction, be it a zero. -/
theorem isFractional_arrange : IsFractional (json.arrange (first :: rest) point) := by
  unfold arrange
  split
  · refine ⟨['0'], List.replicate (-point).toNat '0' ++ first :: rest, none, ?_,
      ⟨isDigit_of_mem_zeros 1, .inl rfl⟩, ?_, .inl ?_⟩
    · simp [unsignedChars, fractionChars, scaleChars]
    · exact List.forall_mem_append.2 ⟨isDigit_of_mem_zeros _, hdigits⟩
    · simp
  · split
    · refine ⟨first :: rest ++ List.replicate (point - (first :: rest).length).toNat '0', ['0'],
        none, ?_, ⟨?_, .inr ⟨first, _, rfl, hfirst⟩⟩, isDigit_of_mem_zeros 1, .inl (by simp)⟩
      · simp [unsignedChars, fractionChars, scaleChars, json]
      · exact List.forall_mem_append.2 ⟨hdigits, isDigit_of_mem_zeros _⟩
    · rename_i hpoint hlong
      obtain ⟨n, hn⟩ : ∃ n, point.toNat = n + 1 := ⟨point.toNat - 1, by omega⟩
      have hdrop : (first :: rest).drop (n + 1) ≠ [] := by
        rw [Ne, List.drop_eq_nil_iff]
        omega
      refine ⟨(first :: rest).take (n + 1), (first :: rest).drop (n + 1), none, ?_,
        ⟨fun c hc => hdigits c (List.mem_of_mem_take hc), .inr ⟨first, _, rfl, hfirst⟩⟩,
        fun c hc => hdigits c (List.mem_of_mem_drop hc), .inl hdrop⟩
      rw [hn, unsignedChars, fractionChars, if_neg (by simpa using hdrop), scaleChars,
        List.append_nil]

/-- In exponent form there is an exponent. -/
theorem isFractional_withExponent : IsFractional (json.withExponent (first :: rest) point) := by
  obtain ⟨hone, hrest⟩ := List.forall_mem_cons.1 hdigits
  refine ⟨[first], rest, some (point - 1), ?_,
    ⟨List.forall_mem_singleton.2 hone, .inr ⟨first, [], rfl, hfirst⟩⟩, hrest, .inr (by simp)⟩
  cases rest <;> simp [withExponent, json, unsignedChars, fractionChars, scaleChars]

end Digits

/-- A decimal is written in positional notation or in exponent form. -/
theorem ofDecimal_eq_or (layout : NumberLayout) (d : Decimal) :
    layout.ofDecimal d = layout.arrange (natDigits d.significand)
        ((natDigits d.significand).length + d.exponent) ∨
      layout.ofDecimal d = layout.withExponent (natDigits d.significand)
        ((natDigits d.significand).length + d.exponent) :=
  ite_eq_or_eq _ _ _

/-- A number that is no integer is written with a fraction or an exponent. -/
theorem isFractional_ofDecimal {d : Decimal} (hd : d.significand ≠ 0 ∨ d = ⟨0, 0⟩) :
    IsFractional (json.ofDecimal d) := by
  rcases hd with hsome | rfl
  · obtain ⟨first, rest, hcons, hfirst⟩ := natDigits_eq_cons hsome
    have hdigits : ∀ c ∈ natDigits d.significand, c.isDigit = true := fun c hc =>
      isDigit_of_mem_natDigits hc
    rw [hcons] at hdigits
    rcases ofDecimal_eq_or json d with htext | htext
    · rw [htext, hcons]
      exact isFractional_arrange hfirst hdigits _
    · rw [htext, hcons]
      exact isFractional_withExponent hfirst hdigits _
  · exact ⟨['0'], ['0'], none, by decide, ⟨isDigit_of_mem_zeros 1, .inl rfl⟩,
      isDigit_of_mem_zeros 1, .inl (by decide)⟩

/-- The decimal of a magnitude is zero itself or no zero. -/
theorem significand_ofMagnitude (tie : Tie) (magnitude : Nat) :
    (Decimal.ofMagnitude tie magnitude).significand ≠ 0 ∨
      Decimal.ofMagnitude tie magnitude = ⟨0, 0⟩ := by
  by_cases hzero : magnitude = 0
  · exact .inr (by rw [Decimal.ofMagnitude, if_pos hzero])
  · refine .inl fun hsignificand => hzero ?_
    have hreads := Decimal.readsBack_ofMagnitude tie magnitude
    rw [Decimal.readsBack, beq_iff_eq, Decimal.numerator, hsignificand, Nat.zero_mul,
      nearestMagnitude_zero] at hreads
    exact hreads.symm

end NumberLayout

end TieredStore
