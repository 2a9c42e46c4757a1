import TieredStore.Comparison
import TieredStore.Proofs.Binary64.TextRoundTrip

/-!
# Values that are numbers and their texts

Two values are compared by number if both of them are numeric, and by text otherwise.  The two
ways never get into each other's way, because the text of a value tells whether it is numeric and
which number it is: integers and finite numbers are read back from their texts, and what else has
a text spells no finite number unless it is such a text itself.

Main results:

- Theorem `Binary64.read?_intDigits`: the digits of an integer are read as the number that is
  nearest to it.
- Theorem `Value.asNumber?_eq_numberOfText?_display`: a value is the number that its text spells.
-/

namespace TieredStore

/-! ## Texts without blanks -/

/-- Nothing is cut off a text without blanks. -/
theorem trim_of_forall_not_blank {cs : List Char} (h : ∀ c ∈ cs, isBlank c = false) :
    trim cs = cs :=
  trim_of_not_blank (fun c hc => h c (List.mem_of_mem_head? hc))
    fun c hc => h c (List.mem_of_getLast? hc)

/-- None of some characters is blank if all of them were found not to be. -/
theorem isBlank_of_all {cs : List Char} (hall : (cs.all fun c => !isBlank c) = true) {c : Char}
    (h : c ∈ cs) : isBlank c = false := by
  rw [← Bool.not_eq_true']
  exact List.all_eq_true.1 hall c h

/-- A digit is not blank. -/
theorem isBlank_of_isDigit {c : Char} (h : c.isDigit = true) : isBlank c = false := by
  have hrange := Char.isDigit_iff_toNat.1 h
  have hzero : '0'.toNat = 48 := rfl
  have hnine : '9'.toNat = 57 := rfl
  rw [hzero, hnine] at hrange
  simp only [isBlank, CharTable.has, blankTable, List.any_cons, List.any_nil, Bool.or_false,
    Bool.or_eq_false_iff, Bool.and_eq_false_iff, decide_eq_false_iff_not]
  omega

/-- A plain decimal is written with digits and a point. -/
theorem NumberLayout.isDigit_or_eq_of_mem_plain {d : Decimal} {c : Char}
    (h : c ∈ plain.ofDecimal d) : c.isDigit = true ∨ c = '.' := by
  have hdigits : ∀ c ∈ natDigits d.significand, c.isDigit = true := fun c hc =>
    isDigit_of_mem_natDigits hc
  have hzeros : ∀ n, ∀ c ∈ List.replicate n '0', c.isDigit = true := isDigit_of_mem_zeros
  change c ∈ plain.arrange (natDigits d.significand) _ at h
  unfold arrange at h
  split at h
  · rcases List.mem_cons.1 h with rfl | h
    · exact .inl (by decide)
    · rcases List.mem_cons.1 h with rfl | h
      · exact .inr rfl
      · exact .inl ((List.mem_append.1 h).elim (hzeros _ c) (hdigits c))
  · split at h
    · change c ∈ natDigits d.significand ++ List.replicate _ '0' ++ [] at h
      rw [List.append_nil] at h
      exact .inl ((List.mem_append.1 h).elim (hdigits c) (hzeros _ c))
    · rcases List.mem_append.1 h with h | h
      · exact .inl (hdigits c (List.mem_of_mem_take h))
      · rcases List.mem_cons.1 h with rfl | h
        · exact .inr rfl
        · exact .inl (hdigits c (List.mem_of_mem_drop h))

/-- The text of a number has no blanks. -/
theorem Binary64.isBlank_of_mem_text {x : Binary64} {c : Char} (h : c ∈ x.text.toList) :
    isBlank c = false := by
  have hsign : ∀ negative : Bool,
      ((if negative then ['-'] else []).all fun c => !isBlank c) = true := by
    decide
  rw [text, String.toList_ofList] at h
  cases x with
  | nan => exact isBlank_of_all (by decide : ("NaN".toList.all fun c => !isBlank c) = true) h
  | infinite negative =>
    rcases List.mem_append.1 h with h | h
    · exact isBlank_of_all (hsign negative) h
    · exact isBlank_of_all (by decide : ("inf".toList.all fun c => !isBlank c) = true) h
  | finite x =>
    rcases List.mem_append.1 h with h | h
    · exact isBlank_of_all (hsign x.negative) h
    · rcases NumberLayout.isDigit_or_eq_of_mem_plain h with hdigit | rfl
      · exact isBlank_of_isDigit hdigit
      · decide

/-! ## Integers -/

/-- The digits of an integer have no blanks. -/
theorem isBlank_of_mem_intDigits {i : Int} {c : Char} (h : c ∈ intDigits i) :
    isBlank c = false := by
  unfold intDigits at h
  split at h
  · rcases List.mem_cons.1 h with rfl | h
    · decide
    · exact isBlank_of_isDigit (isDigit_of_mem_natDigits h)
  · exact isBlank_of_isDigit (isDigit_of_mem_natDigits h)

/-- The digits of an integer are read as the number that is nearest to it. -/
theorem Binary64.read?_intDigits (i : Int) : read? (intDigits i) = some (ofInt i) := by
  have hdigits : ∀ c ∈ natDigits i.natAbs, c.isDigit = true := fun c hc =>
    isDigit_of_mem_natDigits hc
  have hread := NumberLayout.readDecimal?_digits (natDigits_ne_nil i.natAbs) hdigits
  rw [digitsValue_natDigits] at hread
  have hsign : intDigits i =
      (if decide (i < 0) = true then ['-'] else []) ++ natDigits i.natAbs := by
    unfold intDigits
    split <;> simp [*]
  obtain ⟨c, rest, hcons⟩ := List.exists_cons_of_ne_nil (natDigits_ne_nil i.natAbs)
  rw [hcons] at hread hdigits
  rw [hsign, hcons, read?_of_digit (hdigits c List.mem_cons_self), hread, Option.map_some,
    ofDecimal_eq_ofRatio]
  show some (ofRatio (decide (i < 0)) (i.natAbs * 1) 1) = _
  rw [Nat.mul_one]
  rfl

/-! ## Values -/

namespace Value

/-- The number that a text without blanks spells. -/
theorem numberOfText?_of_read? {s : String} {x : Binary64}
    (hblank : ∀ c ∈ s.toList, isBlank c = false) (hread : Binary64.read? s.toList = some x) :
    numberOfText? s = (Value.float x).asNumber? := by
  rw [numberOfText?, trim_of_forall_not_blank hblank, hread]
  cases x <;> rfl

/-- An integer is the number that is nearest to it. -/
theorem asNumber?_int (i : Int64) :
    (Value.int i).asNumber? = (Value.float (Binary64.ofInt i.toInt)).asNumber? := by
  -- The rounding is any function here: nothing depends on what it computes.
  obtain ⟨nearest, hnearest⟩ : ∃ f, f = Binary64.ofInt := ⟨_, rfl⟩
  rw [asNumber?.eq_def (Value.int i), ← hnearest]
  dsimp only
  cases nearest i.toInt <;> rfl

/-- A value is the number that its text spells. -/
theorem asNumber?_eq_numberOfText?_display {v : Value} (h : v.isNull = false) :
    v.asNumber? = numberOfText? v.display := by
  cases v with
  | null => cases h
  | bool b => cases b <;> decide
  | int i =>
    rw [asNumber?_int, display]
    refine (numberOfText?_of_read? ?_ ?_).symm
    · rw [String.toList_ofList]
      exact fun _ => isBlank_of_mem_intDigits
    · rw [String.toList_ofList]
      exact Binary64.read?_intDigits i.toInt
  | float x =>
    exact (numberOfText?_of_read? (fun _ => Binary64.isBlank_of_mem_text) x.read?_text).symm
  | text s => rfl

/-- Values of one text are the same number, or neither of them is one. -/
theorem asNumber?_eq_of_display_eq {a b : Value} (ha : a.isNull = false) (hb : b.isNull = false)
    (h : a.display = b.display) : a.asNumber? = b.asNumber? := by
  rw [asNumber?_eq_numberOfText?_display ha, asNumber?_eq_numberOfText?_display hb, h]

end Value

end TieredStore
