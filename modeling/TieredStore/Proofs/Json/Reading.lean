import TieredStore.Proofs.Json.Literals

/-!
# Reading what was written

Every JSON value has a form as written: strings piece by piece, numbers digit by digit, and all
members in their order.  Reading the text of a value gives this form.

Main results:

- Theorem `Json.exists_floatSource_eq`: a number that is no integer is read with a fraction or an
  exponent.
- Theorem `Json.isRead`: every value is read as it is written, whatever stands behind it.
- Theorem `Json.Source.ofText?_render`: the text of a value is read as the form that was written.
-/

namespace TieredStore

namespace Json

/-! ## Values -/

/-- What is written for a number that is no integer: the form that its text is read as. -/
def floatSource (x : Binary64) : Source := (Source.ofChars? (floatChars x)).getD .null

mutual

/-- The form of a value as it is written. -/
def source : Json → Source
  | .null => .null
  | .bool b => .bool b
  | .integer i => .number ⟨decide (i < 0), natDigits i.natAbs, [], none⟩
  | .float x => floatSource x
  | .string s => .string (pieces s)
  | .array elements => .array (sources elements)
  | .object members => .object (memberSources members)

/-- The forms of the elements of a sequence. -/
def sources : List Json → List Source
  | [] => []
  | value :: rest => value.source :: sources rest

/-- The forms of the members of an object. -/
def memberSources : List (String × Json) → List (List Piece × Source)
  | [] => []
  | (key, value) :: rest => (pieces key, value.source) :: memberSources rest

end

/-! ### Numbers as values -/

/-- A value that starts with a digit is a number without a sign. -/
theorem readSource?_digit {c : Char} (hc : c.isDigit = true) (fuel : Nat) (cs : List Char) :
    readSource? (fuel + 1) (c :: cs) =
      (readUnsigned? false (c :: cs)).map fun read => (.number read.1, read.2) := by
  have hgap : isGap c = false := by
    by_contra hgap
    simp only [isGap, Bool.not_eq_false, Bool.or_eq_true, beq_iff_eq] at hgap
    rcases hgap with ((rfl | rfl) | rfl) | rfl <;> exact absurd hc (by decide)
  rw [readSource?, skipGap, List.dropWhile_cons_of_neg (by simp [hgap])]
  split
  case h_8 => rfl
  all_goals
    rename_i heq
    cases heq
    exact absurd hc (by decide)

/-- A value that starts with a minus sign is a number with this sign. -/
theorem readSource?_minus (fuel : Nat) (cs : List Char) :
    readSource? (fuel + 1) ('-' :: cs) =
      (readUnsigned? true cs).map fun read => (.number read.1, read.2) := by
  simp [readSource?, skipGap, isGap]

/-- A number with its sign is read as it is written. -/
theorem readSource?_number (negative : Bool) {whole fraction : List Char} (hwhole : IsWhole whole)
    (hfraction : ∀ c ∈ fraction, c.isDigit = true) (power : Option Int) (fuel : Nat)
    {rest : List Char} (hend : EndsValue rest) :
    readSource? (fuel + 1)
        ((if negative then ['-'] else []) ++ unsignedChars whole fraction power ++ rest) =
      some (.number ⟨negative, whole, fraction, power⟩, rest) := by
  have hread := readUnsigned?_append negative hwhole hfraction power hend
  cases negative with
  | true =>
    rw [if_pos rfl, List.singleton_append, List.cons_append, readSource?_minus, hread]
    rfl
  | false =>
    obtain ⟨c, others, htext, hc⟩ :
        ∃ c others, unsignedChars whole fraction power ++ rest = c :: others ∧
          c.isDigit = true := by
      rcases hwhole.first with rfl | ⟨first, others, rfl, -⟩
      · exact ⟨'0', _, rfl, by decide⟩
      · exact ⟨first, _, rfl, hwhole.isDigit first List.mem_cons_self⟩
    rw [if_neg Bool.false_ne_true, List.nil_append]
    rw [htext] at hread ⊢
    rw [readSource?_digit hc, hread]
    rfl

/-- An integer is written with a sign and nothing behind its digits. -/
theorem intDigits_eq (i : Int) : intDigits i =
    (if decide (i < 0) then ['-'] else []) ++ unsignedChars (natDigits i.natAbs) [] none := by
  by_cases hsign : i < 0 <;> simp [intDigits, unsignedChars, fractionChars, scaleChars, hsign]

/-- An integer is read as it is written. -/
theorem readSource?_integer (i : Int) (fuel : Nat) {rest : List Char} (hend : EndsValue rest) :
    readSource? (fuel + 1) (intDigits i ++ rest) = some ((Json.integer i).source, rest) := by
  have hread := readSource?_number (decide (i < 0)) (isWhole_natDigits i.natAbs)
    (List.forall_mem_nil _) none fuel hend
  rw [intDigits_eq, hread, source]

/-- How a finite number that is no integer is written. -/
theorem exists_floatChars_eq (x : Finite64) :
    ∃ whole fraction power, floatChars (.finite x) =
        (if x.negative then ['-'] else []) ++ unsignedChars whole fraction power ∧
      IsWhole whole ∧ (∀ c ∈ fraction, c.isDigit = true) ∧ (fraction ≠ [] ∨ power ≠ none) := by
  obtain ⟨whole, fraction, power, htext, hshape⟩ := NumberLayout.isFractional_ofDecimal
    (NumberLayout.significand_ofMagnitude NumberLayout.json.tie x.magnitude.val)
  exact ⟨whole, fraction, power, by rw [floatChars, NumberLayout.ofFinite, htext], hshape⟩

/-- A finite number that is no integer is read as it is written, with a fraction or an exponent. -/
theorem exists_floatSource_eq (x : Finite64) :
    ∃ literal : NumberLiteral, floatSource (.finite x) = .number literal ∧
      (literal.fraction ≠ [] ∨ literal.exponent ≠ none) ∧
      ∀ fuel rest, EndsValue rest →
        readSource? (fuel + 1) (floatChars (.finite x) ++ rest) = some (.number literal, rest) := by
  obtain ⟨whole, fraction, power, htext, hwhole, hfraction, hshape⟩ := exists_floatChars_eq x
  have hread : ∀ fuel rest, EndsValue rest →
      readSource? (fuel + 1) (floatChars (.finite x) ++ rest) =
        some (.number ⟨x.negative, whole, fraction, power⟩, rest) := by
    intro fuel rest hend
    rw [htext]
    exact readSource?_number x.negative hwhole hfraction power fuel hend
  refine ⟨_, ?_, hshape, hread⟩
  have halone := hread (2 * (floatChars (.finite x)).length + 1) [] (fun c hc => nomatch hc)
  rw [List.append_nil] at halone
  rw [floatSource, Source.ofChars?, halone]
  rfl

/-- Any number that is no integer is read as it is written. -/
theorem readSource?_float (x : Binary64) (fuel : Nat) {rest : List Char} (hend : EndsValue rest) :
    readSource? (fuel + 1) (floatChars x ++ rest) = some (floatSource x, rest) := by
  have hnull : readSource? (fuel + 1) ("null".toList ++ rest) = some (.null, rest) := by
    simp [readSource?, skipGap, isGap]
  cases x with
  | finite x =>
    obtain ⟨literal, hsource, -, hread⟩ := exists_floatSource_eq x
    rw [hread fuel rest hend, hsource]
  | nan => exact hnull
  | infinite negative => exact hnull

/-! ### Strings, sequences and objects -/

/-- A string is read as it is written. -/
theorem readSource?_string (s : String) (fuel : Nat) (rest : List Char) :
    readSource? (fuel + 1) (quote s ++ rest) = some (.string (pieces s), rest) := by
  have hread := readPieces?_quote s rest
  simp [readSource?, skipGap, isGap, quote, hread]

/-- A value may end before the rest of a sequence. -/
theorem endsValue_elementChars (elements : List Json) (rest : List Char) :
    EndsValue (elementChars elements ++ rest) := by
  intro c hc
  cases elements <;> simp [elementChars] at hc <;> simp [← hc]

/-- A value may end before the rest of an object. -/
theorem endsValue_memberChars (members : List (String × Json)) (rest : List Char) :
    EndsValue (memberChars members ++ rest) := by
  intro c hc
  rcases members with _ | ⟨⟨key, value⟩, others⟩ <;> simp [memberChars] at hc <;> simp [← hc]

/-- No value begins with white space or with the end of a sequence. -/
theorem exists_chars_eq_cons (j : Json) :
    ∃ c cs, j.chars = c :: cs ∧ isGap c = false ∧ c ≠ ']' := by
  have hdigit : ∀ c : Char, c.isDigit = true → isGap c = false ∧ c ≠ ']' := by
    intro c hc
    refine ⟨?_, fun heq => absurd hc (by rw [heq]; decide)⟩
    by_contra hgap
    simp only [isGap, Bool.not_eq_false, Bool.or_eq_true, beq_iff_eq] at hgap
    rcases hgap with ((rfl | rfl) | rfl) | rfl <;> exact absurd hc (by decide)
  have hnumber : ∀ (negative : Bool) (whole text : List Char), IsWhole whole →
      ∃ c cs, (if negative then ['-'] else []) ++ (whole ++ text) = c :: cs ∧ isGap c = false ∧
        c ≠ ']' := by
    intro negative whole text hwhole
    cases negative with
    | true => exact ⟨'-', _, rfl, by decide, by decide⟩
    | false =>
      rcases hwhole.first with rfl | ⟨first, others, rfl, -⟩
      · exact ⟨'0', _, rfl, by decide, by decide⟩
      · exact ⟨first, _, rfl, hdigit first (hwhole.isDigit first List.mem_cons_self)⟩
  match j with
  | .null => exact ⟨'n', _, by rw [chars], by decide, by decide⟩
  | .bool true => exact ⟨'t', _, by rw [chars], by decide, by decide⟩
  | .bool false => exact ⟨'f', _, by rw [chars], by decide, by decide⟩
  | .integer i =>
    rw [chars, intDigits_eq]
    exact hnumber (decide (i < 0)) (natDigits i.natAbs) _ (isWhole_natDigits _)
  | .float (.finite x) =>
    obtain ⟨whole, fraction, power, htext, hwhole, -⟩ := exists_floatChars_eq x
    rw [chars, htext, unsignedChars]
    exact hnumber x.negative whole _ hwhole
  | .float .nan => exact ⟨'n', _, by rw [chars]; rfl, by decide, by decide⟩
  | .float (.infinite _) => exact ⟨'n', _, by rw [chars]; rfl, by decide, by decide⟩
  | .string s => exact ⟨'"', _, by rw [chars]; rfl, by decide, by decide⟩
  | .array [] => exact ⟨'[', _, by rw [chars], by decide, by decide⟩
  | .array (first :: others) => exact ⟨'[', _, by rw [chars], by decide, by decide⟩
  | .object [] => exact ⟨'\x7b', _, by rw [chars], by decide, by decide⟩
  | .object ((key, value) :: others) => exact ⟨'\x7b', _, by rw [chars], by decide, by decide⟩

/-- A sequence with a first element is read element by element. -/
theorem readSource?_array {c : Char} {cs : List Char} (hgap : isGap c = false) (hend : c ≠ ']')
    (fuel : Nat) : readSource? (fuel + 1) ('[' :: c :: cs) =
      (readSource? fuel (c :: cs)).bind fun read =>
        (readElements? fuel read.2).map fun others => (.array (read.1 :: others.1), others.2) := by
  have hskip : skipGap (c :: cs) = c :: cs := by
    rw [skipGap, List.dropWhile_cons_of_neg (by simp [hgap])]
  have hopening : skipGap ('[' :: c :: cs) = '[' :: c :: cs := rfl
  simp only [readSource?, hopening, hskip]
  split
  · rename_i heq
    exact absurd (List.cons.inj heq).1 hend
  · cases readSource? fuel (c :: cs) <;> rfl

/-- Whether a value is read as it is written, given as much fuel as it has characters. -/
def IsRead (j : Json) : Prop :=
  ∀ (fuel : Nat) {rest : List Char}, j.chars.length ≤ fuel → EndsValue rest →
    readSource? fuel (j.chars ++ rest) = some (j.source, rest)

/-- The elements of a sequence after its first one are read as they are written. -/
theorem readElements?_chars {elements : List Json} (helements : ∀ j ∈ elements, IsRead j)
    (fuel : Nat) (hfuel : (elementChars elements).length ≤ fuel) (rest : List Char) :
    readElements? fuel (elementChars elements ++ rest) = some (sources elements, rest) := by
  induction elements generalizing fuel with
  | nil =>
    obtain ⟨fuel, rfl⟩ : ∃ n, fuel = n + 1 := ⟨fuel - 1, by simp [elementChars] at hfuel; omega⟩
    simp [readElements?, skipGap, isGap, elementChars, sources]
  | cons value others ih =>
    obtain ⟨hvalue, hothers⟩ := List.forall_mem_cons.1 helements
    rw [elementChars, List.length_cons, List.length_append] at hfuel
    obtain ⟨fuel, rfl⟩ : ∃ n, fuel = n + 1 := ⟨fuel - 1, by omega⟩
    have hread := hvalue fuel (by omega) (endsValue_elementChars others rest)
    have hreadOthers := ih hothers fuel (by omega)
    simp [readElements?, skipGap, isGap, elementChars, sources, hread, hreadOthers]

/-- A member of an object is read as it is written. -/
theorem readMember?_chars (key : String) {value : Json} (hvalue : IsRead value) (fuel : Nat)
    (hfuel : (quote key).length + value.chars.length ≤ fuel) {rest : List Char}
    (hend : EndsValue rest) :
    readMember? fuel (quote key ++ ':' :: (value.chars ++ rest)) =
      some ((pieces key, value.source), rest) := by
  have hquote : 0 < (quote key).length := by simp [quote]
  obtain ⟨fuel, rfl⟩ : ∃ n, fuel = n + 1 := ⟨fuel - 1, by omega⟩
  have hkey := readPieces?_quote key (':' :: (value.chars ++ rest))
  have hread := hvalue fuel (by omega) hend
  simp [readMember?, skipGap, isGap, quote, hkey, hread]

/-- The members of an object after its first one are read as they are written. -/
theorem readMembers?_chars {members : List (String × Json)}
    (hmembers : ∀ m ∈ members, IsRead m.2) (fuel : Nat)
    (hfuel : (memberChars members).length ≤ fuel) (rest : List Char) :
    readMembers? fuel (memberChars members ++ rest) = some (memberSources members, rest) := by
  induction members generalizing fuel with
  | nil =>
    obtain ⟨fuel, rfl⟩ : ∃ n, fuel = n + 1 := ⟨fuel - 1, by simp [memberChars] at hfuel; omega⟩
    simp [readMembers?, skipGap, isGap, memberChars, memberSources]
  | cons member others ih =>
    obtain ⟨key, value⟩ := member
    obtain ⟨hvalue, hothers⟩ := List.forall_mem_cons.1 hmembers
    replace hvalue : IsRead value := hvalue
    rw [memberChars, List.length_cons, List.length_append, List.length_cons,
      List.length_append] at hfuel
    obtain ⟨fuel, rfl⟩ : ∃ n, fuel = n + 1 := ⟨fuel - 1, by omega⟩
    have hread := readMember?_chars key hvalue fuel (by omega)
      (endsValue_memberChars others rest)
    have hreadOthers := ih hothers fuel (by omega)
    simp [readMembers?, skipGap, isGap, memberChars, memberSources, hread, hreadOthers]

/-- A sequence is read as it is written if its elements are. -/
theorem isRead_array {elements : List Json} (helements : ∀ j ∈ elements, IsRead j) :
    IsRead (.array elements) := by
  intro fuel rest hfuel hend
  cases elements with
  | nil =>
    obtain ⟨fuel, rfl⟩ : ∃ n, fuel = n + 1 := ⟨fuel - 1, by simp [chars] at hfuel; omega⟩
    simp [readSource?, skipGap, isGap, chars, source, sources]
  | cons first others =>
    obtain ⟨hfirst, hothers⟩ := List.forall_mem_cons.1 helements
    rw [chars, List.length_cons, List.length_append] at hfuel
    obtain ⟨fuel, rfl⟩ : ∃ n, fuel = n + 1 := ⟨fuel - 1, by omega⟩
    have hread := hfirst fuel (by omega) (endsValue_elementChars others rest)
    have hreadOthers := readElements?_chars hothers fuel (by omega) rest
    obtain ⟨c, cs, htext, hgap, hclosing⟩ := exists_chars_eq_cons first
    rw [chars, List.cons_append, List.append_assoc]
    rw [htext, List.cons_append] at hread ⊢
    rw [readSource?_array hgap hclosing, hread, Option.bind_some, hreadOthers, source, sources]
    rfl

/-- An object is read as it is written if its members are. -/
theorem isRead_object {members : List (String × Json)} (hmembers : ∀ m ∈ members, IsRead m.2) :
    IsRead (.object members) := by
  intro fuel rest hfuel hend
  cases members with
  | nil =>
    obtain ⟨fuel, rfl⟩ : ∃ n, fuel = n + 1 := ⟨fuel - 1, by simp [chars] at hfuel; omega⟩
    simp [readSource?, skipGap, isGap, chars, source, memberSources]
  | cons member others =>
    obtain ⟨key, value⟩ := member
    obtain ⟨hvalue, hothers⟩ := List.forall_mem_cons.1 hmembers
    replace hvalue : IsRead value := hvalue
    rw [chars, List.length_cons, List.length_append, List.length_cons, List.length_append] at hfuel
    obtain ⟨fuel, rfl⟩ : ∃ n, fuel = n + 1 := ⟨fuel - 1, by omega⟩
    have hread := readMember?_chars key hvalue fuel (by omega)
      (endsValue_memberChars others rest)
    have hreadOthers := readMembers?_chars hothers fuel (by omega) rest
    simp only [quote, List.cons_append, List.append_assoc, List.nil_append] at hread
    simp [readSource?, skipGap, isGap, chars, source, memberSources, quote, hread, hreadOthers]

/-- Induction over JSON values, with one hypothesis for all elements of a sequence or members of
an object. -/
@[elab_as_elim]
theorem inductionOn {motive : Json → Prop} (j : Json) (null : motive .null)
    (bool : ∀ b, motive (.bool b)) (integer : ∀ i, motive (.integer i))
    (float : ∀ x, motive (.float x)) (string : ∀ s, motive (.string s))
    (array : ∀ elements, (∀ j ∈ elements, motive j) → motive (.array elements))
    (object : ∀ members, (∀ m ∈ members, motive m.2) → motive (.object members)) : motive j := by
  refine @Json.rec motive (fun elements => ∀ j ∈ elements, motive j)
    (fun members => ∀ m ∈ members, motive m.2) (fun m => motive m.2) null bool integer float string
    array object ?_ ?_ ?_ ?_ ?_ j
  · exact fun j hj => nomatch hj
  · exact fun first rest hfirst hrest => List.forall_mem_cons.2 ⟨hfirst, hrest⟩
  · exact fun m hm => nomatch hm
  · exact fun first rest hfirst hrest => List.forall_mem_cons.2 ⟨hfirst, hrest⟩
  · exact fun key value hvalue => hvalue

/-- Every value is read as it is written. -/
theorem isRead (j : Json) : IsRead j := by
  have hsome : ∀ {j : Json} {fuel : Nat}, j.chars.length ≤ fuel → ∃ n, fuel = n + 1 := by
    intro j fuel hfuel
    obtain ⟨c, cs, htext, -⟩ := exists_chars_eq_cons j
    rw [htext, List.length_cons] at hfuel
    exact ⟨fuel - 1, by omega⟩
  induction j using inductionOn with
  | array elements ih => exact isRead_array ih
  | object members ih => exact isRead_object ih
  | null =>
    intro fuel rest hfuel hend
    obtain ⟨fuel, rfl⟩ := hsome hfuel
    simp [readSource?, skipGap, isGap, chars, source]
  | bool b =>
    intro fuel rest hfuel hend
    obtain ⟨fuel, rfl⟩ := hsome hfuel
    cases b <;> simp [readSource?, skipGap, isGap, chars, source]
  | integer i =>
    intro fuel rest hfuel hend
    obtain ⟨fuel, rfl⟩ := hsome hfuel
    rw [chars]
    exact readSource?_integer i fuel hend
  | float x =>
    intro fuel rest hfuel hend
    obtain ⟨fuel, rfl⟩ := hsome hfuel
    rw [chars, source]
    exact readSource?_float x fuel hend
  | string s =>
    intro fuel rest hfuel hend
    obtain ⟨fuel, rfl⟩ := hsome hfuel
    rw [chars, source]
    exact readSource?_string s fuel rest

/-- The text of a value is read as the form that was written. -/
theorem Source.ofText?_render (j : Json) : Source.ofText? j.render = some j.source := by
  have hend : EndsValue [] := fun c hc => nomatch hc
  have hread := isRead j (2 * j.chars.length + 2) (by omega) hend
  rw [List.append_nil] at hread
  rw [ofText?, render, String.toList_ofList, ofChars?, hread]
  rfl

end Json

end TieredStore
