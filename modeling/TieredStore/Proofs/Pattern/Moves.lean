import TieredStore.Pattern.Reader
import TieredStore.Proofs.Pattern.LocalReaders

/-!
# Moves and the text behind them

A pattern is read move by move, and a move is read from the characters that it takes, whatever
follows them.  Only a group, a repetition, a condition on words and what is ignored may look beyond
them, for a question mark, a brace, blanks or the end of a comment.

Main results:

- Theorems `Pattern.extendsTo_readEscape`, `Pattern.extendsTo_readClass` and
  `Pattern.extendsTo_readGroup`: what is read from the characters that are taken.
- Theorem `Pattern.isLocal_readMove`: moves look at most that far.
- Theorem `Pattern.length_lt_of_readMove`: every move takes a character.
-/

namespace TieredStore

namespace Pattern

open TextReader

variable {flags : Flags}

/-! ## Escapes -/

/-- A code point is read from its digits. -/
theorem extendsTo_readCode (width : Nat) :
    ExtendsTo (readCode flags width) (readCode flags width) :=
  .bind (.nextPast _) fun _ => .ite (.bind (.takeUpTo _ _) fun _ => .ofOption _)
    (.bind (.several _ _) fun _ => .bind (.ofOption _) fun _ => .ite (.failure _) (.pure _))

/-- A property is read from its name. -/
theorem extendsTo_readProperty (negated : Bool) :
    ExtendsTo (readProperty flags negated) (readProperty flags negated) :=
  .bind (.bind (.nextPast _) fun _ => .ite (.takeUpTo _ _) (.ite (.failure _) (.pure _)))
    fun _ => .ofOption _

/-- An escape is read from the characters that are taken. -/
theorem extendsTo_readEscape (c : Char) : ExtendsTo (readEscape flags c) (readEscape flags c) := by
  unfold readEscape
  split
  · exact .bind (extendsTo_readCode 2) fun _ => .pure _
  · exact .bind (extendsTo_readCode 4) fun _ => .pure _
  · exact .bind (extendsTo_readCode 8) fun _ => .pure _
  · exact .bind (extendsTo_readProperty false) fun _ => .pure _
  · exact .bind (extendsTo_readProperty true) fun _ => .pure _
  · exact .ofOption _

/-! ## Classes -/

/-- A caret is read, or another character is seen. -/
theorem extendsTo_readCaret (ignored : Bool) :
    ExtendsTo (readCaret ignored) (readCaret ignored) :=
  .bind (.peek _) fun _ => .ite (.bind .next fun _ => .pure _) (.pure _)

/-- A name of a class is read up to the signs behind it, or other signs are seen. -/
theorem extendsTo_readClassName : ExtendsTo readClassName readClassName := by
  refine .of_forall fun {cs name rest} h => ?_
  have hdrop : cs.dropWhile Char.isAlpha ≠ [] → ∀ more,
      (cs ++ more).dropWhile Char.isAlpha = cs.dropWhile Char.isAlpha ++ more := by
    intro hsome more
    rw [List.dropWhile_append, if_neg (by simpa using hsome)]
  unfold readClassName at h ⊢
  split at h
  next after hafter =>
    cases h
    have hsuffix : ':' :: ']' :: rest <:+ cs := hafter ▸ List.dropWhile_suffix _
    refine ⟨((List.suffix_cons _ _).trans (List.suffix_cons _ _)).trans hsuffix, fun more => ?_⟩
    have hwhole : ∀ c ∈ cs.takeWhile Char.isAlpha, c.isAlpha = true := fun c =>
      List.mem_takeWhile_imp
    have hcs : cs = cs.takeWhile Char.isAlpha ++ ':' :: ']' :: rest := by
      rw [← hafter, List.takeWhile_append_dropWhile]
    have htake : (cs ++ more).takeWhile Char.isAlpha = cs.takeWhile Char.isAlpha := by
      conv =>
        lhs
        rw [hcs, List.append_assoc, List.takeWhile_append_of_pos hwhole]
      exact List.append_nil _
    rw [hdrop (by rw [hafter]; exact List.cons_ne_nil _ _), hafter, htake]
    rfl
  next => cases h
  next => cases h
  next hname hnil hcolon =>
    cases h
    refine ⟨List.suffix_refl _, fun more => ?_⟩
    rw [hdrop hnil]
    generalize cs.dropWhile Char.isAlpha = after at hname hnil hcolon
    rcases after with _ | ⟨c, _ | ⟨d, after⟩⟩
    · exact absurd rfl hnil
    · have hc : c ≠ ':' := fun h => hcolon (h ▸ rfl)
      split <;> grind
    · have hcd : ¬(c = ':' ∧ d = ']') := fun h => hname after (h.1 ▸ h.2 ▸ rfl)
      split <;> grind

/-- A named class is read, or it is clear that there is none. -/
theorem extendsTo_readNamedClass : ExtendsTo (readNamedClass flags) (readNamedClass flags) := by
  refine .attempt (.bind .next fun sign => .ite (.bind (extendsTo_readCaret _) fun negated =>
    .bind extendsTo_readClassName fun name => ?_) (.pure _))
  split
  · exact .pure _
  · exact .bind (.ofOption _) fun _ => .pure _

/-- An item is read from the characters that are taken. -/
theorem extendsTo_readItem (c : Char) : ExtendsTo (readItem flags c) (readItem flags c) :=
  .ite (.bind .next fun _ => .ite (.failure _) (extendsTo_readEscape _)) (.pure _)

/-- The character after the next one is seen. -/
theorem extendsTo_peekBeyond (ignored : Bool) :
    ExtendsTo (peekBeyond ignored) (peekBeyond ignored) := by
  refine .of_forall fun {cs c rest} h => ?_
  obtain ⟨d, hd, hsame⟩ := Option.map_eq_some_iff.1 h
  obtain ⟨rfl, rfl⟩ := Prod.mk.inj hsame
  refine ⟨List.suffix_refl _, fun more => Option.map_eq_some_iff.2 ⟨d, ?_, rfl⟩⟩
  have htail : cs.tail ≠ [] := by
    intro hnil
    rw [hnil] at hd
    cases ignored <;> cases hd
  have hmore : (cs ++ more).tail = cs.tail ++ more :=
    List.tail_append_of_ne_nil (by
      rintro rfl
      exact htail rfl)
  obtain ⟨after, hafter⟩ := List.head?_eq_some_iff.1 hd
  rw [hmore]
  cases ignored with
  | true => exact congrArg List.head? (skipBlanks_append hafter more)
  | false => exact congrArg (fun l => List.head? (l ++ more)) hafter

/-- An item or a range is read, and it is clear where it ends. -/
theorem extendsTo_readRange (c : Char) : ExtendsTo (readRange flags c) (readRange flags c) :=
  .bind (extendsTo_readItem c) fun _ => .bind (.peek _) fun _ => .ite
    (.bind (extendsTo_peekBeyond _) fun _ => .ite (.ofOption _)
      (.bind .next fun _ => .bind (.nextPast _) fun _ => .bind (extendsTo_readItem _) fun _ =>
        .ofOption _))
    (.ofOption _)

/-- An operation is read, or it is clear that there is none. -/
theorem extendsTo_readOperation (c : Char) : ExtendsTo (readOperation c) (readOperation c) := by
  unfold readOperation
  split
  · exact .pure _
  · exact .bind (.peek _) fun _ => .ite (.bind .next fun _ => .pure _) (.pure _)

/-- Items are read up to the bracket, also with more fuel. -/
theorem extendsTo_readItems {n m : Nat} (h : n ≤ m) (place : ItemPlace) (items : ClassItems) :
    ExtendsTo (readItems flags n place items) (readItems flags m place items) := by
  induction n generalizing m place items with
  | zero => exact .failure _
  | succ n ih =>
    obtain ⟨m, rfl⟩ := Nat.exists_eq_add_of_le' h
    have hitems := fun place items => ih (m := m + n) (Nat.le_add_left n m) place items
    refine .bind (.nextPast _) fun c => .ite (hitems _ _) (.ite (.pure _) (.ite ?_ ?_))
    · refine .bind extendsTo_readNamedClass fun named => ?_
      cases named with
      | some s => exact hitems _ _
      | none =>
        exact .bind (extendsTo_readCaret _) fun _ => .bind (hitems _ _) fun _ =>
          .bind (.ofOption _) fun _ => hitems _ _
    · refine .bind (extendsTo_readOperation c) fun operation => ?_
      cases operation with
      | some op => exact hitems _ _
      | none => exact .bind (extendsTo_readRange c) fun _ => hitems _ _

/-- A class is read up to its bracket, also with more fuel. -/
theorem extendsTo_readClass {n m : Nat} (h : n ≤ m) :
    ExtendsTo (readClass flags n) (readClass flags m) :=
  .bind (extendsTo_readCaret _) fun _ => .bind (extendsTo_readItems h _ _) fun _ => .ofOption _

/-! ## Groups -/

/-- A name of a group is read up to its bracket. -/
theorem extendsTo_readNamedGroup : ExtendsTo (readNamedGroup flags) (readNamedGroup flags) :=
  .bind (.takeUpTo _ _) fun _ => .ite (.pure _) (.failure _)

/-- Flags are read up to the sign that ends them. -/
theorem extendsTo_flagMove? (seen : List Char) (on : Bool) (flags : Flags) :
    ExtendsTo (flagMove? seen on flags) (flagMove? seen on flags) := by
  refine .of_forall fun {cs move rest} h => ?_
  induction cs generalizing seen on flags with
  | nil => cases h
  | cons c tail ih =>
    have hlater : ∀ {seen on flags}, flagMove? seen on flags tail = some (move, rest) →
        rest <:+ c :: tail ∧ ∀ more, flagMove? seen on flags (tail ++ more) =
          some (move, rest ++ more) := fun h =>
      ⟨(ih _ _ _ h).1.trans (List.suffix_cons c tail), (ih _ _ _ h).2⟩
    unfold flagMove? at h
    split at h
    next same =>
      obtain ⟨rfl, rfl⟩ := List.cons.inj same
      split at h
      next => cases h
      next hseen =>
        cases h
        exact ⟨List.suffix_cons _ _, fun _ => if_neg hseen⟩
    next same =>
      obtain ⟨rfl, rfl⟩ := List.cons.inj same
      split at h
      next => cases h
      next hseen =>
        cases h
        exact ⟨List.suffix_cons _ _, fun _ => if_neg hseen⟩
    next same =>
      obtain ⟨rfl, rfl⟩ := List.cons.inj same
      split at h
      next hon =>
        refine (hlater h).imp_right fun hread more => ?_
        exact (if_pos hon).trans (hread more)
      next => cases h
    next hcolon hclose hminus same =>
      obtain ⟨rfl, rfl⟩ := List.cons.inj same
      split at h
      next => cases h
      next hseen =>
        split at h
        next flags' hflags =>
          refine (hlater h).imp_right fun hread more => ?_
          rw [List.cons_append, flagMove?, if_neg hseen, hflags]
          · exact hread more
          · exact hcolon
          · exact hclose
          · exact hminus
        next => cases h
    next same => cases same

/-- What opens a group behind a question mark is read from the characters that are taken. -/
theorem extendsTo_readGroup : ExtendsTo (readGroup flags) (readGroup flags) :=
  .bind (.peek _) fun _ => .ite
    (.bind .next fun _ => .bind .next fun _ => .ite extendsTo_readNamedGroup (.failure _))
    (.ite (.bind .next fun _ => extendsTo_readNamedGroup) (extendsTo_flagMove? _ _ _))

/-! ## Moves -/

/-- A name in braces is looked for behind a condition on words. -/
theorem isLocal_readWordAnchor : (readWordAnchor flags).IsLocal := by
  refine .bind (.aheadIs (by decide)) fun _ =>
    .ite (ExtendsTo.bind (.attempt ?_) fun _ => .pure _).isLocal (.pure _)
  exact .bind .next fun _ => .bind (.peek _) fun _ => .ite
    (.bind (.takeUpTo _ _) fun _ => .bind (.ofOption _) fun _ => .pure _) (.pure _)

/-- A question mark is looked for behind a repetition. -/
theorem isLocal_readRepetition (bounds : Nat × Option Nat) : (readRepetition bounds).IsLocal :=
  .bind (.skip? (by decide)) fun _ => .pure _

/-- What follows the first character of a move is read without looking further. -/
theorem exists_readMove_eq (flags : Flags) :
    ∃ afterFirst : Char → TextReader (Move Flags), readMove flags = next >>= afterFirst ∧
      ∀ c, (afterFirst c).IsLocal := by
  refine ⟨_, rfl, fun c => .ite (.bind (.ignore _) fun _ => .pure _) ?_⟩
  split
  · -- a group
    exact .bind (.blanks _) fun _ => .bind (.skip? (by decide)) fun _ =>
      .ite extendsTo_readGroup.isLocal (.pure _)
  · exact .pure _
  · exact .pure _
  · -- a class, for which the length of the text is the fuel
    have hclass : ExtendsTo (fun cs => readClass flags (cs.length + 1) cs)
        fun cs => readClass flags (cs.length + 1) cs := .of_forall fun {cs _ _} h =>
      ⟨(extendsTo_readClass (Nat.le_refl _)).suffix h, fun more =>
        (extendsTo_readClass (by rw [List.length_append]; omega)).append h more⟩
    exact (hclass.bind fun _ => .pure _).isLocal
  · exact isLocal_readRepetition _
  · exact isLocal_readRepetition _
  · exact isLocal_readRepetition _
  · -- a repetition with bounds in braces
    exact (ExtendsTo.takeUpTo _ _).isLocal.bind fun _ => (ExtendsTo.ofOption _).isLocal.bind
      fun _ => .bind (.blanks _) fun _ => isLocal_readRepetition _
  · -- an escape
    exact ExtendsTo.next.isLocal.bind fun _ => .ite
      (isLocal_readWordAnchor.bind fun _ => .pure _)
      ((extendsTo_readEscape _).bind fun _ => .pure _).isLocal
  · exact (ExtendsTo.ofOption _).isLocal
  · exact .pure _
  · exact .pure _
  · exact .pure _

/-- A move is read without looking further beyond the characters that are taken. -/
theorem isLocal_readMove (flags : Flags) : (readMove flags).IsLocal := by
  obtain ⟨afterFirst, hread, hlocal⟩ := exists_readMove_eq flags
  rw [hread]
  exact ExtendsTo.next.isLocal.bind hlocal

/-- Every move takes a character. -/
theorem length_lt_of_readMove {cs rest : List Char} {move : Move Flags}
    (h : readMove flags cs = some (move, rest)) : rest.length < cs.length := by
  obtain ⟨afterFirst, hread, hlocal⟩ := exists_readMove_eq flags
  rw [hread] at h
  obtain ⟨c, tail, hnext, hmove⟩ := bind_eq_some_iff.1 h
  have hlength := ((hlocal c).suffix hmove).length_le
  cases cs with
  | nil => cases hnext
  | cons d tail =>
    cases hnext
    exact Nat.lt_succ_of_le hlength

end Pattern

end TieredStore
