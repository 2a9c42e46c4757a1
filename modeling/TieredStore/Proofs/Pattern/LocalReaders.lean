import Mathlib.Data.List.TakeWhile
import TieredStore.Text.TextReader

/-!
# Readers and the text behind what they take

Most readers read the same with more text behind what they take.  Some look beyond it, and may find
that the text ends there: they take blanks, or a question mark if there is one.  Of these we know
that they read the same as long as something follows that they leave, and at the end of the text
they leave a closing parenthesis that is put behind it, or take it as a part of a comment.

Main results:

- Theorem `TextReader.ExtendsTo.bind`: readers that read the same with more text behind, one after
  the other.
- Theorems `TextReader.ExtendsTo.isLocal` and `TextReader.IsLocal.bind`: readers that may look
  beyond what they take.
-/

namespace TieredStore

namespace TextReader

variable {α β : Type}

/-- What two readers read, one after the other. -/
theorem bind_eq_some_iff {p : TextReader α} {f : α → TextReader β} {cs rest : List Char} {b : β} :
    (p >>= f) cs = some (b, rest) ↔
      ∃ a middle, p cs = some (a, middle) ∧ f a middle = some (b, rest) := by
  show ((p cs).bind fun r => f r.1 r.2) = _ ↔ _
  rw [Option.bind_eq_some_iff]
  exact ⟨fun ⟨⟨a, middle⟩, h⟩ => ⟨a, middle, h⟩, fun ⟨a, middle, h⟩ => ⟨(a, middle), h⟩⟩

/-! ## More text -/

/-- Whether one reader takes characters from the beginning of a text, and another one takes the same
with more text behind it. -/
structure ExtendsTo (p q : TextReader α) : Prop where
  suffix : ∀ {cs a rest}, p cs = some (a, rest) → rest <:+ cs
  append : ∀ {cs a rest}, p cs = some (a, rest) → ∀ more, q (cs ++ more) = some (a, rest ++ more)

namespace ExtendsTo

/-- Both properties are seen from what the first reader reads. -/
theorem of_forall {p q : TextReader α} (h : ∀ {cs a rest}, p cs = some (a, rest) →
    rest <:+ cs ∧ ∀ more, q (cs ++ more) = some (a, rest ++ more)) : ExtendsTo p q :=
  ⟨fun hp => (h hp).1, fun hp => (h hp).2⟩

/-- Nothing is taken. -/
theorem pure (a : α) : ExtendsTo (Pure.pure a) (Pure.pure a) :=
  of_forall fun h => by
    cases h
    exact ⟨List.suffix_refl _, fun _ => rfl⟩

/-- Nothing is read. -/
theorem failure (q : TextReader α) : ExtendsTo Alternative.failure q := ⟨nofun, nofun⟩

/-- A result is found, whatever the text is. -/
theorem ofOption (result : Option α) :
    ExtendsTo (TextReader.ofOption result) (TextReader.ofOption result) := by
  cases result with
  | none => exact ⟨nofun, nofun⟩
  | some a => exact .pure a

/-- One reader reads after the other. -/
theorem bind {p q : TextReader α} {f g : α → TextReader β} (first : ExtendsTo p q)
    (second : ∀ a, ExtendsTo (f a) (g a)) : ExtendsTo (p >>= f) (q >>= g) where
  suffix h := by
    obtain ⟨a, middle, hp, hf⟩ := bind_eq_some_iff.1 h
    exact ((second a).suffix hf).trans (first.suffix hp)
  append h more := by
    obtain ⟨a, middle, hp, hf⟩ := bind_eq_some_iff.1 h
    exact bind_eq_some_iff.2 ⟨a, middle ++ more, first.append hp more, (second a).append hf more⟩

/-- One of two readers reads, whatever the text is. -/
theorem ite {c : Prop} [Decidable c] {p q p' q' : TextReader α} (yes : ExtendsTo p q)
    (no : ExtendsTo p' q') : ExtendsTo (if c then p else p') (if c then q else q') := by
  split
  · exact yes
  · exact no

/-- Nothing is taken if nothing was found. -/
theorem attempt {p q : TextReader (Option α)} (h : ExtendsTo p q) :
    ExtendsTo (TextReader.attempt p) (TextReader.attempt q) := by
  refine of_forall fun {cs result rest} hread => ?_
  simp only [TextReader.attempt] at hread ⊢
  rcases hp : p cs with _ | ⟨_ | a, after⟩
  · rw [hp] at hread
    cases hread
  · rw [hp] at hread
    cases hread
    exact ⟨List.suffix_refl _, fun more => by rw [h.append hp more]⟩
  · rw [hp] at hread
    cases hread
    exact ⟨h.suffix hp, fun more => by rw [h.append hp more]⟩

/-- A character is taken. -/
theorem next : ExtendsTo TextReader.next TextReader.next := by
  refine of_forall fun {cs _ _} h => ?_
  cases cs with
  | nil => cases h
  | cons c rest =>
    cases h
    exact ⟨List.suffix_cons _ _, fun _ => rfl⟩

end ExtendsTo

/-! ## Blanks and comments -/

/-- Blanks and comments are at the beginning of a text. -/
theorem skipBlanks_suffix (inComment : Bool) (cs : List Char) : skipBlanks inComment cs <:+ cs := by
  induction cs generalizing inComment with
  | nil => cases inComment <;> exact List.suffix_refl _
  | cons c rest ih =>
    have hrest := fun inComment => (ih inComment).trans (List.suffix_cons c rest)
    cases inComment with
    | true => exact hrest _
    | false =>
      rw [skipBlanks]
      split
      · exact hrest true
      · split
        · exact hrest false
        · exact List.suffix_refl _

/-- Blanks end where something else follows. -/
theorem skipBlanks_append {inComment : Bool} {cs rest : List Char} {c : Char}
    (h : skipBlanks inComment cs = c :: rest) (more : List Char) :
    skipBlanks inComment (cs ++ more) = c :: rest ++ more := by
  induction cs generalizing inComment with
  | nil => cases inComment <;> cases h
  | cons d tail ih =>
    cases inComment with
    | true => exact ih h
    | false =>
      rw [List.cons_append]
      rw [skipBlanks] at h ⊢
      split at h
      next hcomment => rw [if_pos hcomment, ih h]
      next hcomment =>
        rw [if_neg hcomment]
        split at h
        next hblank => rw [if_pos hblank, ih h]
        next hblank =>
          rw [if_neg hblank]
          exact congrArg (· ++ more) h

/-- A comment goes on to the end of the line. -/
theorem skipBlanks_comment {cs : List Char} (h : '\n' ∉ cs) : skipBlanks true cs = [] := by
  induction cs with
  | nil => rfl
  | cons c rest ih =>
    obtain ⟨hc, hrest⟩ := not_or.1 (mt List.mem_cons.2 h)
    rw [skipBlanks, bne_iff_ne.2 (Ne.symm hc)]
    exact ih hrest

/-- Blanks at the end of a text are followed by what is put there, unless a comment goes on. -/
theorem skipBlanks_closing {inComment : Bool} {cs : List Char}
    (h : skipBlanks inComment cs = []) :
    (∀ more, skipBlanks inComment (cs ++ ')' :: more) = ')' :: more) ∨
      ∀ more, '\n' ∉ more → skipBlanks inComment (cs ++ ')' :: more) = [] := by
  induction cs generalizing inComment with
  | nil =>
    cases inComment with
    | true =>
      refine .inr fun more hmore => ?_
      show skipBlanks true more = []
      exact skipBlanks_comment hmore
    | false => exact .inl fun _ => rfl
  | cons c rest ih =>
    cases inComment with
    | true => exact ih h
    | false =>
      rw [skipBlanks] at h
      simp only [List.cons_append, skipBlanks]
      split at h
      next hcomment =>
        simp only [if_pos hcomment]
        exact ih h
      next hcomment =>
        simp only [if_neg hcomment]
        split at h
        next hblank =>
          simp only [if_pos hblank]
          exact ih h
        next => cases h

/-! ## Readers that look beyond what they take -/

/-- Whether a reader takes characters from the beginning of a text and does not look far beyond
them.  Where it leaves something, more text may follow that.  At the end of a text it leaves a
closing parenthesis that follows, or takes it and the rest of its line for a comment. -/
structure IsLocal (p : TextReader α) : Prop where
  suffix : ∀ {cs a rest}, p cs = some (a, rest) → rest <:+ cs
  append : ∀ {cs a c rest}, p cs = some (a, c :: rest) →
    ∀ more, p (cs ++ more) = some (a, c :: rest ++ more)
  closing : ∀ {cs a}, p cs = some (a, []) →
    (∀ more, p (cs ++ ')' :: more) = some (a, ')' :: more)) ∨
      ∀ more, '\n' ∉ more → p (cs ++ ')' :: more) = some (a, [])

/-- A reader that reads the same with more text behind does not look beyond what it takes. -/
theorem ExtendsTo.isLocal {p : TextReader α} (h : ExtendsTo p p) : IsLocal p :=
  ⟨h.suffix, fun hp => h.append hp, fun hp => .inl fun more => h.append hp (')' :: more)⟩

namespace IsLocal

/-- Nothing is taken. -/
theorem pure (a : α) : IsLocal (Pure.pure a) := (ExtendsTo.pure a).isLocal

/-- One reader reads after the other.  Where the first one reaches the end of the text, so does the
second one. -/
theorem bind {p : TextReader α} {f : α → TextReader β} (first : IsLocal p)
    (second : ∀ a, IsLocal (f a)) : IsLocal (p >>= f) where
  suffix h := by
    obtain ⟨a, middle, hp, hf⟩ := bind_eq_some_iff.1 h
    exact ((second a).suffix hf).trans (first.suffix hp)
  append h more := by
    obtain ⟨a, middle, hp, hf⟩ := bind_eq_some_iff.1 h
    cases middle with
    | nil => cases List.suffix_nil.1 ((second a).suffix hf)
    | cons c middle =>
      exact bind_eq_some_iff.2 ⟨a, _, first.append hp more, (second a).append hf more⟩
  closing {cs b} h := by
    obtain ⟨a, middle, hp, hf⟩ := bind_eq_some_iff.1 h
    have hread : ∀ {more after rest}, p (cs ++ ')' :: more) = some (a, after) →
        f a after = some (b, rest) → (p >>= f) (cs ++ ')' :: more) = some (b, rest) :=
      fun hp hf => bind_eq_some_iff.2 ⟨a, _, hp, hf⟩
    cases middle with
    | nil =>
      rcases first.closing hp with hopen | hcomment
      · exact ((second a).closing hf).imp (fun h more => hread (hopen more) (h more))
          fun h more hmore => hread (hopen more) (h more hmore)
      · exact .inr fun more hmore => hread (hcomment more hmore) hf
    | cons c middle =>
      have hfirst := fun more => first.append hp (')' :: more)
      exact ((second a).closing hf).imp (fun h more => hread (hfirst more) (h more))
        fun h more hmore => hread (hfirst more) (h more hmore)

/-- One of two readers reads, whatever the text is. -/
theorem ite {c : Prop} [Decidable c] {p q : TextReader α} (yes : IsLocal p) (no : IsLocal q) :
    IsLocal (if c then p else q) := by
  split
  · exact yes
  · exact no

/-- Whether a character follows is clear unless the text ends. -/
theorem aheadIs {c : Char} (h : c ≠ ')') : IsLocal (TextReader.aheadIs c) where
  suffix hread := by
    cases hread
    exact List.suffix_refl _
  append {cs _ _ _} hread more := by
    obtain ⟨rfl, rfl⟩ := Prod.mk.inj (Option.some.inj hread)
    rfl
  closing hread := by
    cases hread
    exact .inl fun more => by simp [TextReader.aheadIs, Ne.symm h]

/-- A character is taken if it is there. -/
theorem skip? {c : Char} (h : c ≠ ')') : IsLocal (TextReader.skip? c) := by
  have hcons : ∀ d rest, TextReader.skip? c (d :: rest) =
      if d = c then some (true, rest) else some (false, d :: rest) := fun _ _ => rfl
  constructor
  · intro cs found rest hread
    cases cs with
    | nil =>
      cases hread
      exact List.suffix_refl _
    | cons d tail =>
      rw [hcons] at hread
      split at hread <;> cases hread
      · exact List.suffix_cons d _
      · exact List.suffix_refl _
  · intro cs found e rest hread more
    cases cs with
    | nil => cases hread
    | cons d tail =>
      rw [hcons] at hread
      rw [List.cons_append, hcons]
      split at hread <;> cases hread
      next hsame => exact if_pos hsame
      next hother => exact if_neg hother
  · intro cs found hread
    cases cs with
    | nil =>
      cases hread
      exact .inl fun more => if_neg (Ne.symm h)
    | cons d tail =>
      rw [hcons] at hread
      split at hread <;> cases hread
      next hsame => exact .inl fun more => if_pos hsame

/-- Blanks and comments are taken, to the end of the text if nothing else follows. -/
theorem ignore (inComment : Bool) : IsLocal (TextReader.ignore inComment) where
  suffix {cs _ _} h := by
    obtain ⟨-, rfl⟩ := Prod.mk.inj (Option.some.inj h)
    exact skipBlanks_suffix inComment cs
  append h more := by
    obtain ⟨-, h⟩ := Prod.mk.inj (Option.some.inj h)
    rw [TextReader.ignore, skipBlanks_append h]
  closing h := by
    obtain ⟨-, h⟩ := Prod.mk.inj (Option.some.inj h)
    simp only [TextReader.ignore, Option.some.injEq, Prod.mk.injEq, true_and]
    exact skipBlanks_closing h

/-- Blanks and comments are taken where they are ignored. -/
theorem blanks (ignored : Bool) : IsLocal (TextReader.blanks ignored) :=
  .ite (.ignore false) (.pure ())

end IsLocal

/-! ## Readers that end with a character -/

namespace ExtendsTo

/-- A reader that reads the same with more text behind, after blanks and comments, does so if it
reads nothing at the end of a text. -/
theorem blanks_bind {ignored : Bool} {p : TextReader α} (h : ExtendsTo p p) (hnil : p [] = none) :
    ExtendsTo (TextReader.blanks ignored >>= fun _ => p)
      (TextReader.blanks ignored >>= fun _ => p) where
  suffix hread := by
    obtain ⟨_, middle, hblanks, hp⟩ := bind_eq_some_iff.1 hread
    exact (h.suffix hp).trans ((IsLocal.blanks ignored).suffix hblanks)
  append hread more := by
    obtain ⟨_, middle, hblanks, hp⟩ := bind_eq_some_iff.1 hread
    cases middle with
    | nil =>
      rw [hnil] at hp
      cases hp
    | cons c middle =>
      exact bind_eq_some_iff.2
        ⟨_, _, (IsLocal.blanks ignored).append hblanks more, h.append hp more⟩

/-- The next character that is not ignored is looked at. -/
theorem peek (ignored : Bool) : ExtendsTo (TextReader.peek ignored) (TextReader.peek ignored) := by
  refine blanks_bind (of_forall fun {cs _ _} h => ?_) rfl
  cases cs with
  | nil => cases h
  | cons c rest =>
    cases h
    exact ⟨List.suffix_refl _, fun _ => rfl⟩

/-- The next character that is not ignored is taken. -/
theorem nextPast (ignored : Bool) :
    ExtendsTo (TextReader.nextPast ignored) (TextReader.nextPast ignored) :=
  blanks_bind .next rfl

/-- Some characters that are not ignored are taken. -/
theorem several (ignored : Bool) (n : Nat) :
    ExtendsTo (TextReader.several ignored n) (TextReader.several ignored n) := by
  induction n with
  | zero => exact .pure []
  | succ n ih => exact .bind (.nextPast ignored) fun c => .bind ih fun others => .pure _

/-- Characters are taken up to one of a kind. -/
theorem takeUpTo (ignored : Bool) (stop : Char) :
    ExtendsTo (TextReader.takeUpTo ignored stop) (TextReader.takeUpTo ignored stop) := by
  have hcut : ∀ cs inComment taken rest, cutAt? ignored stop inComment cs = some (taken, rest) →
      rest <:+ cs ∧ ∀ more, cutAt? ignored stop inComment (cs ++ more) =
        some (taken, rest ++ more) := by
    intro cs
    induction cs with
    | nil => exact fun inComment _ _ h => by cases inComment <;> cases h
    | cons c tail ih =>
      intro inComment taken rest h
      have hrest : ∀ {inComment' taken' rest'}, cutAt? ignored stop inComment' tail =
          some (taken', rest') → rest' <:+ c :: tail := fun h =>
        (ih _ _ _ h).1.trans (List.suffix_cons c tail)
      cases inComment with
      | true => exact ⟨hrest h, (ih _ _ _ h).2⟩
      | false =>
        simp only [List.cons_append, cutAt?] at h ⊢
        split at h
        next hstop =>
          cases h
          exact ⟨List.suffix_cons c tail, fun more => if_pos hstop⟩
        next hstop =>
          simp only [if_neg hstop]
          split at h
          next hcomment =>
            simp only [if_pos hcomment]
            exact ⟨hrest h, (ih _ _ _ h).2⟩
          next hcomment =>
            simp only [if_neg hcomment]
            split at h
            next hblank =>
              simp only [if_pos hblank]
              exact ⟨hrest h, (ih _ _ _ h).2⟩
            next hblank =>
              simp only [if_neg hblank]
              obtain ⟨⟨others, after⟩, hothers, hsame⟩ := Option.map_eq_some_iff.1 h
              obtain ⟨rfl, rfl⟩ := Prod.mk.inj hsame
              refine ⟨hrest hothers, fun more => ?_⟩
              rw [(ih _ _ _ hothers).2 more]
              rfl
  exact of_forall (hcut _ _ _ _)

end ExtendsTo

end TextReader

end TieredStore
