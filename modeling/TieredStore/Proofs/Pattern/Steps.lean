import TieredStore.Pattern.Covers
import TieredStore.Pattern.Engine
import TieredStore.Proofs.Pattern.LocalReaders

/-!
# Reading patterns step by step

However patterns are written, they are read from left to right by steps.  Each step reads a move
from the text that is left, as the flags of the innermost group say, and makes it.  A text that can
be read in this way is a pattern.

A move that is made at the top level of a pattern is made in the same way inside of a group.  So a
text that can be read by itself is read in the same way as a group between two anchors, if this can
be read at all: a comment at the end of the text would go on over the end of the group.

Main results:

- Theorems `PatternSyntax.finish?_eq_some_iff` and `PatternSyntax.Reads.unique`: a text is read by
  steps through all of it, in one way.
- Theorem `PatternSyntax.Steps.within`: what is read by itself is read inside of groups.
- Theorem `PatternSyntax.Reads.anchored`: what is read between anchors, for a text that can be read
  by itself.
- Theorem `Phrase.coversPart_anchored_iff`: a pattern between anchors covers a part of the texts
  that it covers as a whole.
-/

namespace TieredStore

open Pattern (Level Move Progress)

/-! ## Ways to write patterns -/

/-- A way to write patterns: how their moves are read.  The parts that are put around a pattern have
their usual meaning, and a move is read from the characters that it takes. -/
structure PatternSyntax where
  /-- What the reading of a text depends on besides the text. -/
  Flags : Type
  initial : Flags
  /-- Reads the next move. -/
  readMove : Flags → TextReader (Move Flags)
  /-- No move is read from nothing. -/
  nil : ∀ flags, readMove flags [] = none
  /-- A caret stands for the start of the text. -/
  textStart : ∀ rest, readMove initial ('^' :: rest) = some (.push (.anchor .textStart), rest)
  /-- A dollar sign stands for the end of the text. -/
  textEnd : ∀ rest, readMove initial ('$' :: rest) = some (.push (.anchor .textEnd), rest)
  /-- A parenthesis, a question mark and a colon open a group that remembers nothing. -/
  opening : ∀ rest,
    readMove initial ('(' :: '?' :: ':' :: rest) = some (.open false none initial, rest)
  /-- A parenthesis closes a group, whatever the flags are. -/
  closing : ∀ flags rest, readMove flags (')' :: rest) = some (.close, rest)
  isLocal : ∀ flags, (readMove flags).IsLocal

namespace PatternSyntax

variable {S : PatternSyntax}

/-- Steps lead from how far a text was read to how far it is read then. -/
inductive Steps (S : PatternSyntax) :
    Progress S.Flags → List Char → Progress S.Flags → List Char → Prop where
  | done (p : Progress S.Flags) (cs : List Char) : Steps S p cs p cs
  | step {p q r : Progress S.Flags} {cs middle rest : List Char} {move : Move S.Flags}
      (read : S.readMove p.level.flags cs = some (move, middle)) (made : p.make? move = some q)
      (later : Steps S q middle r rest) : Steps S p cs r rest

/-- Whether steps lead through the rest of a text to its end, where no group is open. -/
def Finishes (S : PatternSyntax) (p : Progress S.Flags) (cs : List Char) (phrase : Phrase) : Prop :=
  ∃ q, S.Steps p cs q [] ∧ q.outer = [] ∧ q.level.phrase = phrase

/-- Whether a text can be read as a pattern, and as which. -/
def Reads (S : PatternSyntax) (cs : List Char) (phrase : Phrase) : Prop :=
  S.Finishes (.start S.initial) cs phrase

namespace Steps

variable {p q r : Progress S.Flags} {cs middle rest : List Char}

/-- No step leads on from the end of a text. -/
theorem eq_of_nil (h : S.Steps p [] q rest) : q = p ∧ rest = [] := by
  cases h with
  | done => exact ⟨rfl, rfl⟩
  | step read =>
    rw [S.nil] at read
    cases read

/-- Steps that lead to the end of a text go on wherever other steps from the same place lead. -/
theorem from_middle (h : S.Steps p cs q []) (first : S.Steps p cs r middle) :
    S.Steps r middle q [] := by
  induction first with
  | done => exact h
  | step read made _ ih =>
    cases h with
    | done =>
      rw [S.nil] at read
      cases read
    | step read' made' later =>
      obtain ⟨rfl, rfl⟩ := Prod.mk.inj (Option.some.inj (read.symm.trans read'))
      obtain rfl := Option.some.inj (made.symm.trans made')
      exact ih later

/-- Steps through the same text lead to the same end. -/
theorem unique (h : S.Steps p cs q []) (other : S.Steps p cs r []) : q = r :=
  (h.from_middle other).eq_of_nil.1

/-- Steps follow one another. -/
theorem trans (first : S.Steps p cs q middle) (later : S.Steps q middle r rest) :
    S.Steps p cs r rest := by
  induction first with
  | done => exact later
  | step read made _ ih => exact .step read made (ih later)

/-- Steps are made inside of other groups as at the top level.  A parenthesis behind the text is
left then, unless it belongs to a comment at the end of the text. -/
theorem within (h : S.Steps p cs q []) (around : List (Level S.Flags)) {more : List Char}
    (hmore : '\n' ∉ more) :
    S.Steps (p.within around) (cs ++ ')' :: more) (q.within around) (')' :: more) ∨
      S.Steps (p.within around) (cs ++ ')' :: more) (q.within around) [] := by
  generalize hend : ([] : List Char) = rest at h
  induction h with
  | done =>
    subst hend
    exact .inl (.done _ _)
  | @step p q r cs middle rest move read made later ih =>
    subst hend
    have hmade := Progress.make?_within made around
    cases middle with
    | nil =>
      -- the last step, behind which the reader may look
      obtain ⟨rfl, -⟩ := later.eq_of_nil
      rcases (S.isLocal p.level.flags).closing read with hleft | hcomment
      · exact .inl (.step (hleft more) hmade (.done _ _))
      · exact .inr (.step (hcomment more hmore) hmade (.done _ _))
    | cons c middle =>
      have hread := (S.isLocal p.level.flags).append read (')' :: more)
      exact (ih rfl).imp (.step hread hmade) (.step hread hmade)

end Steps

/-! ## Texts -/

variable {cs : List Char} {phrase whole : Phrase}

/-- A text is read in one way at most. -/
theorem Reads.unique (h : S.Reads cs phrase) (hother : S.Reads cs whole) : phrase = whole := by
  obtain ⟨q, hsteps, -, rfl⟩ := h
  obtain ⟨r, hother, -, rfl⟩ := hother
  rw [hsteps.unique hother]

/-- Nothing is left to be read if no group is open. -/
theorem finish?_nil {fuel : Nat} {p : Progress S.Flags} :
    Progress.finish? S.readMove fuel p [] = some phrase ↔ S.Finishes p [] phrase := by
  have hend : S.Finishes p [] phrase ↔ p.outer = [] ∧ p.level.phrase = phrase := by
    constructor
    · rintro ⟨q, hsteps, hq⟩
      obtain ⟨rfl, -⟩ := hsteps.eq_of_nil
      exact hq
    · exact fun h => ⟨p, .done _ _, h⟩
  rw [hend, Progress.finish?, ← List.isEmpty_iff]
  split
  next houter => simp [houter]
  next houter => simp [houter]

/-- A text is read move by move if steps lead through it.  Its length is enough fuel if every move
takes a character. -/
theorem finish?_eq_some_iff
    (hshort : ∀ {flags cs move rest}, S.readMove flags cs = some (move, rest) →
      rest.length < cs.length)
    {fuel : Nat} {p : Progress S.Flags} (hfuel : cs.length ≤ fuel) :
    Progress.finish? S.readMove fuel p cs = some phrase ↔ S.Finishes p cs phrase := by
  induction fuel generalizing p cs with
  | zero =>
    obtain rfl := List.eq_nil_of_length_eq_zero (Nat.le_zero.1 hfuel)
    exact finish?_nil
  | succ fuel ih =>
    cases cs with
    | nil => exact finish?_nil
    | cons c cs =>
      rw [Progress.finish?]
      cases hread : S.readMove p.level.flags (c :: cs) with
      | none =>
        refine ⟨nofun, ?_⟩
        rintro ⟨q, hsteps, -⟩
        cases hsteps with
        | step read => cases hread.symm.trans read
      | some found =>
        obtain ⟨move, middle⟩ := found
        have hmiddle : middle.length ≤ fuel :=
          Nat.le_of_lt_succ (Nat.lt_of_lt_of_le (hshort hread) hfuel)
        dsimp only
        cases hmade : p.make? move with
        | none =>
          refine ⟨nofun, ?_⟩
          rintro ⟨q, hsteps, -⟩
          cases hsteps with
          | step read made =>
            obtain ⟨rfl, rfl⟩ := Prod.mk.inj (Option.some.inj (hread.symm.trans read))
            cases hmade.symm.trans made
        | some q =>
          refine (ih hmiddle).trans ⟨fun ⟨r, later, hr⟩ => ⟨r, .step hread hmade later, hr⟩, ?_⟩
          rintro ⟨r, hsteps, hr⟩
          exact ⟨r, hsteps.from_middle (.step hread hmade (.done _ _)), hr⟩

end PatternSyntax

/-! ## Patterns between anchors -/

namespace Pattern

/-- Whether a pattern covers a part of a text. -/
def CoversPart (p : Pattern) (text : List Char) : Prop :=
  ∃ i j, j ≤ text.length ∧ Covers text p i j

/-- Nothing is before the first character alone. -/
theorem textStart_holds_iff {text : List Char} {i : Nat} (inside : i ≤ text.length) :
    Anchor.textStart.holds (gapAt text i) = true ↔ i = 0 := by
  show (if i = 0 then none else text[i - 1]?).isNone = true ↔ i = 0
  split
  next hi => exact ⟨fun _ => hi, fun _ => rfl⟩
  next hi =>
    rw [Option.isNone_iff_eq_none, List.getElem?_eq_none_iff]
    omega

/-- Nothing is after the last character. -/
theorem textEnd_holds_iff {text : List Char} {i : Nat} :
    Anchor.textEnd.holds (gapAt text i) = true ↔ text.length ≤ i := by
  show text[i]?.isNone = true ↔ text.length ≤ i
  rw [Option.isNone_iff_eq_none, List.getElem?_eq_none_iff]

end Pattern

namespace Phrase

/-- A phrase as a group between two anchors. -/
def anchored (remembers : Bool) (p : Phrase) : Phrase :=
  .row [.anchor .textStart, .group remembers p, .anchor .textEnd]

/-- A phrase between anchors covers a part of the texts that it covers as a whole. -/
theorem coversPart_anchored_iff {remembers : Bool} {p : Phrase} {text : List Char} :
    (anchored remembers p).pattern.CoversPart text ↔ p.pattern.MatchesWhole text := by
  have hpattern : (anchored remembers p).pattern =
      .seq (.anchor .textStart) (.seq p.pattern (.seq (.anchor .textEnd) .empty)) := rfl
  rw [hpattern]
  constructor
  · rintro ⟨i, j, hj, hcovers⟩
    obtain ⟨i', hstart, hcovers⟩ := Pattern.covers_seq.1 hcovers
    obtain ⟨k, hp, hcovers⟩ := Pattern.covers_seq.1 hcovers
    obtain ⟨k', hend, hempty⟩ := Pattern.covers_seq.1 hcovers
    cases hstart with
    | anchor hstart =>
      cases hend with
      | anchor hend =>
        cases hempty
        obtain rfl := (Pattern.textStart_holds_iff (Nat.le_trans hp.le hj)).1 hstart
        rw [Nat.le_antisymm hj (Pattern.textEnd_holds_iff.1 hend)] at hp
        exact hp
  · intro h
    exact ⟨0, text.length, Nat.le_refl _, .seq (.anchor rfl)
      (.seq h (.seq (.anchor (Pattern.textEnd_holds_iff.2 (Nat.le_refl _))) (.empty _)))⟩

end Phrase

namespace PatternSyntax

variable {S : PatternSyntax}

/-- The level around a text that is read as a group between anchors. -/
def anchoredLevel (S : PatternSyntax) : Level S.Flags :=
  (Level.fresh false S.initial).push (.anchor .textStart)

/-- A text that can be read by itself is read in the same way as a group between anchors, if it can
be read there. -/
theorem Reads.anchored {cs : List Char} {phrase whole : Phrase} (h : S.Reads cs phrase)
    (hwhole : S.Reads ('^' :: '(' :: '?' :: ':' :: (cs ++ [')', '$'])) whole) :
    ∃ remembers, whole = phrase.anchored remembers := by
  obtain ⟨q, hsteps, houter, rfl⟩ := h
  obtain ⟨r, hall, hr, rfl⟩ := hwhole
  have hopen : S.Steps (.start S.initial) ('^' :: '(' :: '?' :: ':' :: (cs ++ [')', '$']))
      ((Progress.start S.initial).within [S.anchoredLevel]) (cs ++ [')', '$']) :=
    .step (S.textStart _) rfl (.step (S.opening _) rfl (.done _ _))
  have hinside := hall.from_middle hopen
  have hend : '\n' ∉ ['$'] := by decide
  rcases hsteps.within [S.anchoredLevel] hend with hleft | hcomment
  · let after := S.anchoredLevel.push (.group q.level.remembers q.level.phrase)
    have hclose : (q.within [S.anchoredLevel]).make? .close = some ⟨q.names, [], after⟩ := by
      simp only [Progress.make?, Progress.within, houter, List.nil_append]
      rfl
    have hclosed : S.Steps (q.within [S.anchoredLevel]) [')', '$']
        ⟨q.names, [], after.push (.anchor .textEnd)⟩ [] :=
      .step (S.closing _ _) hclose (.step (S.textEnd _) rfl (.done _ _))
    obtain rfl := hinside.unique (hleft.trans hclosed)
    exact ⟨q.level.remembers, rfl⟩
  · -- the group is closed by nothing if a comment takes the parenthesis
    obtain rfl := hinside.unique hcomment
    simp [Progress.within] at hr

/-- Whether an engine follows a way to write patterns: it compiles none but those that can be read,
and finds them in the texts of which they cover a part. -/
def IsFollowed [PatternEngine] (S : PatternSyntax) : Prop :=
  ∀ text pattern, PatternEngine.compile text = .ok pattern →
    ∃ phrase, S.Reads text.toList phrase ∧
      ∀ name : String, pattern.isFoundIn name = true ↔ phrase.pattern.CoversPart name.toList

end PatternSyntax

end TieredStore
