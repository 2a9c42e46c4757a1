import TieredStore.Pattern.Syntax

/-!
# What a pattern covers

What a pattern matches is a relation between two positions of a text: the pattern
covers the characters between them.

Main results:

- Theorem `Pattern.Covers.star_trans`: repetitions follow one another.
- Theorem `Pattern.covers_star_of_lt`: a repetition that moves on ends with a part that
  moves on.
-/

namespace TieredStore

namespace Pattern

/-- The position before the character with an index. -/
def gapAt (text : List Char) (i : Nat) : Gap := ⟨if i = 0 then none else text[i - 1]?, text[i]?⟩

/-- A pattern covers the text from one position to another. -/
inductive Covers (text : List Char) : Pattern → Nat → Nat → Prop where
  | empty (i : Nat) : Covers text .empty i i
  | char {set : CharSet} {i : Nat} {c : Char} (at_i : text[i]? = some c)
      (member : set.has c = true) :
      Covers text (.char set) i (i + 1)
  | anchor {a : Anchor} {i : Nat} (holds : a.holds (gapAt text i) = true) :
      Covers text (.anchor a) i i
  /-- A sequence covers what its parts cover one after the other. -/
  | seq {p q : Pattern} {i j k : Nat} (first : Covers text p i j) (second : Covers text q j k) :
      Covers text (.seq p q) i k
  /-- A choice covers what its left part covers. -/
  | left {p q : Pattern} {i j : Nat} (h : Covers text p i j) : Covers text (.alt p q) i j
  /-- A choice covers what its right part covers. -/
  | right {p q : Pattern} {i j : Nat} (h : Covers text q i j) : Covers text (.alt p q) i j
  | done {p : Pattern} (i : Nat) : Covers text (.star p) i i
  | more {p : Pattern} {i j k : Nat} (first : Covers text p i j)
      (rest : Covers text (.star p) j k) :
      Covers text (.star p) i k

/-- A pattern matches a text as a whole. -/
def MatchesWhole (p : Pattern) (text : List Char) : Prop := Covers text p 0 text.length

/-- What is covered does not run backward. -/
theorem Covers.le {text : List Char} {p : Pattern} {i j : Nat} (h : Covers text p i j) : i ≤ j := by
  induction h with
  | empty | anchor | done => exact Nat.le_refl _
  | char => exact Nat.le_succ _
  | seq _ _ h₁ h₂ | more _ _ h₁ h₂ => exact Nat.le_trans h₁ h₂
  | left _ h | right _ h => exact h

/-- A sequence covers what its parts cover one after the other. -/
theorem covers_seq {text : List Char} {p q : Pattern} {i k : Nat} :
    Covers text (.seq p q) i k ↔ ∃ j, Covers text p i j ∧ Covers text q j k :=
  ⟨fun h => by cases h with | seq first second => exact ⟨_, first, second⟩,
    fun ⟨_, first, second⟩ => .seq first second⟩

/-- A choice covers what one of its parts covers. -/
theorem covers_alt {text : List Char} {p q : Pattern} {i j : Nat} :
    Covers text (.alt p q) i j ↔ Covers text p i j ∨ Covers text q i j :=
  ⟨fun h => by cases h with | left h => exact .inl h | right h => exact .inr h,
    fun h => h.elim .left .right⟩

/-- Repetitions follow one another. -/
theorem Covers.star_trans {text : List Char} {p : Pattern} {i j k : Nat}
    (first : Covers text (.star p) i j) (rest : Covers text (.star p) j k) :
    Covers text (.star p) i k := by
  generalize hq : Pattern.star p = q at first
  induction first with
  | done =>
    cases hq
    exact rest
  | more head _ _ ih =>
    cases hq
    exact .more head (ih rest rfl)
  | empty | char | anchor | seq | left | right => cases hq

/-- A repetition that moves on ends with a part that moves on. -/
theorem covers_star_of_lt {text : List Char} {p : Pattern} {i k : Nat}
    (h : Covers text (.star p) i k) (moves : i < k) :
    ∃ j, j < k ∧ Covers text (.star p) i j ∧ Covers text p j k := by
  generalize hq : Pattern.star p = q at h
  induction h with
  | done => exact absurd moves (Nat.lt_irrefl _)
  | @more p' i j k head tail _ ih =>
    cases hq
    rcases Nat.lt_or_ge j k with hlt | hge
    · obtain ⟨m, hm, before, last⟩ := ih hlt rfl
      exact ⟨m, hm, .more head before, last⟩
    · have hjk : j = k := Nat.le_antisymm tail.le hge
      exact ⟨i, moves, .done i, hjk ▸ head⟩
  | empty | char | anchor | seq | left | right => cases hq

end Pattern

end TieredStore
