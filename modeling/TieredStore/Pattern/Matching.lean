import TieredStore.Pattern.Covers
import TieredStore.Pattern.Marked

/-!
# Matching

The marks on a pattern say which of its characters may cover the character before the
current position.  They are right before the first character, and stay right from one
position to the next, so that the matcher finds what the pattern covers.

Main results:

- Theorem `Marked.IsRight.advance`: the marks stay right while the text is read.
- Theorem `Pattern.occursIn_iff`: the matcher finds a pattern in a text if and only if
  the pattern covers some part of the text.
-/

namespace TieredStore

namespace Marked

open Pattern (Covers gapAt covers_seq covers_alt covers_star_of_lt)

variable {text : List Char}

/-- The marks at a position are right for a pattern that may start at the positions in
`Start`: a character bears one exactly if it covers the one before the position. -/
def IsRight (text : List Char) (i : Nat) : (Nat → Prop) → Marked → Prop
  | _, .empty | _, .anchor _ => True
  | Start, .char mark set => mark = true ↔ ∃ k, Start k ∧ Covers text (.char set) k i
  | Start, .seq p q =>
    p.IsRight text i Start ∧ q.IsRight text i (fun k => ∃ s, Start s ∧ Covers text p.pattern s k)
  | Start, .alt p q => p.IsRight text i Start ∧ q.IsRight text i Start
  | Start, .star p => p.IsRight text i (fun k => ∃ s, Start s ∧ Covers text (.star p.pattern) s k)

/-- A new mark is put on the pattern that was there. -/
theorem pattern_advance (gap : Gap) (c : Char) (mayStart : Bool) (m : Marked) :
    (m.advance gap c mayStart).pattern = m.pattern := by
  induction m generalizing mayStart with
  | empty | char | anchor => rfl
  | seq p q hp hq | alt p q hp hq => simp only [advance, pattern, hp, hq]
  | star p hp => simp only [advance, pattern, hp]

/-- A pattern without marks is the pattern. -/
theorem pattern_unmarked (p : Pattern) : p.unmarked.pattern = p := by
  induction p with
  | empty | char | anchor => rfl
  | seq p q hp hq | alt p q hp hq => simp only [Pattern.unmarked, pattern, hp, hq]
  | star p hp => simp only [Pattern.unmarked, pattern, hp]

/-- A pattern covers the empty text at a position as the relation says. -/
theorem coversGap_iff {i : Nat} (m : Marked) :
    m.coversGap (gapAt text i) = true ↔ Covers text m.pattern i i := by
  induction m with
  | empty => exact ⟨fun _ => .empty i, fun _ => rfl⟩
  | char mark set =>
    refine ⟨fun h => absurd h Bool.false_ne_true, fun h => ?_⟩
    generalize hj : i = j at h
    cases h
  | anchor a => exact ⟨fun h => .anchor h, fun h => by cases h with | anchor h => exact h⟩
  | seq p q hp hq =>
    rw [coversGap, Bool.and_eq_true, hp, hq, pattern, covers_seq]
    refine ⟨fun ⟨first, second⟩ => ⟨i, first, second⟩, fun ⟨j, first, second⟩ => ?_⟩
    have hj : j = i := Nat.le_antisymm second.le first.le
    subst hj
    exact ⟨first, second⟩
  | alt p q hp hq => rw [coversGap, Bool.or_eq_true, hp, hq, pattern, covers_alt]
  | star p _ => exact ⟨fun _ => .done i, fun _ => rfl⟩

/-- A pattern with the right marks may end at a position exactly if it covers some
characters before the position. -/
theorem mayEnd_iff {i : Nat} {Start : Nat → Prop} {m : Marked} (right : m.IsRight text i Start) :
    m.mayEnd (gapAt text i) = true ↔ ∃ s, Start s ∧ s < i ∧ Covers text m.pattern s i := by
  induction m generalizing Start with
  | empty =>
    refine ⟨fun h => absurd h Bool.false_ne_true, fun ⟨s, _, before, h⟩ => ?_⟩
    cases h
    exact absurd before (Nat.lt_irrefl _)
  | anchor a =>
    refine ⟨fun h => absurd h Bool.false_ne_true, fun ⟨s, _, before, h⟩ => ?_⟩
    cases h
    exact absurd before (Nat.lt_irrefl _)
  | char mark set =>
    refine Iff.trans right ⟨fun ⟨k, start, h⟩ => ⟨k, start, ?_, h⟩, fun ⟨k, start, _, h⟩ =>
      ⟨k, start, h⟩⟩
    cases h
    exact Nat.lt_succ_self k
  | seq p q hp hq =>
    rw [mayEnd, Bool.or_eq_true, Bool.and_eq_true, hq right.2, hp right.1, coversGap_iff, pattern]
    refine ⟨fun h => ?_, fun ⟨s, start, before, h⟩ => ?_⟩
    · rcases h with ⟨k, ⟨s, start, first⟩, before, second⟩ | ⟨⟨s, start, before, first⟩, second⟩
      · exact ⟨s, start, Nat.lt_of_le_of_lt first.le before, .seq first second⟩
      · exact ⟨s, start, before, .seq first second⟩
    · obtain ⟨k, first, second⟩ := covers_seq.1 h
      rcases Nat.lt_or_eq_of_le second.le with hlt | heq
      · exact .inl ⟨k, ⟨s, start, first⟩, hlt, second⟩
      · subst heq
        exact .inr ⟨⟨s, start, before, first⟩, second⟩
  | alt p q hp hq =>
    rw [mayEnd, Bool.or_eq_true, hp right.1, hq right.2, pattern]
    refine ⟨fun h => ?_, fun ⟨s, start, before, h⟩ => ?_⟩
    · rcases h with ⟨s, start, before, h⟩ | ⟨s, start, before, h⟩
      · exact ⟨s, start, before, .left h⟩
      · exact ⟨s, start, before, .right h⟩
    · exact (covers_alt.1 h).imp (fun h => ⟨s, start, before, h⟩) (fun h => ⟨s, start, before, h⟩)
  | star p hp =>
    rw [mayEnd, hp right, pattern]
    refine ⟨fun ⟨k, ⟨s, start, first⟩, before, last⟩ => ?_, fun ⟨s, start, before, h⟩ => ?_⟩
    · exact ⟨s, start, Nat.lt_of_le_of_lt first.le before,
        first.star_trans (.more last (.done i))⟩
    · obtain ⟨k, hk, first, last⟩ := covers_star_of_lt h before
      exact ⟨k, ⟨s, start, first⟩, hk, last⟩

/-- A pattern with the right marks covers the characters up to a position if it may end
there, or if it may start there and covers the empty text. -/
theorem ends_iff {i : Nat} {Start : Nat → Prop} {m : Marked} (right : m.IsRight text i Start) :
    m.mayEnd (gapAt text i) = true ∨ (Start i ∧ m.coversGap (gapAt text i) = true) ↔
      ∃ s, Start s ∧ Covers text m.pattern s i := by
  rw [mayEnd_iff right, coversGap_iff]
  refine ⟨fun h => ?_, fun ⟨s, start, h⟩ => ?_⟩
  · rcases h with ⟨s, start, _, h⟩ | ⟨start, h⟩
    · exact ⟨s, start, h⟩
    · exact ⟨i, start, h⟩
  · rcases Nat.lt_or_eq_of_le h.le with hlt | heq
    · exact .inl ⟨s, start, hlt, h⟩
    · subst heq
      exact .inr ⟨start, h⟩

/-- The marks stay right while the text is read. -/
theorem IsRight.advance {i : Nat} {c : Char} {Start : Nat → Prop} {mayStart : Bool} {m : Marked}
    (right : m.IsRight text i Start) (at_i : text[i]? = some c)
    (starts : mayStart = true ↔ Start i) :
    (m.advance (gapAt text i) c mayStart).IsRight text (i + 1) Start := by
  induction m generalizing Start mayStart with
  | empty | anchor => trivial
  | char mark set =>
    show (mayStart && set.has c) = true ↔ _
    rw [Bool.and_eq_true, starts]
    refine ⟨fun ⟨start, member⟩ => ⟨i, start, .char at_i member⟩, fun ⟨k, start, h⟩ => ?_⟩
    generalize hj : i + 1 = j at h
    cases h with
    | char at_k member =>
      have hk : i = k := Nat.succ.inj hj
      subst hk
      rw [at_i] at at_k
      cases at_k
      exact ⟨start, member⟩
  | seq p q hp hq =>
    refine ⟨hp right.1 starts, ?_⟩
    rw [pattern_advance]
    refine hq right.2 ?_
    rw [Bool.or_eq_true, Bool.and_eq_true, starts]
    exact ends_iff right.1
  | alt p q hp hq => exact ⟨hp right.1 starts, hq right.2 starts⟩
  | star p hp =>
    show IsRight text (i + 1) (fun k => ∃ s, Start s ∧ Covers text (.star (Marked.pattern _)) s k) _
    rw [pattern_advance]
    refine hp right ?_
    have ends := ends_iff (m := .star p) right
    rw [mayEnd, coversGap] at ends
    rw [Bool.or_eq_true, starts, Or.comm]
    exact Iff.trans (or_congr Iff.rfl ⟨fun start => ⟨start, rfl⟩, fun start => start.1⟩) ends

/-- No mark is right before the first character. -/
theorem isRight_unmarked (Start : Nat → Prop) (p : Pattern) : p.unmarked.IsRight text 0 Start := by
  induction p generalizing Start with
  | empty | anchor => trivial
  | char set =>
    refine ⟨fun h => absurd h Bool.false_ne_true, fun ⟨k, _, h⟩ => ?_⟩
    cases h
  | seq p q hp hq => exact ⟨hp Start, hq _⟩
  | alt p q hp hq => exact ⟨hp Start, hq Start⟩
  | star p hp => exact hp _

/-- Reading the rest of a text finds an end of the pattern if there is one. -/
theorem endsIn_iff {i : Nat} {m : Marked} (inside : i ≤ text.length)
    (right : m.IsRight text i (fun _ => True)) :
    m.endsIn (gapAt text i).before (text.drop i) = true ↔
      ∃ s j, i ≤ j ∧ j ≤ text.length ∧ Covers text m.pattern s j := by
  have ends := ends_iff right
  rw [true_and] at ends
  generalize hrest : text.drop i = rest
  induction rest generalizing i m with
  | nil =>
    have hi : text.length ≤ i := List.drop_eq_nil_iff.1 hrest
    have hgap : gapAt text i = ⟨(gapAt text i).before, none⟩ := by
      rw [gapAt, List.getElem?_eq_none hi]
    rw [endsIn, Bool.or_eq_true, ← hgap, ends]
    refine ⟨fun ⟨s, _, h⟩ => ⟨s, i, Nat.le_refl i, inside, h⟩, fun ⟨s, j, low, high, h⟩ => ?_⟩
    have hj : j = i := Nat.le_antisymm (Nat.le_trans high hi) low
    subst hj
    exact ⟨s, trivial, h⟩
  | cons c rest ih =>
    have at_i : text[i]? = some c := by
      rw [← List.head?_drop, hrest, List.head?_cons]
    have hlt : i < text.length := (List.getElem?_eq_some_iff.1 at_i).1
    have hgap : gapAt text i = ⟨(gapAt text i).before, some c⟩ := by rw [gapAt, at_i]
    have hbefore : (gapAt text (i + 1)).before = some c := at_i
    have hdrop : text.drop (i + 1) = rest := by
      rw [← List.drop_drop, hrest, List.drop_one, List.tail_cons]
    have right' : (m.advance (gapAt text i) c true).IsRight text (i + 1) (fun _ => True) :=
      right.advance at_i ⟨fun _ => trivial, fun _ => rfl⟩
    have ends' := ends_iff right'
    rw [true_and] at ends'
    have found : (m.advance (gapAt text i) c true).endsIn (some c) rest = true ↔
        ∃ s j, i + 1 ≤ j ∧ j ≤ text.length ∧ Covers text m.pattern s j := by
      have found := ih (Nat.succ_le_of_lt hlt) right' ends' hdrop
      rwa [hbefore, pattern_advance] at found
    rw [hgap] at found
    rw [endsIn, Bool.or_eq_true, Bool.or_eq_true, found, ← hgap, ends]
    refine ⟨fun h => ?_, fun ⟨s, j, low, high, h⟩ => ?_⟩
    · rcases h with ⟨s, _, h⟩ | ⟨s, j, low, high, h⟩
      · exact ⟨s, i, Nat.le_refl i, inside, h⟩
      · exact ⟨s, j, Nat.le_of_succ_le low, high, h⟩
    · rcases Nat.lt_or_eq_of_le low with low | heq
      · exact .inr ⟨s, j, low, high, h⟩
      · subst heq
        exact .inl ⟨s, trivial, h⟩

end Marked

/-- A pattern is found in a text exactly if it covers some part of the text. -/
theorem Pattern.occursIn_iff {p : Pattern} {text : List Char} :
    p.occursIn text = true ↔ ∃ i j, j ≤ text.length ∧ Covers text p i j := by
  have found := Marked.endsIn_iff (Nat.zero_le text.length)
    (@Marked.isRight_unmarked text (fun _ => True) p)
  rw [Marked.pattern_unmarked] at found
  refine Iff.trans found ⟨fun ⟨s, j, _, high, h⟩ => ⟨s, j, high, h⟩, fun ⟨s, j, high, h⟩ =>
    ⟨s, j, Nat.zero_le j, high, h⟩⟩

end TieredStore
