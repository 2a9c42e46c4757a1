import TieredStore.Proofs.Pattern.Moves
import TieredStore.Proofs.Pattern.Steps

/-!
# The built-in way to write patterns

The moves of the built-in engine are those of a way to write patterns.  What the engine reads is
what can be read in this way, so the engine follows it.

Main results:

- Theorem `Pattern.reads_builtInSyntax_iff`: what can be read is read.
- Theorem `Pattern.isFollowed_builtInSyntax`: the engine follows its own way to write patterns.
-/

namespace TieredStore

namespace Pattern

/-- A parenthesis is no blank, and closes a group. -/
theorem readMove_closing (flags : Flags) (rest : List Char) :
    readMove flags (')' :: rest) = some (.close, rest) := by
  obtain ⟨fold, dotAll, lines, crlf, verbose, ascii⟩ := flags
  cases verbose <;> rfl

/-- How patterns are written for the built-in engine. -/
def builtInSyntax : PatternSyntax where
  Flags := Flags
  initial := .initial
  readMove := readMove
  nil _ := rfl
  textStart _ := rfl
  textEnd _ := rfl
  opening _ := rfl
  closing := readMove_closing
  isLocal := isLocal_readMove

/-- What can be read is read. -/
theorem reads_builtInSyntax_iff {cs : List Char} {phrase : Phrase} :
    builtInSyntax.Reads cs phrase ↔ phraseOfChars? cs = some phrase :=
  (builtInSyntax.finish?_eq_some_iff length_lt_of_readMove (Nat.le_refl _)).symm

/-- A parenthesis in a comment closes nothing. -/
example : (phraseOfChars? "(?x)a # b)\n".toList).isSome = true := by decide +kernel

/-- The built-in engine follows this way to write patterns. -/
theorem isFollowed_builtInSyntax : builtInSyntax.IsFollowed := by
  intro text pattern h
  obtain ⟨phrase, hphrase, -, rfl⟩ := compile_eq_ok_iff.1 h
  exact ⟨phrase, reads_builtInSyntax_iff.2 hphrase, fun name => occursIn_iff⟩

end Pattern

end TieredStore
