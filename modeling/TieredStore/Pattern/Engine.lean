import TieredStore.Pattern.Matching
import TieredStore.Pattern.Reader
import TieredStore.Pattern.Weight

/-!
# Pattern engines

Patterns are compiled and looked for by an engine, which may be any.  The one that is
used unless another is given reads a pattern as it is written here, and refuses those
that are nested too deep or too heavy.

Main results:

- Theorem `Pattern.compile_eq_ok_iff`: which patterns are compiled.
-/

namespace TieredStore

/-- A pattern that was compiled. -/
structure CompiledPattern where
  /-- Whether the pattern is found in a text. -/
  isFoundIn : String → Bool

/-- What compiles patterns.  One that is refused comes with the reason. -/
class PatternEngine where
  compile : String → Except String CompiledPattern

namespace Pattern

/-- Reads a pattern and makes its automaton. -/
def compile (text : String) : Except String CompiledPattern :=
  match phraseOfChars? text.toList with
  | none => .error "not a regular expression"
  | some phrase =>
    if phrase.isAcceptable then .ok ⟨fun name => phrase.pattern.occursIn name.toList⟩
    else .error "nested too deep or too heavy"

/-- The engine that is used unless another one is given. -/
instance builtIn : PatternEngine := ⟨compile⟩

/-- The patterns that can be read and are acceptable are compiled. -/
theorem compile_eq_ok_iff {text : String} {pattern : CompiledPattern} :
    compile text = .ok pattern ↔ ∃ phrase, phraseOfChars? text.toList = some phrase ∧
      phrase.isAcceptable = true ∧
      pattern = ⟨fun name => phrase.pattern.occursIn name.toList⟩ := by
  unfold compile
  cases phraseOfChars? text.toList with
  | none => exact ⟨nofun, nofun⟩
  | some phrase =>
    dsimp only
    split
    next haccepted =>
      refine ⟨fun h => ⟨phrase, rfl, haccepted, (Except.ok.inj h).symm⟩, ?_⟩
      rintro ⟨other, hphrase, -, rfl⟩
      obtain rfl := Option.some.inj hphrase
      rfl
    next hrefused =>
      refine ⟨nofun, ?_⟩
      rintro ⟨other, hphrase, haccepted, -⟩
      obtain rfl := Option.some.inj hphrase
      exact absurd haccepted hrefused

end Pattern

end TieredStore
