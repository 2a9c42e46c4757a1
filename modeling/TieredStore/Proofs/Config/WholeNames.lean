import TieredStore.Proofs.Config.Resolution
import TieredStore.Proofs.Pattern.BuiltIn

/-!
# Patterns and whole names

The text of a pattern is put between two anchors, as a group, before it is compiled.  If the text is
a pattern by itself, then exactly the names match that this pattern covers from their first to their
last character.

But a text may also be accepted that is no pattern by itself, as it closes the group that is put
around it.  The parts of such a text are not anchored on both sides.

This is so for every engine that reads patterns from left to right, whatever else may be written in
them.

Main results:

- Theorem `NamespaceRule.matches_iff_of_reads`: a rule whose pattern can be read by itself.
- Theorem `StoreConfig.wholeName_laws`: which rules of a valid configuration match whole names.
- Theorem `StoreConfig.exists_unanchored_rule`: a rule that matches other names.
-/

namespace TieredStore

section Engine

variable [PatternEngine] {S : PatternSyntax}

namespace NamespaceRule

variable {rule : NamespaceRule}

/-- A rule whose pattern is compiled matches the names that the pattern covers as a whole, if it can
be read by itself. -/
theorem matches_iff_of_reads (hS : S.IsFollowed) {pattern : CompiledPattern}
    (hcompile : rule.compile = .ok pattern) {phrase : Phrase}
    (h : S.Reads rule.pattern.toList phrase) (store : String) :
    rule.Matches store ↔ phrase.pattern.MatchesWhole store.toList := by
  obtain ⟨whole, hwhole, hfound⟩ := hS _ _ (compile_eq_ok_iff.1 hcompile)
  have htext : ("^(?:" ++ rule.pattern ++ ")$").toList =
      '^' :: '(' :: '?' :: ':' :: (rule.pattern.toList ++ [')', '$']) := by
    simp
  rw [htext] at hwhole
  obtain ⟨remembers, rfl⟩ := h.anchored hwhole
  rw [← Phrase.coversPart_anchored_iff, ← hfound]
  refine ⟨fun ⟨other, hother, hmatch⟩ => ?_, fun hmatch => ⟨pattern, hcompile, hmatch⟩⟩
  obtain rfl := Except.ok.inj (hcompile.symm.trans hother)
  exact hmatch

/-- Whether the pattern of a rule can be read by itself, and the rule matches the names that this
covers from their first to their last character. -/
def MatchesWholeNames (S : PatternSyntax) (rule : NamespaceRule) : Prop :=
  ∃ phrase, S.Reads rule.pattern.toList phrase ∧
    ∀ store : String, rule.Matches store ↔ phrase.pattern.MatchesWhole store.toList

end NamespaceRule

/-- How a resolver of a configuration matches the names of stores. -/
structure Resolver.MatchesNames (S : PatternSyntax) (config : StoreConfig) (resolver : Resolver) :
    Prop where
  /-- The first rule that matches a name decides. -/
  decided : ∀ store, resolver.rule? store = config.rules.find? fun rule => rule.Matches store
  /-- A rule matches whole names if and only if its pattern can be read by itself. -/
  whole_iff : ∀ rule ∈ config.rules,
    rule.MatchesWholeNames S ↔ ∃ phrase, S.Reads rule.pattern.toList phrase

/-- A valid configuration has a resolver, whose rules match whole names if and only if their
patterns can be read by themselves. -/
theorem StoreConfig.wholeName_laws (hS : S.IsFollowed) {config : StoreConfig}
    (h : config.validate = .ok ()) :
    ∃ resolver, Resolver.ofConfig config = .ok resolver ∧ resolver.MatchesNames S config := by
  have hvalid := (StoreConfig.validate_eq_ok_iff config).1 h
  obtain ⟨resolver, hresolver⟩ := Resolver.exists_ofConfig_iff.2 hvalid
  refine ⟨resolver, hresolver, fun store => Resolver.rule?_eq_find? hresolver, fun rule hrule => ?_⟩
  obtain ⟨pattern, hcompile⟩ := (hvalid.followed rule hrule).compiles
  constructor
  · rintro ⟨phrase, hreads, -⟩
    exact ⟨phrase, hreads⟩
  · rintro ⟨phrase, hreads⟩
    exact ⟨phrase, hreads, NamespaceRule.matches_iff_of_reads hS hcompile hreads⟩

end Engine

/-- One rule, which puts stores with certain names into memory. -/
def StoreConfig.ofPattern (pattern : String) : StoreConfig where
  providers := [{ name := "memory", kind := "memory" }]
  rules := [⟨pattern, ["memory"]⟩]

/-- The rule is valid if its pattern is compiled. -/
theorem StoreConfig.isValid_ofPattern {pattern : String}
    (h : (NamespaceRule.mk pattern ["memory"]).compile.isOk = true) :
    (ofPattern pattern).IsValid := by
  have hnames : (ofPattern pattern).providerNames = ["memory"] := rfl
  refine ⟨by simp [hnames], by simp [hnames], ?_⟩
  rintro rule (_ | ⟨_, ⟨⟩⟩)
  exact ⟨(NamespaceRule.exists_compile_iff _).2 h, List.cons_ne_nil _ _, fun name hname => hname⟩

/-- Alternatives are matched by whole names, each of them. -/
theorem StoreConfig.wholeName_laws_alternatives : ∃ resolver phrase,
    Resolver.ofConfig (ofPattern "users|orders_.*") = .ok resolver ∧
      Pattern.builtInSyntax.Reads "users|orders_.*".toList phrase ∧
      ∀ store, (resolver.rule? store).isSome = true ↔
        phrase.pattern.MatchesWhole store.toList := by
  have hvalid := @isValid_ofPattern "users|orders_.*" (by decide +kernel)
  obtain ⟨resolver, hresolver, hdecided, hwhole⟩ := wholeName_laws
    Pattern.isFollowed_builtInSyntax ((validate_eq_ok_iff _).2 hvalid)
  obtain ⟨read, hread⟩ := Option.isSome_iff_exists.1
    (by decide +kernel : (Pattern.phraseOfChars? "users|orders_.*".toList).isSome = true)
  obtain ⟨phrase, hphrase, hmatches⟩ := (hwhole _ List.mem_cons_self).2
    ⟨read, Pattern.reads_builtInSyntax_iff.2 hread⟩
  refine ⟨resolver, phrase, hresolver, hphrase, fun store => ?_⟩
  rw [← hmatches store, hdecided, List.find?_isSome]
  simp [ofPattern]

/-- The pattern cannot be read by itself, and the rule matches a name that begins with its first
part. -/
theorem StoreConfig.exists_unanchored_rule : ∃ resolver,
    Resolver.ofConfig (ofPattern "a)|(b") = .ok resolver ∧
      (¬∃ phrase, Pattern.builtInSyntax.Reads "a)|(b".toList phrase) ∧
      ∃ providers, resolver.resolve "ax" = .ok providers := by
  obtain ⟨resolver, hresolver⟩ :=
    Resolver.exists_ofConfig_iff.2 (@isValid_ofPattern "a)|(b" (by decide +kernel))
  obtain ⟨providers, hresolve, -⟩ := Resolver.exists_resolve_of_decides hresolver
    (⟨[], [], rfl, by simp, by decide +kernel⟩ :
      (ofPattern "a)|(b").Decides "ax" ⟨"a)|(b", ["memory"]⟩)
  refine ⟨resolver, hresolver, ?_, providers, hresolve⟩
  rintro ⟨phrase, hphrase⟩
  have hnone : (Pattern.phraseOfChars? "a)|(b".toList).isSome = false := by decide +kernel
  rw [Pattern.reads_builtInSyntax_iff.1 hphrase] at hnone
  cases hnone

end TieredStore
