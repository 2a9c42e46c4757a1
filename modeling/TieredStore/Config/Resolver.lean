import TieredStore.Config.Basic

/-!
# Resolving store names

A resolver is a configuration that was found valid, with the patterns of its rules
compiled once and for all.  It tells the providers of a store by the store's name.

Main results:

- Theorem `Resolver.validate_of_ofConfig`: only valid configurations have a
  resolver.
-/

namespace TieredStore

/-- The rules of a configuration with their patterns compiled. -/
structure Resolver where
  config : StoreConfig
  patterns : List CompiledPattern

namespace Resolver

/-- The resolver of a valid configuration. -/
def ofConfig [PatternEngine] (config : StoreConfig) : Except StoreError Resolver := do
  config.validate
  let patterns ← config.rules.mapM fun rule => rule.compile.mapError .configuration
  .ok ⟨config, patterns⟩

/-- Only valid configurations have a resolver. -/
theorem validate_of_ofConfig [PatternEngine] {config : StoreConfig} {resolver : Resolver}
    (h : ofConfig config = .ok resolver) : config.validate = .ok () := by
  unfold ofConfig at h
  cases hv : config.validate with
  | ok _ => rfl
  | error e =>
    rw [hv] at h
    cases h

/-- The rule that decides about a store: the first one whose pattern matches. -/
def rule? (resolver : Resolver) (store : String) : Option NamespaceRule :=
  ((resolver.patterns.zip resolver.config.rules).find? fun r => r.1.isFoundIn store).map (·.2)

/-- The configured provider of a name. -/
def provider (resolver : Resolver) (name : String) : Except StoreError ProviderConfig :=
  match resolver.config.provider? name with
  | some p => .ok p
  | none => .error (.configuration (.unknownProvider name))

/-- The providers of a store's layers, front layer first. -/
def resolve (resolver : Resolver) (store : String) : Except StoreError (List ProviderConfig) :=
  match resolver.rule? store with
  | none => .error (.configuration (.unmatchedStore store))
  | some rule => rule.providers.mapM resolver.provider

end Resolver

end TieredStore
