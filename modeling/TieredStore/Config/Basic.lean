import TieredStore.Error
import TieredStore.Json.Basic
import TieredStore.Pattern.Engine
import TieredStore.SortedMap

/-!
# Configurations

A configuration lists providers by name and says, by rules on store names, which
providers make up the layers of a store.

Main results:

- Theorem `StoreConfig.provider?_name`: a provider is found under its own name.
- Theorem `StoreConfig.provider?_isSome_iff`: exactly the listed names are found.
- Theorem `NamespaceRule.compile_eq_ok_iff`: what is compiled for a rule.
-/

namespace TieredStore

/-- A provider of stores with its options. -/
structure ProviderConfig where
  /-- The name by which rules refer to it. -/
  name : String
  kind : String
  /-- Options whose meaning depends on the type. -/
  options : SortedMap String Json := ∅

/-- A rule that gives the layers of all stores with certain names. -/
structure NamespaceRule where
  pattern : String
  /-- The providers of the layers, front layer first. -/
  providers : List String

/-- Providers and the rules that put them together. -/
structure StoreConfig where
  providers : List ProviderConfig := []
  /-- The rules; the first one that matches a store name decides. -/
  rules : List NamespaceRule := []

namespace StoreConfig

/-- One provider in memory that serves every store. -/
def memoryOnly : StoreConfig where
  providers := [{ name := "memory", kind := "memory" }]
  rules := [⟨".*", ["memory"]⟩]

/-- The names of the providers. -/
def providerNames (config : StoreConfig) : List String := config.providers.map (·.name)

/-- The provider of a name. -/
def provider? (config : StoreConfig) (name : String) : Option ProviderConfig :=
  config.providers.find? fun p => p.name == name

/-- A provider is found under its own name. -/
theorem provider?_name {config : StoreConfig} {name : String} {p : ProviderConfig}
    (h : config.provider? name = some p) : p.name = name := by
  simpa using List.find?_some h

/-- Exactly the listed names are found. -/
theorem provider?_isSome_iff (config : StoreConfig) (name : String) :
    (config.provider? name).isSome ↔ name ∈ config.providerNames := by
  simp [provider?, providerNames]

/-! ## Validation -/

/-- Rejects the first provider without a name or with a name that was seen
before. -/
def checkNames : List String → List String → Except ConfigProblem Unit
  | _, [] => .ok ()
  | seen, name :: rest =>
    if name.isEmpty then .error .unnamedProvider
    else if name ∈ seen then .error (.duplicateProvider name)
    else checkNames (name :: seen) rest

end StoreConfig

section Engine

variable [PatternEngine]

/-- Compiles the pattern of a rule.  It is put between anchors as it is written, so that
it is looked for in whole names. -/
def NamespaceRule.compile (rule : NamespaceRule) : Except ConfigProblem CompiledPattern :=
  match PatternEngine.compile ("^(?:" ++ rule.pattern ++ ")$") with
  | .ok pattern => .ok pattern
  | .error reason => .error (.malformedPattern rule.pattern reason)

/-- The pattern of a rule is compiled as a group between anchors. -/
theorem NamespaceRule.compile_eq_ok_iff {rule : NamespaceRule} {pattern : CompiledPattern} :
    rule.compile = .ok pattern ↔
      PatternEngine.compile ("^(?:" ++ rule.pattern ++ ")$") = .ok pattern := by
  rw [compile]
  cases PatternEngine.compile ("^(?:" ++ rule.pattern ++ ")$") <;> simp

/-- Rejects a rule whose pattern cannot be compiled, that has no providers, or that
names a provider which is not among the known ones. -/
def NamespaceRule.check (known : List String) (rule : NamespaceRule) :
    Except ConfigProblem Unit := do
  let _ ← rule.compile
  if rule.providers.isEmpty then .error (.ruleWithoutProviders rule.pattern)
  else match rule.providers.find? fun name => !known.contains name with
    | some unknown => .error (.ruleWithUnknownProvider rule.pattern unknown)
    | none => .ok ()

/-- The first problem of a configuration: its provider names are checked before
its rules. -/
def StoreConfig.check (config : StoreConfig) : Except ConfigProblem Unit := do
  checkNames [] config.providerNames
  config.rules.forM (NamespaceRule.check config.providerNames)

/-- Rejects a configuration with a problem. -/
def StoreConfig.validate (config : StoreConfig) : Except StoreError Unit :=
  config.check.mapError .configuration

end Engine

end TieredStore
