import TieredStore.Config.Basic
import TieredStore.Json.Decode

/-!
# Configurations in JSON

A configuration is written as an object with the members `providers` and
`namespaces`.  Both may be missing, and so may the options of a provider.

Main results:

- Theorem `StoreConfig.validate_of_ofText`: a configuration that is read from a
  text is valid.
-/

namespace TieredStore

open Json

/-- The JSON form of a provider. -/
def ProviderConfig.toJson (p : ProviderConfig) : Json :=
  .object [("name", .string p.name), ("type", .string p.kind),
    ("options", .object p.options.entries)]

/-- Decodes the options of a provider. -/
def ProviderConfig.optionsOfSource? : Nat → Source → Option (SortedMap String Json)
  | levels + 1, .object members => (Json.ofMembers? levels members).map SortedMap.ofList
  | _, _ => none

/-- Decodes a provider. -/
def ProviderConfig.ofSource? : Nat → Source → Option ProviderConfig
  | 0, _ => none
  | levels + 1, s => do
    let members ← s.members? ["name", "type", "options"]
    let name ← members.required? 0 Source.text?
    let kind ← members.required? 1 Source.text?
    let options ← members.defaulted? 2 ∅ (ProviderConfig.optionsOfSource? levels)
    some ⟨name, kind, options⟩

/-- The JSON form of a rule. -/
def NamespaceRule.toJson (rule : NamespaceRule) : Json :=
  .object [("pattern", .string rule.pattern), ("providers", .array (rule.providers.map .string))]

/-- Decodes a rule. -/
def NamespaceRule.ofSource? : Nat → Source → Option NamespaceRule
  | 0, _ => none
  | levels + 1, s => do
    let members ← s.members? ["pattern", "providers"]
    let pattern ← members.required? 0 Source.text?
    let providers ← members.required? 1 (Source.list? (fun _ => Source.text?) levels)
    some ⟨pattern, providers⟩

namespace StoreConfig

/-- The JSON form of a configuration. -/
def toJson (config : StoreConfig) : Json :=
  .object [("providers", .array (config.providers.map ProviderConfig.toJson)),
    ("namespaces", .array (config.rules.map NamespaceRule.toJson))]

/-- Decodes a configuration. -/
def ofSource? : Nat → Source → Option StoreConfig
  | 0, _ => none
  | levels + 1, s => do
    let members ← s.members? ["providers", "namespaces"]
    let providers ← members.defaulted? 0 [] (Source.list? ProviderConfig.ofSource? levels)
    let rules ← members.defaulted? 1 [] (Source.list? NamespaceRule.ofSource? levels)
    some ⟨providers, rules⟩

/-- Reads and validates a configuration. -/
def ofText [PatternEngine] (text : String) : Except StoreError StoreConfig :=
  match (Source.ofText? text).bind (ofSource? nestingLimit) with
  | none => .error (.configuration .malformedDocument)
  | some config => config.validate.map fun _ => config

/-- A configuration that is read from a text is valid. -/
theorem validate_of_ofText [PatternEngine] {text : String} {config : StoreConfig}
    (h : ofText text = .ok config) : config.validate = .ok () := by
  unfold ofText at h
  split at h
  · cases h
  · rename_i found _
    cases hv : found.validate with
    | error e =>
      rw [hv] at h
      cases h
    | ok _ =>
      rw [hv] at h
      cases h
      exact hv

end StoreConfig

end TieredStore
