import Mathlib.Data.List.Forall2
import Mathlib.Data.List.Nodup
import TieredStore.Context.Basic

/-!
# Valid configurations and the layers of stores

A configuration has a resolver exactly if its provider names are not empty and no two of them are
the same, and if each of its rules has a pattern that can be compiled and lists at least one
provider, all of them configured.  The first rule that matches a store name decides about the store,
and each of the providers that it lists makes one layer, in the listed order.  So a context that
opens a store neither meets a provider that is not configured nor a stack without layers.  All of
this holds whatever engine compiles the patterns and looks for them.

Main results:

- Theorem `StoreConfig.validate_eq_ok_iff`: what is checked is whether a configuration is valid.
- Theorem `Resolver.resolve_eq_ok_iff`: what is given for a store is what the first matching rule
  lists.
- Theorem `Context.buildFailure_of_build`: how building a store may fail.
- Theorem `StoreConfig.resolution_laws`: all of it, for every configuration.
-/

namespace TieredStore

/-- A step that succeeds for a list gives one result for each member, in their order. -/
theorem mapM_eq_ok_iff_forall₂ {α β ε : Type} {f : α → Except ε β} {l : List α}
    {results : List β} :
    l.mapM f = .ok results ↔ List.Forall₂ (fun a b => f a = .ok b) l results := by
  induction l generalizing results with
  | nil =>
    rw [List.mapM_nil, List.forall₂_nil_left_iff]
    exact ⟨fun h => (Except.ok.inj h).symm, fun h => h ▸ rfl⟩
  | cons a rest ih =>
    rw [List.mapM_cons, List.forall₂_cons_left_iff]
    cases hfirst : f a with
    | error e => exact ⟨nofun, fun ⟨b, _, hb, _⟩ => nomatch hb⟩
    | ok b =>
      cases hrest : rest.mapM f with
      | error e =>
        refine ⟨nofun, fun ⟨_, others, _, hothers, _⟩ => ?_⟩
        rw [ih.2 hothers] at hrest
        cases hrest
      | ok others =>
        constructor
        · intro h
          obtain rfl := Except.ok.inj h
          exact ⟨b, others, rfl, ih.1 hrest, rfl⟩
        · rintro ⟨b', others', hb, hothers, rfl⟩
          obtain rfl := Except.ok.inj hb
          obtain rfl := Except.ok.inj (hrest.symm.trans (ih.2 hothers))
          rfl

section Engine

variable [PatternEngine]

/-! ## Valid configurations -/

/-- Whether a rule can be followed, given the names of the configured providers. -/
structure NamespaceRule.IsValid (known : List String) (rule : NamespaceRule) : Prop where
  compiles : ∃ pattern, rule.compile = .ok pattern
  layered : rule.providers ≠ []
  configured : ∀ name ∈ rule.providers, name ∈ known

/-- The pattern of a rule is compiled or refused. -/
theorem NamespaceRule.exists_compile_iff (rule : NamespaceRule) :
    (∃ pattern, rule.compile = .ok pattern) ↔ rule.compile.isOk = true := by
  cases rule.compile with
  | ok pattern => exact ⟨fun _ => rfl, fun _ => ⟨pattern, rfl⟩⟩
  | error problem => exact ⟨nofun, nofun⟩

/-- Whether a configuration has no problem. -/
structure StoreConfig.IsValid (config : StoreConfig) : Prop where
  named : ∀ name ∈ config.providerNames, name ≠ ""
  distinct : config.providerNames.Nodup
  followed : ∀ rule ∈ config.rules, rule.IsValid config.providerNames

namespace StoreConfig

omit [PatternEngine] in
/-- The names pass that are not empty, that were not seen before, and that occur once. -/
theorem checkNames_eq_ok_iff (seen names : List String) :
    checkNames seen names = .ok () ↔
      (∀ name ∈ names, name ≠ "" ∧ name ∉ seen) ∧ names.Nodup := by
  induction names generalizing seen with
  | nil => simp [checkNames]
  | cons name rest ih =>
    rw [checkNames, List.forall_mem_cons, List.nodup_cons]
    by_cases hempty : name.isEmpty = true
    · rw [if_pos hempty]
      exact ⟨nofun, fun h => absurd (String.isEmpty_iff.1 hempty) h.1.1.1⟩
    rw [if_neg hempty]
    by_cases hseen : name ∈ seen
    · rw [if_pos hseen]
      exact ⟨nofun, fun h => absurd hseen h.1.1.2⟩
    rw [if_neg hseen, ih]
    have hname : name ≠ "" := fun h => hempty (String.isEmpty_iff.2 h)
    constructor
    · rintro ⟨hrest, hnodup⟩
      refine ⟨⟨⟨hname, hseen⟩, fun other hother => ⟨(hrest other hother).1, fun hmem =>
        (hrest other hother).2 (List.mem_cons_of_mem _ hmem)⟩⟩, fun hmem => ?_, hnodup⟩
      exact (hrest name hmem).2 List.mem_cons_self
    · rintro ⟨⟨-, hrest⟩, hnew, hnodup⟩
      refine ⟨fun other hother => ⟨(hrest other hother).1, fun hmem => ?_⟩, hnodup⟩
      rcases List.mem_cons.1 hmem with rfl | hmem
      · exact hnew hother
      · exact (hrest other hother).2 hmem

end StoreConfig

/-- A rule passes that can be followed. -/
theorem NamespaceRule.check_eq_ok_iff (known : List String) (rule : NamespaceRule) :
    rule.check known = .ok () ↔ rule.IsValid known := by
  have hvalid : rule.IsValid known ↔ (∃ pattern, rule.compile = .ok pattern) ∧
      rule.providers ≠ [] ∧ ∀ name ∈ rule.providers, name ∈ known :=
    ⟨fun h => ⟨h.compiles, h.layered, h.configured⟩, fun h => ⟨h.1, h.2.1, h.2.2⟩⟩
  rw [hvalid, check]
  cases rule.compile with
  | error problem => exact ⟨nofun, fun h => nomatch h.1⟩
  | ok pattern =>
    show (if rule.providers.isEmpty then (.error _ : Except ConfigProblem Unit) else _) = _ ↔ _
    cases hproviders : rule.providers with
    | nil => exact ⟨nofun, fun h => absurd rfl h.2.1⟩
    | cons first others =>
      rw [if_neg (by simp)]
      cases hunknown : (first :: others).find? fun name => !known.contains name with
      | some unknown =>
        have hmem := List.mem_of_find?_eq_some hunknown
        have hnot := List.find?_some hunknown
        refine ⟨nofun, fun h => ?_⟩
        simp [h.2.2 unknown hmem] at hnot
      | none =>
        have hknown := List.find?_eq_none.1 hunknown
        exact ⟨fun _ => ⟨⟨pattern, rfl⟩, List.cons_ne_nil _ _, fun name hname => by
          simpa using hknown name hname⟩, fun _ => rfl⟩

/-- A rule whose pattern is refused is rejected with this pattern and the reason. -/
theorem NamespaceRule.check_eq_malformedPattern_iff {known : List String} {rule : NamespaceRule}
    {pattern reason : String} : rule.check known = .error (.malformedPattern pattern reason) ↔
      pattern = rule.pattern ∧
        PatternEngine.compile ("^(?:" ++ rule.pattern ++ ")$") = .error reason := by
  rw [check, compile]
  cases PatternEngine.compile ("^(?:" ++ rule.pattern ++ ")$") with
  | error problem =>
    show Except.error _ = Except.error _ ↔ _
    simp [eq_comm]
  | ok found =>
    constructor
    · intro h
      replace h : (if rule.providers.isEmpty then (.error _ : Except ConfigProblem Unit) else _) =
        .error (.malformedPattern pattern reason) := h
      split at h
      next => cases h
      next => split at h <;> cases h
    · rintro ⟨-, h⟩
      cases h

namespace StoreConfig

/-- Rules pass if each of them does. -/
theorem forM_eq_ok_iff {known : List String} {rules : List NamespaceRule} :
    rules.forM (NamespaceRule.check known) = .ok () ↔ ∀ rule ∈ rules, rule.IsValid known := by
  induction rules with
  | nil => exact ⟨fun _ rule hrule => (nomatch hrule), fun _ => rfl⟩
  | cons rule rest ih =>
    rw [List.forall_mem_cons, ← ih, ← NamespaceRule.check_eq_ok_iff]
    show (rule.check known >>= fun _ => rest.forM (NamespaceRule.check known)) = .ok () ↔ _
    cases rule.check known with
    | error e => exact ⟨nofun, fun h => nomatch h.1⟩
    | ok u => exact ⟨fun h => ⟨rfl, h⟩, fun h => h.2⟩

/-- A configuration passes that has no problem. -/
theorem validate_eq_ok_iff (config : StoreConfig) : config.validate = .ok () ↔ config.IsValid := by
  have hcheck : config.validate = .ok () ↔ config.check = .ok () := by
    rw [validate]
    cases config.check with
    | error e => exact ⟨nofun, nofun⟩
    | ok u => exact ⟨fun _ => rfl, fun _ => rfl⟩
  have hvalid : config.IsValid ↔ checkNames [] config.providerNames = .ok () ∧
      config.rules.forM (NamespaceRule.check config.providerNames) = .ok () := by
    rw [checkNames_eq_ok_iff, forM_eq_ok_iff]
    exact ⟨fun h => ⟨⟨fun name hname => ⟨h.named name hname, List.not_mem_nil⟩, h.distinct⟩,
      h.followed⟩, fun h => ⟨fun name hname => (h.1.1 name hname).1, h.1.2, h.2⟩⟩
  rw [hcheck, hvalid, check]
  cases checkNames [] config.providerNames with
  | error e => exact ⟨nofun, fun h => nomatch h.1⟩
  | ok u => exact ⟨fun h => ⟨rfl, h⟩, fun h => h.2⟩

end StoreConfig

/-! ## Resolvers -/

/-- Whether the pattern of a rule matches a store name. -/
def NamespaceRule.Matches (rule : NamespaceRule) (store : String) : Prop :=
  ∃ pattern, rule.compile = .ok pattern ∧ pattern.isFoundIn store = true

/-- The pattern is compiled and looked for. -/
instance NamespaceRule.decidableMatches (rule : NamespaceRule) (store : String) :
    Decidable (rule.Matches store) :=
  match h : rule.compile with
  | .ok pattern =>
    if hfound : pattern.isFoundIn store = true then .isTrue ⟨pattern, h, hfound⟩
    else .isFalse fun ⟨_, hother, hmatch⟩ =>
      hfound (Except.ok.inj (h.symm.trans hother) ▸ hmatch)
  | .error _ => .isFalse fun ⟨_, hother, _⟩ => nomatch h.symm.trans hother

/-- Whether a rule is the first one of a configuration that matches a store name. -/
def StoreConfig.Decides (config : StoreConfig) (store : String) (rule : NamespaceRule) : Prop :=
  ∃ before after, config.rules = before ++ rule :: after ∧
    (∀ earlier ∈ before, ¬earlier.Matches store) ∧ rule.Matches store

namespace Resolver

variable {config : StoreConfig} {resolver : Resolver} {store : String}

/-- A valid configuration has one resolver, with the patterns of its rules in their order. -/
theorem ofConfig_eq_ok_iff :
    ofConfig config = .ok resolver ↔ config.IsValid ∧ resolver.config = config ∧
      List.Forall₂ (fun (rule : NamespaceRule) pattern => rule.compile = .ok pattern)
        config.rules resolver.patterns := by
  have hcompile : ∀ (rule : NamespaceRule) pattern,
      rule.compile.mapError StoreError.configuration = .ok pattern ↔
        rule.compile = .ok pattern := by
    intro rule pattern
    cases rule.compile <;> simp [Except.mapError]
  obtain ⟨resolved, patterns⟩ := resolver
  simp only [← StoreConfig.validate_eq_ok_iff, ← hcompile, ← mapM_eq_ok_iff_forall₂, ofConfig]
  cases config.validate with
  | error e => exact ⟨nofun, fun h => nomatch h.1⟩
  | ok u =>
    cases config.rules.mapM fun rule => rule.compile.mapError StoreError.configuration with
    | error e => exact ⟨nofun, fun h => nomatch h.2.2⟩
    | ok read =>
      constructor
      · intro h
        cases h
        exact ⟨rfl, rfl, rfl⟩
      · rintro ⟨-, rfl, hpatterns⟩
        cases hpatterns
        rfl

/-- Every valid configuration has a resolver. -/
theorem exists_ofConfig_iff : (∃ resolver, ofConfig config = .ok resolver) ↔ config.IsValid := by
  refine ⟨fun ⟨_, h⟩ => (ofConfig_eq_ok_iff.1 h).1, fun h => ?_⟩
  have hpatterns : ∀ rules : List NamespaceRule,
      (∀ rule ∈ rules, rule.IsValid config.providerNames) → ∃ patterns, List.Forall₂
        (fun (rule : NamespaceRule) pattern => rule.compile = .ok pattern) rules patterns := by
    intro rules hrules
    induction rules with
    | nil => exact ⟨[], .nil⟩
    | cons rule rest ih =>
      obtain ⟨hrule, hrest⟩ := List.forall_mem_cons.1 hrules
      obtain ⟨pattern, hpattern⟩ := hrule.compiles
      obtain ⟨patterns, hpatterns⟩ := ih hrest
      exact ⟨pattern :: patterns, .cons hpattern hpatterns⟩
  obtain ⟨patterns, hpatterns⟩ := hpatterns config.rules h.followed
  exact ⟨⟨config, patterns⟩, ofConfig_eq_ok_iff.2 ⟨h, rfl, hpatterns⟩⟩

/-! ### The rule of a store -/

/-- The rules are looked through with their patterns beside them. -/
theorem rule?_eq_find? (h : ofConfig config = .ok resolver) :
    resolver.rule? store = config.rules.find? fun rule => rule.Matches store := by
  obtain ⟨-, rfl, hpatterns⟩ := ofConfig_eq_ok_iff.1 h
  rw [rule?]
  generalize resolver.config.rules = rules, resolver.patterns = patterns at hpatterns
  induction hpatterns with
  | nil => rfl
  | @cons rule pattern rules patterns hpattern _ ih =>
    have hmatches : rule.Matches store ↔ pattern.isFoundIn store = true := by
      refine ⟨fun ⟨other, hother, hmatch⟩ => ?_, fun hmatch => ⟨pattern, hpattern, hmatch⟩⟩
      rwa [Except.ok.inj (hpattern.symm.trans hother)]
    rw [List.zip_cons_cons, List.find?_cons, List.find?_cons]
    by_cases hmatch : pattern.isFoundIn store = true
    · rw [hmatch, decide_eq_true (hmatches.2 hmatch)]
      rfl
    · rw [Bool.eq_false_iff.2 hmatch, decide_eq_false fun hyes => hmatch (hmatches.1 hyes)]
      exact ih

/-- No rule decides about a store if none matches its name. -/
theorem rule?_eq_none_iff (h : ofConfig config = .ok resolver) :
    resolver.rule? store = none ↔ ∀ rule ∈ config.rules, ¬rule.Matches store := by
  rw [rule?_eq_find? h, List.find?_eq_none]
  simp

/-- Otherwise the first one that matches decides. -/
theorem rule?_eq_some_iff (h : ofConfig config = .ok resolver) {rule : NamespaceRule} :
    resolver.rule? store = some rule ↔ config.Decides store rule := by
  rw [rule?_eq_find? h, List.find?_eq_some_iff_append, StoreConfig.Decides]
  simp only [decide_eq_true_eq, Bool.not_eq_true', decide_eq_false_iff_not]
  constructor
  · rintro ⟨hmatch, before, after, hrules, hbefore⟩
    exact ⟨before, after, hrules, hbefore, hmatch⟩
  · rintro ⟨before, after, hrules, hbefore, hmatch⟩
    exact ⟨hmatch, before, after, hrules, hbefore⟩

end Resolver

/-! ### The providers of a store -/

/-- Whether providers are those that a rule lists, in the listed order. -/
structure NamespaceRule.Lists (rule : NamespaceRule) (config : StoreConfig)
    (providers : List ProviderConfig) : Prop where
  names : providers.map (·.name) = rule.providers
  configured : ∀ p ∈ providers, p ∈ config.providers

/-- In a valid configuration, a name leads to the one provider that has it. -/
theorem StoreConfig.IsValid.provider?_eq_some_iff {config : StoreConfig} (h : config.IsValid)
    {name : String} {p : ProviderConfig} :
    config.provider? name = some p ↔ p ∈ config.providers ∧ p.name = name := by
  refine ⟨fun hfind => ⟨List.mem_of_find?_eq_some hfind, provider?_name hfind⟩, ?_⟩
  rintro ⟨hp, rfl⟩
  cases hfind : config.provider? p.name with
  | none =>
    have hnone := List.find?_eq_none.1 hfind p hp
    simp at hnone
  | some found =>
    rw [List.inj_on_of_nodup_map h.distinct (List.mem_of_find?_eq_some hfind) hp
      (provider?_name hfind)]

namespace Resolver

variable {config : StoreConfig} {resolver : Resolver} {store : String}

omit [PatternEngine] in
/-- A name that is listed leads to the provider of this name. -/
theorem provider_eq_ok_iff (resolver : Resolver) (name : String) (p : ProviderConfig) :
    resolver.provider name = .ok p ↔ resolver.config.provider? name = some p := by
  rw [provider]
  cases resolver.config.provider? name <;> simp

/-- The names of a list lead to the providers that have them, one by one. -/
theorem mapM_provider_eq_ok_iff (h : ofConfig config = .ok resolver) {names : List String}
    {providers : List ProviderConfig} :
    names.mapM resolver.provider = .ok providers ↔
      providers.map (·.name) = names ∧ ∀ p ∈ providers, p ∈ config.providers := by
  obtain ⟨hvalid, rfl, -⟩ := ofConfig_eq_ok_iff.1 h
  simp only [mapM_eq_ok_iff_forall₂, provider_eq_ok_iff, hvalid.provider?_eq_some_iff]
  constructor
  · intro hall
    induction hall with
    | nil => exact ⟨rfl, fun p hp => (nomatch hp)⟩
    | cons hfirst _ ih =>
      exact ⟨by rw [List.map_cons, hfirst.2, ih.1], List.forall_mem_cons.2 ⟨hfirst.1, ih.2⟩⟩
  · rintro ⟨rfl, hconfigured⟩
    rw [List.forall₂_map_left_iff]
    exact List.forall₂_same.2 fun p hp => ⟨hconfigured p hp, rfl⟩

/-- What is given for a store is what the first rule that matches its name lists. -/
theorem resolve_eq_ok_iff (h : ofConfig config = .ok resolver) {providers : List ProviderConfig} :
    resolver.resolve store = .ok providers ↔
      ∃ rule, config.Decides store rule ∧ rule.Lists config providers := by
  rw [resolve]
  cases hrule : resolver.rule? store with
  | none =>
    refine ⟨nofun, ?_⟩
    rintro ⟨rule, ⟨before, after, hrules, -, hmatch⟩, -⟩
    refine absurd hmatch ((rule?_eq_none_iff h).1 hrule rule ?_)
    rw [hrules]
    exact List.mem_append_right _ List.mem_cons_self
  | some rule =>
    refine (mapM_provider_eq_ok_iff h).trans ⟨fun ⟨hnames, hconfigured⟩ =>
      ⟨rule, (rule?_eq_some_iff h).1 hrule, hnames, hconfigured⟩, ?_⟩
    rintro ⟨other, hdecides, hlists⟩
    obtain rfl := Option.some.inj (hrule.symm.trans ((rule?_eq_some_iff h).2 hdecides))
    exact ⟨hlists.names, hlists.configured⟩

/-- The rule that decides about a store has a provider for each name that it lists. -/
theorem exists_resolve_of_decides (h : ofConfig config = .ok resolver) {rule : NamespaceRule}
    (hdecides : config.Decides store rule) :
    ∃ providers, resolver.resolve store = .ok providers ∧ rule.Lists config providers := by
  have hfound : ∀ names : List String, (∀ name ∈ names, name ∈ config.providerNames) →
      ∃ providers : List ProviderConfig, providers.map (·.name) = names ∧
        ∀ p ∈ providers, p ∈ config.providers := by
    intro names hnames
    induction names with
    | nil => exact ⟨[], rfl, fun p hp => (nomatch hp)⟩
    | cons name rest ih =>
      obtain ⟨hname, hrest⟩ := List.forall_mem_cons.1 hnames
      obtain ⟨p, hp, hsame⟩ := List.mem_map.1 hname
      obtain ⟨providers, hproviders, hconfigured⟩ := ih hrest
      exact ⟨p :: providers, by rw [List.map_cons, hsame, hproviders],
        List.forall_mem_cons.2 ⟨hp, hconfigured⟩⟩
  have hvalid := (ofConfig_eq_ok_iff.1 h).1
  have hmem : rule ∈ config.rules := by
    obtain ⟨before, after, hrules, -⟩ := hdecides
    rw [hrules]
    exact List.mem_append_right _ List.mem_cons_self
  obtain ⟨providers, hnames, hconfigured⟩ :=
    hfound rule.providers (hvalid.followed rule hmem).configured
  exact ⟨providers, (resolve_eq_ok_iff h).2 ⟨rule, hdecides, hnames, hconfigured⟩, hnames,
    hconfigured⟩

/-- A store whose name no rule matches is refused, and no other. -/
theorem resolve_eq_error_iff (h : ofConfig config = .ok resolver) {e : StoreError} :
    resolver.resolve store = .error e ↔
      e = .configuration (.unmatchedStore store) ∧ ∀ rule ∈ config.rules, ¬rule.Matches store := by
  cases hrule : resolver.rule? store with
  | none =>
    rw [resolve, hrule]
    exact ⟨fun herror => ⟨(Except.error.inj herror).symm, (rule?_eq_none_iff h).1 hrule⟩,
      fun herror => by rw [herror.1]⟩
  | some rule =>
    have hdecides := (rule?_eq_some_iff h).1 hrule
    obtain ⟨providers, hresolve, -⟩ := exists_resolve_of_decides h hdecides
    rw [hresolve]
    refine ⟨nofun, fun herror => ?_⟩
    have hnone := (rule?_eq_none_iff h).2 herror.2
    rw [hrule] at hnone
    cases hnone

/-- A store is made up of at least one layer. -/
theorem ne_nil_of_resolve (h : ofConfig config = .ok resolver) {providers : List ProviderConfig}
    (hresolve : resolver.resolve store = .ok providers) : providers ≠ [] := by
  obtain ⟨rule, ⟨before, after, hrules, -⟩, hlists⟩ := (resolve_eq_ok_iff h).1 hresolve
  have hmem : rule ∈ config.rules := by
    rw [hrules]
    exact List.mem_append_right _ List.mem_cons_self
  rintro rfl
  exact ((ofConfig_eq_ok_iff.1 h).1.followed rule hmem).layered hlists.names.symm

end Resolver

/-! ## Building stores -/

namespace Context

variable {Base : Type} {shelf : Shelf Base} {store : String} {s t : Context × Storage}

omit [PatternEngine] in
/-- One layer is made for each provider. -/
theorem length_of_makeLayers {providers : List ProviderConfig} {layers : List (Store Base)}
    (h : makeLayers shelf store providers s = (.ok layers, t)) :
    layers.length = providers.length := by
  induction providers generalizing s layers with
  | nil =>
    cases h
    rfl
  | cons p rest ih =>
    rw [makeLayers, Action.bind_apply] at h
    rcases hfirst : makeLayer shelf store p s with ⟨_ | layer, s'⟩
    · rw [hfirst] at h
      cases h
    · rw [hfirst] at h
      dsimp only at h
      rw [Action.bind_apply] at h
      rcases hrest : makeLayers shelf store rest s' with ⟨_ | lower, u⟩
      · rw [hrest] at h
        cases h
      · rw [hrest] at h
        cases h
        rw [List.length_cons, List.length_cons, ih hrest]

omit [PatternEngine] in
/-- A store whose name is resolved is built from the layers of its providers. -/
theorem build_of_resolve {providers : List ProviderConfig}
    (h : s.1.resolver.resolve store = .ok providers) :
    build shelf store s = (do
      let layers ← makeLayers shelf store providers
      let stack ← Action.ofExcept (Store.ofLayers store layers)
      onStorage (shelf.lifecycle stack .setup)
      pure stack : Action (Context × Storage) (Store Base)) s := by
  rw [build, Action.bind_apply, Action.read_apply]
  dsimp only
  rw [Action.bind_apply, Action.ofExcept_apply, h]

/-- How building a store may fail: no rule matches its name, a layer cannot be made, or the stack
cannot be set up. -/
inductive BuildFailure (shelf : Shelf Base) (store : String) (s : Context × Storage)
    (e : StoreError) (t : Context × Storage) : Prop where
  | unmatched (h : e = .configuration (.unmatchedStore store)) (unchanged : t = s)
  | unmade {providers : List ProviderConfig}
    (resolved : s.1.resolver.resolve store = .ok providers)
    (h : makeLayers shelf store providers s = (.error e, t))
  | notSetUp {providers : List ProviderConfig} {layers : List (Store Base)} {stack : Store Base}
    {u : Context × Storage} (resolved : s.1.resolver.resolve store = .ok providers)
    (made : makeLayers shelf store providers s = (.ok layers, u))
    (stacked : Store.ofLayers store layers = .ok stack)
    (h : onStorage (shelf.lifecycle stack .setup) u = (.error e, t))

/-- The layers of a store make up a stack. -/
theorem exists_ofLayers {config : StoreConfig} (h : Resolver.ofConfig config = .ok s.1.resolver)
    {providers : List ProviderConfig} (hresolve : s.1.resolver.resolve store = .ok providers)
    {layers : List (Store Base)} (hlayers : makeLayers shelf store providers s = (.ok layers, t)) :
    ∃ stack, Store.ofLayers store layers = .ok stack := by
  have hlength := length_of_makeLayers hlayers
  have hproviders := Resolver.ne_nil_of_resolve h hresolve
  cases layers with
  | nil => exact absurd (List.length_eq_zero_iff.1 hlength.symm) hproviders
  | cons front lower => exact ⟨_, rfl⟩

/-- A store that cannot be built fails in one of these ways. -/
theorem buildFailure_of_build {config : StoreConfig}
    (h : Resolver.ofConfig config = .ok s.1.resolver) {e : StoreError}
    (hbuild : build shelf store s = (.error e, t)) : BuildFailure shelf store s e t := by
  cases hresolve : s.1.resolver.resolve store with
  | error problem =>
    rw [build, Action.bind_apply, Action.read_apply] at hbuild
    dsimp only at hbuild
    rw [Action.bind_apply, Action.ofExcept_apply, hresolve] at hbuild
    cases hbuild
    exact .unmatched ((Resolver.resolve_eq_error_iff h).1 hresolve).1 rfl
  | ok providers =>
    rw [build_of_resolve hresolve, Action.bind_apply] at hbuild
    rcases hlayers : makeLayers shelf store providers s with ⟨_ | layers, u⟩
    · rw [hlayers] at hbuild
      cases hbuild
      exact .unmade hresolve hlayers
    · obtain ⟨stack, hstack⟩ := exists_ofLayers h hresolve hlayers
      rw [hlayers] at hbuild
      dsimp only at hbuild
      rw [Action.bind_apply, Action.ofExcept_apply, hstack] at hbuild
      dsimp only at hbuild
      rw [Action.bind_apply] at hbuild
      rcases hsetup : onStorage (shelf.lifecycle stack .setup) u with ⟨_ | _, v⟩
      · rw [hsetup] at hbuild
        cases hbuild
        exact .notSetUp hresolve hlayers hstack hsetup
      · rw [hsetup] at hbuild
        cases hbuild

end Context

/-! ## The laws of resolution -/

/-- What a resolver of a configuration gives for every store. -/
structure Resolver.Follows (config : StoreConfig) (resolver : Resolver) : Prop where
  fails_iff : ∀ store, (∃ e, resolver.resolve store = .error e) ↔
    ∀ rule ∈ config.rules, ¬rule.Matches store
  unmatched : ∀ store e, resolver.resolve store = .error e →
    e = .configuration (.unmatchedStore store)
  listed : ∀ store rule, config.Decides store rule →
    ∃ providers, resolver.resolve store = .ok providers ∧ rule.Lists config providers
  decided : ∀ store providers, resolver.resolve store = .ok providers →
    ∃ rule, config.Decides store rule ∧ rule.Lists config providers

/-- What building a store with a resolver never meets. -/
structure Context.BuildsAll (resolver : Resolver) {Base : Type} (shelf : Shelf Base) : Prop where
  stacked : ∀ store (s t : Context × Storage) providers layers, s.1.resolver = resolver →
    resolver.resolve store = .ok providers →
    makeLayers shelf store providers s = (.ok layers, t) →
    ∃ stack, Store.ofLayers store layers = .ok stack
  failure : ∀ store (s t : Context × Storage) e, s.1.resolver = resolver →
    build shelf store s = (.error e, t) → BuildFailure shelf store s e t

/-- The configurations that have a resolver are the valid ones; it gives for every store what the
first rule that matches the name of the store lists, and fails only where there is no such rule.
Therefore no context that has it meets an unknown provider or a stack without layers. -/
theorem StoreConfig.resolution_laws (config : StoreConfig) :
    ((∃ resolver, Resolver.ofConfig config = .ok resolver) ↔ config.IsValid) ∧
      ∀ resolver, Resolver.ofConfig config = .ok resolver →
        resolver.Follows config ∧
          ∀ {Base : Type} (shelf : Shelf Base), Context.BuildsAll resolver shelf := by
  refine ⟨Resolver.exists_ofConfig_iff, fun resolver h => ⟨?_, fun shelf => ?_⟩⟩
  · refine ⟨fun store => ⟨fun ⟨e, he⟩ => ((Resolver.resolve_eq_error_iff h).1 he).2, fun hnone =>
      ⟨_, (Resolver.resolve_eq_error_iff h).2 ⟨rfl, hnone⟩⟩⟩, fun store e he =>
      ((Resolver.resolve_eq_error_iff h).1 he).1, fun store rule hdecides =>
      Resolver.exists_resolve_of_decides h hdecides, fun store providers hresolve =>
      (Resolver.resolve_eq_ok_iff h).1 hresolve⟩
  · constructor
    · rintro store s t providers layers rfl hresolve hlayers
      exact Context.exists_ofLayers h hresolve hlayers
    · rintro store s t e rfl hbuild
      exact Context.buildFailure_of_build h hbuild

end Engine

/-- Sessions lie in a cache above a disk, and everything else lies on the disk alone. -/
def StoreConfig.cachedSessions : StoreConfig where
  providers := [{ name := "disk", kind := "sqlite" }, { name := "cache", kind := "memory" }]
  rules := [⟨"s.*", ["cache", "disk"]⟩, ⟨".*", ["disk"]⟩]

/-- A store whose name both rules match is laid out by the first of them. -/
theorem StoreConfig.resolution_laws_cachedSessions :
    ∃ resolver, Resolver.ofConfig cachedSessions = .ok resolver ∧
      (∃ providers, resolver.resolve "sessions" = .ok providers ∧
        providers.map (·.name) = ["cache", "disk"]) ∧
      ∃ providers, resolver.resolve "orders" = .ok providers ∧
        providers.map (·.name) = ["disk"] := by
  have hvalid : cachedSessions.IsValid := by
    refine ⟨by decide, by decide, ?_⟩
    rintro rule (_ | ⟨_, _ | ⟨_, ⟨⟩⟩⟩)
    · exact ⟨(NamespaceRule.exists_compile_iff _).2 (by decide +kernel), by decide, by decide⟩
    · exact ⟨(NamespaceRule.exists_compile_iff _).2 (by decide +kernel), by decide, by decide⟩
  obtain ⟨resolver, hresolver⟩ := cachedSessions.resolution_laws.1.2 hvalid
  have hfollows := (cachedSessions.resolution_laws.2 resolver hresolver).1
  refine ⟨resolver, hresolver, ?_, ?_⟩
  · obtain ⟨providers, hresolve, hlists⟩ := hfollows.listed "sessions" ⟨"s.*", ["cache", "disk"]⟩
      ⟨[], _, rfl, by decide, by decide +kernel⟩
    exact ⟨providers, hresolve, hlists.names⟩
  · obtain ⟨providers, hresolve, hlists⟩ := hfollows.listed "orders" ⟨".*", ["disk"]⟩
      ⟨[⟨"s.*", ["cache", "disk"]⟩], _, rfl, by decide +kernel, by decide +kernel⟩
    exact ⟨providers, hresolve, hlists.names⟩

end TieredStore
