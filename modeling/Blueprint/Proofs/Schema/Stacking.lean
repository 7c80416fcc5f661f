import Blueprint.Config
import Blueprint.Proofs.Schema.Activation
import Blueprint.Proofs.Schema.Effect

/-!
# Profiles on top of one another

Profiles are applied one after the other, each as a batch of its own with its own placement step and
policies.  The bounds of the batches cannot be told from the result: extending and freezing never
look at the placement step (`applyAll_withPlacement`, `freeze_withPlacement`), so the steps can be
put off to the end, and then there is one batch of all directives (`Profile.activate_eq`).

The policies are three layers of entries put in above the base table.  What governs a key is found in
the last of them that has it (`PolicyTable.get?_foldl_setAll`, `Config.policyFor_layers`).
-/

namespace Blueprint

namespace Registry

/-- A registry with another placement step, or none. -/
def withPlacement (registry : Registry) (placement : Option HostPlacement) : Registry :=
  { registry with placement }

@[simp]
theorem withPlacement_definitions (registry : Registry) (placement : Option HostPlacement) :
    (registry.withPlacement placement).definitions = registry.definitions :=
  rfl

@[simp]
theorem withPlacement_contributed (registry : Registry) (placement : Option HostPlacement) :
    (registry.withPlacement placement).contributed = registry.contributed :=
  rfl

@[simp]
theorem withPlacement_placement (registry : Registry) (placement : Option HostPlacement) :
    (registry.withPlacement placement).placement = placement :=
  rfl

@[simp]
theorem withPlacement_frozen (registry : Registry) (placement : Option HostPlacement) :
    (registry.withPlacement placement).frozen = registry.frozen :=
  rfl

@[simp]
theorem withPlacement_withPlacement (registry : Registry) (first second : Option HostPlacement) :
    (registry.withPlacement first).withPlacement second = registry.withPlacement second :=
  rfl

section

variable (registry : Registry) (placement : Option HostPlacement)

theorem install_withPlacement (definition : Definition) :
    (registry.withPlacement placement).install definition =
      (registry.install definition).map (·.withPlacement placement) := by
  rw [install, install, withPlacement_definitions]
  cases registry.definitions.get? definition.name with
  | none => rfl
  | some existing =>
      dsimp only
      split <;> rfl

theorem installAll_withPlacement (definitions : List Definition) :
    (registry.withPlacement placement).installAll definitions =
      (registry.installAll definitions).map (·.withPlacement placement) := by
  induction definitions generalizing registry with
  | nil => rfl
  | cons definition rest ih =>
      rw [installAll, installAll, install_withPlacement]
      cases registry.install definition with
      | error cause => rfl
      | ok next => exact ih next

theorem modify_withPlacement (name : String) (change : Definition → Definition) :
    (registry.withPlacement placement).modify name change =
      (registry.modify name change).withPlacement placement := by
  rw [modify, modify, withPlacement_definitions]
  cases registry.definitions.get? name <;> rfl

theorem prune_withPlacement (target : String) (definition : Definition) :
    (registry.withPlacement placement).prune target definition =
      (registry.prune target definition).withPlacement placement := by
  rw [prune, prune, withPlacement_contributed]
  cases registry.contributed.get? target <;> rfl

/-- A directive does not look at the placement step. -/
theorem applyOne_withPlacement (directive : Directive) :
    (registry.withPlacement placement).applyOne directive =
      (registry.applyOne directive).map (·.withPlacement placement) := by
  rw [applyOne, applyOne, withPlacement_definitions]
  cases registry.definitions.get? directive.target with
  | none => rfl
  | some existing =>
      cases directive with
      | addBehavior target validators =>
          dsimp only
          rw [modify_withPlacement]
          rfl
      | replace target definition supporting =>
          dsimp only
          rw [replace, replace, installAll_withPlacement]
          cases registry.installAll supporting with
          | error cause => rfl
          | ok supplied =>
              dsimp only [Except.map]
              rw [prune_withPlacement]
              rfl
      | addToSchema target key definition required supporting =>
          dsimp only [addField]
          rw [installAll_withPlacement]
          cases existing.fields? with
          | none => rfl
          | some fields =>
              dsimp only
              split
              · rfl
              · cases registry.installAll (supporting ++ [definition]) with
                | error cause => rfl
                | ok supplied =>
                    dsimp only [Except.map]
                    rw [modify_withPlacement]
                    rfl

theorem applyAll_withPlacement (directives : List Directive) :
    (registry.withPlacement placement).applyAll directives =
      (registry.applyAll directives).map (·.withPlacement placement) := by
  induction directives generalizing registry with
  | nil => rfl
  | cons directive rest ih =>
      rw [applyAll, applyAll, applyOne_withPlacement]
      cases registry.applyOne directive with
      | error cause => rfl
      | ok next => exact ih next

theorem prepareDefinitions_withPlacement (patterns : Dict Pattern)
    (definitions : List Definition) :
    (registry.withPlacement placement).prepareDefinitions patterns definitions =
      registry.prepareDefinitions patterns definitions := by
  induction definitions generalizing patterns with
  | nil => rfl
  | cons definition rest ih =>
      have sameReferences : (registry.withPlacement placement).unresolved? definition =
          registry.unresolved? definition := rfl
      rw [prepareDefinitions, prepareDefinitions, sameReferences]
      simp only [ih]

theorem explore_withPlacement (levels : Nat) (path finished : List String) (name : String) :
    (registry.withPlacement placement).explore levels path finished name =
      registry.explore levels path finished name := by
  induction levels generalizing path finished name with
  | zero => rfl
  | succ levels ih =>
      rw [explore, explore]
      simp only [ih]
      rfl

/-- Freezing does not look at the placement step. -/
theorem freeze_withPlacement :
    (registry.withPlacement placement).freeze =
      registry.freeze.map (·.withPlacement placement) := by
  have sameCircle : (registry.withPlacement placement).circle? = registry.circle? := by
    simp only [circle?, explore_withPlacement]
    rfl
  rw [freeze, freeze, withPlacement_frozen, withPlacement_definitions,
    prepareDefinitions_withPlacement, sameCircle]
  split
  · rfl
  · cases registry.prepareDefinitions ∅ registry.definitions.values with
    | error cause => rfl
    | ok patterns =>
        dsimp only
        cases registry.circle? <;> rfl

end

end Registry

/-- What the last of some values gives: that of the later ones, or else that of the first. -/
theorem getLast?_filterMap_cons {α β : Type} (give : α → Option β) (first : α) (rest : List α) :
    ((first :: rest).filterMap give).getLast? = (rest.filterMap give).getLast?.or (give first) := by
  cases here : give first with
  | none => simp [here]
  | some value =>
      cases later : (rest.filterMap give).getLast? <;> simp [here, later, List.getLast?_cons]

namespace PolicyTable

/-- Policies of single keys are put in above those that are there, each key once. -/
theorem get?_setAll (table : PolicyTable) (layer : Dict Policy) (key : String) :
    (table.setAll layer.entries).policies.get? key =
      (layer.get? key).or (table.policies.get? key) :=
  layer.ascending.get?_insertAll table.policies.entries key

/-- Of several layers the last one that has a key decides. -/
theorem get?_foldl_setAll (table : PolicyTable) (layers : List (Dict Policy)) (key : String) :
    (layers.foldl (fun table layer => table.setAll layer.entries) table).policies.get? key =
      ((layers.filterMap (·.get? key)).getLast?).or (table.policies.get? key) := by
  induction layers generalizing table with
  | nil => rfl
  | cons layer rest ih =>
      rw [List.foldl_cons, ih, get?_setAll, getLast?_filterMap_cons, Option.or_assoc]

/-- Sections that may not be overridden have the policy that says so. -/
theorem get?_registerNoOverride (table : PolicyTable) (keys : List String) (key : String) :
    (table.registerNoOverride keys).policies.get? key =
      if key ∈ keys then some .mergeNoOverride else table.policies.get? key := by
  induction keys generalizing table with
  | nil => rfl
  | cons first rest ih =>
      refine (ih (table.set first .mergeNoOverride)).trans ?_
      rw [set, Dict.get?_insert]
      by_cases here : first = key
      · subst here
        simp
      · simp [here, Ne.symm here]

end PolicyTable

namespace Profile

/-- The placement step of the last profile that brings one. -/
def lastPlacement? (profiles : List Profile) : Option HostPlacement :=
  (profiles.filterMap Profile.placement).getLast?

/-- The policy of a key in the last profile that names it. -/
def lastPolicy? (profiles : List Profile) (key : String) : Option Policy :=
  (profiles.filterMap fun profile => profile.mergePolicies.get? key).getLast?

/-- The policies of profiles put into a table, one profile after the other. -/
def layPolicies (profiles : List Profile) (table : PolicyTable) : PolicyTable :=
  (profiles.map Profile.mergePolicies).foldl (fun table layer => table.setAll layer.entries) table

open Registry

/-- A profile is a batch of directives, then perhaps a placement step. -/
theorem applyTo_eq (profile : Profile) {registry : Registry} (unfrozen : registry.frozen = false)
    (policies : PolicyTable) :
    profile.applyTo registry policies =
      (registry.applyAll profile.directives).map fun extended =>
        (extended.withPlacement (profile.placement.or extended.placement),
          policies.setAll profile.mergePolicies.entries) := by
  rw [applyTo, apply_eq_applyAll unfrozen]
  cases applied : registry.applyAll profile.directives with
  | error cause => rfl
  | ok extended =>
      have still : extended.frozen = false := (applyAll_rest applied).2.2.2.trans unfrozen
      cases profile.placement with
      | none => rfl
      | some placement =>
          have placed : extended.setPlacement placement =
              .ok (extended.withPlacement (some placement)) :=
            setPlacement_ok_iff.mpr ⟨still, rfl⟩
          simp only [placed]
          rfl

/-- Profiles one after the other are one batch of their directives, with the last placement step and
all policies. -/
theorem applyAll_eq (profiles : List Profile) {registry : Registry}
    (unfrozen : registry.frozen = false) (policies : PolicyTable) :
    applyAll registry policies profiles =
      (registry.applyAll (profiles.flatMap Profile.directives)).map fun extended =>
        (extended.withPlacement ((lastPlacement? profiles).or extended.placement),
          layPolicies profiles policies) := by
  induction profiles generalizing registry policies with
  | nil => rfl
  | cons profile rest ih =>
      rw [applyAll, applyTo_eq profile unfrozen, List.flatMap_cons, applyAll_append]
      cases applied : registry.applyAll profile.directives with
      | error cause => rfl
      | ok extended =>
          have still : extended.frozen = false := (applyAll_rest applied).2.2.2.trans unfrozen
          dsimp only [Except.map, Except.bind]
          rw [ih (by simpa using still), applyAll_withPlacement]
          cases more : extended.applyAll (rest.flatMap Profile.directives) with
          | error cause => rfl
          | ok last =>
              have samePlacement : last.placement = extended.placement := (applyAll_rest more).2.2.1
              have lastStep : lastPlacement? (profile :: rest) =
                  (lastPlacement? rest).or profile.placement :=
                getLast?_filterMap_cons Profile.placement profile rest
              simp only [Except.map, withPlacement_withPlacement, withPlacement_placement, lastStep,
                samePlacement, Option.or_assoc]
              rfl

/-- The base vocabulary with the directives of all profiles in one batch. -/
def flattened (profiles : List Profile) : Except ExtensionError Registry :=
  Registry.build Vocabulary.root Vocabulary.definitions (profiles.flatMap Profile.directives)

/-- Activation is one batch of all directives on the base vocabulary, then the last placement step
and all policies. -/
theorem activate_eq (profiles : List Profile) :
    activate profiles = (flattened profiles).map fun flat =>
      ⟨flat.withPlacement (lastPlacement? profiles), layPolicies profiles Vocabulary.policies⟩ := by
  unfold activate flattened Registry.build
  -- Nothing here depends on what the base definitions are.
  generalize Vocabulary.definitions = definitions
  cases registered : Registry.register Vocabulary.root definitions with
  | error cause => rfl
  | ok base =>
      have unfrozen := (register_regular registered).unfrozen
      have unplaced : base.placement = none := by
        rcases register_ok_iff.mp registered with ⟨_, _, _, rfl⟩
        rfl
      simp only [applyAll_eq profiles unfrozen, apply_eq_applyAll unfrozen]
      cases applied : base.applyAll (profiles.flatMap Profile.directives) with
      | error cause => rfl
      | ok extended =>
          have samePlacement : extended.placement = none :=
            (applyAll_rest applied).2.2.1.trans unplaced
          simp only [Except.map, samePlacement, Option.or_none, freeze_withPlacement]
          cases extended.freeze <;> rfl

end Profile

namespace Config

variable {files : Files} {config : Config} {profiles : List Profile}

/-- A configuration activates its profiles, and its own policies come last. -/
theorem activate_eq (loaded : config.profiles files = .ok profiles) :
    config.activate files =
      match Profile.flattened profiles with
      | .error cause => .error (.extension cause)
      | .ok flat =>
          .ok ⟨flat.withPlacement (Profile.lastPlacement? profiles),
            ((Profile.layPolicies profiles Vocabulary.policies).withDefault
              config.defaultPolicy).setAll config.mergePolicies.entries⟩ := by
  rw [activate, loaded]
  dsimp only
  rw [Profile.activate_eq]
  cases Profile.flattened profiles <;> rfl

/-- The policy of a key above the profiles of a configuration: that of the configuration, or else of
the last profile that names the key, or else of the base vocabulary, or else the default. -/
theorem policyFor_layers (config : Config) (profiles : List Profile) (key : String) :
    (((Profile.layPolicies profiles Vocabulary.policies).withDefault
        config.defaultPolicy).setAll config.mergePolicies.entries).policyFor key =
      ((config.mergePolicies.get? key).or ((Profile.lastPolicy? profiles key).or
        (if key ∈ Vocabulary.noOverrideSections then some .mergeNoOverride else none))).getD
          config.defaultPolicy := by
  have base : Vocabulary.policies.policies.get? key =
      if key ∈ Vocabulary.noOverrideSections then some .mergeNoOverride else none :=
    PolicyTable.empty.get?_registerNoOverride Vocabulary.noOverrideSections key
  have profileLayers : (Profile.layPolicies profiles Vocabulary.policies).policies.get? key =
      (Profile.lastPolicy? profiles key).or (Vocabulary.policies.policies.get? key) := by
    rw [Profile.layPolicies, PolicyTable.get?_foldl_setAll, List.filterMap_map]
    rfl
  rw [PolicyTable.policyFor, PolicyTable.get?_setAll]
  change ((config.mergePolicies.get? key).or
    ((Profile.layPolicies profiles Vocabulary.policies).policies.get? key)).getD
      config.defaultPolicy = _
  rw [profileLayers, base]

end Config

/-- Profiles on top of one another are one batch of all their directives.  Activation succeeds
exactly if that batch does on the base vocabulary, with the same error otherwise, and answers the
same registry but for the placement step, which is that of the last profile that brings one.  Above
a configuration with these profiles a key is governed by the entry of the configuration, or else by
that of the last profile that names it, or else as the base vocabulary has it for its sections, or
else by the default of the configuration. -/
theorem Profile.activate_flattened (profiles : List Profile) :
    (∀ cause, activate profiles = .error cause ↔ flattened profiles = .error cause) ∧
      (∀ registry, (∃ policies, activate profiles = .ok ⟨registry, policies⟩) ↔
        ∃ flat, flattened profiles = .ok flat ∧
          registry = { flat with placement := lastPlacement? profiles }) ∧
      ∀ files (config : Config), config.profiles files = .ok profiles →
        (∀ cause, config.activate files = .error cause ↔
          ∃ reason, cause = .extension reason ∧ flattened profiles = .error reason) ∧
        ∀ configured, config.activate files = .ok configured →
          (∃ policies, activate profiles = .ok ⟨configured.registry, policies⟩) ∧
          ∀ key, configured.policies.policyFor key =
            ((config.mergePolicies.get? key).or ((lastPolicy? profiles key).or
              (if key ∈ Vocabulary.noOverrideSections then some .mergeNoOverride else none))).getD
                config.defaultPolicy := by
  constructor
  · intro cause
    rw [activate_eq]
    cases flattened profiles <;> simp [Except.map]
  constructor
  · intro registry
    rw [activate_eq]
    cases flattened profiles with
    | error cause => simp [Except.map]
    | ok flat => simp [Except.map, Registry.withPlacement, eq_comm]
  · intro files config loaded
    rw [Config.activate_eq loaded, activate_eq]
    cases flattened profiles with
    | error reason => simp [eq_comm]
    | ok flat =>
        constructor
        · simp
        · rintro configured activated
          cases activated
          constructor
          · exact ⟨_, rfl⟩
          · exact config.policyFor_layers profiles

/-- A folder with a profile that joins policy types and places hosts its own way. -/
def unionFolder : Folder :=
  Folder.empty.addFile "union.json" (Json.text (.mapping
    [("host_placement", .mapping [("contained_in", .string "in"), ("host_executor", .string "host"),
        ("host_type", .string "site")]),
      ("merge_policies", .mapping [("policy_types", .string "merge_union")]),
      ("name", .string "union")]))

/-- A configuration with that profile on top of a built-in one. -/
def unionConfig : Config where
  profile := some "cloudify_v1_0"
  profileFiles := ["union.json"]
  defaultPolicy := .mergeUnion
  mergePolicies := Dict.ofList [("inputs", .override)]

/-- Each key has its policy from the last layer that names it, and hosts are placed as the last
profile says. -/
theorem Profile.activate_unionConfig :
    ∃ profiles activation, unionConfig.profiles unionFolder.toFiles = .ok profiles ∧
      unionConfig.activate unionFolder.toFiles = .ok activation ∧
      activation.registry.placement = some ⟨"site", "in", "host"⟩ ∧
      activation.policies.policyFor "inputs" = .override ∧
      activation.policies.policyFor "policy_types" = .mergeUnion ∧
      activation.policies.policyFor "policy_triggers" = .mergeNoOverride ∧
      activation.policies.policyFor "node_types" = .mergeNoOverride ∧
      activation.policies.policyFor "description" = .mergeUnion := by
  have evaluated : (unionConfig.profiles unionFolder.toFiles).toOption.any (fun profiles =>
      lastPlacement? profiles = some ⟨"site", "in", "host"⟩ ∧
      ["inputs", "policy_types", "policy_triggers", "node_types", "description"].map
          (lastPolicy? profiles) =
        [none, some .mergeUnion, some .mergeNoOverride, none, none]) = true := by
    decide +kernel
  have activates : (unionConfig.activate unionFolder.toFiles).toOption.any (fun _ => true) = true := by
    decide +kernel
  rcases exists_of_any_toOption evaluated with ⟨profiles, loaded, holds⟩
  rcases exists_of_any_toOption activates with ⟨configured, activated, _⟩
  rcases of_decide_eq_true holds with ⟨placement, policies⟩
  simp only [List.map_cons, List.map_nil, List.cons.injEq, and_true] at policies
  rcases policies with ⟨inputs, types, triggers, nodeTypes, description⟩
  rcases Profile.activate_flattened profiles with ⟨_, stacked, configures⟩
  rcases (configures _ unionConfig loaded).2 configured activated with ⟨isActivation, governs⟩
  rcases (stacked configured.registry).mp isActivation with ⟨flat, _, isRegistry⟩
  refine ⟨profiles, configured, loaded, activated, ?_, ?_, ?_, ?_, ?_, ?_⟩
  · rw [isRegistry]
    exact placement
  · rw [governs, inputs]
    rfl
  · rw [governs, types]
    rfl
  · rw [governs, triggers]
    rfl
  · rw [governs, nodeTypes]
    rfl
  · rw [governs, description]
    rfl

end Blueprint
