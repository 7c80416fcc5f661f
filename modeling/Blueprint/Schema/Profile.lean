import Blueprint.Schema.Vocabulary

/-!
# Profiles

A profile bundles directives, merge policies and a host placement step under a
name.  Activating profiles applies them in order to the base vocabulary and
freezes the result.
-/

namespace Blueprint

/-- A named way to customise the base vocabulary. -/
structure Profile where
  /-- The name of the profile. -/
  name : String
  /-- What the profile is for. -/
  description : String
  /-- The changes to the schema, in order. -/
  directives : List Directive
  /-- The policies of single keys. -/
  mergePolicies : Dict Policy
  /-- The placement step, if the profile brings one. -/
  placement : Option HostPlacement

/-- A frozen schema and the merge policies that go with it. -/
structure Activation where
  /-- The schema. -/
  registry : Registry
  /-- The merge policies. -/
  policies : PolicyTable

namespace Profile

/-- A profile that changes nothing. -/
def empty (name : String) : Profile :=
  ⟨name, "", [], ∅, none⟩

/-- Set the description. -/
def withDescription (profile : Profile) (description : String) : Profile :=
  { profile with description }

/-- Append a directive. -/
def withDirective (profile : Profile) (directive : Directive) : Profile :=
  { profile with directives := profile.directives ++ [directive] }

/-- Set the policy of a key. -/
def withMergePolicy (profile : Profile) (key : String) (policy : Policy) : Profile :=
  { profile with mergePolicies := profile.mergePolicies.insert key policy }

/-- Set the placement step. -/
def withPlacement (profile : Profile) (placement : HostPlacement) : Profile :=
  { profile with placement := some placement }

/-- Apply a profile to a registry and a policy table.  On failure there is no
result at all. -/
def applyTo (profile : Profile) (registry : Registry) (policies : PolicyTable) :
    Except ExtensionError (Registry × PolicyTable) :=
  match registry.apply profile.directives with
  | .error cause => .error cause
  | .ok registry =>
      let policies := policies.setAll profile.mergePolicies.entries
      match profile.placement with
      | none => .ok (registry, policies)
      | some placement =>
          match registry.setPlacement placement with
          | .error cause => .error cause
          | .ok registry => .ok (registry, policies)

/-- Apply profiles in order. -/
def applyAll (registry : Registry) (policies : PolicyTable) :
    List Profile → Except ExtensionError (Registry × PolicyTable)
  | [] => .ok (registry, policies)
  | profile :: rest =>
      match profile.applyTo registry policies with
      | .error cause => .error cause
      | .ok (registry, policies) => applyAll registry policies rest

/-- Apply profiles in order to the base vocabulary and freeze the result. -/
def activate (profiles : List Profile) : Except ExtensionError Activation :=
  match Registry.register Vocabulary.root Vocabulary.definitions with
  | .error cause => .error cause
  | .ok registry =>
      match applyAll registry Vocabulary.policies profiles with
      | .error cause => .error cause
      | .ok (registry, policies) =>
          match registry.freeze with
          | .error cause => .error cause
          | .ok registry => .ok ⟨registry, policies⟩

/-! ## Built-in profiles -/

/-- The executors of the Cloudify profile. -/
def cloudifyExecutors : List String :=
  ["central_deployment_agent", "host_agent"]

/-- The source of a policy or of a trigger. -/
def policySource : Definition :=
  (Definition.leaf "policy_source" .string).withValidator .filled

/-- The triggers that policies may name. -/
def policyTriggers : Directive :=
  .addToSchema Vocabulary.root "policy_triggers"
    (Definition.map "policy_triggers" "policy_trigger") false
    [((Definition.composite "policy_trigger").withNeeded "source" "policy_source").withOptional
       "parameters" "property_schemas",
     policySource]

/-- The types of policies. -/
def policyTypes : Directive :=
  .addToSchema Vocabulary.root "policy_types"
    (Definition.map "policy_types" "policy_type") false
    [((Definition.composite "policy_type").withNeeded "source" "policy_source").withOptional
       "properties" "property_schemas",
     policySource]

/-- The policies of groups. -/
def groupPolicies : Directive :=
  .addToSchema "group" "policies" (Definition.map "group_policies" "group_policy") false
    [(((Definition.composite "group_policy").withNeeded "type" "group_policy_type").withOptional
       "properties" "any_value").withOptional "triggers" "group_policy_triggers",
     (Definition.leaf "group_policy_type" .string).withValidator (.namesEntryOf "policy_types"),
     Definition.map "group_policy_triggers" "group_policy_trigger",
     ((Definition.composite "group_policy_trigger").withNeeded
       "type" "group_policy_trigger_type").withOptional "parameters" "any_value",
     (Definition.leaf "group_policy_trigger_type" .string).withValidator
       (.namesEntryOf "policy_triggers")]

/-- Cloudify DSL 1.0: operations and plugins have an executor of two, policies
exist, and node templates are placed on compute nodes. -/
def cloudify : Profile where
  name := "cloudify_v1_0"
  description := "Cloudify DSL 1.0: executors, plugin executor, policies, host placement"
  directives :=
    [.replace "operation_executor"
       ((Definition.leaf "operation_executor" .string).withValidator
         ((Validator.oneOf cloudifyExecutors).ownedBy "operation")) [],
     policyTriggers,
     policyTypes,
     .addToSchema "plugin" "executor"
       ((Definition.leaf "plugin_executor" .string).withValidator
         (((Validator.oneOf cloudifyExecutors).ownedBy "plugin").withCode
           Validator.illegalPluginExecutorCode)) true [],
     groupPolicies]
  mergePolicies :=
    Dict.ofList [("policy_types", .mergeNoOverride), ("policy_triggers", .mergeNoOverride)]
  placement :=
    some ⟨"cloudify.nodes.Compute", "cloudify.relationships.contained_in", "host_agent"⟩

/-- The built-in profiles. -/
def builtins : List Profile :=
  [cloudify]

/-- The built-in profile of a name. -/
def builtin? (name : String) : Option Profile :=
  builtins.find? fun profile => profile.name == name

end Profile

end Blueprint
