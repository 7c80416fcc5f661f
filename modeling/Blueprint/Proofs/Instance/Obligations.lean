import Blueprint.Proofs.Instance.Postorder
import Blueprint.Proofs.Schema.Patterns

/-!
# What validation checks

The walk over a document checks its obligations in order and answers the first
failure (`validate_eq_discharge`).  Its obligations are the rules of the nodes that it
encloses, so it is valid exactly if every rule of every node passes
(`validate_ok_iff`).
-/

namespace Blueprint

namespace Validation

/-- Check obligations in order. -/
def discharge (checks : Checks) : List Obligation → Except SemanticError Unit
  | [] => .ok ()
  | obligation :: rest =>
      match obligation.2.run checks obligation.1 with
      | .error cause => .error cause
      | .ok () => discharge checks rest

theorem discharge_append (checks : Checks) (first second : List Obligation) :
    discharge checks (first ++ second) =
      (discharge checks first).bind fun _ => discharge checks second := by
  induction first with
  | nil => rfl
  | cons obligation rest ih =>
      rw [List.cons_append, discharge, discharge]
      cases obligation.2.run checks obligation.1 with
      | error cause => rfl
      | ok _ => exact ih

theorem discharge_ok_iff {checks : Checks} {obligations : List Obligation} :
    discharge checks obligations = .ok () ↔
      ∀ obligation ∈ obligations, obligation.2.run checks obligation.1 = .ok () := by
  induction obligations with
  | nil => simp [discharge]
  | cons head rest ih =>
      rw [List.forall_mem_cons, ← ih, discharge]
      cases head.2.run checks head.1 with
      | error cause => simp
      | ok _ => simp

theorem validateHere_eq_discharge (checks : Checks) (registry : Registry) (node : Instance)
    (ancestors : List Instance) :
    validateHere checks registry node ancestors =
      discharge checks (obligationsHere registry node ancestors) := by
  unfold validateHere obligationsHere
  induction validatorsOf registry node with
  | nil => rfl
  | cons validator rest ih =>
      rw [List.map_cons, discharge, Validator.runAll]
      cases validator.run checks ⟨registry, node, ancestors⟩ with
      | error cause => rfl
      | ok _ => exact ih

mutual

theorem validateNode_eq_discharge (checks : Checks) (registry : Registry)
    (ancestors : List Instance) (node : Instance) :
    validateNode checks registry ancestors node =
      discharge checks (obligationsOf registry ancestors node) := by
  cases node with
  | leaf header raw => exact validateHere_eq_discharge checks registry _ ancestors
  | fields header children =>
      rw [validateNode, obligationsOf, discharge_append, ← validateHere_eq_discharge,
        ← validateEntries_eq_discharge]
      cases validateEntries checks registry (.fields header children :: ancestors) children <;> rfl
  | items header children =>
      rw [validateNode, obligationsOf, discharge_append, ← validateHere_eq_discharge,
        ← validateAll_eq_discharge]
      cases validateAll checks registry (.items header children :: ancestors) children <;> rfl
  | entries header children =>
      rw [validateNode, obligationsOf, discharge_append, ← validateHere_eq_discharge,
        ← validateEntries_eq_discharge]
      cases validateEntries checks registry (.entries header children :: ancestors) children <;> rfl

theorem validateAll_eq_discharge (checks : Checks) (registry : Registry)
    (ancestors nodes : List Instance) :
    validateAll checks registry ancestors nodes =
      discharge checks (obligationsOfAll registry ancestors nodes) := by
  cases nodes with
  | nil => rfl
  | cons node rest =>
      rw [validateAll, obligationsOfAll, discharge_append, ← validateNode_eq_discharge,
        ← validateAll_eq_discharge]
      cases validateNode checks registry ancestors node <;> rfl

theorem validateEntries_eq_discharge (checks : Checks) (registry : Registry)
    (ancestors : List Instance) (nodes : List (String × Instance)) :
    validateEntries checks registry ancestors nodes =
      discharge checks (obligationsOfEntries registry ancestors nodes) := by
  cases nodes with
  | nil => rfl
  | cons entry rest =>
      rcases entry with ⟨key, node⟩
      rw [validateEntries, obligationsOfEntries, discharge_append, ← validateNode_eq_discharge,
        ← validateEntries_eq_discharge]
      cases validateNode checks registry ancestors node <;> rfl

end

/-- Validation checks all obligations of a document in order. -/
theorem validate_eq_discharge (checks : Checks) (registry : Registry) (root : Instance) :
    validate checks registry root = discharge checks (obligations registry root) :=
  validateNode_eq_discharge checks registry [] root

/-! ## Enclosed nodes -/

/-- The rules for the nodes that a document encloses. -/
def Owed (registry : Registry) (root : Instance) (obligation : Obligation) : Prop :=
  ∃ ancestors node, Encloses root ancestors node ∧
    obligation ∈ obligationsHere registry node ancestors

/-- The rules for a document are those for the nodes that it encloses. -/
theorem mem_obligations_iff {registry : Registry} {root : Instance} {obligation : Obligation} :
    obligation ∈ obligations registry root ↔ Owed registry root obligation := by
  rw [obligations_eq_listed, obligationsBy, List.mem_flatMap]
  constructor
  · rintro ⟨context, visited, here⟩
    obtain ⟨rfl, encloses⟩ := mem_visits_iff.mp visited
    exact ⟨context.ancestors, context.node, encloses, here⟩
  · rintro ⟨ancestors, node, encloses, here⟩
    exact ⟨⟨registry, node, ancestors⟩, mem_visits_iff.mpr ⟨rfl, encloses⟩, here⟩

/-- A document is valid exactly if every rule of every node passes. -/
theorem validate_ok_iff {checks : Checks} {registry : Registry} {root : Instance} :
    validate checks registry root = .ok () ↔
      ∀ ancestors node, Encloses root ancestors node → ∀ validator ∈ validatorsOf registry node,
        validator.run checks ⟨registry, node, ancestors⟩ = .ok () := by
  rw [validate_eq_discharge, discharge_ok_iff]
  constructor
  · intro met ancestors node encloses validator member
    apply met (⟨registry, node, ancestors⟩, validator)
    exact mem_obligations_iff.mpr ⟨ancestors, node, encloses, List.mem_map_of_mem member⟩
  · intro passes obligation member
    obtain ⟨ancestors, node, encloses, here⟩ := mem_obligations_iff.mp member
    obtain ⟨validator, isValidator, rfl⟩ := List.mem_map.mp here
    exact passes ancestors node encloses validator isValidator

/-- In a validated document every rule of every node passes. -/
theorem run_of_validate {checks : Checks} {registry : Registry} {root node : Instance}
    {ancestors : List Instance} (valid : validate checks registry root = .ok ())
    (encloses : Encloses root ancestors node) {definition : Definition}
    (known : registry.definition? node.definition = some definition) {validator : Validator}
    (member : validator ∈ definition.validators) :
    validator.run checks ⟨registry, node, ancestors⟩ = .ok () := by
  apply validate_ok_iff.mp valid ancestors node encloses
  rwa [validatorsOf, known]

end Validation

/-! ## Rules in two registries -/

/-- Checks of a host that do not look at the registry. -/
def Checks.IgnoreRegistry (checks : Checks) : Prop :=
  ∀ check registry other node ancestors,
    checks check ⟨registry, node, ancestors⟩ = checks check ⟨other, node, ancestors⟩

/-- A rule sees nothing of the registry but what is prepared for its pattern. -/
theorem Validator.run_congr {checks : Checks} (blind : checks.IgnoreRegistry)
    {registry other : Registry} {validator : Validator}
    (same : ∀ source code, validator = .pattern source code →
      registry.pattern? source = other.pattern? source)
    (node : Instance) (ancestors : List Instance) :
    validator.run checks ⟨registry, node, ancestors⟩ =
      validator.run checks ⟨other, node, ancestors⟩ := by
  cases validator with
  | pattern source code =>
      unfold run
      dsimp only
      rw [same source code rfl]
      rfl
  | custom check => exact blind check registry other node ancestors
  | _ => rfl

/-- A rule that is registered in two frozen registries says the same in both. -/
theorem Registry.Frozen.run_eq {registry other : Registry} (frozen : registry.Frozen)
    (itsFrozen : other.Frozen) {checks : Checks} (blind : checks.IgnoreRegistry)
    {name itsName : String} {definition itsDefinition : Definition}
    (known : registry.definition? name = some definition) {validator : Validator}
    (member : validator ∈ definition.validators)
    (itsKnown : other.definition? itsName = some itsDefinition)
    (itsMember : validator ∈ itsDefinition.validators) (node : Instance)
    (ancestors : List Instance) :
    validator.run checks ⟨registry, node, ancestors⟩ =
      validator.run checks ⟨other, node, ancestors⟩ := by
  apply Validator.run_congr blind
  rintro source code rfl
  rw [frozen.pattern?_eq known member, itsFrozen.pattern?_eq itsKnown itsMember]

end Blueprint
