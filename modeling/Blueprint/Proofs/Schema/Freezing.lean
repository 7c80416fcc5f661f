import Blueprint.Proofs.Schema.Circles
import Blueprint.Proofs.Schema.Extension

/-!
# Which registries can be frozen

Freezing accepts exactly the coherent registries: every reference is registered,
every validator can be used, and no definition refers back to itself.  What it
answers otherwise is a fault that the registry really has.
-/

namespace Blueprint

namespace Validator

/-- A validator that can be used: its pattern compiles, or it allows some value. -/
def Usable : Validator → Prop
  | .pattern source _ => ∃ prepared, Pattern.compile? source = some prepared
  | .allowedValues values _ _ => values ≠ []
  | _ => True

theorem prepare_ok_iff_usable (validator : Validator) :
    (∃ prepared, validator.prepare = .ok prepared) ↔ validator.Usable := by
  cases validator with
  | allowedValues values owner code => cases values <;> simp [prepare, Usable]
  | pattern source code =>
      cases compiled : Pattern.compile? source <;> simp [prepare, Usable, compiled]
  | nonEmpty code => simp [prepare, Usable]
  | referenceTo part code => simp [prepare, Usable]
  | custom check => simp [prepare, Usable]

theorem not_usable_of_prepare_error {validator : Validator} {defect : Defect}
    (failed : validator.prepare = .error defect) : ¬ validator.Usable := by
  rw [← prepare_ok_iff_usable, failed]
  simp

end Validator

namespace Registry

/-- A registry whose definitions can be used together. -/
structure Coherent (registry : Registry) : Prop where
  /-- Every name that is referred to is registered. -/
  resolved : registry.Resolved
  /-- Every validator can be used. -/
  usable : ∀ name definition, registry.definition? name = some definition →
    ∀ validator ∈ definition.validators, validator.Usable
  /-- No definition can contain itself. -/
  acyclic : registry.Acyclic

/-- An error names a fault of a registry: a circle of references, a reference to a
name that is not registered, or a validator with a defect. -/
def HasFault (registry : Registry) : ExtensionError → Prop
  | .cycle path => registry.IsCircle path
  | .unresolvedReference definition reference =>
      registry.Refers definition reference ∧ registry.definition? reference = none
  | .invalidValidator name defect =>
      ∃ definition, registry.definition? name = some definition ∧
        ∃ validator ∈ definition.validators, validator.prepare = .error defect
  | _ => False

/-! ## Checking definitions -/

theorem prepareAll_ok {name : String} {patterns result : Dict Pattern}
    {validators : List Validator}
    (prepared : prepareAll name patterns validators = .ok result) :
    ∀ validator ∈ validators, validator.Usable := by
  induction validators generalizing patterns with
  | nil => simp
  | cons validator rest ih =>
      unfold prepareAll at prepared
      cases first : validator.prepare with
      | error defect =>
          rw [first] at prepared
          contradiction
      | ok pattern =>
          rw [first] at prepared
          have usable := (validator.prepare_ok_iff_usable).mp ⟨pattern, first⟩
          cases pattern with
          | none => exact List.forall_mem_cons.mpr ⟨usable, ih prepared⟩
          | some pattern => exact List.forall_mem_cons.mpr ⟨usable, ih prepared⟩

theorem prepareAll_error {name : String} {patterns : Dict Pattern} {validators : List Validator}
    {cause : ExtensionError} (failed : prepareAll name patterns validators = .error cause) :
    ∃ validator ∈ validators, ∃ defect,
      validator.prepare = .error defect ∧ cause = .invalidValidator name defect := by
  induction validators generalizing patterns with
  | nil => contradiction
  | cons validator rest ih =>
      unfold prepareAll at failed
      cases first : validator.prepare with
      | error defect =>
          rw [first] at failed
          cases failed
          exact ⟨validator, List.mem_cons_self, defect, first, rfl⟩
      | ok pattern =>
          rw [first] at failed
          cases pattern with
          | none =>
              obtain ⟨later, member, found⟩ := ih failed
              exact ⟨later, List.mem_cons_of_mem _ member, found⟩
          | some pattern =>
              obtain ⟨later, member, found⟩ := ih failed
              exact ⟨later, List.mem_cons_of_mem _ member, found⟩

theorem unresolved?_eq_none {registry : Registry} {definition : Definition}
    (none : registry.unresolved? definition = none) :
    ∀ reference ∈ definition.kind.references,
      ∃ found, registry.definition? reference = some found := by
  intro reference member
  have contained : registry.definitions.contains reference = true := by
    simpa using List.find?_eq_none.mp none reference member
  exact Option.isSome_iff_exists.mp contained

theorem unresolved?_eq_some {registry : Registry} {definition : Definition} {reference : String}
    (found : registry.unresolved? definition = some reference) :
    reference ∈ definition.kind.references ∧ registry.definition? reference = none := by
  have absent : registry.definitions.contains reference = false := by
    simpa using List.find?_some found
  constructor
  · exact List.mem_of_find?_eq_some found
  · exact Option.isNone_iff_eq_none.mp (Option.isSome_eq_false_iff.mp absent)

theorem prepareDefinitions_ok {registry : Registry} {patterns result : Dict Pattern}
    {definitions : List Definition}
    (prepared : registry.prepareDefinitions patterns definitions = .ok result) :
    ∀ definition ∈ definitions,
      (∀ reference ∈ definition.kind.references,
        ∃ found, registry.definition? reference = some found) ∧
      ∀ validator ∈ definition.validators, validator.Usable := by
  induction definitions generalizing patterns with
  | nil => simp
  | cons definition rest ih =>
      unfold prepareDefinitions at prepared
      split at prepared
      · contradiction
      · next resolved =>
          split at prepared
          · contradiction
          · next added first =>
              exact List.forall_mem_cons.mpr
                ⟨⟨unresolved?_eq_none resolved, prepareAll_ok first⟩, ih prepared⟩

theorem prepareDefinitions_error {registry : Registry} {patterns : Dict Pattern}
    {definitions : List Definition} {cause : ExtensionError}
    (failed : registry.prepareDefinitions patterns definitions = .error cause) :
    ∃ definition ∈ definitions,
      (∃ reference ∈ definition.kind.references, registry.definition? reference = none ∧
        cause = .unresolvedReference definition.name reference) ∨
      ∃ validator ∈ definition.validators, ∃ defect, validator.prepare = .error defect ∧
        cause = .invalidValidator definition.name defect := by
  induction definitions generalizing patterns with
  | nil => contradiction
  | cons definition rest ih =>
      unfold prepareDefinitions at failed
      split at failed
      · next reference found =>
          cases failed
          obtain ⟨refers, absent⟩ := unresolved?_eq_some found
          exact ⟨definition, List.mem_cons_self, Or.inl ⟨reference, refers, absent, rfl⟩⟩
      · split at failed
        · next first =>
            cases failed
            exact ⟨definition, List.mem_cons_self, Or.inr (prepareAll_error first)⟩
        · obtain ⟨later, member, fault⟩ := ih failed
          exact ⟨later, List.mem_cons_of_mem _ member, fault⟩

/-! ## Freezing -/

theorem refers_iff {registry : Registry} {name target : String} {definition : Definition}
    (known : registry.definition? name = some definition) :
    registry.Refers name target ↔ target ∈ definition.kind.references := by
  simp [Refers, references, known]

section

variable {registry : Registry} {name : String} {definition : Definition}
  (known : registry.definition? name = some definition)

include known

theorem refers_field {fields : Dict Field} (kind : definition.kind = .composite fields)
    {key : String} {field : Field} (isField : fields.get? key = some field) :
    registry.Refers name field.definition := by
  rw [refers_iff known, kind]
  exact List.mem_map_of_mem (Dict.mem_values_iff.mpr ⟨key, isField⟩)

theorem refers_item {item : String}
    (kind : definition.kind = .list item ∨ definition.kind = .map item) :
    registry.Refers name item := by
  rw [refers_iff known]
  rcases kind with isList | isMap
  · rw [isList]
    exact List.mem_singleton_self item
  · rw [isMap]
    exact List.mem_singleton_self item

end

theorem resolved_of_prepared {registry : Registry} {patterns : Dict Pattern}
    (prepared : registry.prepareDefinitions ∅ registry.definitions.values = .ok patterns) :
    registry.Resolved := by
  intro source target refers
  obtain ⟨definition, known⟩ := mem_keys_iff_definition?.mp refers.source_known
  have member := Dict.mem_values_iff.mpr ⟨source, known⟩
  exact (prepareDefinitions_ok prepared definition member).1 target ((refers_iff known).mp refers)

/-- Every error of freezing names a fault that the registry has. -/
theorem hasFault_of_freeze_error {registry : Registry} (regular : Regular registry)
    {cause : ExtensionError} (failed : registry.freeze = .error cause) :
    registry.HasFault cause := by
  unfold freeze at failed
  rw [if_neg (by simp [regular.unfrozen])] at failed
  split at failed
  · next unprepared =>
      cases failed
      obtain ⟨definition, member, fault⟩ := prepareDefinitions_error unprepared
      obtain ⟨name, known⟩ := Dict.mem_values_iff.mp member
      have known : registry.definition? definition.name = some definition :=
        (regular.named known).symm ▸ known
      rcases fault with ⟨reference, refers, absent, rfl⟩ | ⟨validator, member, defect, bad, rfl⟩
      · exact ⟨(refers_iff known).mpr refers, absent⟩
      · exact ⟨definition, known, validator, member, bad⟩
  · next patterns prepared =>
      split at failed
      · next circle found =>
          cases failed
          exact circle?_isCircle (resolved_of_prepared prepared) found
      · contradiction

theorem coherent_of_freeze_ok {registry frozen : Registry} (unfrozen : registry.frozen = false)
    (accepted : registry.freeze = .ok frozen) : registry.Coherent := by
  unfold freeze at accepted
  rw [if_neg (by simp [unfrozen])] at accepted
  split at accepted
  · contradiction
  · next patterns prepared =>
      have resolved := resolved_of_prepared prepared
      split at accepted
      · contradiction
      · next none =>
          constructor
          case resolved => exact resolved
          case usable =>
            intro name definition known
            exact (prepareDefinitions_ok prepared definition
              (Dict.mem_values_iff.mpr ⟨name, known⟩)).2
          case acyclic => exact (circle?_eq_none_iff resolved).mp none

/-- A coherent registry has none of the faults that freezing reports. -/
theorem Coherent.not_hasFault {registry : Registry} (coherent : registry.Coherent)
    (cause : ExtensionError) : ¬ registry.HasFault cause := by
  intro fault
  cases cause with
  | cycle path => exact IsCircle.not_acyclic fault coherent.acyclic
  | unresolvedReference definition reference =>
      rcases fault with ⟨refers, absent⟩
      obtain ⟨found, known⟩ := coherent.resolved definition reference refers
      rw [absent] at known
      contradiction
  | invalidValidator name defect =>
      rcases fault with ⟨definition, known, validator, member, bad⟩
      exact Validator.not_usable_of_prepare_error bad (coherent.usable name definition known
        validator member)
  | unknownTarget target => exact fault
  | duplicateFieldKey target key => exact fault
  | notComposite target => exact fault
  | definitionConflict name => exact fault
  | duplicateDefinition name => exact fault
  | missingRoot name => exact fault
  | frozen => exact fault

theorem Coherent.exists_freeze {registry : Registry} (coherent : registry.Coherent)
    (regular : Regular registry) : ∃ frozen, registry.freeze = .ok frozen := by
  cases outcome : registry.freeze with
  | ok frozen => exact ⟨frozen, rfl⟩
  | error cause =>
      exact absurd (hasFault_of_freeze_error regular outcome) (coherent.not_hasFault cause)

/-- Freezing accepts exactly the coherent registries.  Every error names a fault
that the registry has, a circle by its names with arrows between them. -/
theorem Grown.freeze_ok_iff_coherent {registry : Registry} (grown : Grown registry) :
    ((∃ frozen, registry.freeze = .ok frozen) ↔ registry.Coherent) ∧
      (∀ cause, registry.freeze = .error cause → registry.HasFault cause) ∧
      ∀ circle, registry.freeze = .error (.cycle circle) →
        ExtensionError.message (.cycle circle) =
          "definition cycle detected at path: " ++ " -> ".intercalate circle := by
  have faulty : ∀ cause, registry.freeze = .error cause → registry.HasFault cause :=
    fun _ failed => hasFault_of_freeze_error grown.regular failed
  have accepts : (∃ frozen, registry.freeze = .ok frozen) ↔ registry.Coherent := by
    constructor
    · rintro ⟨frozen, accepted⟩
      exact coherent_of_freeze_ok grown.regular.unfrozen accepted
    · intro coherent
      cases outcome : registry.freeze with
      | ok frozen => exact ⟨frozen, rfl⟩
      | error cause => exact absurd (faulty cause outcome) (coherent.not_hasFault cause)
  exact ⟨accepts, faulty, fun _ _ => rfl⟩

/-- A registry that was extended in some way and then frozen. -/
def Frozen (registry : Registry) : Prop :=
  ∃ extended, Grown extended ∧ extended.freeze = .ok registry

/-- Freezing prepares patterns and changes nothing else. -/
theorem freeze_rest {registry frozen : Registry} (accepted : registry.freeze = .ok frozen) :
    frozen = { registry with patterns := frozen.patterns, frozen := frozen.frozen } := by
  unfold freeze at accepted
  split at accepted
  · cases accepted
    rfl
  · split at accepted
    · contradiction
    · split at accepted
      · contradiction
      · cases accepted
        rfl

theorem freeze_definitions {registry frozen : Registry}
    (accepted : registry.freeze = .ok frozen) : frozen.definitions = registry.definitions := by
  rw [freeze_rest accepted]

theorem freeze_root {registry frozen : Registry} (accepted : registry.freeze = .ok frozen) :
    frozen.root = registry.root := by
  rw [freeze_rest accepted]

theorem freeze_frozen {registry frozen : Registry} (accepted : registry.freeze = .ok frozen) :
    frozen.frozen = true := by
  unfold freeze at accepted
  split at accepted
  · next already =>
      cases accepted
      exact already
  · split at accepted
    · contradiction
    · split at accepted
      · contradiction
      · cases accepted
        rfl

/-- Coherence is a property of the definitions alone. -/
theorem Coherent.of_definitions {registry other : Registry} (coherent : registry.Coherent)
    (same : other.definitions = registry.definitions) : other.Coherent := by
  have sameDefinition : other.definition? = registry.definition? := by
    funext name
    rw [definition?, same, definition?]
  have sameRefers : other.Refers = registry.Refers := by
    funext source target
    rw [Refers, references, sameDefinition, Refers, references]
  constructor
  case resolved =>
    rw [Resolved, sameRefers, sameDefinition]
    exact coherent.resolved
  case usable =>
    rw [sameDefinition]
    exact coherent.usable
  case acyclic =>
    rw [Acyclic, sameRefers]
    exact coherent.acyclic

theorem Frozen.coherent {registry : Registry} (frozen : registry.Frozen) :
    registry.Coherent := by
  rcases frozen with ⟨extended, grown, accepted⟩
  exact (coherent_of_freeze_ok grown.regular.unfrozen accepted).of_definitions
    (freeze_definitions accepted)

theorem Frozen.named {registry : Registry} (frozen : registry.Frozen) {name : String}
    {definition : Definition} (known : registry.definition? name = some definition) :
    definition.name = name := by
  rcases frozen with ⟨extended, grown, accepted⟩
  rw [definition?, freeze_definitions accepted] at known
  exact grown.regular.named known

theorem Frozen.rooted {registry : Registry} (frozen : registry.Frozen) :
    ∃ definition, registry.root? = some definition := by
  rcases frozen with ⟨extended, grown, accepted⟩
  rw [root?, definition?, freeze_definitions accepted, freeze_root accepted]
  exact grown.regular.rooted

theorem Frozen.isFrozen {registry : Registry} (frozen : registry.Frozen) :
    registry.frozen = true := by
  rcases frozen with ⟨extended, grown, accepted⟩
  exact freeze_frozen accepted

/-- Two lists that are each other's items are refused with the way round. -/
theorem freeze_mutual_lists :
    ∃ registry, Registry.register "a" [.list "a" "b", .list "b" "a"] = .ok registry ∧
      registry.freeze = .error (.cycle ["a", "b", "a"]) ∧
      registry.IsCircle ["a", "b", "a"] ∧ ¬ registry.Coherent := by
  obtain ⟨registry, registered, refused⟩ :
      ∃ registry, Registry.register "a" [.list "a" "b", .list "b" "a"] = .ok registry ∧
        registry.freeze = .error (.cycle ["a", "b", "a"]) :=
    ⟨_, rfl, rfl⟩
  obtain ⟨accepts, faults, _⟩ := Grown.freeze_ok_iff_coherent (.register registered)
  have incoherent : ¬ registry.Coherent := by
    intro coherent
    obtain ⟨frozen, accepted⟩ := accepts.mpr coherent
    rw [refused] at accepted
    contradiction
  exact ⟨registry, registered, refused, faults _ refused, incoherent⟩

end Registry

end Blueprint
