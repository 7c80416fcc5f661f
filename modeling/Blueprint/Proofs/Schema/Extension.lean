import Blueprint.Schema.Freeze

/-!
# What a directive does to a registry

A directive first supplies definitions, which may add names but changes none, and
then revises the definition under its target.  `applyOne_revises` says this once
for all kinds of directive, with the guards that were passed; everything else
about extension is read off it.

`Registry.Grown` collects the registries that base definitions, directives and
placement steps give rise to.  In all of them the root is registered and every
definition stands under its own name.
-/

namespace Blueprint

/-- An outcome that passes a test is a success. -/
theorem exists_of_any_toOption {ε α : Type} {outcome : Except ε α} {test : α → Bool}
    (holds : outcome.toOption.any test = true) :
    ∃ value, outcome = .ok value ∧ test value = true := by
  cases outcome with
  | error cause => contradiction
  | ok value => exact ⟨value, rfl, holds⟩

namespace Directive

/-- The definitions that a directive brings along. -/
def supplied : Directive → List Definition
  | .replace _ _ supporting => supporting
  | .addToSchema _ _ definition _ supporting => supporting ++ [definition]
  | .addBehavior _ _ => []

/-- The definitions of which a directive consists. -/
def definitions : Directive → List Definition
  | .replace _ definition supporting => definition :: supporting
  | .addToSchema _ _ definition _ supporting => definition :: supporting
  | .addBehavior _ _ => []

/-- The target's definition after the directive, given the one before it. -/
def revise : Directive → Definition → Definition
  | .replace target definition _, _ => { definition with name := target }
  | .addToSchema _ key definition required _, existing =>
      existing.withField key ⟨definition.name, required, none⟩
  | .addBehavior _ validators, existing =>
      { existing with validators := existing.validators ++ validators }

/-- What a directive asks of its target: a field is added to a composite that does
not declare its key. -/
def Admits : Directive → Definition → Prop
  | .addToSchema _ key _ _ _, existing =>
      ∃ fields, existing.fields? = some fields ∧ fields.contains key = false
  | _, _ => True

end Directive

namespace Definition

theorem withField_name (definition : Definition) (key : String) (field : Field) :
    (definition.withField key field).name = definition.name := by
  unfold withField
  split <;> rfl

theorem withField_validators (definition : Definition) (key : String) (field : Field) :
    (definition.withField key field).validators = definition.validators := by
  unfold withField
  split <;> rfl

theorem kind_eq_of_fields? {definition : Definition} {fields : Dict Field}
    (declared : definition.fields? = some fields) : definition.kind = .composite fields := by
  unfold fields? Kind.fields? at declared
  split at declared
  · next kind => cases declared; exact kind
  · contradiction

theorem fields?_of_kind {definition : Definition} {fields : Dict Field}
    (kind : definition.kind = .composite fields) : definition.fields? = some fields := by
  simp [fields?, Kind.fields?, kind]

theorem mem_defaults {definition : Definition} {fields : Dict Field} {key : String} {field : Field}
    {value : Tree} (kind : definition.kind = .composite fields)
    (isField : fields.get? key = some field) (isDefault : field.default = some value) :
    field ∈ definition.defaults := by
  rw [defaults, fields?_of_kind kind]
  apply List.mem_filter.mpr
  exact ⟨Dict.mem_values_iff.mpr ⟨key, isField⟩, by rw [isDefault, Option.isSome_some]⟩

theorem mem_references_of_mem_defaults {definition : Definition} {field : Field}
    (member : field ∈ definition.defaults) : field.definition ∈ definition.kind.references := by
  unfold defaults at member
  split at member
  · contradiction
  · next fields declared =>
      rw [kind_eq_of_fields? declared]
      exact List.mem_map_of_mem (List.mem_filter.mp member).1

theorem withField_kind {definition : Definition} {fields : Dict Field} {key : String}
    {field : Field} (kind : definition.kind = .composite fields) :
    (definition.withField key field).kind = .composite (fields.insert key field) := by
  simp [withField, kind]

/-- Fields under different keys can be declared in either order. -/
theorem withField_comm (definition : Definition) {first second : String}
    (different : first ≠ second) (left right : Field) :
    (definition.withField first left).withField second right =
      (definition.withField second right).withField first left := by
  rcases definition with ⟨name, kind, validators⟩
  cases kind with
  | composite fields => simp [withField, Dict.insert_comm fields different]
  | _ => rfl

end Definition

/-- A revised definition stands under the target's name, if the definition before
it did. -/
theorem Directive.revise_name {directive : Directive} {existing : Definition}
    (own : existing.name = directive.target) :
    (directive.revise existing).name = directive.target := by
  cases directive with
  | replace target definition supporting => rfl
  | addToSchema target key definition required supporting =>
      exact (Definition.withField_name existing key _).trans own
  | addBehavior target validators => exact own

namespace Registry

/-! ## Supplying definitions -/

/-- A registry with further names: what was registered is unchanged, and new
definitions stand under their own names. -/
structure Widened (registry wider : Registry) : Prop where
  keeps : ∀ {name definition}, registry.definition? name = some definition →
    wider.definition? name = some definition
  named : ∀ {name definition}, wider.definition? name = some definition →
    registry.definition? name = some definition ∨ definition.name = name
  rest : wider = { registry with definitions := wider.definitions }

theorem Widened.refl (registry : Registry) : Widened registry registry where
  keeps found := found
  named found := Or.inl found
  rest := rfl

theorem Widened.trans {first second third : Registry} (left : Widened first second)
    (right : Widened second third) : Widened first third where
  keeps found := right.keeps (left.keeps found)
  named found := by
    rcases right.named found with known | own
    · exact left.named known
    · exact Or.inr own
  rest := by rw [right.rest, left.rest]

theorem install_widens {registry wider : Registry} {definition : Definition}
    (installed : registry.install definition = .ok wider) : Widened registry wider := by
  unfold install at installed
  split at installed
  · split at installed
    · cases installed
      exact Widened.refl registry
    · contradiction
  · next absent =>
      cases installed
      have lookUp : ∀ name, (registry.definitions.insert definition.name definition).get? name =
          if definition.name = name then some definition else registry.definitions.get? name :=
        fun name => Dict.get?_insert registry.definitions definition.name name definition
      constructor
      case keeps =>
        intro name found known
        have different : definition.name ≠ name := by
          rintro rfl
          rw [definition?, absent] at known
          contradiction
        simpa [definition?, lookUp, different] using known
      case rest => rfl
      case named =>
        intro name found known
        simp only [definition?, lookUp] at known
        split at known
        · next same =>
            cases known
            exact Or.inr same
        · exact Or.inl known

theorem installAll_widens {registry wider : Registry} {definitions : List Definition}
    (installed : registry.installAll definitions = .ok wider) : Widened registry wider := by
  induction definitions generalizing registry with
  | nil =>
      cases installed
      exact Widened.refl _
  | cons definition rest ih =>
      unfold installAll at installed
      split at installed
      · contradiction
      · next middle first => exact (install_widens first).trans (ih installed)

/-! ## Applying a directive -/

/-- A directive that applies supplies its definitions, admits its target and
revises it.  Only definitions and contributed keys change. -/
theorem applyOne_revises {registry result : Registry} {directive : Directive}
    (applied : registry.applyOne directive = .ok result) :
    ∃ existing wider, registry.definition? directive.target = some existing ∧
      directive.Admits existing ∧
      registry.installAll directive.supplied = .ok wider ∧
      result = { registry with
        definitions := wider.definitions.insert directive.target (directive.revise existing)
        contributed := result.contributed } := by
  unfold applyOne at applied
  split at applied
  · contradiction
  · next existing known =>
      cases directive with
      | replace target definition supporting =>
          simp only [replace] at applied
          split at applied
          · contradiction
          · next wider installed =>
              refine ⟨existing, wider, known, trivial, installed, ?_⟩
              cases applied
              have rest := (installAll_widens installed).rest
              unfold prune
              split
              · rw [rest]
                rfl
              · rw [rest]
                rfl
      | addToSchema target key definition required supporting =>
          simp only [addField] at applied
          split at applied
          · contradiction
          · next fields declared =>
              split at applied
              · contradiction
              · next free =>
                  split at applied
                  · contradiction
                  · next wider installed =>
                      refine ⟨existing, wider, known, ⟨fields, declared, by simpa using free⟩,
                        installed, ?_⟩
                      cases applied
                      have widens := installAll_widens installed
                      have still : wider.definitions.get? target = some existing :=
                        widens.keeps known
                      simp only [modify, still, contribute]
                      rw [widens.rest]
                      rfl
      | addBehavior target validators =>
          refine ⟨existing, registry, known, trivial, rfl, ?_⟩
          cases applied
          have here : registry.definitions.get? target = some existing := known
          simp only [modify, here]
          rfl

/-- After a directive the target has its revised definition and every other name
what supplying left there. -/
theorem applyOne_definition? {registry result : Registry} {directive : Directive}
    (applied : registry.applyOne directive = .ok result) :
    ∃ existing wider, registry.definition? directive.target = some existing ∧
      directive.Admits existing ∧ Widened registry wider ∧
      ∀ name, result.definition? name =
        if directive.target = name then some (directive.revise existing)
        else wider.definition? name := by
  obtain ⟨existing, wider, known, admits, installed, shape⟩ := applyOne_revises applied
  have lookUp : ∀ name, result.definition? name =
      if directive.target = name then some (directive.revise existing)
      else wider.definition? name := by
    intro name
    rw [shape]
    exact Dict.get?_insert _ _ _ _
  exact ⟨existing, wider, known, admits, installAll_widens installed, lookUp⟩

/-! ## Grown registries -/

/-- The registries that base definitions, directives and placement steps give rise
to. -/
inductive Grown : Registry → Prop where
  | register {root : String} {base : List Definition} {registry : Registry}
      (registered : Registry.register root base = .ok registry) : Grown registry
  | apply {registry extended : Registry} {directives : List Directive} (grown : Grown registry)
      (applied : registry.apply directives = .ok extended) : Grown extended
  | place {registry placed : Registry} {placement : HostPlacement} (grown : Grown registry)
      (installed : registry.setPlacement placement = .ok placed) : Grown placed

/-- What holds of every grown registry. -/
structure Regular (registry : Registry) : Prop where
  /-- Definitions stand under their own names. -/
  named : ∀ {name definition}, registry.definition? name = some definition →
    definition.name = name
  /-- The root is registered. -/
  rooted : ∃ definition, registry.root? = some definition
  /-- The registry may still change. -/
  unfrozen : registry.frozen = false

theorem seed_get? {definitions result : Dict Definition} {base : List Definition}
    (seeded : seed definitions base = .ok result) (name : String) :
    result.get? name = (definitions.get? name).or (base.find? (·.name = name)) := by
  induction base generalizing definitions with
  | nil =>
      cases seeded
      simp
  | cons definition rest ih =>
      unfold seed at seeded
      split at seeded
      · contradiction
      · next free =>
          rw [ih seeded, Dict.get?_insert]
          by_cases same : definition.name = name
          · subst same
            have absent : definitions.get? definition.name = none := by
              simpa [Dict.contains, Entries.contains, Dict.get?] using free
            simp [absent]
          · simp [same]

theorem register_ok_iff {root : String} {base : List Definition} {registry : Registry} :
    Registry.register root base = .ok registry ↔
      ∃ definitions, seed ∅ base = .ok definitions ∧ definitions.contains root = true ∧
        registry = ⟨definitions, root, ∅, ∅, none, false⟩ := by
  unfold Registry.register
  constructor
  · intro registered
    split at registered
    · contradiction
    · next definitions seeded =>
        split at registered
        · next present => exact ⟨definitions, seeded, present, (Except.ok.inj registered).symm⟩
        · contradiction
  · rintro ⟨definitions, seeded, present, rfl⟩
    simp only [seeded, present, if_true]

theorem register_definition? {root : String} {base : List Definition} {registry : Registry}
    (registered : Registry.register root base = .ok registry) (name : String) :
    registry.definition? name = base.find? (·.name = name) := by
  obtain ⟨_, seeded, _, rfl⟩ := register_ok_iff.mp registered
  exact seed_get? seeded name

theorem register_root {root : String} {base : List Definition} {registry : Registry}
    (registered : Registry.register root base = .ok registry) : registry.root = root := by
  obtain ⟨_, _, _, rfl⟩ := register_ok_iff.mp registered
  rfl

theorem register_regular {root : String} {base : List Definition} {registry : Registry}
    (registered : Registry.register root base = .ok registry) : Regular registry := by
  have lookUp := register_definition? registered
  obtain ⟨_, _, present, rfl⟩ := register_ok_iff.mp registered
  constructor
  case named =>
    intro name definition found
    rw [lookUp] at found
    simpa using List.find?_some found
  case rooted => exact Option.isSome_iff_exists.mp present
  case unfrozen => rfl

/-- A directive changes definitions and contributed keys only. -/
theorem applyOne_rest {registry result : Registry} {directive : Directive}
    (applied : registry.applyOne directive = .ok result) :
    result.root = registry.root ∧ result.patterns = registry.patterns ∧
      result.placement = registry.placement ∧ result.frozen = registry.frozen := by
  obtain ⟨existing, wider, _, _, _, shape⟩ := applyOne_revises applied
  rw [shape]
  exact ⟨rfl, rfl, rfl, rfl⟩

/-- Induction on an accepted batch: what holds of a registry after some directives, and goes on
to hold with each directive of the batch, holds after the batch. -/
theorem applyAll_induction {motive : List Directive → Registry → Prop}
    {done directives : List Directive} {registry result : Registry} (start : motive done registry)
    (step : ∀ earlier, ∀ directive ∈ directives, ∀ before after, motive earlier before →
      before.applyOne directive = .ok after → motive (earlier ++ [directive]) after)
    (applied : registry.applyAll directives = .ok result) : motive (done ++ directives) result := by
  induction directives generalizing done registry with
  | nil =>
      cases applied
      rwa [List.append_nil]
  | cons directive rest ih =>
      rw [applyAll] at applied
      split at applied
      · contradiction
      · next middle first =>
          have next := step done directive List.mem_cons_self registry middle start first
          rw [List.append_cons]
          exact ih next (fun earlier later member => step earlier later (.tail _ member)) applied

/-- Induction on an accepted batch, for what does not depend on the directives before. -/
theorem applyAll_invariant {motive : Registry → Prop} {directives : List Directive}
    {registry result : Registry} (start : motive registry)
    (step : ∀ directive ∈ directives, ∀ before after, motive before →
      before.applyOne directive = .ok after → motive after)
    (applied : registry.applyAll directives = .ok result) : motive result :=
  @applyAll_induction (fun _ => motive) [] directives registry result start (fun _ => step) applied

theorem applyAll_rest {registry result : Registry} {directives : List Directive}
    (applied : registry.applyAll directives = .ok result) :
    result.root = registry.root ∧ result.patterns = registry.patterns ∧
      result.placement = registry.placement ∧ result.frozen = registry.frozen := by
  apply applyAll_invariant (motive := fun current =>
    current.root = registry.root ∧ current.patterns = registry.patterns ∧
      current.placement = registry.placement ∧ current.frozen = registry.frozen)
    ⟨rfl, rfl, rfl, rfl⟩ _ applied
  rintro directive - before after same first
  rcases applyOne_rest first with ⟨root, patterns, placement, frozen⟩
  rw [root, patterns, placement, frozen]
  exact same

/-- Only a registry that may still change accepts directives. -/
theorem apply_ok_iff {registry result : Registry} {directives : List Directive} :
    registry.apply directives = .ok result ↔
      registry.frozen = false ∧ registry.applyAll directives = .ok result := by
  unfold Registry.apply
  cases registry.frozen <;> simp

/-- Only a registry that may still change accepts a placement step. -/
theorem setPlacement_ok_iff {registry result : Registry} {placement : HostPlacement} :
    registry.setPlacement placement = .ok result ↔
      registry.frozen = false ∧ result = { registry with placement := some placement } := by
  unfold Registry.setPlacement
  cases registry.frozen <;> simp [eq_comm]

theorem apply_frozen {registry result : Registry} {directives : List Directive}
    (applied : registry.apply directives = .ok result) : result.frozen = registry.frozen := by
  obtain ⟨_, _, _, sameFrozen⟩ := applyAll_rest (apply_ok_iff.mp applied).2
  exact sameFrozen

theorem setPlacement_frozen {registry result : Registry} {placement : HostPlacement}
    (placed : registry.setPlacement placement = .ok result) : result.frozen = registry.frozen := by
  obtain ⟨_, rfl⟩ := setPlacement_ok_iff.mp placed
  rfl

theorem Regular.applyOne {registry result : Registry} {directive : Directive}
    (regular : Regular registry) (applied : registry.applyOne directive = .ok result) :
    Regular result := by
  obtain ⟨existing, wider, known, _, widens, lookUp⟩ := applyOne_definition? applied
  obtain ⟨sameRoot, _, _, sameFrozen⟩ := applyOne_rest applied
  constructor
  case named =>
    intro name definition found
    rw [lookUp] at found
    split at found
    · next same =>
        cases found
        exact same ▸ Directive.revise_name (regular.named known)
    · rcases widens.named found with old | own
      · exact regular.named old
      · exact own
  case rooted =>
    obtain ⟨root, rooted⟩ := regular.rooted
    rw [root?, sameRoot, lookUp]
    split
    · exact ⟨_, rfl⟩
    · exact ⟨root, widens.keeps rooted⟩
  case unfrozen => exact sameFrozen.trans regular.unfrozen

theorem Regular.applyAll {registry result : Registry} {directives : List Directive}
    (regular : Regular registry) (applied : registry.applyAll directives = .ok result) :
    Regular result :=
  applyAll_invariant regular (fun _ _ _ _ => Regular.applyOne) applied

theorem Grown.regular {registry : Registry} (grown : Grown registry) : Regular registry := by
  induction grown with
  | register registered => exact register_regular registered
  | apply _ applied ih => exact ih.applyAll (apply_ok_iff.mp applied).2
  | place _ installed ih =>
      obtain ⟨_, rfl⟩ := setPlacement_ok_iff.mp installed
      exact ⟨ih.named, ih.rooted, ih.unfrozen⟩

end Registry

end Blueprint
