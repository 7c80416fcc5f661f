import Blueprint.Proofs.Schema.Freezing
import Blueprint.Schema.Profile

/-!
# What profiles leave of the base definitions

Directives other than replacements only add to a definition: fields under new keys,
and rules after those that are there.  `Definition.Extends` relates a definition to
one that is left after such directives.  `Profile.activate_keeps` says that every
base definition that no profile replaces is extended in this sense by whatever the
profiles do, and that activation answers a frozen registry.
-/

namespace Blueprint

/-- A shape with all fields of another composite, or the same shape. -/
def Kind.Extends : (older newer : Kind) → Prop
  | .composite older, .composite newer =>
      ∀ key field, older.get? key = some field → newer.get? key = some field
  | older, newer => older = newer

theorem Kind.Extends.refl (kind : Kind) : Kind.Extends kind kind := by
  cases kind with
  | composite fields => exact fun _ _ declared => declared
  | leaf type => rfl
  | list item => rfl
  | map item => rfl

theorem Kind.Extends.trans {first second third : Kind} (left : Kind.Extends first second)
    (right : Kind.Extends second third) : Kind.Extends first third := by
  cases first with
  | composite fields =>
      cases second with
      | composite more =>
          cases third with
          | composite most =>
              exact fun key field declared => right key field (left key field declared)
          | _ => cases right
      | _ => cases left
  | leaf type => exact left ▸ right
  | list item => exact left ▸ right
  | map item => exact left ▸ right

/-- A definition to which fields and rules may have been added. -/
structure Definition.Extends (older newer : Definition) : Prop where
  kind : Kind.Extends older.kind newer.kind
  validators : older.validators ⊆ newer.validators

theorem Definition.Extends.refl (definition : Definition) :
    Definition.Extends definition definition :=
  ⟨Kind.Extends.refl _, fun _ member => member⟩

theorem Definition.Extends.trans {first second third : Definition}
    (left : Definition.Extends first second) (right : Definition.Extends second third) :
    Definition.Extends first third :=
  ⟨left.kind.trans right.kind, fun _ member => right.validators (left.validators member)⟩

/-- The name under which a directive puts another definition. -/
def Directive.replaced? : Directive → Option String
  | .replace target _ _ => some target
  | _ => none

/-- An addition extends its target. -/
theorem Directive.revise_extends {directive : Directive} {existing : Definition}
    (admits : directive.Admits existing) (keeps : directive.replaced? ≠ some directive.target) :
    Definition.Extends existing (directive.revise existing) := by
  cases directive with
  | replace target definition supporting => exact absurd rfl keeps
  | addToSchema target key definition required supporting =>
      rcases admits with ⟨fields, declared, free⟩
      have kind := Definition.kind_eq_of_fields? declared
      constructor
      · rw [revise, Definition.withField_kind kind, kind]
        intro other field found
        rw [Dict.get?_insert]
        split
        · next same =>
            subst same
            have absent : fields.get? key = none := by
              simpa [Dict.contains, Entries.contains, Dict.get?] using free
            rw [absent] at found
            contradiction
        · exact found
      · rw [revise, Definition.withField_validators]
        exact fun _ member => member
  | addBehavior target validators =>
      constructor
      · exact Kind.Extends.refl _
      · exact fun _ member => List.mem_append_left validators member

namespace Registry

/-- A registry with the same root that keeps some definitions of another one and may
add to them. -/
structure Keeps (names : List String) (older newer : Registry) : Prop where
  root : newer.root = older.root
  extended : ∀ name ∈ names, ∀ definition, older.definition? name = some definition →
    ∃ extended, newer.definition? name = some extended ∧
      Definition.Extends definition extended

theorem Keeps.refl (names : List String) (registry : Registry) :
    Keeps names registry registry where
  root := rfl
  extended := fun _ _ definition known => ⟨definition, known, Definition.Extends.refl definition⟩

theorem Keeps.trans {names : List String} {first second third : Registry}
    (left : Keeps names first second) (right : Keeps names second third) :
    Keeps names first third where
  root := right.root.trans left.root
  extended := by
    intro name member definition known
    obtain ⟨middle, middleKnown, grows⟩ := left.extended name member definition known
    obtain ⟨last, lastKnown, growsMore⟩ := right.extended name member middle middleKnown
    exact ⟨last, lastKnown, grows.trans growsMore⟩

theorem Keeps.of_definitions {names : List String} {older newer : Registry}
    (sameRoot : newer.root = older.root) (same : newer.definitions = older.definitions) :
    Keeps names older newer where
  root := sameRoot
  extended := by
    intro name _ definition known
    rw [definition?, ← same] at known
    exact ⟨definition, known, Definition.Extends.refl definition⟩

theorem applyOne_keeps {registry result : Registry} {directive : Directive} {names : List String}
    (applied : registry.applyOne directive = .ok result)
    (spares : ∀ name ∈ names, directive.replaced? ≠ some name) : Keeps names registry result := by
  obtain ⟨existing, wider, targeted, admits, widens, lookUp⟩ := applyOne_definition? applied
  constructor
  case root => exact (applyOne_rest applied).1
  case extended =>
    intro name member definition known
    rw [lookUp]
    split
    · next same =>
        subst same
        cases targeted.symm.trans known
        exact ⟨_, rfl, Directive.revise_extends admits (spares _ member)⟩
    · exact ⟨definition, widens.keeps known, Definition.Extends.refl definition⟩

theorem applyAll_keeps {registry result : Registry} {directives : List Directive}
    {names : List String} (applied : registry.applyAll directives = .ok result)
    (spares : ∀ directive ∈ directives, ∀ name ∈ names, directive.replaced? ≠ some name) :
    Keeps names registry result := by
  refine applyAll_invariant (Keeps.refl names registry) ?_ applied
  intro directive member before after keeps first
  exact keeps.trans (applyOne_keeps first (spares directive member))

theorem apply_keeps {registry result : Registry} {directives : List Directive}
    {names : List String} (applied : registry.apply directives = .ok result)
    (spares : ∀ directive ∈ directives, ∀ name ∈ names, directive.replaced? ≠ some name) :
    Keeps names registry result :=
  applyAll_keeps (apply_ok_iff.mp applied).2 spares

theorem setPlacement_keeps {registry result : Registry} {placement : HostPlacement}
    {names : List String} (placed : registry.setPlacement placement = .ok result) :
    Keeps names registry result := by
  obtain ⟨_, rfl⟩ := setPlacement_ok_iff.mp placed
  exact Keeps.of_definitions rfl rfl

theorem freeze_keeps {registry frozen : Registry} {names : List String}
    (accepted : registry.freeze = .ok frozen) : Keeps names registry frozen :=
  Keeps.of_definitions (freeze_root accepted) (freeze_definitions accepted)

end Registry

namespace Profile

open Registry

/-- A profile applies its directives and then its placement step. -/
theorem applyTo_steps {profile : Profile} {registry result : Registry}
    {policies table : PolicyTable}
    (applied : profile.applyTo registry policies = .ok (result, table)) :
    ∃ extended, registry.apply profile.directives = .ok extended ∧
      (result = extended ∨ ∃ placement, extended.setPlacement placement = .ok result) := by
  unfold applyTo at applied
  split at applied
  · contradiction
  · next extended directives =>
      refine ⟨extended, directives, ?_⟩
      dsimp only at applied
      split at applied
      · cases applied
        exact Or.inl rfl
      · next placement _ =>
          split at applied
          · contradiction
          · next placed done =>
              cases applied
              exact Or.inr ⟨placement, done⟩

theorem applyTo_grown {profile : Profile} {registry result : Registry}
    {policies table : PolicyTable} (grown : Grown registry)
    (applied : profile.applyTo registry policies = .ok (result, table)) : Grown result := by
  obtain ⟨extended, directives, rfl | ⟨placement, placed⟩⟩ := applyTo_steps applied
  · exact grown.apply directives
  · exact (grown.apply directives).place placed

theorem applyTo_keeps {profile : Profile} {registry result : Registry}
    {policies table : PolicyTable} {names : List String}
    (applied : profile.applyTo registry policies = .ok (result, table))
    (spares : ∀ directive ∈ profile.directives, ∀ name ∈ names, directive.replaced? ≠ some name) :
    Keeps names registry result := by
  obtain ⟨extended, directives, rfl | ⟨placement, placed⟩⟩ := applyTo_steps applied
  · exact apply_keeps directives spares
  · exact (apply_keeps directives spares).trans (setPlacement_keeps placed)

/-- Induction on profiles that were applied one after another. -/
theorem applyAll_invariant {motive : Registry → Prop} {profiles : List Profile}
    {registry result : Registry} {policies table : PolicyTable} (start : motive registry)
    (step : ∀ profile ∈ profiles, ∀ before after policies table, motive before →
      profile.applyTo before policies = .ok (after, table) → motive after)
    (applied : applyAll registry policies profiles = .ok (result, table)) : motive result := by
  induction profiles generalizing registry policies with
  | nil =>
      cases applied
      exact start
  | cons profile rest ih =>
      rw [applyAll] at applied
      split at applied
      · contradiction
      · next middle _ first =>
          have next := step profile List.mem_cons_self registry middle _ _ start first
          exact ih next (fun later member => step later (.tail _ member)) applied

theorem applyAll_grown {profiles : List Profile} {registry result : Registry}
    {policies table : PolicyTable} (grown : Grown registry)
    (applied : applyAll registry policies profiles = .ok (result, table)) : Grown result :=
  applyAll_invariant grown (fun _ _ _ _ _ _ => applyTo_grown) applied

theorem applyAll_keeps {profiles : List Profile} {registry result : Registry}
    {policies table : PolicyTable} {names : List String}
    (applied : applyAll registry policies profiles = .ok (result, table))
    (spares : ∀ profile ∈ profiles, ∀ directive ∈ profile.directives, ∀ name ∈ names,
      directive.replaced? ≠ some name) :
    Keeps names registry result := by
  refine applyAll_invariant (Keeps.refl names registry) ?_ applied
  intro profile member before after _ _ keeps first
  exact keeps.trans (applyTo_keeps first (spares profile member))

/-- Activation applies the profiles to the registered base vocabulary and freezes
the result. -/
theorem activate_steps {profiles : List Profile} {activation : Activation}
    (activated : activate profiles = .ok activation) :
    ∃ base extended, Registry.register Vocabulary.root Vocabulary.definitions = .ok base ∧
      applyAll base Vocabulary.policies profiles = .ok (extended, activation.policies) ∧
      extended.freeze = .ok activation.registry := by
  unfold activate at activated
  -- Nothing here depends on what the base definitions are.
  generalize Vocabulary.definitions = definitions at activated ⊢
  split at activated
  · contradiction
  · next base registered =>
      split at activated
      · contradiction
      · next extended policies applied =>
          split at activated
          · contradiction
          · next frozen accepted =>
              cases activated
              exact ⟨base, extended, registered, applied, accepted⟩

theorem activate_frozen {profiles : List Profile} {activation : Activation}
    (activated : activate profiles = .ok activation) : activation.registry.Frozen := by
  obtain ⟨base, extended, registered, applied, accepted⟩ := activate_steps activated
  exact ⟨extended, applyAll_grown (.register registered) applied, accepted⟩

/-- Whatever profiles do, the root stays and a base definition that none of them
replaces is extended. -/
theorem activate_keeps {profiles : List Profile} {activation : Activation} {names : List String}
    (activated : activate profiles = .ok activation)
    (spares : ∀ profile ∈ profiles, ∀ directive ∈ profile.directives, ∀ name ∈ names,
      directive.replaced? ≠ some name) :
    activation.registry.root = Vocabulary.root ∧
      ∀ name ∈ names, ∀ definition,
        Vocabulary.definitions.find? (·.name = name) = some definition →
        ∃ extended, activation.registry.definition? name = some extended ∧
          Definition.Extends definition extended := by
  obtain ⟨base, extended, registered, applied, accepted⟩ := activate_steps activated
  have keeps := (applyAll_keeps applied spares).trans (freeze_keeps accepted)
  constructor
  · exact keeps.root.trans (register_root registered)
  · intro name member definition isBase
    exact keeps.extended name member definition
      ((register_definition? registered name).trans isBase)

end Profile

end Blueprint
