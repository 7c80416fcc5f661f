import Blueprint.Proofs.Schema.Freezing

/-!
# The fields that profiles contributed

A registry remembers the keys of the fields that directives added to a definition.  A directive
changes those of its target only (`applyOne_contributed`): adding a field adds its key, replacing
a definition forgets the keys that the new one does not declare (`applyOne_contributes`).  So in a
grown registry every contributed key is one that the definition declares
(`Grown.contributionsDeclared`).
-/

namespace Blueprint

/-- Whether a definition declares a field under a key. -/
def Definition.Declares (definition : Definition) (key : String) : Prop :=
  ∃ fields, definition.fields? = some fields ∧ fields.contains key = true

theorem Definition.declares_withField {definition : Definition} {fields : Dict Field}
    (isComposite : definition.fields? = some fields) (added : String) (field : Field)
    (key : String) :
    (definition.withField added field).Declares key ↔ key = added ∨ definition.Declares key := by
  have kind := kind_eq_of_fields? isComposite
  have after : (definition.withField added field).fields? = some (fields.insert added field) :=
    fields?_of_kind (withField_kind kind)
  simp only [Declares, after, isComposite, Option.some.injEq, exists_eq_left', Dict.contains_iff,
    Dict.get?_insert]
  by_cases same : added = key
  · simp [same]
  · simp [same, Ne.symm same]

namespace Directive

/-- The contributed keys of the target after a directive, given those before it. -/
def contribute : Directive → Option NameSet → Option NameSet
  | .replace _ definition _, held =>
      held.map fun keys =>
        keys.filterKeys fun key => (definition.fields?.any fun fields => fields.contains key)
  | .addToSchema _ key _ _ _, held => some (NameSet.add (held.getD ∅) key)
  | .addBehavior _ _, held => held

end Directive

namespace Registry

/-- Whether a directive added a field to a definition under a key. -/
def Contributes (registry : Registry) (target key : String) : Prop :=
  key ∈ registry.contributedFields target

theorem contributes_iff {registry : Registry} {target key : String} :
    registry.Contributes target key ↔ key ∈ ((registry.contributed.get? target).getD ∅).keys := by
  rw [Contributes, contributedFields]
  cases registry.contributed.get? target <;> rfl

theorem installAll_contributed {registry wider : Registry} {definitions : List Definition}
    (installed : registry.installAll definitions = .ok wider) :
    wider.contributed = registry.contributed := by
  rw [(installAll_widens installed).rest]

theorem modify_contributed (registry : Registry) (target : String)
    (change : Definition → Definition) :
    (registry.modify target change).contributed = registry.contributed := by
  unfold modify
  split <;> rfl

theorem prune_contributed (registry : Registry) (target : String) (definition : Definition)
    (name : String) :
    (registry.prune target definition).contributed.get? name =
      if target = name then
        (registry.contributed.get? name).map fun keys =>
          keys.filterKeys fun key => (definition.fields?.any fun fields => fields.contains key)
      else registry.contributed.get? name := by
  rw [prune]
  cases held : registry.contributed.get? target with
  | none =>
      dsimp only
      by_cases same : target = name
      · subst same
        simp [held]
      · rw [if_neg same]
  | some keys =>
      dsimp only
      rw [Dict.get?_insert]
      by_cases same : target = name
      · subst same
        rw [if_pos rfl, if_pos rfl, held]
        cases definition.fields? <;> rfl
      · rw [if_neg same, if_neg same]

theorem contribute_contributed (registry : Registry) (target key name : String) :
    (registry.contribute target key).contributed.get? name =
      if target = name then some (NameSet.add ((registry.contributed.get? name).getD ∅) key)
      else registry.contributed.get? name := by
  rw [contribute, Dict.get?_insert]
  by_cases same : target = name
  · subst same
    rfl
  · rw [if_neg same, if_neg same]

/-- A directive changes the contributed keys of its target only. -/
theorem applyOne_contributed {registry result : Registry} {directive : Directive}
    (applied : registry.applyOne directive = .ok result) (name : String) :
    result.contributed.get? name =
      if directive.target = name then directive.contribute (registry.contributed.get? name)
      else registry.contributed.get? name := by
  unfold applyOne at applied
  split at applied
  · contradiction
  · cases directive with
    | replace target definition supporting =>
        simp only [replace] at applied
        split at applied
        · contradiction
        · next wider installed =>
            cases applied
            have pruned := prune_contributed wider target { definition with name := target } name
            rw [installAll_contributed installed] at pruned
            exact pruned
    | addToSchema target key definition required supporting =>
        simp only [addField] at applied
        split at applied
        · contradiction
        · split at applied
          · contradiction
          · split at applied
            · contradiction
            · next wider installed =>
                cases applied
                rw [contribute_contributed, modify_contributed, installAll_contributed installed]
                rfl
    | addBehavior target validators =>
        cases applied
        rw [modify_contributed]
        exact (ite_self _).symm

/-- What a directive does to the contributed fields. -/
theorem applyOne_contributes {registry result : Registry} {directive : Directive}
    (applied : registry.applyOne directive = .ok result) (name key : String) :
    result.Contributes name key ↔
      match directive with
      | .replace target definition _ =>
          registry.Contributes name key ∧ (name = target → definition.Declares key)
      | .addToSchema target added _ _ _ =>
          (name = target ∧ key = added) ∨ registry.Contributes name key
      | .addBehavior _ _ => registry.Contributes name key := by
  rw [contributes_iff, applyOne_contributed applied]
  by_cases here : directive.target = name
  · subst here
    rw [if_pos rfl]
    cases directive with
    | replace target definition supporting =>
        simp only [Directive.contribute, Directive.target, contributes_iff, Definition.Declares]
        cases registry.contributed.get? target with
        | none => exact ⟨fun member => absurd member List.not_mem_nil, And.left⟩
        | some keys =>
            cases definition.fields? <;>
              simp [Dict.mem_keys_iff, Dict.contains_iff, Dict.get?_filterKeys, and_comm]
    | addToSchema target added definition required supporting =>
        simp only [Directive.contribute, Directive.target, contributes_iff, Option.getD_some,
          NameSet.mem_keys_add, true_and]
    | addBehavior target validators => exact contributes_iff.symm
  · rw [if_neg here, ← contributes_iff]
    have other : name ≠ directive.target := Ne.symm here
    cases directive with
    | replace target definition supporting =>
        rw [Directive.target] at other
        simp [other]
    | addToSchema target added definition required supporting =>
        rw [Directive.target] at other
        simp [other]
    | addBehavior target validators => rfl

/-! ## Grown registries -/

/-- Every contributed field is declared by the definition that is registered. -/
def ContributionsDeclared (registry : Registry) : Prop :=
  ∀ target key, registry.Contributes target key →
    ∃ definition, registry.definition? target = some definition ∧ definition.Declares key

theorem ContributionsDeclared.applyOne {registry result : Registry} {directive : Directive}
    (declared : registry.ContributionsDeclared)
    (applied : registry.applyOne directive = .ok result) : result.ContributionsDeclared := by
  intro name key contributes
  have before := (applyOne_contributes applied name key).mp contributes
  obtain ⟨existing, wider, known, admits, widens, lookUp⟩ := applyOne_definition? applied
  -- What was contributed before is still declared, unless the target was replaced.
  have kept : registry.Contributes name key →
      (directive.target = name → existing.Declares key → (directive.revise existing).Declares key) →
      ∃ definition, result.definition? name = some definition ∧ definition.Declares key := by
    intro contributed revised
    obtain ⟨definition, found, declares⟩ := declared name key contributed
    rw [lookUp]
    split
    · next same =>
        subst same
        cases known.symm.trans found
        exact ⟨_, rfl, revised rfl declares⟩
    · exact ⟨definition, widens.keeps found, declares⟩
  cases directive with
  | replace target definition supporting =>
      exact kept before.1 fun same _ => before.2 same.symm
  | addToSchema target added definition required supporting =>
      obtain ⟨fields, isComposite, _⟩ := admits
      have declares := Definition.declares_withField isComposite added
        ⟨definition.name, required, none⟩ key
      rcases before with ⟨rfl, rfl⟩ | contributed
      · exact ⟨_, (lookUp name).trans (if_pos rfl), declares.mpr (.inl rfl)⟩
      · exact kept contributed fun _ already => declares.mpr (.inr already)
  | addBehavior target validators => exact kept before fun _ declares => declares

theorem ContributionsDeclared.applyAll {registry result : Registry} {directives : List Directive}
    (declared : registry.ContributionsDeclared)
    (applied : registry.applyAll directives = .ok result) : result.ContributionsDeclared :=
  applyAll_invariant declared (fun _ _ _ _ => ContributionsDeclared.applyOne) applied

/-- What was registered has no contributed fields. -/
theorem register_contributes {registry : Registry} {root : String} {base : List Definition}
    (registered : Registry.register root base = .ok registry) {target key : String} :
    ¬ registry.Contributes target key := by
  obtain ⟨_, _, _, rfl⟩ := register_ok_iff.mp registered
  exact List.not_mem_nil

theorem Grown.contributionsDeclared {registry : Registry} (grown : Grown registry) :
    registry.ContributionsDeclared := by
  induction grown with
  | register registered =>
      intro target key contributes
      exact absurd contributes (register_contributes registered)
  | apply _ applied ih => exact ih.applyAll (apply_ok_iff.mp applied).2
  | place _ installed ih =>
      obtain ⟨_, rfl⟩ := setPlacement_ok_iff.mp installed
      exact ih

theorem Frozen.contributionsDeclared {registry : Registry} (frozen : registry.Frozen) :
    registry.ContributionsDeclared := by
  obtain ⟨extended, grown, accepted⟩ := frozen
  rw [freeze_rest accepted]
  exact grown.contributionsDeclared

end Registry

end Blueprint
