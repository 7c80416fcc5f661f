import Blueprint.Proofs.Instance.Shapes
import Blueprint.Proofs.Schema.Effect

/-!
# More rules in a schema

Directives that append rules leave everything of a registry but the rules of definitions.
`Stricter` says this of two registries, before freezing (`Stricter.of_applyAll`) and after it
(`Stricter.of_freeze`).  If the stricter one can be frozen, so can the other one
(`Stricter.exists_freeze`), for it has the same references and fewer rules that must be usable.
-/

namespace Blueprint

namespace Registry

/-- A registry with the same definitions, to which rules may have been added. -/
structure Stricter (registry stricter : Registry) : Prop where
  root : stricter.root = registry.root
  placement : stricter.placement = registry.placement
  contributed : stricter.contributed = registry.contributed
  bare : stricter.bare = registry.bare
  rules : ∀ {name definition}, registry.definition? name = some definition →
    ∃ other, stricter.definition? name = some other ∧ definition.validators ⊆ other.validators

theorem Stricter.refl (registry : Registry) : Stricter registry registry where
  root := rfl
  placement := rfl
  contributed := rfl
  bare := rfl
  rules known := ⟨_, known, List.Subset.refl _⟩

theorem Stricter.trans {first second third : Registry} (left : Stricter first second)
    (right : Stricter second third) : Stricter first third where
  root := right.root.trans left.root
  placement := right.placement.trans left.placement
  contributed := right.contributed.trans left.contributed
  bare := right.bare.trans left.bare
  rules known := by
    obtain ⟨middle, found, fewer⟩ := left.rules known
    obtain ⟨last, isLast, more⟩ := right.rules found
    exact ⟨last, isLast, List.Subset.trans fewer more⟩

variable {registry stricter : Registry}

/-! ## Applying directives -/

theorem Stricter.of_applyOne {target : String} {validators : List Validator}
    (applied : registry.applyOne (.addBehavior target validators) = .ok stricter) :
    Stricter registry stricter := by
  obtain ⟨sameRoot, _, samePlacement, _⟩ := applyOne_rest applied
  have lookUp (name : String) : stricter.definition? name =
      if target = name then (registry.definition? name).map fun definition =>
        { definition with validators := definition.validators ++ validators }
      else registry.definition? name := by
    rw [applyOne_act applied]
    exact if_congr Iff.rfl rfl Option.or_none
  constructor
  case root => exact sameRoot
  case placement => exact samePlacement
  case contributed =>
    apply Dict.ext_get?
    intro name
    rw [applyOne_contributed applied]
    exact ite_self _
  case bare =>
    apply Dict.ext_get?
    intro name
    rw [get?_bare, get?_bare, lookUp]
    split
    · rw [Option.map_map]
      rfl
    · rfl
  case rules =>
    intro name definition known
    rw [lookUp, known]
    split
    · exact ⟨_, rfl, List.subset_append_left _ _⟩
    · exact ⟨definition, rfl, List.Subset.refl _⟩

theorem Stricter.of_applyAll {directives : List Directive}
    (adding : ∀ directive ∈ directives, ∃ target validators,
      directive = .addBehavior target validators)
    (applied : registry.applyAll directives = .ok stricter) : Stricter registry stricter := by
  refine applyAll_invariant (Stricter.refl registry) ?_ applied
  intro directive member before after narrows first
  rcases adding directive member with ⟨target, validators, rfl⟩
  exact narrows.trans (Stricter.of_applyOne first)

/-! ## Freezing -/

section

variable (narrows : Stricter registry stricter)

include narrows

theorem Stricter.map_bare (name : String) :
    (stricter.definition? name).map Definition.bare =
      (registry.definition? name).map Definition.bare := by
  rw [← get?_bare, ← get?_bare, narrows.bare]

theorem Stricter.refers_eq : stricter.Refers = registry.Refers := by
  have bare (registry : Registry) (name : String) : registry.references name =
      ((registry.definition? name).map Definition.bare).elim [] (·.kind.references) := by
    unfold references
    cases registry.definition? name <;> rfl
  funext source target
  rw [Refers, Refers, bare, bare, narrows.map_bare]

theorem Stricter.coherent (coherent : stricter.Coherent) : registry.Coherent := by
  constructor
  case resolved =>
    intro source target refers
    rw [← narrows.refers_eq] at refers
    obtain ⟨found, known⟩ := coherent.resolved source target refers
    have same := narrows.map_bare target
    rw [known, Option.map_some, eq_comm, Option.map_eq_some_iff] at same
    obtain ⟨definition, itsKnown, _⟩ := same
    exact ⟨definition, itsKnown⟩
  case usable =>
    intro name definition known validator member
    obtain ⟨other, found, more⟩ := narrows.rules known
    exact coherent.usable name other found validator (more member)
  case acyclic =>
    rw [Acyclic, ← narrows.refers_eq]
    exact coherent.acyclic

/-- What can be frozen with more rules can be frozen without them. -/
theorem Stricter.exists_freeze (regular : Regular registry) (unfrozen : stricter.frozen = false)
    {after : Registry} (accepted : stricter.freeze = .ok after) :
    ∃ before, registry.freeze = .ok before :=
  (narrows.coherent (coherent_of_freeze_ok unfrozen accepted)).exists_freeze regular

/-- Freezing both registries keeps the relation. -/
theorem Stricter.of_freeze {before after : Registry} (frozenBefore : registry.freeze = .ok before)
    (frozenAfter : stricter.freeze = .ok after) : Stricter before after := by
  rw [freeze_rest frozenBefore, freeze_rest frozenAfter]
  exact ⟨narrows.root, narrows.placement, narrows.contributed, narrows.bare, narrows.rules⟩

end

end Registry

end Blueprint
