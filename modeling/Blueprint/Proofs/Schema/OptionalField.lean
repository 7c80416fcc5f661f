import Blueprint.Proofs.Schema.Contributions

/-!
# An optional field in a schema

A directive that adds a field which may be left out gives the composite that it targets
one more field, and the registry some definitions to which nothing else refers.
`Gains` says this of two registries, before freezing (`Gains.of_apply`) and after it
(`Gains.of_freeze`).
-/

namespace Blueprint

namespace Registry

/-- A registry that has one more field, which may be left out, in the composite of a name.  All
else that a document can meet in the first registry is the same in the second. -/
structure Gains (registry wider : Registry) (target key : String) : Prop where
  root : wider.root = registry.root
  placement : wider.placement = registry.placement
  field : ∃ definition fields field, registry.definition? target = some definition ∧
    definition.kind = .composite fields ∧ fields.get? key = none ∧
    field.required = false ∧ field.default = none ∧
    wider.definition? target = some (definition.withField key field)
  keeps : ∀ {name definition}, name ≠ target → registry.definition? name = some definition →
    wider.definition? name = some definition
  contributes : ∀ name other, wider.Contributes name other ↔
    (name = target ∧ other = key) ∨ registry.Contributes name other

theorem Gains.of_apply {registry extended : Registry} {target key : String}
    {definition : Definition} {supporting : List Definition} (unfrozen : registry.frozen = false)
    (applied : registry.apply [.addToSchema target key definition false supporting] =
      .ok extended) : Gains registry extended target key := by
  have single : registry.applyOne (.addToSchema target key definition false supporting) =
      .ok extended := by
    rw [apply, unfrozen, if_neg Bool.false_ne_true, applyAll] at applied
    split at applied
    · contradiction
    · cases applied
      assumption
  obtain ⟨existing, wider, known, ⟨fields, isComposite, new⟩, widens, lookUp⟩ :=
    applyOne_definition? single
  obtain ⟨sameRoot, _, samePlacement, _⟩ := applyOne_rest single
  constructor
  case root => exact sameRoot
  case placement => exact samePlacement
  case field =>
    have absent : fields.get? key = none := by
      simpa [Dict.contains, Entries.contains, Dict.get?] using new
    exact ⟨existing, fields, ⟨definition.name, false, none⟩, known,
      Definition.kind_eq_of_fields? isComposite, absent, rfl, rfl,
      (lookUp target).trans (if_pos rfl)⟩
  case keeps =>
    intro name other different known
    exact (lookUp name).trans ((if_neg (Ne.symm different)).trans (widens.keeps known))
  case contributes => exact applyOne_contributes single

/-- Freezing both registries keeps the difference. -/
theorem Gains.of_freeze {registry extended before after : Registry} {target key : String}
    (gains : Gains registry extended target key) (frozenBefore : registry.freeze = .ok before)
    (frozenAfter : extended.freeze = .ok after) : Gains before after target key := by
  rw [freeze_rest frozenBefore, freeze_rest frozenAfter]
  exact ⟨gains.root, gains.placement, gains.field, gains.keeps, gains.contributes⟩

section

variable {registry wider : Registry} {target key name : String}
  (gains : Gains registry wider target key) {definition : Definition}
  (known : registry.definition? name = some definition)

include gains known

/-- What is no composite is unchanged. -/
theorem Gains.keeps_plain (plain : ∀ fields, definition.kind ≠ .composite fields) :
    wider.definition? name = some definition := by
  obtain ⟨_, fields, _, itsKnown, kind, _⟩ := gains.field
  apply gains.keeps _ known
  rintro rfl
  cases known.symm.trans itsKnown
  exact plain fields kind

/-- Names and rules are unchanged. -/
theorem Gains.exists_definition : ∃ other, wider.definition? name = some other ∧
    other.validators = definition.validators := by
  by_cases here : name = target
  · subst here
    obtain ⟨_, _, field, itsKnown, _, _, _, _, found⟩ := gains.field
    cases known.symm.trans itsKnown
    exact ⟨_, found, Definition.withField_validators definition key field⟩
  · exact ⟨definition, gains.keeps here known, rfl⟩

end

end Registry

end Blueprint
