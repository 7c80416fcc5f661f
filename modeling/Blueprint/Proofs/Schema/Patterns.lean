import Blueprint.Proofs.Schema.Freezing

/-!
# Prepared patterns

Freezing prepares the patterns of all validators.  What is prepared for a text depends on the text
only (`Frozen.pattern?_eq`), so a validator has the same pattern in every frozen registry, and
nothing is prepared for other texts (`Frozen.pattern?_eq_none`) or before freezing
(`Grown.patterns_eq`).
-/

namespace Blueprint

namespace Validator

theorem pattern_of_prepare {validator : Validator} {prepared : Pattern}
    (accepted : validator.prepare = .ok (some prepared)) :
    ∃ source code, validator = .pattern source code ∧ Pattern.compile? source = some prepared := by
  unfold prepare at accepted
  split at accepted
  · split at accepted
    · cases accepted
      exact ⟨_, _, rfl, ‹_›⟩
    · contradiction
  · split at accepted <;> simp at accepted
  · simp at accepted

theorem ne_pattern_of_prepare {validator : Validator} (accepted : validator.prepare = .ok none)
    (source : String) (code : UInt32) : validator ≠ .pattern source code := by
  rintro rfl
  simp only [prepare] at accepted
  split at accepted <;> simp at accepted

end Validator

namespace Registry

/-- What preparing validators does to the patterns: those of the validators are added. -/
structure Prepares (patterns result : Dict Pattern) (validators : List Validator) : Prop where
  prepared : ∀ source code, .pattern source code ∈ validators →
    result.get? source = Pattern.compile? source
  kept : ∀ source, (∀ code, .pattern source code ∉ validators) →
    result.get? source = patterns.get? source

theorem Prepares.nil (patterns : Dict Pattern) : Prepares patterns patterns [] where
  prepared _ _ member := absurd member List.not_mem_nil
  kept _ _ := rfl

theorem Prepares.append {first second third : Dict Pattern} {validators others : List Validator}
    (left : Prepares first second validators) (right : Prepares second third others) :
    Prepares first third (validators ++ others) where
  prepared source code member := by
    by_cases again : ∃ code, .pattern source code ∈ others
    · obtain ⟨code, there⟩ := again
      exact right.prepared source code there
    · rw [right.kept source (not_exists.mp again)]
      rcases List.mem_append.mp member with here | there
      · exact left.prepared source code here
      · exact absurd ⟨code, there⟩ again
  kept source absent := by
    simp only [List.mem_append, not_or] at absent
    rw [right.kept source fun code => (absent code).2, left.kept source fun code => (absent code).1]

/-- A pattern is prepared for a validator that has one. -/
theorem Prepares.of_pattern {patterns : Dict Pattern} {validator : Validator} {pattern : Pattern}
    (prepared : validator.prepare = .ok (some pattern)) :
    Prepares patterns (patterns.insert pattern.source pattern) [validator] := by
  obtain ⟨source, code, rfl, compiled⟩ := Validator.pattern_of_prepare prepared
  obtain rfl := Pattern.source_of_compile? compiled
  constructor
  case prepared =>
    intro source code member
    cases List.mem_singleton.mp member
    rw [Dict.get?_insert, if_pos rfl, compiled]
  case kept =>
    intro source absent
    rw [Dict.get?_insert, if_neg]
    rintro rfl
    exact absent code List.mem_cons_self

theorem Prepares.of_none (patterns : Dict Pattern) {validator : Validator}
    (prepared : validator.prepare = .ok none) : Prepares patterns patterns [validator] where
  prepared source code member :=
    absurd (List.mem_singleton.mp member).symm
      (Validator.ne_pattern_of_prepare prepared source code)
  kept _ _ := rfl

theorem prepareAll_prepares {name : String} {patterns result : Dict Pattern}
    {validators : List Validator}
    (prepared : prepareAll name patterns validators = .ok result) :
    Prepares patterns result validators := by
  induction validators generalizing patterns with
  | nil =>
      cases prepared
      exact .nil _
  | cons validator rest ih =>
      unfold prepareAll at prepared
      split at prepared
      · contradiction
      · next first => exact (Prepares.of_none patterns first).append (ih prepared)
      · next pattern first => exact (Prepares.of_pattern first).append (ih prepared)

theorem prepareDefinitions_prepares {registry : Registry} {patterns result : Dict Pattern}
    {definitions : List Definition}
    (prepared : registry.prepareDefinitions patterns definitions = .ok result) :
    Prepares patterns result (definitions.flatMap Definition.validators) := by
  induction definitions generalizing patterns with
  | nil =>
      cases prepared
      exact .nil _
  | cons definition rest ih =>
      unfold prepareDefinitions at prepared
      split at prepared
      · contradiction
      · split at prepared
        · contradiction
        · next middle first =>
            rw [List.flatMap_cons]
            exact (prepareAll_prepares first).append (ih prepared)

/-- Freezing prepares the patterns of the registered validators. -/
theorem Frozen.prepares {registry : Registry} (frozen : registry.Frozen) :
    Prepares ∅ registry.patterns (registry.definitions.values.flatMap Definition.validators) := by
  obtain ⟨extended, grown, accepted⟩ := frozen
  unfold freeze at accepted
  rw [grown.regular.unfrozen, if_neg Bool.false_ne_true] at accepted
  split at accepted
  · contradiction
  · next patterns prepared =>
      split at accepted
      · contradiction
      · cases accepted
        exact prepareDefinitions_prepares prepared

theorem mem_validators_iff {registry : Registry} {validator : Validator} :
    validator ∈ registry.definitions.values.flatMap Definition.validators ↔
      ∃ name definition, registry.definition? name = some definition ∧
        validator ∈ definition.validators := by
  simp only [List.mem_flatMap, Dict.mem_values_iff, definition?]
  constructor
  · rintro ⟨definition, ⟨name, known⟩, member⟩
    exact ⟨name, definition, known, member⟩
  · rintro ⟨name, definition, known, member⟩
    exact ⟨definition, ⟨name, known⟩, member⟩

/-- The pattern of a registered validator is what its text compiles to. -/
theorem Frozen.pattern?_eq {registry : Registry} (frozen : registry.Frozen) {name source : String}
    {code : UInt32} {definition : Definition}
    (known : registry.definition? name = some definition)
    (member : Validator.pattern source code ∈ definition.validators) :
    registry.pattern? source = Pattern.compile? source :=
  frozen.prepares.prepared source code (mem_validators_iff.mpr ⟨name, definition, known, member⟩)

/-- A text that is the pattern of no registered validator is not prepared. -/
theorem Frozen.pattern?_eq_none {registry : Registry} (frozen : registry.Frozen) {source : String}
    (absent : ∀ name definition, registry.definition? name = some definition →
      ∀ code, Validator.pattern source code ∉ definition.validators) :
    registry.pattern? source = none := by
  apply frozen.prepares.kept
  intro code member
  obtain ⟨name, definition, known, held⟩ := mem_validators_iff.mp member
  exact absent name definition known code held

/-- Nothing is prepared before freezing. -/
theorem Grown.patterns_eq {registry : Registry} (grown : Grown registry) :
    registry.patterns = ∅ := by
  induction grown with
  | register registered =>
      obtain ⟨_, _, _, rfl⟩ := register_ok_iff.mp registered
      rfl
  | apply _ applied ih =>
      obtain ⟨_, samePatterns, _, _⟩ := applyAll_rest (apply_ok_iff.mp applied).2
      exact samePatterns.trans ih
  | place _ placed ih =>
      obtain ⟨_, rfl⟩ := setPlacement_ok_iff.mp placed
      exact ih

end Registry

end Blueprint
