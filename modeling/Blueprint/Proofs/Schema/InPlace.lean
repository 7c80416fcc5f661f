import Blueprint.Schema.Freeze

/-!
# Operations in place

A program changes a registry in place, and an operation that fails leaves it as far as it came.  The
operations of this module answer what is left, and why they failed if they did.

A directive changes a registry part by part: definitions that it supplies are installed one after
another, and the next one may conflict (`Registry.change`).  A batch is therefore applied to a copy,
which takes the place of the registry once all directives were accepted (`Registry.applyInPlace`).
Freezing reads the registry before it sets anything (`Registry.freezeInPlace`).  So what a failure
leaves is what was there before: `applyInPlace_eq`, `setPlacementInPlace_eq` and `freezeInPlace_eq`.
-/

namespace Blueprint

/-! ## Directives in place -/

namespace Registry

/-- Install definitions in place.  Those before one that conflicts stay. -/
def installEach (registry : Registry) : List Definition → Registry × Option ExtensionError
  | [] => (registry, none)
  | definition :: rest =>
      match registry.install definition with
      | .error cause => (registry, some cause)
      | .ok registry => registry.installEach rest

/-- Change a registry by a directive in place.  What was done before a failure stays. -/
def change (registry : Registry) (directive : Directive) : Registry × Option ExtensionError :=
  match registry.definitions.get? directive.target with
  | none => (registry, some (.unknownTarget directive.target))
  | some existing =>
      match directive with
      | .replace target definition supporting =>
          match registry.installEach supporting with
          | (supplied, some cause) => (supplied, some cause)
          | (supplied, none) =>
              let replacement := { definition with name := target }
              let pruned := supplied.prune target replacement
              ({ pruned with definitions := pruned.definitions.insert target replacement }, none)
      | .addToSchema target key definition required supporting =>
          match existing.fields? with
          | none => (registry, some (.notComposite target))
          | some fields =>
              if fields.contains key then (registry, some (.duplicateFieldKey target key))
              else
                match registry.installEach (supporting ++ [definition]) with
                | (supplied, some cause) => (supplied, some cause)
                | (supplied, none) =>
                    let field : Field := ⟨definition.name, required, none⟩
                    let widened := supplied.modify target fun composite =>
                      composite.withField key field
                    (widened.contribute target key, none)
      | .addBehavior target validators =>
          let stricter := registry.modify target fun definition =>
            { definition with validators := definition.validators ++ validators }
          (stricter, none)

/-- Change a registry by directives in place, up to the first one that fails. -/
def changeAll (registry : Registry) : List Directive → Registry × Option ExtensionError
  | [] => (registry, none)
  | directive :: rest =>
      match registry.change directive with
      | (left, some cause) => (left, some cause)
      | (next, none) => next.changeAll rest

/-- The outcome of a change in place, for those who do not look at what a failure leaves. -/
def outcome : Registry × Option ExtensionError → Except ExtensionError Registry
  | (registry, none) => .ok registry
  | (_, some cause) => .error cause

theorem outcome_installEach (registry : Registry) (definitions : List Definition) :
    outcome (registry.installEach definitions) = registry.installAll definitions := by
  induction definitions generalizing registry with
  | nil => rfl
  | cons definition rest ih =>
      rw [installEach, installAll]
      cases registry.install definition with
      | error cause => rfl
      | ok next => exact ih next

theorem outcome_change (registry : Registry) (directive : Directive) :
    outcome (registry.change directive) = registry.applyOne directive := by
  unfold change applyOne
  cases registry.definitions.get? directive.target with
  | none => rfl
  | some existing =>
      cases directive with
      | addBehavior target validators => rfl
      | replace target definition supporting =>
          have installs := outcome_installEach registry supporting
          dsimp only
          rw [replace, ← installs]
          obtain ⟨supplied, _ | cause⟩ := registry.installEach supporting <;> rfl
      | addToSchema target key definition required supporting =>
          have installs := outcome_installEach registry (supporting ++ [definition])
          dsimp only
          rw [addField, ← installs]
          cases existing.fields? with
          | none => rfl
          | some fields =>
              dsimp only
              split
              · rfl
              · obtain ⟨supplied, _ | cause⟩ :=
                  registry.installEach (supporting ++ [definition]) <;> rfl

theorem outcome_changeAll (registry : Registry) (directives : List Directive) :
    outcome (registry.changeAll directives) = registry.applyAll directives := by
  induction directives generalizing registry with
  | nil => rfl
  | cons directive rest ih =>
      rw [changeAll, applyAll, ← outcome_change]
      obtain ⟨next, _ | cause⟩ := registry.change directive
      · exact ih next
      · rfl

/-! ## Whole operations -/

/-- Apply a batch in place: to a copy, which takes the place of the registry if no directive
failed. -/
def applyInPlace (registry : Registry) (directives : List Directive) :
    Registry × Option ExtensionError :=
  if registry.frozen then (registry, some .frozen)
  else
    match registry.changeAll directives with
    | (_, some cause) => (registry, some cause)
    | (staged, none) => (staged, none)

/-- Install the host placement step in place. -/
def setPlacementInPlace (registry : Registry) (placement : HostPlacement) :
    Registry × Option ExtensionError :=
  if registry.frozen then (registry, some .frozen)
  else ({ registry with placement := some placement }, none)

/-- Freeze in place.  The checks gather the patterns beside the registry; once they passed, the
patterns and the mark are set. -/
def freezeInPlace (registry : Registry) : Registry × Option ExtensionError :=
  if registry.frozen then (registry, none)
  else
    match registry.prepareDefinitions ∅ registry.definitions.values with
    | .error cause => (registry, some cause)
    | .ok patterns =>
        match registry.circle? with
        | some circle => (registry, some (.cycle circle))
        | none =>
            let prepared := { registry with patterns }
            ({ prepared with frozen := true }, none)

/-- What an operation leaves that changes nothing if it fails. -/
def after (registry : Registry) : Except ExtensionError Registry → Registry × Option ExtensionError
  | .ok next => (next, none)
  | .error cause => (registry, some cause)

/-- A batch that fails changes nothing, whatever its directives did to the copy. -/
theorem applyInPlace_eq (registry : Registry) (directives : List Directive) :
    registry.applyInPlace directives = registry.after (registry.apply directives) := by
  rw [applyInPlace, apply]
  split
  · rfl
  · rw [← outcome_changeAll]
    obtain ⟨staged, _ | cause⟩ := registry.changeAll directives <;> rfl

theorem setPlacementInPlace_eq (registry : Registry) (placement : HostPlacement) :
    registry.setPlacementInPlace placement = registry.after (registry.setPlacement placement) := by
  rw [setPlacementInPlace, setPlacement]
  split <;> rfl

/-- A check that fails in freezing leaves the registry as it is. -/
theorem freezeInPlace_eq (registry : Registry) :
    registry.freezeInPlace = registry.after registry.freeze := by
  rw [freezeInPlace, freeze]
  split
  · rfl
  · cases registry.prepareDefinitions ∅ registry.definitions.values with
    | error cause => rfl
    | ok patterns =>
        dsimp only
        cases registry.circle? <;> rfl

end Registry

end Blueprint
