import Blueprint.Proofs.Schema.Content
import Blueprint.Proofs.Schema.Contributions

/-!
# The effect of a directive

A directive is accepted exactly if its target is registered and admits it, and the definitions
that it supplies fit those that are there and one another (`exists_applyOne_iff`).  Then its
target is revised, names that were not registered have the first definition that was supplied for
them, and nothing else changes (`applyOne_act`, `applyOne_contributed`).

A batch is the succession of its directives (`applyAll_append`).
-/

namespace Blueprint

namespace Directive

/-- What stands under a name after a directive, given what stood there before: the target is
revised, and a name without a definition gets the first one that is supplied for it. -/
def act (directive : Directive) (name : String) (held : Option Definition) :
    Option Definition :=
  if directive.target = name then held.map directive.revise
  else held.or (directive.supplied.find? (·.name = name))

end Directive

namespace Registry

/-! ## Supplying definitions -/

theorem install_lookUp {registry wider : Registry} {definition : Definition}
    (installed : registry.install definition = .ok wider) (name : String) :
    wider.definition? name = (registry.definition? name).or
      (if definition.name = name then some definition else none) := by
  unfold install at installed
  split at installed
  · next existing known =>
      split at installed
      · cases installed
        have known : registry.definition? definition.name = some existing := known
        split
        · next same =>
            subst same
            simp [known]
        · exact Option.or_none.symm
      · contradiction
  · next absent =>
      cases installed
      have absent : registry.definition? definition.name = none := absent
      have lookUp := Dict.get?_insert registry.definitions definition.name name definition
      refine lookUp.trans ?_
      split
      · next same =>
          subst same
          rw [absent]
          rfl
      · exact Option.or_none.symm

/-- What stands under a name once definitions are supplied: what stood there before, or else the
first of them that has the name. -/
def supplied? (registry : Registry) (definitions : List Definition) (name : String) :
    Option Definition :=
  (registry.definition? name).or (definitions.find? (·.name = name))

theorem install_supplied? {registry wider : Registry} {definition : Definition}
    (installed : registry.install definition = .ok wider) (rest : List Definition) :
    wider.supplied? rest = registry.supplied? (definition :: rest) := by
  funext name
  rw [supplied?, supplied?, install_lookUp installed, Option.or_assoc, List.find?_cons]
  by_cases same : definition.name = name <;> simp [same]

/-- New names have the first definition that is supplied for them. -/
theorem installAll_lookUp {registry wider : Registry} {definitions : List Definition}
    (installed : registry.installAll definitions = .ok wider) :
    wider.definition? = registry.supplied? definitions := by
  induction definitions generalizing registry with
  | nil =>
      cases installed
      funext name
      exact Option.or_none.symm
  | cons definition rest ih =>
      unfold installAll at installed
      split at installed
      · contradiction
      · next middle first => rw [ih installed, install_supplied? first]

/-- Definitions each of which has the content of what stands under its name in the end. -/
def Fits (registry : Registry) (definitions : List Definition) : Prop :=
  ∀ definition ∈ definitions,
    (registry.supplied? definitions definition.name).map Definition.content =
      some definition.content

theorem exists_install_iff {registry : Registry} {definition : Definition} :
    (∃ wider, registry.install definition = .ok wider) ↔
      ((registry.definition? definition.name).or (some definition)).map Definition.content =
        some definition.content := by
  unfold install definition?
  cases registry.definitions.get? definition.name with
  | none => simp
  | some existing => by_cases same : existing.agrees definition <;>
      simp [same, ← Definition.agrees_iff]

/-- Definitions are accepted one after the other exactly if they fit. -/
theorem exists_installAll_iff {registry : Registry} {definitions : List Definition} :
    (∃ wider, registry.installAll definitions = .ok wider) ↔ registry.Fits definitions := by
  induction definitions generalizing registry with
  | nil => exact ⟨fun _ _ member => absurd member List.not_mem_nil, fun _ => ⟨registry, rfl⟩⟩
  | cons definition rest ih =>
      have head : registry.supplied? (definition :: rest) definition.name =
          (registry.definition? definition.name).or (some definition) := by
        simp [supplied?]
      rw [Fits, List.forall_mem_cons, head, ← exists_install_iff, installAll]
      cases first : registry.install definition with
      | error cause => simp
      | ok middle =>
          dsimp only
          rw [ih, Fits, install_supplied? first]
          simp

/-- Whatever the order in which fitting definitions are supplied, the same content stands under
a name in the end. -/
theorem Fits.supplied?_content {registry : Registry} {left right : List Definition}
    (fits : registry.Fits left) (same : ∀ definition, definition ∈ left ↔ definition ∈ right)
    (name : String) :
    (registry.supplied? left name).map Definition.content =
      (registry.supplied? right name).map Definition.content := by
  unfold supplied?
  cases known : registry.definition? name with
  | some existing => rfl
  | none =>
      rw [Option.none_or, Option.none_or]
      cases found : right.find? (·.name = name) with
      | none =>
          have absent : left.find? (·.name = name) = none := by
            rw [List.find?_eq_none] at found ⊢
            exact fun definition member => found definition ((same definition).mp member)
          rw [absent]
      | some definition =>
          have own : definition.name = name := by simpa using List.find?_some found
          have its := fits definition ((same definition).mpr (List.mem_of_find?_eq_some found))
          rw [supplied?, own, known, Option.none_or] at its
          exact its

theorem fits_append_iff {registry : Registry} {left right : List Definition} :
    registry.Fits (left ++ right) ↔ registry.Fits left ∧ ∀ definition ∈ right,
      ((registry.supplied? left definition.name).or
        (right.find? (·.name = definition.name))).map Definition.content =
          some definition.content := by
  have wholly : ∀ name, registry.supplied? (left ++ right) name =
      (registry.supplied? left name).or (right.find? (·.name = name)) := by
    intro name
    rw [supplied?, supplied?, List.find?_append, Option.or_assoc]
  simp only [Fits, List.forall_mem_append, wholly]
  -- A name of the left definitions has one before the right ones come.
  have found : ∀ definition ∈ left, (registry.supplied? left definition.name).or
      (right.find? (·.name = definition.name)) = registry.supplied? left definition.name := by
    intro definition member
    have isSome : (left.find? (·.name = definition.name)).isSome := by
      rw [List.find?_isSome]
      exact ⟨definition, member, by simp⟩
    obtain ⟨first, isFirst⟩ := Option.isSome_iff_exists.mp isSome
    rw [supplied?, isFirst]
    cases registry.definition? definition.name <;> rfl
  constructor
  · rintro ⟨fits, others⟩
    exact ⟨fun definition member => found definition member ▸ fits definition member, others⟩
  · rintro ⟨fits, others⟩
    exact ⟨fun definition member => (found definition member).symm ▸ fits definition member, others⟩

theorem Fits.of_same {registry : Registry} {left right : List Definition}
    (fits : registry.Fits left) (same : ∀ definition, definition ∈ left ↔ definition ∈ right) :
    registry.Fits right := by
  intro definition member
  rw [← fits.supplied?_content same]
  exact fits definition ((same definition).mpr member)

/-! ## Applying a directive -/

/-- The target of a directive is registered and admits it. -/
def Admits (registry : Registry) (directive : Directive) : Prop :=
  ∃ existing, registry.definition? directive.target = some existing ∧ directive.Admits existing

/-- A directive is accepted exactly if its target admits it and the supplied definitions fit. -/
theorem exists_applyOne_iff {registry : Registry} {directive : Directive} :
    (∃ result, registry.applyOne directive = .ok result) ↔
      registry.Admits directive ∧ registry.Fits directive.supplied := by
  rw [← exists_installAll_iff]
  constructor
  · rintro ⟨result, applied⟩
    obtain ⟨existing, wider, known, admits, installed, _⟩ := applyOne_revises applied
    exact ⟨⟨existing, known, admits⟩, wider, installed⟩
  · rintro ⟨⟨existing, known, admits⟩, wider, installed⟩
    have known : registry.definitions.get? directive.target = some existing := known
    unfold applyOne
    rw [known]
    cases directive with
    | replace target definition supporting =>
        have installed : registry.installAll supporting = .ok wider := installed
        simp only [replace, installed]
        exact ⟨_, rfl⟩
    | addToSchema target key definition required supporting =>
        have installed : registry.installAll (supporting ++ [definition]) = .ok wider := installed
        obtain ⟨fields, isComposite, free⟩ := admits
        simp only [addField, isComposite, free, installed]
        exact ⟨_, rfl⟩
    | addBehavior target validators => exact ⟨_, rfl⟩

/-- A directive acts on each name by itself. -/
theorem applyOne_act {registry result : Registry} {directive : Directive}
    (applied : registry.applyOne directive = .ok result) (name : String) :
    result.definition? name = directive.act name (registry.definition? name) := by
  obtain ⟨existing, wider, known, _, installed, shape⟩ := applyOne_revises applied
  have others : wider.definition? name = registry.supplied? directive.supplied name := by
    rw [installAll_lookUp installed]
  have lookUp := Dict.get?_insert wider.definitions directive.target name
    (directive.revise existing)
  rw [shape]
  refine lookUp.trans ?_
  unfold Directive.act
  split
  · next here =>
      subst here
      rw [known]
      rfl
  · exact others

/-- A directive registers the names that it supplies. -/
theorem applyOne_known_iff {registry result : Registry} {directive : Directive}
    (applied : registry.applyOne directive = .ok result) {name : String} :
    (∃ definition, result.definition? name = some definition) ↔
      (∃ definition, registry.definition? name = some definition) ∨
        ∃ definition ∈ directive.supplied, definition.name = name := by
  obtain ⟨⟨existing, known, _⟩, _⟩ := exists_applyOne_iff.mp ⟨result, applied⟩
  rw [applyOne_act applied, Directive.act]
  split
  · next here =>
      subst here
      simp [known]
  · cases registry.definition? name with
    | some existing => simp
    | none => simp [← Option.isSome_iff_exists]

/-! ## Batches -/

theorem applyAll_append (registry : Registry) (first second : List Directive) :
    registry.applyAll (first ++ second) =
      (registry.applyAll first).bind fun middle => middle.applyAll second := by
  induction first generalizing registry with
  | nil => rfl
  | cons directive rest ih =>
      rw [List.cons_append, applyAll, applyAll]
      cases registry.applyOne directive with
      | error cause => rfl
      | ok middle => exact ih middle

theorem apply_eq_applyAll {registry : Registry} (unfrozen : registry.frozen = false)
    (directives : List Directive) : registry.apply directives = registry.applyAll directives := by
  rw [apply, unfrozen, if_neg Bool.false_ne_true]

end Registry

end Blueprint
