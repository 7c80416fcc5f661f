import Blueprint.Proofs.Schema.Contributions

/-!
# The history of a registry

What a registry remembers of the fields that directives added depends on the directives alone, in
the order in which they were applied, and not on how they came in batches (`GrownBy.remembers`).
A field is remembered under its key if it was added and every replacement of the definition since
the last time declares the key (`Directive.Lasting`).  It may be added, dropped, declared by a
replacement and added again, while directives with other targets come between.
-/

namespace Blueprint

namespace Directive

/-- A field that directives add to a definition under a key and that lasts: every replacement of
the definition after the last directive that adds it declares the key. -/
def Lasting (target key : String) (directives : List Directive) : Prop :=
  ∃ earlier definition required supporting later,
    directives = earlier ++ .addToSchema target key definition required supporting :: later ∧
      (∀ definition required supporting,
        .addToSchema target key definition required supporting ∉ later) ∧
      ∀ replacement supporting, .replace target replacement supporting ∈ later →
        replacement.Declares key

variable {target key : String} {directives : List Directive}

theorem not_lasting_nil : ¬ Lasting target key [] := by
  rintro ⟨earlier, _, _, _, later, same, _⟩
  simp at same

/-- A field lasts when it has just been added. -/
theorem lasting_added (definition : Definition) (required : Bool) (supporting : List Definition) :
    Lasting target key (directives ++ [.addToSchema target key definition required supporting]) :=
  ⟨directives, definition, required, supporting, [], rfl, by simp, by simp⟩

/-- A directive that does not add the field keeps it, unless it puts a definition in place that
does not declare it. -/
theorem lasting_concat_iff {directive : Directive}
    (other : ∀ definition required supporting,
      directive ≠ .addToSchema target key definition required supporting) :
    Lasting target key (directives ++ [directive]) ↔
      Lasting target key directives ∧
        ∀ replacement supporting, directive = .replace target replacement supporting →
          replacement.Declares key := by
  constructor
  · rintro ⟨earlier, definition, required, supporting, later, same, last, declared⟩
    rcases later.eq_nil_or_concat with rfl | ⟨between, final, rfl⟩
    · obtain ⟨_, isAddition⟩ := List.append_inj' same rfl
      cases isAddition
      exact absurd rfl (other definition required supporting)
    · rw [List.concat_eq_append] at same last declared
      rw [← List.cons_append, ← List.append_assoc] at same
      obtain ⟨rfl, isFinal⟩ := List.append_inj' same rfl
      cases isFinal
      constructor
      · refine ⟨earlier, definition, required, supporting, between, rfl, ?_, ?_⟩
        · intro its itsRequired itsSupporting member
          exact last its itsRequired itsSupporting (List.mem_append_left _ member)
        · intro replacement itsSupporting member
          exact declared replacement itsSupporting (List.mem_append_left _ member)
      · rintro replacement itsSupporting rfl
        exact declared replacement itsSupporting List.mem_concat_self
  · rintro ⟨⟨earlier, definition, required, supporting, later, rfl, last, declared⟩, declares⟩
    refine ⟨earlier, definition, required, supporting, later ++ [directive], ?_, ?_, ?_⟩
    · rw [List.append_assoc, List.cons_append]
    · intro its itsRequired itsSupporting member
      rcases List.mem_append.mp member with old | new
      · exact last its itsRequired itsSupporting old
      · exact other its itsRequired itsSupporting (List.mem_singleton.mp new).symm
    · intro replacement itsSupporting member
      rcases List.mem_append.mp member with old | new
      · exact declared replacement itsSupporting old
      · exact declares replacement itsSupporting (List.mem_singleton.mp new).symm

end Directive

namespace Registry

/-- The registries that base definitions under a root grow into, with the directives that were
applied, in batches of any size and with placement steps between them. -/
inductive GrownBy (root : String) (base : List Definition) : List Directive → Registry → Prop where
  | register {registry : Registry} (registered : Registry.register root base = .ok registry) :
      GrownBy root base [] registry
  | apply {registry extended : Registry} {directives batch : List Directive}
      (grown : GrownBy root base directives registry)
      (applied : registry.apply batch = .ok extended) :
      GrownBy root base (directives ++ batch) extended
  | place {registry placed : Registry} {directives : List Directive} {placement : HostPlacement}
      (grown : GrownBy root base directives registry)
      (installed : registry.setPlacement placement = .ok placed) :
      GrownBy root base directives placed

variable {registry result : Registry} {directives : List Directive}

theorem GrownBy.grown {root : String} {base : List Definition}
    (grown : GrownBy root base directives registry) : Grown registry := by
  induction grown with
  | register registered => exact .register registered
  | apply _ applied ih => exact .apply ih applied
  | place _ installed ih => exact .place ih installed

/-- A registry that remembers the fields that last among some directives, and no others. -/
def Remembers (registry : Registry) (directives : List Directive) : Prop :=
  ∀ target key, registry.Contributes target key ↔ Directive.Lasting target key directives

theorem Remembers.applyOne {directive : Directive} (remembers : registry.Remembers directives)
    (applied : registry.applyOne directive = .ok result) :
    result.Remembers (directives ++ [directive]) := by
  intro target key
  rw [applyOne_contributes applied]
  cases directive with
  | replace its definition supporting =>
      rw [Directive.lasting_concat_iff (by simp), remembers]
      apply and_congr_right
      intro _
      constructor
      · rintro declares _ _ ⟨⟩
        exact declares rfl
      · rintro declares rfl
        exact declares definition supporting rfl
  | addToSchema its added definition required supporting =>
      dsimp only
      by_cases here : target = its ∧ key = added
      · obtain ⟨rfl, rfl⟩ := here
        simp [Directive.lasting_added]
      · rw [Directive.lasting_concat_iff (by rintro _ _ _ ⟨⟩; exact here ⟨rfl, rfl⟩), remembers]
        simp [here]
  | addBehavior its validators =>
      rw [Directive.lasting_concat_iff (by simp), remembers]
      simp

theorem Remembers.applyAll {batch : List Directive} (remembers : registry.Remembers directives)
    (applied : registry.applyAll batch = .ok result) :
    result.Remembers (directives ++ batch) :=
  applyAll_induction (motive := fun done registry => registry.Remembers done) remembers
    (fun _ _ _ _ _ => Remembers.applyOne) applied

/-- A registry remembers the fields that last among the directives that were applied. -/
theorem GrownBy.remembers {root : String} {base : List Definition}
    (grown : GrownBy root base directives registry) : registry.Remembers directives := by
  induction grown with
  | register registered =>
      intro target key
      exact iff_of_false (register_contributes registered) Directive.not_lasting_nil
  | apply _ applied ih => exact ih.applyAll (apply_ok_iff.mp applied).2
  | place _ installed ih =>
      obtain ⟨_, rfl⟩ := setPlacement_ok_iff.mp installed
      exact ih

end Registry

end Blueprint
