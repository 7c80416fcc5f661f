import Blueprint.Proofs.Schema.Effect

/-!
# Independent directives

Two directives are independent if neither supplies a definition of the name that the other one
targets, and their targets are different or both add a field to it, under different keys.
Independent directives are accepted in both orders or in neither, and leave the same registry
(`apply_independent`).  Both may supply definitions of the same names; which of these stays
depends on the order, but their content does not.
-/

namespace Blueprint

namespace Directive

/-- The names of the definitions that a directive changes or supplies. -/
def touched (directive : Directive) : List String :=
  directive.target :: directive.supplied.map Definition.name

/-- Directives that do not get in each other's way. -/
inductive Independent : Directive → Directive → Prop
  /-- Neither touches the target of the other one. -/
  | apart {first second : Directive} (firstFree : first.target ∉ second.touched)
      (secondFree : second.target ∉ first.touched) : Independent first second
  /-- Both add a field to one definition, under different keys, and supply none of its name. -/
  | fields {target firstKey secondKey : String} {firstAdded secondAdded : Definition}
      {firstRequired secondRequired : Bool} {firstSupporting secondSupporting : List Definition}
      (different : firstKey ≠ secondKey)
      (firstFree : target ∉ (firstSupporting ++ [firstAdded]).map Definition.name)
      (secondFree : target ∉ (secondSupporting ++ [secondAdded]).map Definition.name) :
      Independent (.addToSchema target firstKey firstAdded firstRequired firstSupporting)
        (.addToSchema target secondKey secondAdded secondRequired secondSupporting)

variable {first second : Directive}

theorem Independent.symm (independent : Independent first second) : Independent second first := by
  cases independent with
  | apart firstFree secondFree => exact .apart secondFree firstFree
  | fields different firstFree secondFree => exact .fields (Ne.symm different) secondFree firstFree

/-- The second directive supplies no definition of the first one's target. -/
theorem Independent.unsupplied (independent : Independent first second) :
    ∀ definition ∈ second.supplied, definition.name ≠ first.target := by
  rintro definition member named
  have supplied : first.target ∈ second.supplied.map Definition.name :=
    List.mem_map.mpr ⟨definition, member, named⟩
  cases independent with
  | apart firstFree _ => exact firstFree (List.mem_cons_of_mem _ supplied)
  | fields _ _ secondFree => exact secondFree supplied

theorem Independent.find?_eq_none (independent : Independent first second) :
    second.supplied.find? (·.name = first.target) = none := by
  simpa [List.find?_eq_none] using independent.unsupplied

/-! ## The same target -/

/-- What a definition admits, it admits after an independent addition to it. -/
theorem Independent.admits_revise (independent : Independent first second)
    (same : first.target = second.target) {existing : Definition}
    (admits : first.Admits existing) :
    second.Admits (first.revise existing) ↔ second.Admits existing := by
  cases independent with
  | apart firstFree _ => exact absurd (same ▸ List.mem_cons_self) firstFree
  | @fields target firstKey secondKey firstAdded _ firstRequired _ _ _ different _ _ =>
      obtain ⟨fields, isComposite, _⟩ := admits
      have kind := Definition.kind_eq_of_fields? isComposite
      have after (field : Field) : (existing.withField firstKey field).fields? =
          some (fields.insert firstKey field) :=
        Definition.fields?_of_kind (Definition.withField_kind kind)
      have unchanged (field : Field) : (fields.insert firstKey field).contains secondKey =
          fields.contains secondKey := by
        change (Dict.get? _ _).isSome = (Dict.get? _ _).isSome
        rw [Dict.get?_insert, if_neg different]
      simp only [Admits, revise, after, isComposite, Option.some.injEq, exists_eq_left', unchanged]

theorem Independent.revise_comm (independent : Independent first second)
    (same : first.target = second.target) (existing : Definition) :
    second.revise (first.revise existing) = first.revise (second.revise existing) := by
  cases independent with
  | apart firstFree _ => exact absurd (same ▸ List.mem_cons_self) firstFree
  | fields different _ _ => exact Definition.withField_comm existing different _ _

theorem Independent.contribute_comm (independent : Independent first second)
    (same : first.target = second.target) (held : Option NameSet) :
    second.contribute (first.contribute held) = first.contribute (second.contribute held) := by
  cases independent with
  | apart firstFree _ => exact absurd (same ▸ List.mem_cons_self) firstFree
  | fields different _ _ => exact congrArg some (Dict.insert_comm _ different)

/-! ## Any name -/

theorem act_target {directive : Directive} {name : String} (here : directive.target = name)
    (held : Option Definition) : directive.act name held = held.map directive.revise :=
  if_pos here

/-- An independent directive leaves the target of the other one alone. -/
theorem Independent.act_other (independent : Independent first second)
    (apart : second.target ≠ first.target) (held : Option Definition) :
    second.act first.target held = held := by
  rw [act, if_neg apart, independent.find?_eq_none, Option.or_none]

/-- Independent directives make the same content of a name in both orders. -/
theorem Independent.act_comm (independent : Independent first second) {registry : Registry}
    (fits : registry.Fits (first.supplied ++ second.supplied)) (name : String) :
    (second.act name (first.act name (registry.definition? name))).map Definition.content =
      (first.act name (second.act name (registry.definition? name))).map Definition.content := by
  by_cases firstHere : first.target = name
  · subst firstHere
    by_cases secondHere : second.target = first.target
    · simp only [act_target secondHere, act_target rfl, Option.map_map]
      congr 1
      funext existing
      apply congrArg Definition.content
      exact independent.revise_comm secondHere.symm existing
    · rw [independent.act_other secondHere, independent.act_other secondHere]
  · by_cases secondHere : second.target = name
    · subst secondHere
      rw [independent.symm.act_other firstHere, independent.symm.act_other firstHere]
    · simp only [act, if_neg firstHere, if_neg secondHere, Option.or_assoc, ← List.find?_append]
      apply fits.supplied?_content
      simp [or_comm]

end Directive

namespace Registry

open Directive

variable {registry middle result other : Registry} {first second : Directive}

theorem applyAll_pair_ok_iff :
    registry.applyAll [first, second] = .ok result ↔
      ∃ middle, registry.applyOne first = .ok middle ∧ middle.applyOne second = .ok result := by
  cases applied : registry.applyOne first with
  | error cause => simp [applyAll, applied]
  | ok middle =>
      simp only [applyAll, applied, Except.ok.injEq, exists_eq_left']
      cases middle.applyOne second <;> simp

/-- After an independent directive another one is admitted if it was before. -/
theorem admits_after (independent : Independent first second)
    (applied : registry.applyOne first = .ok middle) :
    middle.Admits second ↔ registry.Admits second := by
  obtain ⟨⟨existing, known, admits⟩, _⟩ := exists_applyOne_iff.mp ⟨middle, applied⟩
  unfold Admits
  rw [applyOne_act applied]
  by_cases same : first.target = second.target
  · rw [act_target same, ← same, known]
    simp [independent.admits_revise same admits]
  · rw [independent.symm.act_other same]

/-- After an independent directive the definitions of another one fit if all of both do. -/
theorem fits_after (independent : Independent first second)
    (applied : registry.applyOne first = .ok middle) :
    middle.Fits second.supplied ↔ registry.Fits (first.supplied ++ second.supplied) := by
  have fits := (exists_applyOne_iff.mp ⟨middle, applied⟩).2
  rw [fits_append_iff, and_iff_right fits]
  apply forall₂_congr
  intro definition member
  have other := (independent.unsupplied definition member).symm
  rw [supplied?, applyOne_act applied, act, if_neg other]
  rfl

/-- Two independent directives are accepted if both are admitted and their definitions fit. -/
theorem exists_applyAll_pair_iff (independent : Independent first second) :
    (∃ result, registry.applyAll [first, second] = .ok result) ↔
      registry.Admits first ∧ registry.Admits second ∧
        registry.Fits (first.supplied ++ second.supplied) := by
  simp only [applyAll_pair_ok_iff]
  constructor
  · rintro ⟨result, middle, applied, next⟩
    obtain ⟨admits, fits⟩ := exists_applyOne_iff.mp ⟨result, next⟩
    have admitsFirst := (exists_applyOne_iff.mp ⟨middle, applied⟩).1
    exact ⟨admitsFirst, (admits_after independent applied).mp admits,
      (fits_after independent applied).mp fits⟩
  · rintro ⟨admitsFirst, admitsSecond, fits⟩
    obtain ⟨middle, applied⟩ := exists_applyOne_iff.mpr ⟨admitsFirst, (fits_append_iff.mp fits).1⟩
    obtain ⟨result, next⟩ := exists_applyOne_iff.mpr
      ⟨(admits_after independent applied).mpr admitsSecond,
        (fits_after independent applied).mpr fits⟩
    exact ⟨result, middle, applied, next⟩

theorem exists_applyAll_pair_comm (independent : Independent first second) :
    (∃ result, registry.applyAll [first, second] = .ok result) ↔
      ∃ result, registry.applyAll [second, first] = .ok result := by
  have sameFits : registry.Fits (first.supplied ++ second.supplied) ↔
      registry.Fits (second.supplied ++ first.supplied) :=
    ⟨fun fits => fits.of_same (by simp [or_comm]), fun fits => fits.of_same (by simp [or_comm])⟩
  rw [exists_applyAll_pair_iff independent, exists_applyAll_pair_iff independent.symm, sameFits]
  exact and_left_comm

/-- In which order independent directives were applied makes no difference. -/
theorem applyAll_pair_agrees (independent : Independent first second)
    (applied : registry.applyAll [first, second] = .ok result)
    (swapped : registry.applyAll [second, first] = .ok other) : result.agrees other = true := by
  have fits := ((exists_applyAll_pair_iff independent).mp ⟨result, applied⟩).2.2
  obtain ⟨middle, before, after⟩ := applyAll_pair_ok_iff.mp applied
  obtain ⟨itsMiddle, itsBefore, itsAfter⟩ := applyAll_pair_ok_iff.mp swapped
  have sameContents : result.contents = other.contents := by
    apply Dict.ext_get?
    intro name
    rw [get?_contents, get?_contents, applyOne_act after, applyOne_act before,
      applyOne_act itsAfter, applyOne_act itsBefore]
    exact independent.act_comm fits name
  have sameContributed : result.contributed = other.contributed := by
    apply Dict.ext_get?
    intro name
    rw [applyOne_contributed after, applyOne_contributed before, applyOne_contributed itsAfter,
      applyOne_contributed itsBefore]
    by_cases firstHere : first.target = name
    · by_cases secondHere : second.target = name
      · simp only [if_pos firstHere, if_pos secondHere]
        exact independent.contribute_comm (firstHere.trans secondHere.symm) _
      · simp only [if_pos firstHere, if_neg secondHere]
    · simp only [if_neg firstHere]
  obtain ⟨root, patterns, placement, frozen⟩ := applyOne_rest before
  obtain ⟨rootAfter, patternsAfter, placementAfter, frozenAfter⟩ := applyOne_rest after
  obtain ⟨itsRoot, itsPatterns, itsPlacement, itsFrozen⟩ := applyOne_rest itsBefore
  obtain ⟨itsRootAfter, itsPatternsAfter, itsPlacementAfter, itsFrozenAfter⟩ :=
    applyOne_rest itsAfter
  rw [agrees_iff]
  refine ⟨sameContents, ?_, sameContributed, ?_, ?_, ?_⟩
  · rw [rootAfter, root, itsRootAfter, itsRoot]
  · rw [patternsAfter, patterns, itsPatternsAfter, itsPatterns]
  · rw [placementAfter, placement, itsPlacementAfter, itsPlacement]
  · rw [frozenAfter, frozen, itsFrozenAfter, itsFrozen]

/-- Independent directives are accepted in both orders or in neither, and then leave the same
registry. -/
theorem apply_independent (registry : Registry) (independent : Independent first second) :
    ((∃ result, registry.apply [first, second] = .ok result) ↔
      ∃ other, registry.apply [second, first] = .ok other) ∧
    ∀ result other, registry.apply [first, second] = .ok result →
      registry.apply [second, first] = .ok other → result.agrees other = true := by
  simp only [apply_ok_iff]
  constructor
  · simp only [exists_and_left, exists_applyAll_pair_comm independent]
  · rintro result other ⟨_, applied⟩ ⟨_, swapped⟩
    exact applyAll_pair_agrees independent applied swapped

/-- A site that profiles extend. -/
def bareSite : List Definition :=
  [Definition.composite "site"]

/-- Add an area to the site and supply what an area holds, with a level of the author's choice. -/
def addArea (key : String) (level : Tree) : Directive :=
  .addToSchema "site" key (.map key "area") false
    [.leaf "level" .any, ⟨"area", .composite (Dict.ofList
      [("level", (Field.optional "level").withDefault level)]), []⟩]

/-- Areas that differ in the sign of a zero only fit together, in both orders. -/
theorem apply_twoAreas :
    ∃ registry result other, register "site" bareSite = .ok registry ∧
      registry.apply [addArea "front" (.number (.float (.zero false))),
        addArea "back" (.number (.float (.zero true)))] = .ok result ∧
      registry.apply [addArea "back" (.number (.float (.zero true))),
        addArea "front" (.number (.float (.zero false)))] = .ok other ∧
      result.agrees other = true := by
  obtain ⟨registry, result, registered, applied⟩ :
      ∃ registry result, register "site" bareSite = .ok registry ∧
        registry.apply [addArea "front" (.number (.float (.zero false))),
          addArea "back" (.number (.float (.zero true)))] = .ok result :=
    ⟨_, _, rfl, rfl⟩
  obtain ⟨sameAnswer, agrees⟩ := apply_independent registry
    (.fields (by decide) (by decide) (by decide) :
      Independent (addArea "front" (.number (.float (.zero false))))
        (addArea "back" (.number (.float (.zero true)))))
  obtain ⟨other, swapped⟩ := sameAnswer.mp ⟨result, applied⟩
  exact ⟨registry, result, other, registered, applied, swapped,
    agrees result other applied swapped⟩

end Registry

end Blueprint
