import Blueprint.Proofs.Instance.Locations
import Blueprint.Proofs.Instance.Obligations

/-!
# The failure that is answered

Of all rules that a document breaks validation answers the first one, in the order in which the
parts of a node come before the node, siblings in the order of their keys or indices, and the rules
of a node as its definition declares them (`Validation.validate_first_failure`).  Another order of
the siblings can change which failure is answered but not whether there is one.
-/

namespace Blueprint

/-- A rule that is data fails at its node and under its own code. -/
theorem Validator.error_of_code? {checks : Checks} {context : Context} {validator : Validator}
    {code : UInt32} {cause : SemanticError} (isData : validator.code? = some code)
    (failed : validator.run checks context = .error cause) :
    cause.path = context.node.path ∧ cause.code = code := by
  have located {text : String} (same : context.failure code text = cause) :
      cause.path = context.node.path ∧ cause.code = code := by
    subst same
    exact ⟨rfl, rfl⟩
  unfold run at failed
  cases validator with
  | custom check => contradiction
  | allowedValues values owner own | pattern source own | nonEmpty own | referenceTo part own =>
      cases isData
      dsimp only at failed
      -- Each way through the check passes or fails by the code of the rule.
      repeat' split at failed
      all_goals first | contradiction | exact located (Except.error.inj failed)

namespace Validation

/-- Discharging fails with the first obligation that is not met. -/
theorem discharge_error_iff {checks : Checks} {obligations : List Obligation}
    {cause : SemanticError} :
    discharge checks obligations = .error cause ↔
      ∃ met failing later, obligations = met ++ failing :: later ∧
        (∀ obligation ∈ met, obligation.2.run checks obligation.1 = .ok ()) ∧
        failing.2.run checks failing.1 = .error cause := by
  constructor
  · intro failed
    induction obligations with
    | nil => contradiction
    | cons head rest ih =>
        rw [discharge] at failed
        cases outcome : head.2.run checks head.1 with
        | error _ =>
            rw [outcome] at failed
            cases failed
            exact ⟨[], head, rest, rfl, List.forall_mem_nil _, outcome⟩
        | ok _ =>
            rw [outcome] at failed
            obtain ⟨met, failing, later, rfl, pass, fails⟩ := ih failed
            exact ⟨head :: met, failing, later, rfl, List.forall_mem_cons.mpr ⟨outcome, pass⟩, fails⟩
  · rintro ⟨met, failing, later, rfl, pass, fails⟩
    rw [discharge_append, discharge_ok_iff.mpr pass, Except.bind, discharge, fails]

/-- In whatever order the parts of nodes are visited, the same documents are valid. -/
theorem discharge_obligationsBy_ok_iff (checks : Checks) (registry : Registry)
    (arrangement other : Arrangement) (root : Instance) :
    discharge checks (obligationsBy registry arrangement root) = .ok () ↔
      discharge checks (obligationsBy registry other root) = .ok () := by
  have perm : (obligationsBy registry arrangement root).Perm (obligationsBy registry other root) :=
    (visits_perm registry arrangement [] root other).flatMap_right obligationsIn
  rw [discharge_ok_iff, discharge_ok_iff]
  exact forall_congr' fun _ => imp_congr_left perm.mem_iff

/-- Validation answers the first failure.  A document is valid exactly if every rule of every node
passes, and otherwise the answer is the error of the first rule that does not; a rule that is data
fails at its node and under its own code.  Rules are checked node by node, those of a node after
those of everything below it and as its definition declares them.  Visiting the parts of nodes in
another order accepts the same documents.  In a document that was built from ordered trees the parts
of every node come by key or by index. -/
theorem validate_first_failure (checks : Checks) (registry : Registry) (root : Instance) :
    (validate checks registry root = .ok () ↔
      ∀ obligation ∈ obligationsBy registry .listed root,
        obligation.2.run checks obligation.1 = .ok ()) ∧
      (∀ cause, validate checks registry root = .error cause ↔
        ∃ met failing later,
          obligationsBy registry .listed root = met ++ failing :: later ∧
            (∀ obligation ∈ met, obligation.2.run checks obligation.1 = .ok ()) ∧
            failing.2.run checks failing.1 = .error cause ∧
            ∀ code, failing.2.code? = some code →
              cause.path = failing.1.node.path ∧ cause.code = code) ∧
      (∀ arrangement, discharge checks (obligationsBy registry arrangement root) = .ok () ↔
        validate checks registry root = .ok ()) ∧
      ∀ target raw, Instance.build registry target raw = .ok root → raw.Ordered →
        registry.DefaultsOrdered → ∀ context ∈ visits registry .listed [] root,
          context.node.Orderly := by
  have walk : validate checks registry root =
      discharge checks (obligationsBy registry .listed root) := by
    rw [validate_eq_discharge, obligations_eq_listed]
  rw [walk]
  refine ⟨discharge_ok_iff, ?_, ?_, ?_⟩
  · intro cause
    rw [discharge_error_iff]
    constructor
    · rintro ⟨met, failing, later, split, pass, fails⟩
      exact ⟨met, failing, later, split, pass, fails, fun _ isData =>
        Validator.error_of_code? isData fails⟩
    · rintro ⟨met, failing, later, split, pass, fails, _⟩
      exact ⟨met, failing, later, split, pass, fails⟩
  · intro arrangement
    exact discharge_obligationsBy_ok_iff checks registry arrangement .listed root
  · intro target raw built ordered defaults context visited
    have encloses := (mem_visits_iff.mp visited).2
    exact (built_of_build built).orderly_of_encloses defaults ordered encloses

/-- A parcel with a colour, which is checked, and a tag, which must not be empty. -/
def parcelSchema : List Definition :=
  [⟨"colour", .leaf .string, [.oneOf ["green", "red"]]⟩, ⟨"tag", .leaf .string, [.filled]⟩,
    ((Definition.composite "parcel").withNeeded "colour" "colour").withField "tag"
      ((Field.optional "tag").withDefault (.string ""))]

/-- A blue parcel with an empty tag is refused for its colour, which comes first, and in whatever
order its parts are visited. -/
theorem validate_parcel :
    ∃ extended registry root cause,
      Registry.register "parcel" parcelSchema = .ok extended ∧ extended.freeze = .ok registry ∧
      Instance.build registry "parcel" (.mapping [("colour", .string "blue")]) = .ok root ∧
      validate Checks.none registry root = .error cause ∧
      cause.path = ⟨["colour"]⟩ ∧ cause.code = Validator.allowedValuesCode ∧
      (∀ arrangement, discharge Checks.none (obligationsBy registry arrangement root) ≠ .ok ()) ∧
      ∀ context ∈ visits registry .listed [] root, context.node.Orderly := by
  obtain ⟨extended, registry, root, colour, rest, cause, registered, accepted, built, owed, isColour,
      refused, failed, defaults⟩ :
      ∃ extended registry root colour rest cause,
        Registry.register "parcel" parcelSchema = .ok extended ∧ extended.freeze = .ok registry ∧
        Instance.build registry "parcel" (.mapping [("colour", .string "blue")]) = .ok root ∧
        obligations registry root =
          (⟨registry, colour, [root]⟩, .oneOf ["green", "red"]) :: rest ∧
        colour.path = ⟨["colour"]⟩ ∧
        (Validator.oneOf ["green", "red"]).run Checks.none ⟨registry, colour, [root]⟩ =
          .error cause ∧
        validate Checks.none registry root = .error cause ∧
        registry.defaultTrees = [.string ""] :=
    ⟨_, _, _, _, _, _, rfl, rfl, rfl, rfl, rfl, rfl, rfl, rfl⟩
  obtain ⟨_, answered, orders, orderly⟩ := validate_first_failure Checks.none registry root
  obtain ⟨met, failing, later, listed, pass, _, located⟩ := (answered cause).mp failed
  rw [← obligations_eq_listed, owed] at listed
  have first : met = [] ∧ failing = (⟨registry, colour, [root]⟩, .oneOf ["green", "red"]) := by
    cases met with
    | nil =>
        cases listed
        exact ⟨rfl, rfl⟩
    | cons head _ =>
        cases listed
        have passed := pass _ List.mem_cons_self
        rw [refused] at passed
        contradiction
  obtain ⟨rfl, rfl⟩ := first
  obtain ⟨itsPath, itsCode⟩ := located Validator.allowedValuesCode rfl
  refine ⟨extended, registry, root, cause, registered, accepted, built, failed,
    itsPath.trans isColour, itsCode, ?_, ?_⟩
  · intro arrangement accepted
    rw [orders arrangement, failed] at accepted
    contradiction
  · apply orderly "parcel" _ built
    · simp [Tree.Ordered, Tree.OrderedEntries, Entries.Ascending]
    · intro value isDefault
      rw [defaults] at isDefault
      cases List.mem_singleton.mp isDefault
      trivial

end Validation

end Blueprint
