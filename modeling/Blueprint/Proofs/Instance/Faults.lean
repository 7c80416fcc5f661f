import Blueprint.Proofs.Instance.Locations
import Blueprint.Proofs.Instance.Obligations
import Blueprint.Proofs.Instance.Rebuilding

/-!
# What frozen registries are never asked in vain

Building and validating look names up as they go: the definitions of parts, the definitions of the
nodes that were built, and the prepared patterns of their rules.  Each look-up has an answer for
when nothing is found.  Freezing has checked that every name is registered, that no definition leads
back to itself and that every pattern compiles, so on a frozen registry these answers are never
given (`Registry.Frozen.nothing_missing`): building refuses a document only for what is wrong with
the document, and every rule of every node is checked.
-/

namespace Blueprint

/-- Whether an error finds fault with the document and not with the schema. -/
def StructuralError.BlamesDocument : StructuralError → Prop
  | .unexpectedType _ _ _ | .missingField _ _ | .unknownField _ _ => True
  | .unknownDefinition _ _ | .endlessDefault _ _ => False

/-- A fragment is refused for faults of its own or of its parts, which are read against registered
definitions.  Induction on the parts. -/
theorem Fragment.blamesDocument_of_build_error {registry : Registry} (coherent : registry.Coherent)
    (whole : Fragment) {definition : Definition}
    (known : registry.definition? whole.target = some definition) {name : String} {path : Path}
    {cause : StructuralError} (failed : whole.build registry name path = .error cause) :
    cause.BlamesDocument := by
  induction whole using (wellFounded_isPart coherent.acyclic).induction generalizing
    definition name path with
  | _ whole deeper =>
      cases refused_of_build_error coherent known failed with
      | unexpectedType | unknownField => trivial
      | place _ stopped =>
          rcases buildPlaces_error stopped with ⟨before, step, place, after, split, _, fails⟩
          cases place with
          | none =>
              subst fails
              trivial
          | some part =>
              have isPart : IsPart registry part whole :=
                ⟨step, split ▸ List.mem_append_right before List.mem_cons_self⟩
              rcases coherent.resolved _ _ isPart.origin.1 with ⟨itsDefinition, itsKnown⟩
              exact deeper part isPart itsKnown fails

/-- A document that is refused by a frozen registry is refused for its own faults. -/
theorem Registry.Frozen.blamesDocument {registry : Registry} (frozen : registry.Frozen)
    {target : String} {definition : Definition}
    (known : registry.definition? target = some definition) {raw : Tree} {cause : StructuralError}
    (failed : Instance.build registry target raw = .error cause) : cause.BlamesDocument :=
  Fragment.blamesDocument_of_build_error frozen.coherent ⟨target, raw⟩ known failed

/-! ## Nodes -/

/-- Every node of a document that was built has a registered definition. -/
theorem Registry.Frozen.exists_definition {registry : Registry} (frozen : registry.Frozen)
    {target name : String} {path : Path} {raw : Tree} {root node : Instance}
    {ancestors : List Instance} (built : Built registry target name path raw root)
    (encloses : Validation.Encloses root ancestors node) :
    ∃ definition, registry.definition? node.definition = some definition := by
  obtain ⟨_, _, _, _, itsBuilt⟩ := built.of_encloses encloses
  rw [itsBuilt.definition?_node frozen]
  exact itsBuilt.conforms.definition_known

/-! ## Patterns -/

namespace Validator

/-- What is said of a pattern that is not prepared. -/
def uncompiledText (source : String) : String :=
  "pattern '" ++ source ++ "' is not compiled; freeze the registry first"

/-- What else is said of a pattern begins with a quote. -/
theorem quoted_ne_uncompiledText (text source : String) : "'" ++ text ≠ uncompiledText source := by
  intro same
  have first := congrArg (fun text => text.toList.head?) same
  simp [uncompiledText] at first

theorem run_pattern_ne_uncompiled {checks : Checks} {context : Context} {source : String}
    {code : UInt32} {prepared : Pattern} (held : context.registry.pattern? source = some prepared) :
    (pattern source code).run checks context ≠
      .error (context.failure code (uncompiledText source)) := by
  have other (text : String) : Except.error (context.failure code ("'" ++ text)) ≠
      (.error (context.failure code (uncompiledText source)) : Except SemanticError Unit) := by
    intro same
    exact quoted_ne_uncompiledText text source (congrArg SemanticError.text (Except.error.inj same))
  unfold run
  simp only [held, String.append_assoc]
  split
  · exact other _
  · split
    · simp
    · exact other _

end Validator

/-- On a frozen registry no look-up fails.  A document is refused neither for a definition that is
not registered nor for endless defaults.  In a document that is built every node has its definition,
all rules of which are checked, and the pattern of a rule is there when it is. -/
theorem Registry.Frozen.nothing_missing {registry : Registry} (frozen : registry.Frozen)
    {target : String} {definition : Definition}
    (known : registry.definition? target = some definition) (checks : Checks) (raw : Tree) :
    (∀ path name, Instance.build registry target raw ≠ .error (.unknownDefinition path name) ∧
      Instance.build registry target raw ≠ .error (.endlessDefault path name)) ∧
      ∀ root, Instance.build registry target raw = .ok root →
        ∀ ancestors node, Validation.Encloses root ancestors node →
          ∃ itsDefinition, registry.definition? node.definition = some itsDefinition ∧
            (Validation.validate checks registry root = .ok () →
              ∀ validator ∈ itsDefinition.validators,
                validator.run checks ⟨registry, node, ancestors⟩ = .ok ()) ∧
            ∀ source code, .pattern source code ∈ itsDefinition.validators →
              (∃ prepared, Pattern.compile? source = some prepared ∧
                registry.pattern? source = some prepared) ∧
              (Validator.pattern source code).run checks ⟨registry, node, ancestors⟩ ≠
                .error ⟨node.path, code, Validator.uncompiledText source⟩ := by
  constructor
  · intro path name
    exact ⟨fun failed => frozen.blamesDocument known failed,
      fun failed => frozen.blamesDocument known failed⟩
  · intro root built ancestors node encloses
    obtain ⟨itsDefinition, itsKnown⟩ := frozen.exists_definition (built_of_build built) encloses
    refine ⟨itsDefinition, itsKnown, fun valid validator member =>
      Validation.run_of_validate valid encloses itsKnown member, ?_⟩
    intro source code member
    obtain ⟨prepared, compiled⟩ := frozen.coherent.usable _ _ itsKnown _ member
    have held := (frozen.pattern?_eq itsKnown member).trans compiled
    exact ⟨⟨prepared, compiled, held⟩, Validator.run_pattern_ne_uncompiled held⟩

/-- A shelf whose label is not always given and must begin with a letter. -/
def shelfSchema : List Definition :=
  [(Definition.composite "shelf").withField "label"
      ((Field.optional "label").withDefault (.string "1a")),
    ⟨"label", .leaf .string, [.matching "^a"]⟩]

/-- The label that stands in for one that is not given is built, found, checked against its pattern
and refused for what it is. -/
theorem Registry.nothing_missing_shelf :
    ∃ extended registry root label cause,
      Registry.register "shelf" shelfSchema = .ok extended ∧ extended.freeze = .ok registry ∧
      Instance.build registry "shelf" .null = .ok root ∧
      Validation.Encloses root [root] label ∧
      (∃ definition, registry.definition? label.definition = some definition) ∧
      (∃ prepared, registry.pattern? "^a" = some prepared) ∧
      (Validator.matching "^a").run Checks.none ⟨registry, label, [root]⟩ = .error cause ∧
      cause ≠ ⟨label.path, Validator.patternCode, Validator.uncompiledText "^a"⟩ := by
  have evaluated : (Registry.register "shelf" shelfSchema).toOption.any (fun extended =>
      extended.freeze.toOption.any fun registry =>
        (Instance.build registry "shelf" .null).toOption.any fun root =>
          (registry.definition? "shelf").isSome ∧ root.children.length = 1 ∧
          ∀ label ∈ root.children,
            (registry.definition? label.definition).map Definition.validators =
                some [.matching "^a"] ∧
              ((Validator.matching "^a").run Checks.none ⟨registry, label, [root]⟩).toOption =
                none) = true := by
    decide +kernel
  obtain ⟨extended, registered, freezes⟩ := exists_of_any_toOption evaluated
  obtain ⟨registry, accepted, builds⟩ := exists_of_any_toOption freezes
  obtain ⟨root, built, holds⟩ := exists_of_any_toOption builds
  obtain ⟨isShelf, single, parts⟩ := of_decide_eq_true holds
  obtain ⟨shelf, known⟩ := Option.isSome_iff_exists.mp isShelf
  obtain ⟨label, isPart⟩ := List.length_eq_one_iff.mp single
  obtain ⟨hasRules, fails⟩ := parts label (isPart ▸ List.mem_singleton_self label)
  obtain ⟨itsDefinition, itsKnown, rules⟩ := Option.map_eq_some_iff.mp hasRules
  obtain ⟨cause, refused⟩ : ∃ cause,
      (Validator.matching "^a").run Checks.none ⟨registry, label, [root]⟩ = .error cause := by
    cases outcome : (Validator.matching "^a").run Checks.none ⟨registry, label, [root]⟩ with
    | error cause => exact ⟨cause, rfl⟩
    | ok =>
        rw [outcome] at fails
        contradiction
  have frozen : registry.Frozen := ⟨extended, .register registered, accepted⟩
  have encloses : Validation.Encloses root [root] label :=
    .child .root (isPart ▸ List.mem_singleton_self label)
  obtain ⟨_, nodes⟩ := Registry.Frozen.nothing_missing frozen known Checks.none .null
  obtain ⟨found, isFound, _, patterns⟩ := nodes root built [root] label encloses
  cases itsKnown.symm.trans isFound
  obtain ⟨⟨prepared, _, held⟩, compiled⟩ :=
    patterns "^a" Validator.patternCode (rules ▸ List.mem_singleton_self (Validator.matching "^a"))
  refine ⟨extended, registry, root, label, cause, registered, accepted, built, encloses,
    ⟨itsDefinition, itsKnown⟩, ⟨prepared, held⟩, refused, ?_⟩
  rintro rfl
  exact compiled refused

end Blueprint
