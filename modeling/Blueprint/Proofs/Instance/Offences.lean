import Blueprint.Proofs.Instance.Termination

/-!
# Where a document is at fault

A document that does not have the form of its schema is refused with an error that points into it.
The error is true of the fragment it points at (`Offence`), and it is the first one: nothing that
stands before a step of its path is at fault (`Registry.Frozen.error_located`).

On a frozen registry the walk goes over the places of a fragment one after the other
(`Fragment.buildPlaces`), whatever the kind of its definition is.  The proofs go down the parts of
fragments, which end.
-/

namespace Blueprint

namespace Fragment

/-- What stands at a place can be built. -/
def Buildable (registry : Registry) : Option Fragment → Prop
  | none => False
  | some part => ∃ node, Instance.build registry part.target part.tree = .ok node

/-- Nothing that stands before a place is at fault. -/
def BuildableBefore (registry : Registry) (whole : Fragment) (step : String) : Prop :=
  ∀ earlier ∈ (whole.places registry).takeWhile (·.1 != step), Buildable registry earlier.2

end Fragment

/-- An error is true of a fragment. -/
inductive Offence (registry : Registry) : Fragment → StructuralError → Prop
  | unexpectedType {fragment path definition}
      (known : registry.definition? fragment.target = some definition)
      (unmet : ¬ definition.kind.expected.MetBy fragment.tree) :
      Offence registry fragment
        (.unexpectedType path definition.kind.expected fragment.tree.shape)
  | unknownField {fragment path key definition fields entries}
      (known : registry.definition? fragment.target = some definition)
      (kind : definition.kind = .composite fields) (mapping : fragment.tree = .mapping entries)
      (held : key ∈ Entries.keys entries) (undeclared : fields.get? key = none)
      (least : ∀ other ∈ Entries.keys entries, fields.get? other = none → key ≤ other) :
      Offence registry fragment (.unknownField path key)
  | missingField {fragment path key definition fields field entries}
      (known : registry.definition? fragment.target = some definition)
      (kind : definition.kind = .composite fields)
      (readable : fragment.tree.asEntries? = some entries)
      (declared : ∀ other ∈ Entries.keys entries, ∃ field, fields.get? other = some field)
      (isField : fields.get? key = some field) (required : field.required = true)
      (noDefault : field.default = none)
      (notGiven : Entries.get? entries key = none ∨ Entries.get? entries key = some .null)
      (first : fragment.BuildableBefore registry key) :
      Offence registry fragment (.missingField path key)

/-- An error points at the first offence below a fragment. -/
structure PointsAt (registry : Registry) (whole : Fragment) (steps : List String)
    (cause : StructuralError) : Prop where
  /-- It is true of the fragment that the steps lead to. -/
  offends : ∃ offender, whole.at? registry steps = some offender ∧ Offence registry offender cause
  /-- On the way there nothing before a step is at fault. -/
  first : ∀ front step back, steps = front ++ step :: back →
    ∃ above, whole.at? registry front = some above ∧ above.BuildableBefore registry step

/-- A required field that is not given, or given as null, has no default either. -/
theorem Field.absent_of_chosen?_none {field : Field} {given : Option Tree}
    (absent : field.chosen? given = none) :
    (given = none ∨ given = some .null) ∧ field.default = none := by
  rcases Option.or_eq_none_iff.mp absent with ⟨notGiven, noDefault⟩
  refine ⟨?_, noDefault⟩
  cases given with
  | none => exact .inl rfl
  | some value =>
      rw [Option.filter_eq_none_iff] at notGiven
      have isNull := notGiven value rfl
      simp only [Bool.not_eq_true, Bool.not_eq_false'] at isNull
      rw [Tree.isNull_iff.mp isNull]
      exact .inr rfl

namespace Fragment

theorem buildable_of_build {registry : Registry} (coherent : registry.Coherent) {part : Fragment}
    {name : String} {path : Path} {node : Instance}
    (built : part.build registry name path = .ok node) : Buildable registry (some part) := by
  unfold build at built
  split at built
  · contradiction
  · next definition found =>
      have itsBuilt := Build.sound_builderWithin registry _ part.tree part.target definition name
        path node (Build.lookUp_ok found) built
      exact itsBuilt.conforms.exists_build coherent

theorem unknownField_offence {registry : Registry} {fragment : Fragment} {definition : Definition}
    {fields : Dict Field} {key : String}
    (known : registry.definition? fragment.target = some definition)
    (kind : definition.kind = .composite fields) (ordered : fragment.tree.Ordered)
    (found : Build.undeclared? fragment.tree fields = some key) (path : Path) :
    Offence registry fragment (.unknownField path key) := by
  cases mapping : fragment.tree with
  | mapping entries =>
      rw [mapping, Build.undeclared?] at found
      rcases List.find?_eq_some_iff_append.mp found with ⟨missed, before, after, split, passed⟩
      have undeclared_iff (other : String) :
          (!fields.contains other) = true ↔ fields.get? other = none := by
        simp [Dict.contains, Entries.contains, Dict.get?]
      have ascending : (before ++ key :: after).Pairwise (· < ·) := by
        rw [mapping] at ordered
        rw [← split]
        exact List.pairwise_map.mpr ordered.1
      refine .unknownField known kind mapping ?_ ((undeclared_iff key).mp missed) ?_
      · rw [split]
        exact List.mem_append_right before List.mem_cons_self
      · intro other isKey absent
        rw [split] at isKey
        rcases List.mem_append.mp isKey with isEarlier | isLater
        · have declared := passed other isEarlier
          rw [(undeclared_iff other).mpr absent] at declared
          contradiction
        · rcases List.mem_cons.mp isLater with rfl | isLater
          · exact Std.le_refl other
          · have beyond := (List.pairwise_append.mp ascending).2.1
            exact Std.le_of_lt ((List.pairwise_cons.mp beyond).1 other isLater)
  | _ =>
      rw [mapping] at found
      contradiction

/-- Nothing stands at the place of a field only if one is required and there is none. -/
theorem missingField_offence {registry : Registry} {fragment : Fragment} {key : String}
    (stands : (key, none) ∈ fragment.places registry) (declared : fragment.Declared registry)
    (first : fragment.BuildableBefore registry key) (path : Path) :
    Offence registry fragment (.missingField path key) := by
  unfold places at stands
  split at stands
  · contradiction
  · contradiction
  · next fields isKind =>
      rcases Option.map_eq_some_iff.mp isKind with ⟨definition, known, kind⟩
      split at stands
      · contradiction
      · next entries readable =>
          rcases List.mem_filterMap.mp stands with ⟨⟨name, field⟩, member, stands⟩
          have isField := Dict.mem_entries_iff.mp member
          rcases Field.place?_eq_some_none stands with ⟨rfl, absent, required⟩
          rcases Field.absent_of_chosen?_none absent with ⟨notGiven, noDefault⟩
          exact .missingField known kind readable (declared _ _ _ known kind readable) isField
            required noDefault notGiven first
  · split at stands
    · contradiction
    · rcases List.mem_map.mp stands with ⟨_, _, same⟩
      cases same
  · split at stands
    · contradiction
    · rcases List.mem_map.mp stands with ⟨_, _, same⟩
      cases same

theorem takeWhile_before {α : Type} {before after : Entries α} {step : String} {value : α}
    (distinct : (Entries.keys (before ++ (step, value) :: after)).Nodup) :
    (before ++ (step, value) :: after).takeWhile (·.1 != step) = before := by
  unfold Entries.keys at distinct
  rw [List.map_append, List.map_cons] at distinct
  have others : ∀ earlier ∈ before, (earlier.1 != step) = true := by
    intro earlier member
    rw [bne_iff_ne]
    exact (List.nodup_append.mp distinct).2.2 earlier.1 (List.mem_map_of_mem member) step
      List.mem_cons_self
  rw [List.takeWhile_append_of_pos others, List.takeWhile_cons_of_neg (by simp), List.append_nil]

end Fragment

section

variable {registry : Registry} {whole part : Fragment} {step : String} {steps : List String}
  {cause : StructuralError}

/-- The offence of the fragment itself is the first below it. -/
theorem PointsAt.here (offence : Offence registry whole cause) :
    PointsAt registry whole [] cause := by
  refine ⟨⟨whole, rfl, offence⟩, ?_⟩
  intro front step back split
  simp at split

/-- The first offence below a part is the first below the whole, if nothing before the part is at
fault. -/
theorem PointsAt.above (ordered : whole.tree.Ordered)
    (stands : (step, some part) ∈ whole.places registry) (first : whole.BuildableBefore registry step)
    (points : PointsAt registry part steps cause) :
    PointsAt registry whole (step :: steps) cause := by
  rcases points with ⟨⟨offender, reached, offence⟩, itsFirst⟩
  refine ⟨⟨offender, ?_, offence⟩, ?_⟩
  · rw [Fragment.at?_of_mem_places ordered stands, reached]
  · intro front next back parting
    cases front with
    | nil =>
        cases parting
        exact ⟨whole, rfl, first⟩
    | cons head front =>
        cases parting
        rcases itsFirst front next back rfl with ⟨above, leads, earlier⟩
        exact ⟨above, by rw [Fragment.at?_of_mem_places ordered stands, leads], earlier⟩

end

namespace Fragment

/-- A fragment that cannot be built is refused with an error that points at the first offence below
it.  Induction on its parts. -/
theorem pointsAt_of_build_error {registry : Registry} (coherent : registry.Coherent)
    (defaults : registry.DefaultsOrdered) (whole : Fragment) (ordered : whole.tree.Ordered)
    {definition : Definition} (known : registry.definition? whole.target = some definition)
    {name : String} {path : Path} {cause : StructuralError}
    (failed : whole.build registry name path = .error cause) :
    ∃ steps, cause.path.segments = path.segments ++ steps ∧ PointsAt registry whole steps cause := by
  induction whole using (wellFounded_isPart coherent.acyclic).induction generalizing
    definition name path with
  | _ whole deeper =>
      cases refused_of_build_error coherent known failed with
      | unexpectedType itsKnown unmet =>
          exact ⟨[], (List.append_nil _).symm, .here (.unexpectedType itsKnown unmet)⟩
      | unknownField itsKnown kind found =>
          exact ⟨[], (List.append_nil _).symm,
            .here (unknownField_offence itsKnown kind ordered found path)⟩
      | place declared stopped =>
          rcases buildPlaces_error stopped with ⟨before, step, place, after, split, passed, fails⟩
          have distinct := nodup_keys_places registry ordered
          have stands : (step, place) ∈ whole.places registry := by
            rw [split]
            exact List.mem_append_right before List.mem_cons_self
          have first : whole.BuildableBefore registry step := by
            rw [split] at distinct
            rw [BuildableBefore, split, takeWhile_before distinct]
            rintro ⟨key, earlier⟩ member
            rcases passed _ member with ⟨part, node, rfl, made⟩
            exact buildable_of_build coherent made
          cases place with
          | none =>
              subst fails
              exact ⟨[], (List.append_nil _).symm,
                .here (missingField_offence stands declared first path)⟩
          | some part =>
              have isPart : IsPart registry part whole := ⟨step, stands⟩
              rcases coherent.resolved _ _ isPart.origin.1 with ⟨itsDefinition, itsKnown⟩
              rcases deeper part isPart (isPart.ordered defaults ordered) itsKnown fails with
                ⟨steps, itsPath, points⟩
              refine ⟨step :: steps, ?_, points.above ordered stands first⟩
              rw [itsPath, Path.child, List.append_assoc, List.singleton_append]

end Fragment

/-- A document that a frozen registry refuses is refused with an error that points at the first
offence in it.  The fragment at the path of the error is not of the type or container kind that its
definition calls for, or has a key that is not declared, the least one, or lacks a field that must
be given, as the error says.  At every step of the path what stands before can be built. -/
theorem Registry.Frozen.error_located {registry : Registry} (frozen : registry.Frozen)
    (defaults : registry.DefaultsOrdered) {target : String} {definition : Definition}
    (known : registry.definition? target = some definition) {raw : Tree} (ordered : raw.Ordered)
    {cause : StructuralError} (failed : Instance.build registry target raw = .error cause) :
    PointsAt registry ⟨target, raw⟩ cause.path.segments cause := by
  have whole : Fragment.build registry ⟨target, raw⟩ "" Path.root = .error cause := failed
  rcases Fragment.pointsAt_of_build_error frozen.coherent defaults ⟨target, raw⟩ ordered known whole
    with ⟨steps, itsPath, points⟩
  rw [itsPath]
  exact points

/-- Dishes with a name and a price, which is a word if it is not given. -/
def menuSchema : List Definition :=
  [Definition.leaf "name" .string, Definition.leaf "price" .integer,
    ((Definition.composite "dish").withNeeded "name" "name").withField "price"
      ((Field.optional "price").withDefault (.string "free")),
    Definition.list "menu" "dish"]

/-- Two dishes, of which the second has no price. -/
def menuDocument : Tree :=
  .sequence [.mapping [("name", .string "soup"), ("price", .int 3)],
    .mapping [("name", .string "bread")]]

/-- The default is refused where it is taken, after a dish that is fine. -/
theorem Registry.error_located_menu :
    ∃ extended registry cause,
      Registry.register "menu" menuSchema = .ok extended ∧ extended.freeze = .ok registry ∧
      Instance.build registry "menu" menuDocument = .error cause ∧
      cause.path.segments = ["1", "price"] ∧
      Offence registry ⟨"price", .string "free"⟩ cause ∧
      Fragment.BuildableBefore registry ⟨"menu", menuDocument⟩ "1" := by
  obtain ⟨extended, registry, menu, cause, registered, accepted, known, failed, path, found,
      defaults⟩ :
      ∃ extended registry menu cause,
        Registry.register "menu" menuSchema = .ok extended ∧ extended.freeze = .ok registry ∧
        registry.definition? "menu" = some menu ∧
        Instance.build registry "menu" menuDocument = .error cause ∧
        cause.path.segments = ["1", "price"] ∧
        Fragment.at? registry ⟨"menu", menuDocument⟩ ["1", "price"] =
          some ⟨"price", .string "free"⟩ ∧
        registry.defaultTrees = [.string "free"] :=
    ⟨_, _, _, _, rfl, rfl, rfl, rfl, rfl, rfl, rfl⟩
  have frozen : registry.Frozen := ⟨extended, .register registered, accepted⟩
  have soup : Entries.Ascending [("name", Tree.string "soup"), ("price", .int 3)] := by decide
  have bread : Entries.Ascending [("name", Tree.string "bread")] := by decide
  have ordered : menuDocument.Ordered :=
    ⟨⟨soup, trivial, trivial, trivial⟩, ⟨bread, trivial, trivial⟩, trivial⟩
  have defaultsOrdered : registry.DefaultsOrdered := by
    intro value isDefault
    rw [defaults] at isDefault
    cases List.mem_singleton.mp isDefault
    trivial
  rcases Registry.Frozen.error_located frozen defaultsOrdered known ordered failed with
    ⟨⟨offender, reached, offence⟩, first⟩
  rw [path] at reached first
  cases found.symm.trans reached
  rcases first [] "1" ["price"] rfl with ⟨above, isAbove, earlier⟩
  cases isAbove
  exact ⟨extended, registry, cause, registered, accepted, failed, path, offence, earlier⟩

end Blueprint
