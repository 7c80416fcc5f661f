import Blueprint.Proofs.Instance.Faults

/-!
# Building ends

The walk that builds a document goes down its parts, and where a field is not given it starts over
on a default, which is no part of the document.  On a frozen registry this ends: every step goes to
a definition that the one before refers to.  The bound on the nesting of defaults with which
`Instance.build` walks is therefore never felt.  Any larger bound makes the same, and so does the
walk without a bound (`Registry.Frozen.build_ends`).  For the same reason no definition occurs twice
on the way down to a node (`Registry.Frozen.nodup_definitions`).
-/

namespace Blueprint

/-! ## The way down to a node -/

section

open Relation

variable {registry : Registry} (frozen : registry.Frozen)

include frozen

/-- The definition of a node refers to those of its parts. -/
theorem Built.refers_part {target name : String} {path : Path} {raw : Tree} {node part : Instance}
    (built : Built registry target name path raw node) (member : part ∈ node.children) :
    registry.Refers node.definition part.definition := by
  rcases built.exists_place member with ⟨fragment, stands, partBuilt⟩
  rw [built.definition_eq frozen, partBuilt.definition_eq frozen]
  exact (Fragment.IsPart.origin ⟨part.name, stands⟩).1

/-- The definition of an enclosing node leads to those of the nodes it encloses.  Induction on the
way down. -/
theorem Built.leads_of_encloses {target name : String} {path : Path} {raw : Tree}
    {root node : Instance} {ancestors : List Instance}
    (built : Built registry target name path raw root)
    (encloses : Validation.Encloses root ancestors node) :
    (node :: ancestors).Pairwise fun inner outer =>
      TransGen registry.Refers outer.definition inner.definition := by
  induction encloses with
  | root => exact List.pairwise_singleton _ _
  | @child ancestors node part encloses member ih =>
      rcases built.of_encloses encloses with ⟨_, _, _, _, itsBuilt⟩
      have refers := itsBuilt.refers_part frozen member
      apply List.pairwise_cons.mpr
      refine ⟨?_, ih⟩
      intro outer isOuter
      rcases List.mem_cons.mp isOuter with rfl | isOuter
      · exact TransGen.single refers
      · exact TransGen.tail ((List.pairwise_cons.mp ih).1 outer isOuter) refers

/-- On the way down to a node no definition occurs twice, so there are no more nodes on it than
there are definitions. -/
theorem Registry.Frozen.nodup_definitions {target name : String} {path : Path} {raw : Tree}
    {root node : Instance} {ancestors : List Instance}
    (built : Built registry target name path raw root)
    (encloses : Validation.Encloses root ancestors node) :
    ((node :: ancestors).map Instance.definition).Nodup ∧
      (node :: ancestors).length ≤ registry.definitions.size := by
  have leads := built.leads_of_encloses frozen encloses
  have distinct : ((node :: ancestors).map Instance.definition).Nodup := by
    apply List.pairwise_map.mpr
    apply leads.imp
    intro inner outer leads same
    rw [same] at leads
    exact frozen.coherent.acyclic outer.definition leads
  have registered : (node :: ancestors).map Instance.definition ⊆ registry.definitions.keys := by
    intro name member
    rcases List.mem_map.mp member with ⟨outer, isOuter, rfl⟩
    rcases List.mem_cons.mp isOuter with rfl | isOuter
    · exact mem_keys_iff_definition?.mpr (frozen.exists_definition built encloses)
    · rcases TransGen.head'_iff.mp ((List.pairwise_cons.mp leads).1 outer isOuter) with
        ⟨_, refers, _⟩
      exact refers.source_known
  constructor
  · exact distinct
  · have bound := (distinct.subperm registered).length_le
    rwa [List.length_map, Dict.keys, Entries.length_keys] at bound

end

/-- Building ends on a frozen registry.  There is no endless way down through the parts of
fragments, whatever the document and the defaults are.  So the bound on the nesting of defaults is
not felt: more levels make the same, no answer says that it was reached, and the walk without a
bound, of which there is exactly one, gives the same answer.  On the way down to a node no
definition occurs twice, which bounds the depth of the node by the number of definitions, and the
node stands for the fragment at its path, which a leaf holds as it is, however deep it is. -/
theorem Registry.Frozen.build_ends {registry : Registry} (frozen : registry.Frozen)
    {target : String} {definition : Definition}
    (known : registry.definition? target = some definition) (raw : Tree) :
    WellFounded (Fragment.IsPart registry) ∧
      (∀ levels, Build.countDefaults registry.definitions.values ≤ levels →
        Build.builderWithin registry levels raw definition "" Path.root =
          Instance.build registry target raw) ∧
      (∀ path name, Instance.build registry target raw ≠ .error (.endlessDefault path name)) ∧
      (∃ solution, Build.Solves registry solution ∧
        (∀ other, Build.Solves registry other → other = solution) ∧
        solution raw definition "" Path.root = Instance.build registry target raw) ∧
      ∀ root, Instance.build registry target raw = .ok root →
        ∀ ancestors node, Validation.Encloses root ancestors node →
          ((node :: ancestors).map Instance.definition).Nodup ∧
            (node :: ancestors).length ≤ registry.definitions.size ∧
            (raw.Ordered → registry.DefaultsOrdered →
              ∃ fragment, Fragment.at? registry ⟨target, raw⟩ node.path.segments = some fragment ∧
                fragment.target = node.definition ∧
                ∀ itsDefinition type, registry.definition? node.definition = some itsDefinition →
                  itsDefinition.kind = .leaf type → node = .leaf node.header fragment.tree) := by
  have acyclic := frozen.coherent.acyclic
  have walked : Instance.build registry target raw =
      Build.walk registry raw definition "" Path.root := by
    rw [Instance.build, Build.lookUp_eq known, Build.walk]
  refine ⟨Fragment.wellFounded_isPart acyclic, ?_, ?_, ?_, ?_⟩
  · intro levels most
    rw [walked, Build.builderWithin_eq]
    exact (Build.walk_eq_of_unrolls acyclic (Build.unrolls_substitution registry most) raw known
      "" Path.root).symm
  · intro path name failed
    exact frozen.blamesDocument known failed
  · rcases Build.exists_unique_solution acyclic with ⟨solution, solves, unique⟩
    refine ⟨solution, solves, unique, ?_⟩
    rw [walked, solves raw]
    exact (Build.walk_eq_of_unrolls acyclic (solves.unrolls _) raw known "" Path.root).symm
  · intro root built ancestors node encloses
    have itsBuilt := built_of_build built
    rcases frozen.nodup_definitions itsBuilt encloses with ⟨distinct, bound⟩
    refine ⟨distinct, bound, ?_⟩
    intro ordered defaults
    rcases itsBuilt.fragment_of_encloses defaults ordered encloses with
      ⟨steps, fragment, itsPath, reached, _, nodeBuilt⟩
    rw [Path.root, List.nil_append] at itsPath
    have same := nodeBuilt.definition_eq frozen
    refine ⟨fragment, itsPath ▸ reached, same.symm, ?_⟩
    intro itsDefinition type itsKnown kind
    rw [same] at itsKnown
    have shape := nodeBuilt.inversion itsKnown
    rw [kind] at shape
    rw [shape.2]
    rfl

/-- A schema with a default within a default, and notes of any form. -/
def posterSchema : List Definition :=
  [Definition.leaf "width" .integer, Definition.leaf "notes" .any,
    (Definition.composite "size").withField "width"
      ((Field.optional "width").withDefault (.int 1)),
    ((Definition.composite "poster").withField "notes" (Field.optional "notes")).withField "size"
      ((Field.optional "size").withDefault .null)]

/-- Notes that are deeper than any node of a poster. -/
def posterNotes : Tree :=
  .sequence [.sequence [.sequence [.sequence [.null]]]]

/-- The width of a poster comes from a default within a default, and no definition occurs twice on
the way there.  The notes are one node, whatever is in them. -/
theorem Registry.build_ends_poster :
    ∃ extended registry root notes size width,
      Registry.register "poster" posterSchema = .ok extended ∧ extended.freeze = .ok registry ∧
      Instance.build registry "poster" (.mapping [("notes", posterNotes)]) = .ok root ∧
      WellFounded (Fragment.IsPart registry) ∧
      Validation.Encloses root [root] notes ∧ notes.raw? = some posterNotes ∧
      Validation.Encloses root [size, root] width ∧
      [width.definition, size.definition, root.definition].Nodup := by
  obtain ⟨extended, registry, poster, root, notes, size, width, leaf, registered, accepted, known,
      built, parts, isWidth, isLeaf, isAny, found, defaults⟩ :
      ∃ extended registry poster root notes size width leaf,
        Registry.register "poster" posterSchema = .ok extended ∧ extended.freeze = .ok registry ∧
        registry.definition? "poster" = some poster ∧
        Instance.build registry "poster" (.mapping [("notes", posterNotes)]) = .ok root ∧
        root.children = [notes, size] ∧ size.children = [width] ∧
        registry.definition? notes.definition = some leaf ∧ leaf.kind = .leaf .any ∧
        Fragment.at? registry ⟨"poster", .mapping [("notes", posterNotes)]⟩ notes.path.segments =
          some ⟨"notes", posterNotes⟩ ∧
        registry.defaultTrees = [.null, .int 1] :=
    ⟨_, _, _, _, _, _, _, _, rfl, rfl, rfl, rfl, rfl, rfl, rfl, rfl, rfl, rfl⟩
  have frozen : registry.Frozen := ⟨extended, .register registered, accepted⟩
  have aroundNotes : Validation.Encloses root [root] notes :=
    .child .root (by rw [parts]; exact List.mem_cons_self)
  have aroundSize : Validation.Encloses root [root] size :=
    .child .root (by rw [parts]; exact List.mem_cons_of_mem notes List.mem_cons_self)
  have aroundWidth : Validation.Encloses root [size, root] width :=
    .child aroundSize (by rw [isWidth]; exact List.mem_cons_self)
  obtain ⟨ends, _, _, _, nodes⟩ :=
    Registry.Frozen.build_ends frozen known (.mapping [("notes", posterNotes)])
  refine ⟨extended, registry, root, notes, size, width, registered, accepted, built, ends,
    aroundNotes, ?_, aroundWidth, (nodes root built [size, root] width aroundWidth).1⟩
  have ordered : (Tree.mapping [("notes", posterNotes)]).Ordered := by
    simp [posterNotes, Tree.Ordered, Tree.OrderedAll, Tree.OrderedEntries, Entries.Ascending]
  have defaultsOrdered : registry.DefaultsOrdered := by
    intro value isDefault
    rw [defaults] at isDefault
    rcases List.mem_pair.mp isDefault with rfl | rfl <;> trivial
  rcases (nodes root built [root] notes aroundNotes).2.2 ordered defaultsOrdered with
    ⟨fragment, reached, _, asIs⟩
  cases found.symm.trans reached
  rw [asIs leaf .any isLeaf isAny, Instance.raw?]

end Blueprint
