import Blueprint.Proofs.Instance.Locations
import Blueprint.Proofs.Instance.Obligations
import Mathlib.Data.List.Nodup

/-!
# What a check sees of the document

A check is given the nodes that enclose its node.  In a document that was built these are the nodes
whose paths are the places above the path of the node, closest first, so that looking for an
enclosing node finds the closest one of a definition and the root is the whole document
(`Validation.built_surroundings`).  What carries this is that the path of a part is that of its node
and one step more, and that no two nodes have the same path (`Validation.nodup_paths`).
-/

namespace Blueprint

namespace Path

/-- A place on the way to another, before its end. -/
def IsAbove (above below : Path) : Prop :=
  above.segments <+: below.segments ∧ above ≠ below

/-- The places above a place, closest first. -/
def enclosing (path : Path) : List Path :=
  (List.range path.segments.length).reverse.map fun steps => ⟨path.segments.take steps⟩

@[simp]
theorem enclosing_root : root.enclosing = [] :=
  rfl

theorem enclosing_child (path : Path) (step : String) :
    (path.child step).enclosing = path :: path.enclosing := by
  have length : (path.child step).segments.length = path.segments.length + 1 :=
    List.length_append
  have shorter {steps : Nat} (fewer : steps ≤ path.segments.length) :
      (path.child step).segments.take steps = path.segments.take steps :=
    List.take_append_of_le_length fewer
  rw [enclosing, length, List.range_succ, List.reverse_append, List.reverse_singleton,
    List.singleton_append, List.map_cons, shorter (Nat.le_refl _), List.take_length, enclosing]
  congr 1
  apply List.map_congr_left
  intro steps inside
  rw [shorter (Nat.le_of_lt (List.mem_range.mp (List.mem_reverse.mp inside)))]

theorem IsAbove.length_lt {above below : Path} (isAbove : above.IsAbove below) :
    above.segments.length < below.segments.length := by
  obtain ⟨leads, different⟩ := isAbove
  apply Nat.lt_of_le_of_ne leads.length_le
  intro same
  have segments := leads.eq_of_length same
  cases above
  cases below
  exact different (congrArg Path.mk segments)

theorem mem_enclosing_iff {above below : Path} :
    above ∈ below.enclosing ↔ above.IsAbove below := by
  unfold enclosing
  rw [List.mem_map]
  constructor
  · rintro ⟨steps, member, rfl⟩
    have inside := List.mem_range.mp (List.mem_reverse.mp member)
    refine ⟨List.take_prefix _ _, ?_⟩
    intro same
    have lengths := congrArg (fun path => path.segments.length) same
    simp only [List.length_take] at lengths
    omega
  · intro isAbove
    refine ⟨above.segments.length, ?_, ?_⟩
    · exact List.mem_reverse.mpr (List.mem_range.mpr isAbove.length_lt)
    · rw [← List.prefix_iff_eq_take.mp isAbove.1]

/-- Each of the places above a place is further up than those before it. -/
theorem enclosing_descending (path : Path) :
    path.enclosing.Pairwise fun closer further =>
      further.segments.length < closer.segments.length := by
  apply List.pairwise_map.mpr
  apply List.pairwise_reverse.mpr
  apply List.Pairwise.imp_of_mem _ (List.pairwise_lt_range)
  intro first second _ isSecond before
  have inside := List.mem_range.mp isSecond
  rw [List.length_take, List.length_take]
  omega

/-- A place that lies below two steps from a node is reached by one of them only. -/
theorem child_step_unique {path below : Path} {first second : String}
    (belowFirst : (path.child first).segments <+: below.segments)
    (belowSecond : (path.child second).segments <+: below.segments) : first = second := by
  have lengths : (path.child first).segments.length = (path.child second).segments.length := by
    rw [child, child, List.length_append, List.length_append, List.length_singleton,
      List.length_singleton]
  have leads := List.prefix_of_prefix_length_le belowFirst belowSecond (Nat.le_of_eq lengths)
  have same := leads.eq_of_length lengths
  exact List.singleton_inj.mp (List.append_cancel_left same)

end Path

namespace Validation

section

variable {root : Instance}

/-- What encloses a node is enclosed itself. -/
theorem Encloses.of_mem_ancestors {ancestors : List Instance} {node other : Instance}
    (encloses : Encloses root ancestors node) (member : other ∈ ancestors) :
    ∃ higher, Encloses root higher other := by
  induction encloses with
  | root => contradiction
  | child encloses _ ih =>
      rcases List.mem_cons.mp member with rfl | further
      · exact ⟨_, encloses⟩
      · exact ih further

variable (orderly : ∀ ancestors node, Encloses root ancestors node → node.Orderly)

include orderly

/-- The nodes around a node are at the places above it. -/
theorem Encloses.paths_eq (rooted : root.path = Path.root) {ancestors : List Instance}
    {node : Instance} (encloses : Encloses root ancestors node) :
    ancestors.map Instance.path = node.path.enclosing := by
  induction encloses with
  | root => rw [rooted, List.map_nil, Path.enclosing_root]
  | child encloses member ih =>
      rw [List.map_cons, ih, (orderly _ _ encloses).placed _ member, Path.enclosing_child]

variable (registry : Registry)

/-- What is visited for a node is at its place or below. -/
theorem path_prefix_of_mem_visits {node : Instance} {ancestors : List Instance}
    (encloses : Encloses root ancestors node) {context : Context}
    (visited : context ∈ visits registry .listed ancestors node) :
    node.path.segments <+: context.node.path.segments := by
  induction node using Instance.induction generalizing ancestors with
  | step node ih =>
      rw [visits_eq] at visited
      rcases List.mem_append.mp visited with below | here
      · obtain ⟨part, member, itsVisited⟩ := List.mem_flatMap.mp below
        have within := ih part member (encloses.child member) itsVisited
        rw [(orderly _ _ encloses).placed part member] at within
        exact (List.prefix_append _ _).trans within
      · cases List.mem_singleton.mp here
        exact List.prefix_rfl

/-- No two nodes are at the same place. -/
theorem nodup_paths_within {node : Instance} {ancestors : List Instance}
    (encloses : Encloses root ancestors node) :
    ((visits registry .listed ancestors node).map fun context => context.node.path).Nodup := by
  induction node using Instance.induction generalizing ancestors with
  | step node ih =>
      have isOrderly := orderly _ _ encloses
      -- What is visited for a part is below the step to it.
      have below {part : Instance} (member : part ∈ node.children) {path : Path}
          (visited : path ∈ (visits registry .listed (node :: ancestors) part).map
            fun context => context.node.path) :
          (node.path.child part.name).segments <+: path.segments := by
        obtain ⟨context, itsVisited, rfl⟩ := List.mem_map.mp visited
        rw [← isOrderly.placed part member]
        exact path_prefix_of_mem_visits orderly registry (encloses.child member) itsVisited
      rw [visits_eq, List.map_append, List.map_flatMap, List.nodup_append]
      refine ⟨List.nodup_flatMap.mpr ⟨?_, ?_⟩, List.nodup_singleton _, ?_⟩
      · intro part member
        exact ih part member (encloses.child member)
      · apply isOrderly.pairwise_names.imp_of_mem
        intro first second isFirst isSecond different path atFirst atSecond
        exact different (Path.child_step_unique (below isFirst atFirst) (below isSecond atSecond))
      · intro path visited other here same
        obtain ⟨part, member, itsVisited⟩ := List.mem_flatMap.mp visited
        have longer := (below member itsVisited).length_le
        obtain rfl : other = node.path := List.mem_singleton.mp here
        rw [same, Path.child, List.length_append, List.length_singleton] at longer
        omega

/-- No two nodes of a document are at the same place. -/
theorem nodup_paths :
    ((visits registry .listed [] root).map fun context => context.node.path).Nodup :=
  nodup_paths_within orderly registry .root

include registry in
theorem Encloses.eq_of_path_eq {ancestors others : List Instance} {node other : Instance}
    (encloses : Encloses root ancestors node) (itsEncloses : Encloses root others other)
    (same : node.path = other.path) : node = other := by
  have visited : (⟨registry, node, ancestors⟩ : Context) ∈ visits registry .listed [] root :=
    mem_visits_iff.mpr ⟨rfl, encloses⟩
  have itsVisited : (⟨registry, other, others⟩ : Context) ∈ visits registry .listed [] root :=
    mem_visits_iff.mpr ⟨rfl, itsEncloses⟩
  have paths := nodup_paths orderly registry
  exact congrArg Context.node (List.inj_on_of_nodup_map paths visited itsVisited same)

end

/-! ## Looking around -/

/-- A node of a document above a place. -/
def StandsAbove (root : Instance) (place : Path) (other : Instance) : Prop :=
  (∃ higher, Encloses root higher other) ∧ other.path.IsAbove place

/-- What is seen in a context is what there is around its node. -/
structure SeesSurroundings (root : Instance) (context : Context) : Prop where
  /-- The nodes above the node are seen, and only these. -/
  mem_ancestors_iff : ∀ other,
    other ∈ context.ancestors ↔ StandsAbove root context.node.path other
  /-- There is one at each place above the node, and the closest comes first. -/
  paths_eq : context.ancestors.map Instance.path = context.node.path.enclosing
  /-- The closest node above of a definition is found. -/
  ancestor_ok_iff : ∀ definition found, context.ancestor definition = .ok found ↔
    (StandsAbove root context.node.path found ∧ found.definition = definition) ∧
      ∀ other, StandsAbove root context.node.path other → other.definition = definition →
        other.path.segments.length ≤ found.path.segments.length
  /-- None is found exactly if there is none. -/
  ancestor_error_iff : ∀ definition cause, context.ancestor definition = .error cause ↔
    cause = ⟨definition, context.node.path⟩ ∧
      ∀ other, StandsAbove root context.node.path other → other.definition ≠ definition
  /-- The root is the root of the document. -/
  root_eq : context.root = root

/-- Among values whose weights descend the first of a kind has the largest weight of its kind. -/
theorem find?_eq_some_iff_largest {α : Type*} {weight : α → Nat} {test : α → Bool}
    {values : List α} (descending : values.Pairwise fun earlier later =>
      weight later < weight earlier) {found : α} :
    values.find? test = some found ↔
      (found ∈ values ∧ test found = true) ∧
        ∀ other ∈ values, test other = true → weight other ≤ weight found := by
  rw [List.find?_eq_some_iff_append]
  constructor
  · rintro ⟨passes, before, after, rfl, others⟩
    refine ⟨⟨List.mem_append_right _ List.mem_cons_self, passes⟩, ?_⟩
    intro other member itsPasses
    rcases List.mem_append.mp member with earlier | here
    · have fails := others other earlier
      rw [itsPasses] at fails
      contradiction
    · rcases List.mem_cons.mp here with rfl | later
      · exact Nat.le_refl _
      · have rest := (List.pairwise_append.mp descending).2.1
        exact Nat.le_of_lt ((List.pairwise_cons.mp rest).1 other later)
  · rintro ⟨⟨member, passes⟩, largest⟩
    obtain ⟨before, after, rfl⟩ := List.append_of_mem member
    refine ⟨passes, before, after, rfl, ?_⟩
    intro other earlier
    have heavier :=
      (List.pairwise_append.mp descending).2.2 other earlier found List.mem_cons_self
    have fails : test other ≠ true := by
      intro itsPasses
      have lighter := largest other (List.mem_append_left _ earlier) itsPasses
      omega
    simpa using fails

theorem Encloses.seesSurroundings {root node : Instance} {ancestors : List Instance}
    (orderly : ∀ ancestors node, Encloses root ancestors node → node.Orderly)
    (rooted : root.path = Path.root) (registry : Registry)
    (encloses : Encloses root ancestors node) :
    SeesSurroundings root ⟨registry, node, ancestors⟩ := by
  have paths : ancestors.map Instance.path = node.path.enclosing :=
    encloses.paths_eq orderly rooted
  have members (other : Instance) : other ∈ ancestors ↔ StandsAbove root node.path other := by
    constructor
    · intro member
      refine ⟨encloses.of_mem_ancestors member, ?_⟩
      rw [← Path.mem_enclosing_iff, ← paths]
      exact List.mem_map_of_mem member
    · rintro ⟨⟨higher, itsEncloses⟩, isAbove⟩
      rw [← Path.mem_enclosing_iff, ← paths] at isAbove
      obtain ⟨ancestor, member, same⟩ := List.mem_map.mp isAbove
      obtain ⟨_, enclosed⟩ := encloses.of_mem_ancestors member
      rwa [← Encloses.eq_of_path_eq orderly registry enclosed itsEncloses same]
  have descending : ancestors.Pairwise fun closer further =>
      further.path.segments.length < closer.path.segments.length := by
    have lengths := node.path.enclosing_descending
    rw [← paths] at lengths
    exact List.pairwise_map.mp lengths
  refine ⟨members, paths, ?_, ?_, encloses.getLast_eq⟩
  · intro definition found
    have isFound : Context.ancestor ⟨registry, node, ancestors⟩ definition = .ok found ↔
        ancestors.find? (fun ancestor => ancestor.definition == definition) = some found := by
      unfold Context.ancestor
      cases ancestors.find? fun ancestor => ancestor.definition == definition <;> simp
    rw [isFound, find?_eq_some_iff_largest descending]
    simp only [members, beq_iff_eq]
  · intro definition cause
    have isMissed : Context.ancestor ⟨registry, node, ancestors⟩ definition = .error cause ↔
        cause = ⟨definition, node.path⟩ ∧
          ancestors.find? (fun ancestor => ancestor.definition == definition) = none := by
      unfold Context.ancestor
      cases ancestors.find? fun ancestor => ancestor.definition == definition <;>
        simp [eq_comm]
    rw [isMissed, List.find?_eq_none]
    simp only [members, beq_iff_eq, ne_eq]

/-- In a document that was built every rule is checked with what there is around its node in sight:
the nodes above it, closest first, and the whole document as the root.  Every part is one step below
its node, by its name, and no two nodes are at the same place. -/
theorem built_surroundings {registry : Registry} {target : String} {raw : Tree} {root : Instance}
    (built : Instance.build registry target raw = .ok root) (ordered : raw.Ordered)
    (defaults : registry.DefaultsOrdered) (checks : Checks) :
    validate checks registry root = discharge checks (obligations registry root) ∧
      (∀ obligation ∈ obligations registry root, SeesSurroundings root obligation.1) ∧
      root.path = Path.root ∧
      (∀ ancestors node, Encloses root ancestors node → ∀ part ∈ node.children,
        part.path = node.path.child part.name) ∧
      ((visits registry .listed [] root).map fun context => context.node.path).Nodup := by
  have wasBuilt := built_of_build built
  have orderly (ancestors : List Instance) (node : Instance)
      (encloses : Encloses root ancestors node) : node.Orderly :=
    wasBuilt.orderly_of_encloses defaults ordered encloses
  have rooted : root.path = Path.root := wasBuilt.located.2
  refine ⟨validate_eq_discharge checks registry root, ?_, rooted, ?_, nodup_paths orderly registry⟩
  · intro obligation owed
    obtain ⟨ancestors, node, encloses, here⟩ := mem_obligations_iff.mp owed
    obtain ⟨validator, _, rfl⟩ := List.mem_map.mp here
    exact encloses.seesSurroundings orderly rooted registry
  · intro ancestors node encloses
    exact (orderly ancestors node encloses).placed

/-- A library with shelves, which have titles. -/
def librarySchema : List Definition :=
  [⟨"title", .leaf .string, [.filled]⟩, Definition.list "titles" "title",
    (Definition.composite "shelf").withOptional "titles" "titles", Definition.map "shelves" "shelf",
    (Definition.composite "library").withOptional "shelves" "shelves"]

/-- A library with one title. -/
def library : Tree :=
  .mapping [("shelves", .mapping [("left", .mapping [("titles", .sequence [.string "Faust"])])])]

/-- From the only title of a library one sees its list, its shelf, the shelves and the library, and
no other title. -/
theorem surroundings_library :
    ∃ registry root context shelf,
      Registry.register "library" librarySchema = .ok registry ∧
      Instance.build registry "library" library = .ok root ∧
      obligations registry root = [(context, .filled)] ∧
      context.node.path = ⟨["shelves", "left", "titles", "0"]⟩ ∧
      context.ancestors.map Instance.path =
        [⟨["shelves", "left", "titles"]⟩, ⟨["shelves", "left"]⟩, ⟨["shelves"]⟩, Path.root] ∧
      context.ancestor "shelf" = .ok shelf ∧ StandsAbove root context.node.path shelf ∧
      context.ancestor "title" = .error ⟨"title", context.node.path⟩ ∧
      (∀ other, StandsAbove root context.node.path other → other.definition ≠ "title") ∧
      context.root = root ∧
      ((visits registry .listed [] root).map fun context => context.node.path).Nodup := by
  obtain ⟨registry, root, context, shelf, registered, built, owed, place, found, missed, plain⟩ :
      ∃ registry root context shelf,
        Registry.register "library" librarySchema = .ok registry ∧
        Instance.build registry "library" library = .ok root ∧
        obligations registry root = [(context, .filled)] ∧
        context.node.path = ⟨["shelves", "left", "titles", "0"]⟩ ∧
        context.ancestor "shelf" = .ok shelf ∧
        context.ancestor "title" = .error ⟨"title", context.node.path⟩ ∧
        registry.defaultTrees = [] :=
    ⟨_, _, _, _, rfl, rfl, rfl, rfl, rfl, rfl, rfl⟩
  have ordered : library.Ordered := by
    simp [library, Tree.Ordered, Tree.OrderedEntries, Tree.OrderedAll, Entries.Ascending]
  have defaults : registry.DefaultsOrdered := by
    intro value isDefault
    rw [plain] at isDefault
    contradiction
  obtain ⟨_, sees, _, _, distinct⟩ := built_surroundings built ordered defaults Checks.none
  have surroundings : SeesSurroundings root context := by
    apply sees (context, .filled)
    rw [owed]
    exact List.mem_singleton_self _
  obtain ⟨⟨stands, _⟩, _⟩ := (surroundings.ancestor_ok_iff "shelf" shelf).mp found
  obtain ⟨_, none⟩ := (surroundings.ancestor_error_iff "title" _).mp missed
  have paths := surroundings.paths_eq
  rw [place] at paths
  exact ⟨registry, root, context, shelf, registered, built, owed, place, paths, found, stands,
    missed, none, surroundings.root_eq, distinct⟩

end Validation

end Blueprint
