import Blueprint.Proofs.Document.Regrouping
import Blueprint.Proofs.Instance.Surroundings
import Blueprint.Proofs.Plan.Sections
import Blueprint.Proofs.Text.Split

/-!
# Looking up what is in a plan

A path is looked up by splitting it at dots, so steps that have no dot in them are found again, also
empty ones, and the look-up goes down by them one after the other (`Plan.lookUp?_join`).

The steps of the path of a node are the keys and indices by which its value is reached from that of
the root, since parts stand under their names (`Instance.Orderly.step?_value`).  The plan has the
parts of the root as sections.  So the path of a node, written out, looks up its value
(`Registry.Frozen.lookUp?_path`).
-/

namespace Blueprint

namespace Plan

/-! ## Going down -/

/-- Some digits are a number in decimals. -/
structure Spells (digits : List Char) (number : Nat) : Prop where
  some : digits ≠ []
  plain : ∀ digit ∈ digits, digit.isDigit = true
  value : Nat.ofDigitChars 10 digits 0 = number

/-- A step is an index in decimals, perhaps after a plus sign. -/
def Denotes (step : String) (index : Nat) : Prop :=
  ∃ digits, (step.toList = digits ∨ step.toList = '+' :: digits) ∧ Spells digits index

/-- One step down leads from a tree to a part. -/
inductive StepsTo : Tree → String → Tree → Prop
  | key {entries key part} (found : Entries.get? entries key = some part) :
      StepsTo (.mapping entries) key part
  | index {items step index part} (denotes : Denotes step index)
      (found : items[index]? = some part) : StepsTo (.sequence items) step part

/-- Steps down lead from a tree to a part of it, one after the other. -/
inductive DescendsTo : Tree → List String → Tree → Prop
  | here {tree} : DescendsTo tree [] tree
  | down {tree step part steps found} (first : StepsTo tree step part)
      (rest : DescendsTo part steps found) : DescendsTo tree (step :: steps) found

theorem spells_iff {digits : List Char} {number : Nat} :
    (if digits.isEmpty || !digits.all Char.isDigit then none
      else some (Nat.ofDigitChars 10 digits 0)) = some number ↔ Spells digits number := by
  by_cases none : digits = []
  · constructor
    · simp [none]
    · intro spells
      exact absurd none spells.some
  by_cases plain : digits.all Char.isDigit = true
  · have isPlain := List.all_eq_true.mp plain
    constructor
    · intro value
      exact ⟨none, isPlain, by simpa [none, plain] using value⟩
    · intro spells
      simpa [none, plain] using spells.value
  · constructor
    · simp [plain]
    · intro spells
      exact absurd (List.all_eq_true.mpr spells.plain) plain

theorem index?_eq_some_iff {step : String} {index : Nat} :
    index? step = some index ↔ Denotes step index := by
  unfold index? Denotes
  dsimp only
  generalize step.toList = chars
  split
  · next digits =>
      constructor
      · intro value
        exact ⟨digits, .inr rfl, spells_iff.mp value⟩
      · rintro ⟨others, rfl | same, spells⟩
        · -- A plus sign is no digit.
          have isDigit := spells.plain '+' List.mem_cons_self
          contradiction
        · cases same
          exact spells_iff.mpr spells
  · next unsigned =>
      constructor
      · intro value
        exact ⟨chars, .inl rfl, spells_iff.mp value⟩
      · rintro ⟨digits, rfl | signed, spells⟩
        · exact spells_iff.mpr spells
        · exact absurd signed (unsigned digits)

theorem step?_eq_some_iff {tree part : Tree} {step : String} :
    step? tree step = some part ↔ StepsTo tree step part := by
  cases tree with
  | mapping entries =>
      constructor
      · exact .key
      · intro leads
        cases leads with
        | key found => exact found
  | sequence items =>
      simp only [step?, Option.bind_eq_some_iff, index?_eq_some_iff]
      constructor
      · rintro ⟨index, denotes, found⟩
        exact .index denotes found
      · intro leads
        cases leads with
        | index denotes found => exact ⟨_, denotes, found⟩
  | _ =>
      constructor
      · intro found
        contradiction
      · intro leads
        cases leads

theorem descend?_eq_some_iff {tree found : Tree} {steps : List String} :
    descend? tree steps = some found ↔ DescendsTo tree steps found := by
  induction steps generalizing tree with
  | nil =>
      constructor
      · rintro ⟨⟩
        exact .here
      · rintro ⟨⟩
        rfl
  | cons step rest ih =>
      simp only [descend?, Option.bind_eq_some_iff, step?_eq_some_iff, ih]
      constructor
      · rintro ⟨part, first, further⟩
        exact .down first further
      · intro leads
        cases leads with
        | down first further => exact ⟨_, first, further⟩

theorem descend?_append (tree : Tree) (first second : List String) :
    descend? tree (first ++ second) = (descend? tree first).bind (descend? · second) := by
  induction first generalizing tree with
  | nil => rfl
  | cons step rest ih => simp [descend?, ih, Option.bind_assoc]

/-! ## Splitting what was joined -/

theorem parts_join {steps : List String} (some : steps ≠ [])
    (plain : ∀ step ∈ steps, '.' ∉ step.toList) :
    Text.parts '.' (".".intercalate steps) = steps := by
  have chars : (".".intercalate steps).toList = ['.'].intercalate (steps.map String.toList) :=
    String.toList_intercalate
  rw [Text.parts, chars, Text.split_intercalate '.' (by simpa using some)]
  · simp
  · simpa using plain

theorem lookUp?_join (plan : Plan) {name : String} {steps : List String}
    (plain : ∀ step ∈ name :: steps, '.' ∉ step.toList) :
    plan.lookUp? (".".intercalate (name :: steps)) =
      (plan.get? name).bind (descend? · steps) := by
  rw [lookUp?, parts_join (List.cons_ne_nil _ _) plain]

end Plan

/-! ## Paths of nodes -/

theorem denotes_toString (index : Nat) : Plan.Denotes (toString index) index := by
  have digits : (toString index).toList = Nat.toDigits 10 index := by
    rw [Nat.toString_eq_repr, Nat.toList_repr]
  refine ⟨Nat.toDigits 10 index, .inl digits, ?_, ?_, ?_⟩
  · exact Nat.toDigits_ne_nil
  · intro digit member
    exact Nat.isDigit_of_mem_toDigits (by decide) (by decide) member
  · exact Nat.ofDigitChars_toDigits (by decide) (by decide)

/-- The value of a part is one step below that of its node, and the step is its name. -/
theorem Instance.Orderly.step?_value {node part : Instance} (orderly : node.Orderly)
    (member : part ∈ node.children) : Plan.step? node.value part.name = some part.value := by
  have named {children : Entries Instance} (ascending : Entries.Ascending children)
      (own : ∀ entry ∈ children, entry.2.name = entry.1) (isPart : part ∈ Entries.values children) :
      Plan.step? (.mapping (valueEntries children)) part.name = some part.value := by
    rcases List.mem_map.mp isPart with ⟨⟨key, child⟩, isEntry, rfl⟩
    have isNamed : child.name = key := own _ isEntry
    rw [Plan.step?, valueEntries_eq_mapValues, Entries.get?_mapValues, isNamed,
      ascending.get?_of_mem isEntry]
    rfl
  have sorted := orderly.sorted
  cases node with
  | leaf => contradiction
  | fields header children | entries header children => exact named sorted.1 sorted.2 member
  | items header children =>
      rcases List.mem_iff_getElem?.mp member with ⟨index, isPart⟩
      have isValue : (children.map value)[index]? = some part.value := by
        rw [List.getElem?_map]
        exact congrArg (Option.map value) isPart
      rw [sorted index part isPart, value, valueAll_eq_map, Plan.step?_eq_some_iff]
      exact .index (denotes_toString index) isValue

/-- The steps of the path of a node lead from the value of the root to the value of the node. -/
theorem Validation.Encloses.descend?_value {root node : Instance} {ancestors : List Instance}
    (orderly : ∀ ancestors node, Validation.Encloses root ancestors node → node.Orderly)
    (rooted : root.path = Path.root) (encloses : Validation.Encloses root ancestors node) :
    Plan.descend? root.value node.path.segments = some node.value := by
  induction encloses with
  | root =>
      rw [rooted]
      rfl
  | @child ancestors node part encloses member ih =>
      have isOrderly := orderly _ _ encloses
      rw [isOrderly.placed part member, Path.child, Plan.descend?_append, ih, Option.bind_some,
        Plan.descend?, isOrderly.step?_value member]
      rfl

/-- What is one step below a root that was built from a mapping is one of its sections. -/
theorem Built.get?_given_of_step? {registry : Registry} {target name : String} {path : Path}
    {values : Dict Tree} {root : Instance} {step : String} {part : Tree}
    (built : Built registry target name path (.mapping values.entries) root)
    (leads : Plan.step? root.value step = some part) : root.given.get? step = some part := by
  have isMapping : ∃ entries, root.value = .mapping entries := by
    cases built with
    | leaf | fields | entries => exact ⟨_, rfl⟩
    | items _ _ _ readable => contradiction
  rcases isMapping with ⟨entries, isValue⟩
  have isGiven : root.valuesByKey = entries := by rw [Instance.valuesByKey, isValue]
  rw [Instance.given, Dict.get?_ofList built.valuesByKey_ascending, isGiven]
  rwa [isValue] at leads

/-- The sections that a root gives are in its plan. -/
theorem Registry.Frozen.get?_emit {registry : Registry} (frozen : registry.Frozen) {raw : Tree}
    {root : Instance} {plan : Plan} (built : Built registry registry.root "" Path.root raw root)
    (emitted : registry.emit root = .ok plan) {key : String} {value : Tree}
    (given : root.given.get? key = some value) : plan.get? key = some value := by
  rw [frozen.emit_eq built] at emitted
  apply Registry.get?_of_place emitted
  rw [Plan.get?, frozen.get?_sections built, given, Option.some_or]

/-- The plan of a document has the value of a node at the path of the node. -/
theorem Registry.Frozen.lookUp?_path {registry : Registry} (frozen : registry.Frozen)
    (defaults : registry.DefaultsOrdered) {values : Dict Tree} {root : Instance} {plan : Plan}
    (ordered : (Tree.mapping values.entries).Ordered)
    (structural : registry.structural (.mapping values.entries) = .ok root)
    (emitted : registry.emit root = .ok plan) {parent node : Instance} {above : List Instance}
    (encloses : Validation.Encloses root (parent :: above) node)
    (plain : ∀ step ∈ node.path.segments, '.' ∉ step.toList) :
    plan.lookUp? node.path.text = some node.value := by
  have built := built_of_build structural
  have orderly (ancestors : List Instance) (node : Instance)
      (encloses : Validation.Encloses root ancestors node) : node.Orderly :=
    built.orderly_of_encloses defaults ordered encloses
  have leads := encloses.descend?_value orderly built.located.2
  have further : node.path.segments ≠ [] := by
    rcases encloses with _ | ⟨itsEncloses, member⟩
    rw [(orderly _ _ itsEncloses).placed node member]
    exact List.append_ne_nil_of_right_ne_nil _ (List.cons_ne_nil _ _)
  rcases List.exists_cons_of_ne_nil further with ⟨name, steps, path⟩
  rw [path] at leads plain
  rcases Option.bind_eq_some_iff.mp leads with ⟨tree, first, rest⟩
  have isText : node.path.text = ".".intercalate (name :: steps) := by
    simp [Path.text, Path.isRoot, path]
  rw [isText, plan.lookUp?_join plain,
    frozen.get?_emit built emitted (built.get?_given_of_step? first)]
  exact rest

/-- The paths of the nodes of a document look up their values in its plan, as long as there are no
dots in their steps, whatever else these are.  And steps without dots, joined by dots, look up
exactly what the section of the first leads to by the others, one step after the other. -/
theorem parse_lookUps :
    (∀ registry : Registry, registry.Frozen → registry.DefaultsOrdered →
      ∀ checks sources policies plan, (∀ source ∈ sources, source.tree.Ordered) →
        parse checks registry sources policies = .ok plan →
          ∃ merged root, merge sources policies = .ok merged ∧
            registry.structural merged = .ok root ∧
            ∀ parent above node, Validation.Encloses root (parent :: above) node →
              (∀ step ∈ node.path.segments, '.' ∉ step.toList) →
                plan.lookUp? node.path.text = some node.value) ∧
      ∀ (plan : Plan) name steps, (∀ step ∈ name :: steps, '.' ∉ step.toList) →
        ∀ found, plan.lookUp? (".".intercalate (name :: steps)) = some found ↔
          ∃ tree, plan.get? name = some tree ∧ Plan.DescendsTo tree steps found := by
  constructor
  · intro registry frozen defaults checks sources policies plan ordered parsed
    rcases parse_ok_iff.mp parsed with ⟨_, merged, root, isMerged, structural, _, emitted⟩
    refine ⟨merged, root, isMerged, structural, ?_⟩
    intro parent above node encloses plain
    have mergedOrdered := merge_ordered ordered isMerged
    rcases merge_filled isMerged with ⟨values, rfl, _⟩
    exact frozen.lookUp?_path defaults mergedOrdered structural emitted encloses plain
  · intro plan name steps plain found
    rw [plan.lookUp?_join plain, Option.bind_eq_some_iff]
    simp only [Plan.descend?_eq_some_iff]

/-- A library whose only shelf has the empty name. -/
def attic : Tree :=
  .mapping [("shelves", .mapping [("", .mapping [("titles", .sequence [.string "Faust"])])])]

/-- The only title of that library is looked up by its path, which has an empty step.  Its index may
have a plus sign. -/
theorem parse_attic :
    ∃ base registry root plan context,
      Registry.register "library" Validation.librarySchema = .ok base ∧
      base.freeze = .ok registry ∧ registry.structural attic = .ok root ∧
      parse Checks.none registry [⟨"attic.yaml", attic⟩] .empty = .ok plan ∧
      Validation.obligations registry root = [(context, .filled)] ∧
      context.node.path.text = "shelves..titles.0" ∧
      plan.lookUp? "shelves..titles.0" = some (.string "Faust") ∧
      plan.lookUp? "shelves..titles.+0" = some (.string "Faust") := by
  rcases (⟨_, _, _, _, _, _, _, _, rfl, rfl, rfl, rfl, rfl, rfl, rfl, rfl, rfl, rfl, rfl, rfl⟩ :
      ∃ base registry root plan context parent above shelves,
        Registry.register "library" Validation.librarySchema = .ok base ∧
        base.freeze = .ok registry ∧ registry.structural attic = .ok root ∧
        merge [⟨"attic.yaml", attic⟩] .empty = .ok attic ∧
        parse Checks.none registry [⟨"attic.yaml", attic⟩] .empty = .ok plan ∧
        Validation.obligations registry root = [(context, .filled)] ∧
        context.ancestors = parent :: above ∧
        context.node.path = ⟨["shelves", "", "titles", "0"]⟩ ∧
        context.node.value = .string "Faust" ∧ registry.defaultTrees = [] ∧
        plan.get? "shelves" = some shelves ∧
        Plan.descend? shelves ["", "titles", "+0"] = some (.string "Faust")) with
    ⟨base, registry, root, plan, context, parent, above, shelves, registered, accepted, structural,
      isMerged, parsed, owed, around, path, isValue, noDefaults, isSection, leads⟩
  have frozen : registry.Frozen := ⟨base, .register registered, accepted⟩
  have defaults : registry.DefaultsOrdered := by
    intro value isDefault
    rw [noDefaults] at isDefault
    contradiction
  have ordered : attic.Ordered := by
    simp [attic, Tree.Ordered, Tree.OrderedEntries, Tree.OrderedAll, Entries.Ascending]
  rcases parse_lookUps with ⟨nodes, descents⟩
  rcases nodes registry frozen defaults _ _ _ plan (by simpa using ordered) parsed with
    ⟨merged, itsRoot, itsMerged, itsStructural, found⟩
  cases isMerged.symm.trans itsMerged
  cases structural.symm.trans itsStructural
  have isOwed : (context, Validator.filled) ∈ Validation.obligations registry root := by
    rw [owed]
    exact List.mem_singleton_self _
  rcases Validation.mem_obligations_iff.mp isOwed with ⟨ancestors, node, encloses, here⟩
  rcases List.mem_map.mp here with ⟨_, _, same⟩
  cases same
  cases around
  have isText : node.path.text = "shelves..titles.0" := congrArg Path.text path
  have byPath := found parent above node encloses (by rw [path]; decide)
  have bySteps := descents plan "shelves" ["", "titles", "+0"] (by decide) (.string "Faust")
  rw [isText] at byPath
  refine ⟨base, registry, root, plan, _, registered, accepted, structural, parsed, owed, isText,
    byPath.trans (congrArg some isValue), bySteps.mpr ⟨shelves, isSection, ?_⟩⟩
  exact Plan.descend?_eq_some_iff.mp leads

end Blueprint
