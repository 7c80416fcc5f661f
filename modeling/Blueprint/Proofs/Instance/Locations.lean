import Blueprint.Proofs.Instance.Fragments
import Blueprint.Proofs.Instance.Postorder

/-!
# Where nodes are

In a document that was built every node stands under its own name below the node that holds it, and
the parts of a node come in the order of their keys or indices (`Instance.Orderly`).  This is so for
every node of the document (`Built.orderly_of_encloses`), also where it was built from the default of
a field, if trees have their keys in order.  Then every node stands for the fragment of the document
that its path leads to (`Built.fragment_of_encloses`).
-/

namespace Blueprint

/-- The parts of a node stand under their names, in the order of their keys or indices. -/
structure Instance.Orderly (node : Instance) : Prop where
  /-- A part is one step below, and the step is its name. -/
  placed : ∀ part ∈ node.children, part.path = node.path.child part.name
  /-- Keys ascend, indices count. -/
  sorted : match node with
    | .leaf _ _ => True
    | .fields _ children | .entries _ children =>
        Entries.Ascending children ∧ ∀ entry ∈ children, entry.2.name = entry.1
    | .items _ children =>
        ∀ (index : Nat) child, children[index]? = some child → child.name = toString index

/-- No two parts of a node have the same name. -/
theorem Instance.Orderly.pairwise_names {node : Instance} (orderly : node.Orderly) :
    node.children.Pairwise fun first second => first.name ≠ second.name := by
  have named {children : Entries Instance} (ascending : Entries.Ascending children)
      (own : ∀ entry ∈ children, entry.2.name = entry.1) :
      (Entries.values children).Pairwise fun first second => first.name ≠ second.name := by
    apply List.pairwise_map.mpr
    apply ascending.imp_of_mem
    intro first second isFirst isSecond before same
    rw [own first isFirst, own second isSecond] at same
    exact String.lt_irrefl _ (same ▸ before)
  have sorted := orderly.sorted
  cases node with
  | leaf => exact List.Pairwise.nil
  | fields header children | entries header children => exact named sorted.1 sorted.2
  | items header children =>
      apply List.pairwise_iff_getElem.mpr
      intro first second isFirst isSecond before same
      rw [sorted first _ (List.getElem?_eq_getElem isFirst),
        sorted second _ (List.getElem?_eq_getElem isSecond)] at same
      exact Nat.ne_of_lt before (toString_injective same)

section

variable {registry : Registry} {owner name : String} {path : Path} {raw : Tree} {node : Instance}

/-- Every node of a document that was built was built. -/
theorem Built.of_encloses {root : Instance} {ancestors : List Instance}
    (built : Built registry owner name path raw root)
    (encloses : Validation.Encloses root ancestors node) :
    ∃ owner name path raw, Built registry owner name path raw node := by
  induction encloses with
  | root => exact ⟨_, _, _, _, built⟩
  | child _ member ih =>
      rcases ih with ⟨_, _, _, _, itsBuilt⟩
      rcases itsBuilt.exists_place member with ⟨_, _, partBuilt⟩
      exact ⟨_, _, _, _, partBuilt⟩

/-- In a document that was built from ordered trees every node stands for the fragment at its path,
the tree of which is ordered. -/
theorem Built.fragment_of_encloses (defaults : registry.DefaultsOrdered) {root : Instance}
    {ancestors : List Instance} (built : Built registry owner name path raw root)
    (ordered : raw.Ordered) (encloses : Validation.Encloses root ancestors node) :
    ∃ steps fragment, node.path.segments = path.segments ++ steps ∧
      Fragment.at? registry ⟨owner, raw⟩ steps = some fragment ∧ fragment.tree.Ordered ∧
      Built registry fragment.target node.name node.path fragment.tree node := by
  induction encloses with
  | root =>
      refine ⟨[], ⟨owner, raw⟩, ?_, rfl, ordered, ?_⟩
      · rw [built.located.2, List.append_nil]
      · rw [built.located.1, built.located.2]
        exact built
  | @child ancestors node part encloses member ih =>
      rcases ih with ⟨steps, whole, itsPath, reached, itsOrdered, itsBuilt⟩
      rcases itsBuilt.exists_place member with ⟨fragment, stands, partBuilt⟩
      have placed := partBuilt.located.2
      refine ⟨steps ++ [part.name], fragment, ?_, ?_, ?_, placed.symm ▸ partBuilt⟩
      · rw [placed, Path.child, itsPath, List.append_assoc]
      · rw [Fragment.at?_append, reached, Option.bind_some,
          Fragment.at?_of_mem_places itsOrdered stands]
        rfl
      · exact Fragment.IsPart.ordered ⟨part.name, stands⟩ defaults itsOrdered

theorem Built.orderly (built : Built registry owner name path raw node) (ordered : raw.Ordered) :
    node.Orderly := by
  constructor
  case placed =>
    intro part member
    rcases built.exists_place member with ⟨_, _, partBuilt⟩
    rw [built.located.2]
    exact partBuilt.located.2
  case sorted =>
    cases built with
    | leaf => trivial
    | fields known kind readable declared ascending present dispensable each =>
        constructor
        · exact ascending
        · rintro ⟨key, child⟩ isEntry
          have isChild := ascending.get?_of_mem isEntry
          obtain ⟨field, value, isField, isChosen⟩ := (present key).mp ⟨child, isChild⟩
          exact (each key field value child isField isChosen isChild).located.1
    | items known kind itemKnown readable length each =>
        intro index child isChild
        have inside := (List.getElem?_eq_some_iff.mp isChild).1
        have isItem := List.getElem?_eq_getElem (length ▸ inside)
        exact (each index _ child isItem isChild).located.1
    | entries known kind itemKnown readable keys each =>
        constructor
        · exact (ordered.ascending_of_asEntries? readable).of_keys keys.symm
        · rintro ⟨key, child⟩ isEntry
          obtain ⟨index, isChild⟩ := List.mem_iff_getElem?.mp isEntry
          obtain ⟨value, isValue⟩ := Entries.exists_getElem?_of_keys keys isChild
          exact (each index key value child isValue isChild).located.1

/-- Every node of a document that was built from ordered trees is orderly. -/
theorem Built.orderly_of_encloses (defaults : registry.DefaultsOrdered) {root : Instance}
    {ancestors : List Instance} (built : Built registry owner name path raw root)
    (ordered : raw.Ordered) (encloses : Validation.Encloses root ancestors node) :
    node.Orderly := by
  rcases built.fragment_of_encloses defaults ordered encloses with
    ⟨_, _, _, _, itsOrdered, itsBuilt⟩
  exact itsBuilt.orderly itsOrdered

end

end Blueprint
