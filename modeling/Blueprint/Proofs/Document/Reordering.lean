import Blueprint.Proofs.Document.Merging

/-!
# The order of documents

Documents in another order are accepted all the same, as compatibility is symmetric
(`merge_ok_iff_of_perm`).  What they are merged to differs only where the policy of a key says so:
the last contribution overrides, and united lists are in the order of the documents.  Otherwise the
values agree (`Combination.agrees_of_perm`).  They need not be equal, since contributions that agree
may differ in the signs of zeros and the first one is kept.
-/

namespace Blueprint

namespace Merge

/-- Mappings in which values that agree are found under the same names agree. -/
theorem agrees_of_lookUps {left right : Entries Tree} (leftAscending : left.Ascending)
    (rightAscending : right.Ascending)
    (same : ∀ entry, (left.get? entry).map Tree.content = (right.get? entry).map Tree.content) :
    (Tree.mapping left).agrees (.mapping right) = true := by
  have contents : Entries.mapValues (fun _ => Tree.content) left =
      Entries.mapValues (fun _ => Tree.content) right := by
    apply (leftAscending.mapValues _).ext (rightAscending.mapValues _)
    intro entry
    rw [Entries.get?_mapValues, Entries.get?_mapValues]
    exact same entry
  rw [Tree.agrees_iff, Tree.content, Tree.content, Tree.contentEntries_eq_mapValues,
    Tree.contentEntries_eq_mapValues, contents]

section

variable {policy : Policy} (combines : policy ≠ .override) {parts others : List Tree}
  (perm : parts.Perm others) (pairwise : parts.Pairwise (Compatible policy))

include combines perm pairwise

/-- The first body of an entry agrees with the one that is first in another order. -/
theorem findSome?_content_of_perm (entry : String) :
    (parts.findSome? (·.get? entry)).map Tree.content =
      (others.findSome? (·.get? entry)).map Tree.content := by
  cases found : parts.findSome? (·.get? entry) with
  | none =>
      have absent : others.findSome? (·.get? entry) = none := by
        rw [List.findSome?_eq_none_iff] at found ⊢
        intro part member
        exact found part (perm.mem_iff.mpr member)
      rw [absent]
  | some body =>
      obtain ⟨part, member, holds⟩ := List.exists_of_findSome?_eq_some found
      obtain ⟨other, otherFound⟩ : ∃ other, others.findSome? (·.get? entry) = some other := by
        rw [← Option.isSome_iff_exists, List.findSome?_isSome_iff]
        exact ⟨part, perm.mem_iff.mp member, by simp [holds]⟩
      obtain ⟨origin, originMember, originHolds⟩ := List.exists_of_findSome?_eq_some otherFound
      have compatible := Compatible.of_pairwise pairwise member (perm.mem_iff.mpr originMember)
      have agree := compatible.bodies_agree combines holds originHolds
      rw [otherFound]
      exact congrArg some ((Tree.agrees_iff body other).mp agree)

theorem IsJoin.agrees_of_perm {left right : Tree} (isJoin : IsJoin parts left)
    (otherIsJoin : IsJoin others right) : left.agrees right = true := by
  obtain ⟨lefts, rfl, leftAscending, leftBodies⟩ := isJoin
  obtain ⟨rights, rfl, rightAscending, rightBodies⟩ := otherIsJoin
  apply agrees_of_lookUps leftAscending rightAscending
  intro entry
  rw [leftBodies, rightBodies]
  exact findSome?_content_of_perm combines perm pairwise entry

end

/-- What contributions are combined to in two orders agrees, united lists apart. -/
theorem Combination.agrees_of_perm {policy : Policy} (combines : policy ≠ .override)
    {parts others : List Tree} (perm : parts.Perm others) (nonempty : parts ≠ [])
    (pairwise : parts.Pairwise (Compatible policy))
    (noSequences : ¬ (policy = .mergeUnion ∧ ∀ part ∈ parts, part.shape = .sequence))
    {left right : Tree} (combination : Combination policy parts left)
    (otherCombination : Combination policy others right) : left.agrees right = true := by
  have otherPairwise : others.Pairwise (Compatible policy) :=
    (perm.pairwise_iff Compatible.symm).mp pairwise
  obtain ⟨first, rest, rfl⟩ := List.exists_cons_of_ne_nil nonempty
  cases others with
  | nil => exact absurd perm.eq_nil nonempty
  | cons next more =>
      have compatible := Compatible.of_pairwise pairwise List.mem_cons_self
        (perm.mem_iff.mpr List.mem_cons_self)
      have sameShape : first.shape = next.shape := compatible.shape_eq combines
      by_cases mapping : first.shape = .mapping
      · rw [combination_mapping_iff combines pairwise mapping] at combination
        rw [combination_mapping_iff combines otherPairwise (sameShape ▸ mapping)]
          at otherCombination
        exact combination.agrees_of_perm combines perm pairwise otherCombination
      · have notUnited : ¬ (policy = .mergeUnion ∧ first.shape = .sequence) := by
          rwa [← forall_shape_iff combines pairwise .sequence]
        rw [combination_other_iff combines pairwise mapping notUnited] at combination
        rw [combination_other_iff combines otherPairwise (sameShape ▸ mapping)
          (sameShape ▸ notUnited)] at otherCombination
        subst combination otherCombination
        exact compatible.agrees combines mapping notUnited

/-- United lists have the same items in another order. -/
theorem Combination.items_perm {parts others : List Tree} (perm : parts.Perm others)
    (sequences : ∀ part ∈ parts, part.shape = .sequence) {left right : Tree}
    (combination : Combination .mergeUnion parts left)
    (otherCombination : Combination .mergeUnion others right) :
    ∃ lefts rights, left = .sequence lefts ∧ right = .sequence rights ∧ lefts.Perm rights := by
  have otherSequences : ∀ part ∈ others, part.shape = .sequence :=
    fun part member => sequences part (perm.mem_iff.mpr member)
  rw [Combination, if_pos sequences] at combination
  rw [Combination, if_pos otherSequences] at otherCombination
  exact ⟨_, _, combination, otherCombination, perm.flatMap_right _⟩

/-! ## Documents -/

/-- A key is in the outcome if something is contributed to it. -/
theorem Merged.isSome_iff {policy : Policy} {parts : List Tree} {value : Option Tree}
    (merged : Merged policy parts value) : value.isSome = true ↔ parts ≠ [] := by
  cases value with
  | none => simp [show parts = [] from merged]
  | some whole => simp [merged.1]

theorem contributions_perm {sources permuted : List Source} (perm : sources.Perm permuted)
    (key : String) : (contributions sources key).Perm (contributions permuted key) :=
  perm.filterMap _

theorem merge_ok_iff_of_perm {table : PolicyTable} {sources permuted : List Source}
    (perm : sources.Perm permuted) (ordered : ∀ source ∈ sources, source.tree.Ordered) :
    (∃ merged, merge sources table = .ok merged) ↔
      ∃ merged, merge permuted table = .ok merged := by
  have itsOrdered : ∀ source ∈ permuted, source.tree.Ordered :=
    fun source member => ordered source (perm.mem_iff.mpr member)
  rw [merge_ok_iff_pairwise ordered, merge_ok_iff_pairwise itsOrdered]
  apply and_congr
  · simp only [perm.mem_iff]
  · apply forall_congr'
    intro key
    exact (contributions_perm perm key).pairwise_iff Compatible.symm

/-- What may become of the value of a key when the documents that contribute to it come in another
order. -/
def Reordered (policy : Policy) (parts : List Tree) (left right : Tree) : Prop :=
  match policy with
  | .override => True
  | .mergeNoOverride => left.agrees right = true
  | .mergeUnion =>
      if ∀ part ∈ parts, part.shape = .sequence then
        ∃ lefts rights, left = .sequence lefts ∧ right = .sequence rights ∧ lefts.Perm rights
      else left.agrees right = true

theorem Combination.reordered {policy : Policy} {parts others : List Tree}
    (perm : parts.Perm others) (nonempty : parts ≠ [])
    (pairwise : parts.Pairwise (Compatible policy)) {left right : Tree}
    (combination : Combination policy parts left)
    (otherCombination : Combination policy others right) : Reordered policy parts left right := by
  cases policy with
  | override => trivial
  | mergeNoOverride =>
      exact combination.agrees_of_perm (by decide) perm nonempty pairwise (by simp)
        otherCombination
  | mergeUnion =>
      rw [Reordered]
      split
      · next sequences => exact combination.items_perm perm sequences otherCombination
      · next noSequences =>
          exact combination.agrees_of_perm (by decide) perm nonempty pairwise
            (fun both => noSequences both.2) otherCombination

end Merge

open Merge

/-- Documents are accepted in every order if they are in one.  They are then merged to the same
keys, and to values that differ only as the policies of the keys admit: united lists have the same
items, and what is not overridden agrees.  Documents list the entries of a mapping by ascending
keys, as readers do. -/
theorem merge_reorders (table : PolicyTable) {sources permuted : List Source}
    (perm : sources.Perm permuted) (ordered : ∀ source ∈ sources, source.tree.Ordered) :
    ((∃ merged, merge sources table = .ok merged) ↔
      ∃ merged, merge permuted table = .ok merged) ∧
    ∀ left right, merge sources table = .ok left → merge permuted table = .ok right →
      ∃ lefts rights : Dict Tree, left = .mapping lefts.entries ∧ right = .mapping rights.entries ∧
        (∀ key, key ∈ lefts.keys ↔ key ∈ rights.keys) ∧
        ∀ key first second, lefts.get? key = some first → rights.get? key = some second →
          Reordered (table.policyFor key) (contributions sources key) first second := by
  constructor
  · exact merge_ok_iff_of_perm perm ordered
  · intro left right isLeft isRight
    have itsOrdered : ∀ source ∈ permuted, source.tree.Ordered :=
      fun source member => ordered source (perm.mem_iff.mpr member)
    obtain ⟨_, lefts, rfl, leftAtKey⟩ := (merge_eq_ok_iff ordered).mp isLeft
    obtain ⟨_, rights, rfl, rightAtKey⟩ := (merge_eq_ok_iff itsOrdered).mp isRight
    refine ⟨lefts, rights, rfl, rfl, ?_, ?_⟩
    · intro key
      have present : contributions sources key ≠ [] ↔ contributions permuted key ≠ [] := by
        rw [← List.length_pos_iff, ← List.length_pos_iff, (contributions_perm perm key).length_eq]
      rw [Dict.mem_keys_iff, Dict.mem_keys_iff]
      exact (leftAtKey key).2.isSome_iff.trans (present.trans (rightAtKey key).2.isSome_iff.symm)
    · intro key first second isFirst isSecond
      obtain ⟨pairwise, merged⟩ := leftAtKey key
      obtain ⟨_, itsMerged⟩ := rightAtKey key
      rw [isFirst] at merged
      rw [isSecond] at itsMerged
      exact merged.2.reordered (contributions_perm perm key) merged.1 pairwise itsMerged.2

/-- Two documents with a list, a title and a type each, in both orders: the list is turned around,
the other title overrides, and the type has the other zero. -/
theorem merge_reversed :
    let first : Source := ⟨"first", .mapping [("tags", .sequence [.string "x"]),
      ("title", .string "one"), ("types", .mapping [("a", .number (.float (.zero false)))])]⟩
    let second : Source := ⟨"second", .mapping [("tags", .sequence [.string "y"]),
      ("title", .string "two"), ("types", .mapping [("a", .number (.float (.zero true)))])]⟩
    let table := (PolicyTable.empty.set "tags" .mergeUnion).set "types" .mergeNoOverride
    let left := Tree.mapping [("tags", .sequence [.string "x", .string "y"]),
      ("title", .string "two"), ("types", .mapping [("a", .number (.float (.zero false)))])]
    let right := Tree.mapping [("tags", .sequence [.string "y", .string "x"]),
      ("title", .string "one"), ("types", .mapping [("a", .number (.float (.zero true)))])]
    merge [first, second] table = .ok left ∧ merge [second, first] table = .ok right ∧
      ∃ lefts rights : Dict Tree, left = .mapping lefts.entries ∧ right = .mapping rights.entries ∧
        ∀ key one two, lefts.get? key = some one → rights.get? key = some two →
          Reordered (table.policyFor key) (contributions [first, second] key) one two := by
  intro first second table left right
  have ordered : ∀ source ∈ [first, second], source.tree.Ordered := by
    have names : "tags" < "title" ∧ "tags" < "types" ∧ "title" < "types" := by decide
    simp only [first, second, Tree.Ordered, Tree.OrderedAll, Tree.OrderedEntries,
      Entries.Ascending, List.pairwise_cons, List.forall_mem_cons]
    simp [names]
  obtain ⟨_, outcomes⟩ := merge_reorders table (List.Perm.swap second first []) ordered
  obtain ⟨lefts, rights, isLefts, isRights, _, atKey⟩ := outcomes left right rfl rfl
  exact ⟨rfl, rfl, lefts, rights, isLefts, isRights, atKey⟩

end Blueprint
