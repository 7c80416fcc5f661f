import Blueprint.Proofs.Document.MergeValues
import Blueprint.Proofs.Document.Merging

/-!
# Merging in groups

Documents may be merged in steps: neighbouring documents first, and then what came out of them in
their place.  The outcome is the same in every respect, down to the signs of zeros
(`merge_regroups`).

At one key this says that the combination of some contributions speaks for them.  Another
contribution is compatible with it exactly if it is compatible with each of them
(`compatible_whole_iff`), and contributions before them are combined with it as with them
(`combination_append_iff`).  Two groups are treated by `merge_append_iff`, any number by induction.
-/

namespace Blueprint

namespace Merge

/-! ## Combinations of ordered trees -/

theorem IsJoin.ordered {parts : List Tree} {whole : Tree} (isJoin : IsJoin parts whole)
    (ordered : ∀ part ∈ parts, part.Ordered) : whole.Ordered := by
  obtain ⟨entries, rfl, ascending, bodies⟩ := isJoin
  constructor
  · exact ascending
  · rw [Tree.orderedEntries_iff]
    intro body member
    obtain ⟨⟨entry, held⟩, isEntry, rfl⟩ := List.mem_map.mp member
    have found : parts.findSome? (·.get? entry) = some held :=
      (bodies entry).symm.trans (ascending.get?_of_mem isEntry)
    obtain ⟨part, isPart, holds⟩ := List.exists_of_findSome?_eq_some found
    exact (ordered part isPart).of_get? holds

theorem Combination.ordered {policy : Policy} {parts : List Tree} {whole : Tree}
    (combination : Combination policy parts whole) (ordered : ∀ part ∈ parts, part.Ordered) :
    whole.Ordered := by
  cases policy with
  | override => exact ordered whole (List.mem_of_getLast? combination)
  | mergeNoOverride =>
      rw [Combination] at combination
      split at combination
      · exact combination.ordered ordered
      · exact ordered whole (List.mem_of_head? combination)
  | mergeUnion =>
      rw [Combination] at combination
      split at combination
      · subst combination
        rw [Tree.Ordered, Tree.orderedAll_iff]
        intro item member
        obtain ⟨part, isPart, within⟩ := List.mem_flatMap.mp member
        cases part with
        | sequence items => exact Tree.orderedAll_iff.mp (ordered _ isPart) item within
        | _ => contradiction
      · split at combination
        · exact combination.ordered ordered
        · exact ordered whole (List.mem_of_head? combination)

/-! ## A combination in place of its parts -/

section

variable {policy : Policy} {parts : List Tree} {whole : Tree} (nonempty : parts ≠ [])
  (pairwise : parts.Pairwise (Compatible policy)) (combination : Combination policy parts whole)

include nonempty pairwise combination

theorem combine_ok_iff_pairwise {incoming : Tree} (ordered : incoming.Ordered) :
    (∃ next, combine policy whole incoming = .ok next) ↔
      (parts ++ [incoming]).Pairwise (Compatible policy) := by
  have answers := combine_answers nonempty pairwise ordered combination
  cases outcome : combine policy whole incoming with
  | ok next =>
      rw [outcome] at answers
      simp [pairwise_concat pairwise answers.1]
  | error clash =>
      rw [outcome] at answers
      obtain ⟨part, member, incompatible⟩ := answers
      simp only [reduceCtorEq, exists_false, false_iff]
      intro all
      exact incompatible ((List.pairwise_append.mp all).2.2 part member incoming List.mem_cons_self)

theorem combine_eq_ok_iff {incoming : Tree} (ordered : incoming.Ordered) (next : Tree) :
    combine policy whole incoming = .ok next ↔
      (parts ++ [incoming]).Pairwise (Compatible policy) ∧
        Combination policy (parts ++ [incoming]) next := by
  have accepted : ∀ {other}, combine policy whole incoming = .ok other →
      Combination policy (parts ++ [incoming]) other := by
    intro other outcome
    have answers := combine_answers nonempty pairwise ordered combination
    rw [outcome] at answers
    exact answers.2
  have exists_iff := combine_ok_iff_pairwise nonempty pairwise combination ordered
  constructor
  · intro outcome
    exact ⟨exists_iff.mp ⟨next, outcome⟩, accepted outcome⟩
  · rintro ⟨all, combines⟩
    obtain ⟨other, outcome⟩ := exists_iff.mpr all
    rw [outcome, (accepted outcome).unique combines]

/-- What is compatible with the combination is compatible with all its parts. -/
theorem compatible_whole_iff (wholeOrdered : whole.Ordered) {other : Tree}
    (ordered : other.Ordered) :
    Compatible policy whole other ↔ ∀ part ∈ parts, Compatible policy part other := by
  have alone := combine_ok_iff_pairwise (List.cons_ne_nil whole [])
    (List.pairwise_singleton _ _) (combination_singleton policy wholeOrdered) ordered
  have together := combine_ok_iff_pairwise nonempty pairwise combination ordered
  calc Compatible policy whole other
    _ ↔ ([whole] ++ [other]).Pairwise (Compatible policy) := by simp
    _ ↔ (parts ++ [other]).Pairwise (Compatible policy) := alone.symm.trans together
    _ ↔ ∀ part ∈ parts, Compatible policy part other := by
        simp [List.pairwise_append, pairwise]

end

section

variable {policy : Policy} {first next whole : Tree} {rest others : List Tree}

/-- A join of the last contributions is joined to those before like them. -/
theorem isJoin_append_iff (isJoin : IsJoin (next :: others) whole) (result : Tree) :
    IsJoin (first :: (rest ++ [whole])) result ↔
      IsJoin (first :: (rest ++ next :: others)) result := by
  obtain ⟨entries, rfl, _, bodies⟩ := isJoin
  have same : ∀ entry, (first :: (rest ++ [.mapping entries])).findSome? (·.get? entry) =
      (first :: (rest ++ next :: others)).findSome? (·.get? entry) := by
    intro entry
    rw [← List.cons_append, ← List.cons_append, List.findSome?_append, List.findSome?_append,
      ← bodies entry]
    simp [Tree.get?, Tree.entries?]
  simp only [IsJoin, same]

/-- The combination of the last contributions is combined with those before like them. -/
theorem combination_append_iff
    (shortened : (first :: (rest ++ [whole])).Pairwise (Compatible policy))
    (pairwise : (first :: (rest ++ next :: others)).Pairwise (Compatible policy))
    (combination : Combination policy (next :: others) whole) (result : Tree) :
    Combination policy (first :: (rest ++ [whole])) result ↔
      Combination policy (first :: (rest ++ next :: others)) result := by
  by_cases combines : policy = .override
  · subst combines
    have last : (next :: others).getLast? = some whole := combination
    rw [Combination, Combination, ← List.cons_append, ← List.cons_append, List.getLast?_concat,
      List.getLast?_append, last]
    rfl
  · have nextMember : next ∈ rest ++ next :: others := by simp
    have sameShape : next.shape = first.shape :=
      (((List.pairwise_cons.mp pairwise).1 next nextMember).shape_eq combines).symm
    have itsPairwise : (next :: others).Pairwise (Compatible policy) :=
      (List.pairwise_append.mp (List.pairwise_cons.mp pairwise).2).2.1
    by_cases mapping : first.shape = .mapping
    · rw [combination_mapping_iff combines itsPairwise (sameShape.trans mapping)] at combination
      rw [combination_mapping_iff combines shortened mapping,
        combination_mapping_iff combines pairwise mapping]
      exact isJoin_append_iff combination result
    · by_cases united : policy = .mergeUnion ∧ first.shape = .sequence
      · obtain ⟨rfl, sequence⟩ := united
        have shapes := (forall_shape_iff combines pairwise .sequence).mpr sequence
        have shortShapes := (forall_shape_iff combines shortened .sequence).mpr sequence
        have itsShapes := (forall_shape_iff combines itsPairwise .sequence).mpr
          (sameShape.trans sequence)
        rw [Combination, if_pos itsShapes] at combination
        rw [Combination, Combination, if_pos shortShapes, if_pos shapes, combination]
        simp [Tree.items?]
      · rw [combination_other_iff combines shortened mapping united,
          combination_other_iff combines pairwise mapping united]

end

/-- Combinations of two groups are combined exactly as the groups are together. -/
theorem combination_pair_iff {policy : Policy} {before after : List Tree} {first second : Tree}
    (leading : before ≠ []) (nonempty : after ≠ [])
    (beforePairwise : before.Pairwise (Compatible policy))
    (afterPairwise : after.Pairwise (Compatible policy))
    (firstCombines : Combination policy before first)
    (secondCombines : Combination policy after second)
    (beforeOrdered : ∀ part ∈ before, part.Ordered) (afterOrdered : ∀ part ∈ after, part.Ordered)
    (result : Tree) :
    ([first, second].Pairwise (Compatible policy) ∧ Combination policy [first, second] result) ↔
      (before ++ after).Pairwise (Compatible policy) ∧
        Combination policy (before ++ after) result := by
  have firstOrdered := firstCombines.ordered beforeOrdered
  have secondOrdered := secondCombines.ordered afterOrdered
  have alone := combine_eq_ok_iff (List.cons_ne_nil first []) (List.pairwise_singleton _ _)
    (combination_singleton policy firstOrdered) secondOrdered result
  have together := combine_eq_ok_iff leading beforePairwise firstCombines secondOrdered result
  have samePairs : (before ++ [second]).Pairwise (Compatible policy) ↔
      (before ++ after).Pairwise (Compatible policy) := by
    have each : ∀ part ∈ before, Compatible policy part second ↔
        ∀ other ∈ after, Compatible policy part other := by
      intro part member
      have whole := compatible_whole_iff nonempty afterPairwise secondCombines secondOrdered
        (beforeOrdered part member)
      exact ⟨fun compatible other isOther => (whole.mp compatible.symm other isOther).symm,
        fun all => (whole.mpr fun other isOther => (all other isOther).symm).symm⟩
    simp only [List.pairwise_append, beforePairwise, afterPairwise, List.pairwise_singleton,
      true_and, List.mem_singleton, forall_eq]
    exact forall₂_congr each
  calc [first, second].Pairwise (Compatible policy) ∧ Combination policy [first, second] result
    _ ↔ (before ++ [second]).Pairwise (Compatible policy) ∧
          Combination policy (before ++ [second]) result := alone.symm.trans together
    _ ↔ (before ++ after).Pairwise (Compatible policy) ∧
          Combination policy (before ++ after) result := by
        obtain ⟨head, rest, rfl⟩ := List.exists_cons_of_ne_nil leading
        obtain ⟨next, others, rfl⟩ := List.exists_cons_of_ne_nil nonempty
        rw [samePairs]
        apply and_congr_right
        intro pairwise
        exact combination_append_iff (samePairs.mpr pairwise) pairwise secondCombines result

theorem Merged.eq_iff {policy : Policy} {parts : List Tree} {value : Option Tree}
    (merged : Merged policy parts value) (result : Option Tree) :
    Merged policy parts result ↔ result = value := by
  constructor
  · intro other
    exact other.unique merged
  · rintro rfl
    exact merged

/-- What was merged is merged with nothing else to itself. -/
theorem Merged.toList {policy : Policy} {parts : List Tree} {value : Option Tree}
    (merged : Merged policy parts value) (ordered : ∀ part ∈ parts, part.Ordered) :
    Merged policy value.toList value := by
  cases value with
  | none => rfl
  | some whole =>
      exact ⟨List.cons_ne_nil whole [],
        combination_singleton policy (merged.2.ordered ordered)⟩

/-- What two groups of contributions are merged to is merged exactly as the groups are together. -/
theorem merged_append_iff {policy : Policy} {before after : List Tree}
    {first second : Option Tree} (beforePairwise : before.Pairwise (Compatible policy))
    (afterPairwise : after.Pairwise (Compatible policy)) (firstMerged : Merged policy before first)
    (secondMerged : Merged policy after second) (beforeOrdered : ∀ part ∈ before, part.Ordered)
    (afterOrdered : ∀ part ∈ after, part.Ordered) (result : Option Tree) :
    ((first.toList ++ second.toList).Pairwise (Compatible policy) ∧
        Merged policy (first.toList ++ second.toList) result) ↔
      (before ++ after).Pairwise (Compatible policy) ∧ Merged policy (before ++ after) result := by
  cases first with
  | none =>
      obtain rfl : before = [] := firstMerged
      have single : second.toList.Pairwise (Compatible policy) := by cases second <;> simp
      simp [single, afterPairwise, secondMerged.eq_iff, (secondMerged.toList afterOrdered).eq_iff]
  | some whole =>
      cases second with
      | none =>
          obtain rfl : after = [] := secondMerged
          have itself : Merged policy [whole] (some whole) := firstMerged.toList beforeOrdered
          simp [beforePairwise, firstMerged.eq_iff, itself.eq_iff]
      | some other =>
          cases result with
          | none => simp [Merged, firstMerged.1]
          | some value =>
              have pair := combination_pair_iff firstMerged.1 secondMerged.1 beforePairwise
                afterPairwise firstMerged.2 secondMerged.2 beforeOrdered afterOrdered value
              simpa [Merged, firstMerged.1] using pair

/-! ## Groups of documents -/

theorem contributions_append (before after : List Source) (key : String) :
    contributions (before ++ after) key = contributions before key ++ contributions after key :=
  List.filterMap_append

theorem ordered_of_mem_contributions {sources : List Source}
    (ordered : ∀ source ∈ sources, source.tree.Ordered) (key : String) :
    ∀ part ∈ contributions sources key, part.Ordered := by
  intro part member
  obtain ⟨source, isSource, contributes⟩ := List.mem_filterMap.mp member
  rw [Source.contribution?, Option.filter_eq_some_iff] at contributes
  exact (ordered source isSource).of_get? contributes.1

theorem Filled.filter_get? {values : Dict Tree} (filled : Filled values) (key : String) :
    ((values.get? key).filter fun value => !value.isNull) = values.get? key := by
  cases held : values.get? key with
  | none => rfl
  | some value => simp [Option.filter_some, filled key value held]

/-- A document without nulls contributes all its entries. -/
theorem contributions_filled {values : Dict Tree} (filled : Filled values) (id key : String) :
    contributions [⟨id, .mapping values.entries⟩] key = (values.get? key).toList := by
  have contributes : Source.contribution? ⟨id, .mapping values.entries⟩ key = values.get? key :=
    filled.filter_get? key
  rw [contributions, List.filterMap_cons, contributes]
  cases values.get? key <;> rfl

end Merge

open Merge

variable {table : PolicyTable}

theorem merged_at_key {sources : List Source} {values : Dict Tree}
    (ordered : ∀ source ∈ sources, source.tree.Ordered)
    (accepted : merge sources table = .ok (.mapping values.entries)) :
    (∀ source ∈ sources, source.Mergeable) ∧
      ∀ key, (contributions sources key).Pairwise (Compatible (table.policyFor key)) ∧
        Merged (table.policyFor key) (contributions sources key) (values.get? key) := by
  obtain ⟨mergeable, others, same, atKey⟩ := (merge_eq_ok_iff ordered).mp accepted
  obtain rfl : values = others := Dict.ext (Tree.mapping.inj same)
  exact ⟨mergeable, atKey⟩

theorem merge_ordered {sources : List Source} {merged : Tree}
    (ordered : ∀ source ∈ sources, source.tree.Ordered)
    (accepted : merge sources table = .ok merged) : merged.Ordered := by
  obtain ⟨_, values, rfl, atKey⟩ := (merge_eq_ok_iff ordered).mp accepted
  constructor
  · exact values.ascending
  · rw [Tree.orderedEntries_iff]
    intro value member
    obtain ⟨key, held⟩ := Dict.mem_values_iff.mp member
    have merged := (atKey key).2
    rw [held] at merged
    exact merged.2.ordered (ordered_of_mem_contributions ordered key)

/-- What comes out of a merge is merged to itself. -/
theorem merge_merged {sources : List Source} {merged : Tree}
    (accepted : merge sources table = .ok merged) (id : String) :
    merge [⟨id, merged⟩] table = .ok merged := by
  obtain ⟨values, rfl, filled⟩ := merge_filled accepted
  obtain ⟨kept, single, same⟩ := merge_single id values table
  have unchanged : kept = values := by
    apply Dict.ext_get?
    intro key
    rw [same, filled.filter_get?]
  rw [single, unchanged]

section

variable {before after : List Source} {merged : Tree}
  (beforeOrdered : ∀ source ∈ before, source.tree.Ordered)
  (afterOrdered : ∀ source ∈ after, source.tree.Ordered) (first second : String)

include beforeOrdered afterOrdered

/-- Each group of documents that merge can be merged by itself. -/
theorem exists_merge_of_append (accepted : merge (before ++ after) table = .ok merged) :
    (∃ left, merge before table = .ok left) ∧ ∃ right, merge after table = .ok right := by
  have ordered := List.forall_mem_append.mpr ⟨beforeOrdered, afterOrdered⟩
  obtain ⟨mergeable, pairwise⟩ := (merge_ok_iff_pairwise ordered).mp ⟨merged, accepted⟩
  simp only [contributions_append, List.pairwise_append] at pairwise
  rw [merge_ok_iff_pairwise beforeOrdered, merge_ok_iff_pairwise afterOrdered]
  rw [List.forall_mem_append] at mergeable
  exact ⟨⟨mergeable.1, fun key => (pairwise key).1⟩, mergeable.2, fun key => (pairwise key).2.1⟩

/-- Once groups are merged, the outcomes are merged exactly as all their documents. -/
theorem merge_pair_iff {left right : Tree} (isLeft : merge before table = .ok left)
    (isRight : merge after table = .ok right) :
    merge [⟨first, left⟩, ⟨second, right⟩] table = .ok merged ↔
      merge (before ++ after) table = .ok merged := by
  have ordered := List.forall_mem_append.mpr ⟨beforeOrdered, afterOrdered⟩
  have pairOrdered : ∀ source ∈ [(⟨first, left⟩ : Source), ⟨second, right⟩],
      source.tree.Ordered := by
    simp [merge_ordered beforeOrdered isLeft, merge_ordered afterOrdered isRight]
  obtain ⟨lefts, rfl, leftFilled⟩ := merge_filled isLeft
  obtain ⟨rights, rfl, rightFilled⟩ := merge_filled isRight
  obtain ⟨leftMergeable, leftAtKey⟩ := merged_at_key beforeOrdered isLeft
  obtain ⟨rightMergeable, rightAtKey⟩ := merged_at_key afterOrdered isRight
  have mergeable := List.forall_mem_append.mpr ⟨leftMergeable, rightMergeable⟩
  have pairMergeable : ∀ source ∈ [(⟨first, .mapping lefts.entries⟩ : Source),
      ⟨second, .mapping rights.entries⟩], source.Mergeable := by
    simp [Source.Mergeable, Tree.shape]
  have pair : ∀ key, contributions [(⟨first, .mapping lefts.entries⟩ : Source),
      ⟨second, .mapping rights.entries⟩] key =
        (lefts.get? key).toList ++ (rights.get? key).toList := by
    intro key
    rw [← contributions_filled leftFilled first, ← contributions_filled rightFilled second,
      ← contributions_append]
    rfl
  have atKey : ∀ key result, _ ↔ _ := fun key result =>
    merged_append_iff (leftAtKey key).1 (rightAtKey key).1 (leftAtKey key).2 (rightAtKey key).2
      (ordered_of_mem_contributions beforeOrdered key)
      (ordered_of_mem_contributions afterOrdered key) result
  rw [merge_eq_ok_iff pairOrdered, merge_eq_ok_iff ordered]
  simp only [pair, contributions_append, atKey]
  exact and_congr_left fun _ => iff_of_true pairMergeable mergeable

/-- Documents in two groups are merged exactly as what the groups are merged to. -/
theorem merge_append_iff :
    merge (before ++ after) table = .ok merged ↔
      ∃ left right, merge before table = .ok left ∧ merge after table = .ok right ∧
        merge [⟨first, left⟩, ⟨second, right⟩] table = .ok merged := by
  constructor
  · intro accepted
    obtain ⟨⟨left, isLeft⟩, right, isRight⟩ :=
      exists_merge_of_append beforeOrdered afterOrdered accepted
    exact ⟨left, right, isLeft, isRight,
      (merge_pair_iff beforeOrdered afterOrdered first second isLeft isRight).mpr accepted⟩
  · rintro ⟨left, right, isLeft, isRight, accepted⟩
    exact (merge_pair_iff beforeOrdered afterOrdered first second isLeft isRight).mp accepted

end

/-- Merge each group of documents under the name of the group. -/
def mergeEach (table : PolicyTable) :
    List (String × List Source) → Except MergeError (List Source)
  | [] => .ok []
  | (name, group) :: rest =>
      match merge group table with
      | .error cause => .error cause
      | .ok merged =>
          match mergeEach table rest with
          | .error cause => .error cause
          | .ok others => .ok (⟨name, merged⟩ :: others)

/-- Merge groups of documents, and then what they were merged to. -/
def mergeGroups (groups : List (String × List Source)) (table : PolicyTable) :
    Except MergeError Tree :=
  match mergeEach table groups with
  | .error cause => .error cause
  | .ok sources => merge sources table

theorem mergeGroups_eq_ok_iff {groups : List (String × List Source)} {merged : Tree} :
    mergeGroups groups table = .ok merged ↔
      ∃ sources, mergeEach table groups = .ok sources ∧ merge sources table = .ok merged := by
  rw [mergeGroups]
  cases mergeEach table groups <;> simp

theorem mergeEach_cons_eq_ok_iff {name : String} {group : List Source}
    {rest : List (String × List Source)} {sources : List Source} :
    mergeEach table ((name, group) :: rest) = .ok sources ↔
      ∃ merged others, merge group table = .ok merged ∧ mergeEach table rest = .ok others ∧
        sources = ⟨name, merged⟩ :: others := by
  rw [mergeEach]
  cases merge group table with
  | error cause => simp
  | ok merged => cases mergeEach table rest <;> simp [eq_comm]

/-- Documents at the front may be merged first, and what comes out be put in their place. -/
theorem merge_front_iff {before after : List Source} {merged : Tree}
    (beforeOrdered : ∀ source ∈ before, source.tree.Ordered)
    (afterOrdered : ∀ source ∈ after, source.tree.Ordered) (name : String) :
    merge (before ++ after) table = .ok merged ↔
      ∃ earlier, merge before table = .ok earlier ∧
        merge (⟨name, earlier⟩ :: after) table = .ok merged := by
  have itself : ∀ {earlier}, merge before table = .ok earlier →
      (merge (⟨name, earlier⟩ :: after) table = .ok merged ↔
        ∃ right, merge after table = .ok right ∧
          merge [⟨name, earlier⟩, ⟨name, right⟩] table = .ok merged) := by
    intro earlier isEarlier
    have frontOrdered : ∀ source ∈ [(⟨name, earlier⟩ : Source)], source.tree.Ordered := by
      simp [merge_ordered beforeOrdered isEarlier]
    rw [← List.singleton_append, merge_append_iff frontOrdered afterOrdered name name]
    simp [merge_merged isEarlier]
  rw [merge_append_iff beforeOrdered afterOrdered name name]
  constructor
  · rintro ⟨earlier, right, isEarlier, isRight, accepted⟩
    exact ⟨earlier, isEarlier, (itself isEarlier).mpr ⟨right, isRight, accepted⟩⟩
  · rintro ⟨earlier, isEarlier, accepted⟩
    obtain ⟨right, isRight, pair⟩ := (itself isEarlier).mp accepted
    exact ⟨earlier, right, isEarlier, isRight, pair⟩

theorem mergeEach_ordered {groups : List (String × List Source)} {sources : List Source}
    (ordered : ∀ source ∈ groups.flatMap Prod.snd, source.tree.Ordered)
    (accepted : mergeEach table groups = .ok sources) :
    ∀ source ∈ sources, source.tree.Ordered := by
  induction groups generalizing sources with
  | nil =>
      cases accepted
      simp
  | cons group rest ih =>
      rw [List.flatMap_cons, List.forall_mem_append] at ordered
      obtain ⟨merged, others, isMerged, isOthers, rfl⟩ := mergeEach_cons_eq_ok_iff.mp accepted
      exact List.forall_mem_cons.mpr ⟨merge_ordered ordered.1 isMerged, ih ordered.2 isOthers⟩

/-- By induction on the groups: the first one and the outcomes of the others are two groups. -/
theorem mergeGroups_eq_ok_iff_merge {groups : List (String × List Source)} {merged : Tree}
    (ordered : ∀ source ∈ groups.flatMap Prod.snd, source.tree.Ordered) :
    mergeGroups groups table = .ok merged ↔ merge (groups.flatMap Prod.snd) table = .ok merged := by
  induction groups generalizing merged with
  | nil => exact Iff.rfl
  | cons head rest ih =>
      obtain ⟨name, group⟩ := head
      rw [List.flatMap_cons, List.forall_mem_append] at ordered
      obtain ⟨groupOrdered, restOrdered⟩ := ordered
      rw [List.flatMap_cons]
      calc mergeGroups ((name, group) :: rest) table = .ok merged
        _ ↔ ∃ others, mergeEach table rest = .ok others ∧
              ∃ first, merge group table = .ok first ∧
                merge (⟨name, first⟩ :: others) table = .ok merged := by
            simp only [mergeGroups_eq_ok_iff, mergeEach_cons_eq_ok_iff]
            grind
        _ ↔ ∃ others, mergeEach table rest = .ok others ∧
              ∃ first second, merge group table = .ok first ∧ merge others table = .ok second ∧
                merge [⟨name, first⟩, ⟨name, second⟩] table = .ok merged := by
            apply exists_congr
            intro others
            apply and_congr_right
            intro isOthers
            have othersOrdered := mergeEach_ordered restOrdered isOthers
            exact (merge_front_iff groupOrdered othersOrdered name).symm.trans
              (merge_append_iff groupOrdered othersOrdered name name)
        _ ↔ ∃ first second, merge group table = .ok first ∧
              mergeGroups rest table = .ok second ∧
                merge [⟨name, first⟩, ⟨name, second⟩] table = .ok merged := by
            simp only [mergeGroups_eq_ok_iff]
            grind
        _ ↔ merge (group ++ rest.flatMap Prod.snd) table = .ok merged := by
            simp only [ih restOrdered]
            exact (merge_append_iff groupOrdered restOrdered name name).symm

/-- Documents may be merged in groups of neighbours, each under any name, without a difference to
what is accepted or to the outcome.  In particular the first ones may be merged beforehand.
Documents list the entries of a mapping by ascending keys, as readers do. -/
theorem merge_regroups (table : PolicyTable) (sources : List Source)
    (ordered : ∀ source ∈ sources, source.tree.Ordered) (merged : Tree) :
    (∀ groups : List (String × List Source), groups.flatMap Prod.snd = sources →
      (merge sources table = .ok merged ↔ mergeGroups groups table = .ok merged)) ∧
    ∀ before after name, before ++ after = sources →
      (merge sources table = .ok merged ↔
        ∃ earlier, merge before table = .ok earlier ∧
          merge (⟨name, earlier⟩ :: after) table = .ok merged) := by
  constructor
  · rintro groups rfl
    exact (mergeGroups_eq_ok_iff_merge ordered).symm
  · rintro before after name rfl
    rw [List.forall_mem_append] at ordered
    exact merge_front_iff ordered.1 ordered.2 name

/-- Three documents that share a type and a list, of which the last two are merged beforehand.  The
null of the second one is gone by then, and the zero of the first one is kept in the end. -/
theorem mergeGroups_sharedType :
    let first : Source := ⟨"first", .mapping [("tags", .sequence [.string "x"]),
      ("types", .mapping [("a", .number (.float (.zero false)))])]⟩
    let second : Source := ⟨"second", .mapping [("tags", .null),
      ("types", .mapping [("a", .number (.float (.zero true)))])]⟩
    let third : Source := ⟨"third", .mapping [("tags", .sequence [.string "x"]),
      ("types", .mapping [("b", .null)])]⟩
    let table := (PolicyTable.empty.set "tags" .mergeUnion).set "types" .mergeNoOverride
    mergeGroups [("start", [first]), ("end", [second, third])] table =
        .ok (.mapping [("tags", .sequence [.string "x", .string "x"]),
          ("types", .mapping [("a", .number (.float (.zero false))), ("b", .null)])]) ∧
      ∃ earlier, merge [first, second] table = .ok earlier ∧
        merge [⟨"start", earlier⟩, third] table =
          mergeGroups [("start", [first]), ("end", [second, third])] table := by
  intro first second third table
  have ordered : ∀ source ∈ [first, second, third], source.tree.Ordered := by
    have names : "tags" < "types" := by decide
    simp only [first, second, third, Tree.Ordered, Tree.OrderedAll, Tree.OrderedEntries,
      Entries.Ascending, List.pairwise_cons, List.forall_mem_cons]
    simp [names]
  obtain ⟨inGroups, fromFront⟩ := merge_regroups table [first, second, third] ordered
    (.mapping [("tags", .sequence [.string "x", .string "x"]),
      ("types", .mapping [("a", .number (.float (.zero false))), ("b", .null)])])
  have grouped := (inGroups [("start", [first]), ("end", [second, third])] rfl).mp rfl
  obtain ⟨earlier, isEarlier, accepted⟩ := (fromFront [first, second] [third] "start" rfl).mp rfl
  exact ⟨grouped, earlier, isEarlier, accepted.trans grouped.symm⟩

end Blueprint
