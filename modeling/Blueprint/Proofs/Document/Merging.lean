import Blueprint.Proofs.Document.Contribution

/-!
# What a merge computes

A merge is one pass over documents and their keys.  `Tracks` is the invariant of
this pass: the slot of a key stands for all contributions that were made to the
key so far.  `merge_exact` reads off the outcome from the contributions alone:
documents merge exactly if those to each key are pairwise compatible, and then
each key has the combination of its contributions.
-/

namespace Blueprint

namespace Source

/-- Only mappings and nulls are merged. -/
def Mergeable (source : Source) : Prop :=
  source.tree.shape = .mapping ∨ source.tree.shape = .null

/-- What a document contributes to a key: its value there unless that is null. -/
def contribution? (source : Source) (key : String) : Option Tree :=
  (source.tree.get? key).filter fun value => !value.isNull

end Source

namespace Merge

/-- The contributions of documents to a key, in order. -/
def contributions (sources : List Source) (key : String) : List Tree :=
  sources.filterMap fun source => source.contribution? key

/-- The contributions to a key with the documents that make them. -/
def signedContributions (sources : List Source) (key : String) : List (String × Tree) :=
  sources.filterMap fun source => (source.contribution? key).map fun value => (source.id, value)

/-- The document that declares an entry first, and its contribution. -/
def declarer? (signed : List (String × Tree)) (entry : String) : Option (String × Tree) :=
  signed.find? fun contribution => (contribution.2.get? entry).isSome

/-- A slot that stands for contributions which are pairwise compatible. -/
structure Slot.StandsFor (slot : Slot) (policy : Policy) (signed : List (String × Tree)) :
    Prop where
  documents : slot.documents = signed.map Prod.fst
  owners : policy = .mergeNoOverride →
    ∀ entry, slot.owners.get? entry = (declarer? signed entry).map Prod.fst
  nonempty : signed ≠ []
  pairwise : (signed.map Prod.snd).Pairwise (Compatible policy)
  combination : Combination policy (signed.map Prod.snd) slot.value

/-- The invariant of a merge: the slot of each key stands for all contributions to
the key, and a key without contributions has no slot. -/
def Tracks (table : PolicyTable) (signed : String → List (String × Tree)) (state : Dict Slot) :
    Prop :=
  ∀ key, match state.get? key with
    | none => signed key = []
    | some slot => slot.StandsFor (table.policyFor key) (signed key)

/-- Contributions to a key that no slot can stand for. -/
def Clash (table : PolicyTable) (signed : String → List (String × Tree)) (key : String) : Prop :=
  ¬ ((signed key).map Prod.snd).Pairwise (Compatible (table.policyFor key))

/-- What a part of a merge answers when the contributions up to its end are given:
a state for them, or a clash among them. -/
def TrackAnswers (table : PolicyTable) (signed : String → List (String × Tree)) :
    Except MergeError (Dict Slot) → Prop
  | .ok state => Tracks table signed state
  | .error _ => ∃ key, Clash table signed key

theorem Tracks.pairwise {table : PolicyTable} {signed : String → List (String × Tree)}
    {state : Dict Slot} (tracks : Tracks table signed state) (key : String) :
    ((signed key).map Prod.snd).Pairwise (Compatible (table.policyFor key)) := by
  have atKey := tracks key
  cases held : state.get? key with
  | none =>
      rw [held] at atKey
      rw [show signed key = [] from atKey]
      exact List.Pairwise.nil
  | some slot =>
      rw [held] at atKey
      exact atKey.pairwise

/-- Contributions that clash still do so when more are made. -/
theorem Clash.mono {table : PolicyTable} {signed longer : String → List (String × Tree)}
    {key : String} (clash : Clash table signed key) (begins : signed key <+: longer key) :
    Clash table longer key := by
  intro pairwise
  exact clash (pairwise.sublist (begins.sublist.map Prod.snd))

/-! ## Owners of entries -/

theorem get?_claim (document : String) (owners : Dict String) (declared : Tree)
    {added : Entries Tree} (ascending : added.Ascending) (entry : String) :
    (claim .mergeNoOverride document owners declared (.mapping added)).get? entry =
      if (declared.get? entry).isNone then
        ((Entries.get? added entry).map fun _ => document).or (owners.get? entry)
      else owners.get? entry := by
  have fresh := ascending.filterKeys fun entry => (declared.get? entry).isNone
  have found := (fresh.mapValues fun _ _ => document).get?_insertAll owners.entries entry
  rw [Entries.get?_mapValues, Entries.get?_filterKeys] at found
  refine found.trans ?_
  split <;> rfl

theorem declarer?_append (before after : List (String × Tree)) (entry : String) :
    declarer? (before ++ after) entry = (declarer? before entry).or (declarer? after entry) :=
  List.find?_append

theorem declarer?_eq_none_iff {signed : List (String × Tree)} {entry : String} :
    declarer? signed entry = none ↔ (signed.map Prod.snd).findSome? (·.get? entry) = none := by
  unfold declarer?
  rw [List.find?_eq_none, List.findSome?_eq_none_iff, List.forall_mem_map]
  simp

/-- The first to declare an entry is recorded as its owner, if a value holds the entries that
were declared before. -/
theorem claim_records {signed : List (String × Tree)} {owners : Dict String} {declared value : Tree}
    (recorded : ∀ entry, owners.get? entry = (declarer? signed entry).map Prod.fst)
    (held : ∀ entry, declared.get? entry = none ↔ declarer? signed entry = none)
    (ordered : value.Ordered) (document entry : String) :
    (claim .mergeNoOverride document owners declared value).get? entry =
      (declarer? (signed ++ [(document, value)]) entry).map Prod.fst := by
  rw [declarer?_append]
  cases value with
  | mapping added =>
      have isNew : declarer? [(document, .mapping added)] entry =
          (Entries.get? added entry).map fun _ => (document, .mapping added) := by
        unfold declarer?
        rw [List.find?_singleton]
        cases found : Entries.get? added entry <;> simp [Tree.get?, Tree.entries?, found]
      rw [get?_claim document owners declared ordered.1, recorded, isNew]
      cases first : declarer? signed entry with
      | none =>
          rw [(held entry).mpr first]
          cases Entries.get? added entry <;> rfl
      | some contribution =>
          have isHeld : declared.get? entry ≠ none := by
            rw [ne_eq, held, first]
            simp
          rw [Option.isNone_eq_false_iff.mpr (Option.isSome_iff_ne_none.mpr isHeld)]
          rfl
  | _ =>
      refine (recorded entry).trans ?_
      cases declarer? signed entry <;> rfl

/-! ## One contribution -/

/-- The contribution that an entry makes to a key. -/
def entryContribution (document name : String) (value : Tree) (key : String) :
    List (String × Tree) :=
  if name = key ∧ value.isNull = false then [(document, value)] else []

/-- A change of one slot that accounts for a contribution to its key. -/
theorem Tracks.insert {table : PolicyTable} {signed : String → List (String × Tree)}
    {state : Dict Slot} {document key : String} {value : Tree} {slot : Slot}
    (tracks : Tracks table signed state) (given : value.isNull = false)
    (stands : slot.StandsFor (table.policyFor key) (signed key ++ [(document, value)])) :
    Tracks table (fun other => signed other ++ entryContribution document key value other)
      (state.insert key slot) := by
  intro other
  rw [Dict.get?_insert]
  by_cases here : key = other
  · subst here
    simpa [entryContribution, given] using stands
  · simpa [entryContribution, here] using tracks other

/-- The step of a merge. -/
theorem contribute_answers {table : PolicyTable} {signed : String → List (String × Tree)}
    {state : Dict Slot} (tracks : Tracks table signed state) (document key : String)
    {value : Tree} (ordered : value.Ordered) :
    TrackAnswers table (fun other => signed other ++ entryContribution document key value other)
      (contribute table document state key value) := by
  have atKey := tracks key
  unfold contribute
  by_cases null : value.isNull = true
  · rw [if_pos null]
    intro other
    simpa [entryContribution, null] using tracks other
  · rw [if_neg null]
    have given : value.isNull = false := by simpa using null
    cases held : state.get? key with
    | none =>
        rw [held] at atKey
        have first : signed key = [] := atKey
        apply tracks.insert given
        rw [first]
        constructor
        case documents => rfl
        case owners =>
          intro strict
          rw [strict]
          exact claim_records (fun _ => rfl) (by simp [declarer?, Tree.get?, Tree.entries?])
            ordered document
        case nonempty => simp
        case pairwise => exact List.pairwise_singleton _ _
        case combination => exact combination_singleton _ ordered
    | some slot =>
        rw [held] at atKey
        have nonempty : (signed key).map Prod.snd ≠ [] := by simpa using atKey.nonempty
        have answers := combine_answers nonempty atKey.pairwise ordered atKey.combination
        dsimp only
        cases outcome : combine (table.policyFor key) slot.value value with
        | ok whole =>
            rw [outcome] at answers
            rcases answers with ⟨compatible, combination⟩
            apply tracks.insert given
            constructor
            case documents => simp [Slot.extend, atKey.documents]
            case owners =>
              intro strict
              have combines : table.policyFor key ≠ .override := by simp [strict]
              rw [strict]
              apply claim_records (atKey.owners strict) _ ordered document
              intro entry
              rw [declarer?_eq_none_iff,
                atKey.combination.get?_eq combines nonempty atKey.pairwise entry]
            case nonempty => simp
            case pairwise =>
              rw [List.map_append]
              exact pairwise_concat atKey.pairwise compatible
            case combination =>
              rw [List.map_append]
              exact combination
        | error clash =>
            rw [outcome] at answers
            rcases answers with ⟨part, member, incompatible⟩
            exists key
            intro pairwise
            simp only [entryContribution, given, and_self, if_true, List.map_append,
              List.map_cons, List.map_nil] at pairwise
            apply incompatible
            exact (List.pairwise_append.mp pairwise).2.2 part member value List.mem_cons_self

/-! ## One document -/

/-- The contribution that one of some entries makes to a key. -/
def entriesContribution (document : String) (entries : Entries Tree) (key : String) :
    List (String × Tree) :=
  entries.flatMap fun entry => entryContribution document entry.1 entry.2 key

/-- The run over the entries of a document. -/
theorem contributeAll_answers {table : PolicyTable} {signed : String → List (String × Tree)}
    {state : Dict Slot} (tracks : Tracks table signed state) (document : String)
    {entries : Entries Tree} (ordered : Tree.OrderedEntries entries) :
    TrackAnswers table (fun key => signed key ++ entriesContribution document entries key)
      (contributeAll table document state entries) := by
  induction entries generalizing signed state with
  | nil => simpa [TrackAnswers, contributeAll, entriesContribution] using tracks
  | cons head rest ih =>
      rcases head with ⟨name, value⟩
      have step := contribute_answers tracks document name ordered.1
      unfold contributeAll
      cases outcome : contribute table document state name value with
      | ok next =>
          rw [outcome] at step
          have later := ih step ordered.2
          simpa [entriesContribution, List.append_assoc] using later
      | error cause =>
          rw [outcome] at step
          rcases step with ⟨key, clash⟩
          exists key
          apply clash.mono
          simp [entriesContribution, List.prefix_append]

/-- Ascending keys are distinct: a key gets its value, unless that is null. -/
theorem entriesContribution_eq (document : String) {entries : Entries Tree}
    (ascending : Entries.Ascending entries) (key : String) :
    entriesContribution document entries key =
      (((Entries.get? entries key).filter fun value => !value.isNull).map
        fun value => (document, value)).toList := by
  induction entries with
  | nil => rfl
  | cons head rest ih =>
      rcases head with ⟨name, value⟩
      have later := ih (List.pairwise_cons.mp ascending).2
      rw [Entries.get?_cons]
      unfold entriesContribution at later ⊢
      rw [List.flatMap_cons, later]
      by_cases here : name = key
      · subst here
        cases null : value.isNull <;>
          simp [entryContribution, ascending.get?_rest, Option.filter, null]
      · simp [entryContribution, here]

theorem entriesContribution_contribution? {source : Source} {entries : Entries Tree}
    (isMapping : source.tree = .mapping entries) (ascending : Entries.Ascending entries)
    (key : String) : entriesContribution source.id entries key =
      ((source.contribution? key).map fun value => (source.id, value)).toList := by
  rw [entriesContribution_eq source.id ascending, Source.contribution?, isMapping]
  rfl

/-! ## All documents -/

theorem signedContributions_append (before after : List Source) (key : String) :
    signedContributions (before ++ after) key =
      signedContributions before key ++ signedContributions after key :=
  List.filterMap_append

theorem signedContributions_singleton (source : Source) (key : String) :
    signedContributions [source] key =
      ((source.contribution? key).map fun value => (source.id, value)).toList := by
  unfold signedContributions
  rw [List.filterMap_cons]
  cases (source.contribution? key).map fun value => (source.id, value) <;> rfl

theorem map_snd_signedContributions (sources : List Source) (key : String) :
    (signedContributions sources key).map Prod.snd = contributions sources key := by
  unfold signedContributions contributions
  rw [List.map_filterMap]
  congr 1
  funext source
  rw [Option.map_map]
  exact Option.map_id'

/-- The step of a merge at a document. -/
theorem addSource_answers {table : PolicyTable} {before : List Source} {state : Dict Slot}
    (tracks : Tracks table (signedContributions before) state) {source : Source}
    (ordered : source.tree.Ordered) (mergeable : source.Mergeable) :
    TrackAnswers table (signedContributions (before ++ [source]))
      (addSource table state source) := by
  have longer : signedContributions (before ++ [source]) = fun key =>
      signedContributions before key ++
        ((source.contribution? key).map fun value => (source.id, value)).toList := by
    funext key
    rw [signedContributions_append, signedContributions_singleton]
  rw [longer]
  rcases mergeable with mapping | null
  · obtain ⟨entries, isMapping⟩ := eq_mapping_of_shape mapping
    rw [isMapping] at ordered
    have run := contributeAll_answers tracks source.id ordered.2
    simp only [entriesContribution_contribution? isMapping ordered.1] at run
    rw [addSource, isMapping]
    exact run
  · have isNull := eq_null_of_shape null
    rw [addSource, isNull]
    intro key
    simpa [Source.contribution?, isNull, Tree.get?, Tree.entries?] using tracks key

/-- A document that is neither a mapping nor null is rejected whatever the state. -/
theorem addSource_unmergeable {source : Source} (unmergeable : ¬ source.Mergeable)
    (table : PolicyTable) (state : Dict Slot) :
    addSource table state source = .error (.notAMapping source.id source.tree.shape) := by
  unfold addSource
  split
  · next entries isMapping =>
      have mapping : source.tree.shape = .mapping := by
        rw [isMapping]
        rfl
      exact absurd (Or.inl mapping) unmergeable
  · next isNull =>
      have null : source.tree.shape = .null := by
        rw [isNull]
        rfl
      exact absurd (Or.inr null) unmergeable
  · rfl

/-- The run over all documents: a state that tracks them, or a reason to reject them. -/
theorem addSources_answers {table : PolicyTable} {before : List Source} {state : Dict Slot}
    (tracks : Tracks table (signedContributions before) state) {sources : List Source}
    (ordered : ∀ source ∈ sources, source.tree.Ordered) :
    match addSources table state sources with
    | .ok final => (∀ source ∈ sources, source.Mergeable) ∧
        Tracks table (signedContributions (before ++ sources)) final
    | .error _ => (∃ source ∈ sources, ¬ source.Mergeable) ∨
        ∃ key, Clash table (signedContributions (before ++ sources)) key := by
  induction sources generalizing before state with
  | nil =>
      rw [List.append_nil]
      exact ⟨by simp, tracks⟩
  | cons source rest ih =>
      have sourceOrdered := ordered source List.mem_cons_self
      have restOrdered : ∀ other ∈ rest, other.tree.Ordered :=
        fun other member => ordered other (List.mem_cons_of_mem source member)
      have regroup : before ++ source :: rest = before ++ [source] ++ rest := by simp
      unfold addSources
      by_cases mergeable : source.Mergeable
      · have step := addSource_answers tracks sourceOrdered mergeable
        cases outcome : addSource table state source with
        | ok next =>
            rw [outcome] at step
            have later := ih step restOrdered
            dsimp only
            rw [regroup]
            cases final : addSources table next rest with
            | ok state =>
                rw [final] at later
                exact ⟨List.forall_mem_cons.mpr ⟨mergeable, later.1⟩, later.2⟩
            | error cause =>
                rw [final] at later
                rcases later with ⟨other, member, unmergeable⟩ | clash
                · exact Or.inl ⟨other, List.mem_cons_of_mem source member, unmergeable⟩
                · exact Or.inr clash
        | error cause =>
            rw [outcome] at step
            rcases step with ⟨key, clash⟩
            have begins : signedContributions (before ++ [source]) key <+:
                signedContributions (before ++ source :: rest) key := by
              rw [regroup, signedContributions_append _ rest]
              exact List.prefix_append _ _
            exact Or.inr ⟨key, clash.mono begins⟩
      · rw [addSource_unmergeable mergeable]
        exact Or.inl ⟨source, List.mem_cons_self, mergeable⟩

/-- Documents are added in order, those at the end to the state of those before. -/
theorem addSources_append (table : PolicyTable) (state : Dict Slot) (before after : List Source) :
    addSources table state (before ++ after) =
      match addSources table state before with
      | .error cause => .error cause
      | .ok next => addSources table next after := by
  induction before generalizing state with
  | nil => rfl
  | cons source rest ih =>
      rw [List.cons_append, addSources, addSources]
      cases addSource table state source with
      | error cause => rfl
      | ok next => exact ih next

/-- What a merge makes of the contributions to a key. -/
def Merged (policy : Policy) (parts : List Tree) : Option Tree → Prop
  | none => parts = []
  | some value => parts ≠ [] ∧ Combination policy parts value

theorem Merged.unique {policy : Policy} {parts : List Tree} {value other : Option Tree}
    (merged : Merged policy parts value) (otherMerged : Merged policy parts other) :
    value = other := by
  cases value with
  | none =>
      cases other with
      | none => rfl
      | some _ => exact absurd merged otherMerged.1
  | some whole =>
      cases other with
      | none => exact absurd otherMerged merged.1
      | some _ => exact congrArg some (merged.2.unique otherMerged.2)

/-- The result of a merge holds for each key what its slot stands for. -/
theorem result_merged {table : PolicyTable} {sources : List Source} {state : Dict Slot}
    (tracks : Tracks table (signedContributions sources) state) :
    ∃ entries, result state = .mapping entries ∧ Entries.Ascending entries ∧
      ∀ key, Merged (table.policyFor key) (contributions sources key)
        (Entries.get? entries key) := by
  have merged : ∀ key, Merged (table.policyFor key) (contributions sources key)
      (Entries.get? (state.mapValues fun _ slot => slot.value).entries key) := by
    intro key
    have atKey := tracks key
    have found := Dict.get?_mapValues (fun _ slot => slot.value) state key
    unfold Dict.get? at found
    rw [found, ← map_snd_signedContributions]
    change match state.get? key with
      | none => signedContributions sources key = []
      | some slot => slot.StandsFor (table.policyFor key) (signedContributions sources key) at atKey
    unfold Dict.get? at atKey
    cases held : Entries.get? state.entries key with
    | none =>
        rw [held] at atKey
        have none : signedContributions sources key = [] := atKey
        simp [Merged, none]
    | some slot =>
        rw [held] at atKey
        exact ⟨by simpa using atKey.nonempty, atKey.combination⟩
  exact ⟨_, rfl, (state.mapValues fun _ slot => slot.value).ascending, merged⟩

/-- The run over all documents from the start. -/
theorem merge_answers (table : PolicyTable) {sources : List Source}
    (ordered : ∀ source ∈ sources, source.tree.Ordered) :
    match merge sources table with
    | .ok merged => (∀ source ∈ sources, source.Mergeable) ∧
        ∃ state, Tracks table (signedContributions sources) state ∧ merged = result state
    | .error _ => (∃ source ∈ sources, ¬ source.Mergeable) ∨
        ∃ key, Clash table (signedContributions sources) key := by
  have start : Tracks table (signedContributions []) ∅ := fun key => rfl
  have run := addSources_answers start ordered
  rw [List.nil_append] at run
  unfold merge
  cases outcome : addSources table ∅ sources with
  | ok state =>
      rw [outcome] at run
      exact ⟨run.1, state, run.2, rfl⟩
  | error cause =>
      rw [outcome] at run
      exact run

theorem merge_ok_iff_pairwise {table : PolicyTable} {sources : List Source}
    (ordered : ∀ source ∈ sources, source.tree.Ordered) :
    (∃ merged, merge sources table = .ok merged) ↔
      (∀ source ∈ sources, source.Mergeable) ∧
        ∀ key, (contributions sources key).Pairwise (Compatible (table.policyFor key)) := by
  have answers := merge_answers table ordered
  constructor
  · rintro ⟨merged, succeeds⟩
    rw [succeeds] at answers
    rcases answers with ⟨mergeable, state, tracks, _⟩
    constructor
    · exact mergeable
    · intro key
      rw [← map_snd_signedContributions]
      exact tracks.pairwise key
  · rintro ⟨mergeable, pairwise⟩
    cases outcome : merge sources table with
    | ok merged => exact ⟨merged, rfl⟩
    | error cause =>
        rw [outcome] at answers
        rcases answers with ⟨source, member, unmergeable⟩ | ⟨key, clash⟩
        · exact absurd (mergeable source member) unmergeable
        · unfold Clash at clash
          rw [map_snd_signedContributions] at clash
          exact absurd (pairwise key) clash

/-- Documents merge to the combinations of their contributions and to nothing else. -/
theorem merge_eq_ok_iff {table : PolicyTable} {sources : List Source}
    (ordered : ∀ source ∈ sources, source.tree.Ordered) {merged : Tree} :
    merge sources table = .ok merged ↔
      (∀ source ∈ sources, source.Mergeable) ∧
        ∃ values : Dict Tree, merged = .mapping values.entries ∧
          ∀ key, (contributions sources key).Pairwise (Compatible (table.policyFor key)) ∧
            Merged (table.policyFor key) (contributions sources key) (values.get? key) := by
  have outcome : ∀ {tree}, merge sources table = .ok tree →
      ∃ values : Dict Tree, tree = .mapping values.entries ∧
        ∀ key, Merged (table.policyFor key) (contributions sources key) (values.get? key) := by
    intro tree succeeds
    have answers := merge_answers table ordered
    rw [succeeds] at answers
    obtain ⟨_, state, tracks, rfl⟩ := answers
    obtain ⟨entries, same, ascending, atKey⟩ := result_merged tracks
    exact ⟨⟨entries, ascending⟩, same, atKey⟩
  constructor
  · intro succeeds
    obtain ⟨mergeable, pairwise⟩ := (merge_ok_iff_pairwise ordered).mp ⟨merged, succeeds⟩
    obtain ⟨values, same, atKey⟩ := outcome succeeds
    exact ⟨mergeable, values, same, fun key => ⟨pairwise key, atKey key⟩⟩
  · rintro ⟨mergeable, values, rfl, atKey⟩
    obtain ⟨tree, succeeds⟩ :=
      (merge_ok_iff_pairwise ordered).mpr ⟨mergeable, fun key => (atKey key).1⟩
    obtain ⟨others, rfl, otherAtKey⟩ := outcome succeeds
    obtain rfl : others = values := Dict.ext_get? fun key => (otherAtKey key).unique (atKey key).2
    exact succeeds

/-- The first document that is neither a mapping nor null is named. -/
theorem merge_unmergeable {table : PolicyTable} {before after : List Source} {source : Source}
    {earlier : Tree} (succeeds : merge before table = .ok earlier)
    (unmergeable : ¬ source.Mergeable) :
    merge (before ++ source :: after) table =
      .error (.notAMapping source.id source.tree.shape) := by
  unfold merge at succeeds ⊢
  rw [addSources_append]
  cases outcome : addSources table ∅ before with
  | error cause => simp [outcome] at succeeds
  | ok state =>
      dsimp only
      rw [addSources, addSource_unmergeable unmergeable]

end Merge

open Merge

/-- The outcome of a merge, from the contributions to each key.  Documents merge
exactly if all of them are mappings or null and the contributions to each key are
pairwise compatible; the result then has the combination of the contributions
under each key that has any.  The first document that is neither a mapping nor null
is named if the documents before it merge.  Documents list the entries of a mapping
by ascending keys, as all do that are read from files (`Files.collect_ordered`). -/
theorem merge_exact (sources : List Source) (table : PolicyTable)
    (ordered : ∀ source ∈ sources, source.tree.Ordered) :
    ((∃ merged, merge sources table = .ok merged) ↔
      (∀ source ∈ sources, source.Mergeable) ∧
        ∀ key, (contributions sources key).Pairwise (Compatible (table.policyFor key))) ∧
    (∀ merged, merge sources table = .ok merged →
      ∃ entries, merged = .mapping entries ∧ Entries.Ascending entries ∧
        ∀ key, Merged (table.policyFor key) (contributions sources key)
          (Entries.get? entries key)) ∧
    ∀ before source after earlier, sources = before ++ source :: after →
      merge before table = .ok earlier → ¬ source.Mergeable →
        merge sources table = .error (.notAMapping source.id source.tree.shape) := by
  have results : ∀ merged, merge sources table = .ok merged →
      ∃ entries, merged = .mapping entries ∧ Entries.Ascending entries ∧
        ∀ key, Merged (table.policyFor key) (contributions sources key)
          (Entries.get? entries key) := by
    intro merged succeeds
    have answers := merge_answers table ordered
    rw [succeeds] at answers
    rcases answers with ⟨_, state, tracks, rfl⟩
    exact result_merged tracks
  have named : ∀ before source after earlier, sources = before ++ source :: after →
      merge before table = .ok earlier → ¬ source.Mergeable →
        merge sources table = .error (.notAMapping source.id source.tree.shape) := by
    rintro before source after earlier rfl succeeds unmergeable
    exact merge_unmergeable succeeds unmergeable
  exact ⟨merge_ok_iff_pairwise ordered, results, named⟩

/-- Two documents that share a type and have a tag each merge, as their
contributions to every key are compatible. -/
theorem merge_shared_type :
    let first : Source := ⟨"first", .mapping [("tags", .sequence [.string "x"]),
      ("types", .mapping [("a", .int 1)])]⟩
    let second : Source := ⟨"second", .mapping [("tags", .sequence [.string "y"]),
      ("types", .mapping [("a", .int 1), ("b", .null)])]⟩
    let table := (PolicyTable.empty.set "tags" .mergeUnion).set "types" .mergeNoOverride
    merge [first, second] table = .ok (.mapping [("tags", .sequence [.string "x", .string "y"]),
        ("types", .mapping [("a", .int 1), ("b", .null)])]) ∧
      ∀ key, (contributions [first, second] key).Pairwise (Compatible (table.policyFor key)) := by
  intro first second table
  have ordered : ∀ source ∈ [first, second], source.tree.Ordered := by
    have names : "tags" < "types" ∧ "a" < "b" := by decide
    simp only [first, second, Tree.int, Tree.Ordered, Tree.OrderedAll, Tree.OrderedEntries,
      Entries.Ascending, List.pairwise_cons, List.forall_mem_cons]
    simp [names]
  obtain ⟨accepts, _, _⟩ := merge_exact [first, second] table ordered
  exact ⟨rfl, (accepts.mp ⟨_, rfl⟩).2⟩

end Blueprint
