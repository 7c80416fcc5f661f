import Blueprint.Parse
import Blueprint.Proofs.Document.Collecting
import Blueprint.Proofs.Document.MergeValues

/-!
# The name of the main document

The main document goes by a name of its own, which the walk through its imports never
resolves.  As long as no document on the way mentions this name it makes no difference:
the walk of the same document under another name completes the same documents, they are
merged to the same tree, and the plan is the same.  Names occur in errors, so two runs are
compared by what they give on success (`parseDocument_main_name`).
-/

namespace Blueprint

namespace Imports

/-- The main document or one that it leads to has a name in its list. -/
def Mentions (main : Source) (resolver : Resolver) (name : String) : Prop :=
  ∃ importer, Reaches main resolver [] main.id importer ∧ name ∈ importsOf main resolver importer

/-- Names of which none leads beyond them mention only what they list themselves. -/
theorem Mentions.of_closed {main : Source} {resolver : Resolver} (known : List String)
    (start : main.id ∈ known) (closed : ∀ importer ∈ known, importsOf main resolver importer ⊆ known)
    {name : String} (mentions : Mentions main resolver name) :
    ∃ importer ∈ known, name ∈ importsOf main resolver importer := by
  obtain ⟨importer, reaches, member⟩ := mentions
  refine ⟨importer, ?_, member⟩
  clear member
  induction reaches with
  | refl => exact start
  | tail _ step ih => exact closed _ ih step.2

/-- Walks from main documents of two names that are equally far. -/
structure Walk.Matches (first second : String) (left right : Walk) : Prop where
  /-- The same documents are complete. -/
  finished : left.finished = right.finished
  /-- The same names have been met beside those of the main documents. -/
  visited : ∃ names, left.visited = names ++ [first] ∧ right.visited = names ++ [second]

/-- Two outcomes that differ in names only. -/
inductive Agree (first second : String) : Progress → Progress → Prop
  | ok {left right : Walk} (same : left.Matches first second right) :
      Agree first second (.ok left) (.ok right)
  | error {left right : ResolveError × Walk} : Agree first second (.error left) (.error right)

section

variable {first second : String} {left right : Walk}

theorem Walk.Matches.mem_iff (same : left.Matches first second right) {name : String}
    (notFirst : name ≠ first) (notSecond : name ≠ second) :
    name ∈ left.visited ↔ name ∈ right.visited := by
  obtain ⟨names, itsLeft, itsRight⟩ := same.visited
  simp [itsLeft, itsRight, notFirst, notSecond]

theorem Walk.Matches.enter (same : left.Matches first second right) (reference : String) :
    (left.enter reference).Matches first second (right.enter reference) where
  finished := same.finished
  visited := by
    obtain ⟨names, itsLeft, itsRight⟩ := same.visited
    exact ⟨reference :: names, congrArg _ itsLeft, congrArg _ itsRight⟩

theorem Walk.Matches.complete (same : left.Matches first second right) (reference : String)
    (tree : Tree) :
    (left.complete reference tree).Matches first second (right.complete reference tree) where
  finished := by rw [Walk.complete, Walk.complete, same.finished]
  visited := same.visited

end

/-- Resolvers that find the same documents. -/
def FindsSame (left right : Resolver) : Prop :=
  ∀ reference, (left.resolve reference).toOption = (right.resolve reference).toOption

theorem FindsSame.resolve {left right : Resolver} (same : FindsSame left right) {name : String}
    {tree : Tree} (found : left.resolve name = .ok tree) : right.resolve name = .ok tree := by
  have here := same name
  rw [found] at here
  cases itsFound : right.resolve name with
  | error cause => simp [itsFound, Except.toOption] at here
  | ok other => simpa [itsFound, Except.toOption] using here.symm

theorem FindsSame.symm {left right : Resolver} (same : FindsSame left right) :
    FindsSame right left :=
  fun reference => (same reference).symm

theorem FindsSame.fails {left right : Resolver} (same : FindsSame left right) {name : String}
    {cause : ResolveError} (failed : left.resolve name = .error cause) :
    ∃ itsCause, right.resolve name = .error itsCause := by
  cases itsFound : right.resolve name with
  | error itsCause => exact ⟨itsCause, rfl⟩
  | ok tree => cases failed.symm.trans (same.symm.resolve itsFound)

section

variable {main : Source} {second : String} {left right : Resolver}

theorem Mentions.of_import {name importer : String} (unmentioned : ¬ Mentions main left name)
    (reached : Reaches main left [] main.id importer) {reference : String}
    (member : reference ∈ importsOf main left importer) : reference ≠ name := by
  rintro rfl
  exact unmentioned ⟨importer, reached, member⟩

/-- Meeting references on the way from a main document, if no document there mentions its
name or the other one. -/
theorem Traverses.agree (same : FindsSame left right) (notFirst : ¬ Mentions main left main.id)
    (notSecond : ¬ Mentions main left second) {references : List String} {walk itsWalk : Walk}
    {outcome : Progress} (traverses : Traverses left references walk outcome) {importer : String}
    (reached : Reaches main left [] main.id importer)
    (within : references ⊆ importsOf main left importer)
    (equal : walk.Matches main.id second itsWalk) :
    ∃ itsOutcome, Traverses right references itsWalk itsOutcome ∧
      Agree main.id second outcome itsOutcome := by
  have known : ∀ {importer reference walk itsWalk}, Reaches main left [] main.id importer →
      reference ∈ importsOf main left importer → Walk.Matches main.id second walk itsWalk →
      (reference ∈ walk.visited ↔ reference ∈ itsWalk.visited) := by
    intro importer reference walk itsWalk reached member equal
    exact equal.mem_iff (Mentions.of_import notFirst reached member)
      (Mentions.of_import notSecond reached member)
  have below : ∀ {importer reference tree inner}, Reaches main left [] main.id importer →
      reference ∈ importsOf main left importer → left.resolve reference = .ok tree →
      ofTree tree = .ok inner → Reaches main left [] main.id reference ∧
        inner ⊆ importsOf main left reference := by
    intro importer reference tree inner reached member found listed
    have other := Mentions.of_import notFirst reached member
    constructor
    · exact reached.trans (.import List.not_mem_nil member)
    · rw [importsOf_found other found listed]
      exact List.Subset.refl _
  induction traverses generalizing itsWalk importer with
  | done => exact ⟨_, .done, .ok equal⟩
  | skip isKnown others ih =>
      obtain ⟨member, rest⟩ := List.cons_subset.mp within
      obtain ⟨itsOutcome, traverses, agree⟩ := ih reached rest equal
      exact ⟨itsOutcome, .skip ((known reached member equal).mp isKnown) traverses, agree⟩
  | missing fresh failed =>
      obtain ⟨member, rest⟩ := List.cons_subset.mp within
      obtain ⟨itsCause, itsFailed⟩ := same.fails failed
      exact ⟨_, .missing (mt (known reached member equal).mpr fresh) itsFailed, .error⟩
  | malformed fresh found unreadable =>
      obtain ⟨member, rest⟩ := List.cons_subset.mp within
      have itsFresh := mt (known reached member equal).mpr fresh
      exact ⟨_, .malformed itsFresh (same.resolve found) unreadable, .error⟩
  | broken fresh found listed inside ih =>
      obtain ⟨member, rest⟩ := List.cons_subset.mp within
      have itsFresh := mt (known reached member equal).mpr fresh
      obtain ⟨itsReached, itsWithin⟩ := below reached member found listed
      obtain ⟨itsOutcome, traverses, agree⟩ := ih itsReached itsWithin (equal.enter _)
      cases agree with
      | error => exact ⟨_, .broken itsFresh (same.resolve found) listed traverses, .error⟩
  | enter fresh found listed inside others ihInside ihOthers =>
      obtain ⟨member, rest⟩ := List.cons_subset.mp within
      have itsFresh := mt (known reached member equal).mpr fresh
      obtain ⟨itsReached, itsWithin⟩ := below reached member found listed
      obtain ⟨middle, traverses, agree⟩ := ihInside itsReached itsWithin (equal.enter _)
      cases agree with
      | ok matching =>
          obtain ⟨itsOutcome, afterwards, agree⟩ :=
            ihOthers reached rest (matching.complete _ _)
          exact ⟨itsOutcome,
            .enter itsFresh (same.resolve found) listed traverses afterwards, agree⟩

/-- Under another name the same documents are collected before the main one. -/
theorem walk_agree (same : FindsSame left right) (notFirst : ¬ Mentions main left main.id)
    (notSecond : ¬ Mentions main left second) :
    Agree main.id second (walk main left) (walk ⟨second, main.tree⟩ right) := by
  cases listed : ofTree main.tree with
  | error cause =>
      have fails : ∀ (name : String) (resolver : Resolver),
          walk ⟨name, main.tree⟩ resolver = .error (cause, .start ⟨name, main.tree⟩) := by
        intro name resolver
        rw [walk, follow_succ, listed]
      rw [show main = ⟨main.id, main.tree⟩ from rfl, fails, fails]
      exact .error
  | ok names =>
      have start : (Walk.start main).Matches main.id second (.start ⟨second, main.tree⟩) :=
        ⟨rfl, [], rfl, rfl⟩
      have own : importsOf main left main.id = names := by
        rw [importsOf_main, mentioned_eq listed]
      have walked : Traverses left names _ (walk main left) := walk_main listed
      have itsWalked : Traverses right names _ (walk ⟨second, main.tree⟩ right) := walk_main listed
      obtain ⟨itsOutcome, traverses, agree⟩ :=
        walked.agree same notFirst notSecond .refl (own ▸ List.Subset.refl _) start
      rwa [itsWalked.unique traverses]

theorem collect_agree (same : FindsSame left right) (notFirst : ¬ Mentions main left main.id)
    (notSecond : ¬ Mentions main left second) :
    (∃ imported, collect main left = .ok (imported ++ [main]) ∧
      collect ⟨second, main.tree⟩ right = .ok (imported ++ [⟨second, main.tree⟩])) ∨
    (∃ cause itsCause, collect main left = .error cause ∧
      collect ⟨second, main.tree⟩ right = .error itsCause) := by
  have agree := walk_agree same notFirst notSecond
  rw [collect, collect]
  generalize walk main left = outcome, walk ⟨second, main.tree⟩ right = itsOutcome at agree ⊢
  cases agree with
  | error => exact .inr ⟨_, _, rfl, rfl⟩
  | @ok walk itsWalk matching =>
      left
      refine ⟨walk.finished.reverse, rfl, ?_⟩
      rw [matching.finished]

end

end Imports

/-- What parsing gives on success depends on the trees of the documents only. -/
theorem parse_trees (checks : Checks) (registry : Registry) (policies : PolicyTable)
    {sources others : List Source} (same : sources.map Source.tree = others.map Source.tree) :
    (parse checks registry sources policies).toOption =
      (parse checks registry others policies).toOption := by
  have merged : (merge sources policies).toOption = (merge others policies).toOption := by
    rw [merge_toOption, merge_toOption, same]
  rw [parse, parse]
  split
  · cases first : merge sources policies with
    | error cause =>
        cases second : merge others policies with
        | error itsCause => rfl
        | ok tree => simp [first, second, Except.toOption] at merged
    | ok tree =>
        cases second : merge others policies with
        | error cause => simp [first, second, Except.toOption] at merged
        | ok itsTree =>
            obtain rfl : tree = itsTree := by simpa [first, second, Except.toOption] using merged
            rfl
  · rfl

/-- A main document that no document on the way mentions gives the same plan under
another name that none of them mentions either. -/
theorem parseDocument_main_name {main : Source} {name : String} {left right : Resolver}
    (same : Imports.FindsSame left right) (notFirst : ¬ Imports.Mentions main left main.id)
    (notSecond : ¬ Imports.Mentions main left name) (checks : Checks) (registry : Registry)
    (policies : PolicyTable) :
    (parseDocument checks registry main left policies).toOption =
      (parseDocument checks registry ⟨name, main.tree⟩ right policies).toOption := by
  rw [parseDocument, parseDocument]
  split
  · rcases Imports.collect_agree same notFirst notSecond with
      ⟨imported, collected, itsCollected⟩ | ⟨cause, itsCause, failed, itsFailed⟩
    · rw [collected, itsCollected]
      apply parse_trees
      simp
    · rw [failed, itsFailed]
      rfl
  · rfl

end Blueprint
