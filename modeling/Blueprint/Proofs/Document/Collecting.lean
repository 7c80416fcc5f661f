import Blueprint.Proofs.Document.Traversal
import Mathlib.Tactic

/-!
# Which documents are collected, and in which order

In the import graph of a main document its name stands for itself, whatever the
resolver has under that name, and every other name for the document that is found.
`collect_exact` describes the outcome of `Imports.collect` by this graph alone: it fails
exactly if a document that is reached is missing or unreadable, it resolves each
reference that is reached once, and it lists each document after those that it imports,
unless these lead back to it.

The invariant of the walk is `Walk.Sound`.  The names that are met are those of the
complete documents and of the open ones; each open document leads to the one that is
being read, and so a document that is met but not complete is an exception to the order
only where imports run in a circle.
-/

namespace Blueprint.Imports

open Relation

/-! ## The import graph -/

/-- A document with a value under the key that is neither null nor a list of strings. -/
def Malformed (tree : Tree) : Prop :=
  ∃ value, tree.get? key = some value ∧ value ≠ .null ∧
    ∀ references : List String, value ≠ .sequence (references.map .string)

section Graph

variable (main : Source) (resolver : Resolver)

/-- What a document of the import graph imports. -/
def importsOf (name : String) : List String :=
  if name = main.id then mentioned main.tree
  else
    match resolver.resolve name with
    | .ok tree => mentioned tree
    | .error _ => []

/-- There is a chain of imports from a document to a reference that does not lead on
from certain names. -/
def Reaches (avoided : List String) : (importer reference : String) → Prop :=
  ReflTransGen fun importer reference =>
    importer ∉ avoided ∧ reference ∈ importsOf main resolver importer

/-- A reference other than the main document that the main document imports, directly or
through others. -/
def Imported (reference : String) : Prop :=
  reference ≠ main.id ∧ Reaches main resolver [] main.id reference

/-- No document imports itself, directly or through others. -/
def Acyclic : Prop :=
  ∀ name, ¬ TransGen (fun importer reference => reference ∈ importsOf main resolver importer)
    name name

end Graph

/-! ## Import lists -/

theorem references_ok_iff {entries : List Tree} {names : List String} :
    references entries = .ok names ↔ entries = names.map Tree.string := by
  induction entries generalizing names with
  | nil => cases names <;> simp [references]
  | cons entry rest ih =>
      cases entry with
      | string reference =>
          cases names with
          | nil => cases others : references rest <;> simp [references, others]
          | cons name names =>
              rw [List.map_cons, List.cons.injEq, ← ih, Tree.string.injEq]
              cases others : references rest <;> simp [references, others]
      | _ => cases names <;> simp [references]

/-- A document is refused exactly if its list is malformed. -/
theorem ofTree_error_iff {tree : Tree} :
    (∃ cause, ofTree tree = .error cause) ↔ Malformed tree := by
  rw [ofTree, Malformed]
  cases held : tree.get? key with
  | none => simp
  | some value =>
      cases value with
      | null => simp
      | sequence entries =>
          simp only [Option.some.injEq, ne_eq, exists_eq_left', reduceCtorEq, not_false_eq_true,
            true_and, Tree.sequence.injEq]
          constructor
          · rintro ⟨cause, failed⟩ names same
            cases failed.symm.trans (references_ok_iff.mpr same)
          · intro different
            cases read : references entries with
            | error cause => exact ⟨cause, rfl⟩
            | ok names => exact absurd (references_ok_iff.mp read) (different names)
      | _ => simp

theorem mentioned_eq {tree : Tree} {names : List String} (listed : ofTree tree = .ok names) :
    mentioned tree = names := by
  rw [mentioned, listed]

section

variable {main : Source} {resolver : Resolver}

@[simp]
theorem importsOf_main : importsOf main resolver main.id = mentioned main.tree :=
  if_pos rfl

theorem importsOf_found {name : String} {tree : Tree} {names : List String}
    (other : name ≠ main.id) (found : resolver.resolve name = .ok tree)
    (listed : ofTree tree = .ok names) : importsOf main resolver name = names := by
  rw [importsOf, if_neg other, found]
  exact mentioned_eq listed

theorem importsOf_of_mentioned {name : String} {names : List String} (other : name ≠ main.id)
    (known : (resolver.resolve name).toOption.map mentioned = some names) :
    importsOf main resolver name = names := by
  rw [importsOf, if_neg other]
  cases found : resolver.resolve name with
  | error cause => simp [found, Except.toOption] at known
  | ok tree => simpa [found, Except.toOption] using known

/-- What is avoided may be relaxed. -/
theorem Reaches.mono {fewer avoided : List String} (relaxed : fewer ⊆ avoided)
    {importer reference : String} (reaches : Reaches main resolver avoided importer reference) :
    Reaches main resolver fewer importer reference :=
  ReflTransGen.mono (fun _ _ step => ⟨fun member => step.1 (relaxed member), step.2⟩) _ _ reaches

theorem Reaches.trans {avoided : List String} {first second third : String}
    (leads : Reaches main resolver avoided first second)
    (reaches : Reaches main resolver avoided second third) :
    Reaches main resolver avoided first third :=
  ReflTransGen.trans leads reaches

/-- A document reaches what it imports. -/
theorem Reaches.import {avoided : List String} {importer reference : String}
    (allowed : importer ∉ avoided) (member : reference ∈ importsOf main resolver importer) :
    Reaches main resolver avoided importer reference :=
  .single ⟨allowed, member⟩

/-! ## What a walk meets -/

/-- A walk meets only what can be reached from its references past the names that it knew. -/
theorem Traverses.routes {references : List String} {walk result : Walk}
    (traverses : Traverses resolver references walk (.ok result)) (begun : main.id ∈ walk.visited)
    {name : String} (met : name ∈ result.visited) :
    name ∈ walk.visited ∨
      ∃ reference ∈ references, Reaches main resolver walk.visited reference name := by
  induction traverses using Traverses.ok_induction with
  | done walk => exact .inl met
  | skip reference rest walk result known others ih =>
      rcases ih begun met with before | ⟨other, member, reaches⟩
      · exact .inl before
      · exact .inr ⟨other, List.mem_cons_of_mem _ member, reaches⟩
  | enter reference rest walk tree inner middle result fresh found listed below others ihBelow
      ihOthers =>
      have entered : main.id ∈ (walk.enter reference).visited := List.mem_cons_of_mem _ begun
      have grows := (List.suffix_cons _ _).trans below.grows.1
      rcases ihOthers (grows.subset begun) met with early | ⟨other, member, reaches⟩
      · rcases ihBelow entered early with before | ⟨other, member, reaches⟩
        · rcases List.mem_cons.mp before with rfl | known
          · exact .inr ⟨name, List.mem_cons_self, .refl⟩
          · exact .inl known
        · have imports : importsOf main resolver reference = inner :=
            importsOf_found (fun same => fresh (same ▸ begun)) found listed
          have step := Reaches.import fresh (imports.symm ▸ member)
          have onwards := reaches.mono (List.subset_cons_self reference walk.visited)
          exact .inr ⟨reference, List.mem_cons_self, step.trans onwards⟩
      · exact .inr ⟨other, List.mem_cons_of_mem _ member, reaches.mono grows.subset⟩

/-- A walk ends early only at a reference that can be reached and is missing or
malformed. -/
theorem Traverses.fails {references : List String} {walk : Walk} {failure : ResolveError × Walk}
    (traverses : Traverses resolver references walk (.error failure))
    (begun : main.id ∈ walk.visited) :
    ∃ reference ∈ references, ∃ name ≠ main.id, Reaches main resolver [] reference name ∧
      ∀ tree, resolver.resolve name = .ok tree → Malformed tree := by
  generalize same : Except.error failure = outcome at traverses
  induction traverses with
  | done => cases same
  | skip known others ih =>
      obtain ⟨reference, member, bad⟩ := ih begun same
      exact ⟨reference, List.mem_cons_of_mem _ member, bad⟩
  | @missing reference rest walk cause fresh failed =>
      refine ⟨reference, List.mem_cons_self, reference, fun same => fresh (same ▸ begun), .refl, ?_⟩
      intro tree found
      cases failed.symm.trans found
  | @malformed reference rest walk tree cause fresh found unreadable =>
      refine ⟨reference, List.mem_cons_self, reference, fun same => fresh (same ▸ begun), .refl, ?_⟩
      intro tree itsFound
      cases found.symm.trans itsFound
      exact ofTree_error_iff.mp ⟨_, unreadable⟩
  | @broken reference rest walk tree inner failure fresh found listed below ih =>
      obtain ⟨other, member, name, notMain, reaches, bad⟩ :=
        ih (List.mem_cons_of_mem _ begun) same
      have imports : importsOf main resolver reference = inner :=
        importsOf_found (fun same => fresh (same ▸ begun)) found listed
      have step := Reaches.import List.not_mem_nil (imports.symm ▸ member)
      exact ⟨reference, List.mem_cons_self, name, notMain, step.trans reaches, bad⟩
  | enter fresh found listed below others ihBelow ihOthers =>
      have grows := (List.suffix_cons _ _).trans below.grows.1
      obtain ⟨reference, member, bad⟩ := ihOthers (grows.subset begun) same
      exact ⟨reference, List.mem_cons_of_mem _ member, bad⟩

/-! ## The invariant -/

/-- A walk that reads the list of the first open document. -/
structure Walk.Sound (main : Source) (resolver : Resolver) (current : String)
    (opened : List String) (walk : Walk) : Prop where
  /-- No name is met twice. -/
  distinct : walk.visited.Nodup
  /-- What has been met is complete or open. -/
  accounted : walk.visited.Perm (walk.finished.map Source.id ++ current :: opened)
  /-- The walk started at the main document. -/
  begun : main.id ∈ walk.visited
  /-- Every open document leads to the current one. -/
  leads : ∀ name ∈ opened, name ≠ main.id →
    current ≠ main.id ∧ Reaches main resolver [main.id] name current
  /-- What has been met was reached through names that have been met. -/
  routed : ∀ name ∈ walk.visited, ∀ unmet ∉ walk.visited,
    Reaches main resolver [unmet] main.id name

namespace Walk.Sound

variable {current : String} {opened : List String} {walk : Walk}

theorem start (main : Source) (resolver : Resolver) :
    Sound main resolver main.id [] (.start main) where
  distinct := List.nodup_singleton _
  accounted := .refl _
  begun := List.mem_singleton_self _
  leads := by simp
  routed := by
    intro name member unmet _
    rw [List.mem_singleton.mp member]
    exact .refl

theorem current_mem (sound : Sound main resolver current opened walk) :
    current ∈ walk.visited :=
  sound.accounted.mem_iff.mpr (List.mem_append_right _ List.mem_cons_self)

/-- Open documents reach what the current one imports. -/
theorem leads_on (sound : Sound main resolver current opened walk) {name reference : String}
    (isOpen : name ∈ current :: opened) (notMain : name ≠ main.id)
    (member : reference ∈ importsOf main resolver current) :
    Reaches main resolver [main.id] name reference := by
  rcases List.mem_cons.mp isOpen with rfl | later
  · exact .import (by simpa using notMain) member
  · obtain ⟨inner, leads⟩ := sound.leads name later notMain
    exact leads.trans (.import (by simpa using inner) member)

/-- What the current document imports is reached through names that have been met. -/
theorem routed_on (sound : Sound main resolver current opened walk) {unmet reference : String}
    (isUnmet : unmet ∉ walk.visited) (member : reference ∈ importsOf main resolver current) :
    Reaches main resolver [unmet] main.id reference := by
  have other : current ≠ unmet := fun same => isUnmet (same ▸ sound.current_mem)
  have reaches := sound.routed current sound.current_mem unmet isUnmet
  exact reaches.trans (.import (by simpa using other) member)

/-- Entering a document that the current one imports. -/
theorem enter (sound : Sound main resolver current opened walk) {reference : String}
    (fresh : reference ∉ walk.visited) (member : reference ∈ importsOf main resolver current) :
    Sound main resolver reference (current :: opened) (walk.enter reference) where
  distinct := List.nodup_cons.mpr ⟨fresh, sound.distinct⟩
  accounted := (sound.accounted.cons reference).trans List.perm_middle.symm
  begun := List.mem_cons_of_mem _ sound.begun
  leads := by
    intro name isOpen notMain
    constructor
    · exact fun same => fresh (same ▸ sound.begun)
    · exact sound.leads_on isOpen notMain member
  routed := by
    intro name met unmet isUnmet
    have before : unmet ∉ walk.visited := fun member => isUnmet (List.mem_cons_of_mem _ member)
    rcases List.mem_cons.mp met with rfl | early
    · exact sound.routed_on before member
    · exact sound.routed name early unmet before

/-- Completing the document that was entered last. -/
theorem complete {reference : String} {middle : Walk}
    (sound : Sound main resolver current opened walk)
    (inner : Sound main resolver reference (current :: opened) middle) (tree : Tree) :
    Sound main resolver current opened (middle.complete reference tree) where
  distinct := inner.distinct
  accounted := inner.accounted.trans List.perm_middle
  begun := inner.begun
  leads := sound.leads
  routed := inner.routed

/-- A walk through references that the current document imports keeps the invariant. -/
theorem traverses {references : List String} {result : Walk}
    (sound : Sound main resolver current opened walk)
    (within : references ⊆ importsOf main resolver current)
    (traverses : Traverses resolver references walk (.ok result)) :
    Sound main resolver current opened result := by
  induction traverses using Traverses.ok_induction generalizing current opened with
  | done walk => exact sound
  | skip reference rest walk result known others ih =>
      exact ih sound (List.cons_subset.mp within).2
  | enter reference rest walk tree inner middle result fresh found listed below others ihBelow
      ihOthers =>
      obtain ⟨member, rest⟩ := List.cons_subset.mp within
      have imports : importsOf main resolver reference = inner :=
        importsOf_found (fun same => fresh (same ▸ sound.begun)) found listed
      have soundBelow := ihBelow (sound.enter fresh member) (imports ▸ List.Subset.refl inner)
      exact ihOthers (sound.complete soundBelow tree) rest

/-- What has been met is complete, unless it is the main document or leads back to the
current one. -/
theorem is_complete (sound : Sound main resolver current opened walk) {name : String}
    (met : name ∈ walk.visited) (notMain : name ≠ main.id)
    (noReturn : current = main.id ∨ ¬ Reaches main resolver [main.id] name current) :
    name ∈ walk.finished.map Source.id := by
  rcases List.mem_append.mp (sound.accounted.mem_iff.mp met) with complete | isOpen
  · exact complete
  · exfalso
    rcases List.mem_cons.mp isOpen with rfl | isOuter
    · rcases noReturn with isMain | noReturn
      · exact notMain isMain
      · exact noReturn .refl
    · obtain ⟨inner, leads⟩ := sound.leads name isOuter notMain
      rcases noReturn with isMain | noReturn
      · exact inner isMain
      · exact noReturn leads

end Walk.Sound

/-! ## The moment of entry -/

/-- The list of a document was read in a walk that went on to a result. -/
structure Read (main : Source) (resolver : Resolver) (final : Walk) (importer : String)
    (opened : List String) (earlier later : Walk) : Prop where
  /-- Everything so far was reached without the list. -/
  before : ∀ name ∈ earlier.visited, Reaches main resolver [importer] main.id name
  /-- The document is the current one. -/
  sound : earlier.Sound main resolver importer opened
  /-- Its references are met. -/
  traverses : Traverses resolver (importsOf main resolver importer) earlier (.ok later)
  /-- The walk goes on. -/
  visited : later.visited <:+ final.visited
  /-- Nothing that was complete is lost. -/
  finished : later.finished <:+ final.finished

/-- A document has been entered and completed. -/
def Completed (main : Source) (resolver : Resolver) (final : Walk) (source : Source) : Prop :=
  ∃ opened earlier later tree, Read main resolver final source.id opened earlier later ∧
    source.id ≠ main.id ∧ resolver.resolve source.id = .ok tree ∧
    ofTree tree = .ok (importsOf main resolver source.id) ∧ source.tree = strip tree ∧
    source :: later.finished <:+ final.finished

/-- What was entered earlier remains so when the walk goes on. -/
theorem Completed.mono {walk final : Walk} {source : Source} (visited : walk.visited <:+ final.visited)
    (finished : walk.finished <:+ final.finished)
    (completed : Completed main resolver walk source) : Completed main resolver final source := by
  obtain ⟨opened, earlier, later, tree, read, notMain, found, listed, same, listing⟩ := completed
  exact ⟨opened, earlier, later, tree,
    { read with
      visited := read.visited.trans visited
      finished := read.finished.trans finished },
    notMain, found, listed, same, listing.trans finished⟩

/-- Every document that a walk adds has been entered and completed. -/
theorem Traverses.completes {references : List String} {current : String} {opened : List String}
    {walk result : Walk} (traverses : Traverses resolver references walk (.ok result))
    (sound : walk.Sound main resolver current opened)
    (within : references ⊆ importsOf main resolver current) {source : Source}
    (added : source ∈ result.finished) :
    source ∈ walk.finished ∨ Completed main resolver result source := by
  induction traverses using Traverses.ok_induction generalizing current opened with
  | done walk => exact .inl added
  | skip reference rest walk result known others ih =>
      exact ih sound (List.cons_subset.mp within).2 added
  | enter reference rest walk tree inner middle result fresh found listed below others ihBelow
      ihOthers =>
      obtain ⟨member, rest⟩ := List.cons_subset.mp within
      have notMain : reference ≠ main.id := fun same => fresh (same ▸ sound.begun)
      have imports : importsOf main resolver reference = inner :=
        importsOf_found notMain found listed
      subst imports
      have entered := sound.enter fresh member
      have complete := sound.complete (entered.traverses (List.Subset.refl _) below) tree
      obtain ⟨grows, finished⟩ := others.grows
      have visited : middle.visited <:+ result.visited := grows
      have kept : middle.finished <:+ result.finished := (List.suffix_cons _ _).trans finished
      rcases ihOthers complete rest added with early | completed
      · rcases List.mem_cons.mp early with rfl | earlier
        · right
          refine ⟨current :: opened, walk.enter reference, middle, tree, ?_, notMain, found, listed,
            rfl, finished⟩
          exact
            { before := by
                intro name met
                rcases List.mem_cons.mp met with rfl | known
                · exact sound.routed_on fresh member
                · exact sound.routed name known reference fresh
              sound := entered
              traverses := below
              visited := visited
              finished := kept }
        · rcases ihBelow entered (List.Subset.refl _) earlier with before | completed
          · exact .inl before
          · exact .inr (completed.mono visited kept)
      · exact .inr completed

/-! ## The result -/

/-- The walk below the main document. -/
structure Whole (main : Source) (resolver : Resolver) (walk : Walk) : Prop where
  /-- The list of the main document is valid. -/
  listed : ofTree main.tree = .ok (importsOf main resolver main.id)
  /-- All of it has been met. -/
  traverses : Traverses resolver (importsOf main resolver main.id) (.start main) (.ok walk)

/-- The levels of a walk are never used up. -/
theorem follow_main {names : List String} (listed : ofTree main.tree = .ok names) {levels : Nat}
    (enough : resolver.mentions.length + (mentioned main.tree).length < levels) :
    Traverses resolver names (.start main) (follow resolver levels main.tree (.start main)) := by
  obtain ⟨left, rfl⟩ : ∃ left, levels = left + 1 := ⟨levels - 1, by omega⟩
  rw [follow_succ, listed]
  have inside := List.subset_append_right resolver.mentions names
  apply traverses_visits (List.subset_append_left resolver.mentions names) left inside
  have bound : (Walk.start main).unmet (resolver.mentions ++ names) ≤ _ := List.countP_le_length
  rw [List.length_append] at bound
  rw [mentioned_eq listed] at enough
  omega

theorem walk_main {names : List String} (listed : ofTree main.tree = .ok names) :
    Traverses resolver names (.start main) (walk main resolver) :=
  follow_main listed (by omega)

namespace Whole

variable {walk : Walk}

theorem sound (whole : Whole main resolver walk) : walk.Sound main resolver main.id [] :=
  (Walk.Sound.start main resolver).traverses (List.Subset.refl _) whole.traverses

/-- The list of the main document was read in the walk. -/
theorem read_main (whole : Whole main resolver walk) :
    Read main resolver walk main.id [] (.start main) walk where
  before := by
    intro name met
    rw [List.mem_singleton.mp met]
    exact .refl
  sound := .start main resolver
  traverses := whole.traverses
  visited := List.suffix_rfl
  finished := List.suffix_rfl

theorem completed (whole : Whole main resolver walk) {source : Source}
    (member : source ∈ walk.finished) : Completed main resolver walk source := by
  have start := Walk.Sound.start main resolver
  rcases whole.traverses.completes start (List.Subset.refl _) member with early | completed
  · exact absurd early List.not_mem_nil
  · exact completed

/-- What is met is the main document or complete. -/
theorem met_iff (whole : Whole main resolver walk) (name : String) :
    name ∈ walk.visited ↔ name ∈ walk.finished.map Source.id ∨ name = main.id := by
  rw [whole.sound.accounted.mem_iff, List.mem_append, List.mem_singleton]

/-- The list of every document in the result was read. -/
theorem read (whole : Whole main resolver walk) {importer : String}
    (met : importer ∈ walk.visited) :
    ∃ opened earlier later, Read main resolver walk importer opened earlier later := by
  rcases (whole.met_iff importer).mp met with complete | rfl
  · obtain ⟨source, member, rfl⟩ := List.mem_map.mp complete
    obtain ⟨opened, earlier, later, tree, read, _⟩ := whole.completed member
    exact ⟨opened, earlier, later, read⟩
  · exact ⟨_, _, _, whole.read_main⟩

/-- Exactly what the main document leads to is met. -/
theorem met_iff_reaches (whole : Whole main resolver walk) (name : String) :
    name ∈ walk.visited ↔ Reaches main resolver [] main.id name := by
  constructor
  · intro met
    rcases whole.traverses.routes List.mem_cons_self met with start | ⟨reference, member, reaches⟩
    · rw [List.mem_singleton.mp start]
      exact .refl
    · have step : Reaches main resolver [] main.id reference := .import List.not_mem_nil member
      exact step.trans (reaches.mono (List.nil_subset _))
  · intro reaches
    induction reaches with
    | refl => exact whole.sound.begun
    | tail _ step ih =>
        obtain ⟨opened, earlier, later, read⟩ := whole.read ih
        exact read.visited.subset (read.traverses.meets step.2)

theorem complete_iff (whole : Whole main resolver walk) (name : String) :
    name ∈ walk.finished.map Source.id ↔ Imported main resolver name := by
  rw [Imported, ← whole.met_iff_reaches, whole.met_iff]
  have apart : (walk.finished.map Source.id ++ [main.id]).Nodup :=
    whole.sound.accounted.nodup_iff.mp whole.sound.distinct
  grind [List.nodup_append]

end Whole

/-! ## Order -/

/-- A document comes before another one. -/
def Precedes (sources : List Source) (first second : String) : Prop :=
  [first, second].Sublist (sources.map Source.id)

/-- What was complete when the list of a document had been read comes before it. -/
theorem precedes_of_completed {walk : Walk} {source : Source} {rest : List Source}
    (listing : source :: rest <:+ walk.finished) {name : String}
    (earlier : name ∈ rest.map Source.id) : Precedes walk.finished.reverse name source.id := by
  have inOrder : [source.id, name].Sublist ((source :: rest).map Source.id) :=
    (List.singleton_sublist.mpr earlier).cons_cons source.id
  have reversed := (inOrder.trans (listing.sublist.map Source.id)).reverse
  rwa [← List.map_reverse] at reversed

/-- What is complete comes before what is completed later. -/
theorem precedes_of_unmet {early walk : Walk} (kept : early.finished <:+ walk.finished)
    {first second : String} (done : first ∈ early.finished.map Source.id)
    (undone : second ∉ early.finished.map Source.id)
    (later : second ∈ walk.finished.map Source.id) :
    Precedes walk.finished.reverse first second := by
  obtain ⟨more, whole⟩ := kept
  rw [← whole, List.map_append, List.mem_append] at later
  have isLater := later.resolve_right undone
  have inOrder : [second, first].Sublist (walk.finished.map Source.id) := by
    rw [← whole, List.map_append]
    exact (List.singleton_sublist.mpr isLater).append (List.singleton_sublist.mpr done)
  have reversed := inOrder.reverse
  rwa [← List.map_reverse] at reversed

theorem Precedes.before_main {walk : Walk} {first second : String}
    (precedes : Precedes walk.finished.reverse first second) :
    Precedes (walk.finished.reverse ++ [main]) first second :=
  precedes.trans ((List.sublist_append_left _ _).map Source.id)

namespace Whole

variable {walk : Walk}

/-- A document comes after what it imports, unless this leads back to it. -/
theorem import_first (whole : Whole main resolver walk) {importer reference : String}
    (met : importer ∈ walk.visited) (member : reference ∈ importsOf main resolver importer)
    (notMain : reference ≠ main.id)
    (noReturn : importer = main.id ∨ ¬ Reaches main resolver [main.id] reference importer) :
    Precedes (walk.finished.reverse ++ [main]) reference importer := by
  rcases (whole.met_iff importer).mp met with complete | rfl
  · obtain ⟨source, isSource, rfl⟩ := List.mem_map.mp complete
    obtain ⟨opened, earlier, later, tree, read, _, _, _, _, listing⟩ := whole.completed isSource
    have soundLater := read.sound.traverses (List.Subset.refl _) read.traverses
    have itsMet := read.traverses.meets member
    have first := soundLater.is_complete itsMet notMain noReturn
    exact (precedes_of_completed listing first).before_main
  · have first := whole.sound.is_complete (whole.traverses.meets member) notMain noReturn
    rw [← List.mem_reverse, ← List.map_reverse] at first
    rw [Precedes, List.map_append]
    exact (List.singleton_sublist.mpr first).append (List.Sublist.refl _)

/-- References come in the order of the list that has them, if the later one is reached
neither without the list nor from the references before it, and the earlier one does not
lead back to the document of the list. -/
theorem siblings (whole : Whole main resolver walk) {importer first second : String}
    {before after : List String} (met : importer ∈ walk.visited)
    (list : importsOf main resolver importer = before ++ first :: after)
    (member : second ∈ after) (firstOther : first ≠ main.id) (secondOther : second ≠ main.id)
    (apart : ∀ reference ∈ before ++ [first],
      ¬ Reaches main resolver [main.id, importer] reference second)
    (noReturn : importer = main.id ∨ ¬ Reaches main resolver [main.id] first importer)
    (onlyHere : ¬ Reaches main resolver [importer] main.id second) :
    Precedes (walk.finished.reverse ++ [main]) first second := by
  obtain ⟨opened, earlier, later, read⟩ := whole.read met
  have parts := read.traverses
  rw [list, List.append_cons] at parts
  obtain ⟨middle, firsts, seconds⟩ := parts.of_append
  have within : before ++ [first] ⊆ importsOf main resolver importer := by
    rw [list, List.append_cons before first after]
    exact List.subset_append_left _ _
  have soundMiddle := read.sound.traverses within firsts
  have firstDone := soundMiddle.is_complete (firsts.meets (by simp)) firstOther noReturn
  have secondUnmet : second ∉ middle.visited := by
    intro early
    rcases firsts.routes read.sound.begun early with known | ⟨reference, isEarlier, reaches⟩
    · exact onlyHere (read.before second known)
    · apply apart reference isEarlier
      apply reaches.mono
      simp [read.sound.begun, read.sound.current_mem]
  have secondUndone : second ∉ middle.finished.map Source.id := fun done =>
    secondUnmet (soundMiddle.accounted.mem_iff.mpr (List.mem_append_left _ done))
  have secondMet := read.visited.subset (seconds.meets member)
  have secondDone := ((whole.met_iff second).mp secondMet).resolve_right secondOther
  have kept := seconds.grows.2.trans read.finished
  exact (precedes_of_unmet kept firstDone secondUndone secondDone).before_main

end Whole

/-! ## Exactness -/

theorem walk_ok_iff {walk : Walk} :
    Imports.walk main resolver = .ok walk ↔ Whole main resolver walk := by
  constructor
  · intro done
    cases listed : ofTree main.tree with
    | error cause => simp [Imports.walk, follow_succ, listed] at done
    | ok names =>
        have traverses : Traverses resolver names _ (Imports.walk main resolver) := walk_main listed
        have own : importsOf main resolver main.id = names := by
          rw [importsOf_main, mentioned_eq listed]
        rw [done, ← own] at traverses
        exact ⟨own ▸ listed, traverses⟩
  · intro whole
    exact (walk_main whole.listed).unique whole.traverses

/-- What a list of sources has to be for a main document that leads to them. -/
structure Collected (main : Source) (resolver : Resolver) (sources : List Source) : Prop where
  /-- Each reference that the main document leads to is resolved, and nothing else. -/
  resolved : ∀ reference, reference ∈ resolved main resolver ↔ Imported main resolver reference
  /-- None is resolved twice. -/
  resolvedOnce : (Imports.resolved main resolver).Nodup
  /-- The main document is last and as it was.  The others are those that it leads to,
  without their import lists. -/
  mainLast : ∃ imported, sources = imported ++ [main] ∧
    (∀ reference, reference ∈ imported.map Source.id ↔ Imported main resolver reference) ∧
    ∀ source ∈ imported, ∃ tree, resolver.resolve source.id = .ok tree ∧ source.tree = strip tree
  /-- No name is listed twice. -/
  distinct : (sources.map Source.id).Nodup
  /-- Each document comes after those that it imports, unless these lead back to it. -/
  importsFirst : ∀ importer ∈ sources.map Source.id, ∀ reference,
    reference ∈ importsOf main resolver importer → reference ≠ main.id →
    (importer = main.id ∨ ¬ Reaches main resolver [main.id] reference importer) →
    Precedes sources reference importer
  /-- Without circles each document comes after all that it imports. -/
  acyclic : Acyclic main resolver → ∀ importer ∈ sources.map Source.id, ∀ reference,
    reference ∈ importsOf main resolver importer → Precedes sources reference importer
  /-- References come in the order of the list that has them, if the later one is reached
  neither without the list nor from the references before it, and the earlier one does not
  lead back to the document of the list. -/
  siblings : ∀ importer ∈ sources.map Source.id, ∀ before first after,
    importsOf main resolver importer = before ++ first :: after → ∀ second ∈ after,
    first ≠ main.id → second ≠ main.id →
    (∀ reference ∈ before ++ [first],
      ¬ Reaches main resolver [main.id, importer] reference second) →
    (importer = main.id ∨ ¬ Reaches main resolver [main.id] first importer) →
    ¬ Reaches main resolver [importer] main.id second →
    Precedes sources first second

/-- The resolver is called for each reference that is met after the main document. -/
theorem walk_logged (main : Source) (resolver : Resolver) :
    (walk main resolver).last.Logged [main.id] := by
  have start : (Walk.start main).Logged [main.id] := ⟨rfl, List.nodup_singleton _⟩
  cases listed : ofTree main.tree with
  | error cause =>
      rw [walk, follow_succ, listed]
      exact start
  | ok names => exact (walk_main listed).logged start

/-- No reference is resolved twice, also if the walk fails. -/
theorem resolved_nodup (main : Source) (resolver : Resolver) : (resolved main resolver).Nodup := by
  have logged := walk_logged main resolver
  have distinct := logged.distinct
  rw [logged.met] at distinct
  rw [resolved, List.nodup_reverse]
  exact (List.nodup_append.mp distinct).1

theorem Whole.visited_eq {walk : Walk} (whole : Whole main resolver walk) :
    walk.visited = (resolved main resolver).reverse ++ [main.id] := by
  have met := (walk_logged main resolver).met
  rw [resolved, List.reverse_reverse]
  rwa [walk_ok_iff.mpr whole] at met ⊢

/-- The sources of a complete walk. -/
theorem Whole.collected {walk : Walk} (whole : Whole main resolver walk) :
    Collected main resolver (walk.finished.reverse ++ [main]) := by
  have ids : (walk.finished.reverse ++ [main]).map Source.id =
      (walk.finished.map Source.id).reverse ++ [main.id] := by simp
  have isMet : ∀ name, name ∈ (walk.finished.reverse ++ [main]).map Source.id ↔
      name ∈ walk.visited := by
    intro name
    rw [ids, whole.met_iff, List.mem_append, List.mem_reverse, List.mem_singleton]
  have distinct := whole.sound.distinct
  constructor
  case resolved =>
    intro reference
    rw [← List.mem_reverse, ← whole.complete_iff]
    have accounted := whole.sound.accounted
    rw [whole.visited_eq] at accounted
    exact ((List.perm_append_right_iff _).mp accounted).mem_iff
  case resolvedOnce => exact resolved_nodup main resolver
  case mainLast =>
    refine ⟨walk.finished.reverse, rfl, ?_, ?_⟩
    · intro reference
      rw [List.map_reverse, List.mem_reverse, whole.complete_iff]
    · intro source member
      obtain ⟨_, _, _, tree, _, _, found, _, stripped, _⟩ :=
        whole.completed (List.mem_reverse.mp member)
      exact ⟨tree, found, stripped⟩
  case distinct =>
    rw [ids]
    have inOrder := whole.sound.accounted.nodup_iff.mp distinct
    exact ((List.reverse_perm _).append_right _).nodup_iff.mpr inOrder
  case importsFirst =>
    intro importer member reference isImport notMain noReturn
    exact whole.import_first ((isMet importer).mp member) isImport notMain noReturn
  case acyclic =>
    intro acyclic importer member reference isImport
    have met := (isMet importer).mp member
    have noCircle : ∀ {avoided}, ¬ Reaches main resolver avoided reference importer := by
      intro avoided reaches
      apply acyclic importer
      apply TransGen.head' isImport
      exact ReflTransGen.mono (fun _ _ step => step.2) _ _ reaches
    have notMain : reference ≠ main.id := by
      rintro rfl
      exact noCircle ((whole.met_iff_reaches importer).mp met)
    exact whole.import_first met isImport notMain (.inr noCircle)
  case siblings =>
    intro importer member before first after list second isLater firstOther secondOther apart
      noReturn onlyHere
    exact whole.siblings ((isMet importer).mp member) list isLater firstOther secondOther apart
      noReturn onlyHere

end

end Blueprint.Imports
