import Blueprint.Document.Imports
import Mathlib.Data.List.Count
import Mathlib.Logic.Relation

/-!
# Following imports without a bound

`Imports.follow` counts levels down.  `Traverses` is the same walk without a count: it
says what comes of meeting references one after the other, of each document that is
entered on the way, and of the first failure.  Every reference of the walk is one that
some document mentions, and each document that is entered is a new one, so the levels
of `Imports.walk` are never used up (`traverses_visits`).

What a walk does to its state is proved by induction on `Traverses`.
-/

namespace Blueprint.Imports

/-- The walk once a reference has been met and the resolver was called for it. -/
def Walk.enter (walk : Walk) (reference : String) : Walk :=
  { walk with visited := reference :: walk.visited, calls := reference :: walk.calls }

/-- The walk once the document of a reference is complete. -/
def Walk.complete (walk : Walk) (reference : String) (tree : Tree) : Walk :=
  { walk with finished := ⟨reference, strip tree⟩ :: walk.finished }

/-- What comes of meeting references in order. -/
inductive Traverses (resolver : Resolver) : List String → Walk → Progress → Prop
  | done {walk} : Traverses resolver [] walk (.ok walk)
  | skip {reference rest walk outcome} (known : reference ∈ walk.visited)
      (others : Traverses resolver rest walk outcome) :
      Traverses resolver (reference :: rest) walk outcome
  | missing {reference rest walk cause} (fresh : reference ∉ walk.visited)
      (failed : resolver.resolve reference = .error cause) :
      Traverses resolver (reference :: rest) walk (.error (cause, walk.enter reference))
  | malformed {reference rest walk tree cause} (fresh : reference ∉ walk.visited)
      (found : resolver.resolve reference = .ok tree) (unreadable : ofTree tree = .error cause) :
      Traverses resolver (reference :: rest) walk (.error (cause, walk.enter reference))
  | broken {reference rest walk tree inner failure} (fresh : reference ∉ walk.visited)
      (found : resolver.resolve reference = .ok tree) (listed : ofTree tree = .ok inner)
      (below : Traverses resolver inner (walk.enter reference) (.error failure)) :
      Traverses resolver (reference :: rest) walk (.error failure)
  | enter {reference rest walk tree inner middle outcome} (fresh : reference ∉ walk.visited)
      (found : resolver.resolve reference = .ok tree) (listed : ofTree tree = .ok inner)
      (below : Traverses resolver inner (walk.enter reference) (.ok middle))
      (others : Traverses resolver rest (middle.complete reference tree) outcome) :
      Traverses resolver (reference :: rest) walk outcome

section

variable {resolver : Resolver}

/-- A walk has one outcome. -/
theorem Traverses.unique {references : List String} {walk : Walk} {first second : Progress}
    (left : Traverses resolver references walk first)
    (right : Traverses resolver references walk second) : first = second := by
  induction left generalizing second with
  | done =>
      cases right
      rfl
  | skip known others ih =>
      cases right with
      | skip _ itsOthers => exact ih itsOthers
      | missing fresh => exact absurd known fresh
      | malformed fresh => exact absurd known fresh
      | broken fresh => exact absurd known fresh
      | enter fresh => exact absurd known fresh
  | missing fresh failed =>
      cases right with
      | skip known => exact absurd known fresh
      | missing _ itsFailed =>
          cases failed.symm.trans itsFailed
          rfl
      | malformed _ found => cases failed.symm.trans found
      | broken _ found => cases failed.symm.trans found
      | enter _ found => cases failed.symm.trans found
  | malformed fresh found unreadable =>
      cases right with
      | skip known => exact absurd known fresh
      | missing _ failed => cases failed.symm.trans found
      | malformed _ itsFound itsUnreadable =>
          cases found.symm.trans itsFound
          cases unreadable.symm.trans itsUnreadable
          rfl
      | broken _ itsFound listed =>
          cases found.symm.trans itsFound
          cases unreadable.symm.trans listed
      | enter _ itsFound listed =>
          cases found.symm.trans itsFound
          cases unreadable.symm.trans listed
  | broken fresh found listed below ih =>
      cases right with
      | skip known => exact absurd known fresh
      | missing _ failed => cases failed.symm.trans found
      | malformed _ itsFound unreadable =>
          cases found.symm.trans itsFound
          cases unreadable.symm.trans listed
      | broken _ itsFound itsListed itsBelow =>
          cases found.symm.trans itsFound
          cases listed.symm.trans itsListed
          cases ih itsBelow
          rfl
      | enter _ itsFound itsListed itsBelow =>
          cases found.symm.trans itsFound
          cases listed.symm.trans itsListed
          cases ih itsBelow
  | enter fresh found listed below others ihBelow ihOthers =>
      cases right with
      | skip known => exact absurd known fresh
      | missing _ failed => cases failed.symm.trans found
      | malformed _ itsFound unreadable =>
          cases found.symm.trans itsFound
          cases unreadable.symm.trans listed
      | broken _ itsFound itsListed itsBelow =>
          cases found.symm.trans itsFound
          cases listed.symm.trans itsListed
          cases ihBelow itsBelow
      | enter _ itsFound itsListed itsBelow itsOthers =>
          cases found.symm.trans itsFound
          cases listed.symm.trans itsListed
          cases ihBelow itsBelow
          exact ihOthers itsOthers

/-- References in two parts are met one part after the other. -/
theorem Traverses.of_append {first second : List String} {walk result : Walk}
    (traverses : Traverses resolver (first ++ second) walk (.ok result)) :
    ∃ middle, Traverses resolver first walk (.ok middle) ∧
      Traverses resolver second middle (.ok result) := by
  induction first generalizing walk with
  | nil => exact ⟨walk, .done, traverses⟩
  | cons reference rest ih =>
      cases traverses with
      | skip known others =>
          obtain ⟨middle, before, after⟩ := ih others
          exact ⟨middle, .skip known before, after⟩
      | enter fresh found listed below others =>
          obtain ⟨middle, before, after⟩ := ih others
          exact ⟨middle, .enter fresh found listed below before, after⟩

/-! ## Calls -/

/-- A walk that called the resolver once for each reference it met after some others. -/
structure Walk.Logged (others : List String) (walk : Walk) : Prop where
  met : walk.visited = walk.calls ++ others
  distinct : walk.visited.Nodup

theorem Walk.Logged.enter {others : List String} {walk : Walk} {reference : String}
    (logged : walk.Logged others) (fresh : reference ∉ walk.visited) :
    (walk.enter reference).Logged others where
  met := congrArg (reference :: ·) logged.met
  distinct := List.nodup_cons.mpr ⟨fresh, logged.distinct⟩

/-- The resolver is called for what is met, whatever comes of the walk. -/
theorem Traverses.logged {references others : List String} {walk : Walk} {progress : Progress}
    (traverses : Traverses resolver references walk progress) (logged : walk.Logged others) :
    (Progress.last progress).Logged others := by
  induction traverses with
  | done => exact logged
  | skip known rest ih => exact ih logged
  | missing fresh failed => exact logged.enter fresh
  | malformed fresh found unreadable => exact logged.enter fresh
  | broken fresh found listed below ih => exact ih (logged.enter fresh)
  | enter fresh found listed below rest ihBelow ihRest =>
      have middle := ihBelow (logged.enter fresh)
      exact ihRest ⟨middle.met, middle.distinct⟩

/-! ## Levels -/

/-- Meeting a reference with a number of levels left. -/
def visit (resolver : Resolver) (levels : Nat) (walk : Walk) (reference : String) : Progress :=
  if walk.visited.contains reference then .ok walk
  else
    match resolver.resolve reference with
    | .error cause => .error (cause, walk.enter reference)
    | .ok imported =>
        match follow resolver levels imported (walk.enter reference) with
        | .error failure => .error failure
        | .ok walk => .ok (walk.complete reference imported)

theorem follow_succ (resolver : Resolver) (levels : Nat) (tree : Tree) (walk : Walk) :
    follow resolver (levels + 1) tree walk =
      match ofTree tree with
      | .error cause => .error (cause, walk)
      | .ok references => references.foldlM (visit resolver levels) walk :=
  rfl

/-- How many of some references a walk has not met. -/
def Walk.unmet (walk : Walk) (names : List String) : Nat :=
  names.countP fun name => !walk.visited.contains name

theorem Walk.unmet_le {first second : Walk} (grows : first.visited ⊆ second.visited)
    (names : List String) : second.unmet names ≤ first.unmet names := by
  apply List.countP_mono_left
  intro name _ unmet
  simp only [Bool.not_eq_true', List.contains_eq_mem, decide_eq_false_iff_not] at unmet ⊢
  exact fun member => unmet (grows member)

/-- Meeting a new one of the names leaves fewer of them. -/
theorem Walk.unmet_enter {walk : Walk} {reference : String} {names : List String}
    (member : reference ∈ names) (fresh : reference ∉ walk.visited) :
    (walk.enter reference).unmet names < walk.unmet names := by
  have here : (walk.enter reference).unmet [reference] < walk.unmet [reference] := by
    simp [unmet, enter, fresh]
  obtain ⟨before, after, rfl⟩ := List.append_of_mem member
  have grows : walk.visited ⊆ (walk.enter reference).visited := List.subset_cons_self _ _
  have first := unmet_le grows before
  have last := unmet_le grows after
  rw [List.append_cons]
  simp only [unmet, List.countP_append] at here first last ⊢
  omega

/-- Induction on a walk that ends well. -/
theorem Traverses.ok_induction
    {motive : ∀ references walk result, Traverses resolver references walk (.ok result) → Prop}
    (done : ∀ walk, motive [] walk walk .done)
    (skip : ∀ reference rest walk result known others, motive rest walk result others →
      motive (reference :: rest) walk result (.skip known others))
    (enter : ∀ reference rest walk tree inner middle result fresh found listed below others,
      motive inner (walk.enter reference) middle below →
      motive rest (middle.complete reference tree) result others →
      motive (reference :: rest) walk result (.enter fresh found listed below others))
    {references : List String} {walk result : Walk}
    (traverses : Traverses resolver references walk (.ok result)) :
    motive references walk result traverses := by
  have general : ∀ {references walk progress}, Traverses resolver references walk progress →
      ∀ result (same : progress = .ok result) (traverses : Traverses resolver references walk
        (.ok result)), motive references walk result traverses := by
    intro references walk progress traverses
    induction traverses with
    | done =>
        rintro result ⟨⟩ _
        exact done _
    | skip known others ih =>
        rintro result rfl _
        exact skip _ _ _ _ known others (ih result rfl others)
    | missing fresh failed => exact fun _ same => nomatch same
    | malformed fresh found unreadable => exact fun _ same => nomatch same
    | broken fresh found listed below ih => exact fun _ same => nomatch same
    | enter fresh found listed below others ihBelow ihOthers =>
        rintro result rfl _
        exact enter _ _ _ _ _ _ _ fresh found listed below others (ihBelow _ rfl below)
          (ihOthers result rfl others)
  exact general traverses result rfl traverses

/-- The names that are met and the documents that are complete only become more. -/
theorem Traverses.grows {references : List String} {walk result : Walk}
    (traverses : Traverses resolver references walk (.ok result)) :
    walk.visited <:+ result.visited ∧ walk.finished <:+ result.finished := by
  induction traverses using Traverses.ok_induction with
  | done walk => exact ⟨List.suffix_rfl, List.suffix_rfl⟩
  | skip reference rest walk result known others ih => exact ih
  | enter reference rest walk tree inner middle result fresh found listed below others ihBelow
      ihOthers =>
      constructor
      · exact ((List.suffix_cons _ _).trans ihBelow.1).trans ihOthers.1
      · exact (ihBelow.2.trans (List.suffix_cons _ _)).trans ihOthers.2

/-- Every reference is met. -/
theorem Traverses.meets {references : List String} {walk result : Walk}
    (traverses : Traverses resolver references walk (.ok result)) :
    references ⊆ result.visited := by
  induction references generalizing walk with
  | nil => exact List.nil_subset _
  | cons reference rest ih =>
      cases traverses with
      | skip known others => exact List.cons_subset.mpr ⟨others.grows.1.subset known, ih others⟩
      | enter fresh found listed below others =>
          have met := below.grows.1.subset List.mem_cons_self
          exact List.cons_subset.mpr ⟨others.grows.1.subset met, ih others⟩

/-- Induction on the levels: each document that is entered leaves fewer names to
meet. -/
theorem traverses_visits {names : List String} (mentions : resolver.mentions ⊆ names)
    (levels : Nat) {references : List String} (inside : references ⊆ names) (walk : Walk)
    (enough : walk.unmet names ≤ levels) :
    Traverses resolver references walk (references.foldlM (visit resolver levels) walk) := by
  induction levels using Nat.strongRecOn generalizing references walk with
  | _ levels ihLevels =>
      induction references generalizing walk with
      | nil => exact .done
      | cons reference rest ih =>
          obtain ⟨member, others⟩ := List.cons_subset.mp inside
          rw [List.foldlM_cons, visit]
          by_cases known : reference ∈ walk.visited
          · rw [if_pos (by simpa using known)]
            exact .skip known (ih others walk enough)
          · rw [if_neg (by simpa using known)]
            have fewer := walk.unmet_enter member known
            cases found : resolver.resolve reference with
            | error cause => exact .missing known found
            | ok tree =>
                obtain ⟨left, rfl⟩ : ∃ left, levels = left + 1 := ⟨levels - 1, by omega⟩
                dsimp only
                rw [follow_succ]
                cases listed : ofTree tree with
                | error cause => exact .malformed known found listed
                | ok inner =>
                    have mentioned : inner ⊆ names := by
                      intro mention isMention
                      apply mentions (resolver.closed reference tree found mention _)
                      rwa [Imports.mentioned, listed]
                    have below := ihLevels left (Nat.lt_succ_self left) mentioned
                      (walk.enter reference) (by omega)
                    dsimp only
                    cases outcome : inner.foldlM (visit resolver left) (walk.enter reference) with
                    | error failure =>
                        rw [outcome] at below
                        exact .broken known found listed below
                    | ok middle =>
                        rw [outcome] at below
                        have grows := List.Subset.trans (List.subset_cons_self _ _) below.grows.1.subset
                        have fewerLater : (middle.complete reference tree).unmet names ≤ left + 1 :=
                          Nat.le_trans (Walk.unmet_le grows names) enough
                        exact .enter known found listed below (ih others _ fewerLater)

end

end Blueprint.Imports
