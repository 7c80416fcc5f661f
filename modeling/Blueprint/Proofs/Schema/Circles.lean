import Blueprint.Schema.Freeze
import Mathlib.Data.List.Chain
import Mathlib.Data.List.Perm.Subperm

/-!
# The search for circles of definitions

`Registry.circle?` walks the references depth first and never walks from a
finished name again.  This file proves that it answers a genuine circle, and
answers none exactly when no definition refers back to itself through others
(`circle?_eq_none_iff`).

Finished names are settled: none of them is on a circle, and what they refer to is
finished as well.  A circle through a new name would therefore lead through
finished names back to it, so remembering finished names hides nothing.  The path
of the walk has no repetitions and consists of registered names, which is why the
count of levels never runs out.
-/

namespace Blueprint.Registry

open Relation

/-- A registered definition refers to a name. -/
def Refers (registry : Registry) (source target : String) : Prop :=
  target ∈ registry.references source

/-- Every name that a definition refers to is registered. -/
def Resolved (registry : Registry) : Prop :=
  ∀ source target, registry.Refers source target →
    ∃ definition, registry.definition? target = some definition

/-- No definition refers back to itself, directly or through others. -/
def Acyclic (registry : Registry) : Prop :=
  ∀ name, ¬ TransGen registry.Refers name name

/-- Names of which each refers to the next, which return to the first one and do
not repeat before that. -/
structure IsCircle (registry : Registry) (circle : List String) : Prop where
  long : 2 ≤ circle.length
  returns : circle.head? = circle.getLast?
  distinct : circle.dropLast.Nodup
  linked : circle.IsChain registry.Refers

theorem mem_keys_iff_definition? {registry : Registry} {name : String} :
    name ∈ registry.definitions.keys ↔
      ∃ definition, registry.definition? name = some definition :=
  (Dict.mem_keys_iff registry.definitions name).trans Option.isSome_iff_exists

theorem Refers.source_known {registry : Registry} {source target : String}
    (refers : registry.Refers source target) : source ∈ registry.definitions.keys := by
  rw [mem_keys_iff_definition?]
  unfold Refers references at refers
  split at refers
  · simp at refers
  · next definition known => exact ⟨definition, known⟩

theorem IsCircle.not_acyclic {registry : Registry} {circle : List String}
    (isCircle : registry.IsCircle circle) : ¬ registry.Acyclic := by
  rcases isCircle with ⟨long, returns, _, linked⟩
  match circle, long with
  | first :: second :: rest, _ =>
      intro acyclic
      have step : registry.Refers first second := linked.rel
      have walk : ReflTransGen registry.Refers second ((second :: rest).getLast (by simp)) :=
        List.relationReflTransGen_of_exists_isChain_cons rest linked.tail rfl
      have back : first = (second :: rest).getLast (by simp) := by
        simpa [List.getLast?_eq_some_getLast] using returns
      exact acyclic first (TransGen.head' step (back ▸ walk))

/-! ## Settled names -/

/-- Finished names lead into no circle and refer to finished names only. -/
def Settled (registry : Registry) (finished : List String) : Prop :=
  ∀ name ∈ finished, ¬ TransGen registry.Refers name name ∧
    ∀ target, registry.Refers name target → target ∈ finished

theorem Settled.mem_of_reaches {registry : Registry} {finished : List String}
    (settled : registry.Settled finished) {source target : String} (member : source ∈ finished)
    (reaches : ReflTransGen registry.Refers source target) : target ∈ finished := by
  induction reaches with
  | refl => exact member
  | tail _ last ih => exact (settled _ ih).2 _ last

/-- A name all of whose references are settled is itself settled. -/
theorem Settled.cons {registry : Registry} {finished : List String} {name : String}
    (settled : registry.Settled finished) (references : registry.references name ⊆ finished) :
    registry.Settled (name :: finished) := by
  intro member isMember
  rcases List.mem_cons.mp isMember with here | old
  · subst here
    constructor
    · intro circle
      -- Past its first step the circle stays among finished names.
      obtain ⟨target, refers, reaches⟩ := (TransGen.head'_iff).mp circle
      have finishedToo := settled.mem_of_reaches (references refers) reaches
      exact (settled member finishedToo).1 circle
    · intro target refers
      exact List.mem_cons_of_mem member (references refers)
  · obtain ⟨free, closed⟩ := settled member old
    exact ⟨free, fun target refers => List.mem_cons_of_mem name (closed target refers)⟩

/-! ## The walk -/

/-- What a walk from some names answers: finished names that include them and are
settled if the earlier ones were, or a circle. -/
def Answers (registry : Registry) (finished targets : List String) :
    Except (List String) (List String) → Prop
  | .ok result => finished ⊆ result ∧ targets ⊆ result ∧
      (registry.Settled finished → registry.Settled result)
  | .error circle => registry.IsCircle circle

/-- Walks from several names answer together what each answers by itself. -/
theorem answers_foldlM {registry : Registry}
    {walk : List String → String → Except (List String) (List String)} {targets : List String}
    (each : ∀ finished, ∀ target ∈ targets,
      registry.Answers finished [target] (walk finished target))
    (finished : List String) :
    registry.Answers finished targets (targets.foldlM walk finished) := by
  induction targets generalizing finished with
  | nil => exact ⟨fun _ member => member, by simp, fun settled => settled⟩
  | cons target rest ih =>
      have here := each finished target (by simp)
      rw [List.foldlM_cons]
      cases first : walk finished target with
      | error circle =>
          rw [first] at here
          exact here
      | ok middle =>
          rw [first] at here
          rcases here with ⟨grows, reached, settles⟩
          have later := ih (fun finished target member =>
            each finished target (List.mem_cons_of_mem _ member)) middle
          change registry.Answers finished (target :: rest) (rest.foldlM walk middle)
          cases remaining : rest.foldlM walk middle with
          | error circle =>
              rw [remaining] at later
              exact later
          | ok result =>
              rw [remaining] at later
              rcases later with ⟨growsLater, reachedLater, settlesLater⟩
              refine ⟨fun _ member => growsLater (grows member), ?_,
                fun settled => settlesLater (settles settled)⟩
              intro name member
              rcases List.mem_cons.mp member with here | later
              · exact growsLater (reached (by simp [here]))
              · exact reachedLater later

/-- A walk is on its way to a name: the path leads there by references between
registered names and does not repeat. -/
structure OnWay (registry : Registry) (path : List String) (name : String) : Prop where
  linked : (path ++ [name]).IsChain registry.Refers
  distinct : path.Nodup
  known : path ++ [name] ⊆ registry.definitions.keys

theorem OnWay.length_le {registry : Registry} {path : List String} {name : String}
    (onWay : registry.OnWay path name) : path.length ≤ registry.definitions.keys.length := by
  have inside : path ⊆ registry.definitions.keys := fun member isMember =>
    onWay.known (List.mem_append_left [name] isMember)
  exact (onWay.distinct.subperm inside).length_le

/-- The part of the path from a name to its return is a circle. -/
theorem OnWay.isCircle {registry : Registry} {path : List String} {name : String} {start : Nat}
    (onWay : registry.OnWay path name) (met : path.idxOf? name = some start) :
    registry.IsCircle (path.drop start ++ [name]) := by
  obtain ⟨inside, there, _⟩ := List.findIdx?_eq_some_iff_getElem.mp met
  have there : path[start] = name := by simpa using there
  have begins : path.drop start = name :: path.drop (start + 1) := by
    rw [List.drop_eq_getElem_cons inside, there]
  refine ⟨?_, ?_, ?_, ?_⟩
  · simp [begins]
  · rw [List.getLast?_concat, begins]
    rfl
  · rw [List.dropLast_concat]
    exact onWay.distinct.sublist (List.drop_sublist start path)
  · rw [← List.drop_append_of_le_length (Nat.le_of_lt inside)]
    exact onWay.linked.drop start

theorem OnWay.step {registry : Registry} {path : List String} {name target : String}
    (resolved : registry.Resolved) (onWay : registry.OnWay path name)
    (unmet : path.idxOf? name = none) (refers : registry.Refers name target) :
    registry.OnWay (path ++ [name]) target := by
  constructor
  case linked =>
    apply onWay.linked.append (List.isChain_singleton target)
    simpa using refers
  case distinct =>
    have fresh : name ∉ path := List.idxOf?_eq_none_iff.mp unmet
    have apart : ∀ member ∈ path, ∀ other ∈ [name], member ≠ other := by
      intro member isMember other isOther
      rw [List.mem_singleton.mp isOther]
      rintro rfl
      exact fresh isMember
    exact List.nodup_append.mpr ⟨onWay.distinct, by simp, apart⟩
  case known =>
    have known := mem_keys_iff_definition?.mpr (resolved name target refers)
    exact List.append_subset.mpr ⟨onWay.known, by simpa using known⟩

/-- Induction on the levels: they exceed what the path can still grow by. -/
theorem answers_explore {registry : Registry} (resolved : registry.Resolved) (levels : Nat)
    {path : List String} {name : String} (onWay : registry.OnWay path name)
    (enough : registry.definitions.keys.length < path.length + levels) (finished : List String) :
    registry.Answers finished [name] (registry.explore levels path finished name) := by
  induction levels generalizing path name finished with
  | zero => exact absurd onWay.length_le (by omega)
  | succ levels ih =>
      unfold explore
      split
      · next done =>
          have member : name ∈ finished := by simpa using done
          exact ⟨fun _ isMember => isMember, by simpa using member, fun settled => settled⟩
      · split
        · next start met => exact onWay.isCircle met
        · next unmet =>
            have each : ∀ finished, ∀ target ∈ registry.references name,
                registry.Answers finished [target]
                  (registry.explore levels (path ++ [name]) finished target) := by
              intro finished target refers
              apply ih (onWay.step resolved unmet refers)
              rw [List.length_append, List.length_singleton]
              omega
            have below := answers_foldlM each finished
            split
            · next circle found =>
                rw [found] at below
                exact below
            · next result found =>
                rw [found] at below
                rcases below with ⟨grows, reached, settles⟩
                exact ⟨fun _ member => List.mem_cons_of_mem name (grows member), by simp,
                  fun settled => (settles settled).cons reached⟩

theorem answers_walk {registry : Registry} (resolved : registry.Resolved) :
    registry.Answers [] registry.definitions.keys
      (registry.definitions.keys.foldlM (fun finished name =>
        registry.explore (registry.definitions.keys.length + 1) [] finished name) []) := by
  apply answers_foldlM
  intro finished name member
  exact answers_explore resolved _ ⟨by simp, by simp, by simpa using member⟩ (by simp) finished

/-! ## What the search answers -/

theorem circle?_isCircle {registry : Registry} (resolved : registry.Resolved)
    {circle : List String} (found : registry.circle? = some circle) :
    registry.IsCircle circle := by
  have answers := answers_walk resolved
  unfold circle? at found
  dsimp only at found
  split at found
  · next met =>
      cases found
      rw [met] at answers
      exact answers
  · contradiction

/-- The search misses no circle, reachable from the root or not. -/
theorem circle?_eq_none_iff {registry : Registry} (resolved : registry.Resolved) :
    registry.circle? = none ↔ registry.Acyclic := by
  constructor
  · intro none name circle
    have answers := answers_walk resolved
    unfold circle? at none
    dsimp only at none
    split at none
    · contradiction
    · next finished walked =>
        rw [walked] at answers
        rcases answers with ⟨_, reached, settles⟩
        have settled : registry.Settled finished := settles (by simp [Settled])
        obtain ⟨_, refers, _⟩ := (TransGen.head'_iff).mp circle
        exact (settled name (reached refers.source_known)).1 circle
  · intro acyclic
    cases found : registry.circle? with
    | none => rfl
    | some circle => exact absurd acyclic (circle?_isCircle resolved found).not_acyclic

end Blueprint.Registry
