import Blueprint.Proofs.Placement.Derivation
import Mathlib.Logic.Function.Iterate

/-!
# Two walks up the types

The search for an ancestor and the gathering of operations follow the same links, with their tests
in another order.  The search compares a name before it asks whether it has met it.  The gathering
asks that first, and then whether the type is declared.  Both are given here turn by turn
(`searchTurn`, `gatherTurn`).  They end within two turns more than there are types, with the answers
of `derivesFrom` and `operations`.

What the gathering passes is a line of types: each is one link further than the one before, and the
line stops at the first type that is not declared or is on it already (`Line`).  Nothing is lost
there, for the declared types that the search can find are those on the line (`ancestry_walks`).
-/

namespace Blueprint.Placement

/-! ## Turn by turn -/

/-- The answer of a loop, if it comes within some turns. -/
def answerWithin {State Answer : Type} (turn : State → Answer ⊕ State) :
    (turns : Nat) → State → Option Answer
  | 0, _ => none
  | turns + 1, state =>
      match turn state with
      | .inl answer => some answer
      | .inr next => answerWithin turn turns next

/-- A walk from type to type. -/
structure Walk where
  /-- The types that it has met. -/
  met : List String
  /-- The type at which it is, unless the links have ended. -/
  current : Option String

/-- A turn of the search for an ancestor. -/
def searchTurn (types : Entries Tree) (ancestor : String) (walk : Walk) : Bool ⊕ Walk :=
  match walk.current with
  | none => .inl false
  | some name =>
      if name = ancestor then .inl true
      else if name ∈ walk.met then .inl false
      else .inr ⟨name :: walk.met, parent? types name⟩

/-- A walk on which interfaces are gathered. -/
structure Gathering extends Walk where
  /-- The interfaces that were gathered. -/
  interfaces : List Tree

/-- A turn of the gathering of operations. -/
def gatherTurn (types : Entries Tree) (gathering : Gathering) : List Tree ⊕ Gathering :=
  match gathering.current with
  | none => .inl (gathering.interfaces.flatMap interfaceOperations)
  | some name =>
      if name ∈ gathering.met then .inl (gathering.interfaces.flatMap interfaceOperations)
      else
        match types.get? name with
        | none => .inl (gathering.interfaces.flatMap interfaceOperations)
        | some type =>
            .inr
              { met := name :: gathering.met
                current := (type.get? "derived_from").bind Tree.text?
                interfaces := gathering.interfaces ++ (type.get? "interfaces").toList }

/-! ## The line of a type -/

/-- The type to which some links lead, if there are that many. -/
def ancestorAt? (types : Entries Tree) (start : Option String) (links : Nat) : Option String :=
  (Option.bind · (parent? types))^[links] start

/-- The types on the way from a type, up to the first that is not declared or comes again. -/
structure Line (types : Entries Tree) (start : Option String) (names : List String) : Prop where
  follows : ∀ links < names.length, names[links]? = ancestorAt? types start links
  distinct : names.Nodup
  declared : ∀ name ∈ names, name ∈ Entries.keys types
  stops : ∀ name, ancestorAt? types start names.length = some name →
    name ∉ Entries.keys types ∨ name ∈ names

theorem ancestorAt?_none (types : Entries Tree) (links : Nat) :
    ancestorAt? types none links = none := by
  induction links with
  | zero => rfl
  | succ links ih => exact ih

/-- A shorter line would have stopped where the other one goes on. -/
theorem Line.length_le {types : Entries Tree} {start : Option String} {names other : List String}
    (isLine : Line types start names) (isOther : Line types start other) :
    other.length ≤ names.length := by
  by_contra longer
  have further : names.length < other.length := by omega
  have here : other[names.length]? = some other[names.length] := List.getElem?_eq_getElem further
  have ancestor := (isOther.follows _ further).symm.trans here
  rcases isLine.stops _ ancestor with undeclared | again
  · exact undeclared (isOther.declared _ (List.getElem_mem further))
  · rcases List.mem_iff_getElem?.mp again with ⟨before, isBefore⟩
    have short : before < names.length := (List.getElem?_eq_some_iff.mp isBefore).1
    have twice : other[before]? = other[names.length]? := by
      rw [isOther.follows _ (by omega), ← isLine.follows _ short, isBefore, here]
    have same := (List.getElem?_inj (by omega) isOther.distinct).mp twice
    omega

/-- There is only one line. -/
theorem Line.unique {types : Entries Tree} {start : Option String} {names other : List String}
    (isLine : Line types start names) (isOther : Line types start other) : other = names := by
  have sameLength : other.length = names.length :=
    Nat.le_antisymm (isLine.length_le isOther) (isOther.length_le isLine)
  apply List.ext_getElem?
  intro links
  by_cases inside : links < names.length
  · rw [isOther.follows links (by omega), isLine.follows links inside]
  · rw [List.getElem?_eq_none (by omega), List.getElem?_eq_none (by omega)]

/-- The declared types of a chain. -/
def declaredChain (types : Entries Tree) (limit : Nat) (met : List String) (name : String) :
    List String :=
  (chain (parent? types) limit met name).filter fun name => (types.get? name).isSome

section

variable {types : Entries Tree} {limit : Nat} {met : List String} {name ancestor : String}

theorem declaredChain_of_mem (again : name ∈ met) : declaredChain types limit met name = [] := by
  rw [declaredChain, chain_of_mem again, List.filter_nil]

theorem declaredChain_of_undeclared (undeclared : types.get? name = none) :
    declaredChain types limit met name = [] := by
  have unlinked : parent? types name = none := by simp [parent?, undeclared]
  cases limit with
  | zero => rfl
  | succ limit =>
      by_cases again : name ∈ met
      · exact declaredChain_of_mem again
      · simp [declaredChain, chain_of_new again, unlinked, undeclared]

theorem declaredChain_of_declared {type : Tree} (new : name ∉ met)
    (declared : types.get? name = some type) :
    declaredChain types (limit + 1) met name =
      name ::
        match parent? types name with
        | none => []
        | some following => declaredChain types limit (name :: met) following := by
  rw [declaredChain, chain_of_new new, List.filter_cons_of_pos (by simp [declared])]
  cases parent? types name <;> rfl

theorem declaredChain_follows (links : Nat)
    (inside : links < (declaredChain types limit met name).length) :
    (declaredChain types limit met name)[links]? = ancestorAt? types (some name) links := by
  induction limit generalizing met name links with
  | zero => contradiction
  | succ limit ih =>
      by_cases again : name ∈ met
      · simp [declaredChain_of_mem again] at inside
      cases declared : types.get? name with
      | none => simp [declaredChain_of_undeclared declared] at inside
      | some type =>
          rw [declaredChain_of_declared again declared] at inside ⊢
          cases links with
          | zero => rfl
          | succ links =>
              have further : ancestorAt? types (some name) (links + 1) =
                  ancestorAt? types (parent? types name) links := rfl
              rw [further]
              cases link : parent? types name with
              | none => simp [link] at inside
              | some following =>
                  rw [link] at inside
                  exact ih links (by simpa using inside)

theorem declaredChain_distinct :
    (declaredChain types limit met name).Nodup ∧
      ∀ other ∈ declaredChain types limit met name, other ∉ met := by
  induction limit generalizing met name with
  | zero => simp [declaredChain, chain]
  | succ limit ih =>
      by_cases again : name ∈ met
      · simp [declaredChain_of_mem again]
      cases declared : types.get? name with
      | none => simp [declaredChain_of_undeclared declared]
      | some type =>
          rw [declaredChain_of_declared again declared]
          cases parent? types name with
          | none => simpa using again
          | some following =>
              rcases @ih (name :: met) following with ⟨distinct, new⟩
              constructor
              · exact List.nodup_cons.mpr ⟨fun later => new name later List.mem_cons_self, distinct⟩
              · intro other member
                rcases List.mem_cons.mp member with rfl | later
                · exact again
                · exact fun before => new other later (List.mem_cons_of_mem name before)

theorem declaredChain_stops (ample : Ample (Entries.keys types) limit met)
    (stop : ancestorAt? types (some name) (declaredChain types limit met name).length =
      some ancestor) :
    ancestor ∉ Entries.keys types ∨ ancestor ∈ met ∨
      ancestor ∈ declaredChain types limit met name := by
  induction limit generalizing met name with
  | zero => exact absurd ample Ample.not_zero
  | succ limit ih =>
      by_cases again : name ∈ met
      · rw [declaredChain_of_mem again] at stop
        cases stop
        exact .inr (.inl again)
      cases declared : types.get? name with
      | none =>
          rw [declaredChain_of_undeclared declared] at stop
          cases stop
          exact .inl (Entries.get?_eq_none_iff.mp declared)
      | some type =>
          rw [declaredChain_of_declared again declared] at stop ⊢
          have further : ∀ links, ancestorAt? types (some name) (links + 1) =
              ancestorAt? types (parent? types name) links := fun _ => rfl
          rw [List.length_cons, further] at stop
          cases link : parent? types name with
          | none =>
              rw [link, ancestorAt?_none] at stop
              contradiction
          | some following =>
              rw [link] at stop
              have rest := ih (ample.step again (mem_keys_of_parent? link)) stop
              simp only [List.mem_cons] at rest ⊢
              tauto

/-! ## The turns end -/

/-- The search ends with the answer whether the ancestor is on the chain that is left.  The
ancestor was not met before, for then the search would have ended. -/
theorem search_answers (ample : Ample (Entries.keys types) limit met) (fresh : ancestor ∉ met) :
    answerWithin (searchTurn types ancestor) (limit + 1) ⟨met, some name⟩ =
      some ((chain (parent? types) limit met name).contains ancestor) := by
  induction limit generalizing met name with
  | zero => exact absurd ample Ample.not_zero
  | succ limit ih =>
      rw [answerWithin]
      by_cases here : name = ancestor
      · subst here
        simp [searchTurn, chain_of_new fresh]
      by_cases again : name ∈ met
      · simp [searchTurn, here, again, chain_of_mem again]
      have turn : searchTurn types ancestor ⟨met, some name⟩ =
          .inr ⟨name :: met, parent? types name⟩ := by
        simp [searchTurn, here, again]
      rw [turn, chain_of_new again]
      cases link : parent? types name with
      | none => simp [answerWithin, searchTurn, Ne.symm here]
      | some following =>
          have stillFresh : ancestor ∉ name :: met := by simp [fresh, Ne.symm here]
          have rest := @ih (name :: met) following
            (ample.step again (mem_keys_of_parent? link)) stillFresh
          simpa [Ne.symm here] using rest

theorem flatMap_interfaces (element : Tree) :
    (element.get? "interfaces").toList.flatMap interfaceOperations =
      declaredOperations element := by
  rw [declaredOperations]
  cases element.get? "interfaces" <;> simp

/-- The gathering ends with the operations that it has and those of the declared types of the chain
that is left. -/
theorem gathering_answers (ample : Ample (Entries.keys types) limit met) (interfaces : List Tree) :
    answerWithin (gatherTurn types) (limit + 1) ⟨⟨met, some name⟩, interfaces⟩ =
      some (interfaces.flatMap interfaceOperations ++
        ((declaredChain types limit met name).filterMap types.get?).flatMap
          declaredOperations) := by
  induction limit generalizing met name interfaces with
  | zero => exact absurd ample Ample.not_zero
  | succ limit ih =>
      rw [answerWithin]
      by_cases again : name ∈ met
      · simp [gatherTurn, again, declaredChain_of_mem again]
      cases declared : types.get? name with
      | none => simp [gatherTurn, again, declared, declaredChain_of_undeclared declared]
      | some type =>
          have turn : gatherTurn types ⟨⟨met, some name⟩, interfaces⟩ =
              .inr ⟨⟨name :: met, parent? types name⟩,
                interfaces ++ (type.get? "interfaces").toList⟩ := by
            simp [gatherTurn, again, declared, parent?]
          rw [turn, declaredChain_of_declared again declared,
            List.filterMap_cons_some declared, List.flatMap_cons]
          cases link : parent? types name with
          | none => simp [answerWithin, gatherTurn, flatMap_interfaces]
          | some following =>
              have rest := @ih (name :: met) following
                (ample.step again (mem_keys_of_parent? link))
                (interfaces ++ (type.get? "interfaces").toList)
              simpa [flatMap_interfaces] using rest

end

section

variable (types : Entries Tree)

/-- The line that starts with a type, if there is one. -/
def typeLine : Option String → List String
  | none => []
  | some name => declaredChain types (types.length + 1) [] name

theorem ample_start : Ample (Entries.keys types) (types.length + 1) [] := by
  rw [← Entries.length_keys]
  exact .start _

theorem line_typeLine (start : Option String) : Line types start (typeLine types start) := by
  cases start with
  | none => exact ⟨by simp [typeLine], by simp [typeLine], by simp [typeLine],
      by simp [ancestorAt?_none]⟩
  | some name =>
      constructor
      · exact declaredChain_follows
      · exact declaredChain_distinct.1
      · intro other member
        by_contra undeclared
        have isDeclared := (List.mem_filter.mp member).2
        rw [Entries.get?_eq_none_iff.mpr undeclared] at isDeclared
        contradiction
      · intro other stop
        simpa [typeLine] using declaredChain_stops (ample_start types) stop

theorem line_iff {start : Option String} {names : List String} :
    Line types start names ↔ names = typeLine types start := by
  constructor
  · exact (line_typeLine types start).unique
  · rintro rfl
    exact line_typeLine types start

theorem mem_typeLine_iff {start : Option String} {other : String} :
    other ∈ typeLine types start ↔ other ∈ Entries.keys types ∧
      ∃ name, start = some name ∧ derivesFrom types name other = true := by
  cases start with
  | none => simp [typeLine]
  | some name =>
      have declared : (types.get? other).isSome = true ↔ other ∈ Entries.keys types := by
        rw [Option.isSome_iff_ne_none, Ne, Entries.get?_eq_none_iff, not_not]
      rw [typeLine, declaredChain, List.mem_filter, declared, and_comm]
      simp [derivesFrom, lineage]

theorem gathering_ends (start : Option String) (interfaces : List Tree) :
    answerWithin (gatherTurn types) (types.length + 2) ⟨⟨[], start⟩, interfaces⟩ =
      some (interfaces.flatMap interfaceOperations ++
        ((typeLine types start).filterMap types.get?).flatMap declaredOperations) := by
  cases start with
  | none => simp [answerWithin, gatherTurn, typeLine]
  | some name => exact gathering_answers (ample_start types) interfaces

theorem operations_eq (template : Tree) :
    operations template types = declaredOperations template ++
      ((typeLine types (type? template)).filterMap types.get?).flatMap declaredOperations := by
  rw [operations, type?]
  cases (template.get? "type").bind Tree.text? with
  | none => rfl
  | some name =>
      have sameTypes : (lineage types name).filterMap types.get? =
          (declaredChain types (types.length + 1) [] name).filterMap types.get? := by
        rw [declaredChain, List.filterMap_filter, lineage]
        congr 1
        funext other
        cases types.get? other <;> simp
      dsimp only [typeLine]
      rw [sameTypes]

end

/-- The two walks up the types, whatever the types are.  The search for an ancestor ends, and it
finds the ancestor exactly if some links lead to it.  The gathering of operations ends as well.  It
gives the operations of the template, then those of the types on the one line that starts with the
type of the template, each type once and in their order.  The line holds the declared types that
the search finds from there. -/
theorem ancestry_walks (types : Entries Tree) :
    (∀ name ancestor,
      answerWithin (searchTurn types ancestor) (types.length + 2) ⟨[], some name⟩ =
          some (derivesFrom types name ancestor) ∧
        (derivesFrom types name ancestor = true ↔ Derives types name ancestor)) ∧
      ∀ template, ∃ names,
        (∀ other, Line types (type? template) other ↔ other = names) ∧
        answerWithin (gatherTurn types) (types.length + 2)
            ⟨⟨[], type? template⟩, (template.get? "interfaces").toList⟩ =
          some (operations template types) ∧
        operations template types =
          declaredOperations template ++ (names.filterMap types.get?).flatMap declaredOperations ∧
        ∀ name, name ∈ names ↔ name ∈ Entries.keys types ∧
          ∃ type, type? template = some type ∧ derivesFrom types type name = true := by
  constructor
  · intro name ancestor
    constructor
    · exact search_answers (ample_start types) List.not_mem_nil
    · exact derivesFrom_iff
  · intro template
    refine ⟨typeLine types (type? template), fun other => line_iff types, ?_,
      operations_eq types template, fun name => mem_typeLine_iff types⟩
    rw [gathering_ends, flatMap_interfaces, operations_eq]

end Blueprint.Placement
