import Blueprint.Placement
import Mathlib.Data.List.Perm.Subperm
import Mathlib.Logic.Relation

/-!
# Following links

Derivation and containment are followed from name to name, and a walk stops at the first name that
it has met.  Nothing is lost by that: the names of a chain are closed under its links, so they are
all names to which the links lead (`mem_chain_iff`).  This needs enough steps, and one more than
there are names with a link is enough, since a walk passes each of them once (`Ample`).

For types this makes `derivesFrom` the reflexive and transitive closure of `derived_from`
(`derivesFrom_iff`), and `operations` those of a template, of its type and of the declared types
from which that derives (`mem_operations_iff`).
-/

namespace Blueprint.Placement

/-- What a name leads to by following links. -/
def Leads (next : String → Option String) : String → String → Prop :=
  Relation.ReflTransGen fun name following => next name = some following

/-! ## Chains -/

/-- A walk that has met some of the names with a link and has enough steps for the others. -/
structure Ample (linked : List String) (limit : Nat) (met : List String) : Prop where
  distinct : met.Nodup
  inside : met ⊆ linked
  bound : linked.length < met.length + limit

theorem Ample.start (linked : List String) : Ample linked (linked.length + 1) [] where
  distinct := List.nodup_nil
  inside := List.nil_subset linked
  bound := by simp

theorem Ample.not_zero {linked met : List String} : ¬ Ample linked 0 met := by
  rintro ⟨distinct, inside, bound⟩
  have short := (distinct.subperm inside).length_le
  omega

theorem Ample.step {linked met : List String} {limit : Nat} {name : String}
    (ample : Ample linked (limit + 1) met) (new : name ∉ met) (links : name ∈ linked) :
    Ample linked limit (name :: met) where
  distinct := List.nodup_cons.mpr ⟨new, ample.distinct⟩
  inside := List.cons_subset.mpr ⟨links, ample.inside⟩
  bound := by
    have bound := ample.bound
    rw [List.length_cons]
    omega

section

variable {next : String → Option String} {limit : Nat} {met linked : List String}
  {name other : String}

theorem chain_of_mem (again : name ∈ met) : chain next limit met name = [] := by
  cases limit with
  | zero => rfl
  | succ limit => rw [chain, if_pos (List.contains_iff_mem.mpr again)]

theorem chain_of_new (new : name ∉ met) :
    chain next (limit + 1) met name =
      name ::
        match next name with
        | none => []
        | some following => chain next limit (name :: met) following := by
  have notMet : ¬ met.contains name = true := by simpa using new
  exact if_neg notMet

theorem leads_of_mem_chain (member : other ∈ chain next limit met name) :
    Leads next name other := by
  induction limit generalizing met name with
  | zero => contradiction
  | succ limit ih =>
      by_cases again : name ∈ met
      · rw [chain_of_mem again] at member
        contradiction
      · rw [chain_of_new again] at member
        rcases List.mem_cons.mp member with rfl | later
        · exact .refl
        · split at later
          · contradiction
          · next following link => exact .head link (ih later)

/-- With enough steps a chain holds its first name and all names after those that it holds, unless
they were met before. -/
theorem chain_closed (links : ∀ name following, next name = some following → name ∈ linked)
    (ample : Ample linked limit met) (name : String) :
    (name ∈ met ∨ name ∈ chain next limit met name) ∧
      ∀ other ∈ chain next limit met name, ∀ following, next other = some following →
        following ∈ met ∨ following ∈ chain next limit met name := by
  induction limit generalizing met name with
  | zero => exact absurd ample Ample.not_zero
  | succ limit ih =>
      by_cases again : name ∈ met
      · rw [chain_of_mem again]
        exact ⟨.inl again, by simp⟩
      · rw [chain_of_new again]
        cases link : next name with
        | none =>
            refine ⟨.inr List.mem_cons_self, ?_⟩
            intro other member following itsLink
            cases List.mem_singleton.mp member
            rw [link] at itsLink
            contradiction
        | some following =>
            obtain ⟨here, closed⟩ :=
              ih (ample.step again (links name following link)) following
            -- What the rest of the chain may have met before is the first name or was met.
            have found : ∀ target,
                target ∈ name :: met ∨ target ∈ chain next limit (name :: met) following →
                target ∈ met ∨ target ∈ name :: chain next limit (name :: met) following := by
              intro target
              simp only [List.mem_cons]
              tauto
            refine ⟨.inr List.mem_cons_self, ?_⟩
            intro other member target itsLink
            apply found
            rcases List.mem_cons.mp member with rfl | later
            · cases link.symm.trans itsLink
              exact here
            · exact closed other later target itsLink

/-- A chain holds the names to which its first name leads. -/
theorem mem_chain_iff (links : ∀ name following, next name = some following → name ∈ linked) :
    other ∈ chain next (linked.length + 1) [] name ↔ Leads next name other := by
  obtain ⟨first, closed⟩ := chain_closed links (.start linked) name
  constructor
  · exact leads_of_mem_chain
  · intro leads
    induction leads with
    | refl => simpa using first
    | tail _ link ih => simpa using closed _ ih _ link

end

/-! ## Types -/

/-- A type is another one or derives from it. -/
abbrev Derives (types : Entries Tree) : String → String → Prop :=
  Leads (parent? types)

theorem mem_keys_of_parent? {types : Entries Tree} {name parent : String}
    (derives : parent? types name = some parent) : name ∈ Entries.keys types := by
  by_contra undeclared
  rw [parent?, Entries.get?_eq_none_iff.mpr undeclared] at derives
  contradiction

theorem mem_lineage_iff {types : Entries Tree} {name ancestor : String} :
    ancestor ∈ lineage types name ↔ Derives types name ancestor := by
  rw [lineage, ← Entries.length_keys]
  exact mem_chain_iff fun name parent derives => mem_keys_of_parent? derives

theorem derivesFrom_iff {types : Entries Tree} {name ancestor : String} :
    derivesFrom types name ancestor = true ↔ Derives types name ancestor := by
  rw [derivesFrom, List.contains_iff_mem, mem_lineage_iff]

/-! ## Operations -/

/-- An operation that an element declares under one of its interfaces. -/
def Declares (element operation : Tree) : Prop :=
  ∃ interfaces interface operations name,
    element.get? "interfaces" = some (.mapping interfaces) ∧
      (interface, .mapping operations) ∈ interfaces ∧ (name, operation) ∈ operations

/-- An operation of a template: its own, or one of its type or of a declared type from which that
derives. -/
def Performs (types : Entries Tree) (template operation : Tree) : Prop :=
  Declares template operation ∨
    ∃ type ancestor element, template.get? "type" = some (.string type) ∧
      Derives types type ancestor ∧ types.get? ancestor = some element ∧
      Declares element operation

theorem mem_interfaceOperations_iff {interfaces operation : Tree} :
    operation ∈ interfaceOperations interfaces ↔
      ∃ entries interface operations name, interfaces = .mapping entries ∧
        (interface, .mapping operations) ∈ entries ∧ (name, operation) ∈ operations := by
  unfold interfaceOperations
  split
  · next none =>
      simp only [List.not_mem_nil, false_iff]
      rintro ⟨entries, _, _, _, rfl, _⟩
      contradiction
  · next entries some =>
      obtain rfl := Tree.entries?_eq_some_iff.mp some
      simp only [List.mem_flatMap, Entries.values, List.mem_map]
      constructor
      · rintro ⟨_, ⟨⟨interface, value⟩, isInterface, rfl⟩, member⟩
        split at member
        · contradiction
        · next operations isMapping =>
            obtain ⟨⟨name, operation⟩, isOperation, rfl⟩ := List.mem_map.mp member
            obtain rfl := Tree.entries?_eq_some_iff.mp isMapping
            exact ⟨entries, interface, operations, name, rfl, isInterface, isOperation⟩
      · rintro ⟨_, interface, operations, name, same, isInterface, isOperation⟩
        cases same
        exact ⟨_, ⟨_, isInterface, rfl⟩, List.mem_map_of_mem isOperation⟩

theorem mem_declaredOperations_iff {element operation : Tree} :
    operation ∈ declaredOperations element ↔ Declares element operation := by
  unfold declaredOperations Declares
  cases element.get? "interfaces" with
  | none => simp
  | some interfaces =>
      rw [mem_interfaceOperations_iff]
      constructor
      · rintro ⟨entries, interface, operations, name, rfl, isInterface, isOperation⟩
        exact ⟨entries, interface, operations, name, rfl, isInterface, isOperation⟩
      · rintro ⟨entries, interface, operations, name, same, isInterface, isOperation⟩
        cases same
        exact ⟨entries, interface, operations, name, rfl, isInterface, isOperation⟩

theorem mem_operations_iff {types : Entries Tree} {template operation : Tree} :
    operation ∈ operations template types ↔ Performs types template operation := by
  unfold operations Performs
  rw [List.mem_append, mem_declaredOperations_iff]
  apply or_congr_right
  cases isTyped : (template.get? "type").bind Tree.text? with
  | none =>
      simp only [List.flatMap_nil, List.not_mem_nil, false_iff]
      rintro ⟨type, _, _, typed, _⟩
      rw [Tree.bind_text?_eq_some_iff.mpr typed] at isTyped
      contradiction
  | some type =>
      have typed := Tree.bind_text?_eq_some_iff.mp isTyped
      simp only [List.mem_flatMap, List.mem_filterMap, mem_lineage_iff, mem_declaredOperations_iff]
      constructor
      · rintro ⟨element, ⟨ancestor, derives, declared⟩, declares⟩
        exact ⟨type, ancestor, element, typed, derives, declared, declares⟩
      · rintro ⟨other, ancestor, element, itsType, derives, declared, declares⟩
        cases typed.symm.trans itsType
        exact ⟨element, ⟨ancestor, derives, declared⟩, declares⟩

end Blueprint.Placement
