import Blueprint.Instance.Validation
import Mathlib.Data.List.Perm.Basic

/-!
# Documents node by node

The nodes of a document in one list, each with those that enclose it and after everything below it
(`Validation.visits`).  The list has exactly the enclosed nodes (`mem_visits_iff`), and the order in
which the parts of each node are visited does not change which these are (`visits_perm`).  The
obligations of a document are the rules of the listed nodes (`obligations_eq_listed`).
-/

namespace Blueprint

namespace Instance

theorem sizeOf_lt_of_mem_children {node part : Instance} (member : part ∈ node.children) :
    sizeOf part < sizeOf node := by
  cases node with
  | leaf header raw => exact absurd member List.not_mem_nil
  | items header children =>
      have smaller := List.sizeOf_lt_of_mem (show part ∈ children from member)
      simp only [Instance.items.sizeOf_spec]
      omega
  | fields header children | entries header children =>
      obtain ⟨⟨key, child⟩, isEntry, rfl⟩ :=
        List.mem_map.mp (show part ∈ children.map _ from member)
      have smaller := List.sizeOf_lt_of_mem isEntry
      simp only [Prod.mk.sizeOf_spec, Instance.fields.sizeOf_spec,
        Instance.entries.sizeOf_spec] at smaller ⊢
      omega

/-- What passes from the children of a node to the node holds of all nodes. -/
theorem induction {motive : Instance → Prop}
    (step : ∀ node, (∀ part ∈ node.children, motive part) → motive node) (node : Instance) :
    motive node :=
  step node fun part _ => induction step part
termination_by node
decreasing_by
  apply sizeOf_lt_of_mem_children
  assumption

end Instance

namespace Validation

/-- The nodes of a document with those that enclose them, closest first. -/
inductive Encloses (root : Instance) : (ancestors : List Instance) → Instance → Prop
  | root : Encloses root [] root
  | child {ancestors node part} (encloses : Encloses root ancestors node)
      (member : part ∈ node.children) : Encloses root (node :: ancestors) part

/-- The outermost enclosing node is the root. -/
theorem Encloses.getLast_eq {root node : Instance} {ancestors : List Instance}
    (encloses : Encloses root ancestors node) : ancestors.getLast?.getD node = root := by
  induction encloses with
  | root => rfl
  | child _ _ ih =>
      rw [List.getLast?_cons, Option.getD_some]
      exact ih

/-- An order in which the parts of each node are visited. -/
structure Arrangement where
  /-- The parts of a node. -/
  parts : Instance → List Instance
  /-- Each of them is visited once. -/
  perm : ∀ node, (parts node).Perm node.children

/-- The order in which parts are listed: by key, or by index. -/
def Arrangement.listed : Arrangement :=
  ⟨Instance.children, fun _ => .refl _⟩

/-- What the rules of a node and of all nodes below it see, given the nodes that enclose it: first
what those of its parts see, then its own. -/
def visits (registry : Registry) (arrangement : Arrangement) (ancestors : List Instance)
    (node : Instance) : List Context :=
  (arrangement.parts node).attach.flatMap
    (fun part => visits registry arrangement (node :: ancestors) part.1) ++
    [⟨registry, node, ancestors⟩]
termination_by node
decreasing_by exact Instance.sizeOf_lt_of_mem_children ((arrangement.perm node).subset part.2)

/-- The obligations in a context: the rules of its node. -/
def obligationsIn (context : Context) : List Obligation :=
  obligationsHere context.registry context.node context.ancestors

section

variable (registry : Registry) (arrangement : Arrangement) (ancestors : List Instance)
  (node : Instance)

theorem visits_eq :
    visits registry arrangement ancestors node =
      (arrangement.parts node).flatMap (visits registry arrangement (node :: ancestors)) ++
        [⟨registry, node, ancestors⟩] := by
  rw [visits, List.flatMap_subtype fun _ _ => rfl, List.unattach_attach]

theorem self_mem_visits :
    ⟨registry, node, ancestors⟩ ∈ visits registry arrangement ancestors node := by
  rw [visits_eq]
  exact List.mem_concat_self

/-- In whatever order parts are visited, the same nodes are. -/
theorem visits_perm (other : Arrangement) :
    (visits registry arrangement ancestors node).Perm (visits registry other ancestors node) := by
  induction node using Instance.induction generalizing ancestors with
  | step node ih =>
      rw [visits_eq, visits_eq]
      have within : ((arrangement.parts node).flatMap
            (visits registry arrangement (node :: ancestors))).Perm
          ((arrangement.parts node).flatMap (visits registry other (node :: ancestors))) := by
        apply List.Perm.flatMap_left
        intro part member
        exact ih part ((arrangement.perm node).subset member) (node :: ancestors)
      have among := (arrangement.perm node).trans (other.perm node).symm
      exact (within.trans (among.flatMap_right _)).append_right _

end

section

variable {registry : Registry} {arrangement : Arrangement} {root node : Instance}
  {ancestors : List Instance}

theorem Encloses.of_mem_visits {context : Context} (encloses : Encloses root ancestors node)
    (member : context ∈ visits registry arrangement ancestors node) :
    context.registry = registry ∧ Encloses root context.ancestors context.node := by
  induction node using Instance.induction generalizing ancestors with
  | step node ih =>
      rw [visits_eq] at member
      rcases List.mem_append.mp member with below | here
      · obtain ⟨part, isPart, itsMember⟩ := List.mem_flatMap.mp below
        have isChild := (arrangement.perm node).subset isPart
        exact ih part isChild (encloses.child isChild) itsMember
      · cases List.mem_singleton.mp here
        exact ⟨rfl, encloses⟩

/-- What is visited for a node is visited for the document. -/
theorem Encloses.visits_subset (encloses : Encloses root ancestors node) :
    visits registry arrangement ancestors node ⊆ visits registry arrangement [] root := by
  induction encloses with
  | root => exact List.Subset.refl _
  | @child ancestors node part _ member ih =>
      apply List.Subset.trans _ ih
      intro context visited
      rw [visits_eq registry arrangement ancestors node]
      apply List.mem_append_left
      exact List.mem_flatMap.mpr ⟨part, (arrangement.perm node).symm.subset member, visited⟩

/-- The nodes that are visited are those that the document encloses. -/
theorem mem_visits_iff {context : Context} :
    context ∈ visits registry arrangement [] root ↔
      context.registry = registry ∧ Encloses root context.ancestors context.node := by
  constructor
  · exact Encloses.of_mem_visits .root
  · rintro ⟨rfl, encloses⟩
    exact encloses.visits_subset (self_mem_visits _ _ _ _)

end

/-! ## Obligations -/

section

variable (registry : Registry) (ancestors : List Instance)

theorem obligationsOfAll_eq_flatMap (nodes : List Instance) :
    obligationsOfAll registry ancestors nodes =
      nodes.flatMap (obligationsOf registry ancestors) := by
  induction nodes with
  | nil => rfl
  | cons node rest ih => rw [obligationsOfAll, ih, List.flatMap_cons]

theorem obligationsOfEntries_eq_flatMap (nodes : List (String × Instance)) :
    obligationsOfEntries registry ancestors nodes =
      (Entries.values nodes).flatMap (obligationsOf registry ancestors) := by
  induction nodes with
  | nil => rfl
  | cons entry rest ih =>
      rw [obligationsOfEntries, ih, Entries.values, Entries.values, List.map_cons,
        List.flatMap_cons]

theorem obligationsOf_eq (node : Instance) :
    obligationsOf registry ancestors node =
      node.children.flatMap (obligationsOf registry (node :: ancestors)) ++
        obligationsIn ⟨registry, node, ancestors⟩ := by
  cases node with
  | leaf header raw => rfl
  | items header children =>
      rw [obligationsOf, obligationsOfAll_eq_flatMap]
      rfl
  | fields header children | entries header children =>
      rw [obligationsOf, obligationsOfEntries_eq_flatMap]
      rfl

theorem obligationsOf_eq_flatMap (node : Instance) :
    obligationsOf registry ancestors node =
      (visits registry .listed ancestors node).flatMap obligationsIn := by
  induction node using Instance.induction generalizing ancestors with
  | step node ih =>
      rw [obligationsOf_eq, visits_eq, List.flatMap_append, List.flatMap_singleton,
        List.flatMap_assoc]
      congr 1
      exact List.flatMap_congr fun part member => ih part member (node :: ancestors)

end

/-- All rules for a document, node by node, with the parts of nodes visited in some order. -/
def obligationsBy (registry : Registry) (arrangement : Arrangement) (root : Instance) :
    List Obligation :=
  (visits registry arrangement [] root).flatMap obligationsIn

/-- The obligations of a document are the rules of its nodes, those of a node after those of
everything below it. -/
theorem obligations_eq_listed (registry : Registry) (root : Instance) :
    obligations registry root = obligationsBy registry .listed root :=
  obligationsOf_eq_flatMap registry [] root

end Validation

end Blueprint
