import Blueprint.Decimal.Binary64
import Blueprint.Entries

/-!
# Document trees

A document is a tree of nulls, booleans, numbers, strings, sequences and
mappings.  Readers produce mappings with ascending keys; `Tree.Ordered` says so
of a whole tree, and `Json.read?_ordered` and `Yaml.read?_ordered` of what is read.
Operations on trees do not rely on it.

Integers and floats are different numbers, also where they have the same value.
`Tree.agrees` is equality of content: it differs from equality only in that the
two float zeros agree.
-/

namespace Blueprint

/-- A number in a document: an integer or a finite binary64 number. -/
inductive Number where
  | int (value : Int)
  | float (value : Binary64)
deriving DecidableEq

/-- Equality of numbers, for which the two float zeros are one. -/
def Number.agrees : Number → Number → Bool
  | .int left, .int right => left == right
  | .float left, .float right => decide (left.Same right)
  | _, _ => false

/-- A document or a part of one. -/
inductive Tree where
  | null
  | bool (value : Bool)
  | number (value : Number)
  | string (value : String)
  | sequence (items : List Tree)
  | mapping (entries : List (String × Tree))
deriving Inhabited

/-- The kinds of tree that messages tell apart. -/
inductive Shape where
  | null
  | boolean
  | integer
  | number
  | string
  | sequence
  | mapping
deriving DecidableEq

/-- The name of a shape in messages. -/
def Shape.name : Shape → String
  | .null => "null"
  | .boolean => "boolean"
  | .integer => "integer"
  | .number => "number"
  | .string => "string"
  | .sequence => "sequence"
  | .mapping => "mapping"

namespace Tree

/-- The shape of a tree.  A float is a number, an integer is not. -/
def shape : Tree → Shape
  | .null => .null
  | .bool _ => .boolean
  | .number (.int _) => .integer
  | .number (.float _) => .number
  | .string _ => .string
  | .sequence _ => .sequence
  | .mapping _ => .mapping

/-- The tree of a whole number. -/
def int (value : Int) : Tree :=
  .number (.int value)

/-- Whether a tree is null. -/
def isNull : Tree → Bool
  | .null => true
  | _ => false

/-- The text of a string. -/
def text? : Tree → Option String
  | .string value => some value
  | _ => none

/-- The items of a sequence. -/
def items? : Tree → Option (List Tree)
  | .sequence items => some items
  | _ => none

/-- The entries of a mapping. -/
def entries? : Tree → Option (Entries Tree)
  | .mapping entries => some entries
  | _ => none

theorem text?_eq_some_iff {tree : Tree} {text : String} :
    tree.text? = some text ↔ tree = .string text := by
  cases tree <;> simp [text?]

theorem items?_eq_some_iff {tree : Tree} {items : List Tree} :
    tree.items? = some items ↔ tree = .sequence items := by
  cases tree <;> simp [items?]

theorem entries?_eq_some_iff {tree : Tree} {entries : Entries Tree} :
    tree.entries? = some entries ↔ tree = .mapping entries := by
  cases tree <;> simp [entries?]

theorem bind_text?_eq_some_iff {tree : Option Tree} {text : String} :
    tree.bind text? = some text ↔ tree = some (.string text) := by
  simp [Option.bind_eq_some_iff, text?_eq_some_iff]

theorem bind_items?_eq_some_iff {tree : Option Tree} {items : List Tree} :
    tree.bind items? = some items ↔ tree = some (.sequence items) := by
  simp [Option.bind_eq_some_iff, items?_eq_some_iff]

/-- The value that a mapping holds under a key. -/
def get? (tree : Tree) (key : String) : Option Tree :=
  tree.entries?.bind fun entries => Entries.get? entries key

mutual

/-- Equality of content: equality, except that the two float zeros agree. -/
def agrees : Tree → Tree → Bool
  | .null, .null => true
  | .bool left, .bool right => left == right
  | .number left, .number right => left.agrees right
  | .string left, .string right => left == right
  | .sequence left, .sequence right => agreesAll left right
  | .mapping left, .mapping right => agreesEntries left right
  | _, _ => false

/-- Sequences of the same length whose items agree. -/
def agreesAll : List Tree → List Tree → Bool
  | [], [] => true
  | left :: lefts, right :: rights => agrees left right && agreesAll lefts rights
  | _, _ => false

/-- Entries with the same names whose values agree. -/
def agreesEntries : List (String × Tree) → List (String × Tree) → Bool
  | [], [] => true
  | (leftName, left) :: lefts, (rightName, right) :: rights =>
      leftName == rightName && agrees left right && agreesEntries lefts rights
  | _, _ => false

end

/-- The trees directly within a tree. -/
def parts : Tree → List Tree
  | .sequence items => items
  | .mapping entries => Entries.values entries
  | _ => []

theorem mem_parts_of_get? {tree part : Tree} {key : String}
    (found : tree.get? key = some part) : part ∈ tree.parts := by
  cases tree with
  | mapping entries => exact Entries.mem_values_of_get? found
  | _ => contradiction

theorem sizeOf_lt_of_mem_parts {tree part : Tree} (member : part ∈ tree.parts) :
    sizeOf part < sizeOf tree := by
  cases tree with
  | sequence items =>
      have smaller := List.sizeOf_lt_of_mem (show part ∈ items from member)
      simp only [Tree.sequence.sizeOf_spec]
      omega
  | mapping entries =>
      obtain ⟨⟨key, value⟩, isEntry, rfl⟩ := List.mem_map.mp (show part ∈ entries.map _ from member)
      have smaller := List.sizeOf_lt_of_mem isEntry
      simp only [Prod.mk.sizeOf_spec, Tree.mapping.sizeOf_spec] at smaller ⊢
      omega
  | _ => exact absurd member List.not_mem_nil

/-- What passes from the parts of a tree to the tree holds of all trees. -/
theorem induction {motive : Tree → Prop}
    (step : ∀ tree, (∀ part ∈ tree.parts, motive part) → motive tree) (tree : Tree) :
    motive tree :=
  step tree fun part _ => induction step part
termination_by tree
decreasing_by
  apply sizeOf_lt_of_mem_parts
  assumption

mutual

/-- Every mapping of a tree has ascending keys. -/
def Ordered : Tree → Prop
  | .sequence items => OrderedAll items
  | .mapping entries => Entries.Ascending entries ∧ OrderedEntries entries
  | _ => True

/-- Every mapping of each tree in a list has ascending keys. -/
def OrderedAll : List Tree → Prop
  | [] => True
  | item :: rest => Ordered item ∧ OrderedAll rest

/-- Every mapping within the values of some entries has ascending keys. -/
def OrderedEntries : List (String × Tree) → Prop
  | [] => True
  | (_, value) :: rest => Ordered value ∧ OrderedEntries rest

end

theorem orderedAll_iff {items : List Tree} : OrderedAll items ↔ ∀ item ∈ items, item.Ordered := by
  induction items with
  | nil => simp [OrderedAll]
  | cons item rest ih => simp [OrderedAll, ih]

theorem orderedEntries_iff {entries : Entries Tree} :
    OrderedEntries entries ↔ ∀ value ∈ entries.values, value.Ordered := by
  induction entries with
  | nil => simp [OrderedEntries, Entries.values]
  | cons entry rest ih =>
      simp only [Entries.values] at ih
      simp [OrderedEntries, Entries.values, ih]

/-- The parts of an ordered tree are ordered. -/
theorem Ordered.of_mem_parts {tree part : Tree} (ordered : tree.Ordered)
    (member : part ∈ tree.parts) : part.Ordered := by
  cases tree with
  | sequence items => exact orderedAll_iff.mp ordered part member
  | mapping entries => exact orderedEntries_iff.mp ordered.2 part member
  | _ => exact absurd member List.not_mem_nil

theorem Ordered.of_get? {tree part : Tree} {key : String} (ordered : tree.Ordered)
    (holds : tree.get? key = some part) : part.Ordered :=
  ordered.of_mem_parts (mem_parts_of_get? holds)

end Tree

end Blueprint
