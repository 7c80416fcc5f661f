import Blueprint.Tree
import Mathlib.Data.List.Forall2

/-!
# The content of a tree

`Tree.agrees` compares trees by content.  `Tree.content` makes that content
explicit: it is the tree in which no zero has a sign.  Trees agree exactly when
their contents are equal (`Tree.agrees_iff`), so agreement is an equivalence, and
mappings that agree have agreeing entries.
-/

namespace Blueprint

/-- The number without the sign of a zero. -/
def Binary64.content (value : Binary64) : Binary64 :=
  ⟨value.negative && decide (value.units ≠ 0), value.units, value.representable⟩

theorem Binary64.same_iff (left right : Binary64) :
    left.Same right ↔ left.content = right.content := by
  rcases left with ⟨leftSign, leftUnits, leftFits⟩
  rcases right with ⟨rightSign, rightUnits, rightFits⟩
  simp only [Same, content, Binary64.mk.injEq]
  constructor
  · rintro ⟨rfl, zero | rfl⟩
    · simp [zero]
    · exact ⟨rfl, rfl⟩
  · rintro ⟨signs, rfl⟩
    by_cases zero : leftUnits = 0
    · exact ⟨rfl, Or.inl zero⟩
    · exact ⟨rfl, Or.inr (by simpa [zero] using signs)⟩

/-- The number without the sign of a zero. -/
def Number.content : Number → Number
  | .int value => .int value
  | .float value => .float value.content

theorem Number.agrees_iff (left right : Number) :
    left.agrees right = true ↔ left.content = right.content := by
  cases left <;> cases right <;> simp [agrees, content, Binary64.same_iff]

/-- Numbers that agree are equal or zeros. -/
theorem Number.eq_or_zeros_of_agrees {left right : Number} (same : left.agrees right = true) :
    left = right ∨ ∃ first second,
      left = .float (Binary64.zero first) ∧ right = .float (Binary64.zero second) := by
  cases left with
  | int left =>
      cases right with
      | int right =>
          rw [agrees, beq_iff_eq] at same
          exact .inl (congrArg Number.int same)
      | float right => contradiction
  | float left =>
      cases right with
      | int right => contradiction
      | float right =>
          rw [agrees, decide_eq_true_eq] at same
          rcases left with ⟨leftSign, leftUnits, leftFits⟩
          rcases right with ⟨rightSign, rightUnits, rightFits⟩
          rcases same with ⟨units, zero | signs⟩
          · cases units
            cases zero
            exact .inr ⟨leftSign, rightSign, rfl, rfl⟩
          · cases units
            cases signs
            exact .inl rfl

namespace Tree

mutual

/-- A tree in which no zero has a sign. -/
def content : Tree → Tree
  | .null => .null
  | .bool value => .bool value
  | .number value => .number value.content
  | .string value => .string value
  | .sequence items => .sequence (contentAll items)
  | .mapping entries => .mapping (contentEntries entries)

/-- The contents of some trees. -/
def contentAll : List Tree → List Tree
  | [] => []
  | item :: rest => content item :: contentAll rest

/-- The contents of the values of some entries. -/
def contentEntries : List (String × Tree) → List (String × Tree)
  | [] => []
  | (name, value) :: rest => (name, content value) :: contentEntries rest

end

theorem contentEntries_eq_mapValues (entries : List (String × Tree)) :
    contentEntries entries = Entries.mapValues (fun _ => content) entries := by
  induction entries with
  | nil => rfl
  | cons entry rest ih => exact congrArg _ ih

mutual

/-- Agreement is equality of content. -/
theorem agrees_iff : ∀ left right : Tree,
    left.agrees right = true ↔ left.content = right.content
  | .null, right => by cases right <;> simp [agrees, content]
  | .bool left, right => by cases right <;> simp [agrees, content]
  | .number left, right => by cases right <;> simp [agrees, content, Number.agrees_iff]
  | .string left, right => by cases right <;> simp [agrees, content]
  | .sequence lefts, right => by
      cases right with
      | sequence rights => simpa [agrees, content] using agreesAll_iff lefts rights
      | _ => simp [agrees, content]
  | .mapping lefts, right => by
      cases right with
      | mapping rights => simpa [agrees, content] using agreesEntries_iff lefts rights
      | _ => simp [agrees, content]

theorem agreesAll_iff : ∀ lefts rights : List Tree,
    agreesAll lefts rights = true ↔ contentAll lefts = contentAll rights
  | [], rights => by cases rights <;> simp [agreesAll, contentAll]
  | left :: lefts, rights => by
      cases rights with
      | nil => simp [agreesAll, contentAll]
      | cons right rights =>
          simp [agreesAll, contentAll, agrees_iff left right, agreesAll_iff lefts rights]

theorem agreesEntries_iff : ∀ lefts rights : List (String × Tree),
    agreesEntries lefts rights = true ↔ contentEntries lefts = contentEntries rights
  | [], rights => by cases rights <;> simp [agreesEntries, contentEntries]
  | (leftName, left) :: lefts, rights => by
      cases rights with
      | nil => simp [agreesEntries, contentEntries]
      | cons entry rights =>
          rcases entry with ⟨rightName, right⟩
          simp [agreesEntries, contentEntries, agrees_iff left right,
            agreesEntries_iff lefts rights]

end

theorem agrees_refl (tree : Tree) : tree.agrees tree = true :=
  (agrees_iff tree tree).mpr rfl

theorem agrees_symm {left right : Tree} (same : left.agrees right = true) :
    right.agrees left = true := by
  rw [agrees_iff] at same ⊢
  exact same.symm

theorem agrees_trans {left middle right : Tree} (first : left.agrees middle = true)
    (second : middle.agrees right = true) : left.agrees right = true := by
  rw [agrees_iff] at first second ⊢
  exact first.trans second

theorem shape_content (tree : Tree) : tree.content.shape = tree.shape := by
  cases tree with
  | number value => cases value <;> simp [content, Number.content, shape]
  | _ => simp [content, shape]

theorem shape_eq_of_agrees {left right : Tree} (same : left.agrees right = true) :
    left.shape = right.shape := by
  rw [agrees_iff] at same
  rw [← shape_content left, same, shape_content]

theorem get?_content (tree : Tree) (key : String) :
    tree.content.get? key = (tree.get? key).map content := by
  cases tree with
  | mapping entries =>
      simp [content, get?, entries?, contentEntries_eq_mapValues, Entries.get?_mapValues]
  | _ => simp [content, get?, entries?]

/-- Trees that agree hold agreeing values under a key. -/
theorem agrees_of_get? {left right leftPart rightPart : Tree} {key : String}
    (same : left.agrees right = true) (leftHolds : left.get? key = some leftPart)
    (rightHolds : right.get? key = some rightPart) : leftPart.agrees rightPart = true := by
  rw [agrees_iff] at same ⊢
  have held := congrArg (·.get? key) same
  simpa [get?_content, leftHolds, rightHolds] using held

/-- A relation that holds of agreeing numbers and equal trees without parts, and passes from parts
to the collections of them. -/
structure Congruent (related : Tree → Tree → Prop) : Prop where
  null : related .null .null
  bool : ∀ value, related (.bool value) (.bool value)
  number : ∀ left right : Number, left.agrees right = true →
    related (.number left) (.number right)
  string : ∀ value, related (.string value) (.string value)
  sequence : ∀ lefts rights, List.Forall₂ related lefts rights →
    related (.sequence lefts) (.sequence rights)
  mapping : ∀ lefts rights,
    List.Forall₂ (fun left right => left.1 = right.1 ∧ related left.2 right.2) lefts rights →
      related (.mapping lefts) (.mapping rights)

mutual

theorem Congruent.of_agrees {related : Tree → Tree → Prop} (congruent : Congruent related) :
    ∀ left right : Tree, left.agrees right = true → related left right
  | .null, right, same => by
      cases right with
      | null => exact congruent.null
      | _ => simp [agrees] at same
  | .bool left, right, same => by
      cases right with
      | bool right =>
          rw [agrees, beq_iff_eq] at same
          exact same ▸ congruent.bool left
      | _ => simp [agrees] at same
  | .number left, right, same => by
      cases right with
      | number right => exact congruent.number left right (by rwa [agrees] at same)
      | _ => simp [agrees] at same
  | .string left, right, same => by
      cases right with
      | string right =>
          rw [agrees, beq_iff_eq] at same
          exact same ▸ congruent.string left
      | _ => simp [agrees] at same
  | .sequence lefts, right, same => by
      cases right with
      | sequence rights =>
          rw [agrees] at same
          exact congruent.sequence lefts rights (congruent.forall_of_agreesAll lefts rights same)
      | _ => simp [agrees] at same
  | .mapping lefts, right, same => by
      cases right with
      | mapping rights =>
          rw [agrees] at same
          exact congruent.mapping lefts rights (congruent.forall_of_agreesEntries lefts rights same)
      | _ => simp [agrees] at same

theorem Congruent.forall_of_agreesAll {related : Tree → Tree → Prop}
    (congruent : Congruent related) :
    ∀ lefts rights : List Tree, agreesAll lefts rights = true → List.Forall₂ related lefts rights
  | [], rights, same => by
      cases rights with
      | nil => exact .nil
      | cons => simp [agreesAll] at same
  | left :: lefts, rights, same => by
      cases rights with
      | nil => simp [agreesAll] at same
      | cons right rights =>
          rw [agreesAll, Bool.and_eq_true] at same
          exact .cons (congruent.of_agrees left right same.1)
            (congruent.forall_of_agreesAll lefts rights same.2)

theorem Congruent.forall_of_agreesEntries {related : Tree → Tree → Prop}
    (congruent : Congruent related) :
    ∀ lefts rights : List (String × Tree), agreesEntries lefts rights = true →
      List.Forall₂ (fun left right => left.1 = right.1 ∧ related left.2 right.2) lefts rights
  | [], rights, same => by
      cases rights with
      | nil => exact .nil
      | cons => simp [agreesEntries] at same
  | (leftName, left) :: lefts, rights, same => by
      cases rights with
      | nil => simp [agreesEntries] at same
      | cons entry rights =>
          rcases entry with ⟨rightName, right⟩
          rw [agreesEntries, Bool.and_eq_true, Bool.and_eq_true, beq_iff_eq] at same
          exact .cons ⟨same.1.1, congruent.of_agrees left right same.1.2⟩
            (congruent.forall_of_agreesEntries lefts rights same.2)

end

end Tree

end Blueprint
