import Blueprint.Proofs.Document.Content
import Blueprint.Proofs.Plan.CanonicalText

/-!
# Plans with the same digest

Plans are compared by content and digested by text.  The two come apart at the zeros of floats, whose
signs are written but not compared.  Trees that agree and have the same signs are equal
(`Tree.congruent_toldBySigns`), and so are trees with the same text.  So plans that agree have the
same text exactly if their zeros have the same signs (`Plan.digest_of_agrees`).
-/

namespace Blueprint

namespace Tree

mutual

/-- The signs of the float zeros of a tree, in the order in which they are written. -/
def zeroSigns : Tree → List Bool
  | .number (.float value) => if value.units = 0 then [value.negative] else []
  | .sequence items => zeroSignsAll items
  | .mapping entries => zeroSignsEntries entries
  | _ => []

/-- The signs of the float zeros of some trees. -/
def zeroSignsAll : List Tree → List Bool
  | [] => []
  | item :: rest => zeroSigns item ++ zeroSignsAll rest

/-- The signs of the float zeros of the values of some entries. -/
def zeroSignsEntries : List (String × Tree) → List Bool
  | [] => []
  | (_, value) :: rest => zeroSigns value ++ zeroSignsEntries rest

end

/-- Trees that have as many zeros and are told apart by their signs. -/
def ToldBySigns (left right : Tree) : Prop :=
  left.zeroSigns.length = right.zeroSigns.length ∧ (left.zeroSigns = right.zeroSigns → left = right)

theorem zeroSignsAll_told {lefts rights : List Tree} (told : List.Forall₂ ToldBySigns lefts rights) :
    (zeroSignsAll lefts).length = (zeroSignsAll rights).length ∧
      (zeroSignsAll lefts = zeroSignsAll rights → lefts = rights) := by
  induction told with
  | nil => exact ⟨rfl, fun _ => rfl⟩
  | cons first _ ih =>
      simp only [zeroSignsAll]
      constructor
      · rw [List.length_append, List.length_append, first.1, ih.1]
      · intro same
        rcases List.append_inj same first.1 with ⟨here, later⟩
        rw [first.2 here, ih.2 later]

theorem zeroSignsEntries_told {lefts rights : List (String × Tree)}
    (told : List.Forall₂ (fun left right => left.1 = right.1 ∧ ToldBySigns left.2 right.2)
      lefts rights) :
    (zeroSignsEntries lefts).length = (zeroSignsEntries rights).length ∧
      (zeroSignsEntries lefts = zeroSignsEntries rights → lefts = rights) := by
  induction told with
  | nil => exact ⟨rfl, fun _ => rfl⟩
  | @cons left right _ _ first _ ih =>
      rcases left with ⟨name, left⟩
      rcases right with ⟨other, right⟩
      rcases first with ⟨sameName, lengths, signs⟩
      cases sameName
      simp only [zeroSignsEntries]
      constructor
      · rw [List.length_append, List.length_append, lengths, ih.1]
      · intro same
        rcases List.append_inj same lengths with ⟨here, later⟩
        rw [show left = right from signs here, ih.2 later]

theorem congruent_toldBySigns : Congruent ToldBySigns where
  null := ⟨rfl, fun _ => rfl⟩
  bool _ := ⟨rfl, fun _ => rfl⟩
  number left right same := by
    rcases Number.eq_or_zeros_of_agrees same with rfl | ⟨first, second, rfl, rfl⟩
    · exact ⟨rfl, fun _ => rfl⟩
    · constructor
      · rfl
      · intro signs
        cases signs
        rfl
  string _ := ⟨rfl, fun _ => rfl⟩
  sequence lefts rights told := by
    rcases zeroSignsAll_told told with ⟨lengths, signs⟩
    exact ⟨lengths, fun same => congrArg Tree.sequence (signs same)⟩
  mapping lefts rights told := by
    rcases zeroSignsEntries_told told with ⟨lengths, signs⟩
    exact ⟨lengths, fun same => congrArg Tree.mapping (signs same)⟩

end Tree

/-- Plans that agree have the same canonical text exactly if the zeros of their floats have the same
signs.  Then they have the same digest, and so they do if no zero has a minus sign. -/
theorem Plan.digest_of_agrees {left right : Plan} (same : left.agrees right = true) :
    (Json.text left.toTree = Json.text right.toTree ↔
        left.toTree.zeroSigns = right.toTree.zeroSigns) ∧
      (left.toTree.zeroSigns = right.toTree.zeroSigns → left.digest = right.digest) ∧
      (true ∉ left.toTree.zeroSigns → true ∉ right.toTree.zeroSigns →
        left.digest = right.digest) := by
  rcases Tree.congruent_toldBySigns.of_agrees left.toTree right.toTree same with ⟨lengths, signs⟩
  have texts : Json.text left.toTree = Json.text right.toTree ↔
      left.toTree.zeroSigns = right.toTree.zeroSigns := by
    constructor
    · intro text
      rw [Json.text_injective text]
    · intro sameSigns
      rw [signs sameSigns]
  have digests : left.toTree.zeroSigns = right.toTree.zeroSigns → left.digest = right.digest :=
    fun sameSigns => congrArg Digest.ofText (texts.mpr sameSigns)
  refine ⟨texts, digests, ?_⟩
  intro leftPlus rightPlus
  have plus {signs : List Bool} (none : true ∉ signs) :
      signs = List.replicate signs.length false := by
    apply List.eq_replicate_length.mpr
    intro sign member
    cases sign with
    | false => rfl
    | true => contradiction
  apply digests
  rw [plus leftPlus, plus rightPlus, lengths]

/-- Sections that are added in another order make the same text and digest, whatever the sign of a
zero is. -/
theorem Plan.digest_of_sections :
    ∃ left right : Plan,
      Plan.insertSections ⟨∅⟩ [("drift", .number (.float (.zero true))), ("name", .string "clock")] =
        .ok left ∧
      Plan.insertSections ⟨∅⟩ [("name", .string "clock"), ("drift", .number (.float (.zero true)))] =
        .ok right ∧
      left.agrees right = true ∧ left.digest = right.digest := by
  obtain ⟨left, right, isLeft, isRight, same, signs⟩ :
      ∃ left right : Plan,
        Plan.insertSections ⟨∅⟩
          [("drift", .number (.float (.zero true))), ("name", .string "clock")] = .ok left ∧
        Plan.insertSections ⟨∅⟩
          [("name", .string "clock"), ("drift", .number (.float (.zero true)))] = .ok right ∧
        left.agrees right = true ∧ left.toTree.zeroSigns = right.toTree.zeroSigns :=
    ⟨_, _, rfl, rfl, rfl, rfl⟩
  exact ⟨left, right, isLeft, isRight, same, (Plan.digest_of_agrees same).2.1 signs⟩

/-- A plan with a zero and nothing else. -/
def zeroPlan (negative : Bool) : Plan :=
  ⟨Dict.ofList [("a", .number (.float (.zero negative)))]⟩

/-- The two zeros are one value and have two texts, so equal plans can have different digests. -/
theorem Plan.signed_zeros_digest :
    (zeroPlan false).agrees (zeroPlan true) = true ∧
      Json.text (zeroPlan false).toTree ≠ Json.text (zeroPlan true).toTree ∧
      (zeroPlan false).digest ≠ (zeroPlan true).digest :=
  ⟨rfl, by decide +kernel, by decide +kernel⟩

end Blueprint
