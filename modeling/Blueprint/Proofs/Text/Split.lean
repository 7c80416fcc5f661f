import Blueprint.Text.Split
import Mathlib.Data.List.Basic
import Mathlib.Data.List.Induction

/-!
# Parts of texts

Splitting at a mark undoes joining with it: the parts of two texts with a mark between them are the
parts of both (`split_append`), no part has a mark in it, and parts without a mark are found again
(`split_intercalate`).
-/

namespace Blueprint

namespace Text

variable (mark : Char)

theorem split_ne_nil (chars : List Char) : split mark chars ≠ [] := by
  cases chars with
  | nil => simp [split]
  | cons char rest =>
      rw [split]
      split
      · simp
      · split <;> simp

theorem split_append (first second : List Char) :
    split mark (first ++ mark :: second) = split mark first ++ split mark second := by
  induction first with
  | nil => simp [split]
  | cons char rest ih =>
      by_cases isMark : char = mark
      · simp [split, isMark, ih]
      · obtain ⟨part, others, parts⟩ := List.exists_cons_of_ne_nil (split_ne_nil mark rest)
        simp [split, isMark, ih, parts]

theorem split_of_absent {mark : Char} {chars : List Char} (absent : mark ∉ chars) :
    split mark chars = [chars] := by
  induction chars with
  | nil => rfl
  | cons char rest ih =>
      rw [List.mem_cons, not_or] at absent
      simp [split, Ne.symm absent.1, ih absent.2]

theorem absent_of_mem_split {mark : Char} {chars part : List Char}
    (member : part ∈ split mark chars) : mark ∉ part := by
  induction chars generalizing part with
  | nil => simp_all [split]
  | cons char rest ih =>
      by_cases isMark : char = mark
      · simp only [split, if_pos isMark, List.mem_cons] at member
        rcases member with rfl | later
        · exact List.not_mem_nil
        · exact ih later
      · obtain ⟨first, others, parts⟩ := List.exists_cons_of_ne_nil (split_ne_nil mark rest)
        simp only [split, if_neg isMark, parts, List.mem_cons] at member ih
        rcases member with rfl | later
        · simp [Ne.symm isMark, ih (.inl rfl)]
        · exact ih (.inr later)

/-- The first of several parts ends at the first mark. -/
theorem exists_append_of_split {chars first second : List Char} {others : List (List Char)}
    (parts : split mark chars = first :: second :: others) :
    ∃ rest, chars = first ++ mark :: rest := by
  induction chars generalizing first with
  | nil => simp [split] at parts
  | cons char rest ih =>
      by_cases isMark : char = mark
      · simp only [split, if_pos isMark, List.cons.injEq] at parts
        obtain ⟨rfl, _⟩ := parts
        exact ⟨rest, by rw [isMark, List.nil_append]⟩
      · obtain ⟨part, more, restParts⟩ := List.exists_cons_of_ne_nil (split_ne_nil mark rest)
        simp only [split, if_neg isMark, restParts, List.cons.injEq] at parts
        obtain ⟨rfl, rfl⟩ := parts
        obtain ⟨beyond, rfl⟩ := ih restParts
        exact ⟨beyond, rfl⟩

theorem split_intercalate {parts : List (List Char)} (some : parts ≠ [])
    (absent : ∀ part ∈ parts, mark ∉ part) : split mark ([mark].intercalate parts) = parts := by
  induction parts with
  | nil => exact absurd rfl some
  | cons part rest ih =>
      obtain ⟨here, later⟩ := List.forall_mem_cons.mp absent
      cases rest with
      | nil => simp [List.intercalate, split_of_absent here]
      | cons next others =>
          have joined : [mark].intercalate (part :: next :: others) =
              part ++ mark :: [mark].intercalate (next :: others) := by
            simp [List.intercalate, List.intersperse]
          rw [joined, split_append, split_of_absent here, ih (List.cons_ne_nil _ _) later]
          rfl

/-- The last part ends as the whole does. -/
theorem split_concat {mark char : Char} (other : char ≠ mark) (chars : List Char) :
    ∃ first last, split mark (chars ++ [char]) = first ++ [last ++ [char]] := by
  induction chars with
  | nil => exact ⟨[], [], by simp [split, other]⟩
  | cons next rest ih =>
      obtain ⟨first, last, parts⟩ := ih
      by_cases isMark : next = mark
      · exact ⟨[] :: first, last, by simp [split, isMark, parts]⟩
      · cases first with
        | nil => exact ⟨[], next :: last, by simp [split, isMark, parts]⟩
        | cons part others => exact ⟨(next :: part) :: others, last, by simp [split, isMark, parts]⟩

theorem parts_append (first second : String) :
    parts '/' (first ++ "/" ++ second) = parts '/' first ++ parts '/' second := by
  have chars : (first ++ "/" ++ second).toList = first.toList ++ '/' :: second.toList := by
    simp [String.toList_append]
  rw [parts, chars, split_append, List.map_append, parts, parts]

end Text

end Blueprint
