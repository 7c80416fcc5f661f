import Blueprint.Proofs.Files.Paths

/-!
# Opening files of a folder

A folder follows a path step by step.  Empty steps and dots on the way make no difference,
so paths of the same naming steps lead to the same file: its files are `Files.Stepwise`
(`Folder.stepwise`).
-/

namespace Blueprint

namespace Files

/-- The text of the file to which a path leads. -/
def text? (files : Files) (path : String) : Option String :=
  (files.openPath path).toOption.bind Opened.text?

/-- Paths are followed step by step, from the root or from the place of the program: two
paths of the same steps lead to the same file, and no path leads to a file that does not
end with a name. -/
structure Stepwise (files : Files) : Prop where
  same : ∀ first second, (IsAbsolute first ↔ IsAbsolute second) →
    endsNamed first = endsNamed second → Folder.naming first = Folder.naming second →
      files.text? first = files.text? second
  named : ∀ path, endsNamed path = false → files.text? path = none

end Files

namespace Folder

open Files

/-- What is reached step by step from a place. -/
def run (folder : Folder) (steps : List String) (place : Place) : Except FileError Place :=
  steps.foldlM folder.step place

variable (folder : Folder)

theorem run_append (first second : List String) (place : Place) :
    folder.run (first ++ second) place = folder.run first place >>= folder.run second :=
  List.foldlM_append

/-- Dots on the way make no difference. -/
theorem run_dots (steps : List String) (named : ∀ step ∈ steps, step ≠ "") (last : String)
    (place : Place) :
    folder.run (steps ++ [last]) place = folder.run (steps.filter counts ++ [last]) place := by
  induction steps generalizing place with
  | nil => rfl
  | cons step rest ih =>
      obtain ⟨some, others⟩ := List.forall_mem_cons.mp named
      by_cases dot : step = "."
      · have idle : counts step = false := by simp [counts, dot]
        rw [List.filter_cons_of_neg (by simp [idle])]
        cases place with
        | file content =>
            cases shorter : rest.filter counts <;> rfl
        | inside above =>
            rw [← ih others, dot]
            rfl
        | outside =>
            rw [← ih others, dot]
            rfl
      · have counting : counts step = true := by simp [counts, some, dot]
        rw [List.filter_cons_of_pos counting]
        simp only [run, List.cons_append, List.foldlM_cons]
        cases folder.step place step with
        | error cause => rfl
        | ok next => exact ih others next

/-- The way of a path that ends with a name. -/
theorem run_way {path : String} (named : endsNamed path) (place : Place) :
    folder.run (way path) place = folder.run (naming path) place := by
  obtain ⟨first, last, parts, counting⟩ := endsNamed_iff.mp named
  have some : last ≠ "" ∧ last ≠ "." := by simpa [counts] using counting
  have open_ : path.toList.getLast? ≠ Option.some '/' := by
    intro closed
    obtain ⟨chars, ends⟩ := List.getLast?_eq_some_iff.mp closed
    rw [Text.parts, ends, Text.split_append, List.map_append] at parts
    obtain ⟨_, same⟩ := List.append_inj' parts rfl
    simp [Text.split, some.1.symm] at same
  have dots := folder.run_dots (first.filter (· != "")) (by simp) last place
  have same : (first.filter (· != "")).filter counts = first.filter counts := by
    rw [List.filter_filter]
    apply List.filter_congr
    intro step _
    simp only [counts, Bool.and_eq_left_iff_imp, Bool.and_eq_true]
    exact And.left
  rw [same] at dots
  rw [way, if_neg open_, naming_eq, parts]
  simpa [some, counting] using dots

/-- The way of a path that does not end with a name ends with a dot. -/
theorem way_idle {path : String} (idle : endsNamed path = false) (some : path ≠ "") :
    ∃ steps, way path = steps ++ ["."] := by
  by_cases closed : path.toList.getLast? = Option.some '/'
  · exact ⟨_, if_pos closed⟩
  · rw [way, if_neg closed]
    obtain ⟨chars, char, whole⟩ : ∃ chars char, path.toList = chars ++ [char] := by
      rcases List.eq_nil_or_concat path.toList with none | ⟨chars, char, whole⟩
      · exact absurd (by simpa using none) some
      · exact ⟨chars, char, by simpa using whole⟩
    have other : char ≠ '/' := by simpa [whole] using closed
    obtain ⟨first, last, parts⟩ := Text.split_concat other chars
    have isParts : Text.parts '/' path =
        first.map String.ofList ++ [String.ofList (last ++ [char])] := by
      simp [Text.parts, whole, parts]
    have filled : String.ofList (last ++ [char]) ≠ "" := by simp [← String.toList_inj]
    have dot : String.ofList (last ++ [char]) = "." := by
      simpa [endsNamed, isParts, counts, filled] using idle
    rw [isParts, dot]
    exact ⟨_, List.filter_append _ _⟩

/-- A path that does not end with a name leads to no file. -/
theorem run_way_idle {path : String} (idle : endsNamed path = false) (some : path ≠ "")
    (place : Place) (content : String) : folder.run (way path) place ≠ .ok (.file content) := by
  obtain ⟨steps, ends⟩ := way_idle idle some
  rw [ends, run_append]
  rcases folder.run steps place with cause | _ | _ | _
  all_goals
    intro reached
    cases reached

/-- The text of a file depends on the steps that name something, on whether the path is
absolute and on whether it ends with a name. -/
theorem text?_eq (path : String) :
    folder.toFiles.text? path =
      if IsAbsolute path ∨ endsNamed path = false then none
      else (folder.run (naming path) (.inside [])).toOption.bind fun place =>
        match place with
        | .file content => some content
        | _ => none := by
  have opened : folder.toFiles.openPath path = folder.openPath path := rfl
  rw [Files.text?, opened, openPath]
  by_cases absolute : IsAbsolute path
  · have head : path.toList.head? = some '/' := absolute
    simp [absolute, head, Except.toOption]
  · have head : ¬ path.toList.head? = some '/' := absolute
    by_cases empty : path = ""
    · subst empty
      rfl
    · have isSome : path.isEmpty = false := by simpa using empty
      rw [if_neg (by simp [isSome, head])]
      cases named : endsNamed path with
      | false =>
          have reached := folder.run_way_idle named empty (.inside [])
          rw [if_pos (.inr rfl)]
          rw [run] at reached
          generalize List.foldlM folder.step (.inside []) (way path) = outcome at reached ⊢
          rcases outcome with cause | _ | _ | content
          · rfl
          · rfl
          · rfl
          · exact absurd rfl (reached content)
      | true =>
          have reached := folder.run_way named (.inside [])
          rw [if_neg (by simp [absolute]), ← reached, run]
          rcases List.foldlM folder.step (.inside []) (way path) with cause | _ | _ | content <;> rfl

/-- The paths of a folder are followed step by step. -/
theorem stepwise : folder.toFiles.Stepwise := by
  constructor
  case same =>
    intro first second absolute ends same
    rw [text?_eq, text?_eq, ends, same]
    simp only [absolute]
  case named =>
    intro path idle
    rw [text?_eq, if_pos (.inr idle)]

end Folder

end Blueprint
