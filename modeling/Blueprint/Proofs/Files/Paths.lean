import Blueprint.Files.Folder
import Blueprint.Files.Paths
import Blueprint.Proofs.Text.Split
import Mathlib.Data.List.Basic
import Mathlib.Data.List.Induction

/-!
# Steps of joined paths

Of a path only the steps that name something matter, its `Folder.naming` steps, and
whether it is absolute.  The last step, the directory and the join of paths are described
by these steps.
-/

namespace Blueprint

namespace Files

open Folder (naming)

/-- Whether a step names something. -/
def counts (step : String) : Bool :=
  step != "" && step != "."

theorem naming_eq (path : String) : naming path = (Text.parts '/' path).filter counts :=
  rfl

/-- How a path starts. -/
inductive Starts (path : String) : String → Prop
  | absolute {rest} (chars : path.toList = '/' :: rest) : Starts path "/"
  | here {rest} (chars : path.toList = '.' :: '/' :: rest) : Starts path "."
  | dot (chars : path.toList = ['.']) : Starts path "."
  | plain (relative : path.toList.head? ≠ some '/') : Starts path ""

theorem starts_lead (path : String) : Starts path (lead path) := by
  unfold lead
  split
  case h_1 rest chars => exact .absolute chars
  case h_2 rest chars => exact .here chars
  case h_3 chars => exact .dot chars
  case h_4 notAbsolute _ _ =>
      apply Starts.plain
      intro slash
      obtain ⟨rest, chars⟩ := List.head?_eq_some_iff.mp slash
      exact notAbsolute rest chars

/-- The start of a path names nothing. -/
theorem filter_steps (path : String) : (steps path).filter counts = naming path := by
  rw [steps, naming_eq, Text.parts, Text.parts, String.toList_ofList]
  have lengths : "/".length = 1 ∧ ".".length = 1 := ⟨rfl, rfl⟩
  generalize start : lead path = first
  cases start ▸ starts_lead path with
  | absolute chars => simp [chars, lengths, Text.split, counts]
  | here chars => simp [chars, lengths, Text.split, counts]
  | dot chars => simp [chars, lengths, Text.split, counts]
  | plain => simp

theorem dropIdle_concat (first : List String) (last : String) :
    dropIdle (first ++ [last]) = if counts last then first ++ [last] else dropIdle first := by
  by_cases counting : counts last
  · rw [if_pos counting]
    rw [counts, Bool.and_eq_true, bne_iff_ne, bne_iff_ne] at counting
    simp [dropIdle, counting]
  · rw [if_neg counting]
    have idle : last = "" ∨ last = "." := by
      simpa [counts, or_iff_not_imp_left] using counting
    simp [dropIdle, idle]

theorem filter_dropIdle (steps : List String) :
    (dropIdle steps).filter counts = steps.filter counts := by
  induction steps using List.reverseRecOn with
  | nil => rfl
  | append_singleton first last ih =>
      rw [dropIdle_concat]
      split
      case isTrue => rfl
      case isFalse idle => simp [ih, idle]

theorem getLast?_dropIdle (steps : List String) :
    (dropIdle steps).getLast? = (steps.filter counts).getLast? := by
  induction steps using List.reverseRecOn with
  | nil => rfl
  | append_singleton first last ih =>
      rw [dropIdle_concat]
      split
      case isTrue counting => simp [counting]
      case isFalse idle => simp [ih, idle]

/-- The last step is the last one that names something. -/
theorem lastStep?_eq (path : String) : lastStep? path = (naming path).getLast? := by
  rw [lastStep?, getLast?_dropIdle, filter_steps]

/-! ## Joins -/

/-- Whether a path is absolute. -/
def IsAbsolute (path : String) : Prop :=
  path.toList.head? = some '/'

instance (path : String) : Decidable (IsAbsolute path) :=
  inferInstanceAs (Decidable (_ = _))

theorem naming_append (first second : String) :
    naming (first ++ "/" ++ second) = naming first ++ naming second := by
  rw [naming_eq, Text.parts_append, List.filter_append, ← naming_eq, ← naming_eq]

/-- A relative path is joined to a directory by a slash. -/
theorem exists_join {base path : String} (some : base ≠ "") (relative : ¬ IsAbsolute path) :
    ∃ first, join base path = first ++ "/" ++ path ∧ naming first = naming base ∧
      (IsAbsolute (first ++ "/" ++ path) ↔ IsAbsolute base) := by
  rw [join, if_neg (by simpa [some, IsAbsolute] using relative)]
  by_cases closed : base.toList.getLast? = Option.some '/'
  · obtain ⟨chars, ends⟩ := List.getLast?_eq_some_iff.mp closed
    have text : base = String.ofList chars ++ "/" := by
      rw [← String.toList_inj, String.toList_append, String.toList_ofList, ends]
      rfl
    have names := naming_append (String.ofList chars) ""
    refine ⟨String.ofList chars, ?_, ?_, ?_⟩
    · rw [if_pos closed, ← text]
    · rw [text]
      simpa [naming_eq, Text.parts, Text.split, counts] using names.symm
    · rw [← text, IsAbsolute, IsAbsolute, String.toList_append, ends]
      simp
  · refine ⟨base, if_neg closed, rfl, ?_⟩
    have chars : base.toList ≠ [] := by simpa using some
    obtain ⟨first, rest, chars⟩ := List.exists_cons_of_ne_nil chars
    simp [IsAbsolute, String.toList_append, chars]

theorem join_empty (path : String) : join "" path = path := by
  simp [join]

theorem join_absolute {path : String} (absolute : IsAbsolute path) (base : String) :
    join base path = path :=
  if_pos (by simp [show path.toList.head? = some '/' from absolute])

theorem naming_join (base : String) {path : String} (relative : ¬ IsAbsolute path) :
    naming (join base path) = naming base ++ naming path := by
  by_cases some : base = ""
  · rw [some, join_empty]
    rfl
  · obtain ⟨first, same, names, _⟩ := exists_join some relative
    rw [same, naming_append, names]

theorem isAbsolute_join (base : String) {path : String} (relative : ¬ IsAbsolute path) :
    IsAbsolute (join base path) ↔ IsAbsolute base := by
  by_cases some : base = ""
  · rw [some, join_empty]
    exact iff_of_false relative (by simp [IsAbsolute])
  · obtain ⟨first, same, _, absolute⟩ := exists_join some relative
    rw [same, absolute]

/-- Whether the last part of a path names something, so that the path can lead to a file. -/
def endsNamed (path : String) : Bool :=
  (Text.parts '/' path).getLast?.any counts

theorem endsNamed_join (base path : String) : endsNamed (join base path) = endsNamed path := by
  by_cases absolute : IsAbsolute path
  · rw [join_absolute absolute]
  · by_cases some : base = ""
    · rw [some, join_empty]
    · obtain ⟨first, same, _, _⟩ := exists_join some absolute
      have parts : Text.parts '/' path ≠ [] := by simp [Text.parts, Text.split_ne_nil]
      rw [same, endsNamed, Text.parts_append, List.getLast?_append_of_ne_nil _ parts, endsNamed]

theorem endsNamed_iff {path : String} :
    endsNamed path ↔ ∃ first last, Text.parts '/' path = first ++ [last] ∧ counts last := by
  rw [endsNamed, Option.any_eq_true]
  simp only [List.getLast?_eq_some_iff]
  constructor
  · rintro ⟨last, ⟨first, parts⟩, counting⟩
    exact ⟨first, last, parts, counting⟩
  · rintro ⟨first, last, parts, counting⟩
    exact ⟨last, ⟨first, parts⟩, counting⟩

theorem naming_ne_nil {path : String} (named : endsNamed path) : naming path ≠ [] := by
  obtain ⟨first, last, parts, counting⟩ := endsNamed_iff.mp named
  simp [naming_eq, parts, counting]

/-! ## Directories -/

theorem naming_intercalate {steps : List String} (plain : ∀ step ∈ steps, '/' ∉ step.toList) :
    naming ("/".intercalate steps) = steps.filter counts := by
  cases steps with
  | nil => rfl
  | cons first rest =>
      have chars : ("/".intercalate (first :: rest)).toList =
          ['/'].intercalate ((first :: rest).map String.toList) :=
        String.toList_intercalate
      rw [naming_eq, Text.parts, chars, Text.split_intercalate '/' (by simp)]
      · simp
      · simpa using plain

theorem dropIdle_initial (steps : List String) : dropIdle steps <+: steps := by
  induction steps using List.reverseRecOn with
  | nil => exact List.prefix_rfl
  | append_singleton first last ih =>
      rw [dropIdle_concat]
      split
      case isTrue => exact List.prefix_rfl
      case isFalse => exact ih.trans (List.prefix_append _ _)

theorem dropIdle_eq_nil_or (steps : List String) :
    dropIdle steps = [] ∨ ∃ first last, dropIdle steps = first ++ [last] ∧ counts last := by
  induction steps using List.reverseRecOn with
  | nil => exact .inl rfl
  | append_singleton first last ih =>
      rw [dropIdle_concat]
      split
      case isTrue counting => exact .inr ⟨first, last, rfl, counting⟩
      case isFalse => exact ih

theorem plain_of_mem_steps {path step : String} (member : step ∈ steps path) :
    '/' ∉ step.toList := by
  obtain ⟨part, isPart, rfl⟩ := List.mem_map.mp member
  rw [String.toList_ofList]
  exact Text.absent_of_mem_split isPart

/-- Putting the first steps of a path together again after its start. -/
theorem naming_lead {path : String} {first : List String} (initial : first <+: steps path) :
    naming (lead path ++ "/".intercalate first) = first.filter counts := by
  have plain : ∀ step ∈ first, '/' ∉ step.toList := fun step member =>
    plain_of_mem_steps (initial.subset member)
  have joined := naming_intercalate plain
  have lengths : "/".length = 1 ∧ ".".length = 1 := ⟨rfl, rfl⟩
  -- A dot at the start is followed by a slash or by nothing.
  have dotted : (∃ rest, steps path = "" :: rest) →
      naming ("." ++ "/".intercalate first) = first.filter counts := by
    rintro ⟨rest, whole⟩
    rw [whole] at initial
    cases first with
    | nil => rfl
    | cons step more =>
        obtain rfl : step = "" := (List.cons_prefix_cons.mp initial).1
        cases more with
        | nil => rfl
        | cons next others =>
            have apart : "." ++ "/".intercalate ("" :: next :: others) =
                "." ++ "/" ++ "/".intercalate (next :: others) := by
              rw [← String.toList_inj]
              simp [String.toList_intercalate, List.intercalate]
            rw [apart, naming_append, naming_intercalate (List.forall_mem_cons.mp plain).2]
            rfl
  generalize start : lead path = mark
  cases start ▸ starts_lead path with
  | absolute chars =>
      have apart : "/" ++ "/".intercalate first = "" ++ "/" ++ "/".intercalate first := rfl
      rw [apart, naming_append, joined]
      rfl
  | here chars =>
      apply dotted
      rw [steps, start, chars]
      simp [lengths, Text.parts, Text.split]
  | dot chars =>
      apply dotted
      rw [steps, start, chars]
      simp [lengths, Text.parts, Text.split]
  | plain => rw [String.empty_append, joined]

/-- The directory of a path has the steps of the path without the last. -/
theorem naming_directory (path : String) : naming (directory path) = (naming path).dropLast := by
  have counted : (dropIdle (steps path)).filter counts = naming path := by
    rw [filter_dropIdle, filter_steps]
  rw [directory]
  rcases dropIdle_eq_nil_or (steps path) with none | ⟨first, last, some, counting⟩
  · rw [none] at counted ⊢
    rw [← counted]
    rfl
  · have initial : dropIdle first <+: steps path :=
      (dropIdle_initial first).trans ((List.prefix_append _ _).trans (some ▸ dropIdle_initial _))
    rw [← counted, some]
    split
    case h_1 none => simp at none
    case h_2 => simp [naming_lead initial, filter_dropIdle, counting]

/-- The first steps of a relative path make no absolute one. -/
theorem relative_intercalate {path : String} (relative : ¬ IsAbsolute path) {first : List String}
    (initial : first <+: Text.parts '/' path) : ¬ IsAbsolute ("/".intercalate first) := by
  rw [IsAbsolute] at relative
  cases first with
  | nil => simp [IsAbsolute]
  | cons step more =>
      cases chars : path.toList with
      | nil =>
          simp only [Text.parts, chars, Text.split, List.map_cons, List.map_nil,
            List.cons_prefix_cons, List.prefix_nil] at initial
          simp [IsAbsolute, initial]
      | cons char rest =>
          have other : char ≠ '/' := by simpa [chars] using relative
          obtain ⟨part, others, parts⟩ := List.exists_cons_of_ne_nil (Text.split_ne_nil '/' rest)
          simp only [Text.parts, chars, Text.split, if_neg other, parts, List.map_cons,
            List.cons_prefix_cons] at initial
          cases more <;> simp [IsAbsolute, initial.1, String.toList_intercalate, List.intercalate, other]

/-- The directory of a path is absolute as the path is. -/
theorem isAbsolute_directory {path : String} (named : naming path ≠ []) :
    IsAbsolute (directory path) ↔ IsAbsolute path := by
  have some : dropIdle (steps path) ≠ [] := by
    intro none
    rw [← filter_steps, ← filter_dropIdle, none] at named
    exact named rfl
  rw [directory]
  split
  case h_1 none => exact absurd none some
  case h_2 =>
    generalize rest : "/".intercalate (dropIdle (dropIdle (steps path)).dropLast) = joined
    generalize start : lead path = mark
    cases start ▸ starts_lead path with
    | absolute chars => simp [IsAbsolute, chars]
    | here chars => simp [IsAbsolute, chars]
    | dot chars => simp [IsAbsolute, chars]
    | plain relative =>
        have initial : dropIdle (dropIdle (steps path)).dropLast <+: Text.parts '/' path := by
          have whole : steps path = Text.parts '/' path := by simp [steps, start]
          rw [← whole]
          exact (dropIdle_initial _).trans ((List.dropLast_prefix _).trans (dropIdle_initial _))
        rw [String.empty_append, ← rest]
        exact iff_of_false (relative_intercalate relative initial) relative

end Files

end Blueprint
