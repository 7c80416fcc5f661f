import Blueprint.Json.Token
import Blueprint.Plan
import Blueprint.Proofs.Decimal.Reading

/-!
# Canonical texts

A plan is known from its canonical text (`Plan.canonicalText_injective`).  Texts are compared with
what follows them, so that a text can be cut into those of its parts: a printer is unambiguous where
equal texts have equal parts and go on alike (`Unambiguous`).  Strings end with the first quote that
is not escaped.  Numbers end where no character of a number follows, which is so wherever the
printer puts one.

How numbers are written matters in three points only, which `NumberWriter` collects.  Trees are known
from their texts with any such way of writing numbers (`render_injective`).
-/

namespace Blueprint.Json

open Decimal (Digits Writes WritesExponent)

/-! ## Ends -/

/-- A text goes on with no character of a number, or not at all. -/
def Ends : List Char → Prop
  | [] => True
  | char :: _ => isNumberChar char = false

/-- A part is known from its text and what follows, where neither it nor what it is compared with
goes on like a number. -/
def Unambiguous {α : Type} (print : α → List Char) (left : α) : Prop :=
  ∀ right after later, Ends after → Ends later → print left ++ after = print right ++ later →
    left = right ∧ after = later

/-! ## Strings -/

/-- A control character is read back from its number. -/
theorem unit?_control :
    ∀ value < 32, unit? '0' '0' (hexDigit (value / 16)) (hexDigit (value % 16)) = some value := by
  decide

section

variable {char : Char} (rest found : List Char)

theorem stringBody_control (control : char.toNat < 32) :
    stringBody ('\\' :: 'u' :: '0' :: '0' :: hexDigit (char.toNat / 16) ::
      hexDigit (char.toNat % 16) :: rest) found = stringBody rest (char :: found) := by
  have trailing : isTrailing char.toNat = false :=
    Bool.and_eq_false_imp.mpr fun beyond => absurd (of_decide_eq_true beyond) (by omega)
  have leading : isLeading char.toNat = false :=
    Bool.and_eq_false_imp.mpr fun beyond => absurd (of_decide_eq_true beyond) (by omega)
  rw [stringBody, unit?_control char.toNat control]
  simp [trailing, leading]

theorem stringBody_plain (quote : char ≠ '"') (backslash : char ≠ '\\')
    (printable : ¬char.toNat < 32) :
    stringBody (char :: rest) found = stringBody rest (char :: found) := by
  rw [stringBody, if_neg printable]
  all_goals simp [quote, backslash]

theorem stringBody_escape :
    stringBody (escape char ++ rest) found = stringBody rest (char :: found) := by
  unfold escape
  split_ifs with quote backslash lineFeed carriageReturn tab backspace formFeed control
  iterate 7
    · subst char
      rfl
  · exact stringBody_control rest found control
  · exact stringBody_plain rest found quote backslash control

end

/-- The body of a string is read back up to its quote. -/
theorem stringBody_flatMap (chars rest found : List Char) :
    stringBody (chars.flatMap escape ++ '"' :: rest) found =
      some (found.reverse ++ chars, rest) := by
  induction chars generalizing found with
  | nil => simp [stringBody]
  | cons char others ih =>
      rw [List.flatMap_cons, List.append_assoc, stringBody_escape, ih]
      simp

theorem unambiguous_quoted (value : String) : Unambiguous quoted value := by
  intro other after later _ _ same
  simp only [quoted, List.cons_append, List.append_assoc, List.nil_append, List.cons.injEq,
    true_and] at same
  have bodies := stringBody_flatMap value.toList after []
  rw [same, stringBody_flatMap] at bodies
  simp only [List.reverse_nil, List.nil_append, Option.some.injEq, Prod.mk.injEq] at bodies
  exact ⟨(String.toList_injective bodies.1).symm, bodies.2.symm⟩

/-! ## Numbers -/

/-- Characters that may stand in a number. -/
def Numeric (chars : List Char) : Prop :=
  ∀ char ∈ chars, isNumberChar char = true

/-- What is asked of a way to write numbers: different numbers have different texts, which consist of
characters of numbers and are never empty. -/
structure NumberWriter (write : Number → List Char) : Prop where
  injective : Function.Injective write
  numeric : ∀ value, Numeric (write value)
  nonempty : ∀ value, write value ≠ []

theorem numeric_append_iff {chars others : List Char} :
    Numeric (chars ++ others) ↔ Numeric chars ∧ Numeric others :=
  List.forall_mem_append

theorem numeric_cons_iff {char : Char} {chars : List Char} :
    Numeric (char :: chars) ↔ isNumberChar char = true ∧ Numeric chars :=
  List.forall_mem_cons

theorem numeric_digits {chars : List Char} (digits : Digits chars) : Numeric chars := by
  intro char member
  simp [isNumberChar, digits char member]

theorem numeric_exponent {text : List Char} {exponent : ℤ}
    (writes : WritesExponent text exponent) : Numeric text := by
  cases writes with
  | plain _ isDigits => exact numeric_digits isDigits
  | plus isDigits | minus isDigits => exact numeric_cons_iff.mpr ⟨rfl, numeric_digits isDigits⟩

theorem numeric_decimal {chars : List Char} {decimal : Decimal} (writes : Writes chars decimal) :
    Numeric chars := by
  cases writes with
  | point _ isFront isBack =>
      simp [numeric_append_iff, numeric_cons_iff, numeric_digits, isFront, isBack, isNumberChar]
  | exponent _ isFront isExponent =>
      simp [numeric_append_iff, numeric_cons_iff, numeric_digits, isFront,
        numeric_exponent isExponent, isNumberChar]
  | both _ isFront isBack isExponent =>
      simp [numeric_append_iff, numeric_cons_iff, numeric_digits, isFront, isBack,
        numeric_exponent isExponent, isNumberChar]

theorem integer_injective : Function.Injective integer := by
  have unsigned (value : Nat) : '-' ∉ Decimal.digitsOf value :=
    (Decimal.digits_digitsOf value).absent rfl
  have magnitudes {value other : Int}
      (same : Decimal.digitsOf value.natAbs = Decimal.digitsOf other.natAbs) :
      value.natAbs = other.natAbs := by
    rw [← Decimal.whole_digitsOf value.natAbs, same, Decimal.whole_digitsOf]
  intro value other same
  unfold integer at same
  split at same <;> split at same
  · have equal := magnitudes (List.cons.inj same).2
    omega
  · exact absurd (same ▸ List.mem_cons_self) (unsigned other.natAbs)
  · exact absurd (same ▸ List.mem_cons_self) (unsigned value.natAbs)
  · have equal := magnitudes same
    omega

/-- An integer has neither a point nor an exponent. -/
theorem integer_unmarked (value : Int) : '.' ∉ integer value ∧ 'e' ∉ integer value := by
  have digits := Decimal.digits_digitsOf value.natAbs
  unfold integer
  split
  · simp [digits.absent]
  · exact ⟨digits.absent rfl, digits.absent rfl⟩

theorem numeric_number (value : Number) : Numeric (number value) := by
  cases value with
  | int value =>
      have digits := numeric_digits (Decimal.digits_digitsOf value.natAbs)
      rw [number, integer]
      split
      · exact numeric_cons_iff.mpr ⟨rfl, digits⟩
      · exact digits
  | float value =>
      rcases numberForm.exists_writes value.units with ⟨decimal, writes, _⟩
      rw [number, numberForm.render_eq]
      split
      · exact numeric_cons_iff.mpr ⟨rfl, numeric_decimal writes⟩
      · exact numeric_decimal writes

theorem number_ne_nil (value : Number) : number value ≠ [] := by
  cases value with
  | int value =>
      rw [number, integer]
      split
      · exact List.cons_ne_nil _ _
      · exact Decimal.digitsOf_ne_nil _
  | float value =>
      intro none
      have marked := numberForm.render_marked value
      rw [show numberForm.render value = [] from none] at marked
      simp at marked

/-- Different numbers have different texts, whether integers or floats. -/
theorem number_injective : Function.Injective number := by
  have kinds {value : Int} {other : Binary64} : integer value ≠ numberForm.render other := by
    intro same
    rcases numberForm.render_marked other with point | exponent
    · exact (integer_unmarked value).1 (same ▸ point)
    · exact (integer_unmarked value).2 (same ▸ exponent)
  rintro (value | value) (other | other) same
  · rw [integer_injective same]
  · exact absurd same kinds
  · exact absurd same.symm kinds
  · rw [numberForm.render_injective same]

theorem numberWriter_number : NumberWriter number :=
  ⟨number_injective, numeric_number, number_ne_nil⟩

section

variable {write : Number → List Char} (writer : NumberWriter write)

include writer

theorem takeWhile_number (value : Number) {after : List Char} (ends : Ends after) :
    (write value ++ after).takeWhile isNumberChar = write value := by
  rw [List.takeWhile_append_of_pos (writer.numeric value)]
  cases after with
  | nil => simp
  | cons char rest =>
      have other : isNumberChar char = false := ends
      simp [other]

theorem unambiguous_number (value : Number) : Unambiguous write value := by
  intro other after later ends itsEnds same
  have texts := takeWhile_number writer value ends
  rw [same, takeWhile_number writer other itsEnds] at texts
  obtain rfl := writer.injective texts
  exact ⟨rfl, List.append_cancel_left same⟩

end

/-! ## Collections -/

section

variable {α : Type} (print : α → List Char) (close : Char)

/-- The parts of a collection after the first one, each after a comma, and the closing bracket. -/
def moreParts : List α → List Char
  | [] => [close]
  | part :: rest => ',' :: print part ++ moreParts rest

/-- The parts of a collection and the closing bracket. -/
def partsOf : List α → List Char
  | [] => [close]
  | part :: rest => print part ++ moreParts print close rest

variable {print close}

theorem ends_moreParts (closes : isNumberChar close = false) (parts : List α) (after : List Char) :
    Ends (moreParts print close parts ++ after) := by
  cases parts with
  | nil => exact closes
  | cons part rest => rfl

theorem unambiguous_first (closes : isNumberChar close = false) {left right : α}
    {lefts rights : List α} {after later : List Char} (first : Unambiguous print left)
    (others : Unambiguous (moreParts print close) lefts) (ends : Ends after) (itsEnds : Ends later)
    (same : print left ++ moreParts print close lefts ++ after =
      print right ++ moreParts print close rights ++ later) :
    left :: lefts = right :: rights ∧ after = later := by
  rw [List.append_assoc, List.append_assoc] at same
  rcases first right _ _ (ends_moreParts closes lefts after) (ends_moreParts closes rights later)
    same with ⟨rfl, more⟩
  rcases others rights after later ends itsEnds more with ⟨rfl, rest⟩
  exact ⟨rfl, rest⟩

theorem unambiguous_moreParts (closes : isNumberChar close = false) (separates : close ≠ ',')
    {lefts : List α} (clear : ∀ part ∈ lefts, Unambiguous print part) :
    Unambiguous (moreParts print close) lefts := by
  induction lefts with
  | nil =>
      rintro (_ | ⟨right, rights⟩) after later _ _ same
      · exact ⟨rfl, List.append_cancel_left same⟩
      · exact absurd (List.cons.inj same).1 separates
  | cons left lefts ih =>
      rcases List.forall_mem_cons.mp clear with ⟨first, others⟩
      rintro (_ | ⟨right, rights⟩) after later ends itsEnds same
      · exact absurd (List.cons.inj same).1.symm separates
      · exact unambiguous_first closes first (ih others) ends itsEnds (List.cons.inj same).2

/-- Collections are known from their texts if their parts are and none begins with the
closing bracket. -/
theorem unambiguous_partsOf (closes : isNumberChar close = false) (separates : close ≠ ',')
    (opens : ∀ part after, (print part ++ after).head? ≠ some close)
    {lefts : List α} (clear : ∀ part ∈ lefts, Unambiguous print part) :
    Unambiguous (partsOf print close) lefts := by
  cases lefts with
  | nil =>
      rintro (_ | ⟨right, rights⟩) after later _ _ same
      · exact ⟨rfl, List.append_cancel_left same⟩
      · rw [partsOf, partsOf, List.append_assoc] at same
        exact absurd (congrArg List.head? same).symm (opens right _)
  | cons left lefts =>
      rcases List.forall_mem_cons.mp clear with ⟨first, others⟩
      rintro (_ | ⟨right, rights⟩) after later ends itsEnds same
      · rw [partsOf, partsOf, List.append_assoc] at same
        exact absurd (congrArg List.head? same) (opens left _)
      · exact unambiguous_first closes first (unambiguous_moreParts closes separates others) ends
          itsEnds same

end

/-- An entry of a mapping. -/
def renderEntry (write : Number → List Char) (entry : String × Tree) : List Char :=
  quoted entry.1 ++ ':' :: render write entry.2

section

variable {write : Number → List Char}

theorem renderMoreItems_eq (items : List Tree) :
    renderMoreItems write items = moreParts (render write) ']' items := by
  induction items with
  | nil => rfl
  | cons item rest ih => rw [renderMoreItems, moreParts, ih]

theorem renderItems_eq (items : List Tree) : renderItems write items = partsOf (render write) ']' items := by
  cases items with
  | nil => rfl
  | cons item rest => rw [renderItems, partsOf, renderMoreItems_eq]

theorem renderMoreEntries_eq (entries : Entries Tree) :
    renderMoreEntries write entries = moreParts (renderEntry write) '\x7d' entries := by
  induction entries with
  | nil => rfl
  | cons entry rest ih =>
      rw [moreParts, ← ih]
      simp [renderMoreEntries, renderEntry]

theorem renderEntries_eq (entries : Entries Tree) :
    renderEntries write entries = partsOf (renderEntry write) '\x7d' entries := by
  cases entries with
  | nil => rfl
  | cons entry rest =>
      rw [partsOf, ← renderMoreEntries_eq]
      simp [renderEntries, renderEntry]

theorem unambiguous_renderEntry {entry : String × Tree} (clear : Unambiguous (render write) entry.2) :
    Unambiguous (renderEntry write) entry := by
  intro other after later ends itsEnds same
  rw [renderEntry, renderEntry, List.append_assoc, List.append_assoc] at same
  rcases unambiguous_quoted entry.1 other.1 (':' :: _) (':' :: _) rfl rfl same with ⟨names, more⟩
  rcases clear other.2 after later ends itsEnds (List.cons.inj more).2 with ⟨values, rest⟩
  exact ⟨Prod.ext names values, rest⟩

theorem unambiguous_mapping {entries : Entries Tree}
    (clear : ∀ entry ∈ entries, Unambiguous (render write) entry.2) :
    Unambiguous (renderEntries write) entries := by
  rw [funext renderEntries_eq]
  apply unambiguous_partsOf rfl (by decide)
  · intro entry after begins
    cases begins
  · exact fun entry member => unambiguous_renderEntry (clear entry member)

end

/-! ## Trees -/

/-- The shape that the first character of a text announces, integers being numbers. -/
def announced : Char → Option Shape
  | 'n' => some .null
  | 't' | 'f' => some .boolean
  | '"' => some .string
  | '[' => some .sequence
  | '\x7b' => some .mapping
  | char => if isNumberChar char then some .number else none

/-- The shape of a tree as its first character announces it. -/
def shapeOf : Tree → Shape
  | .number _ => .number
  | tree => tree.shape

theorem announced_of_isNumberChar {char : Char} (numeric : isNumberChar char = true) :
    announced char = some .number := by
  unfold announced
  split
  all_goals first | contradiction | exact if_pos numeric

section

variable {write : Number → List Char} (writer : NumberWriter write)

include writer

/-- A tree announces its shape. -/
theorem exists_render (tree : Tree) :
    ∃ char rest, render write tree = char :: rest ∧ announced char = some (shapeOf tree) := by
  cases tree with
  | null => exact ⟨_, _, rfl, rfl⟩
  | bool value => cases value <;> exact ⟨_, _, rfl, rfl⟩
  | number value =>
      rcases List.exists_cons_of_ne_nil (writer.nonempty value) with ⟨char, rest, text⟩
      have numeric := writer.numeric value
      rw [text, numeric_cons_iff] at numeric
      exact ⟨char, rest, text, announced_of_isNumberChar numeric.1⟩
  | string => exact ⟨_, _, rfl, rfl⟩
  | sequence => exact ⟨_, _, rfl, rfl⟩
  | mapping => exact ⟨_, _, rfl, rfl⟩

theorem shapeOf_eq {left right : Tree} {after later : List Char}
    (same : render write left ++ after = render write right ++ later) : shapeOf left = shapeOf right := by
  rcases exists_render writer left with ⟨char, rest, text, announces⟩
  rcases exists_render writer right with ⟨itsChar, itsRest, itsText, itsAnnounces⟩
  rw [text, itsText] at same
  rw [(List.cons.inj same).1, itsAnnounces] at announces
  exact (Option.some.inj announces).symm

theorem unambiguous_sequence {items : List Tree}
    (clear : ∀ item ∈ items, Unambiguous (render write) item) :
    Unambiguous (renderItems write) items := by
  rw [funext renderItems_eq]
  apply unambiguous_partsOf rfl (by decide) _ clear
  intro item after begins
  rcases exists_render writer item with ⟨char, rest, text, announces⟩
  rw [text] at begins
  cases begins
  contradiction

/-- A tree is known from its text and what follows it. -/
theorem unambiguous_render (tree : Tree) : Unambiguous (render write) tree := by
  induction tree using Tree.induction with
  | step tree ih =>
      intro other after later ends itsEnds same
      have shapes := shapeOf_eq writer same
      cases tree with
      | null =>
          cases other with
          | null => exact ⟨rfl, List.append_cancel_left same⟩
          | _ => contradiction
      | bool value =>
          cases other with
          | bool itsValue =>
              cases value <;> cases itsValue
              · exact ⟨rfl, List.append_cancel_left same⟩
              · cases same
              · cases same
              · exact ⟨rfl, List.append_cancel_left same⟩
          | _ => contradiction
      | number value =>
          cases other with
          | number itsValue =>
              rcases unambiguous_number writer value itsValue after later ends itsEnds same with
                ⟨rfl, rest⟩
              exact ⟨rfl, rest⟩
          | _ => contradiction
      | string value =>
          cases other with
          | string itsValue =>
              rcases unambiguous_quoted value itsValue after later ends itsEnds same with
                ⟨rfl, rest⟩
              exact ⟨rfl, rest⟩
          | _ => contradiction
      | sequence items =>
          cases other with
          | sequence itsItems =>
              rcases unambiguous_sequence writer ih itsItems after later ends itsEnds
                (List.cons.inj same).2 with ⟨rfl, rest⟩
              exact ⟨rfl, rest⟩
          | _ => contradiction
      | mapping entries =>
          have clear : ∀ entry ∈ entries, Unambiguous (render write) entry.2 :=
            fun entry member => ih entry.2 (List.mem_map_of_mem member)
          cases other with
          | mapping itsEntries =>
              rcases unambiguous_mapping clear itsEntries after later ends itsEnds
                (List.cons.inj same).2 with ⟨rfl, rest⟩
              exact ⟨rfl, rest⟩
          | _ => contradiction

/-- A tree is known from its compact form. -/
theorem render_injective : Function.Injective (render write) := by
  intro left right same
  have rendered : render write left ++ [] = render write right ++ [] := congrArg (· ++ []) same
  exact (unambiguous_render writer left right [] [] trivial trivial rendered).1

end

/-- A tree is known from its canonical text. -/
theorem text_injective : Function.Injective text := by
  intro left right same
  exact render_injective numberWriter_number (String.ofList_injective same)

end Blueprint.Json

namespace Blueprint

/-- The digest of a plan is that of its canonical text, and no two plans have the same one. -/
theorem Plan.canonicalText_injective :
    (∀ plan : Plan, plan.digest = Digest.ofText (Json.text plan.toTree)) ∧
      Function.Injective fun plan : Plan => Json.text plan.toTree := by
  constructor
  · exact fun plan => rfl
  · rintro ⟨left⟩ ⟨right⟩ same
    have trees := Json.text_injective same
    rw [Plan.toTree, Plan.toTree, Tree.mapping.injEq] at trees
    rw [show left = right from Dict.ext trees]

end Blueprint
