import Blueprint.Decimal.Notation
import Blueprint.Proofs.Decimal.Rounding
import Blueprint.Proofs.Text.Split

/-!
# Reading decimals

A decimal is written with a point, with an exponent, or with both (`Writes`).  The text has one
reading (`Writes.unique`), so it gives the value away, and with it the magnitude that was written.
A notation does not write two floats alike (`Notation.render_injective`), whichever numbers it
writes positionally and whether it has plus signs.
-/

namespace Blueprint.Decimal

/-! ## Digits -/

/-- Characters that are decimal digits. -/
def Digits (chars : List Char) : Prop :=
  ∀ char ∈ chars, char.isDigit = true

/-- The whole number that some digits stand for. -/
abbrev whole (digits : List Char) : Nat :=
  Nat.ofDigitChars 10 digits 0

theorem digits_digitsOf (number : Nat) : Digits (digitsOf number) :=
  fun _ member => Nat.isDigit_of_mem_toDigits (by decide) (by decide) member

theorem digitsOf_ne_nil (number : Nat) : digitsOf number ≠ [] :=
  Nat.toDigits_ne_nil

theorem whole_digitsOf (number : Nat) : whole (digitsOf number) = number :=
  Nat.ofDigitChars_ten_toDigits

section

variable {chars others : List Char}

theorem Digits.absent (digits : Digits chars) {mark : Char} (other : mark.isDigit = false) :
    mark ∉ chars := by
  intro member
  rw [digits mark member] at other
  contradiction

theorem digits_append_iff : Digits (chars ++ others) ↔ Digits chars ∧ Digits others :=
  List.forall_mem_append

theorem digits_zeros (count : Nat) : Digits (List.replicate count '0') := by
  intro char member
  rw [List.eq_of_mem_replicate member]
  rfl

theorem whole_append_zeros (digits : List Char) (count : Nat) :
    whole (digits ++ List.replicate count '0') = whole digits * 10 ^ count := by
  rw [whole, Nat.ofDigitChars_append, Nat.ofDigitChars_replicate_zero, Nat.mul_comm]

theorem whole_zeros_append (digits : List Char) (count : Nat) :
    whole (List.replicate count '0' ++ digits) = whole digits := by
  rw [whole, Nat.ofDigitChars_append, Nat.ofDigitChars_replicate_zero, Nat.mul_zero]

end

/-! ## Texts of decimals -/

/-- The text of an exponent: digits, perhaps with a sign. -/
inductive WritesExponent : List Char → ℤ → Prop
  | plain {digits} (some : digits ≠ []) (isDigits : Digits digits) :
      WritesExponent digits (whole digits)
  | plus {digits} (isDigits : Digits digits) : WritesExponent ('+' :: digits) (whole digits)
  | minus {digits} (isDigits : Digits digits) : WritesExponent ('-' :: digits) (-whole digits)

/-- The text of a decimal: digits with a point or an exponent among them. -/
inductive Writes : List Char → Decimal → Prop
  | point {front back} (some : front ≠ []) (isFront : Digits front) (isBack : Digits back) :
      Writes (front ++ '.' :: back) ⟨whole (front ++ back), -back.length⟩
  | exponent {front text exponent} (some : front ≠ []) (isFront : Digits front)
      (isExponent : WritesExponent text exponent) :
      Writes (front ++ 'e' :: text) ⟨whole front, exponent⟩
  | both {front back text exponent} (some : front ≠ []) (isFront : Digits front)
      (isBack : Digits back) (isExponent : WritesExponent text exponent) :
      Writes (front ++ '.' :: back ++ 'e' :: text) ⟨whole (front ++ back), exponent - back.length⟩

/-- The reading of an exponent. -/
def readExponent : List Char → ℤ
  | '-' :: digits => -whole digits
  | '+' :: digits => whole digits
  | digits => whole digits

/-- The reading of a decimal without an exponent. -/
def readPositional (chars : List Char) : Decimal :=
  match Text.split '.' chars with
  | [front, back] => ⟨whole (front ++ back), -back.length⟩
  | _ => ⟨whole chars, 0⟩

/-- The reading of a decimal. -/
def read (chars : List Char) : Decimal :=
  match Text.split 'e' chars with
  | [mantissa, text] =>
      ⟨(readPositional mantissa).digits, (readPositional mantissa).exponent + readExponent text⟩
  | _ => readPositional chars

theorem WritesExponent.read {text : List Char} {exponent : ℤ}
    (writes : WritesExponent text exponent) : readExponent text = exponent := by
  cases writes with
  | plain some isDigits =>
      unfold readExponent
      split
      · exact absurd List.mem_cons_self (isDigits.absent rfl)
      · exact absurd List.mem_cons_self (isDigits.absent rfl)
      · rfl
  | plus => rfl
  | minus => rfl

theorem WritesExponent.absent {text : List Char} {exponent : ℤ}
    (writes : WritesExponent text exponent) : 'e' ∉ text := by
  cases writes with
  | plain _ isDigits => exact isDigits.absent rfl
  | plus isDigits | minus isDigits =>
      have absent : 'e' ∉ _ := isDigits.absent rfl
      simpa using absent

theorem readPositional_digits {front : List Char} (isFront : Digits front) :
    readPositional front = ⟨whole front, 0⟩ := by
  rw [readPositional, Text.split_of_absent (isFront.absent rfl)]

theorem readPositional_point {front back : List Char} (isFront : Digits front)
    (isBack : Digits back) :
    readPositional (front ++ '.' :: back) = ⟨whole (front ++ back), -back.length⟩ := by
  rw [readPositional, Text.split_append, Text.split_of_absent (isFront.absent rfl),
    Text.split_of_absent (isBack.absent rfl)]
  rfl

theorem read_of_absent {chars : List Char} (absent : 'e' ∉ chars) :
    read chars = readPositional chars := by
  rw [read, Text.split_of_absent absent]

theorem read_exponent {mantissa text : List Char} {exponent : ℤ} (absent : 'e' ∉ mantissa)
    (writes : WritesExponent text exponent) :
    read (mantissa ++ 'e' :: text) =
      ⟨(readPositional mantissa).digits, (readPositional mantissa).exponent + exponent⟩ := by
  rw [read, Text.split_append, Text.split_of_absent absent, Text.split_of_absent writes.absent,
    ← writes.read]
  rfl

theorem Writes.read {chars : List Char} {decimal : Decimal} (writes : Writes chars decimal) :
    read chars = decimal := by
  have absent {front back : List Char} (isFront : Digits front) (isBack : Digits back) :
      'e' ∉ front ++ '.' :: back := by
    simp [isFront.absent, isBack.absent, show Char.isDigit 'e' = false from rfl]
  cases writes with
  | point _ isFront isBack =>
      rw [read_of_absent (absent isFront isBack), readPositional_point isFront isBack]
  | exponent _ isFront isExponent =>
      rw [read_exponent (isFront.absent rfl) isExponent, readPositional_digits isFront, zero_add]
  | both _ isFront isBack isExponent =>
      rw [read_exponent (absent isFront isBack) isExponent, readPositional_point isFront isBack,
        neg_add_eq_sub]

/-- A text is that of one decimal. -/
theorem Writes.unique {chars : List Char} {decimal other : Decimal} (writes : Writes chars decimal)
    (itsWrites : Writes chars other) : decimal = other :=
  writes.read.symm.trans itsWrites.read

/-- A decimal begins with a digit. -/
theorem Writes.exists_cons {chars : List Char} {decimal : Decimal} (writes : Writes chars decimal) :
    ∃ first rest, chars = first :: rest ∧ first.isDigit = true := by
  have front {digits more : List Char} (some : digits ≠ []) (isDigits : Digits digits) :
      ∃ first rest, digits ++ more = first :: rest ∧ first.isDigit = true := by
    rcases List.exists_cons_of_ne_nil some with ⟨first, rest, rfl⟩
    exact ⟨first, rest ++ more, rfl, isDigits first List.mem_cons_self⟩
  cases writes with
  | point some isFront | exponent some isFront => exact front some isFront
  | both some isFront =>
      rw [List.append_assoc]
      exact front some isFront

/-- A decimal has a point or an exponent. -/
theorem Writes.marked {chars : List Char} {decimal : Decimal} (writes : Writes chars decimal) :
    '.' ∈ chars ∨ 'e' ∈ chars := by
  cases writes <;> simp

/-! ## Laying out -/

/-- Zeros at the end of the digits are a power of ten. -/
theorem quarters_of_zeros {first second : Decimal} (zeros : Nat)
    (digits : first.digits = second.digits * 10 ^ zeros)
    (exponent : first.exponent + zeros = second.exponent) : first.quarters = second.quarters := by
  rw [quarters, quarters, digits, ← exponent, zpow_add₀ (by norm_num), zpow_natCast]
  generalize Nat.pow 2 1076 = unit
  push_cast
  ring

/-- A decimal is written, if not with the same digits, then with the same value. -/
def WritesValue (chars : List Char) (decimal : Decimal) : Prop :=
  ∃ written, Writes chars written ∧ written.quarters = decimal.quarters

section

variable {digits front back : List Char} {exponent : ℤ}

theorem writesValue_point (some : front ≠ []) (isFront : Digits front) (isBack : Digits back)
    (zeros : Nat) (same : whole (front ++ back) = whole digits * 10 ^ zeros)
    (places : zeros - back.length = exponent) :
    WritesValue (front ++ '.' :: back) ⟨whole digits, exponent⟩ := by
  refine ⟨_, .point some isFront isBack, quarters_of_zeros zeros same ?_⟩
  rw [← places]
  exact neg_add_eq_sub _ _

/-- A decimal with a point has the value of its digits, the first of which has the exponent. -/
theorem writes_positional (some : digits ≠ []) (isDigits : Digits digits) (leading : ℤ) :
    WritesValue (positional digits leading) ⟨whole digits, leading + 1 - digits.length⟩ := by
  unfold positional
  split
  · next small =>
      -- The zero before the point and those after it stand before the digits.
      generalize count : (-leading - 1).toNat = zeros
      have isBack : Digits (List.replicate zeros '0' ++ digits) :=
        digits_append_iff.mpr ⟨digits_zeros zeros, isDigits⟩
      rw [List.append_assoc]
      apply writesValue_point (List.cons_ne_nil '0' []) (digits_zeros 1) isBack 0
      · have allZeros : ['0'] ++ (List.replicate zeros '0' ++ digits) =
            List.replicate (zeros + 1) '0' ++ digits := rfl
        rw [allZeros, whole_zeros_append, pow_zero, Nat.mul_one]
      · rw [List.length_append, List.length_replicate]
        omega
  · next large =>
      dsimp only
      split
      · next short =>
          generalize count : leading.toNat + 1 - digits.length = zeros
          have isFront : Digits (digits ++ List.replicate zeros '0') :=
            digits_append_iff.mpr ⟨isDigits, digits_zeros zeros⟩
          apply writesValue_point (by simp [some]) isFront (digits_zeros 1) (zeros + 1)
          · rw [List.append_assoc, ← List.replicate_add, whole_append_zeros]
          · rw [List.length_replicate]
            omega
      · next long =>
          apply writesValue_point (by simp [some]) _ _ 0
          · rw [List.take_append_drop, pow_zero, Nat.mul_one]
          · rw [List.length_drop]
            omega
          · exact fun char member => isDigits char (List.mem_of_mem_take member)
          · exact fun char member => isDigits char (List.mem_of_mem_drop member)

theorem writesExponent_signed (form : Notation) (leading : ℤ) :
    WritesExponent ((if leading < 0 then ['-'] else if form.plusSign then ['+'] else []) ++
      digitsOf leading.natAbs) leading := by
  have isDigits := digits_digitsOf leading.natAbs
  have value : (whole (digitsOf leading.natAbs) : ℤ) = leading.natAbs := by rw [whole_digitsOf]
  split
  · next negative =>
      have same : leading = -whole (digitsOf leading.natAbs) := by omega
      nth_rewrite 2 [same]
      exact .minus isDigits
  · next natural =>
      have same : leading = whole (digitsOf leading.natAbs) := by omega
      nth_rewrite 2 [same]
      split
      · exact .plus isDigits
      · exact .plain (digitsOf_ne_nil _) isDigits

/-- So has a decimal with an exponent. -/
theorem Notation.writes_scientific (form : Notation) (some : digits ≠ [])
    (isDigits : Digits digits) (leading : ℤ) :
    WritesValue (form.scientific digits leading)
      ⟨whole digits, leading + 1 - digits.length⟩ := by
  have isExponent := writesExponent_signed form leading
  unfold scientific
  dsimp only
  rw [List.append_assoc]
  split
  · contradiction
  · next digit =>
      refine ⟨_, .exponent some isDigits isExponent, ?_⟩
      simp
  · next digit rest _ =>
      rcases digits_append_iff.mp (show Digits ([digit] ++ rest) from isDigits) with
        ⟨isFront, isBack⟩
      refine ⟨_, .both (List.cons_ne_nil digit []) isFront isBack isExponent, ?_⟩
      simp

theorem Notation.writes_layout (form : Notation) (decimal : Decimal) :
    WritesValue (form.layout decimal) decimal := by
  have some := digitsOf_ne_nil decimal.digits
  have isDigits := digits_digitsOf decimal.digits
  have same : (⟨whole (digitsOf decimal.digits), decimal.exponent + (digitsOf decimal.digits).length
      - 1 + 1 - (digitsOf decimal.digits).length⟩ : Decimal) = decimal := by
    rw [whole_digitsOf]
    congr 1
    omega
  unfold layout
  dsimp only
  split
  · have written := writes_positional some isDigits
      (decimal.exponent + (digitsOf decimal.digits).length - 1)
    rwa [same] at written
  · have written := form.writes_scientific some isDigits
      (decimal.exponent + (digitsOf decimal.digits).length - 1)
    rwa [same] at written

end

/-! ## Floats -/

/-- A magnitude in a notation. -/
def Notation.magnitude (form : Notation) (units : Nat) : List Char :=
  if units = 0 then ['0', '.', '0'] else form.layout (shortest units)

theorem Notation.render_eq (form : Notation) (number : Binary64) :
    form.render number =
      (if number.negative then ['-'] else []) ++ form.magnitude number.units := by
  unfold render magnitude
  dsimp only
  split <;> rfl

/-- What is written for a magnitude rounds to it, or is zero if the magnitude is. -/
theorem Notation.exists_writes (form : Notation) (units : Nat) :
    ∃ decimal, Writes (form.magnitude units) decimal ∧
      (units = 0 → decimal.quarters = 0) ∧ (0 < units → RoundsTo units decimal.quarters) := by
  by_cases none : units = 0
  · subst none
    have writes : Writes (['0'] ++ '.' :: ['0']) _ :=
      .point (List.cons_ne_nil '0' []) (digits_zeros 1) (digits_zeros 1)
    refine ⟨_, writes, ?_, ?_⟩
    · intro
      rw [quarters, show whole (['0'] ++ ['0']) = 0 from rfl, Nat.cast_zero, zero_mul, zero_mul]
    · intro positive
      contradiction
  · rcases form.writes_layout (shortest units) with ⟨decimal, writes, same⟩
    refine ⟨decimal, ?_, ?_, ?_⟩
    · rwa [magnitude, if_neg none]
    · intro zero
      contradiction
    · intro positive
      rw [same]
      exact shortest_rounds positive

/-- The text of a float has a point or an exponent. -/
theorem Notation.render_marked (form : Notation) (number : Binary64) :
    '.' ∈ form.render number ∨ 'e' ∈ form.render number := by
  rcases form.exists_writes number.units with ⟨_, writes, _⟩
  rw [form.render_eq, List.mem_append, List.mem_append]
  exact writes.marked.imp .inr .inr

/-- A notation writes different magnitudes differently. -/
theorem Notation.magnitude_injective (form : Notation) {units other : Nat}
    (fits : Binary64.Representable units) (itsFits : Binary64.Representable other)
    (same : form.magnitude units = form.magnitude other) : units = other := by
  rcases form.exists_writes units with ⟨decimal, writes, zero, rounds⟩
  rcases form.exists_writes other with ⟨written, itsWrites, itsZero, itsRounds⟩
  rw [← same] at itsWrites
  obtain rfl := writes.unique itsWrites
  rcases Nat.eq_zero_or_pos units with none | positive
  · rcases Nat.eq_zero_or_pos other with itsNone | itsPositive
    · rw [none, itsNone]
    · have value := (itsRounds itsPositive).pos itsFits itsPositive
      rw [zero none] at value
      exact absurd value (lt_irrefl 0)
  · rcases Nat.eq_zero_or_pos other with itsNone | itsPositive
    · have value := (rounds positive).pos fits positive
      rw [itsZero itsNone] at value
      exact absurd value (lt_irrefl 0)
    · exact (rounds positive).unique fits itsFits (itsRounds itsPositive)

/-- A notation writes different floats differently, the zeros with different signs among them. -/
theorem Notation.render_injective (form : Notation) : Function.Injective form.render := by
  rintro ⟨negative, units, fits⟩ ⟨itsNegative, other, itsFits⟩ same
  rw [form.render_eq, form.render_eq] at same
  dsimp only at same
  have unsigned (units : Nat) : ∃ first rest,
      form.magnitude units = first :: rest ∧ first.isDigit = true := by
    rcases form.exists_writes units with ⟨_, writes, _⟩
    exact writes.exists_cons
  rcases unsigned units with ⟨first, rest, text, isDigit⟩
  rcases unsigned other with ⟨itsFirst, itsRest, itsText, itsIsDigit⟩
  cases negative <;> cases itsNegative
  · cases form.magnitude_injective fits itsFits same
    rfl
  · rw [text] at same
    cases (List.cons.inj same).1
    contradiction
  · rw [itsText] at same
    cases (List.cons.inj same).1
    contradiction
  · cases form.magnitude_injective fits itsFits (List.cons.inj same).2
    rfl

end Blueprint.Decimal
