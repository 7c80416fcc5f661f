import Blueprint.Decimal.Shortest
import Mathlib.Algebra.Order.Field.Basic
import Mathlib.Algebra.Order.Field.Rat
import Mathlib.Data.Nat.Log
import Mathlib.Tactic.FieldSimp
import Mathlib.Tactic.Positivity
import Mathlib.Tactic.Ring

/-!
# The reals that round to a magnitude

The decimal that is written for a magnitude lies among the reals that round to it
(`shortest_rounds`), and no real rounds to two magnitudes (`RoundsTo.unique`).  So a magnitude is
known from the value of its decimal.

Values are compared as multiples of `2^-1076`, of which the ends of the intervals are whole numbers.
Of two neighbouring intervals the upper end of the first is at most the lower end of the second.
They meet only if one of the magnitudes is odd, and an odd one does not have its ends
(`roundingEnds_apart`).
-/

namespace Blueprint.Decimal

/-! ## Intervals -/

/-- The distance between neighbours around a magnitude. -/
def gap (units : Nat) : Nat :=
  2 ^ Binary64.spacing units

/-- The last bit of a magnitude is zero. -/
def IsEven (units : Nat) : Prop :=
  units / gap units % 2 = 0

section

variable {units other : Nat}

theorem gap_pos (units : Nat) : 0 < gap units :=
  Nat.two_pow_pos _

theorem gap_dvd (fits : Binary64.Representable units) : gap units ∣ units :=
  Nat.dvd_of_mod_eq_zero fits.2

theorem gap_dvd_pow {exponent : Nat} (most : Binary64.spacing units ≤ exponent) :
    gap units ∣ 2 ^ exponent :=
  Nat.pow_dvd_pow 2 most

theorem spacing_le_log2 (units : Nat) : Binary64.spacing units ≤ units.log2 :=
  Nat.sub_le _ _

theorem gap_le (fits : Binary64.Representable units) (positive : 0 < units) : gap units ≤ units :=
  Nat.le_of_dvd positive (gap_dvd fits)

/-- A multiple below another one is below it by the unit at least. -/
theorem add_le_of_dvd {unit first second : Nat} (divides : unit ∣ first)
    (itsDivides : unit ∣ second) (less : first < second) : first + unit ≤ second := by
  have difference : unit ∣ second - first := Nat.dvd_sub itsDivides divides
  have atLeast := Nat.le_of_dvd (Nat.sub_pos_of_lt less) difference
  omega

theorem add_gap_le_pow (fits : Binary64.Representable units) :
    units + gap units ≤ 2 ^ (units.log2 + 1) := by
  apply add_le_of_dvd (gap_dvd fits)
  · exact gap_dvd_pow (Nat.le_succ_of_le (spacing_le_log2 units))
  · exact Nat.lt_log2_self

/-- The lower end is two gaps of quarters below a magnitude, or one. -/
theorem lowerEnd_eq (units : Nat) :
    (roundingEnds units).1 = 4 * units -
      if gap units = 1 ∨ units ≠ 2 ^ units.log2 then 2 * gap units else gap units :=
  rfl

theorem upperEnd_eq (units : Nat) : (roundingEnds units).2 = 4 * units + 2 * gap units :=
  rfl

theorem le_lowerEnd (units : Nat) : 4 * units - 2 * gap units ≤ (roundingEnds units).1 := by
  rw [lowerEnd_eq]
  split <;> omega

theorem lowerEnd_pos (fits : Binary64.Representable units) (positive : 0 < units) :
    0 < (roundingEnds units).1 := by
  have small := gap_le fits positive
  have least := le_lowerEnd units
  omega

theorem lowerEnd_lt (positive : 0 < units) : (roundingEnds units).1 < 4 * units := by
  have wide := gap_pos units
  rw [lowerEnd_eq]
  split <;> omega

/-- The interval of a magnitude lies below that of another one.  They may have an end in common, but
not if both magnitudes are even. -/
def Apart (units other : Nat) : Prop :=
  (roundingEnds units).2 ≤ (roundingEnds other).1 ∧
    ((roundingEnds units).2 = (roundingEnds other).1 → ¬ (IsEven units ∧ IsEven other))

theorem Apart.of_lt (less : (roundingEnds units).2 < (roundingEnds other).1) :
    Apart units other :=
  ⟨Nat.le_of_lt less, fun meet => absurd meet (Nat.ne_of_lt less)⟩

/-- With the same gap the ends meet only if the magnitudes follow one another. -/
theorem apart_of_spacing_eq (fits : Binary64.Representable units)
    (itsFits : Binary64.Representable other) (less : units < other)
    (same : Binary64.spacing units = Binary64.spacing other) : Apart units other := by
  have sameGap : gap units = gap other := congrArg (2 ^ ·) same
  have apart : units + gap units ≤ other :=
    add_le_of_dvd (gap_dvd fits) (sameGap ▸ gap_dvd itsFits) less
  have least := le_lowerEnd other
  rw [← sameGap] at least
  constructor
  · rw [upperEnd_eq]
    omega
  · rintro meet ⟨even, itsEven⟩
    rw [upperEnd_eq] at meet
    have next : other = units + gap units := by omega
    rw [IsEven, ← sameGap, next, Nat.add_div_right _ (gap_pos units)] at itsEven
    rw [IsEven] at even
    omega

theorem log2_lt_of_spacing_lt (finer : Binary64.spacing units < Binary64.spacing other) :
    units.log2 < other.log2 := by
  unfold Binary64.spacing at finer
  omega

/-- With a wide gap the lower end of a power of two is near, for the gap before it is half as wide. -/
theorem lowerEnd_pow (coarse : 0 < Binary64.spacing other) (power : other = 2 ^ other.log2) :
    (roundingEnds other).1 = 4 * 2 ^ other.log2 - gap other := by
  have wide : 2 ^ 1 ≤ gap other := Nat.pow_le_pow_right (by decide) coarse
  have several : gap other ≠ 1 := by omega
  rw [lowerEnd_eq, if_neg (by simp [several, ← power]), ← power]

/-- The last magnitude before a power of two is odd. -/
theorem not_isEven_of_add_gap {bits : Nat} (more : Binary64.spacing units < bits)
    (before : units + gap units = 2 ^ bits) : ¬ IsEven units := by
  intro even
  have quotient : units / gap units + 1 = 2 ^ (bits - Binary64.spacing units - 1) * 2 := by
    rw [← Nat.add_div_right _ (gap_pos units), before, gap, Nat.pow_div (by omega) (by decide),
      ← Nat.pow_succ]
    congr 1
    omega
  rw [IsEven] at even
  omega

/-- If the first magnitude has half the gap of a power of two, the ends meet only if it is the last
one before it. -/
theorem apart_of_double (fits : Binary64.Representable units)
    (next : Binary64.spacing other = Binary64.spacing units + 1)
    (power : other = 2 ^ other.log2) : Apart units other := by
  have fewerBits : units.log2 < other.log2 := log2_lt_of_spacing_lt (by omega)
  have reach : 2 ^ (units.log2 + 1) ≤ 2 ^ other.log2 := Nat.pow_le_pow_right (by decide) fewerBits
  have top := add_gap_le_pow fits
  have double : gap other = 2 * gap units := by
    rw [gap, next, Nat.pow_succ, Nat.mul_comm, gap]
  rw [Apart, upperEnd_eq, lowerEnd_pow (by omega) power]
  constructor
  · omega
  · rintro meet ⟨even, _⟩
    have before : units + gap units = 2 ^ other.log2 := by omega
    have most := spacing_le_log2 units
    exact not_isEven_of_add_gap (by omega) before even

/-- A power of two with a still wider gap is far away. -/
theorem apart_of_wider (fits : Binary64.Representable units)
    (wider : Binary64.spacing units + 1 < Binary64.spacing other)
    (power : other = 2 ^ other.log2) : Apart units other := by
  apply Apart.of_lt
  have twice : 2 * 2 ^ (units.log2 + 1) ≤ 2 ^ other.log2 := by
    rw [Nat.mul_comm, ← Nat.pow_succ]
    apply Nat.pow_le_pow_right (by decide)
    unfold Binary64.spacing at wider
    omega
  have small : gap other ≤ 2 ^ other.log2 :=
    Nat.pow_le_pow_right (by decide) (spacing_le_log2 other)
  have top := add_gap_le_pow fits
  have wide := gap_pos units
  rw [upperEnd_eq, lowerEnd_pow (by omega) power]
  omega

/-- With a finer gap there is a power of two between the magnitudes, and the ends can meet only if
it is the second one. -/
theorem apart_of_spacing_lt (fits : Binary64.Representable units)
    (itsFits : Binary64.Representable other) (less : units < other)
    (finer : Binary64.spacing units < Binary64.spacing other) : Apart units other := by
  by_cases power : other = 2 ^ other.log2
  · rcases Nat.lt_or_eq_of_le (Nat.succ_le_of_lt finer) with wider | next
    · exact apart_of_wider fits wider power
    · exact apart_of_double fits next.symm power
  · apply Apart.of_lt
    have start : 2 ^ other.log2 ≤ other := Nat.log2_self_le (by omega)
    have above : 2 ^ other.log2 + gap other ≤ other :=
      add_le_of_dvd (gap_dvd_pow (spacing_le_log2 other)) (gap_dvd itsFits) (by omega)
    have reach : 2 ^ (units.log2 + 1) ≤ 2 ^ other.log2 :=
      Nat.pow_le_pow_right (by decide) (log2_lt_of_spacing_lt finer)
    have top := add_gap_le_pow fits
    have least := le_lowerEnd other
    have wide := gap_pos units
    rw [upperEnd_eq]
    omega

/-- The intervals of two magnitudes are apart. -/
theorem roundingEnds_apart (fits : Binary64.Representable units)
    (itsFits : Binary64.Representable other) (less : units < other) : Apart units other := by
  have bits : units.log2 ≤ other.log2 := by
    rw [Nat.log2_eq_log_two, Nat.log2_eq_log_two]
    exact Nat.log_mono_right (Nat.le_of_lt less)
  have most : Binary64.spacing units ≤ Binary64.spacing other := Nat.sub_le_sub_right bits 52
  rcases Nat.lt_or_eq_of_le most with finer | same
  · exact apart_of_spacing_lt fits itsFits less finer
  · exact apart_of_spacing_eq fits itsFits less same

end

/-! ## Values -/

/-- The value of a decimal in multiples of `2^-1076`. -/
def quarters (decimal : Decimal) : ℚ :=
  decimal.digits * 10 ^ decimal.exponent * Nat.pow 2 1076

/-- A value rounds to a magnitude: it is between the ends, or one of them if the magnitude is
even. -/
structure RoundsTo (units : Nat) (value : ℚ) : Prop where
  above : (roundingEnds units).1 ≤ value
  below : value ≤ (roundingEnds units).2
  even : value = (roundingEnds units).1 ∨ value = (roundingEnds units).2 → IsEven units

/-- No value rounds to two magnitudes. -/
theorem RoundsTo.unique {units other : Nat} {value : ℚ} (fits : Binary64.Representable units)
    (itsFits : Binary64.Representable other) (rounds : RoundsTo units value)
    (itsRounds : RoundsTo other value) : units = other := by
  have notLess {first second : Nat} (fits : Binary64.Representable first)
      (itsFits : Binary64.Representable second) (rounds : RoundsTo first value)
      (itsRounds : RoundsTo second value) : ¬ first < second := by
    intro less
    rcases roundingEnds_apart fits itsFits less with ⟨apart, meet⟩
    have ends : ((roundingEnds first).2 : ℚ) ≤ (roundingEnds second).1 := by exact_mod_cast apart
    have upper : value = (roundingEnds first).2 :=
      le_antisymm rounds.below (ends.trans itsRounds.above)
    have lower : value = (roundingEnds second).1 :=
      le_antisymm (rounds.below.trans ends) itsRounds.above
    have same : (roundingEnds first).2 = (roundingEnds second).1 := by
      exact_mod_cast upper.symm.trans lower
    exact meet same ⟨rounds.even (.inr upper), itsRounds.even (.inl lower)⟩
  have first := notLess fits itsFits rounds itsRounds
  have second := notLess itsFits fits itsRounds rounds
  omega

theorem RoundsTo.pos {units : Nat} {value : ℚ} (rounds : RoundsTo units value)
    (fits : Binary64.Representable units) (positive : 0 < units) : 0 < value := by
  have lower : (0 : ℚ) < (roundingEnds units).1 := by exact_mod_cast lowerEnd_pos fits positive
  exact lower.trans_le rounds.above

/-! ## The decimal that is written -/

/-- A comparison of whole numbers is one of values, which have a common divisor. -/
theorem compareQuarters_eq (decimal : Decimal) (units : Nat) :
    decimal.compareQuarters units = cmp decimal.quarters units := by
  rcases decimal with ⟨digits, exponent⟩
  unfold compareQuarters quarters
  dsimp only
  generalize Nat.pow 2 1076 = unit
  have positive : (0 : ℚ) < (10 ^ (-exponent).toNat : Nat) := by positivity
  have cleared : (digits * 10 ^ exponent * unit : ℚ) * (10 ^ (-exponent).toNat : Nat) =
      (digits * 10 ^ exponent.toNat * unit : Nat) := by
    rcases Int.eq_nat_or_neg exponent with ⟨size, rfl | rfl⟩
    · simp
    · rw [Int.toNat_neg_natCast, neg_neg, Int.toNat_natCast, zpow_neg, zpow_natCast]
      push_cast
      field_simp
  calc
    compare (digits * Nat.pow 10 exponent.toNat * unit) (units * Nat.pow 10 (-exponent).toNat) =
        cmp (digits * 10 ^ exponent.toNat * unit) (units * 10 ^ (-exponent).toNat) :=
      (cmp_eq_compare _ _).symm
    _ = cmp ((digits * 10 ^ exponent.toNat * unit : Nat) : ℚ)
          (units * 10 ^ (-exponent).toNat : Nat) :=
      (Nat.strictMono_cast.cmp_map_eq _ _).symm
    _ = cmp ((digits * 10 ^ exponent * unit : ℚ) * (10 ^ (-exponent).toNat : Nat))
          (units * (10 ^ (-exponent).toNat : Nat)) := by
      rw [cleared, Nat.cast_mul units]
    _ = cmp (digits * 10 ^ exponent * unit : ℚ) units := cmp_mul_pos_right positive _ _

/-- A decimal that reads back as a magnitude rounds to it. -/
theorem roundsTo_of_readsBack {units : Nat} {decimal : Decimal}
    (reads : readsBack units decimal = true) : RoundsTo units decimal.quarters := by
  have even : (units / Nat.pow 2 (Binary64.spacing units) % 2 == 0) = true → IsEven units :=
    eq_of_beq
  -- The definition is opened as a function, before it is applied, and the comparisons are named:
  -- their numbers are too long to be computed with.
  rcases (⟨_, rfl⟩ : ∃ check, check = readsBack) with ⟨check, isCheck⟩
  rw [← isCheck] at reads
  delta readsBack at isCheck
  rw [isCheck] at reads
  dsimp only at reads
  generalize lower : decimal.compareQuarters (roundingEnds units).1 = atLower at reads
  generalize upper : decimal.compareQuarters (roundingEnds units).2 = atUpper at reads
  rw [compareQuarters_eq] at lower upper
  split at reads
  · have above := (cmp_eq_gt_iff _ _).mp lower
    have below := (cmp_eq_lt_iff _ _).mp upper
    refine ⟨above.le, below.le, ?_⟩
    rintro (isLower | isUpper)
    · exact absurd isLower above.ne'
    · exact absurd isUpper below.ne
  · have isLower := (cmp_eq_eq_iff _ _).mp lower
    have below := (cmp_eq_lt_iff _ _).mp upper
    exact ⟨isLower.ge, below.le, fun _ => even reads⟩
  · have above := (cmp_eq_gt_iff _ _).mp lower
    have isUpper := (cmp_eq_eq_iff _ _).mp upper
    exact ⟨above.le, isUpper.le, fun _ => even reads⟩
  · contradiction

theorem onGrid?_readsBack {units : Nat} {exponent : Int} {decimal : Decimal}
    (found : onGrid? units exponent = some decimal) : readsBack units decimal = true := by
  rcases (⟨_, rfl⟩ : ∃ find, find = onGrid?) with ⟨find, isFind⟩
  rw [← isFind] at found
  delta onGrid? at isFind
  generalize readsBack = check at isFind ⊢
  rw [isFind] at found
  dsimp only at found
  split at found
  · contradiction
  · next lower _ =>
      cases found
      exact lower
  · next _ upper =>
      cases found
      exact upper
  · next lower upper =>
      split at found
      · cases found
        exact lower
      · cases found
        exact upper
      · split at found
        · cases found
          exact lower
        · cases found
          exact upper

/-- Zeros that are moved into the exponent do not change the value. -/
theorem quarters_stripZeros (limit : Nat) (decimal : Decimal) :
    (stripZeros limit decimal).quarters = decimal.quarters := by
  induction limit generalizing decimal with
  | zero => rfl
  | succ limit ih =>
      rw [stripZeros]
      split
      · next zeros =>
          have whole : (decimal.digits : ℚ) = 10 * (decimal.digits / 10 : Nat) := by
            have digits : decimal.digits = 10 * (decimal.digits / 10) := by omega
            exact_mod_cast digits
          rw [ih, quarters, quarters, whole, zpow_add_one₀ (by norm_num)]
          generalize Nat.pow 2 1076 = unit
          ring
      · rfl

theorem quarters_exactly (units : Nat) : (exactly units).quarters = (4 * units : Nat) := by
  have bits : 1076 = 1074 + 2 := rfl
  have exponent : (-1074 : ℤ) = -(1074 : ℕ) := rfl
  unfold quarters exactly
  dsimp only
  rw [bits, exponent]
  generalize 1074 = places
  rw [zpow_neg, zpow_natCast, show (10 : ℚ) = 5 * 2 by norm_num, mul_pow, Nat.pow_eq, Nat.pow_eq,
    pow_add]
  push_cast
  field_simp

/-- The decimal that is written for a positive magnitude rounds to it. -/
theorem shortest_rounds {units : Nat} (positive : 0 < units) :
    RoundsTo units (shortest units).quarters := by
  rw [shortest, quarters_stripZeros]
  generalize attempts : (List.range 17).findSome? _ = found
  cases found with
  | none =>
      have above := lowerEnd_lt positive
      have below : 4 * units < (roundingEnds units).2 := by
        rw [upperEnd_eq]
        have wide := gap_pos units
        omega
      rw [Option.getD_none, quarters_exactly]
      refine ⟨?_, ?_, ?_⟩
      · exact_mod_cast above.le
      · exact_mod_cast below.le
      · rintro (atLower | atUpper)
        · exact absurd (Nat.cast_injective atLower) above.ne'
        · exact absurd (Nat.cast_injective atUpper) below.ne
  | some decimal =>
      rcases List.exists_of_findSome?_eq_some attempts with ⟨_, _, isFound⟩
      exact roundsTo_of_readsBack (onGrid?_readsBack isFound)

end Blueprint.Decimal
