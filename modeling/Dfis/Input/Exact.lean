import Dfis.Input.Numerals
import Mathlib.Algebra.Order.Field.Power
import Mathlib.Data.List.TakeWhile
import Mathlib.Data.Nat.Log
import Mathlib.Data.Rat.Floor
import Mathlib.Tactic.FieldSimp
import Mathlib.Tactic.Linarith
import Mathlib.Tactic.Positivity
import Mathlib.Tactic.Ring

/-! Every finite binary32 has a decimal text that is read as exactly this number. -/

namespace Dfis.Input

/-- The integer significand of a finite pattern. -/
def significand (pattern : Nat) : Nat :=
  if pattern / 2 ^ 23 = 0 then pattern % 2 ^ 23 else 2 ^ 23 + pattern % 2 ^ 23

/-- Its biased exponent: the number is the significand times two to this minus 150. -/
def scaleOf (pattern : Nat) : Nat := max (pattern / 2 ^ 23) 1

section Binade

variable {numerator denominator : Nat}

theorem two_zpow_le_div (exponent : Int) (positive : 0 < denominator) :
    (2 : ℚ) ^ exponent ≤ numerator / denominator ↔
      denominator * 2 ^ exponent.toNat ≤ numerator * 2 ^ (-exponent).toNat := by
  have den : (0 : ℚ) < denominator := by exact_mod_cast positive
  rw [le_div_iff₀ den]
  rcases le_total 0 exponent with nonneg | nonpos
  · obtain ⟨power, rfl⟩ := Int.eq_ofNat_of_zero_le nonneg
    have none : (-(power : Int)).toNat = 0 := by omega
    rw [zpow_natCast, none, Int.toNat_natCast, pow_zero, mul_one, mul_comm]
    exact_mod_cast Iff.rfl
  · obtain ⟨power, negative⟩ := Int.eq_ofNat_of_zero_le (neg_nonneg.mpr nonpos)
    have none : exponent.toNat = 0 := by omega
    have some : (-exponent).toNat = power := by omega
    have inverse : (2 : ℚ) ^ exponent = ((2 : ℚ) ^ power)⁻¹ := by
      rw [← zpow_natCast, ← zpow_neg]
      congr 1
      omega
    have pos : (0 : ℚ) < 2 ^ power := by positivity
    rw [none, some, inverse, pow_zero, mul_one, inv_mul_le_iff₀ pos, mul_comm]
    exact_mod_cast Iff.rfl

/-- The binade is the one in which the quotient lies. -/
theorem binade_spec (some : 0 < numerator) (positive : 0 < denominator) :
    (2 : ℚ) ^ binade numerator denominator ≤ numerator / denominator ∧
      (numerator / denominator : ℚ) < 2 ^ (binade numerator denominator + 1) := by
  have den : (0 : ℚ) < denominator := by exact_mod_cast positive
  have low : ((2 : ℚ) ^ numerator.log2) ≤ numerator := by
    exact_mod_cast Nat.log2_self_le some.ne'
  have high : (numerator : ℚ) < 2 ^ (numerator.log2 + 1) := by
    exact_mod_cast Nat.lt_log2_self
  have low' : ((2 : ℚ) ^ denominator.log2) ≤ denominator := by
    exact_mod_cast Nat.log2_self_le positive.ne'
  have high' : (denominator : ℚ) < 2 ^ (denominator.log2 + 1) := by
    exact_mod_cast Nat.lt_log2_self
  set guess : Int := numerator.log2 - denominator.log2 with guessed
  have above : (2 : ℚ) ^ (guess - 1) ≤ numerator / denominator := by
    rw [le_div_iff₀ den]
    calc (2 : ℚ) ^ (guess - 1) * denominator
        ≤ 2 ^ (guess - 1) * 2 ^ (denominator.log2 + 1) := by gcongr
      _ = 2 ^ numerator.log2 := by
        rw [← zpow_natCast, ← zpow_natCast, ← zpow_add₀ two_ne_zero]
        congr 1
        push_cast
        omega
      _ ≤ numerator := low
  have below : (numerator / denominator : ℚ) < 2 ^ (guess + 1) := by
    rw [div_lt_iff₀ den]
    calc (numerator : ℚ) < 2 ^ (numerator.log2 + 1) := high
      _ = 2 ^ (guess + 1) * 2 ^ denominator.log2 := by
        rw [← zpow_natCast, ← zpow_natCast, ← zpow_add₀ two_ne_zero]
        congr 1
        push_cast
        omega
      _ ≤ 2 ^ (guess + 1) * denominator := by gcongr
  unfold binade
  simp only [← guessed]
  split
  · rename_i reached
    exact ⟨(two_zpow_le_div guess positive).mpr reached, below⟩
  · rename_i missed
    refine ⟨above, ?_⟩
    rw [sub_add_cancel]
    exact lt_of_not_ge fun reached => missed ((two_zpow_le_div guess positive).mp reached)

theorem binade_lt {exponent : Int} (some : 0 < numerator) (positive : 0 < denominator)
    (below : (numerator / denominator : ℚ) < 2 ^ exponent) :
    binade numerator denominator < exponent := by
  have lower := (binade_spec some positive).1.trans_lt below
  exact (zpow_lt_zpow_iff_right₀ one_lt_two).mp lower

theorem binade_ge {exponent : Int} (some : 0 < numerator) (positive : 0 < denominator)
    (above : (2 : ℚ) ^ exponent ≤ numerator / denominator) :
    exponent ≤ binade numerator denominator := by
  have higher := above.trans_lt (binade_spec some positive).2
  have := (zpow_lt_zpow_iff_right₀ (one_lt_two (α := ℚ))).mp higher
  omega

end Binade

section Pattern

variable {pattern numerator denominator : Nat}

theorem scaleOf_pos (pattern : Nat) : 1 ≤ scaleOf pattern := le_max_right _ _

theorem pattern_eq (pattern : Nat) : (scaleOf pattern - 1) * 2 ^ 23 + significand pattern = pattern := by
  unfold scaleOf significand
  split <;> omega

theorem significand_lt (pattern : Nat) : significand pattern < 2 ^ 24 := by
  unfold significand
  split <;> omega

theorem roundHalfEven_exact (quotient : Nat) (positive : 0 < denominator) :
    roundHalfEven (quotient * denominator) denominator = quotient := by
  unfold roundHalfEven
  rw [Nat.mul_div_cancel _ positive, Nat.mul_mod_left]
  rw [if_neg]
  omega

/-- The number of a pattern is in the binade of its exponent, or below all normal binades. -/
theorem binade_pattern (some : 0 < numerator) (positive : 0 < denominator)
    (exact : numerator * 2 ^ (150 - scaleOf pattern) =
      significand pattern * (denominator * 2 ^ (scaleOf pattern - 150))) :
    max (binade numerator denominator) (-126) = (scaleOf pattern : Int) - 127 := by
  have den : (0 : ℚ) < denominator := by exact_mod_cast positive
  have value : (numerator / denominator : ℚ) =
      significand pattern * 2 ^ ((scaleOf pattern : Int) - 150) := by
    have scaled : ((2 : ℚ) ^ ((scaleOf pattern : Int) - 150)) =
        2 ^ (scaleOf pattern - 150) / 2 ^ (150 - scaleOf pattern) := by
      have shift : (scaleOf pattern : Int) - 150 =
          ((scaleOf pattern - 150 : Nat) : Int) - ((150 - scaleOf pattern : Nat) : Int) := by omega
      rw [shift, zpow_sub₀ two_ne_zero, zpow_natCast, zpow_natCast]
    have exact' : (numerator : ℚ) * 2 ^ (150 - scaleOf pattern) =
        significand pattern * (denominator * 2 ^ (scaleOf pattern - 150)) := by
      exact_mod_cast exact
    rw [scaled]
    field_simp
    linarith
  have below : (numerator / denominator : ℚ) < 2 ^ ((scaleOf pattern : Int) - 126) := by
    have small : (significand pattern : ℚ) < 2 ^ (24 : Int) := by
      exact_mod_cast significand_lt pattern
    rw [value]
    calc (significand pattern : ℚ) * 2 ^ ((scaleOf pattern : Int) - 150)
        < 2 ^ (24 : Int) * 2 ^ ((scaleOf pattern : Int) - 150) := by gcongr
      _ = 2 ^ ((scaleOf pattern : Int) - 126) := by
        rw [← zpow_add₀ two_ne_zero]
        congr 1
        omega
  have lower := binade_lt some positive below
  by_cases subnormal : pattern / 2 ^ 23 = 0
  · have scale : scaleOf pattern = 1 := by
      unfold scaleOf
      omega
    have tiny : (numerator / denominator : ℚ) < 2 ^ (-126 : Int) := by
      have small : (significand pattern : ℚ) < 2 ^ (23 : Int) := by
        have : significand pattern < 2 ^ 23 := by
          simp only [significand, subnormal, if_true]
          exact Nat.mod_lt _ (by decide)
        exact_mod_cast this
      rw [value, scale]
      calc (significand pattern : ℚ) * 2 ^ (((1 : Nat) : Int) - 150)
          < 2 ^ (23 : Int) * 2 ^ (((1 : Nat) : Int) - 150) := by gcongr
        _ = 2 ^ (-126 : Int) := by
          rw [← zpow_add₀ two_ne_zero]
          congr 1
    have := binade_lt some positive tiny
    rw [scale]
    omega
  · have above : (2 : ℚ) ^ ((scaleOf pattern : Int) - 127) ≤ numerator / denominator := by
      have large : (2 : ℚ) ^ (23 : Int) ≤ significand pattern := by
        have : 2 ^ 23 ≤ significand pattern := by
          simp only [significand, subnormal, if_false]
          omega
        exact_mod_cast this
      rw [value]
      calc (2 : ℚ) ^ ((scaleOf pattern : Int) - 127)
          = 2 ^ (23 : Int) * 2 ^ ((scaleOf pattern : Int) - 150) := by
            rw [← zpow_add₀ two_ne_zero]
            congr 1
            omega
        _ ≤ significand pattern * 2 ^ ((scaleOf pattern : Int) - 150) := by gcongr
    have higher := binade_ge some positive above
    have := scaleOf_pos pattern
    omega

/-- A quotient that is the number of a pattern is rounded to this pattern. -/
theorem binary32_exact (positive : 0 < denominator)
    (exact : numerator * 2 ^ (150 - scaleOf pattern) =
      significand pattern * (denominator * 2 ^ (scaleOf pattern - 150))) :
    binary32 numerator denominator = pattern := by
  unfold binary32
  split
  · rename_i zero
    have nothing : significand pattern = 0 := by
      rw [zero, zero_mul] at exact
      rcases Nat.mul_eq_zero.mp exact.symm with nothing | impossible
      · exact nothing
      · have : 0 < denominator * 2 ^ (scaleOf pattern - 150) := by positivity
        omega
    have parts := pattern_eq pattern
    unfold significand at nothing
    unfold scaleOf significand at parts
    split at nothing <;> omega
  · rename_i some
    have some : 0 < numerator := Nat.pos_of_ne_zero some
    have power := binade_pattern some positive exact
    have pos := scaleOf_pos pattern
    have up : (23 - ((scaleOf pattern : Int) - 127)).toNat = 150 - scaleOf pattern := by omega
    have down : ((scaleOf pattern : Int) - 127 - 23).toNat = scaleOf pattern - 150 := by omega
    have biased : ((scaleOf pattern : Int) - 127 + 126).toNat = scaleOf pattern - 1 := by omega
    simp only [power, up, down, biased, exact]
    rw [roundHalfEven_exact _ (by positivity), pattern_eq]

end Pattern

section Text

variable {bits : UInt32}

/-- Everything but the sign bit. -/
def magnitudeOf (bits : UInt32) : Nat := bits.toNat % 2 ^ 31

def signBit (negative : Bool) : UInt32 := if negative then 0x80000000 else 0

/-- A decimal text of a finite number, all its digits written out. -/
def showFloat (bits : UInt32) : List UInt8 :=
  let scale := scaleOf (magnitudeOf bits)
  let digits := significand (magnitudeOf bits) * 2 ^ (scale - 150) * 5 ^ (150 - scale)
  showSign (decide ¬ bits < 0x80000000) ++
    (showNat digits ++ (0x65 :: 0x2d :: showNat (150 - scale)))

theorem signBit_add_magnitude (bits : UInt32) :
    signBit (decide ¬ bits < 0x80000000) + UInt32.ofNat (magnitudeOf bits) = bits := by
  have bound := bits.toNat_lt
  rw [← UInt32.toNat_inj, UInt32.toNat_add, UInt32.toNat_ofNat']
  unfold signBit magnitudeOf
  by_cases positive : bits < 0x80000000
  · have small : bits.toNat < 0x80000000 := by simpa [UInt32.lt_iff_toNat_lt] using positive
    simp only [positive, not_true_eq_false, decide_false, Bool.false_eq_true, if_false]
    simp only [UInt32.toNat_zero]
    omega
  · have large : ¬ bits.toNat < 0x80000000 := by simpa [UInt32.lt_iff_toNat_lt] using positive
    simp only [positive, not_false_eq_true, decide_true, if_true]
    have sign : (0x80000000 : UInt32).toNat = 0x80000000 := rfl
    omega

theorem magnitudeOf_signBit_add (negative : Bool) {pattern : Nat} (small : pattern < 2 ^ 31) :
    magnitudeOf (signBit negative + UInt32.ofNat pattern) = pattern := by
  unfold magnitudeOf signBit
  rw [UInt32.toNat_add, UInt32.toNat_ofNat']
  cases negative with
  | false =>
    simp only [Bool.false_eq_true, if_false, UInt32.toNat_zero]
    omega
  | true =>
    have sign : (0x80000000 : UInt32).toNat = 0x80000000 := rfl
    simp only [if_true, sign]
    omega

theorem readFloat_valid_finite {text : List UInt8} (valid : (readFloat text).valid = true) :
    magnitudeOf (readFloat text).value < 0x7f800000 := by
  unfold readFloat at valid ⊢
  generalize readSign text = scanned at valid ⊢
  obtain ⟨negative, unsigned⟩ := scanned
  simp only at valid ⊢
  split at valid
  · cases valid
  · rename_i some
    rw [if_neg some]
    generalize readExponent (readFraction (unsigned.dropWhile isDigit)).2 = raised at valid ⊢
    obtain ⟨exponent?, rest⟩ := raised
    cases exponent? with
    | none => cases valid
    | some exponent =>
      simp only at valid ⊢
      split at valid
      · rename_i finite
        rw [if_pos finite]
        exact (magnitudeOf_signBit_add negative (by omega)).trans_lt finite
      · cases valid

theorem readExponent_negative (number : Nat) {after : List UInt8}
    (stop : ∀ c ∈ after.head?, isDigit c = false) :
    readExponent (0x65 :: 0x2d :: (showNat number ++ after)) = (some (-(number : Int)), after) := by
  have all := showNat_digits number
  have sign : readSign (0x2d :: (showNat number ++ after)) = (true, showNat number ++ after) := rfl
  simp [readExponent, sign, takeWhile_append_stop all stop, dropWhile_append_stop all stop,
    showNat_ne_nil, natOf_showNat, signed]

/-- Every finite number can be written so that exactly this number is read. -/
theorem readFloat_spells (finite : magnitudeOf bits < 0x7f800000) :
    readFloat.Spells (showFloat bits) bits := by
  unfold showFloat
  set scale := scaleOf (magnitudeOf bits) with scaled
  set digits := significand (magnitudeOf bits) * 2 ^ (scale - 150) * 5 ^ (150 - scale) with spelled
  have signs := showSign_signs (decide ¬ bits < 0x80000000)
  have some := showNat_ne_nil digits
  have all := showNat_digits digits
  refine Reader.spells_of (by simp) (numeral_head signs some all) fun after blank => ?_
  set exponent : List UInt8 := 0x65 :: 0x2d :: (showNat (150 - scale) ++ after) with raised
  have stop : ∀ c ∈ exponent.head?, isDigit c = false := by
    rintro c ⟨⟩
    rfl
  have point : readFraction exponent = ([], exponent) := rfl
  have exponents : readExponent exponent = (Option.some (-((150 - scale : Nat) : Int)), after) :=
    readExponent_negative (150 - scale) (digits_stop blank)
  have rounded : binary32 digits (10 ^ (150 - scale)) = magnitudeOf bits := by
    refine binary32_exact (by positivity) ?_
    rw [← scaled, spelled]
    have ten : (10 : Nat) ^ (150 - scale) = 5 ^ (150 - scale) * 2 ^ (150 - scale) := by
      rw [← Nat.mul_pow]
    rw [ten]
    ring
  have none : ((([] : List UInt8).length : Nat) : Int) = 0 := rfl
  rw [List.append_assoc, List.append_assoc, readFloat, readSign_append signs some all]
  simp only [List.cons_append, ← raised, takeWhile_append_stop all stop,
    dropWhile_append_stop all stop, point, List.append_nil, some, if_false, exponents, natOf_showNat,
    none, sub_zero, neg_neg, Int.toNat_natCast, Int.toNat_neg_natCast, pow_zero, mul_one, rounded,
    finite, if_true]
  exact congrArg (Field.mk · after true) (signBit_add_magnitude bits)

end Text

end Dfis.Input
