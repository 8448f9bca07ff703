import Dfis.Input.Exact

/-! How far the number read is from the decimal number written, and that the
order of two numbers survives the rounding. -/

namespace Dfis.Input

/-- An integer next to a rational number, the even one in a tie. -/
def NearestEven (exact : ℚ) (number : Nat) : Prop :=
  |(number : ℚ) - exact| < 1 / 2 ∨ |(number : ℚ) - exact| = 1 / 2 ∧ number % 2 = 0

namespace NearestEven

variable {exact exact' : ℚ} {number number' : Nat}

theorem self (number : Nat) : NearestEven number number := .inl (by norm_num)

theorem near (nearest : NearestEven exact number) : |(number : ℚ) - exact| ≤ 1 / 2 := by
  rcases nearest with inside | ⟨tie, -⟩
  · exact inside.le
  · exact tie.le

/-- Rounding keeps the order; only a tie could break it, and both sides of one are not even. -/
theorem mono (nearest : NearestEven exact number) (nearest' : NearestEven exact' number')
    (le : exact ≤ exact') : number ≤ number' := by
  by_contra greater
  have apart : (number' : ℚ) + 1 ≤ number := by exact_mod_cast Nat.not_le.mp greater
  obtain ⟨-, above⟩ := abs_le.mp nearest.near
  obtain ⟨below, -⟩ := abs_le.mp nearest'.near
  have tie : (number : ℚ) - exact = 1 / 2 := by linarith
  have tie' : (number' : ℚ) - exact' = -(1 / 2) := by linarith
  have next : number = number' + 1 := by
    have : (number : ℚ) = number' + 1 := by linarith
    exact_mod_cast this
  rcases nearest with inside | ⟨-, even⟩
  · rw [tie] at inside
    norm_num at inside
  · rcases nearest' with inside | ⟨-, even'⟩
    · rw [tie'] at inside
      norm_num at inside
    · omega

end NearestEven

theorem roundHalfEven_nearest {numerator denominator : Nat} (positive : 0 < denominator) :
    NearestEven (numerator / denominator) (roundHalfEven numerator denominator) := by
  have den : (0 : ℚ) < denominator := by exact_mod_cast positive
  set quotient := numerator / denominator with quotiented
  set remainder := numerator % denominator with left
  have split : (numerator : ℚ) = denominator * quotient + remainder := by
    exact_mod_cast (Nat.div_add_mod numerator denominator).symm
  have exact : (numerator / denominator : ℚ) = quotient + remainder / denominator := by
    rw [split]
    field_simp
  have small : remainder < denominator := Nat.mod_lt _ positive
  have small' : (remainder : ℚ) < denominator := by exact_mod_cast small
  unfold roundHalfEven
  simp only [← quotiented, ← left]
  split
  · rename_i up
    have distance : |((quotient + 1 : Nat) : ℚ) - numerator / denominator| =
        (denominator - remainder) / denominator := by
      rw [exact, abs_of_nonneg]
      · push_cast
        field_simp
        ring
      · push_cast
        have := (div_lt_one den).mpr small'
        linarith
    rw [NearestEven, distance, div_lt_iff₀ den, div_eq_iff den.ne']
    rcases up with more | ⟨tie, odd⟩
    · left
      have : (denominator : ℚ) < 2 * remainder := by exact_mod_cast more
      linarith
    · right
      have : (2 : ℚ) * remainder = denominator := by exact_mod_cast tie
      exact ⟨by linarith, by omega⟩
  · rename_i down
    have distance : |(quotient : ℚ) - numerator / denominator| = remainder / denominator := by
      rw [exact, sub_add_cancel_left, abs_neg, abs_of_nonneg (by positivity)]
    rw [NearestEven, distance, div_lt_iff₀ den, div_eq_iff den.ne']
    rcases Nat.lt_or_eq_of_le (show 2 * remainder ≤ denominator by omega) with less | tie
    · left
      have : (2 : ℚ) * remainder < denominator := by exact_mod_cast less
      linarith
    · right
      have : (2 : ℚ) * remainder = denominator := by exact_mod_cast tie
      exact ⟨by linarith, by omega⟩

/-- The number of a finite pattern. -/
def valueOf (pattern : Nat) : ℚ := significand pattern * 2 ^ ((scaleOf pattern : Int) - 150)

theorem valueOf_zero : valueOf 0 = 0 := by simp [valueOf, significand]

/-- The number of a pattern, from an exponent and a significand that may carry into it. -/
theorem valueOf_parts {exponent rounded : Nat} (carry : rounded ≤ 2 ^ 24)
    (normal : exponent = 0 ∨ 2 ^ 23 ≤ rounded) :
    valueOf (exponent * 2 ^ 23 + rounded) = rounded * 2 ^ ((exponent : Int) - 149) := by
  rcases Nat.lt_or_ge rounded (2 ^ 23) with subnormal | large
  · obtain rfl : exponent = 0 := normal.resolve_right (by omega)
    have scale : scaleOf rounded = 1 := by unfold scaleOf; omega
    have whole : significand rounded = rounded := by unfold significand; split <;> omega
    rw [zero_mul, zero_add, valueOf, scale, whole]
    norm_num
  · rcases Nat.lt_or_eq_of_le carry with less | carries
    · have scale : scaleOf (exponent * 2 ^ 23 + rounded) = exponent + 1 := by unfold scaleOf; omega
      have whole : significand (exponent * 2 ^ 23 + rounded) = rounded := by
        unfold significand
        split <;> omega
      rw [valueOf, scale, whole]
      congr 2
      push_cast
      ring
    · subst carries
      have scale : scaleOf (exponent * 2 ^ 23 + 2 ^ 24) = exponent + 2 := by unfold scaleOf; omega
      have half : significand (exponent * 2 ^ 23 + 2 ^ 24) = 2 ^ 23 := by
        unfold significand
        split <;> omega
      have shift : ((exponent + 2 : Nat) : Int) - 150 = ((exponent : Int) - 149) + 1 := by
        push_cast
        ring
      rw [valueOf, scale, half, shift, zpow_add_one₀ two_ne_zero]
      push_cast
      ring

/-- A power with its sign on one side of a quotient or the other. -/
theorem mul_zpow_eq {base : Nat} (some : 0 < base) (power : Int) (numerator denominator : Nat) :
    ((numerator * base ^ power.toNat : Nat) / (denominator * base ^ (-power).toNat : Nat) : ℚ) =
      numerator / denominator * base ^ power := by
  have nonzero : (base : ℚ) ≠ 0 := by exact_mod_cast some.ne'
  rcases le_total 0 power with nonneg | nonpos
  · obtain ⟨power, rfl⟩ := Int.eq_ofNat_of_zero_le nonneg
    have none : (-(power : Int)).toNat = 0 := by omega
    rw [none, Int.toNat_natCast, zpow_natCast]
    push_cast
    ring
  · obtain ⟨negated, negative⟩ := Int.eq_ofNat_of_zero_le (neg_nonneg.mpr nonpos)
    obtain rfl : power = -negated := by omega
    have none : (-(negated : Int)).toNat = 0 := by omega
    rw [none, neg_neg, Int.toNat_natCast, zpow_neg, zpow_natCast]
    push_cast
    field_simp

section Binary32

variable {numerator denominator numerator' denominator' : Nat}

/-- The exponent of a number, for a subnormal number the least. -/
def exponentOf (numerator denominator : Nat) : Int := max (binade numerator denominator) (-126)

/-- The number in units of its last place. -/
def unitsOf (numerator denominator : Nat) : ℚ :=
  numerator / denominator * 2 ^ (23 - exponentOf numerator denominator)

/-- The significand that the number is rounded to. -/
def roundedOf (numerator denominator : Nat) : Nat :=
  roundHalfEven (numerator * 2 ^ (23 - exponentOf numerator denominator).toNat)
    (denominator * 2 ^ (exponentOf numerator denominator - 23).toNat)

theorem binary32_eq (some : 0 < numerator) :
    binary32 numerator denominator =
      (exponentOf numerator denominator + 126).toNat * 2 ^ 23 + roundedOf numerator denominator := by
  rw [binary32, if_neg some.ne']
  rfl

theorem roundedOf_nearest (positive : 0 < denominator) :
    NearestEven (unitsOf numerator denominator) (roundedOf numerator denominator) := by
  have scaled := mul_zpow_eq two_pos (23 - exponentOf numerator denominator) numerator denominator
  rw [neg_sub] at scaled
  push_cast at scaled
  have nearest : NearestEven
      (((numerator * 2 ^ (23 - exponentOf numerator denominator).toNat : Nat) : ℚ) /
        ((denominator * 2 ^ (exponentOf numerator denominator - 23).toNat : Nat) : ℚ))
      (roundedOf numerator denominator) := roundHalfEven_nearest (by positivity)
  push_cast at nearest
  rw [scaled] at nearest
  exact nearest

theorem units_lt (some : 0 < numerator) (positive : 0 < denominator) :
    unitsOf numerator denominator < 2 ^ 24 := by
  have below : (numerator / denominator : ℚ) < 2 ^ (exponentOf numerator denominator + 1) :=
    (binade_spec some positive).2.trans_le
      (zpow_le_zpow_right₀ one_le_two (by unfold exponentOf; omega))
  calc unitsOf numerator denominator
      < 2 ^ (exponentOf numerator denominator + 1) * 2 ^ (23 - exponentOf numerator denominator) := by
        unfold unitsOf
        gcongr
    _ = 2 ^ 24 := by
        rw [← zpow_add₀ two_ne_zero, ← zpow_natCast]
        congr 1
        push_cast
        ring

theorem units_ge (some : 0 < numerator) (positive : 0 < denominator)
    (normal : -126 < exponentOf numerator denominator) : 2 ^ 23 ≤ unitsOf numerator denominator := by
  have above : (2 : ℚ) ^ exponentOf numerator denominator ≤ numerator / denominator := by
    have own : exponentOf numerator denominator = binade numerator denominator := by
      unfold exponentOf at normal ⊢
      omega
    rw [own]
    exact (binade_spec some positive).1
  calc (2 : ℚ) ^ 23
      = 2 ^ exponentOf numerator denominator * 2 ^ (23 - exponentOf numerator denominator) := by
        rw [← zpow_add₀ two_ne_zero, ← zpow_natCast]
        congr 1
        push_cast
        ring
    _ ≤ unitsOf numerator denominator := by
        unfold unitsOf
        gcongr

theorem roundedOf_le (some : 0 < numerator) (positive : 0 < denominator) :
    roundedOf numerator denominator ≤ 2 ^ 24 := by
  refine (roundedOf_nearest positive).mono (.self (2 ^ 24)) ?_
  exact_mod_cast (units_lt some positive).le

theorem roundedOf_ge (some : 0 < numerator) (positive : 0 < denominator)
    (normal : -126 < exponentOf numerator denominator) : 2 ^ 23 ≤ roundedOf numerator denominator := by
  refine (NearestEven.self (2 ^ 23)).mono (roundedOf_nearest positive) ?_
  exact_mod_cast units_ge some positive normal

/-- The number of the pattern is the significand in units of its last place. -/
theorem valueOf_binary32 (some : 0 < numerator) (positive : 0 < denominator) :
    valueOf (binary32 numerator denominator) =
      roundedOf numerator denominator * 2 ^ (exponentOf numerator denominator - 23) := by
  have least : -126 ≤ exponentOf numerator denominator := le_max_right _ _
  have normal : (exponentOf numerator denominator + 126).toNat = 0 ∨
      2 ^ 23 ≤ roundedOf numerator denominator := by
    rcases least.lt_or_eq with more | same
    · exact .inr (roundedOf_ge some positive more)
    · exact .inl (by omega)
  rw [binary32_eq some, valueOf_parts (roundedOf_le some positive) normal]
  congr 2
  omega

/-- The number read is within half a unit in the last place of the number written. -/
theorem binary32_near {power : Int} (large : -126 < power) (positive : 0 < denominator)
    (below : (numerator / denominator : ℚ) < 2 ^ power) :
    |valueOf (binary32 numerator denominator) - numerator / denominator| ≤ 2 ^ (power - 25) := by
  rcases Nat.eq_zero_or_pos numerator with rfl | some
  · have zero : binary32 0 denominator = 0 := if_pos rfl
    rw [zero, valueOf_zero]
    simp only [Nat.cast_zero, zero_div, sub_zero, abs_zero]
    positivity
  · have written : (numerator / denominator : ℚ) =
        unitsOf numerator denominator * 2 ^ (exponentOf numerator denominator - 23) := by
      rw [unitsOf, mul_assoc, ← zpow_add₀ two_ne_zero, sub_add_sub_cancel, sub_self, zpow_zero, mul_one]
    have bounded : exponentOf numerator denominator - 23 ≤ power - 24 := by
      have := binade_lt some positive below
      unfold exponentOf
      omega
    have unit : (0 : ℚ) < 2 ^ (exponentOf numerator denominator - 23) := by positivity
    rw [valueOf_binary32 some positive, written, ← sub_mul, abs_mul, abs_of_pos unit]
    calc |(roundedOf numerator denominator : ℚ) - unitsOf numerator denominator| *
          2 ^ (exponentOf numerator denominator - 23)
        ≤ 1 / 2 * 2 ^ (power - 24) :=
          mul_le_mul (roundedOf_nearest positive).near (zpow_le_zpow_right₀ one_le_two bounded)
            (by positivity) (by norm_num)
      _ = 2 ^ (power - 25) := by
          rw [show power - 24 = (power - 25) + 1 by ring, zpow_add_one₀ two_ne_zero]
          ring

/-- Reading keeps the order. -/
theorem binary32_mono (positive : 0 < denominator) (positive' : 0 < denominator')
    (le : (numerator / denominator : ℚ) ≤ numerator' / denominator') :
    binary32 numerator denominator ≤ binary32 numerator' denominator' := by
  rcases Nat.eq_zero_or_pos numerator with rfl | some
  · rw [binary32, if_pos rfl]
    exact Nat.zero_le _
  have some' : 0 < numerator' := by
    by_contra none
    obtain rfl : numerator' = 0 := by omega
    have more : (0 : ℚ) < numerator / denominator := by positivity
    rw [Nat.cast_zero, zero_div] at le
    exact absurd le (not_le.mpr more)
  have exponents : exponentOf numerator denominator ≤ exponentOf numerator' denominator' :=
    max_le_max (binade_ge some' positive' ((binade_spec some positive).1.trans le)) (le_refl _)
  have least : -126 ≤ exponentOf numerator denominator := le_max_right _ _
  rw [binary32_eq some, binary32_eq some']
  rcases exponents.lt_or_eq with less | same
  · -- The carry of the smaller number ends where the binade of the larger begins.
    have carry := roundedOf_le some positive
    have normal := roundedOf_ge some' positive' (least.trans_lt less)
    omega
  · have units : unitsOf numerator denominator ≤ unitsOf numerator' denominator' := by
      unfold unitsOf
      rw [same]
      gcongr
    rw [same]
    exact Nat.add_le_add_left ((roundedOf_nearest positive).mono (roundedOf_nearest positive') units) _

end Binary32

/-- The number that a decimal text spells. -/
def decimalOf (text : List UInt8) : ℚ :=
  let (negative, unsigned) := readSign text
  let whole := unsigned.takeWhile isDigit
  let (fraction, rest) := readFraction (unsigned.dropWhile isDigit)
  let exponent := (readExponent rest).1.getD 0
  (if negative then -1 else 1) *
    (natOf (whole ++ fraction) * 10 ^ (exponent - (fraction.length : Int)))

/-- The place of a pattern among the finite numbers; both zeros have the same. -/
def placeOf (bits : UInt32) : Int :=
  if bits < 0x80000000 then magnitudeOf bits else -magnitudeOf bits

/-- The number at a place. -/
def numberAt (place : Int) : ℚ := (if place < 0 then -1 else 1) * valueOf place.natAbs

theorem numberAt_signed (negative : Bool) (pattern : Nat) :
    numberAt (if negative then -(pattern : Int) else pattern) =
      (if negative then -1 else 1) * valueOf pattern := by
  cases negative with
  | false => simp [numberAt]
  | true =>
    rcases Nat.eq_zero_or_pos pattern with rfl | some
    · simp [numberAt, valueOf_zero]
    · simp [numberAt, some]

theorem placeOf_signBit_add (negative : Bool) {pattern : Nat} (small : pattern < 2 ^ 31) :
    placeOf (signBit negative + UInt32.ofNat pattern) =
      if negative then -(pattern : Int) else pattern := by
  have positive : signBit negative + UInt32.ofNat pattern < 0x80000000 ↔ negative = false := by
    rw [UInt32.lt_iff_toNat_lt, UInt32.toNat_add, UInt32.toNat_ofNat']
    have sign : (0x80000000 : UInt32).toNat = 0x80000000 := rfl
    cases negative with
    | false =>
      refine iff_of_true ?_ rfl
      simp only [signBit, Bool.false_eq_true, if_false, UInt32.toNat_zero, sign]
      omega
    | true =>
      refine iff_of_false ?_ (by simp)
      simp only [signBit, if_true, sign]
      omega
  unfold placeOf
  rw [magnitudeOf_signBit_add negative small]
  cases negative with
  | false => rw [if_pos (positive.mpr rfl)]; rfl
  | true => rw [if_neg (by simp [positive])]; rfl

/-- What is read is the pattern of the quotient spelled, with its sign. -/
theorem readFloat_spelled {text : List UInt8} (valid : (readFloat text).valid = true) :
    ∃ (negative : Bool) (numerator denominator : Nat), 0 < denominator ∧
      decimalOf text = (if negative then -1 else 1) * (numerator / denominator) ∧
      placeOf (readFloat text).value =
        if negative then -(binary32 numerator denominator : Int) else binary32 numerator denominator := by
  unfold readFloat at valid ⊢
  unfold decimalOf
  generalize readSign text = scanned at valid ⊢
  obtain ⟨negative, unsigned⟩ := scanned
  simp only at valid ⊢
  generalize readFraction (unsigned.dropWhile isDigit) = parted at valid ⊢
  obtain ⟨fraction, rest⟩ := parted
  simp only at valid ⊢
  split at valid
  · cases valid
  · rename_i some
    rw [if_neg some]
    generalize readExponent rest = raised at valid ⊢
    obtain ⟨exponent?, after⟩ := raised
    cases exponent? with
    | none => cases valid
    | some exponent =>
      simp only [Option.getD_some] at valid ⊢
      split at valid
      · rename_i finite
        rw [if_pos finite]
        refine ⟨negative, _, _, ?_, ?_, placeOf_signBit_add negative (by omega)⟩
        · positivity
        · have ten := mul_zpow_eq (by decide : 0 < 10) (exponent - (fraction.length : Int))
            (natOf (unsigned.takeWhile isDigit ++ fraction)) 1
          rw [Nat.one_mul, Nat.cast_one, div_one] at ten
          rw [ten]
          rfl
      · cases valid

section Texts

variable {text text' : List UInt8}

/-- The order of the numbers spelled is the order of the numbers read. -/
theorem readFloat_mono (valid : (readFloat text).valid = true)
    (valid' : (readFloat text').valid = true) (le : decimalOf text ≤ decimalOf text') :
    placeOf (readFloat text).value ≤ placeOf (readFloat text').value := by
  obtain ⟨negative, numerator, denominator, positive, spelled, read⟩ := readFloat_spelled valid
  obtain ⟨negative', numerator', denominator', positive', spelled', read'⟩ := readFloat_spelled valid'
  have nonneg : (0 : ℚ) ≤ numerator / denominator := by positivity
  have nonneg' : (0 : ℚ) ≤ numerator' / denominator' := by positivity
  rw [spelled, spelled'] at le
  rw [read, read']
  cases negative with
  | false =>
    cases negative' with
    | false =>
      have kept := binary32_mono positive positive' (by simpa using le)
      simpa using kept
    | true =>
      -- Both are zero.
      simp only [Bool.false_eq_true, if_false, if_true, one_mul, neg_mul] at le
      have none : binary32 numerator denominator ≤ binary32 0 1 :=
        binary32_mono positive one_pos (by simp; linarith)
      have none' : binary32 numerator' denominator' ≤ binary32 0 1 :=
        binary32_mono positive' one_pos (by simp; linarith)
      have zero : binary32 0 1 = 0 := rfl
      simp only [Bool.false_eq_true, if_false, if_true]
      omega
  | true =>
    cases negative' with
    | false =>
      simp only [Bool.false_eq_true, if_false, if_true]
      omega
    | true =>
      have kept := binary32_mono positive' positive (by simpa using le)
      simpa using kept

/-- A number below two to this power is read as one near it. -/
theorem readFloat_near (valid : (readFloat text).valid = true) {power : Int} (large : -126 < power)
    (below : |decimalOf text| < 2 ^ power) :
    |numberAt (placeOf (readFloat text).value) - decimalOf text| ≤ 2 ^ (power - 25) := by
  obtain ⟨negative, numerator, denominator, positive, spelled, read⟩ := readFloat_spelled valid
  have nonneg : (0 : ℚ) ≤ numerator / denominator := by positivity
  rw [read, spelled, numberAt_signed, ← mul_sub, abs_mul]
  rw [spelled, abs_mul, abs_of_nonneg nonneg] at below
  have unit : |(if negative then -1 else 1 : ℚ)| = 1 := by cases negative <;> simp
  rw [unit, one_mul] at below ⊢
  exact binary32_near large positive below

/-- An amount of whole cents, below two to the 17. -/
def Cents (amount : ℚ) : Prop := |amount| < 2 ^ 17 ∧ ∃ cents : Int, 100 * amount = cents

theorem Cents.apart {amount amount' : ℚ} (cents : Cents amount) (cents' : Cents amount')
    (less : amount < amount') : amount + 1 / 100 ≤ amount' := by
  obtain ⟨-, number, spelled⟩ := cents
  obtain ⟨-, number', spelled'⟩ := cents'
  have next : (number : ℚ) < number' := by linarith
  have next' : (number : ℚ) + 1 ≤ number' := by exact_mod_cast next
  linarith

/-- Amounts of cents are told apart: each is read as a number less than half a cent from it. -/
theorem readFloat_cents (valid : (readFloat text).valid = true)
    (valid' : (readFloat text').valid = true) (cents : Cents (decimalOf text))
    (cents' : Cents (decimalOf text')) :
    placeOf (readFloat text).value ≤ placeOf (readFloat text').value ↔
      decimalOf text ≤ decimalOf text' := by
  refine ⟨fun le => ?_, readFloat_mono valid valid'⟩
  by_contra greater
  have apart := cents'.apart cents (not_le.mp greater)
  have same := le_antisymm le (readFloat_mono valid' valid (not_le.mp greater).le)
  have near : |numberAt (placeOf (readFloat text).value) - decimalOf text| ≤ 2 ^ ((17 : Int) - 25) :=
    readFloat_near valid (by decide) cents.1
  have near' : |numberAt (placeOf (readFloat text').value) - decimalOf text'| ≤ 2 ^ ((17 : Int) - 25) :=
    readFloat_near valid' (by decide) cents'.1
  rw [same] at near
  obtain ⟨below, -⟩ := abs_le.mp near
  obtain ⟨-, above⟩ := abs_le.mp near'
  norm_num at below above
  linarith

end Texts

end Dfis.Input
