import Dfis.Input.Numbers

/-! Which lines hold an integer, and the decimal digits that are written for one. -/

namespace Dfis.Input

/-- The decimal digits of a number. -/
def showNat (number : Nat) : List UInt8 :=
  (Nat.toDigits 10 number).map fun c => UInt8.ofNat c.toNat

def showInt (number : Int) : List UInt8 :=
  if number < 0 then 0x2d :: showNat number.natAbs else showNat number.natAbs

/-- Blanks, at most one sign, at least one digit, and blanks. -/
structure Numeral (negative : Bool) (number : Nat) (line : List UInt8) : Prop where
  spelled : ∃ before sign digits after, line = before ++ (sign ++ (digits ++ after)) ∧
    before.all isSpace = true ∧ after.all isSpace = true ∧
    digits ≠ [] ∧ digits.all isDigit = true ∧ natOf digits = number ∧
    (if negative then sign = [0x2d] else sign = [] ∨ sign = [0x2b])

section Digits

/-- The character of a digit. -/
def digitOf (digit : Nat) : UInt8 := UInt8.ofNat (48 + digit)

theorem isDigit_digitOf {digit : Nat} (small : digit < 10) : isDigit (digitOf digit) = true := by
  revert digit
  decide

theorem digitOf_value {digit : Nat} (small : digit < 10) : (digitOf digit).toNat - 48 = digit := by
  revert digit
  decide

theorem showNat_eq (number : Nat) :
    showNat number =
      (if number < 10 then [] else showNat (number / 10)) ++ [digitOf (number % 10)] := by
  have digit : ∀ d < 10, UInt8.ofNat (Nat.digitChar d).toNat = digitOf d := by decide
  unfold showNat
  rw [Nat.toDigits_eq_if (by decide)]
  split
  · rename_i small
    simp [digit number small, Nat.mod_eq_of_lt small]
  · simp [digit (number % 10) (Nat.mod_lt _ (by decide))]

theorem showNat_ne_nil (number : Nat) : showNat number ≠ [] := by
  rw [showNat_eq]
  simp

theorem showNat_digits (number : Nat) : (showNat number).all isDigit = true := by
  induction number using Nat.strongRecOn with
  | ind number ih =>
    have last := isDigit_digitOf (Nat.mod_lt number (by decide : 10 > 0))
    rw [showNat_eq]
    split
    · simp [last]
    · simp [last, ih (number / 10) (by omega)]

theorem natOf_append_singleton (digits : List UInt8) (c : UInt8) :
    natOf (digits ++ [c]) = 10 * natOf digits + (c.toNat - 48) := by
  simp [natOf]

theorem natOf_showNat (number : Nat) : natOf (showNat number) = number := by
  induction number using Nat.strongRecOn with
  | ind number ih =>
    rw [showNat_eq, natOf_append_singleton, digitOf_value (Nat.mod_lt _ (by decide))]
    split
    · simp only [natOf, List.foldl_nil]
      omega
    · rw [ih (number / 10) (by omega)]
      omega

end Digits

section Scan

theorem isDigit_iff {c : UInt8} : isDigit c = true ↔ 48 ≤ c.toNat ∧ c.toNat ≤ 57 := by
  simp [isDigit, UInt8.le_iff_toNat_le]

theorem isSpace_iff {c : UInt8} :
    isSpace c = true ↔ c.toNat = 32 ∨ 9 ≤ c.toNat ∧ c.toNat ≤ 13 := by
  simp [isSpace, UInt8.le_iff_toNat_le, ← UInt8.toNat_inj]

theorem isDigit_space {c : UInt8} (space : isSpace c = true) : isDigit c = false := by
  rw [Bool.eq_false_iff, Ne, isDigit_iff]
  rw [isSpace_iff] at space
  omega

theorem isSpace_digit {c : UInt8} (digit : isDigit c = true) : isSpace c = false := by
  cases space : isSpace c with
  | false => rfl
  | true => exact absurd digit (by simp [isDigit_space space])

theorem dropWhile_append_stop {α : Type} {p : α → Bool} {before after : List α}
    (all : before.all p = true) (stop : ∀ c ∈ after.head?, p c = false) :
    (before ++ after).dropWhile p = after := by
  rw [List.dropWhile_append_of_pos (by simpa using all)]
  cases after with
  | nil => rfl
  | cons c after => simp [stop c rfl]

theorem takeWhile_append_stop {α : Type} {p : α → Bool} {before after : List α}
    (all : before.all p = true) (stop : ∀ c ∈ after.head?, p c = false) :
    (before ++ after).takeWhile p = before := by
  rw [List.takeWhile_append_of_pos (by simpa using all)]
  cases after with
  | nil => simp
  | cons c after => simp [stop c rfl]

variable {negative : Bool} {number : Nat} {line digits after : List UInt8}

theorem readSign_append {sign : List UInt8}
    (signs : if negative then sign = [0x2d] else sign = [] ∨ sign = [0x2b])
    (some : digits ≠ []) (all : digits.all isDigit = true) :
    readSign (sign ++ (digits ++ after)) = (negative, digits ++ after) := by
  cases negative with
  | true =>
    obtain rfl : sign = [0x2d] := by simpa using signs
    rfl
  | false =>
    rcases signs with rfl | rfl
    · cases digits with
      | nil => exact absurd rfl some
      | cons c digits =>
        have digit : isDigit c = true := by simp_all
        rw [isDigit_iff] at digit
        have minus : c ≠ 0x2d := by rintro rfl; simp at digit
        have plus : c ≠ 0x2b := by rintro rfl; simp at digit
        simp [readSign, minus, plus]
    · rfl

theorem numeral_head {sign : List UInt8}
    (signs : if negative then sign = [0x2d] else sign = [] ∨ sign = [0x2b])
    (some : digits ≠ []) (all : digits.all isDigit = true) :
    ∀ c ∈ (sign ++ (digits ++ after)).head?, isSpace c = false := by
  intro c first
  suffices starts : c = 0x2d ∨ c = 0x2b ∨ isDigit c = true by
    rcases starts with rfl | rfl | digit
    · rfl
    · rfl
    · exact isSpace_digit digit
  cases digits with
  | nil => exact absurd rfl some
  | cons d digits =>
    cases negative with
    | true =>
      obtain rfl : sign = [0x2d] := by simpa using signs
      exact .inl (by simpa using first.symm)
    | false =>
      rcases signs with rfl | rfl
      · obtain rfl : d = c := by simpa using first
        exact .inr (.inr (by simp_all))
      · exact .inr (.inl (by simpa using first.symm))

/-- What a sign is read off is the sign before what is left. -/
theorem readSign_split (text : List UInt8) :
    ∃ sign, text = sign ++ (readSign text).2 ∧
      if (readSign text).1 then sign = [0x2d] else sign = [] ∨ sign = [0x2b] := by
  cases text with
  | nil => exact ⟨[], rfl, .inl rfl⟩
  | cons c text =>
    by_cases minus : c = 0x2d
    · subst minus
      exact ⟨[0x2d], rfl, rfl⟩
    · by_cases plus : c = 0x2b
      · subst plus
        exact ⟨[0x2b], rfl, .inr rfl⟩
      · exact ⟨[], by simp [readSign, minus, plus], by simp [readSign, minus, plus]⟩

/-- A line is a numeral just if reading it leaves blanks only, with a digit read. -/
theorem numeral_iff :
    Numeral negative number line ↔
      (readSign (line.dropWhile isSpace)).1 = negative ∧
      (readSign (line.dropWhile isSpace)).2.takeWhile isDigit ≠ [] ∧
      natOf ((readSign (line.dropWhile isSpace)).2.takeWhile isDigit) = number ∧
      ((readSign (line.dropWhile isSpace)).2.dropWhile isDigit).all isSpace = true := by
  constructor
  · rintro ⟨before, sign, digits, after, rfl, blank, blank', some, all, rfl, signs⟩
    have stop : ∀ c ∈ after.head?, isDigit c = false := by
      intro c first
      cases after with
      | nil => cases first
      | cons c' after =>
        obtain rfl : c' = c := by simpa using first
        exact isDigit_space (by simp_all)
    rw [dropWhile_append_stop blank (numeral_head signs some all), readSign_append signs some all,
      takeWhile_append_stop all stop, dropWhile_append_stop all stop]
    exact ⟨rfl, some, rfl, blank'⟩
  · rintro ⟨rfl, some, rfl, blank⟩
    obtain ⟨sign, text, signs⟩ := readSign_split (line.dropWhile isSpace)
    refine ⟨line.takeWhile isSpace, sign, _, _, ?_, ?_, blank, some, ?_, rfl, signs⟩
    · rw [List.takeWhile_append_dropWhile, ← text, List.takeWhile_append_dropWhile]
    · exact List.all_takeWhile
    · exact List.all_takeWhile

end Scan

section Answers

variable {line : List UInt8}

/-- The lines that answer a question for a signed integer: the numerals in range. -/
theorem readInteger_answer_iff (lowest highest : Int) {value : Int} :
    (readInteger lowest highest).answer? line = some value ↔
      ∃ negative number, Numeral negative number line ∧ signed negative number = value ∧
        lowest ≤ value ∧ value ≤ highest := by
  have empty : ((readInteger lowest highest) []).valid = false := rfl
  rw [Reader.answer?_valid empty]
  simp only [numeral_iff, readInteger]
  generalize readSign (line.dropWhile isSpace) = scanned
  obtain ⟨negative, unsigned⟩ := scanned
  split
  · rename_i nothing
    simp [nothing]
  · rename_i some
    split
    · rename_i low
      refine iff_of_false (by simp) ?_
      rintro ⟨_, _, ⟨rfl, -, rfl, -⟩, rfl, above, -⟩
      exact absurd low (Int.not_lt.mpr above)
    · split
      · rename_i high
        refine iff_of_false (by simp) ?_
        rintro ⟨_, _, ⟨rfl, -, rfl, -⟩, rfl, -, below⟩
        exact absurd high (Int.not_lt.mpr below)
      · rename_i above below
        constructor
        · rintro ⟨-, rfl, blank⟩
          exact ⟨_, _, ⟨rfl, some, rfl, blank⟩, rfl, Int.not_lt.mp above, Int.not_lt.mp below⟩
        · rintro ⟨_, _, ⟨rfl, -, rfl, blank⟩, rfl, -, -⟩
          exact ⟨rfl, rfl, blank⟩

/-- The lines that answer a question for an unsigned integer. A negative number
is an answer too, taken modulo the number of values. -/
theorem readUnsigned_answer_iff (size : Nat) {value : Nat} :
    (readUnsigned size).answer? line = some value ↔
      ∃ negative number, Numeral negative number line ∧ number < size ∧
        (if negative then (size - number) % size else number) = value := by
  have empty : ((readUnsigned size) []).valid = false := rfl
  rw [Reader.answer?_valid empty]
  simp only [numeral_iff, readUnsigned]
  generalize readSign (line.dropWhile isSpace) = scanned
  obtain ⟨negative, unsigned⟩ := scanned
  split
  · rename_i nothing
    simp [nothing]
  · rename_i some
    split
    · rename_i large
      refine iff_of_false (by simp) ?_
      rintro ⟨_, _, ⟨rfl, -, rfl, -⟩, small, -⟩
      exact absurd large (Nat.not_le.mpr small)
    · rename_i small
      constructor
      · rintro ⟨-, rfl, blank⟩
        exact ⟨_, _, ⟨rfl, some, rfl, blank⟩, Nat.not_le.mp small, rfl⟩
      · rintro ⟨_, _, ⟨rfl, -, rfl, blank⟩, -, rfl⟩
        exact ⟨rfl, rfl, blank⟩

theorem numeral_showNat (number : Nat) : Numeral false number (showNat number) :=
  ⟨[], [], showNat number, [], by simp, rfl, rfl, showNat_ne_nil number, showNat_digits number,
    natOf_showNat number, .inl rfl⟩

theorem signed_natAbs (number : Int) : signed (decide (number < 0)) number.natAbs = number := by
  unfold signed
  split
  · rename_i negative
    have := of_decide_eq_true negative
    omega
  · rename_i nonneg
    have := of_decide_eq_false (Bool.not_eq_true _ ▸ nonneg)
    omega

/-- The minus sign of a negative number, or nothing. -/
def showSign (negative : Bool) : List UInt8 := if negative then [0x2d] else []

theorem showSign_signs (negative : Bool) :
    if negative then showSign negative = [0x2d]
    else showSign negative = [] ∨ showSign negative = [0x2b] := by
  cases negative with
  | false => exact .inl rfl
  | true => rfl

theorem showInt_eq (number : Int) :
    showInt number = showSign (decide (number < 0)) ++ showNat number.natAbs := by
  unfold showInt showSign
  split <;> simp_all

theorem digits_stop {after : List UInt8} (blank : ∀ c ∈ after.head?, isSpace c = true) :
    ∀ c ∈ after.head?, isDigit c = false :=
  fun c first => isDigit_space (blank c first)

theorem readInteger_spells {lowest highest number : Int} (above : lowest ≤ number)
    (below : number ≤ highest) : (readInteger lowest highest).Spells (showInt number) number := by
  have some := showNat_ne_nil number.natAbs
  have all := showNat_digits number.natAbs
  rw [showInt_eq]
  refine Reader.spells_of (by simp [some]) ?_ fun after blank => ?_
  · rw [← List.append_nil (showNat number.natAbs)]
    exact numeral_head (showSign_signs _) some all
  · have stop := digits_stop blank
    rw [readInteger, List.append_assoc, readSign_append (showSign_signs _) some all]
    simp only [takeWhile_append_stop all stop, dropWhile_append_stop all stop, some, if_false,
      natOf_showNat, signed_natAbs, Int.not_lt.mpr above, Int.not_lt.mpr below]

theorem readUnsigned_showNat {size number : Nat} (small : number < size) :
    (readUnsigned size).answer? (showNat number) = some number :=
  (readUnsigned_answer_iff size).mpr ⟨_, _, numeral_showNat number, small, rfl⟩

end Answers

end Dfis.Input
