import Dfis.Input.Stream
import Mathlib.Algebra.Group.Int.Defs
import Mathlib.Algebra.Group.Nat.Defs

/-! Signed integers and decimal numbers as fields. A decimal number is read as
binary32, with exact arithmetic up to the one rounding. -/

namespace Dfis.Input

def isDigit (c : UInt8) : Bool := decide (0x30 ≤ c) && decide (c ≤ 0x39)

/-- Whether there is a minus sign, and the text after the sign. -/
def readSign : List UInt8 → Bool × List UInt8
  | [] => (false, [])
  | c :: text =>
    if c = 0x2d then (true, text)
    else if c = 0x2b then (false, text)
    else (false, c :: text)

/-- The number that decimal digits spell. -/
def natOf (digits : List UInt8) : Nat :=
  digits.foldl (fun number c => 10 * number + (c.toNat - 48)) 0

/-- A number with its sign. -/
def signed (negative : Bool) (number : Nat) : Int := if negative then -number else number

/-- A signed integer type, by its bounds. Without a digit zero is stored, and
out of range the bound; neither is valid. -/
def readInteger (lowest highest : Int) : Reader Int := fun text =>
  let (negative, unsigned) := readSign text
  let digits := unsigned.takeWhile isDigit
  let rest := unsigned.dropWhile isDigit
  let number := signed negative (natOf digits)
  if digits = [] then ⟨0, rest, false⟩
  else if number < lowest then ⟨lowest, rest, false⟩
  else if highest < number then ⟨highest, rest, false⟩
  else ⟨number, rest, true⟩

/-- An unsigned integer type, by the number of its values. A minus sign negates
the number in the type; out of range the largest value is stored. -/
def readUnsigned (size : Nat) : Reader Nat := fun text =>
  let (negative, unsigned) := readSign text
  let digits := unsigned.takeWhile isDigit
  let rest := unsigned.dropWhile isDigit
  let number := natOf digits
  if digits = [] then ⟨0, rest, false⟩
  else if size ≤ number then ⟨size - 1, rest, false⟩
  else ⟨if negative then (size - number) % size else number, rest, true⟩

/-- The integer next to a quotient, the even one in a tie. -/
def roundHalfEven (numerator denominator : Nat) : Nat :=
  let quotient := numerator / denominator
  let twice := 2 * (numerator % denominator)
  if denominator < twice ∨ (twice = denominator ∧ quotient % 2 = 1) then quotient + 1
  else quotient

/-- The largest exponent whose power of two a positive quotient reaches. -/
def binade (numerator denominator : Nat) : Int :=
  let guess : Int := numerator.log2 - denominator.log2
  if denominator * 2 ^ guess.toNat ≤ numerator * 2 ^ (-guess).toNat then guess else guess - 1

/-- The pattern of the binary32 next to a quotient. Subnormal numbers share the
exponent -126, a significand that rounds up to 2^24 carries into the exponent,
and from `0x7f800000` on the number is out of range. -/
def binary32 (numerator denominator : Nat) : Nat :=
  if numerator = 0 then 0
  else
    let exponent := max (binade numerator denominator) (-126)
    (exponent + 126).toNat * 2 ^ 23 +
      roundHalfEven (numerator * 2 ^ (23 - exponent).toNat)
        (denominator * 2 ^ (exponent - 23).toNat)

/-- The digits after a decimal point, if there is one. -/
def readFraction : List UInt8 → List UInt8 × List UInt8
  | [] => ([], [])
  | c :: text =>
    if c = 0x2e then (text.takeWhile isDigit, text.dropWhile isDigit) else ([], c :: text)

/-- The exponent after an `e` or `E`, which must have a digit; zero without one. -/
def readExponent : List UInt8 → Option Int × List UInt8
  | [] => (some 0, [])
  | c :: text =>
    if c = 0x65 ∨ c = 0x45 then
      let (negative, unsigned) := readSign text
      let digits := unsigned.takeWhile isDigit
      (if digits = [] then none else some (signed negative (natOf digits)),
        unsigned.dropWhile isDigit)
    else (some 0, c :: text)

/-- `float`, as its bit pattern. Without a digit zero is stored, and out of
range the largest finite number; neither is valid. -/
def readFloat : Reader UInt32 := fun text =>
  let (negative, unsigned) := readSign text
  let whole := unsigned.takeWhile isDigit
  let (fraction, rest) := readFraction (unsigned.dropWhile isDigit)
  if whole ++ fraction = [] then ⟨0, rest, false⟩
  else match readExponent rest with
    | (none, rest) => ⟨0, rest, false⟩
    | (some exponent, rest) =>
      let scale := exponent - fraction.length
      let magnitude :=
        binary32 (natOf (whole ++ fraction) * 10 ^ scale.toNat) (10 ^ (-scale).toNat)
      let sign : UInt32 := if negative then 0x80000000 else 0
      if magnitude < 0x7f800000 then ⟨sign + UInt32.ofNat magnitude, rest, true⟩
      else ⟨sign + 0x7f7fffff, rest, false⟩

-- 199.0
example : (readFloat [0x31, 0x39, 0x39, 0x2e, 0x30]).value = 0x43470000 := by decide

end Dfis.Input
