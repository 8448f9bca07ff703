import Dfis.Wire.Laws
import Mathlib.Algebra.BigOperators.Fin
import Mathlib.Logic.Equiv.Fin.Basic

/-! A concrete wire format: numbers in network byte order, byte strings and
lists behind an 8-byte count of their elements. -/

namespace Dfis.Wire

/-- Base 256 digits, the most significant first. -/
def bigEndian (width : Nat) : Fin (256 ^ width) ≃ Block width :=
  finFunctionFinEquiv.symm.trans <|
    (Equiv.arrowCongr Fin.revPerm ⟨UInt8.ofFin, UInt8.toFin, fun _ => rfl, fun _ => rfl⟩).trans
      (Equiv.vectorEquivFin UInt8 width).symm

/-- The element count in front of a string or a list. -/
def countCode : Int64 ≃ Block 8 :=
  (⟨fun n => n.toBitVec.toFin, fun n => .ofBitVec (.ofFin n), fun _ => rfl, fun _ => rfl⟩ :
    Int64 ≃ Fin (2 ^ 64)).trans (bigEndian 8)

namespace Reader

/-- As many elements as counted, one after the other. -/
def many (element : Codec α) : Nat → Reader (List α)
  | 0 => pure []
  | count + 1 => do
    let value ← coded element
    let values ← many element count
    return value :: values

/-- A count, rejected when negative, and the body it is the count of. -/
def counted (body : Nat → Reader α) : Reader α := do
  let count ← number countCode
  if count < 0 then reject else body count.toNatClampNeg

theorem Yields.many {element : Codec α} (lawful : element.RoundTrips) (values : List α) :
    Yields (Reader.many element values.length) (values.flatMap element.marshal) values := by
  induction values with
  | nil => exact .pure []
  | cons value values ih =>
    refine .of_eq ?_ (.bind (.coded lawful) (.bind ih (.pure (value :: values))))
    simp

theorem Inverts.many {element : Codec α} (lawful : element.Sound) {next : List α → Reader β}
    {encode : β → List UInt8} (count : Nat)
    (rest : ∀ values, values.length = count →
      Inverts (next values) (before ++ values.flatMap element.marshal) encode) :
    Inverts (Reader.many element count >>= next) before encode := by
  induction count generalizing next before with
  | zero =>
    have base := rest [] rfl
    rwa [List.flatMap_nil, List.append_nil] at base
  | succ count ih =>
    simp only [Reader.many, bind_assoc]
    refine .bind (.coded lawful) fun value => ih fun values same => ?_
    have longer := rest (value :: values) (by simp [same])
    rwa [List.flatMap_cons, ← List.append_assoc] at longer

theorem Yields.counted {body : Nat → Reader α} (small : count < 2 ^ 63)
    (yields : Yields (body count) content value) :
    Yields (Reader.counted body) ((countCode (Int64.ofNat count)).toList ++ content) value := by
  refine .bind .number ?_
  have nonneg : ¬ Int64.ofNat count < 0 := Int64.not_lt.mpr (Int64.zero_le_ofNat_of_lt small)
  simpa [nonneg, Int64.toNatClampNeg_ofNat_of_lt small] using yields

theorem Inverts.counted {body : Nat → Reader α} {encode : α → List UInt8}
    (inverts : ∀ count < 2 ^ 63,
      Inverts (body count) (before ++ (countCode (Int64.ofNat count)).toList) encode) :
    Inverts (Reader.counted body) before encode := by
  refine .bind .number fun count => ?_
  by_cases negative : count < 0
  · simpa [negative] using Inverts.reject
  · have nonneg : 0 ≤ count := Int64.not_lt.mp negative
    have small : count.toNatClampNeg < 2 ^ 63 := Int64.toNatClampNeg_lt count
    have body := inverts count.toNatClampNeg small
    rw [Int64.ofNat_toNatClampNeg count nonneg] at body
    simpa [negative] using body

end Reader

open Reader

/-- A number as a codec of its own. -/
def numberCodec (code : α ≃ Block width) : Codec α where
  marshal value := (code value).toList
  unmarshal := run (number code)

/-- The bytes behind their count. -/
def countedBytes : Codec (List UInt8) where
  marshal bytes := (countCode (Int64.ofNat bytes.length)).toList ++ bytes
  unmarshal := run (counted fun count => do
    let block ← number (Equiv.refl (Block count))
    return block.toList)

/-- The elements behind their count. -/
def countedList (element : Codec α) : Codec (List α) where
  marshal values := (countCode (Int64.ofNat values.length)).toList ++ values.flatMap element.marshal
  unmarshal := run (counted (many element))

theorem numberCodec_roundTrips [Narrow width] (code : α ≃ Block width) :
    (numberCodec code).RoundTrips :=
  Yields.roundTrips fun _ => .number

theorem numberCodec_sound [Narrow width] (code : α ≃ Block width) :
    (numberCodec code).Sound :=
  Codec.Strict.sound (Inverts.strict .number)

theorem countedBytes_roundTrips : countedBytes.RoundTrips := by
  intro bytes after data split
  have small : bytes.length < 2 ^ 63 := by
    have fits := data.fits
    simp only [split, countedBytes, List.length_append] at fits
    omega
  have narrow : Narrow bytes.length := ⟨small⟩
  have block : Yields (number (Equiv.refl (Block bytes.length))) bytes ⟨bytes, rfl⟩ :=
    .of_eq (by rfl) .number
  exact Yields.run (.counted small (.of_eq (List.append_nil _) (.bind block (.pure bytes)))) data split

theorem countedBytes_sound : countedBytes.Sound := by
  refine Codec.Strict.sound (Inverts.strict (.counted fun count small => ?_))
  have narrow : Narrow count := ⟨small⟩
  refine .bind .number fun block => .pure ?_
  simp

/-- Elements of no width at all could outnumber every count. -/
theorem countedList_roundTrips {element : Codec α} (lawful : element.RoundTrips)
    (visible : ∀ value, element.marshal value ≠ []) : (countedList element).RoundTrips := by
  intro values after data split
  have wider (values : List α) : values.length ≤ (values.flatMap element.marshal).length := by
    induction values with
    | nil => simp
    | cons value values ih =>
      have wide := List.length_pos_iff.mpr (visible value)
      simp only [List.length_cons, List.flatMap_cons, List.length_append]
      omega
  have small : values.length < 2 ^ 63 := by
    have fits := data.fits
    have bound := wider values
    simp only [split, countedList, List.length_append] at fits
    omega
  exact Yields.run (.counted small (.many lawful values)) data split

theorem countedList_sound {element : Codec α} (lawful : element.Sound) :
    (countedList element).Sound := by
  refine Codec.Strict.sound (Inverts.strict (.counted fun count small => ?_))
  rw [← bind_pure (many element count)]
  refine .many lawful count fun values same => .pure ?_
  simp [same]

end Dfis.Wire
