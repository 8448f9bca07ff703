import Mathlib.Data.Vector.Defs
import Mathlib.Logic.Equiv.Defs
import Mathlib.Tactic.NormNum

/-! Blocks of bytes as a decoder sees them: an unsigned 64-bit size, a signed
64-bit cursor, and sub-blocks that exist only inside the data. -/

namespace Dfis.Wire

/-- A block of bytes that exists in memory. No object is larger than the
greatest signed 64-bit count, so its size is exact in both count types. -/
structure Span where
  bytes : List UInt8
  fits : bytes.length < 2 ^ 63

/-- A fixed-extent block. -/
abbrev Block (width : Nat) : Type := List.Vector UInt8 width

/-- A block width that both count types hold exactly. -/
class Narrow (width : Nat) : Prop where
  lt (width) : width < 2 ^ 63

instance : Narrow 2 := ⟨by norm_num⟩

instance : Narrow 4 := ⟨by norm_num⟩

instance : Narrow 8 := ⟨by norm_num⟩

/-- `data.size()`. -/
def Span.size (data : Span) : UInt64 := UInt64.ofNat data.bytes.length

/-- The `width` bytes from the cursor; `none` where they are not all inside. -/
def Span.block? (data : Span) (p : Int64) (width : Nat) : Option (Block width) :=
  if inside : 0 ≤ p ∧ p.toNatClampNeg + width ≤ data.bytes.length then
    some ⟨(data.bytes.drop p.toNatClampNeg).take width, by
      simp only [List.length_take, List.length_drop]
      omega⟩
  else none

/-- Everything from the cursor to the end; `none` for a cursor outside. -/
def Span.rest? (data : Span) (p : Int64) : Option Span :=
  if 0 ≤ p ∧ p.toNatClampNeg ≤ data.bytes.length then
    some ⟨data.bytes.drop p.toNatClampNeg, by have := data.fits; simp; omega⟩
  else none

/-- `p + width > data.size()`: the signed cursor becomes unsigned first. -/
def Span.overrun (data : Span) (p : Int64) (width : Nat) : Bool :=
  decide (data.size < p.toUInt64 + UInt64.ofNat width)

theorem exists_block (long : width ≤ content.length) :
    ∃ (block : Block width) (after : List UInt8), content = block.toList ++ after :=
  ⟨⟨content.take width, List.length_take_of_le long⟩, content.drop width,
    (List.take_append_drop width content).symm⟩

/-- At a cursor inside the data the unsigned comparison is the exact one. -/
theorem Span.overrun_cursor [Narrow width] (data : Span) (inside : k ≤ data.bytes.length) :
    data.overrun (Int64.ofNat k) width = decide (data.bytes.length < k + width) := by
  have fits := data.fits
  have narrow := Narrow.lt width
  have exact : data.size < UInt64.ofNat k + UInt64.ofNat width ↔ data.bytes.length < k + width := by
    rw [Span.size, ← UInt64.ofNat_add]
    exact UInt64.ofNat_lt_iff_lt (by simp [UInt64.size]; omega) (by simp [UInt64.size]; omega)
  simp only [Span.overrun, Int64.toUInt64_ofNat', exact]

theorem Span.block?_cursor (data : Span) (room : k + width ≤ data.bytes.length) :
    ∃ block : Block width, data.block? (Int64.ofNat k) width = some block ∧
      block.toList = (data.bytes.drop k).take width := by
  have small : k < 2 ^ 63 := by have := data.fits; omega
  refine ⟨⟨(data.bytes.drop k).take width, by simp; omega⟩, ?_, rfl⟩
  simp only [Span.block?, Int64.toNatClampNeg_ofNat_of_lt small]
  rw [dif_pos ⟨Int64.zero_le_ofNat_of_lt small, room⟩]

theorem Span.rest?_cursor (data : Span) (inside : k ≤ data.bytes.length) :
    ∃ rest : Span, data.rest? (Int64.ofNat k) = some rest ∧ rest.bytes = data.bytes.drop k := by
  have small : k < 2 ^ 63 := by have := data.fits; omega
  refine ⟨⟨data.bytes.drop k, by have := data.fits; simp; omega⟩, ?_, rfl⟩
  simp only [Span.rest?, Int64.toNatClampNeg_ofNat_of_lt small]
  rw [if_pos ⟨Int64.zero_le_ofNat_of_lt small, inside⟩]

end Dfis.Wire
