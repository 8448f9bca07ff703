import Dfis.Wire.Counted
import Dfis.Messages.Codec

/-! A concrete instance of the serialisers: numbers in network byte order,
strings and vectors behind an 8-byte count. -/

namespace Dfis

open Wire

private def codeI32 : Int32 ≃ Block 4 :=
  (⟨fun n => n.toBitVec.toFin, fun n => .ofBitVec (.ofFin n), fun _ => rfl, fun _ => rfl⟩ :
    Int32 ≃ Fin (2 ^ 32)).trans (bigEndian 4)

private def codeU16 : UInt16 ≃ Block 2 :=
  (⟨fun n => n.toBitVec.toFin, fun n => .ofBitVec (.ofFin n), fun _ => rfl, fun _ => rfl⟩ :
    UInt16 ≃ Fin (2 ^ 16)).trans (bigEndian 2)

private def codeU64 : UInt64 ≃ Block 8 :=
  (⟨fun n => n.toBitVec.toFin, fun n => .ofBitVec (.ofFin n), fun _ => rfl, fun _ => rfl⟩ :
    UInt64 ≃ Fin (2 ^ 64)).trans (bigEndian 8)

private def codeF32 : F32 ≃ Block 4 :=
  (⟨fun value => value.bits.toBitVec.toFin, fun n => ⟨.ofBitVec (.ofFin n)⟩,
    fun _ => rfl, fun _ => rfl⟩ : F32 ≃ Fin (2 ^ 32)).trans (bigEndian 4)

def Srpc.reference : Srpc where
  i32 := codeI32
  i64 := countCode
  u16 := codeU16
  u64 := codeU64
  f32 := codeF32
  string := countedBytes
  vectorI32 := countedList (numberCodec codeI32)
  vector := countedList

theorem Srpc.reference_roundTrips : Srpc.reference.RoundTrips where
  string := countedBytes_roundTrips
  vectorI32 := by
    refine countedList_roundTrips (numberCodec_roundTrips _) fun value empty => ?_
    have wide := (codeI32 value).toList_length
    rw [show (codeI32 value).toList = [] from empty] at wide
    cases wide
  vector := countedList_roundTrips

theorem Srpc.reference_sound : Srpc.reference.Sound where
  string := countedBytes_sound
  vectorI32 := countedList_sound (numberCodec_sound _)
  vector := countedList_sound

theorem Srpc.reference_countsStrings : Srpc.reference.CountsStrings := fun _ => rfl

end Dfis
