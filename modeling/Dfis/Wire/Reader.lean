import Dfis.Wire.Span

/-! Decoders that walk one span with a cursor, and the two laws that tie a
decoder to its encoder. Reading outside the span is an outcome of its own. -/

namespace Dfis.Wire

/-- Undefined behaviour: bytes outside the given span were read. -/
inductive OutOfBounds where
  | readOutside
  deriving DecidableEq, Repr

/-- A consumed count and a value; `(0, none)` is the decoders' rejection. -/
abbrev Unmarshalled (α : Type) : Type := Except OutOfBounds (Int64 × Option α)

/-- The value, where there is one. -/
def value? (result : Unmarshalled α) : Option α :=
  match result with
  | .ok (_, found) => found
  | .error _ => none

/-- An encoder and the decoder that belongs to it. -/
structure Codec (α : Type) where
  marshal : α → List UInt8
  unmarshal : Span → Unmarshalled α

/-- The decoder undoes the encoder whatever follows, and reports the bytes consumed. -/
def Codec.RoundTrips (codec : Codec α) : Prop :=
  ∀ (value : α) (after : List UInt8) (data : Span), data.bytes = codec.marshal value ++ after →
    codec.unmarshal data = .ok (Int64.ofNat (codec.marshal value).length, some value)

/-- The decoder stays inside its span, and gives no value or one whose
encoding is exactly the bytes consumed. -/
def Codec.Sound (codec : Codec α) : Prop :=
  ∀ data : Span, (∃ count, codec.unmarshal data = .ok (count, none)) ∨
    ∃ width value, width ≤ data.bytes.length ∧
      codec.unmarshal data = .ok (Int64.ofNat width, some value) ∧
      codec.marshal value = data.bytes.take width

/-- Why a decoder body ends early. -/
inductive Stop where
  | rejected
  | outOfBounds
  deriving DecidableEq, Repr

/-- A decoder body: the span, the cursor, and the value with the moved cursor. -/
def Reader (α : Type) : Type := Span → Int64 → Except Stop (α × Int64)

namespace Reader

protected def pure (value : α) : Reader α := fun _ p => .ok (value, p)

protected def bind (first : Reader α) (next : α → Reader β) : Reader β := fun data p =>
  match first data p with
  | .ok (value, moved) => next value data moved
  | .error stop => .error stop

instance : Monad Reader where
  pure := Reader.pure
  bind := Reader.bind

/-- `return {0, {}};` -/
def reject : Reader α := fun _ _ => .error .rejected

/-- A fixed-width field: the bounds check, the read, the cursor advance. -/
def number (code : α ≃ Block width) : Reader α := fun data p =>
  if data.overrun p width then .error .rejected
  else match data.block? p width with
    | none => .error .outOfBounds
    | some block => .ok (code.symm block, p + Int64.ofNat width)

/-- A variable-width field, decoded from all the remaining bytes. -/
def coded (codec : Codec α) : Reader α := fun data p =>
  match data.rest? p with
  | none => .error .outOfBounds
  | some rest =>
    match codec.unmarshal rest with
    | .error _ => .error .outOfBounds
    | .ok (_, none) => .error .rejected
    | .ok (count, some value) => .ok (value, p + count)

/-- A leading tag; any other tag rejects the data. -/
def expect [DecidableEq α] (code : α ≃ Block width) (tag : α) : Reader Unit := do
  let found ← number code
  if found ≠ tag then reject else pure ()

/-- The decoder of a body, starting at the first byte. -/
def run (body : Reader α) (data : Span) : Unmarshalled α :=
  match body data 0 with
  | .ok (value, p) => .ok (p, some value)
  | .error .rejected => .ok (0, none)
  | .error .outOfBounds => .error .readOutside

end Reader

end Dfis.Wire
