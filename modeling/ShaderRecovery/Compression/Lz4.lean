/-!
# LZ4 block decoders

Sub-program blobs are stored as LZ4 blocks. The library does not decode a
block itself: the decoder is a parameter (`BlockDecoder`) of every definition
that expands a segment, and the program that runs the library plugs in a
concrete one. A decoder writes a block into a zero-filled buffer of a given
capacity and returns the bytes it wrote, or the fault that stopped it.

What the library relies on is that a decoder never writes past its buffer
(`BlockDecoder.WithinCapacity`): a block that does not fill the buffer is then
the only way to a size mismatch.
-/

namespace ShaderRecovery

/-- Faults of an LZ4 block decoder. -/
inductive Lz4Fault where
  | outputTooSmall (expected actual : Nat)
  | literalOutOfBounds
  | expectedAnotherByte
  | offsetOutOfBounds
  | offsetZero
  deriving DecidableEq, Repr

/-- The text a decoder reports for a fault. -/
def Lz4Fault.message : Lz4Fault → String
  | .outputTooSmall expected actual =>
    s!"provided output is too small for the decompressed data, actual {actual}, expected {expected}"
  | .literalOutOfBounds => "literal is out of bounds of the input"
  | .expectedAnotherByte => "expected another byte, found none"
  | .offsetOutOfBounds => "the offset to copy is not contained in the decompressed buffer"
  | .offsetZero => "0 is not a valid match offset"

/-- A decoder of LZ4 blocks: the bytes a block writes into a buffer of
`capacity` bytes, or the fault that stops it. -/
abbrev BlockDecoder := List UInt8 → Nat → Except Lz4Fault (List UInt8)

/-- A decoder never writes more bytes than its buffer holds. -/
def BlockDecoder.WithinCapacity (decodeBlock : BlockDecoder) : Prop :=
  ∀ block capacity out, decodeBlock block capacity = .ok out → out.length ≤ capacity

end ShaderRecovery
