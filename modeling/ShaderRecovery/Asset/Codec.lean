import ShaderRecovery.Asset.Error

/-!
# Segment codecs

Each segment of a sub-program blob is stored either as one LZ4 block or as
the bytes themselves. Expanding a segment must give exactly the recorded
number of bytes: an LZ4 block that writes fewer is refused, and a stored
segment is cut to that length. A stored segment takes up as many bytes of the
blob as it expands to, an LZ4 segment its recorded compressed length.

Segments are expanded by a decompressor: how many bytes of the blob a segment
takes up, given its stored and expanded lengths, and how those bytes expand.
The two codecs are two decompressors; the segment walk accepts any other. An
LZ4 block is decoded by a block decoder given as a parameter.

Principal results: `expand_length` (an expanded segment has the recorded
length, whatever the block decoder) and `expand_sizeMismatch_lt` (with a
decoder that keeps to its buffer, a size mismatch is a block that wrote too
few bytes).
-/

namespace ShaderRecovery

/-- A way to expand segments: the bytes of the blob a segment takes up, from
its stored and expanded lengths, and what those bytes expand to for an
expected length. -/
structure Decompressor where
  inputLen : Nat → Nat → Nat
  expand : List UInt8 → Nat → Except AssetError (List UInt8)

/-- How a segment is stored in its blob. -/
inductive SegmentCodec where
  | lz4
  | stored
  deriving DecidableEq, Repr

namespace SegmentCodec

section

variable (decodeBlock : BlockDecoder)

/-- Expands a segment to `expected` bytes; an LZ4 block is decoded into a
buffer of that many bytes, which it must fill. -/
def expand : SegmentCodec → List UInt8 → Nat → Except AssetError (List UInt8)
  | lz4, bs, expected =>
    match decodeBlock bs expected with
    | .error f => .error (.lz4 f)
    | .ok out =>
      if out.length = expected then .ok out else .error (.sizeMismatch expected out.length)
  | stored, bs, expected =>
    if expected ≤ bs.length then .ok (bs.take expected)
    else .error (.truncated expected bs.length)

/-- Bytes of the blob that a segment takes up. -/
def inputLen : SegmentCodec → Nat → Nat → Nat
  | lz4, compressed, _ => compressed
  | stored, _, expected => expected

/-- The decompressor of a codec. -/
def decompressor (c : SegmentCodec) : Decompressor := ⟨c.inputLen, c.expand decodeBlock⟩

@[simp] theorem decompressor_inputLen (c : SegmentCodec) :
    (c.decompressor decodeBlock).inputLen = c.inputLen := rfl

@[simp] theorem decompressor_expand (c : SegmentCodec) :
    (c.decompressor decodeBlock).expand = c.expand decodeBlock := rfl

@[simp] theorem inputLen_lz4 (compressed expected : Nat) : lz4.inputLen compressed expected = compressed :=
  rfl

@[simp] theorem inputLen_stored (compressed expected : Nat) : stored.inputLen compressed expected = expected :=
  rfl

theorem expand_length (c : SegmentCodec) (bs out : List UInt8) (n : Nat)
    (h : c.expand decodeBlock bs n = .ok out) : out.length = n := by
  cases c with
  | lz4 =>
    simp only [expand] at h
    split at h
    · simp at h
    · split at h
      · rename_i hl
        cases h
        exact hl
      · simp at h
  | stored =>
    simp only [expand] at h
    split at h
    · cases h
      simp only [List.length_take]
      omega
    · simp at h

theorem expand_stored (bs : List UInt8) (n : Nat) (h : n ≤ bs.length) :
    stored.expand decodeBlock bs n = .ok (bs.take n) := by
  simp [expand, h]

/-- With a decoder that keeps to its buffer, a size mismatch reports fewer
bytes written than expected: only an LZ4 block can mismatch, and it wrote at
most the buffer. -/
theorem expand_sizeMismatch_lt (hcap : BlockDecoder.WithinCapacity decodeBlock) {c : SegmentCodec}
    {bs : List UInt8} {n expected written : Nat}
    (h : c.expand decodeBlock bs n = .error (.sizeMismatch expected written)) : written < expected := by
  cases c with
  | lz4 =>
    simp only [expand] at h
    split at h
    · simp at h
    · rename_i out hout
      split at h
      · simp at h
      · rename_i hne
        -- the block wrote `out` into a buffer of `n` bytes and did not fill it
        have hle := hcap bs n out hout
        simp only [Except.error.injEq, AssetError.sizeMismatch.injEq] at h
        omega
  | stored =>
    simp only [expand] at h
    split at h <;> simp at h

end

end SegmentCodec

end ShaderRecovery
