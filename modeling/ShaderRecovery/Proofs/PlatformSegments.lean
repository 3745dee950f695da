import Mathlib
import ShaderRecovery.Proofs.Traversal
import ShaderRecovery.Asset.Blob

/-!
# Segmented blobs decode platform by platform

A segment table has, for each platform, a row of offsets, a row of stored
lengths and a row of expanded lengths, over one shared blob. The walk reads
platform `i` from the `i`-th rows alone (a missing row is empty), cutting them
to the shortest. Segment 0 of a platform starts with the index; every segment
`j`, the first included, is then read into it as segment `j`, in order.

* `SegmentTable.passes` — segments `j, j + 1, …` of the rows read into an
  index one after the other: the walk after its first segment, as a recursion
  on the rows (`foldlM_addSegment`).
* `decodePlatform_cons`, `decodePlatform_of_min_eq_zero` — a platform is the
  index of its segment 0 followed by the passes, or the empty index when one of
  its rows is empty.
* `decodeWith_eq_ok_iff`, `decodeWith_eq_error_iff` — one index per platform,
  in order; the walk fails with the fault of the first platform that fails.
* `segmentBytes_truncated`, `segmentBytes_of_le` — a segment whose bytes lie
  past the blob fails with `truncated`, otherwise the decompressor expands
  them. `segmentBytes_stored` — a stored segment is the blob's bytes at its
  offset; `segmentBytes_lz4_eq_ok_iff`, `segmentBytes_lz4_sizeMismatch`,
  `segmentBytes_lz4_fault` — an LZ4 segment is what the block decoder writes
  when that has the recorded length, whichever decoder is given.

Principal result: `SegmentTable.decodeWith_per_platform`.
-/

namespace ShaderRecovery

namespace SegmentTable

/-- Reads segments `j, j + 1, …` of a platform's rows into the index, one
after the other; the rows end at the shortest. -/
def passes (d : Decompressor) (data : List UInt8) :
    Nat → ProgramIndex → List Nat → List Nat → List Nat → Except AssetError ProgramIndex
  | j, p, off :: offs, s :: st, e :: ex => do
    let bytes ← segmentBytes d data off s e
    passes d data (j + 1) (← p.pass bytes j) offs st ex
  | _, p, _, _, _ => .ok p

section Walk

variable (o : DecodeOptions) (d : Decompressor) (data : List UInt8)

theorem addSegment_of_ne_zero {j : Nat} (hj : j ≠ 0) (p : ProgramIndex) (off s e : Nat) :
    addSegment o d data p (j, off, s, e) =
      segmentBytes d data off s e >>= fun bytes => p.pass bytes j := by
  simp only [addSegment, hj, if_false]
  rfl

theorem addSegment_zero (p : ProgramIndex) (off s e : Nat) :
    addSegment o d data p (0, off, s, e) =
      segmentBytes d data off s e >>= fun bytes =>
        ProgramIndex.ofBytes o bytes >>= fun q => q.pass bytes 0 := by
  simp only [addSegment, if_true]

/-- Past segment 0 the walk is the passes: numbering the rows from `j` and
folding `addSegment` over them reads each segment under its number. -/
theorem foldlM_addSegment (offs st ex : List Nat) (j : Nat) (hj : j ≠ 0) (p : ProgramIndex) :
    ((List.range' j offs.length).zip (offs.zip (st.zip ex))).foldlM
        (fun p s => addSegment o d data p (s.1, s.2.1, s.2.2.1, s.2.2.2)) p =
      passes d data j p offs st ex := by
  -- induction on the offsets; a shorter row of lengths ends both sides at once
  induction offs generalizing j p st ex with
  | nil => rfl
  | cons off offs ih =>
    cases st with
    | nil => rfl
    | cons s st =>
      cases ex with
      | nil => rfl
      | cons e ex =>
        rw [List.length_cons, List.range'_succ, List.zip_cons_cons, List.zip_cons_cons,
          List.zip_cons_cons, List.foldlM_cons, addSegment_of_ne_zero o d data hj, passes, bind_assoc]
        refine bind_congr_right fun bytes => bind_congr_right fun q => ?_
        exact ih st ex (j + 1) (by omega) q

/-- A platform with segments reads its index from the bytes of segment 0, then
reads every segment into it, segment 0 first. -/
theorem decodePlatform_cons (off s e : Nat) (offs st ex : List Nat) :
    decodePlatform o d data (off :: offs) (s :: st) (e :: ex) = (do
      let bytes ← segmentBytes d data off s e
      let p ← ProgramIndex.ofBytes o bytes
      passes d data 1 (← p.pass bytes 0) offs st ex) := by
  rw [decodePlatform, List.length_cons, List.range_eq_range', List.range'_succ, List.zip_cons_cons,
    List.zip_cons_cons, List.zip_cons_cons, List.foldlM_cons, addSegment_zero, bind_assoc]
  refine bind_congr_right fun bytes => ?_
  rw [bind_assoc]
  refine bind_congr_right fun p => bind_congr_right fun q => ?_
  exact foldlM_addSegment o d data offs st ex 1 one_ne_zero q

/-- A platform one of whose rows is empty decodes to the empty index. -/
theorem decodePlatform_of_min_eq_zero (offs st ex : List Nat)
    (h : min offs.length (min st.length ex.length) = 0) :
    decodePlatform o d data offs st ex = .ok ProgramIndex.empty := by
  have hz : offs.zip (st.zip ex) = [] := by
    rw [← List.length_eq_zero_iff, List.length_zip, List.length_zip]
    exact h
  simp only [decodePlatform, hz, List.zip_nil_right, List.foldlM_nil]
  rfl

end Walk

section Platforms

variable {o : DecodeOptions} {d : Decompressor} {t : SegmentTable}

/-- The walk returns one index per platform, each what the platform's own
rows decode to. -/
theorem decodeWith_eq_ok_iff {ps : List ProgramIndex} :
    t.decodeWith o d = .ok ps ↔ ps.length = t.platforms.length ∧
      ∀ i (h : i < ps.length), decodePlatform o d t.data (t.offsets.getD i [])
        (t.storedLengths.getD i []) (t.expandedLengths.getD i []) = .ok ps[i] :=
  mapM_range_eq_ok_iff

/-- The walk fails with the fault of the first platform whose rows fail to
decode. -/
theorem decodeWith_eq_error_iff {e : AssetError} :
    t.decodeWith o d = .error e ↔ ∃ i < t.platforms.length,
      (∀ k < i, ∃ p, decodePlatform o d t.data (t.offsets.getD k [])
        (t.storedLengths.getD k []) (t.expandedLengths.getD k []) = .ok p) ∧
      decodePlatform o d t.data (t.offsets.getD i []) (t.storedLengths.getD i [])
        (t.expandedLengths.getD i []) = .error e :=
  mapM_range_eq_error_iff

end Platforms

section Segments

variable (d : Decompressor) (decodeBlock : BlockDecoder) (data : List UInt8)

/-- A segment whose bytes lie within the blob is what the decompressor makes
of them. -/
theorem segmentBytes_of_le {offset stored expanded : Nat}
    (h : offset + d.inputLen stored expanded ≤ data.length) :
    segmentBytes d data offset stored expanded =
      d.expand ((data.drop offset).take (d.inputLen stored expanded)) expanded := by
  rw [segmentBytes, input, if_pos h, ok_bind_eq]

/-- A segment whose bytes run past the blob is refused as truncated. -/
theorem segmentBytes_truncated {offset stored expanded : Nat}
    (h : data.length < offset + d.inputLen stored expanded) :
    segmentBytes d data offset stored expanded =
      .error (.truncated (d.inputLen stored expanded) (data.length - offset)) := by
  rw [segmentBytes, input, if_neg (by omega), error_bind_eq]

/-- A stored segment is the blob's bytes at its offset, as many as it expands
to, when the blob holds them. -/
theorem segmentBytes_stored (offset stored expanded : Nat) :
    segmentBytes (SegmentCodec.stored.decompressor decodeBlock) data offset stored expanded =
      if offset + expanded ≤ data.length then .ok ((data.drop offset).take expanded)
      else .error (.truncated expanded (data.length - offset)) := by
  have hlen : (SegmentCodec.stored.decompressor decodeBlock).inputLen stored expanded = expanded := rfl
  split
  · rename_i h
    have hcut : expanded ≤ ((data.drop offset).take expanded).length := by
      simp only [List.length_take, List.length_drop]
      omega
    rw [segmentBytes_of_le _ _ (by rw [hlen]; exact h), hlen, SegmentCodec.decompressor_expand,
      SegmentCodec.expand_stored _ _ _ hcut, List.take_of_length_le (List.length_take_le _ _)]
  · rename_i h
    rw [segmentBytes_truncated _ _ (by rw [hlen]; omega), hlen]

theorem segmentBytes_lz4_of_le {offset stored expanded : Nat} (h : offset + stored ≤ data.length) :
    segmentBytes (SegmentCodec.lz4.decompressor decodeBlock) data offset stored expanded =
      SegmentCodec.lz4.expand decodeBlock ((data.drop offset).take stored) expanded :=
  segmentBytes_of_le _ _ h

/-- An LZ4 segment is its decoded block exactly when its stored bytes lie
within the blob and the block decodes to the recorded length. -/
theorem segmentBytes_lz4_eq_ok_iff {offset stored expanded : Nat} {out : List UInt8} :
    segmentBytes (SegmentCodec.lz4.decompressor decodeBlock) data offset stored expanded = .ok out ↔
      offset + stored ≤ data.length ∧
        decodeBlock ((data.drop offset).take stored) expanded = .ok out ∧ out.length = expanded := by
  by_cases h : offset + stored ≤ data.length
  · rw [segmentBytes_lz4_of_le _ _ h, SegmentCodec.expand]
    split
    · rename_i f hf
      simp [hf]
    · rename_i w hw
      split
      · rename_i hl
        constructor
        · intro hout
          cases hout
          exact ⟨h, hw, hl⟩
        · rintro ⟨-, hw', -⟩
          rw [hw] at hw'
          cases hw'
          rfl
      · rename_i hl
        simp only [reduceCtorEq, false_iff, not_and]
        intro _ hw' hl'
        rw [hw] at hw'
        cases hw'
        exact hl hl'
  · rw [segmentBytes_truncated _ _ (show data.length < offset + stored by omega)]
    simp [h]

/-- An LZ4 block that decodes to another length than the recorded one is a
size mismatch. -/
theorem segmentBytes_lz4_sizeMismatch {offset stored expanded : Nat} {out : List UInt8}
    (h : offset + stored ≤ data.length)
    (hd : decodeBlock ((data.drop offset).take stored) expanded = .ok out)
    (hn : out.length ≠ expanded) :
    segmentBytes (SegmentCodec.lz4.decompressor decodeBlock) data offset stored expanded =
      .error (.sizeMismatch expanded out.length) := by
  rw [segmentBytes_lz4_of_le _ _ h, SegmentCodec.expand, hd]
  simp [hn]

/-- A fault of the LZ4 block is the segment's fault. -/
theorem segmentBytes_lz4_fault {offset stored expanded : Nat} {f : Lz4Fault}
    (h : offset + stored ≤ data.length)
    (hd : decodeBlock ((data.drop offset).take stored) expanded = .error f) :
    segmentBytes (SegmentCodec.lz4.decompressor decodeBlock) data offset stored expanded = .error (.lz4 f) := by
  rw [segmentBytes_lz4_of_le _ _ h, SegmentCodec.expand, hd]

end Segments

/-- Segmented decoding is per platform: for any decompressor, the walk returns
one index per platform, in order, each decoded from the blob and that
platform's own rows (a missing row empty), and fails with the first platform's
fault. A platform with an empty row is the empty index; otherwise its index is
read from segment 0 and every segment is then read into it in order. A
segment's bytes past the blob are refused as truncated; a stored segment is the
blob's bytes at its offset, and an LZ4 segment, whatever the block decoder,
what the decoder writes when that has the recorded length, a size mismatch
when it has another, and the decoder's fault when it has one. -/
theorem decodeWith_per_platform (o : DecodeOptions) (d : Decompressor) (t : SegmentTable) :
    (∀ ps, t.decodeWith o d = .ok ps ↔ ps.length = t.platforms.length ∧
      ∀ i (h : i < ps.length), decodePlatform o d t.data (t.offsets.getD i [])
        (t.storedLengths.getD i []) (t.expandedLengths.getD i []) = .ok ps[i]) ∧
    (∀ e, t.decodeWith o d = .error e ↔ ∃ i < t.platforms.length,
      (∀ k < i, ∃ p, decodePlatform o d t.data (t.offsets.getD k [])
        (t.storedLengths.getD k []) (t.expandedLengths.getD k []) = .ok p) ∧
      decodePlatform o d t.data (t.offsets.getD i []) (t.storedLengths.getD i [])
        (t.expandedLengths.getD i []) = .error e) ∧
    (∀ data offs st ex, min offs.length (min st.length ex.length) = 0 →
      decodePlatform o d data offs st ex = .ok ProgramIndex.empty) ∧
    (∀ data off s e offs st ex,
      decodePlatform o d data (off :: offs) (s :: st) (e :: ex) = (do
        let bytes ← segmentBytes d data off s e
        let p ← ProgramIndex.ofBytes o bytes
        passes d data 1 (← p.pass bytes 0) offs st ex)) ∧
    (∀ data off s e, data.length < off + d.inputLen s e →
      segmentBytes d data off s e = .error (.truncated (d.inputLen s e) (data.length - off))) ∧
    (∀ data off s e, off + d.inputLen s e ≤ data.length →
      segmentBytes d data off s e = d.expand ((data.drop off).take (d.inputLen s e)) e) ∧
    (∀ decodeBlock data off s e, segmentBytes (SegmentCodec.stored.decompressor decodeBlock) data off s e =
      if off + e ≤ data.length then .ok ((data.drop off).take e)
      else .error (.truncated e (data.length - off))) ∧
    (∀ (decodeBlock : BlockDecoder) data off s e out,
      segmentBytes (SegmentCodec.lz4.decompressor decodeBlock) data off s e = .ok out ↔
        off + s ≤ data.length ∧ decodeBlock ((data.drop off).take s) e = .ok out ∧ out.length = e) ∧
    (∀ (decodeBlock : BlockDecoder) data off s e out, off + s ≤ data.length →
      decodeBlock ((data.drop off).take s) e = .ok out → out.length ≠ e →
      segmentBytes (SegmentCodec.lz4.decompressor decodeBlock) data off s e =
        .error (.sizeMismatch e out.length)) ∧
    (∀ (decodeBlock : BlockDecoder) data off s e f, off + s ≤ data.length →
      decodeBlock ((data.drop off).take s) e = .error f →
      segmentBytes (SegmentCodec.lz4.decompressor decodeBlock) data off s e = .error (.lz4 f)) :=
  ⟨fun _ => decodeWith_eq_ok_iff, fun _ => decodeWith_eq_error_iff,
    decodePlatform_of_min_eq_zero o d, decodePlatform_cons o d,
    fun data _ _ _ h => segmentBytes_truncated d data h,
    fun data _ _ _ h => segmentBytes_of_le d data h,
    segmentBytes_stored, fun decodeBlock data _ _ _ _ => segmentBytes_lz4_eq_ok_iff decodeBlock data,
    fun decodeBlock data _ _ _ _ h hd hn => segmentBytes_lz4_sizeMismatch decodeBlock data h hd hn,
    fun decodeBlock data _ _ _ _ h hd => segmentBytes_lz4_fault decodeBlock data h hd⟩

end SegmentTable

end ShaderRecovery
