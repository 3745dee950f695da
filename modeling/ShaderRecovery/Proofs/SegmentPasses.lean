import Mathlib
import ShaderRecovery.Asset.ProgramIndex
import ShaderRecovery.Proofs.Reads

/-!
# Segment passes over a sub-program index

A sub-program index is read as a count and that many entries, each an offset,
a length and, from engine 2019.3 on, a segment; it starts with no sub-program
decoded. A pass decodes one segment from its bytes: every entry of that
segment is read at its offset, in index order, and the first entry that does
not read ends the pass with its fault. This module says what a run of passes
that all succeed leaves in every slot, read off the passes alone:

* `EntryImage`, `indexImage` — the index as written; `readIndex_reads` reads
  it back, 8 bytes an entry before 2019.3 and 12 from then on.
* `readAt`, `EntryReads`, `fillSlot` — what a pass over a segment makes of
  one entry.
* `fillSlots_fault_eq_none`, `fillSlots_fault_eq_some`, `fillSlots_of_ok` —
  one pass fails at the first entry of its segment that does not read, and
  when it succeeds each slot of its segment holds its entry's record.
* `readSegments`, `slotAfter` — a run of passes; `readSegments_eq_some` says
  when it succeeds and what each slot then holds, so that passes over
  different segments commute (`readSegments_swap`) and a pass repeated
  changes nothing (`readSegments_repeat`).
* `readSegment_of_neg` — an entry at a negative offset fails its segment's
  pass, with a truncation only when no entry of the segment before it fails
  first.

Principal result: `ProgramIndex.segment_passes`.
-/

namespace ShaderRecovery

namespace ProgramIndex

open ByteReader

/-! ## The index as written -/

/-- An index entry as written: offset, length and segment as signed words. -/
structure EntryImage where
  offset : Int32
  length : Int32
  segment : Int32

namespace EntryImage

/-- The entry's bytes; the segment word only where the engine stores one. -/
def encode (segments : Bool) (e : EntryImage) : List UInt8 :=
  Bytes.ofWord e.offset.toUInt32 ++
    (Bytes.ofWord e.length.toUInt32 ++ if segments then Bytes.ofWord e.segment.toUInt32 else [])

/-- The entry read back; segment 0 where the engine stores none. -/
def decoded (segments : Bool) (e : EntryImage) : IndexEntry :=
  ⟨e.offset.toInt, e.length.toInt, if segments then e.segment.toInt else 0⟩

theorem encode_length (segments : Bool) (e : EntryImage) :
    (e.encode segments).length = if segments then 12 else 8 := by
  cases segments <;> simp [encode, Bytes.ofWord_length]

end EntryImage

/-- An index as written under options `o`: the count, then the entries. -/
def indexImage (o : DecodeOptions) (es : List EntryImage) : List UInt8 :=
  countWord es.length ++ es.flatMap (EntryImage.encode o.engine.hasSegments)

theorem readEntry_reads (segments : Bool) (e : EntryImage) :
    Reads (readEntry segments) (e.encode segments) (e.decoded segments) := by
  have hw : ∀ v : Int32, (Bytes.ofWord v.toUInt32).length % 4 = 0 := fun v => by
    rw [Bytes.ofWord_length]
  cases segments with
  | false =>
    simp only [readEntry, Bool.false_eq_true, if_false, pure_bind, EntryImage.encode,
      EntryImage.decoded, List.append_nil]
    exact Reads.bind (Reads.i32 _) (hw _) (Reads.map (Reads.i32 _) rfl)
  | true =>
    simp only [readEntry, if_true, EntryImage.encode, EntryImage.decoded]
    refine Reads.bind (Reads.i32 _) (hw _) (Reads.bind (Reads.i32 _) (hw _) ?_)
    exact Reads.map (Reads.i32 _) rfl

/-- An index reads back as its entries, with no sub-program decoded. -/
theorem readIndex_reads (o : DecodeOptions) (es : List EntryImage) (h : es.length < 2 ^ 31) :
    Reads (readIndex o) (indexImage o es)
      ⟨es.map (EntryImage.decoded o.engine.hasSegments), es.map fun _ => none, o.updatedPrograms⟩ := by
  have hentries : Reads (count (readEntry o.engine.hasSegments) es.length)
      (es.flatMap (EntryImage.encode o.engine.hasSegments))
      (es.map (EntryImage.decoded o.engine.hasSegments)) :=
    Reads.count (fun e _ => readEntry_reads o.engine.hasSegments e)
      (fun e _ => by rw [EntryImage.encode_length]; split <;> rfl)
  refine Reads.bind (Reads.len h) (by rw [countWord_length]) (Reads.map hentries ?_)
  simp only [List.map_map]
  rfl

/-- Whatever the bytes, an index that reads has one empty slot per entry. -/
theorem readIndex_fresh {o : DecodeOptions} {c c' : Cursor} {p : ProgramIndex}
    (h : (readIndex o).run c = (.ok p, c')) :
    p.slots = p.entries.map (fun _ => none) ∧ p.updated = o.updatedPrograms := by
  unfold readIndex at h
  rw [run_bind] at h
  split at h
  · rw [run_bind] at h
    split at h
    · rw [run_pure] at h
      cases h
      exact ⟨rfl, rfl⟩
    · cases h
  · cases h

/-! ## One entry -/

/-- What a pass over a segment's bytes makes of one of its entries: the record
at the entry's offset or, for a negative offset, a truncation that asks for
the offset read as unsigned. -/
def readAt (data : List UInt8) (updated : Bool) (e : IndexEntry) : Except AssetError SubProgram :=
  if e.offset < 0 then .error (.truncated (e.offset + 2 ^ 32).toNat data.length)
  else ((SubProgram.read updated).run ⟨data, e.offset.toNat⟩).1

/-- A pass over `segment` gets past entry `e`: the entry belongs to another
segment, or its record reads. -/
def EntryReads (data : List UInt8) (segment : Int) (updated : Bool) (e : IndexEntry) : Prop :=
  e.segment = segment → ∃ sp, readAt data updated e = .ok sp

/-- The slot of entry `e` after a pass over `segment` that gets past it. -/
def fillSlot (data : List UInt8) (segment : Int) (updated : Bool) (e : IndexEntry)
    (s : Option SubProgram) : Option SubProgram :=
  if e.segment = segment then (readAt data updated e).toOption else s

section Entry

variable {data : List UInt8} {segment : Int} {updated : Bool} {e : IndexEntry}

theorem readAt_of_neg (h : e.offset < 0) :
    readAt data updated e = .error (.truncated (e.offset + 2 ^ 32).toNat data.length) :=
  if_pos h

/-- A record that reads stands at an offset that is not negative. -/
theorem readAt_eq_ok {sp : SubProgram} (h : readAt data updated e = .ok sp) :
    0 ≤ e.offset ∧ ((SubProgram.read updated).run ⟨data, e.offset.toNat⟩).1 = .ok sp := by
  unfold readAt at h
  split at h
  · cases h
  · exact ⟨by omega, h⟩

theorem entryReads_of_ne (h : e.segment ≠ segment) : EntryReads data segment updated e :=
  fun h' => absurd h' h

theorem entryReads_of_ok {sp : SubProgram} (h : readAt data updated e = .ok sp) :
    EntryReads data segment updated e :=
  fun _ => ⟨sp, h⟩

theorem not_entryReads_of_error {err : AssetError} (hseg : e.segment = segment)
    (h : readAt data updated e = .error err) : ¬EntryReads data segment updated e := by
  intro hreads
  obtain ⟨sp, hsp⟩ := hreads hseg
  rw [h] at hsp
  cases hsp

/-- Passes over different segments fill different slots. -/
theorem fillSlot_comm {data' : List UInt8} {segment' : Int} (h : segment ≠ segment')
    (s : Option SubProgram) :
    fillSlot data segment updated e (fillSlot data' segment' updated e s) =
      fillSlot data' segment' updated e (fillSlot data segment updated e s) := by
  unfold fillSlot
  by_cases h₁ : e.segment = segment
  · have h₂ : e.segment ≠ segment' := h₁ ▸ h
    simp only [if_pos h₁, if_neg h₂]
  · by_cases h₂ : e.segment = segment'
    · simp only [if_neg h₁, if_pos h₂]
    · simp only [if_neg h₁, if_neg h₂]

theorem fillSlot_fillSlot (s : Option SubProgram) :
    fillSlot data segment updated e (fillSlot data segment updated e s) =
      fillSlot data segment updated e s := by
  unfold fillSlot
  by_cases h : e.segment = segment <;> simp [h]

end Entry

/-! ## One pass -/

section Pass

variable {data : List UInt8} {segment : Int} {updated : Bool}

/-- What a pass does at one entry: it steps past an entry of another segment,
steps past an entry of its segment whose record reads and fills its slot, or
stops there with the entry's fault. -/
theorem fillSlots_cons (data : List UInt8) (segment : Int) (updated : Bool) (e : IndexEntry)
    (es : List IndexEntry) (s : Option SubProgram) (ss : List (Option SubProgram)) :
    (e.segment ≠ segment ∧ fillSlots data segment updated (e :: es) (s :: ss) =
        (s :: (fillSlots data segment updated es ss).1, (fillSlots data segment updated es ss).2)) ∨
    (∃ sp, e.segment = segment ∧ readAt data updated e = .ok sp ∧
      fillSlots data segment updated (e :: es) (s :: ss) =
        (some sp :: (fillSlots data segment updated es ss).1, (fillSlots data segment updated es ss).2)) ∨
    (∃ err, e.segment = segment ∧ readAt data updated e = .error err ∧
      fillSlots data segment updated (e :: es) (s :: ss) = (s :: ss, some err)) := by
  by_cases hseg : e.segment = segment
  · by_cases hneg : e.offset < 0
    · exact .inr (.inr ⟨_, hseg, readAt_of_neg hneg, by simp [fillSlots, hseg, hneg]⟩)
    · cases hr : ((SubProgram.read updated).run ⟨data, e.offset.toNat⟩).1 with
      | ok sp =>
        exact .inr (.inl ⟨sp, hseg, by simp [readAt, hneg, hr], by simp [fillSlots, hseg, hneg, hr]⟩)
      | error err =>
        exact .inr (.inr ⟨err, hseg, by simp [readAt, hneg, hr], by simp [fillSlots, hseg, hneg, hr]⟩)
  · exact .inl ⟨hseg, by simp [fillSlots, hseg]⟩

theorem fillSlots_length (es : List IndexEntry) (ss : List (Option SubProgram)) :
    (fillSlots data segment updated es ss).1.length = ss.length := by
  induction es generalizing ss with
  | nil => simp [fillSlots]
  | cons e es ih =>
    cases ss with
    | nil => simp [fillSlots]
    | cons s ss =>
      rcases fillSlots_cons data segment updated e es s ss with
        ⟨-, h⟩ | ⟨sp, -, -, h⟩ | ⟨err, -, -, h⟩ <;> simp [h, ih]

/-- The fault of a pass, one entry at a time: the pass gets past the entry
and has the fault of the rest, or stops there with the entry's fault. -/
theorem fillSlots_cons_fault (data : List UInt8) (segment : Int) (updated : Bool) (e : IndexEntry)
    (es : List IndexEntry) (s : Option SubProgram) (ss : List (Option SubProgram)) :
    (EntryReads data segment updated e ∧
      (fillSlots data segment updated (e :: es) (s :: ss)).2 = (fillSlots data segment updated es ss).2) ∨
    (∃ err, e.segment = segment ∧ readAt data updated e = .error err ∧
      (fillSlots data segment updated (e :: es) (s :: ss)).2 = some err) := by
  rcases fillSlots_cons data segment updated e es s ss with
    ⟨hseg, h⟩ | ⟨sp, -, hr, h⟩ | ⟨err, hseg, hr, h⟩
  · exact .inl ⟨entryReads_of_ne hseg, by rw [h]⟩
  · exact .inl ⟨entryReads_of_ok hr, by rw [h]⟩
  · exact .inr ⟨err, hseg, hr, by rw [h]⟩

/-- A pass over entries and slots that line up succeeds exactly when it gets
past every entry. -/
theorem fillSlots_fault_eq_none {es : List IndexEntry} {ss : List (Option SubProgram)}
    (hlen : es.length = ss.length) :
    (fillSlots data segment updated es ss).2 = none ↔ ∀ e ∈ es, EntryReads data segment updated e := by
  induction es generalizing ss with
  | nil => simp [fillSlots]
  | cons e es ih =>
    cases ss with
    | nil => simp at hlen
    | cons s ss =>
      rw [List.forall_mem_cons]
      rcases fillSlots_cons_fault data segment updated e es s ss with ⟨he, h⟩ | ⟨err, hseg, hr, h⟩
      · rw [h, @ih ss (by simpa using hlen)]
        simp [he]
      · rw [h]
        simp [not_entryReads_of_error hseg hr]

/-- A pass fails at the first entry of its segment whose record does not
read, with that entry's fault. -/
theorem fillSlots_fault_eq_some {es : List IndexEntry} {ss : List (Option SubProgram)}
    (hlen : es.length = ss.length) {err : AssetError} :
    (fillSlots data segment updated es ss).2 = some err ↔
      ∃ pre e post, es = pre ++ e :: post ∧ (∀ j ∈ pre, EntryReads data segment updated j) ∧
        e.segment = segment ∧ readAt data updated e = .error err := by
  induction es generalizing ss with
  | nil => simp [fillSlots]
  | cons e es ih =>
    cases ss with
    | nil => simp at hlen
    | cons s ss =>
      have ih' := @ih ss (by simpa using hlen)
      rcases fillSlots_cons_fault data segment updated e es s ss with ⟨he, h⟩ | ⟨err', hseg, hr, h⟩
      · -- past the first entry: the fault is the rest's, and the first entry is not it
        rw [h, ih']
        constructor
        · rintro ⟨pre, e', post, rfl, hpre, he'⟩
          exact ⟨e :: pre, e', post, rfl, List.forall_mem_cons.mpr ⟨he, hpre⟩, he'⟩
        · rintro ⟨pre, e', post, heq, hpre, hseg', hr'⟩
          rcases List.cons_eq_append_iff.mp heq with ⟨rfl, heq'⟩ | ⟨pre', rfl, hes⟩
          · obtain ⟨rfl, -⟩ := List.cons_eq_cons.mp heq'
            exact absurd he (not_entryReads_of_error hseg' hr')
          · exact ⟨pre', e', post, hes, (List.forall_mem_cons.mp hpre).2, hseg', hr'⟩
      · -- stopped at the first entry: no entry before it, and its fault
        rw [h, Option.some.injEq]
        constructor
        · rintro rfl
          exact ⟨[], e, es, rfl, by simp, hseg, hr⟩
        · rintro ⟨pre, e', post, heq, hpre, -, hr'⟩
          rcases List.cons_eq_append_iff.mp heq with ⟨rfl, heq'⟩ | ⟨pre', rfl, -⟩
          · obtain ⟨rfl, -⟩ := List.cons_eq_cons.mp heq'
            rw [hr] at hr'
            cases hr'
            rfl
          · exact absurd (List.forall_mem_cons.mp hpre).1 (not_entryReads_of_error hseg hr)

/-- A pass that succeeds fills each slot of its segment with its entry's
record and leaves the others. -/
theorem fillSlots_of_ok {es : List IndexEntry} {ss : List (Option SubProgram)}
    (hlen : es.length = ss.length) (h : (fillSlots data segment updated es ss).2 = none) :
    (fillSlots data segment updated es ss).1 = List.zipWith (fillSlot data segment updated) es ss := by
  induction es generalizing ss with
  | nil =>
    cases ss with
    | nil => rfl
    | cons => simp at hlen
  | cons e es ih =>
    cases ss with
    | nil => simp at hlen
    | cons s ss =>
      have ih' := @ih ss (by simpa using hlen)
      rcases fillSlots_cons data segment updated e es s ss with
        ⟨hseg, hf⟩ | ⟨sp, hseg, hr, hf⟩ | ⟨err, -, -, hf⟩
      · rw [hf] at h ⊢
        simp [ih' h, fillSlot, hseg]
      · rw [hf] at h ⊢
        simp [ih' h, fillSlot, hseg, hr, Except.toOption]
      · rw [hf] at h
        cases h

end Pass

/-! ## Runs of passes -/

/-- Slots that line up with the entries, as an index that reads has them. -/
def Aligned (p : ProgramIndex) : Prop := p.slots.length = p.entries.length

/-- A call decoding one segment from its bytes. -/
structure Pass where
  data : List UInt8
  segment : Int

/-- Runs passes in order as long as each succeeds; `none` once one fails. -/
def readSegments (p : ProgramIndex) : List Pass → Option ProgramIndex
  | [] => some p
  | x :: xs =>
    match p.readSegment x.data x.segment with
    | (q, none) => q.readSegments xs
    | (_, some _) => none

/-- The slot of entry `e` after passes that all get past it. -/
def slotAfter (updated : Bool) (passes : List Pass) (e : IndexEntry) (s : Option SubProgram) :
    Option SubProgram :=
  passes.foldl (fun s x => fillSlot x.data x.segment updated e s) s

theorem slotAfter_nil (updated : Bool) : slotAfter updated [] = fun _ s => s := rfl

theorem slotAfter_cons (updated : Bool) (x : Pass) (xs : List Pass) :
    slotAfter updated (x :: xs) = fun e s => slotAfter updated xs e (fillSlot x.data x.segment updated e s) :=
  rfl

theorem zipWith_zipWith_left {α β : Type} (f g : α → β → β) :
    ∀ (as : List α) (bs : List β),
      List.zipWith f as (List.zipWith g as bs) = List.zipWith (fun a b => f a (g a b)) as bs
  | [], _ => rfl
  | _ :: _, [] => rfl
  | a :: as, b :: bs => by simp [zipWith_zipWith_left f g as bs]

theorem zipWith_right {α β : Type} :
    ∀ (as : List α) (bs : List β), as.length = bs.length → List.zipWith (fun _ b => b) as bs = bs
  | [], [], _ => rfl
  | _ :: as, _ :: bs, h => by simp [zipWith_right as bs (by simpa using h)]

section Runs

variable {p : ProgramIndex}

theorem readSegments_cons (p : ProgramIndex) (x : Pass) (xs : List Pass) :
    p.readSegments (x :: xs) =
      match (p.readSegment x.data x.segment).2 with
      | none => (p.readSegment x.data x.segment).1.readSegments xs
      | some _ => none := by
  rw [readSegments]
  rcases p.readSegment x.data x.segment with ⟨q, _ | _⟩ <;> rfl

theorem Aligned.readSegment (ha : p.Aligned) (data : List UInt8) (segment : Int) :
    (p.readSegment data segment).1.Aligned := by
  unfold Aligned ProgramIndex.readSegment
  rw [fillSlots_length]
  exact ha

/-- A run of passes succeeds exactly when every pass gets past every entry;
each slot then holds what the passes make of its entry, one after another. -/
theorem readSegments_eq_some (ha : p.Aligned) (passes : List Pass) (q : ProgramIndex) :
    p.readSegments passes = some q ↔
      (∀ x ∈ passes, ∀ e ∈ p.entries, EntryReads x.data x.segment p.updated e) ∧
      q = { p with slots := List.zipWith (slotAfter p.updated passes) p.entries p.slots } := by
  induction passes generalizing p with
  | nil =>
    rw [slotAfter_nil, zipWith_right _ _ ha.symm]
    simp only [readSegments, Option.some.injEq, List.not_mem_nil, false_implies, implies_true, true_and]
    exact eq_comm
  | cons x xs ih =>
    have hlen : p.entries.length = p.slots.length := ha.symm
    rw [readSegments_cons, List.forall_mem_cons]
    cases hf : (p.readSegment x.data x.segment).2 with
    | none =>
      -- the pass succeeds, and the rest of the run starts from the slots it filled
      have hfill := fillSlots_of_ok hlen hf
      have hx := (fillSlots_fault_eq_none hlen).mp hf
      dsimp only
      rw [ih (ha.readSegment x.data x.segment)]
      simp only [ProgramIndex.readSegment, hfill, zipWith_zipWith_left]
      rw [slotAfter_cons, iff_true_intro hx, true_and]
    | some err =>
      obtain ⟨pre, e, post, hes, -, hseg, hr⟩ := (fillSlots_fault_eq_some hlen).mp hf
      have hx : ¬∀ e ∈ p.entries, EntryReads x.data x.segment p.updated e := fun hall =>
        not_entryReads_of_error hseg hr (hall e (by simp [hes]))
      simp [hx]

theorem Aligned.of_readSegments (ha : p.Aligned) {passes : List Pass} {q : ProgramIndex}
    (hrun : p.readSegments passes = some q) : q.Aligned := by
  obtain ⟨-, rfl⟩ := (readSegments_eq_some ha passes q).mp hrun
  simp only [Aligned, List.length_zipWith]
  rw [ha]
  exact Nat.min_self _

/-- Two runs of the same passes that leave every slot alike give the same
result, both failing or both giving one index. -/
theorem readSegments_congr (ha : p.Aligned) {xs ys : List Pass} (hmem : ∀ x, x ∈ xs ↔ x ∈ ys)
    (hslot : slotAfter p.updated xs = slotAfter p.updated ys) :
    p.readSegments xs = p.readSegments ys := by
  apply Option.ext
  intro q
  rw [readSegments_eq_some ha, readSegments_eq_some ha, hslot]
  simp only [hmem]

/-- Passes over different segments commute. -/
theorem readSegments_swap (ha : p.Aligned) {a b : Pass} (h : a.segment ≠ b.segment) :
    p.readSegments [a, b] = p.readSegments [b, a] := by
  apply readSegments_congr ha
  · intro x
    simp only [List.mem_cons, List.not_mem_nil, or_false]
    exact or_comm
  · funext e s
    simp only [slotAfter_cons, slotAfter_nil]
    exact fillSlot_comm (Ne.symm h) s

/-- A pass repeated changes nothing. -/
theorem readSegments_repeat (ha : p.Aligned) (a : Pass) : p.readSegments [a, a] = p.readSegments [a] := by
  apply readSegments_congr ha
  · intro x
    simp
  · funext e s
    simp only [slotAfter_cons, slotAfter_nil]
    exact fillSlot_fillSlot s

end Runs

/-! ## Slots after a run -/

section Slots

variable {updated : Bool} {e : IndexEntry}

theorem slotAfter_append (xs ys : List Pass) (s : Option SubProgram) :
    slotAfter updated (xs ++ ys) e s = slotAfter updated ys e (slotAfter updated xs e s) :=
  List.foldl_append

/-- Passes over other segments leave a slot as it is. -/
theorem slotAfter_of_ne {passes : List Pass} (h : ∀ x ∈ passes, x.segment ≠ e.segment)
    (s : Option SubProgram) : slotAfter updated passes e s = s := by
  induction passes generalizing s with
  | nil => rfl
  | cons x xs ih =>
    have hx := h x (by simp)
    simp only [slotAfter_cons]
    rw [ih (fun y hy => h y (by simp [hy]))]
    simp only [fillSlot, if_neg (Ne.symm hx)]

/-- The last pass over an entry's segment decides its slot. -/
theorem slotAfter_last {pre post : List Pass} {x : Pass} (hx : x.segment = e.segment)
    (hpost : ∀ y ∈ post, y.segment ≠ e.segment) (s : Option SubProgram) :
    slotAfter updated (pre ++ x :: post) e s = (readAt x.data updated e).toOption := by
  simp only [slotAfter_append, slotAfter_cons, slotAfter_of_ne hpost, fillSlot, if_pos hx.symm]

/-- A segment some pass reads has a last pass. -/
theorem exists_last_pass {passes : List Pass} {segment : Int}
    (h : ∃ x ∈ passes, x.segment = segment) :
    ∃ pre x post, passes = pre ++ x :: post ∧ x.segment = segment ∧
      ∀ y ∈ post, y.segment ≠ segment := by
  induction passes with
  | nil => simp at h
  | cons y ys ih =>
    by_cases hys : ∃ x ∈ ys, x.segment = segment
    · obtain ⟨pre, x, post, rfl, hx, hpost⟩ := ih hys
      exact ⟨y :: pre, x, post, rfl, hx, hpost⟩
    · -- no later pass reads the segment, so this one does
      obtain ⟨x, hx, hseg⟩ := h
      have hy : y.segment = segment := by
        rcases List.mem_cons.mp hx with rfl | hx
        · exact hseg
        · exact absurd ⟨x, hx, hseg⟩ hys
      exact ⟨[], y, ys, rfl, hy, fun z hz hz' => hys ⟨z, hz, hz'⟩⟩

end Slots

theorem subProgram?_eq_ok_iff (p : ProgramIndex) (i : Nat) (sp : SubProgram) :
    p.subProgram? i = .ok sp ↔ p.slots[i]? = some (some sp) := by
  unfold subProgram?
  split <;> simp_all

theorem subProgram?_of_not_some {p : ProgramIndex} {i : Nat} (h : ∀ sp, p.slots[i]? ≠ some (some sp)) :
    p.subProgram? i = .error (.missingSubProgram i) := by
  unfold subProgram?
  split
  · rename_i sp hsp
    exact absurd hsp (h sp)
  · rfl

section Fresh

variable {p q : ProgramIndex} {passes : List Pass}

/-- After a run of passes from an index with no sub-program decoded, slot `i`
holds what the passes make of entry `i`. -/
theorem slots_of_readSegments (hfresh : p.slots = p.entries.map fun _ => none)
    (hrun : p.readSegments passes = some q) (i : Nat) :
    q.slots[i]? = p.entries[i]?.map fun e => slotAfter p.updated passes e none := by
  have ha : p.Aligned := by simp [Aligned, hfresh]
  obtain ⟨-, rfl⟩ := (readSegments_eq_some ha passes q).mp hrun
  simp only [hfresh, List.zipWith_map_right, List.zipWith_self, List.getElem?_map]

/-- An entry no pass reads, and an index past the entries, have no sub-program. -/
theorem subProgram?_of_unread (hfresh : p.slots = p.entries.map fun _ => none)
    (hrun : p.readSegments passes = some q) {i : Nat}
    (h : ∀ e, p.entries[i]? = some e → ∀ x ∈ passes, x.segment ≠ e.segment) :
    q.subProgram? i = .error (.missingSubProgram i) := by
  apply subProgram?_of_not_some
  intro sp hsp
  rw [slots_of_readSegments hfresh hrun] at hsp
  cases he : p.entries[i]? with
  | none => simp [he] at hsp
  | some e => simp [he, slotAfter_of_ne (h e he)] at hsp

/-- An entry some pass reads holds the record at its offset in the bytes of
the last pass over its segment. -/
theorem subProgram?_of_last (hfresh : p.slots = p.entries.map fun _ => none)
    (hrun : p.readSegments passes = some q) {i : Nat} {e : IndexEntry} {pre post : List Pass}
    {x : Pass} (he : p.entries[i]? = some e) (hpasses : passes = pre ++ x :: post)
    (hx : x.segment = e.segment) (hpost : ∀ y ∈ post, y.segment ≠ e.segment) :
    ∃ sp, q.subProgram? i = .ok sp ∧ readAt x.data p.updated e = .ok sp := by
  have ha : p.Aligned := by simp [Aligned, hfresh]
  have hreads := ((readSegments_eq_some ha passes q).mp hrun).1
  -- the last pass got past the entry, so its record read
  obtain ⟨sp, hsp⟩ := hreads x (by simp [hpasses]) e (List.mem_of_getElem? he) hx.symm
  refine ⟨sp, ?_, hsp⟩
  rw [subProgram?_eq_ok_iff, slots_of_readSegments hfresh hrun, he, hpasses]
  simp [slotAfter_last hx hpost, hsp, Except.toOption]

/-- A sub-program is there exactly where some pass was over its entry's
segment. -/
theorem subProgram?_ok_iff (hfresh : p.slots = p.entries.map fun _ => none)
    (hrun : p.readSegments passes = some q) (i : Nat) :
    (∃ sp, q.subProgram? i = .ok sp) ↔
      ∃ e, p.entries[i]? = some e ∧ ∃ x ∈ passes, x.segment = e.segment := by
  constructor
  · rintro ⟨sp, hsp⟩
    -- an entry no pass reads would have left its slot empty
    by_cases hread : ∃ e, p.entries[i]? = some e ∧ ∃ x ∈ passes, x.segment = e.segment
    · exact hread
    · have hunread : ∀ e, p.entries[i]? = some e → ∀ x ∈ passes, x.segment ≠ e.segment :=
        fun e he x hx hseg => hread ⟨e, he, x, hx, hseg⟩
      rw [subProgram?_of_unread hfresh hrun hunread] at hsp
      cases hsp
  · rintro ⟨e, he, hx⟩
    obtain ⟨pre, x, post, hpasses, hxs, hpost⟩ := exists_last_pass hx
    obtain ⟨sp, hsp, -⟩ := subProgram?_of_last hfresh hrun he hpasses hxs hpost
    exact ⟨sp, hsp⟩

end Fresh

theorem readSegment_fault (p : ProgramIndex) (data : List UInt8) (segment : Int) :
    (p.readSegment data segment).2 = (fillSlots data segment p.updated p.entries p.slots).2 := rfl

/-- A pass over a segment with an entry at a negative offset fails, with a
truncation for that offset when the entries of the segment before it read. -/
theorem readSegment_of_neg {p : ProgramIndex} (ha : p.Aligned) {data : List UInt8} {segment : Int}
    {pre post : List IndexEntry} {e : IndexEntry} (hes : p.entries = pre ++ e :: post)
    (hseg : e.segment = segment) (hneg : e.offset < 0) :
    (p.readSegment data segment).2 ≠ none ∧
      ((∀ j ∈ pre, EntryReads data segment p.updated j) →
        (p.readSegment data segment).2 = some (.truncated (e.offset + 2 ^ 32).toNat data.length)) := by
  have hlen : p.entries.length = p.slots.length := ha.symm
  have hr : readAt data p.updated e = .error (.truncated (e.offset + 2 ^ 32).toNat data.length) :=
    readAt_of_neg hneg
  rw [readSegment_fault]
  constructor
  · intro hnone
    have hall := (fillSlots_fault_eq_none hlen).mp hnone
    exact not_entryReads_of_error hseg hr (hall e (by simp [hes]))
  · intro hpre
    exact (fillSlots_fault_eq_some hlen).mpr ⟨pre, e, post, hes, hpre, hseg, hr⟩

/-- From an index read from any bytes under options `o`, after passes that
all succeed: the index is laid out as a count and entries of 8 bytes before
2019.3 (segment 0) and 12 from then on; sub-program `i` is there exactly when
some pass was over the segment of entry `i`, and then it is the record at the
entry's offset in the bytes of the last such pass; otherwise, and past the
entries, it is missing; further passes over different segments commute, a
pass repeated changes nothing; and a pass over a segment with an entry at a
negative offset fails, with a truncation asking for that offset read as
unsigned when the entries of the segment before it read. -/
theorem segment_passes (o : DecodeOptions) (c c' : Cursor) (p : ProgramIndex) (passes : List Pass)
    (q : ProgramIndex) (hindex : (readIndex o).run c = (.ok p, c'))
    (hrun : p.readSegments passes = some q) :
    (∀ es : List EntryImage, es.length < 2 ^ 31 →
      Reads (readIndex o) (indexImage o es)
        ⟨es.map (EntryImage.decoded o.engine.hasSegments), es.map fun _ => none, o.updatedPrograms⟩) ∧
    (∀ i, (∃ sp, q.subProgram? i = .ok sp) ↔
      ∃ e, p.entries[i]? = some e ∧ ∃ x ∈ passes, x.segment = e.segment) ∧
    (∀ i e pre (x : Pass) post, p.entries[i]? = some e → passes = pre ++ x :: post →
      x.segment = e.segment → (∀ y ∈ post, y.segment ≠ e.segment) →
      0 ≤ e.offset ∧
        q.subProgram? i = ((SubProgram.read o.updatedPrograms).run ⟨x.data, e.offset.toNat⟩).1) ∧
    (∀ i, (∀ e, p.entries[i]? = some e → ∀ x ∈ passes, x.segment ≠ e.segment) →
      q.subProgram? i = .error (.missingSubProgram i)) ∧
    (∀ i, p.entries.length ≤ i → q.subProgram? i = .error (.missingSubProgram i)) ∧
    (∀ a b : Pass, a.segment ≠ b.segment → q.readSegments [a, b] = q.readSegments [b, a]) ∧
    (∀ a : Pass, q.readSegments [a, a] = q.readSegments [a]) ∧
    (∀ (x : Pass) pre e post, p.entries = pre ++ e :: post → e.segment = x.segment → e.offset < 0 →
      (q.readSegment x.data x.segment).2 ≠ none ∧
      ((∀ j ∈ pre, EntryReads x.data x.segment o.updatedPrograms j) →
        (q.readSegment x.data x.segment).2 = some (.truncated (e.offset + 2 ^ 32).toNat x.data.length))) := by
  obtain ⟨hfresh, hupd⟩ := readIndex_fresh hindex
  have ha : p.Aligned := by simp [Aligned, hfresh]
  have hq := ((readSegments_eq_some ha passes q).mp hrun).2
  have hqa : q.Aligned := ha.of_readSegments hrun
  have hentries : q.entries = p.entries := by rw [hq]
  have hupdated : q.updated = o.updatedPrograms := by rw [hq, hupd]
  refine ⟨fun es h => readIndex_reads o es h, subProgram?_ok_iff hfresh hrun, ?_,
    fun i h => subProgram?_of_unread hfresh hrun h, ?_, fun a b h => readSegments_swap hqa h,
    fun a => readSegments_repeat hqa a, ?_⟩
  · intro i e pre x post he hpasses hxs hpost
    obtain ⟨sp, hsp, hread⟩ := subProgram?_of_last hfresh hrun he hpasses hxs hpost
    obtain ⟨hnonneg, hread'⟩ := readAt_eq_ok hread
    rw [hupd] at hread'
    exact ⟨hnonneg, by rw [hsp, hread']⟩
  · intro i hi
    have hnone : p.entries[i]? = none := List.getElem?_eq_none_iff.mpr hi
    exact subProgram?_of_unread hfresh hrun fun e he => by rw [hnone] at he; cases he
  · intro x pre e post hes hseg hneg
    rw [← hentries] at hes
    rw [← hupdated]
    exact readSegment_of_neg hqa hes hseg hneg

/-- An index of one entry in segment 0 and a pass over that segment whose
bytes hold an empty record at offset 0. -/
theorem segment_passes_one_entry :
    let o := DecodeOptions.default
    let bytes := indexImage o [⟨0, 44, 0⟩]
    let p : ProgramIndex := ⟨[⟨0, 44, 0⟩], [none], false⟩
    let passes : List Pass := [⟨List.replicate 44 0, 0⟩]
    let q : ProgramIndex :=
      ⟨p.entries, [((SubProgram.read false).run ⟨List.replicate 44 0, 0⟩).1.toOption], false⟩
    (readIndex o).run (Cursor.ofBytes bytes) = (.ok p, ⟨bytes, 16⟩) ∧
    p.readSegments passes = some q ∧
    (∀ es : List EntryImage, es.length < 2 ^ 31 →
      Reads (readIndex o) (indexImage o es)
        ⟨es.map (EntryImage.decoded o.engine.hasSegments), es.map fun _ => none, o.updatedPrograms⟩) ∧
    (∀ i, (∃ sp, q.subProgram? i = .ok sp) ↔
      ∃ e, p.entries[i]? = some e ∧ ∃ x ∈ passes, x.segment = e.segment) ∧
    (∀ i e pre (x : Pass) post, p.entries[i]? = some e → passes = pre ++ x :: post →
      x.segment = e.segment → (∀ y ∈ post, y.segment ≠ e.segment) →
      0 ≤ e.offset ∧
        q.subProgram? i = ((SubProgram.read o.updatedPrograms).run ⟨x.data, e.offset.toNat⟩).1) ∧
    (∀ i, (∀ e, p.entries[i]? = some e → ∀ x ∈ passes, x.segment ≠ e.segment) →
      q.subProgram? i = .error (.missingSubProgram i)) ∧
    (∀ i, p.entries.length ≤ i → q.subProgram? i = .error (.missingSubProgram i)) ∧
    (∀ a b : Pass, a.segment ≠ b.segment → q.readSegments [a, b] = q.readSegments [b, a]) ∧
    (∀ a : Pass, q.readSegments [a, a] = q.readSegments [a]) ∧
    (∀ (x : Pass) pre e post, p.entries = pre ++ e :: post → e.segment = x.segment → e.offset < 0 →
      (q.readSegment x.data x.segment).2 ≠ none ∧
      ((∀ j ∈ pre, EntryReads x.data x.segment o.updatedPrograms j) →
        (q.readSegment x.data x.segment).2 = some (.truncated (e.offset + 2 ^ 32).toNat x.data.length))) :=
  have hrun : readSegments ⟨[⟨0, 44, 0⟩], [none], false⟩ [⟨List.replicate 44 0, 0⟩] =
      some ⟨[⟨0, 44, 0⟩],
        [((SubProgram.read false).run ⟨List.replicate 44 0, 0⟩).1.toOption], false⟩ := by
    decide
  have hindex : (readIndex DecodeOptions.default).run
      (Cursor.ofBytes (indexImage DecodeOptions.default [⟨0, 44, 0⟩])) =
      (.ok ⟨[⟨0, 44, 0⟩], [none], false⟩,
        ⟨indexImage DecodeOptions.default [⟨0, 44, 0⟩], 16⟩) := rfl
  ⟨hindex, hrun, segment_passes _ _ _ _ _ _ hindex hrun⟩

/-- An index of two entries in segment 0, the second at offset `-1`, and a
pass whose bytes hold at offset 0 a record with one binding of kind 7: the
first entry's fault ends the pass, and the negative offset is never looked
at. -/
theorem unsupported_binding_before_negative_offset :
    (readIndex DecodeOptions.default).run
        (Cursor.ofBytes (indexImage DecodeOptions.default [⟨0, 60, 0⟩, ⟨-1, 0, 0⟩])) =
      (.ok ⟨[⟨0, 60, 0⟩, ⟨-1, 0, 0⟩], [none, none], false⟩,
        ⟨indexImage DecodeOptions.default [⟨0, 60, 0⟩, ⟨-1, 0, 0⟩], 28⟩) ∧
    (readSegment ⟨[⟨0, 60, 0⟩, ⟨-1, 0, 0⟩], [none, none], false⟩
        (List.replicate 40 0 ++ countWord 1 ++ List.replicate 4 0 ++ Bytes.ofWord 7 ++
          List.replicate 8 0) 0).2 =
      some (.unsupportedParameterType 7) :=
  ⟨rfl, by decide⟩

end ProgramIndex

end ShaderRecovery
