import Mathlib
import ShaderRecovery.Dxbc.Container
import ShaderRecovery.Proofs.Checked

/-!
# What a container parse accepts

`Container.parse` runs a fixed list of checks over the input, in order, and
reports the fault of the first that fails. This module states those checks as
conditions on the input bytes themselves, each word read where the format puts
it, and proves that the parser is exactly that list.

* `Container.Check` with `Check.Holds`, `Check.fault` and `Check.category` —
  five header checks, then three per chunk in table order, each with the fault
  `parse` reports for it and the group of that fault.
* `Container.decoded` — the container the checks describe: chunk `i` is the tag
  at its offset and the bytes after its eight-byte header, as many as its
  length word gives.
* `Container.parse_eq` — parsing is the first failing check's fault, else
  `decoded`.
* `Container.parse_take_totalSize` — bytes past the total size are never read.
* `Container.build`, `Container.parse_build` — a container written from a list
  of chunks parses back to those chunks.

Principal result: `Container.parse_iff_checks` — a parse succeeds exactly
when every check holds, with `decoded`, whose chunks lie inside the total size;
otherwise it fails with the fault of the first check that fails.
-/

namespace ShaderRecovery

/-! ## Words inside a byte string -/

namespace Bytes

theorem headWord?_eq_none_iff (bs : List UInt8) : headWord? bs = none ↔ bs.length < 4 := by
  match bs with
  | [] | [_] | [_, _] | [_, _, _] => simp [headWord?]
  | _ :: _ :: _ :: _ :: _ => simp [headWord?]

theorem headWord?_take (bs : List UInt8) {n : Nat} (h : 4 ≤ n) : headWord? (bs.take n) = headWord? bs := by
  match bs, n, h with
  | [], _, _ | [_], _, _ | [_, _], _, _ | [_, _, _], _, _ =>
    rw [List.take_of_length_le (by simp only [List.length_cons, List.length_nil]; omega)]
  | _ :: _ :: _ :: _ :: _, n + 4, _ => simp [headWord?]

/-- A word can be read exactly where four bytes remain. -/
theorem wordAt?_eq_none_iff (bs : List UInt8) (off : Nat) :
    wordAt? bs off = none ↔ bs.length < off + 4 := by
  rw [wordAt?, headWord?_eq_none_iff, List.length_drop]
  omega

/-- Cutting a string after a word does not change the word. -/
theorem wordAt?_take {bs : List UInt8} {t off : Nat} (h : off + 4 ≤ t) :
    wordAt? (bs.take t) off = wordAt? bs off := by
  rw [wordAt?, wordAt?, List.drop_take, headWord?_take _ (by omega)]

/-- A word written after any prefix reads back at the prefix's length. -/
theorem wordAt?_append_ofWord (pre post : List UInt8) (w : UInt32) :
    wordAt? (pre ++ (ofWord w ++ post)) pre.length = some w := by
  rw [wordAt?, List.drop_left' rfl]
  exact wordAt?_ofWord_append w post

end Bytes

/-- A list flattened is the part before element `i`, that element's image, and
the part after. -/
theorem flatMap_split {α β : Type} (f : α → List β) {l : List α} {i : Nat} (h : i < l.length) :
    l.flatMap f = (l.take i).flatMap f ++ (f l[i] ++ (l.drop (i + 1)).flatMap f) := by
  calc l.flatMap f = (l.take i ++ l[i] :: l.drop (i + 1)).flatMap f := by
        rw [← List.drop_eq_getElem_cons h, List.take_append_drop]
    _ = _ := by rw [List.flatMap_append, List.flatMap_cons]

/-- A chunk as stored: its tag, its length word and its payload. -/
def Chunk.encode (ch : Chunk) : List UInt8 :=
  ch.fourcc.bytes ++ (Bytes.ofWord (UInt32.ofNat ch.data.length) ++ ch.data)

namespace Container

/-! ## The fields of a container, read from its bytes -/

section Fields

variable (b : List UInt8)

/-- The word at `off` as a number; zero where the bytes end first. -/
def wordAt (off : Nat) : Nat := ((Bytes.wordAt? b off).getD 0).toNat

/-- The tag stored at `off`. -/
def tagAt (off : Nat) : FourCC := ⟨(Bytes.wordAt? b off).getD 0⟩

def totalSizeOf : Nat := wordAt b 24

def chunkCountOf : Nat := wordAt b 28

/-- Where the chunk offset table ends. -/
def tableEndOf : Nat := headerLen + 4 * chunkCountOf b

/-- The offset of chunk `i`, from the table. -/
def offsetOf (i : Nat) : Nat := wordAt b (headerLen + 4 * i)

/-- The length word of chunk `i`, after its tag. -/
def lengthOf (i : Nat) : Nat := wordAt b (offsetOf b i + 4)

/-- Chunk `i`: the tag at its offset and the bytes after its eight-byte header. -/
def chunkOf (i : Nat) : Chunk :=
  ⟨tagAt b (offsetOf b i), (b.drop (offsetOf b i + 8)).take (lengthOf b i)⟩

/-- The container the bytes describe. -/
def decoded : Container :=
  ⟨tagAt b 0, (b.drop 4).take 16, totalSizeOf b, chunkCountOf b,
    (List.range (chunkCountOf b)).map (chunkOf b)⟩

end Fields

section Words

variable {b : List UInt8} {off t : Nat}

theorem wordAt_take (h : off + 4 ≤ t) : wordAt (b.take t) off = wordAt b off := by
  rw [wordAt, wordAt, Bytes.wordAt?_take h]

theorem tagAt_take (h : off + 4 ≤ t) : tagAt (b.take t) off = tagAt b off := by
  rw [tagAt, tagAt, Bytes.wordAt?_take h]

theorem word_of_le (h : off + 4 ≤ b.length) : word b off = .ok (wordAt b off) := by
  obtain ⟨w, hw⟩ := Option.ne_none_iff_exists'.mp
    (mt (Bytes.wordAt?_eq_none_iff b off).mp (by omega))
  simp [word, wordAt, hw]

theorem word_of_lt (h : b.length < off + 4) : word b off = .error (.wordPastEnd off b.length) := by
  simp [word, (Bytes.wordAt?_eq_none_iff b off).mpr h]

/-- A tag read as a number and back is the tag. -/
theorem tag_of_wordAt (b : List UInt8) (off : Nat) :
    (⟨(wordAt b off).toUInt32⟩ : FourCC) = tagAt b off := by
  simp [wordAt, tagAt]

end Words

/-! ## The checks, in the order they are made -/

/-- A condition a container must meet. -/
inductive Check where
  | length
  | magic
  | chunkLimit
  | totalSize
  | tableEnd
  | chunkOffset (i : Nat)
  | chunkHeader (i : Nat)
  | chunkPayload (i : Nat)
  deriving DecidableEq, Repr

namespace Check

variable (b : List UInt8)

/-- What each check asks of the input bytes. -/
def Holds : Check → Prop
  | length => headerLen ≤ b.length
  | magic => tagAt b 0 = FourCC.dxbc
  | chunkLimit => chunkCountOf b ≤ maxChunks
  | totalSize => headerLen ≤ totalSizeOf b ∧ totalSizeOf b ≤ b.length
  | tableEnd => tableEndOf b ≤ totalSizeOf b
  | chunkOffset i => tableEndOf b ≤ offsetOf b i
  | chunkHeader i => offsetOf b i + 8 ≤ totalSizeOf b
  | chunkPayload i => offsetOf b i + 8 + lengthOf b i ≤ totalSizeOf b

instance : DecidablePred (Holds b)
  | length => inferInstanceAs (Decidable (_ ≤ _))
  | magic => inferInstanceAs (Decidable (_ = _))
  | chunkLimit => inferInstanceAs (Decidable (_ ≤ _))
  | totalSize => inferInstanceAs (Decidable (_ ∧ _))
  | tableEnd => inferInstanceAs (Decidable (_ ≤ _))
  | chunkOffset _ => inferInstanceAs (Decidable (_ ≤ _))
  | chunkHeader _ => inferInstanceAs (Decidable (_ ≤ _))
  | chunkPayload _ => inferInstanceAs (Decidable (_ ≤ _))

/-- The fault a failing check is reported with. A chunk header past the total
size is reported at the first of its two words that does not fit. -/
def fault : Check → ContainerError
  | length => .tooShort b.length
  | magic => .badMagic (tagAt b 0)
  | chunkLimit => .tooManyChunks (chunkCountOf b)
  | totalSize => .totalSizeOutOfRange (totalSizeOf b) b.length
  | tableEnd => .tableOverrun (tableEndOf b) (totalSizeOf b)
  | chunkOffset i => .chunkOverlapsTable i (offsetOf b i)
  | chunkHeader i =>
    if offsetOf b i + 4 ≤ totalSizeOf b then .wordPastEnd (offsetOf b i + 4) (totalSizeOf b)
    else .wordPastEnd (offsetOf b i) (totalSizeOf b)
  | chunkPayload i =>
    .chunkOverrun i (tagAt b (offsetOf b i)) (lengthOf b i) (offsetOf b i + 8) (totalSizeOf b)

/-- The group of faults each check belongs to: the header, the offsets, or the
bounds of the data. -/
def category : Check → ContainerError.Category
  | length | magic => .malformedHeader
  | chunkLimit | tableEnd | chunkOffset _ => .malformedOffsets
  | totalSize | chunkHeader _ | chunkPayload _ => .outOfBounds

theorem fault_category (k : Check) : (k.fault b).category = k.category := by
  cases k with
  | chunkHeader i =>
    dsimp only [fault]
    split <;> rfl
  | _ => rfl

/-- The three checks of chunk `i`. -/
def chunk (i : Nat) : List Check := [chunkOffset i, chunkHeader i, chunkPayload i]

end Check

/-- Every check, in the order `parse` makes them: the header, then each chunk
in table order. -/
def checks (b : List UInt8) : List Check :=
  [.length, .magic, .chunkLimit, .totalSize, .tableEnd] ++
    (List.range (chunkCountOf b)).flatMap Check.chunk

/-- The outcome of the checks on `b`, guarding `v`. -/
abbrev runChecks (b : List UInt8) (ks : List Check) (v : α) : Except ContainerError α :=
  firstFault (Check.Holds b) (Check.fault b) ks v

/-- Reading chunk `i` from the bytes up to the total size is running its three
checks, guarding `chunkOf`. -/
theorem chunkAt_eq {b : List UInt8} {i : Nat} (hi : i < chunkCountOf b)
    (hte : tableEndOf b ≤ totalSizeOf b) (hb : totalSizeOf b ≤ b.length) :
    chunkAt (b.take (totalSizeOf b)) (tableEndOf b) i = runChecks b (Check.chunk i) (chunkOf b i) := by
  have hlen : (b.take (totalSizeOf b)).length = totalSizeOf b := by simp; omega
  have hoff : word (b.take (totalSizeOf b)) (headerLen + 4 * i) = .ok (offsetOf b i) := by
    have hslot : headerLen + 4 * i + 4 ≤ totalSizeOf b := by
      simp only [tableEndOf] at hte
      omega
    rw [word_of_le (by omega), wordAt_take hslot, offsetOf]
  simp only [chunkAt, hoff, ok_bind_eq, Check.chunk, runChecks]
  by_cases hovl : offsetOf b i < tableEndOf b
  · -- the offset points into the header or the table
    rw [if_pos hovl, throw_bind_eq, firstFault_cons_of_not _ _ (by simp [Check.Holds]; omega)]
    rfl
  rw [if_neg hovl, firstFault_cons_of_holds _ _ (by simp [Check.Holds]; omega)]
  by_cases hhdr : offsetOf b i + 8 ≤ totalSizeOf b
  · -- the header fits: tag and length are read, and the payload is checked
    rw [word_of_le (by omega), ok_bind_eq, word_of_le (by omega), ok_bind_eq,
      wordAt_take (by omega), tag_of_wordAt, tagAt_take (by omega), hlen, ← lengthOf,
      firstFault_cons_of_holds _ _ (show Check.Holds b (.chunkHeader i) from hhdr)]
    by_cases hpay : offsetOf b i + 8 + lengthOf b i ≤ totalSizeOf b
    · have hdata : ((b.take (totalSizeOf b)).drop (offsetOf b i + 8)).take (lengthOf b i) =
          (b.drop (offsetOf b i + 8)).take (lengthOf b i) := by
        rw [List.drop_take, List.take_take, Nat.min_eq_left (by omega)]
      rw [if_neg (by omega),
        firstFault_cons_of_holds _ _ (show Check.Holds b (.chunkPayload i) from hpay),
        firstFault_nil, hdata]
      rfl
    · rw [if_pos (by omega), throw_bind_eq,
        firstFault_cons_of_not _ _ (show ¬Check.Holds b (.chunkPayload i) from hpay)]
      rfl
  · -- the header runs past the total size, at its tag or at its length word
    rw [firstFault_cons_of_not _ _ (show ¬Check.Holds b (.chunkHeader i) from hhdr)]
    by_cases htag : offsetOf b i + 4 ≤ totalSizeOf b
    · rw [word_of_le (by omega), ok_bind_eq, word_of_lt (by omega), error_bind_eq]
      simp [Check.fault, htag, hlen]
    · rw [word_of_lt (by omega), error_bind_eq]
      simp [Check.fault, htag, hlen]

/-- Parsing runs every check in order and reports the first that fails; when
none does, the container is the one the bytes describe. -/
theorem parse_eq (b : List UInt8) : parse b = runChecks b (checks b) (decoded b) := by
  simp only [parse, runChecks, checks, List.cons_append]
  by_cases hshort : b.length < headerLen
  · rw [if_pos hshort, firstFault_cons_of_not _ _ (k := Check.length) (by simp [Check.Holds]; omega)]
    rfl
  rw [if_neg hshort, firstFault_cons_of_holds _ _ (k := Check.length) (by simp [Check.Holds]; omega)]
  have hhdr : headerLen ≤ b.length := by omega
  rw [word_of_le (by simp only [headerLen] at hhdr; omega), ok_bind_eq, tag_of_wordAt]
  by_cases hmagic : tagAt b 0 = FourCC.dxbc
  case neg =>
    rw [if_pos hmagic, throw_bind_eq, firstFault_cons_of_not _ _ (k := Check.magic) hmagic]
    rfl
  rw [if_neg (fun h => h hmagic), firstFault_cons_of_holds _ _ (k := Check.magic) hmagic,
    word_of_le (by simp only [headerLen] at hhdr; omega), ok_bind_eq,
    word_of_le (by simp only [headerLen] at hhdr; omega), ok_bind_eq,
    ← totalSizeOf, ← chunkCountOf]
  by_cases hcount : chunkCountOf b ≤ maxChunks
  case neg =>
    rw [if_pos (by omega), throw_bind_eq, firstFault_cons_of_not _ _ (k := Check.chunkLimit) hcount]
    rfl
  rw [if_neg (by omega), firstFault_cons_of_holds _ _ (k := Check.chunkLimit) hcount]
  by_cases hsize : headerLen ≤ totalSizeOf b ∧ totalSizeOf b ≤ b.length
  case neg =>
    rw [if_pos (by omega), throw_bind_eq, firstFault_cons_of_not _ _ (k := Check.totalSize) hsize]
    rfl
  rw [if_neg (by omega), firstFault_cons_of_holds _ _ (k := Check.totalSize) hsize, ← tableEndOf]
  by_cases htable : tableEndOf b ≤ totalSizeOf b
  case neg =>
    rw [if_pos (by omega), throw_bind_eq, firstFault_cons_of_not _ _ (k := Check.tableEnd) htable]
    rfl
  -- every check of the header holds: what is left is the chunks, one after another
  rw [if_neg (by omega), firstFault_cons_of_holds _ _ (k := Check.tableEnd) htable, List.nil_append,
    mapM_congr_of_mem (fun i hi => chunkAt_eq (List.mem_range.mp hi) htable hsize.2),
    mapM_firstFault, firstFault_bind_pure]
  rfl

/-- Bytes past the total size are never read: cutting them off changes nothing,
faults included. -/
theorem parse_take_totalSize (b : List UInt8) (h : headerLen ≤ totalSizeOf b) :
    parse (b.take (totalSizeOf b)) = parse b := by
  rcases Nat.lt_or_ge b.length (totalSizeOf b) with hlt | hle
  · rw [List.take_of_length_le (by omega)]
  have hlen : (b.take (totalSizeOf b)).length = totalSizeOf b := by simp; omega
  -- the header words lie inside the first 32 bytes, which the cut keeps
  have hword : ∀ off, off + 4 ≤ headerLen → word (b.take (totalSizeOf b)) off = word b off := by
    intro off hoff
    rw [word_of_le (by omega), word_of_le (by omega), wordAt_take (by omega)]
  have hsum : ((b.take (totalSizeOf b)).drop 4).take 16 = (b.drop 4).take 16 := by
    rw [List.drop_take, List.take_take, Nat.min_eq_left (by simp only [headerLen] at h; omega)]
  have hsize : word b 24 = .ok (totalSizeOf b) := word_of_le (by simp only [headerLen] at h; omega)
  -- both inputs are long enough and hold the whole total size
  simp only [parse, hlen, hword 0 (by decide), hword 24 (by decide), hword 28 (by decide), hsum,
    hsize, ok_bind_eq, List.take_take, Nat.min_self, show ¬totalSizeOf b < headerLen by omega,
    show ¬b.length < headerLen by omega, show ¬totalSizeOf b > totalSizeOf b by omega,
    show ¬totalSizeOf b > b.length by omega, or_self, ↓reduceIte]

/-- A chunk whose payload check holds lies inside the total size. -/
theorem chunkOf_data_infix {b : List UInt8} {i : Nat} (h : Check.Holds b (.chunkPayload i)) :
    (chunkOf b i).data <:+: b.take (totalSizeOf b) := by
  have hdata : (chunkOf b i).data = ((b.take (totalSizeOf b)).drop (offsetOf b i + 8)).take (lengthOf b i) := by
    simp only [Check.Holds] at h
    rw [chunkOf, List.drop_take, List.take_take, Nat.min_eq_left (by omega)]
  rw [hdata]
  exact (List.take_prefix _ _).isInfix.trans (List.drop_suffix _ _).isInfix

theorem decoded_chunks_length (b : List UInt8) : (decoded b).chunks.length = (decoded b).chunkCount := by
  simp [decoded]

/-! ## Writing a container -/

section Build

variable (cs : List Chunk)

/-- Where chunk `i` starts when the chunks are written after the header and the
offset table. -/
def chunkStart (i : Nat) : Nat :=
  headerLen + 4 * cs.length + ((cs.take i).flatMap Chunk.encode).length

/-- The header `build` writes: magic, a zero checksum, a reserved word of one,
the total size and the chunk count. -/
def buildHeader : List UInt8 :=
  FourCC.dxbc.bytes ++ (List.replicate 16 0 ++ (Bytes.ofWord 1 ++
    (Bytes.ofWord (UInt32.ofNat (chunkStart cs cs.length)) ++ Bytes.ofWord (UInt32.ofNat cs.length))))

/-- The offset table `build` writes, one word per chunk. -/
def buildTable : List UInt8 :=
  (List.range cs.length).flatMap fun i => Bytes.ofWord (UInt32.ofNat (chunkStart cs i))

/-- The container holding `cs`, in order: the header, the offset table, then
each chunk. -/
def build : List UInt8 := buildHeader cs ++ (buildTable cs ++ cs.flatMap Chunk.encode)

theorem buildHeader_length : (buildHeader cs).length = headerLen := rfl

theorem buildTable_length : (buildTable cs).length = 4 * cs.length := by
  simp [buildTable, List.length_flatMap, Bytes.ofWord_length, List.map_const', Nat.mul_comm]

theorem build_length : (build cs).length = chunkStart cs cs.length := by
  simp [build, chunkStart, buildHeader_length, buildTable_length, Nat.add_assoc]

/-- `build` around chunk `i`: everything before its start, then the chunk. -/
theorem build_split {i : Nat} (hi : i < cs.length) :
    build cs = (buildHeader cs ++ buildTable cs ++ (cs.take i).flatMap Chunk.encode) ++
      (cs[i].encode ++ (cs.drop (i + 1)).flatMap Chunk.encode) ∧
    (buildHeader cs ++ buildTable cs ++ (cs.take i).flatMap Chunk.encode).length = chunkStart cs i := by
  refine ⟨?_, ?_⟩
  · rw [build, flatMap_split Chunk.encode hi]
    simp only [List.append_assoc]
  · simp [chunkStart, buildHeader_length, buildTable_length, Nat.add_assoc]

theorem chunkStart_add_le {i : Nat} (hi : i < cs.length) :
    chunkStart cs i + 8 + cs[i].data.length ≤ (build cs).length := by
  obtain ⟨hsplit, hpre⟩ := build_split cs hi
  have := congrArg List.length hsplit
  simp only [List.length_append, Chunk.encode, FourCC.bytes, Bytes.ofWord_length] at this hpre
  omega

theorem tableEnd_le_chunkStart (i : Nat) : headerLen + 4 * cs.length ≤ chunkStart cs i := by
  simp [chunkStart]

theorem headerLen_le_build : headerLen ≤ (build cs).length := by
  rw [build_length]
  exact Nat.le_trans (Nat.le_add_right _ _) (tableEnd_le_chunkStart cs cs.length)

end Build

/-- A word read where `b` holds it. -/
theorem wordAt?_of_eq {b p q : List UInt8} {w : UInt32} {n : Nat}
    (h : b = p ++ (Bytes.ofWord w ++ q)) (hn : p.length = n) : Bytes.wordAt? b n = some w := by
  subst h hn
  exact Bytes.wordAt?_append_ofWord p q w

section BuildFields

variable {cs : List Chunk}

theorem tagAt_build_zero : tagAt (build cs) 0 = FourCC.dxbc := by
  have h : Bytes.wordAt? (build cs) 0 = some FourCC.dxbc.code :=
    wordAt?_of_eq (p := []) (by rw [build, buildHeader, FourCC.bytes]; rfl) rfl
  rw [tagAt, h]
  rfl

variable (hsize : (build cs).length < 2 ^ 32)

include hsize

theorem toNat_ofNat_of_le {n : Nat} (h : n ≤ (build cs).length) : (UInt32.ofNat n).toNat = n := by
  rw [UInt32.toNat_ofNat', Nat.mod_eq_of_lt (by omega)]

theorem totalSizeOf_build : totalSizeOf (build cs) = (build cs).length := by
  have h : Bytes.wordAt? (build cs) 24 = some (UInt32.ofNat (chunkStart cs cs.length)) := by
    refine wordAt?_of_eq (p := FourCC.dxbc.bytes ++ (List.replicate 16 0 ++ Bytes.ofWord 1))
      (q := Bytes.ofWord (UInt32.ofNat cs.length) ++ (buildTable cs ++ cs.flatMap Chunk.encode)) ?_ rfl
    simp only [build, buildHeader, List.append_assoc]
  rw [totalSizeOf, wordAt, h, Option.getD_some, ← build_length, toNat_ofNat_of_le hsize (Nat.le_refl _)]

theorem chunkCountOf_build : chunkCountOf (build cs) = cs.length := by
  have h : Bytes.wordAt? (build cs) 28 = some (UInt32.ofNat cs.length) := by
    refine wordAt?_of_eq (p := FourCC.dxbc.bytes ++ (List.replicate 16 0 ++ (Bytes.ofWord 1 ++
      Bytes.ofWord (UInt32.ofNat (chunkStart cs cs.length)))))
      (q := buildTable cs ++ cs.flatMap Chunk.encode) ?_ rfl
    simp only [build, buildHeader, List.append_assoc]
  have hle : cs.length ≤ (build cs).length := by
    have := tableEnd_le_chunkStart cs cs.length
    rw [build_length]
    omega
  rw [chunkCountOf, wordAt, h, Option.getD_some, toNat_ofNat_of_le hsize hle]

theorem offsetOf_build {i : Nat} (hi : i < cs.length) : offsetOf (build cs) i = chunkStart cs i := by
  have hr : i < (List.range cs.length).length := by simpa using hi
  have h : Bytes.wordAt? (build cs) (headerLen + 4 * i) = some (UInt32.ofNat (chunkStart cs i)) := by
    refine wordAt?_of_eq (p := buildHeader cs ++ ((List.range cs.length).take i).flatMap
        fun i => Bytes.ofWord (UInt32.ofNat (chunkStart cs i)))
      (q := ((List.range cs.length).drop (i + 1)).flatMap
          (fun i => Bytes.ofWord (UInt32.ofNat (chunkStart cs i))) ++ cs.flatMap Chunk.encode) ?_ ?_
    · rw [build, buildTable, flatMap_split _ hr, List.getElem_range]
      simp only [List.append_assoc]
    · simp [buildHeader_length, List.length_flatMap, Bytes.ofWord_length, List.map_const',
        Nat.min_eq_left (Nat.le_of_lt hi), Nat.mul_comm]
  have hle : chunkStart cs i ≤ (build cs).length := by
    have := chunkStart_add_le cs hi
    omega
  rw [offsetOf, wordAt, h, Option.getD_some, toNat_ofNat_of_le hsize hle]

theorem lengthOf_build {i : Nat} (hi : i < cs.length) : lengthOf (build cs) i = cs[i].data.length := by
  obtain ⟨hsplit, hpre⟩ := build_split cs hi
  generalize buildHeader cs ++ buildTable cs ++ (cs.take i).flatMap Chunk.encode = X at hsplit hpre
  have hlen : Bytes.wordAt? (build cs) (chunkStart cs i + 4) = some (UInt32.ofNat cs[i].data.length) := by
    refine wordAt?_of_eq (p := X ++ cs[i].fourcc.bytes)
      (q := cs[i].data ++ (cs.drop (i + 1)).flatMap Chunk.encode) ?_ ?_
    · rw [hsplit, Chunk.encode]
      simp only [List.append_assoc]
    · simp [hpre, FourCC.bytes, Bytes.ofWord_length]
  have hle : cs[i].data.length ≤ (build cs).length := by
    have := chunkStart_add_le cs hi
    omega
  rw [lengthOf, offsetOf_build hsize hi, wordAt, hlen, Option.getD_some, toNat_ofNat_of_le hsize hle]

theorem chunkOf_build {i : Nat} (hi : i < cs.length) : chunkOf (build cs) i = cs[i] := by
  obtain ⟨hsplit, hpre⟩ := build_split cs hi
  have hend := chunkStart_add_le cs hi
  generalize buildHeader cs ++ buildTable cs ++ (cs.take i).flatMap Chunk.encode = X at hsplit hpre
  generalize (cs.drop (i + 1)).flatMap Chunk.encode = rest at hsplit
  -- the chunk's tag, its length word and its payload follow the bytes before it
  have htag : Bytes.wordAt? (build cs) (chunkStart cs i) = some cs[i].fourcc.code := by
    refine wordAt?_of_eq (q := Bytes.ofWord (UInt32.ofNat cs[i].data.length) ++ (cs[i].data ++ rest)) ?_ hpre
    rw [hsplit, Chunk.encode, FourCC.bytes]
    simp only [List.append_assoc]
  have hdata : (build cs).drop (chunkStart cs i + 8) = cs[i].data ++ rest := by
    have hhead : X ++ (cs[i].encode ++ rest) =
        (X ++ (cs[i].fourcc.bytes ++ Bytes.ofWord (UInt32.ofNat cs[i].data.length))) ++
          (cs[i].data ++ rest) := by
      simp only [Chunk.encode, List.append_assoc]
    rw [hsplit, hhead]
    exact List.drop_left' (by simp [hpre, FourCC.bytes, Bytes.ofWord_length])
  rw [chunkOf, lengthOf_build hsize hi, offsetOf_build hsize hi, tagAt, htag, Option.getD_some, hdata,
    List.take_left' rfl]

/-- Every check holds on a written container of at most `maxChunks` chunks. -/
theorem checks_build (hn : cs.length ≤ maxChunks) : ∀ k ∈ checks (build cs), k.Holds (build cs) := by
  have hhdr := headerLen_le_build cs
  have htable : headerLen + 4 * cs.length ≤ (build cs).length := by
    rw [build_length]
    exact tableEnd_le_chunkStart cs cs.length
  intro k hk
  simp only [checks, chunkCountOf_build hsize, List.mem_append, List.mem_cons, List.not_mem_nil,
    or_false, List.mem_flatMap, List.mem_range] at hk
  rcases hk with (rfl | rfl | rfl | rfl | rfl) | ⟨i, hi, hk⟩
  · exact hhdr
  · exact tagAt_build_zero
  · simpa [Check.Holds, chunkCountOf_build hsize] using hn
  · simpa [Check.Holds, totalSizeOf_build hsize] using hhdr
  · simpa [Check.Holds, tableEndOf, totalSizeOf_build hsize, chunkCountOf_build hsize] using htable
  · -- the three checks of chunk `i`
    have hend := chunkStart_add_le cs hi
    simp only [Check.chunk, List.mem_cons, List.not_mem_nil, or_false] at hk
    rcases hk with rfl | rfl | rfl
    · simpa [Check.Holds, tableEndOf, chunkCountOf_build hsize, offsetOf_build hsize hi] using
        tableEnd_le_chunkStart cs i
    · simp only [Check.Holds, offsetOf_build hsize hi, totalSizeOf_build hsize]
      omega
    · simp only [Check.Holds, offsetOf_build hsize hi, lengthOf_build hsize hi, totalSizeOf_build hsize]
      omega

theorem decoded_build :
    decoded (build cs) = ⟨FourCC.dxbc, List.replicate 16 0, (build cs).length, cs.length, cs⟩ := by
  have hsum : ((build cs).drop 4).take 16 = List.replicate 16 0 := by
    simp [build, buildHeader, FourCC.bytes, Bytes.ofWord]
  have hchunks : (List.range (chunkCountOf (build cs))).map (chunkOf (build cs)) = cs := by
    rw [chunkCountOf_build hsize]
    apply List.ext_getElem (by simp)
    intro i _ hi
    simp [chunkOf_build hsize hi]
  rw [decoded, tagAt_build_zero, hsum, totalSizeOf_build hsize, hchunks, chunkCountOf_build hsize]

/-- A written container of at most `maxChunks` chunks, whose size fits a word,
parses back to its chunks, in order. -/
theorem parse_build (hn : cs.length ≤ maxChunks) :
    parse (build cs) = .ok ⟨FourCC.dxbc, List.replicate 16 0, (build cs).length, cs.length, cs⟩ := by
  rw [parse_eq, runChecks, firstFault_eq_ok]
  exact ⟨checks_build hsize hn, (decoded_build hsize).symm⟩

example : (parse (build [⟨⟨0x46454452⟩, [9, 9]⟩, ⟨FourCC.shdr, [1, 2, 3, 4]⟩])).toOption =
    some ⟨FourCC.dxbc, List.replicate 16 0, 62, 2,
      [⟨⟨0x46454452⟩, [9, 9]⟩, ⟨FourCC.shdr, [1, 2, 3, 4]⟩]⟩ := by
  decide +kernel

end BuildFields

/-- A container parse succeeds exactly when every check holds, and then gives
the container the bytes describe: one chunk per table entry, in table order,
each inside the total size. Otherwise it fails with the fault of the first
check that fails, every check before it holding, and the fault is in that
check's group. Bytes past the total size are never read, and a container
written from chunks parses back to them. -/
theorem parse_iff_checks (b : List UInt8) :
    (∀ c, parse b = .ok c ↔ (∀ k ∈ checks b, k.Holds b) ∧ c = decoded b) ∧
    (∀ e, parse b = .error e ↔ ∃ pre k post, checks b = pre ++ k :: post ∧
        (∀ j ∈ pre, j.Holds b) ∧ ¬k.Holds b ∧ e = k.fault b ∧ e.category = k.category) ∧
    (∀ c, parse b = .ok c →
        c.chunks.length = c.chunkCount ∧ ∀ ch ∈ c.chunks, ch.data <:+: b.take c.totalSize) ∧
    (headerLen ≤ totalSizeOf b → parse (b.take (totalSizeOf b)) = parse b) ∧
    (∀ cs : List Chunk, cs.length ≤ maxChunks → (build cs).length < 2 ^ 32 →
        parse (build cs) = .ok ⟨FourCC.dxbc, List.replicate 16 0, (build cs).length, cs.length, cs⟩) := by
  have hok : ∀ c, parse b = .ok c ↔ (∀ k ∈ checks b, k.Holds b) ∧ c = decoded b := by
    intro c
    rw [parse_eq, runChecks, firstFault_eq_ok]
  refine ⟨hok, fun e => ?_, fun c hc => ?_, parse_take_totalSize b, fun cs hn hsize => parse_build hsize hn⟩
  · rw [parse_eq, runChecks, firstFault_eq_error]
    constructor
    · rintro ⟨pre, k, post, hks, hpre, hk, rfl⟩
      exact ⟨pre, k, post, hks, hpre, hk, rfl, Check.fault_category b k⟩
    · rintro ⟨pre, k, post, hks, hpre, hk, rfl, -⟩
      exact ⟨pre, k, post, hks, hpre, hk, rfl⟩
  · obtain ⟨hall, rfl⟩ := (hok c).mp hc
    refine ⟨decoded_chunks_length b, fun ch hch => ?_⟩
    -- every chunk is `chunkOf b i` for an index of the table, whose payload check holds
    obtain ⟨i, hi, rfl⟩ := List.mem_map.mp hch
    exact chunkOf_data_infix (hall _ (by
      simp only [checks, List.mem_append, List.mem_flatMap]
      exact .inr ⟨i, hi, by simp [Check.chunk]⟩))

end Container

end ShaderRecovery
