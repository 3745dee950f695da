import Mathlib
import ShaderRecovery.Dxbc.Signature
import ShaderRecovery.Proofs.ContainerChecks
import ShaderRecovery.Proofs.Traversal

/-!
# Signature tables

A signature chunk is an eight-byte header (entry count, table offset) and a
table of entries, each a fixed number of words, whose name offsets point to
NUL-terminated UTF-8 strings elsewhere in the chunk. This module states what a
chunk must hold, word by word, and proves that `Signature.parse` accepts
exactly such chunks and returns exactly the entries they describe.

* `Signature.CStringAt` — a NUL-terminated well-formed UTF-8 string at an offset.
* `Signature.fieldsAt` — where the fields of entry `i` start: at the entry, or
  after its stream word in the two stream layouts.
* `Signature.Holds` — entry `e` is what the table holds at position `i`, each
  field the word where the layout puts it.
* `Signature.Table` — a table that lies past the header and inside the chunk,
  with one entry per position.

Principal result: `Signature.parse_decodes_table` — a parse returns `es`
exactly when the header can be read and either counts no entry (and `es` is
empty) or describes a table whose entries are `es`; and once the header and
the table fit, no word read fails, so the parse never reports a word outside
the chunk.
-/

namespace ShaderRecovery

namespace Signature

/-! ## Words and names -/

/-- A string at `off` that the first NUL after it ends, its bytes well-formed UTF-8. -/
def CStringAt (bs : List UInt8) (off : Nat) (s : String) : Prop :=
  ∃ name rest, bs.drop off = name ++ 0 :: rest ∧ 0 ∉ name ∧ Utf8.decode? name = some s

theorem field_of_wordAt? {bs : List UInt8} {off : Nat} {w : UInt32} (name : String)
    (h : Bytes.wordAt? bs off = some w) : field bs name off = .ok w := by
  simp [field, h]

theorem field_eq_ok_iff {bs : List UInt8} {name : String} {off : Nat} {w : UInt32} :
    field bs name off = .ok w ↔ Bytes.wordAt? bs off = some w := by
  unfold field
  split <;> simp_all

/-- A word can be read wherever four bytes remain. -/
theorem exists_wordAt? {bs : List UInt8} {off : Nat} (h : off + 4 ≤ bs.length) :
    ∃ w, Bytes.wordAt? bs off = some w :=
  Option.ne_none_iff_exists'.mp (mt (Bytes.wordAt?_eq_none_iff bs off).mp (by omega))

theorem idxOf?_append_zero {name : List UInt8} (rest : List UInt8) (h : 0 ∉ name) :
    (name ++ 0 :: rest).idxOf? 0 = some name.length := by
  induction name with
  | nil => simp [List.idxOf?_cons]
  | cons b name ih =>
    have hb : b ≠ 0 := fun hb => h (by simp [hb])
    have hname : 0 ∉ name := fun hm => h (by simp [hm])
    simp [List.idxOf?_cons, hb, ih hname]

/-- The first NUL splits a byte string into a NUL-free part and the rest. -/
theorem split_of_idxOf? {tail : List UInt8} {n : Nat} (h : tail.idxOf? 0 = some n) :
    tail = tail.take n ++ 0 :: tail.drop (n + 1) ∧ 0 ∉ tail.take n := by
  obtain ⟨hn, hnul, hbefore⟩ := List.idxOf?_eq_some_iff.mp h
  constructor
  · conv_lhs => rw [← List.take_append_drop n tail]
    rw [List.drop_eq_getElem_cons hn, hnul]
  · intro hmem
    obtain ⟨j, hj, hjz⟩ := List.getElem_of_mem hmem
    rw [List.length_take] at hj
    exact hbefore j (by omega) (by rw [← hjz, List.getElem_take])

/-- A name is read exactly when a string stands at its offset. -/
theorem nameAt_eq_ok_iff {bs : List UInt8} {i off : Nat} {s : String} :
    nameAt bs i off = .ok s ↔ CStringAt bs off s := by
  unfold nameAt
  split
  · rename_i hout
    simp only [reduceCtorEq, false_iff]
    rintro ⟨name, rest, hdrop, -, -⟩
    have := congrArg List.length hdrop
    simp at this
    omega
  · dsimp only
    split
    · rename_i hnone
      simp only [reduceCtorEq, false_iff]
      rintro ⟨name, rest, hdrop, -, -⟩
      rw [hdrop, List.idxOf?_eq_none_iff] at hnone
      simp at hnone
    · rename_i n hn
      obtain ⟨hsplit, hfree⟩ := split_of_idxOf? hn
      constructor
      · intro hdec
        split at hdec
        · rename_i s' hs'
          cases hdec
          exact ⟨_, _, hsplit, hfree, hs'⟩
        · cases hdec
      · rintro ⟨name, rest, hdrop, hname, hdec⟩
        -- the first NUL of the tail ends `name`, so the bytes decoded are `name`
        have hlen : n = name.length := by
          rw [hdrop, idxOf?_append_zero rest hname] at hn
          exact (Option.some.inj hn).symm
        have htake : (bs.drop off).take n = name := by
          rw [hdrop, hlen, List.take_left']
          rfl
        rw [htake, hdec]

/-! ## Entries -/

/-- Where the fields of entry `i` of a table at `start` begin: after the
entry's stream word where the layout has one. -/
def fieldsAt (layout : SignatureLayout) (start i : Nat) : Nat :=
  if layout.hasStreamWord then start + i * layout.entryLen + 4 else start + i * layout.entryLen

theorem fieldsAt_add_le (layout : SignatureLayout) (start i : Nat) :
    fieldsAt layout start i + 24 ≤ start + (i + 1) * layout.entryLen := by
  cases layout <;> simp [fieldsAt, SignatureLayout.hasStreamWord, SignatureLayout.entryLen] <;>
    rw [Nat.add_mul] <;> omega

/-- Entry `e` is what a table at `start..stop` holds at position `i`: the name
offset (outside the table, a string there), then the semantic index, system
value, component type and register words, then the packed mask word, whose
low byte is the mask, second byte the read-write mask and, in the basic
layout, third byte the stream; the stream layouts lead with the stream word. -/
structure Holds (layout : SignatureLayout) (bs : List UInt8) (start stop i : Nat)
    (e : SignatureEntry) : Prop where
  name : ∃ off : UInt32, Bytes.wordAt? bs (fieldsAt layout start i) = some off ∧
    (off.toNat < start ∨ stop ≤ off.toNat) ∧ CStringAt bs off.toNat e.semanticName
  semanticIndex : Bytes.wordAt? bs (fieldsAt layout start i + 4) = some e.semanticIndex
  systemValue : Bytes.wordAt? bs (fieldsAt layout start i + 8) = some e.systemValue
  componentType : Bytes.wordAt? bs (fieldsAt layout start i + 12) = some e.componentType
  register : Bytes.wordAt? bs (fieldsAt layout start i + 16) = some e.register
  packed : ∃ w, Bytes.wordAt? bs (fieldsAt layout start i + 20) = some w ∧
    e.mask = (w &&& 0xff).toUInt8 ∧ e.readWriteMask = ((w >>> 8) &&& 0xff).toUInt8 ∧
    (layout.hasStreamWord = false → e.stream = (w >>> 16) &&& 0xff)
  stream : layout.hasStreamWord = true →
    Bytes.wordAt? bs (start + i * layout.entryLen) = some e.stream

/-- The word at `off`, zero where fewer than four bytes remain. Inside a table
that fits, every field of an entry is such a word. -/
def wordOr (bs : List UInt8) (off : Nat) : UInt32 := (Bytes.wordAt? bs off).getD 0

theorem wordAt?_eq_some_iff {bs : List UInt8} {off : Nat} {w : UInt32} (h : off + 4 ≤ bs.length) :
    Bytes.wordAt? bs off = some w ↔ wordOr bs off = w := by
  obtain ⟨v, hv⟩ := exists_wordAt? h
  simp [wordOr, hv]

theorem field_of_le {bs : List UInt8} {off : Nat} (name : String) (h : off + 4 ≤ bs.length) :
    field bs name off = .ok (wordOr bs off) := by
  obtain ⟨v, hv⟩ := exists_wordAt? h
  rw [field_of_wordAt? name hv]
  simp [wordOr, hv]

/-- Inside a table that fits, every field of entry `i` reads: the entry fails
only on its name. -/
theorem entryAt_of_fits {layout : SignatureLayout} {bs : List UInt8} {start stop i : Nat}
    (hfit : start + (i + 1) * layout.entryLen ≤ bs.length) :
    entryAt layout bs start stop i =
      if start ≤ (wordOr bs (fieldsAt layout start i)).toNat ∧
          (wordOr bs (fieldsAt layout start i)).toNat < stop then
        .error (.nameInTable i (wordOr bs (fieldsAt layout start i)).toNat)
      else (nameAt bs i (wordOr bs (fieldsAt layout start i)).toNat).map fun name =>
        { semanticName := name
          semanticIndex := wordOr bs (fieldsAt layout start i + 4)
          register := wordOr bs (fieldsAt layout start i + 16)
          systemValue := wordOr bs (fieldsAt layout start i + 8)
          componentType := wordOr bs (fieldsAt layout start i + 12)
          mask := (wordOr bs (fieldsAt layout start i + 20) &&& 0xff).toUInt8
          readWriteMask := ((wordOr bs (fieldsAt layout start i + 20) >>> 8) &&& 0xff).toUInt8
          stream := if layout.hasStreamWord then wordOr bs (start + i * layout.entryLen)
            else (wordOr bs (fieldsAt layout start i + 20) >>> 16) &&& 0xff } := by
  have hf := fieldsAt_add_le layout start i
  have hread : ∀ k name, k ≤ 20 →
      field bs name (fieldsAt layout start i + k) = .ok (wordOr bs (fieldsAt layout start i + k)) :=
    fun k name hk => field_of_le name (by omega)
  have hname := hread 0 "semantic_name_offset" (by omega)
  rw [Nat.add_zero] at hname
  unfold entryAt
  cases hs : layout.hasStreamWord
  · have hpos : fieldsAt layout start i = start + i * layout.entryLen := by simp [fieldsAt, hs]
    rw [← hpos]
    simp only [Bool.false_eq_true, ↓reduceIte, pure_bind, hname, hread 4 _ (by omega),
      hread 8 _ (by omega), hread 12 _ (by omega), hread 16 _ (by omega), hread 20 _ (by omega),
      ok_bind_eq]
    split <;> rfl
  · have hpos : fieldsAt layout start i = start + i * layout.entryLen + 4 := by simp [fieldsAt, hs]
    have hstream : field bs "stream" (start + i * layout.entryLen) =
        .ok (wordOr bs (start + i * layout.entryLen)) := field_of_le _ (by omega)
    simp only [↓reduceIte]
    rw [← hpos]
    simp only [hstream, hname, hread 4 _ (by omega),
      hread 8 _ (by omega), hread 12 _ (by omega), hread 16 _ (by omega), hread 20 _ (by omega),
      ok_bind_eq]
    split <;> rfl

theorem map_eq_ok_iff {ε α β : Type} {f : α → β} {x : Except ε α} {b : β} :
    x.map f = .ok b ↔ ∃ a, x = .ok a ∧ f a = b := by
  cases x <;> simp [Except.map]

/-- Inside a table that fits, entry `i` reads as `e` exactly when the table
holds `e` there. -/
theorem entryAt_eq_ok_iff {layout : SignatureLayout} {bs : List UInt8} {start stop i : Nat}
    {e : SignatureEntry} (hfit : start + (i + 1) * layout.entryLen ≤ bs.length) :
    entryAt layout bs start stop i = .ok e ↔ Holds layout bs start stop i e := by
  have hf := fieldsAt_add_le layout start i
  have hword : ∀ k, k ≤ 20 → ∀ w, Bytes.wordAt? bs (fieldsAt layout start i + k) = some w ↔
      wordOr bs (fieldsAt layout start i + k) = w :=
    fun k hk w => wordAt?_eq_some_iff (by omega)
  have hoff : ∀ w, Bytes.wordAt? bs (fieldsAt layout start i) = some w ↔
      wordOr bs (fieldsAt layout start i) = w :=
    fun w => wordAt?_eq_some_iff (by omega)
  have hbase : ∀ w, Bytes.wordAt? bs (start + i * layout.entryLen) = some w ↔
      wordOr bs (start + i * layout.entryLen) = w := by
    intro w
    apply wordAt?_eq_some_iff
    cases layout <;> simp [fieldsAt, SignatureLayout.hasStreamWord] at hf ⊢ <;> omega
  rw [entryAt_of_fits hfit]
  split
  · rename_i hin
    simp only [reduceCtorEq, false_iff]
    rintro ⟨⟨off, hw, hout, -⟩, -⟩
    rw [hoff] at hw
    subst hw
    omega
  · rename_i hout
    rw [map_eq_ok_iff]
    constructor
    · rintro ⟨name, hname, rfl⟩
      refine ⟨⟨_, (hoff _).mpr rfl, by omega, nameAt_eq_ok_iff.mp hname⟩, (hword 4 (by omega) _).mpr rfl,
        (hword 8 (by omega) _).mpr rfl, (hword 12 (by omega) _).mpr rfl, (hword 16 (by omega) _).mpr rfl,
        ⟨_, (hword 20 (by omega) _).mpr rfl, rfl, rfl, fun hs => by simp [hs]⟩, fun hs => ?_⟩
      simp only [hs, ↓reduceIte]
      exact (hbase _).mpr rfl
    · rintro ⟨⟨off, hw, -, hstr⟩, hidx, hsys, hcomp, hreg, ⟨packed, hp, hmask, hrw, hst⟩, hstream⟩
      rw [hoff] at hw
      subst hw
      refine ⟨e.semanticName, nameAt_eq_ok_iff.mpr hstr, ?_⟩
      rw [(hword 4 (by omega) _).mp hidx, (hword 8 (by omega) _).mp hsys,
        (hword 12 (by omega) _).mp hcomp, (hword 16 (by omega) _).mp hreg,
        (hword 20 (by omega) _).mp hp, ← hmask, ← hrw]
      -- the stream is the leading word or the packed word's third byte, as the layout says
      have hs : (if layout.hasStreamWord then wordOr bs (start + i * layout.entryLen)
          else (packed >>> 16) &&& 0xff) = e.stream := by
        cases h : layout.hasStreamWord
        · simp [hst h]
        · simp [(hbase _).mp (hstream h)]
      rw [hs]

theorem nameAt_ne_wordOutside (bs : List UInt8) (i off : Nat) (field : String) (o len : Nat) :
    nameAt bs i off ≠ .error (.wordOutside field o len) := by
  unfold nameAt
  split
  · simp
  · dsimp only
    split
    · simp
    · split <;> simp

/-- Inside a table that fits, reading an entry never reports a word outside the chunk. -/
theorem entryAt_ne_wordOutside {layout : SignatureLayout} {bs : List UInt8} {start stop i : Nat}
    (hfit : start + (i + 1) * layout.entryLen ≤ bs.length) (field : String) (o len : Nat) :
    entryAt layout bs start stop i ≠ .error (.wordOutside field o len) := by
  rw [entryAt_of_fits hfit]
  split
  · simp
  · intro h
    cases hn : nameAt bs i (wordOr bs (fieldsAt layout start i)).toNat with
    | ok name =>
      rw [hn] at h
      cases h
    | error err =>
      rw [hn] at h
      cases h
      exact nameAt_ne_wordOutside _ _ _ field o len hn

/-! ## Chunks -/

theorem parse_of_short {layout : SignatureLayout} {bs : List UInt8} (h : bs.length < 8) :
    parse layout bs = .error (.truncatedHeader bs.length) := by
  simp only [parse, h, ↓reduceIte]
  rfl

/-- Once the header can be read, a parse is the header's checks and then one
read per entry. -/
theorem parse_of_header {layout : SignatureLayout} {bs : List UInt8} (h : 8 ≤ bs.length) :
    parse layout bs =
      if (wordOr bs 0).toNat = 0 then .ok []
      else if (wordOr bs 4).toNat < 8 then .error (.tableInHeader (wordOr bs 4).toNat)
      else if bs.length < (wordOr bs 0).toNat * layout.entryLen + (wordOr bs 4).toNat then
        .error (.tableOutside (wordOr bs 4).toNat
          ((wordOr bs 0).toNat * layout.entryLen + (wordOr bs 4).toNat) bs.length)
      else (List.range (wordOr bs 0).toNat).mapM (entryAt layout bs (wordOr bs 4).toNat
          ((wordOr bs 0).toNat * layout.entryLen + (wordOr bs 4).toNat)) := by
  have hlen : ¬bs.length < 8 := by omega
  have hcount : field bs "param_count" 0 = .ok (wordOr bs 0) := field_of_le _ (by omega)
  have hstart : field bs "param_offset" 4 = .ok (wordOr bs 4) := field_of_le _ (by omega)
  simp only [parse, hlen, ↓reduceIte, hcount, hstart, ok_bind_eq, gt_iff_lt]
  split
  · rfl
  · split
    · rfl
    · split <;> rfl

/-- A table of `count` entries at `start`: past the header, inside the chunk,
and holding `es`, one entry per position. -/
structure Table (layout : SignatureLayout) (bs : List UInt8) (count start : Nat)
    (es : List SignatureEntry) : Prop where
  past_header : 8 ≤ start
  inside : start + count * layout.entryLen ≤ bs.length
  length_eq : es.length = count
  holds : ∀ i (h : i < es.length), Holds layout bs start (start + count * layout.entryLen) i es[i]

/-- Every entry of a table that fits lies inside the chunk. -/
theorem entry_fits {layout : SignatureLayout} {bs : List UInt8} {count start i : Nat}
    (hi : i < count) (hin : start + count * layout.entryLen ≤ bs.length) :
    start + (i + 1) * layout.entryLen ≤ bs.length := by
  have := Nat.mul_le_mul_right layout.entryLen (show i + 1 ≤ count from hi)
  omega

theorem parse_eq_ok_iff {layout : SignatureLayout} {bs : List UInt8} {es : List SignatureEntry} :
    parse layout bs = .ok es ↔
      ∃ count start : UInt32, Bytes.wordAt? bs 0 = some count ∧ Bytes.wordAt? bs 4 = some start ∧
        (count = 0 ∧ es = [] ∨ count ≠ 0 ∧ Table layout bs count.toNat start.toNat es) := by
  by_cases hshort : bs.length < 8
  · rw [parse_of_short hshort]
    simp only [reduceCtorEq, false_iff, not_exists, not_and]
    intro count start _ h4
    have := (Bytes.wordAt?_eq_none_iff bs 4).mpr (by omega)
    rw [this] at h4
    cases h4
  have h8 : 8 ≤ bs.length := by omega
  have h0 : Bytes.wordAt? bs 0 = some (wordOr bs 0) := (wordAt?_eq_some_iff (by omega)).mpr rfl
  have h4 : Bytes.wordAt? bs 4 = some (wordOr bs 4) := (wordAt?_eq_some_iff (by omega)).mpr rfl
  -- the header words are the count and the offset, so the existential is settled by them
  have hheader : ∀ P : UInt32 → UInt32 → Prop,
      (∃ count start : UInt32, Bytes.wordAt? bs 0 = some count ∧ Bytes.wordAt? bs 4 = some start ∧
        P count start) ↔ P (wordOr bs 0) (wordOr bs 4) := by
    intro P
    constructor
    · rintro ⟨count, start, hc, hs, hp⟩
      rw [h0, Option.some.injEq] at hc
      rw [h4, Option.some.injEq] at hs
      rw [hc, hs]
      exact hp
    · intro hp
      exact ⟨_, _, h0, h4, hp⟩
  rw [hheader, parse_of_header h8]
  generalize wordOr bs 0 = count
  generalize wordOr bs 4 = start
  have hzero : count = 0 ↔ count.toNat = 0 := by
    rw [← UInt32.toNat_inj]
    rfl
  split
  · rename_i hc
    have hc' : count = 0 := hzero.mpr hc
    simp only [Except.ok.injEq, hc', ne_eq, not_true_eq_false, false_and, or_false, true_and]
    exact eq_comm
  · rename_i hc
    have hc' : count ≠ 0 := fun h => hc (hzero.mp h)
    simp only [hc', false_and, ne_eq, not_false_eq_true, true_and, false_or]
    split
    · rename_i hstart
      simp only [reduceCtorEq, false_iff]
      intro ht
      exact absurd ht.past_header (by omega)
    · split
      · rename_i hout
        simp only [reduceCtorEq, false_iff]
        intro ht
        exact absurd ht.inside (by omega)
      · rename_i hin
        rw [mapM_range_eq_ok_iff, Nat.add_comm (count.toNat * _)]
        constructor
        · rintro ⟨hlen, hent⟩
          refine ⟨by omega, by omega, hlen, fun i hi => ?_⟩
          exact (entryAt_eq_ok_iff (entry_fits (hlen ▸ hi) (by omega))).mp (hent i hi)
        · intro ht
          refine ⟨ht.length_eq, fun i hi => ?_⟩
          exact (entryAt_eq_ok_iff (entry_fits (ht.length_eq ▸ hi) ht.inside)).mpr (ht.holds i hi)

/-- The header and table checks come before any entry is read, so a parse
never reports a word outside the chunk. -/
theorem parse_ne_wordOutside (layout : SignatureLayout) (bs : List UInt8) (field : String)
    (off len : Nat) : parse layout bs ≠ .error (.wordOutside field off len) := by
  by_cases hshort : bs.length < 8
  · rw [parse_of_short hshort]
    simp
  rw [parse_of_header (by omega)]
  split
  · simp
  · split
    · simp
    · split
      · simp
      · rename_i hin
        intro he
        obtain ⟨i, hi, hei⟩ := exists_of_mapM_eq_error he
        exact entryAt_ne_wordOutside (entry_fits (List.mem_range.mp hi) (by omega)) _ _ _ hei

/-- A signature chunk parses to `es` exactly when its header can be read and
either counts no entry, `es` then being empty, or describes a table past the
header and inside the chunk whose entries are `es`, each field the word the
layout places; and no parse reports a word outside the chunk. -/
theorem parse_decodes_table (layout : SignatureLayout) (bs : List UInt8) :
    (∀ es, parse layout bs = .ok es ↔
      ∃ count start : UInt32, Bytes.wordAt? bs 0 = some count ∧ Bytes.wordAt? bs 4 = some start ∧
        (count = 0 ∧ es = [] ∨ count ≠ 0 ∧ Table layout bs count.toNat start.toNat es)) ∧
    ∀ field off len, parse layout bs ≠ .error (.wordOutside field off len) :=
  ⟨fun _ => parse_eq_ok_iff, parse_ne_wordOutside layout bs⟩

end Signature

end ShaderRecovery
