import Mathlib
import ShaderRecovery.Asset.SubProgram
import ShaderRecovery.Proofs.Reads
import ShaderRecovery.Proofs.Utf8Bytes

/-!
# The sub-program record format, read back

A sub-program record is written as a chain of words and padded fields whose
presence depends on the version. This module states the layout as a writer
over record images and proves that the reader takes every such record back:

* `NumericImage`, `StructImage`, `GroupImage`, `BindingImage`, `RecordImage` — what a
  writer puts in a record: signed words as `Int32`, strings as Lean strings (so
  always well-formed UTF-8), code as bytes, bind channels as pairs of unsigned
  words, and binding records of the five kinds `0` to `4`.
* `…Image.encode` — the layout: each string a length-prefixed field padded with
  zeros to four bytes, each list a count word and its elements; a record has
  the version, the program type and twelve reserved bytes, four more from
  version 201608170 on, the keywords, the local keywords for versions in
  `[201806140, 202012090)`, the code as a padded field, the bind channels and
  the parameter table. The version that decides is the stored one, clamped to
  201806140 for assets flagged as holding updated programs.
* `…Image.decoded` — what the record means, stated on the image: vectors and
  matrices of a group in their order, member names prefixed by their
  structure's name, group 0 as the loose globals, binding records filed by
  kind, dimensions and byte fields truncated to their low byte, the sampler
  bind point taken from the bits above it (`-1` for all ones), and the map of
  bind sources as the seed with bit `source mod 32` set for every channel.
* `…Image.Fits` — every length and count fits the signed word that stores it.

Principal result: `read_encode` — at a position that is a multiple of four,
whatever bytes surround it, reading a record that fits gives exactly its
meaning and stops at its last byte.
-/

namespace ShaderRecovery

open ByteReader

namespace Layout

/-- A signed word. -/
def word (v : Int32) : List UInt8 := Bytes.ofWord v.toUInt32

/-- The UTF-8 bytes of a string. -/
def utf8 (s : String) : List UInt8 := s.toUTF8.data.toList

/-- A string as a padded field. -/
def text (s : String) : List UInt8 := field (utf8 s)

/-- A counted list of strings. -/
def texts (ks : List String) : List UInt8 := countWord ks.length ++ ks.flatMap text

/-- Reserved bytes, written as zeros. -/
def zeros (n : Nat) : List UInt8 := List.replicate n 0

/-- A string whose byte length fits a signed word. -/
def TextFits (s : String) : Prop := s.utf8ByteSize < 2 ^ 31

theorem utf8_length (s : String) : (utf8 s).length = s.utf8ByteSize := by
  simp [utf8, String.size_toByteArray]

@[simp] theorem word_length (v : Int32) : (word v).length = 4 := rfl

@[simp] theorem text_length_mod (s : String) : (text s).length % 4 = 0 := field_length_mod _

@[simp] theorem texts_length_mod (ks : List String) : (texts ks).length % 4 = 0 := by
  have := flatMap_length_mod fun k (_ : k ∈ ks) => text_length_mod k
  simp only [texts, List.length_append, countWord_length]
  omega

end Layout

open Layout

/-- A numeric parameter as written: name, scalar type, rows, columns, the
matrix flag as `0` or `1`, array size and byte offset. -/
structure NumericImage where
  name : String
  scalar : Int32
  rows : Int32
  columns : Int32
  matrix : Bool
  arraySize : Int32
  index : Int32
  deriving DecidableEq, Repr

namespace NumericImage

def encode (p : NumericImage) : List UInt8 :=
  text p.name ++ (word p.scalar ++ (word p.rows ++ (word p.columns ++
    (word (if p.matrix then 1 else 0) ++ (word p.arraySize ++ word p.index)))))

/-- The parameter, named inside `owner` when it belongs to a structure. A
vector keeps its dimension, the column count, as its row count. -/
def decoded (owner : Option String) (p : NumericImage) : NumericParam :=
  let name := match owner with
    | some s => s ++ "." ++ p.name
    | none => p.name
  if p.matrix then
    ⟨name, .matrix, ScalarType.ofRaw p.scalar.toInt, p.index.toInt, p.arraySize.toInt,
      p.rows.toUInt32.toUInt8.toNat, p.columns.toUInt32.toUInt8.toNat⟩
  else
    ⟨name, .vector, ScalarType.ofRaw p.scalar.toInt, p.index.toInt, p.arraySize.toInt,
      p.columns.toUInt32.toUInt8.toNat, 1⟩

def Fits (p : NumericImage) : Prop := TextFits p.name

/-- The vectors of a list of parameters, in order. -/
def vectors (owner : Option String) (ps : List NumericImage) : List NumericParam :=
  (ps.filter (!·.matrix)).map (decoded owner)

/-- The matrices of a list of parameters, in order. -/
def matrices (owner : Option String) (ps : List NumericImage) : List NumericParam :=
  (ps.filter (·.matrix)).map (decoded owner)

end NumericImage

/-- A structure parameter as written: its members follow its header. -/
structure StructImage where
  name : String
  index : Int32
  arraySize : Int32
  size : Int32
  members : List NumericImage
  deriving DecidableEq, Repr

namespace StructImage

def encode (s : StructImage) : List UInt8 :=
  text s.name ++ (word s.index ++ (word s.arraySize ++ (word s.size ++
    (countWord s.members.length ++ s.members.flatMap NumericImage.encode))))

def decoded (s : StructImage) : StructParam :=
  ⟨s.name, s.index.toInt, s.arraySize.toInt, s.size.toInt, NumericImage.vectors (some s.name) s.members,
    NumericImage.matrices (some s.name) s.members⟩

def Fits (s : StructImage) : Prop :=
  TextFits s.name ∧ s.members.length < 2 ^ 31 ∧ ∀ p ∈ s.members, p.Fits

end StructImage

/-- A group of parameters as written: name, size, numeric parameters, then
structures. -/
structure GroupImage where
  name : String
  size : Int32
  params : List NumericImage
  structs : List StructImage
  deriving DecidableEq, Repr

namespace GroupImage

def encode (g : GroupImage) : List UInt8 :=
  text g.name ++ (word g.size ++ (countWord g.params.length ++ (g.params.flatMap NumericImage.encode ++
    (countWord g.structs.length ++ g.structs.flatMap StructImage.encode))))

def decoded (g : GroupImage) : ParamGroup :=
  ⟨g.name, g.size.toInt, NumericImage.vectors none g.params, NumericImage.matrices none g.params,
    g.structs.map StructImage.decoded⟩

def Fits (g : GroupImage) : Prop :=
  TextFits g.name ∧ g.params.length < 2 ^ 31 ∧ (∀ p ∈ g.params, p.Fits) ∧
    g.structs.length < 2 ^ 31 ∧ ∀ s ∈ g.structs, s.Fits

end GroupImage

/-- A binding record as written: name, kind, bind point and an extra word; a
texture (kind `0`) has one more word, its multisample flag. -/
structure BindingImage where
  name : String
  kind : Fin 5
  index : Int32
  extra : Int32
  multisample : UInt32
  deriving DecidableEq, Repr

namespace BindingImage

def encode (b : BindingImage) : List UInt8 :=
  text b.name ++ (word (Int32.ofNat b.kind.val) ++ (word b.index ++ (word b.extra ++
    (if b.kind = 0 then Bytes.ofWord b.multisample else []))))

/-- The sampler bind point of a texture: the bits above the low byte, `-1`
when they are all ones. -/
def samplerIndex (extra : Int32) : Int :=
  if extra >>> 8 = 0xFFFFFF then -1 else (extra >>> 8).toInt

def texture? (b : BindingImage) : Option TextureParam :=
  if b.kind = 0 then
    some ⟨b.name, b.index.toInt, b.extra.toUInt32.toUInt8.toNat, samplerIndex b.extra, b.multisample == 1⟩
  else none

def bindPoint? (b : BindingImage) : Option BufferBinding :=
  if b.kind = 1 then some ⟨b.name, b.index.toInt⟩ else none

def buffer? (b : BindingImage) : Option BufferBinding :=
  if b.kind = 2 then some ⟨b.name, b.index.toInt⟩ else none

def uav? (b : BindingImage) : Option UavParam :=
  if b.kind = 3 then some ⟨b.name, b.index.toInt, b.extra.toInt⟩ else none

def sampler? (b : BindingImage) : Option SamplerParam :=
  if b.kind = 4 then some ⟨b.extra.toUInt32.toNat, b.index.toInt⟩ else none

def Fits (b : BindingImage) : Prop := TextFits b.name

end BindingImage

/-- A sub-program record as written. -/
structure RecordImage where
  version : Int32
  programType : Int32
  keywords : List String
  localKeywords : List String
  code : List UInt8
  /-- The map of bind sources before the channels are added. -/
  seed : Int32
  /-- Source and target of every bind channel. -/
  channels : List (UInt32 × UInt32)
  groups : List GroupImage
  bindings : List BindingImage
  deriving DecidableEq, Repr

namespace RecordImage

variable (updated : Bool) (r : RecordImage)

/-- The version the layout follows: clamped for updated programs. -/
def layoutVersion : Int :=
  if updated ∧ 201806140 < r.version.toInt then 201806140 else r.version.toInt

/-- Whether the record has local keywords. -/
def localStored : Prop := 201806140 ≤ r.layoutVersion updated ∧ r.layoutVersion updated < 202012090

instance : Decidable (r.localStored updated) := inferInstanceAs (Decidable (_ ∧ _))

/-- The seed, the channel count and each channel as two words. -/
def channelBytes : List UInt8 :=
  word r.seed ++ (countWord r.channels.length ++
    r.channels.flatMap fun c => Bytes.ofWord c.1 ++ Bytes.ofWord c.2)

def tableBytes : List UInt8 :=
  countWord r.groups.length ++ (r.groups.flatMap GroupImage.encode ++
    (countWord r.bindings.length ++ r.bindings.flatMap BindingImage.encode))

def encode : List UInt8 :=
  word r.version ++ (word r.programType ++ (zeros 12 ++
    ((if 201608170 ≤ r.layoutVersion updated then zeros 4 else []) ++ (texts r.keywords ++
    ((if r.localStored updated then texts r.localKeywords else []) ++ (field r.code ++
    (r.channelBytes ++ r.tableBytes)))))))

/-- The parameter table: group 0 holds the loose globals, the later groups are
the named buffers, and the binding records are filed by kind, in order. -/
def table : ParameterTable where
  vectors := match r.groups with
    | g :: _ => g.decoded.vectors
    | [] => []
  matrices := match r.groups with
    | g :: _ => g.decoded.matrices
    | [] => []
  structs := match r.groups with
    | g :: _ => g.decoded.structs
    | [] => []
  constantBuffers := (r.groups.drop 1).map GroupImage.decoded
  textures := r.bindings.filterMap BindingImage.texture?
  bufferBindings := r.bindings.filterMap BindingImage.bindPoint?
  buffers := r.bindings.filterMap BindingImage.buffer?
  uavs := r.bindings.filterMap BindingImage.uav?
  samplers := r.bindings.filterMap BindingImage.sampler?

/-- The bind channels, and the map of sources: the seed with bit `source mod 32`
set for every channel, as a signed word. -/
def bindChannels : BindChannels :=
  ⟨r.channels.map fun c => ⟨c.1.toNat, c.2.toNat⟩,
    (r.channels.foldl (fun (m : UInt32) c => m ||| (1 : UInt32) <<< c.1) r.seed.toUInt32).toInt32.toInt⟩

def decoded : SubProgram where
  version := r.layoutVersion updated
  programType := ProgramType.ofRaw r.programType.toInt
  keywords := r.keywords
  localKeywords := if r.localStored updated then some r.localKeywords else none
  code := r.code
  bindChannels := r.bindChannels
  parameters := r.table

def Fits : Prop :=
  r.keywords.length < 2 ^ 31 ∧ (∀ k ∈ r.keywords, TextFits k) ∧
    (r.localStored updated → r.localKeywords.length < 2 ^ 31 ∧ ∀ k ∈ r.localKeywords, TextFits k) ∧
    r.code.length < 2 ^ 31 ∧ r.channels.length < 2 ^ 31 ∧
    r.groups.length < 2 ^ 31 ∧ (∀ g ∈ r.groups, g.Fits) ∧
    r.bindings.length < 2 ^ 31 ∧ ∀ b ∈ r.bindings, b.Fits

end RecordImage

/-! ## Fields and parameters -/

theorem toInt_emod_byte (x : Int32) : (x.toInt % 256).toNat = x.toUInt32.toUInt8.toNat := by
  rw [← signed_toUInt32]
  exact signed_emod_byte _

theorem reads_text {s : String} (h : TextFits s) : Reads alignedString (text s) s := by
  have := Reads.alignedString (show (utf8 s).length < 2 ^ 31 by rw [utf8_length]; exact h)
  rwa [utf8, Utf8.decodeLossy_toUTF8] at this

theorem reads_texts {ks : List String} (hn : ks.length < 2 ^ 31) (h : ∀ k ∈ ks, TextFits k) :
    Reads SubProgram.readStrings (texts ks) ks := by
  have hs : Reads (count alignedString ks.length) (ks.flatMap text) (ks.map id) :=
    Reads.count (fun k hk => reads_text (h k hk)) (fun k _ => text_length_mod k)
  rw [List.map_id] at hs
  exact Reads.bind (Reads.len hn) (by simp) hs

namespace NumericImage

theorem isMatrix_decoded (owner : Option String) (p : NumericImage) :
    (p.decoded owner).isMatrix = p.matrix := by
  unfold decoded
  cases p.matrix <;> rfl

theorem encode_length_mod (p : NumericImage) : p.encode.length % 4 = 0 := by
  simp only [encode, List.length_append, word_length]
  have := text_length_mod p.name
  omega

theorem reads (owner : Option String) {p : NumericImage} (h : p.Fits) :
    Reads (ParameterTable.readNumeric owner) p.encode (p.decoded owner) := by
  unfold ParameterTable.readNumeric encode
  refine Reads.bind (reads_text h) (text_length_mod _) ?_
  refine Reads.bind (Reads.i32 _) (by simp) ?_
  refine Reads.bind (Reads.i32 _) (by simp) ?_
  refine Reads.bind (Reads.i32 _) (by simp) ?_
  refine Reads.bind (Reads.i32 _) (by simp) ?_
  refine Reads.bind (Reads.i32 _) (by simp) ?_
  refine Reads.map (Reads.i32 _) ?_
  -- the flag word is `1` exactly for matrices
  cases owner <;> cases hm : p.matrix <;> simp [decoded, hm, toInt_emod_byte]

theorem vectors_eq (owner : Option String) (ps : List NumericImage) :
    (ps.map (decoded owner)).filter (!·.isMatrix) = vectors owner ps := by
  rw [vectors, List.filter_map]
  congr 1
  exact List.filter_congr fun p _ => by simp [isMatrix_decoded]

theorem matrices_eq (owner : Option String) (ps : List NumericImage) :
    (ps.map (decoded owner)).filter (·.isMatrix) = matrices owner ps := by
  rw [matrices, List.filter_map]
  congr 1
  exact List.filter_congr fun p _ => by simp [isMatrix_decoded]

end NumericImage

theorem StructImage.encode_length_mod (s : StructImage) : s.encode.length % 4 = 0 := by
  have hm := flatMap_length_mod fun p (_ : p ∈ s.members) => NumericImage.encode_length_mod p
  have ht := text_length_mod s.name
  simp only [StructImage.encode, List.length_append, word_length, countWord_length]
  omega

theorem StructImage.reads {s : StructImage} (h : s.Fits) :
    Reads ParameterTable.readStruct s.encode s.decoded := by
  obtain ⟨hname, hn, hm⟩ := h
  unfold ParameterTable.readStruct StructImage.encode
  refine Reads.bind (reads_text hname) (text_length_mod _) ?_
  refine Reads.bind (Reads.i32 _) (by simp) ?_
  refine Reads.bind (Reads.i32 _) (by simp) ?_
  refine Reads.bind (Reads.i32 _) (by simp) ?_
  refine Reads.bind (Reads.len hn) (by simp) ?_
  refine Reads.map (Reads.count (fun p hp => NumericImage.reads _ (hm p hp))
    (fun p _ => NumericImage.encode_length_mod p)) ?_
  simp only [StructImage.decoded, NumericImage.vectors_eq, NumericImage.matrices_eq]

theorem GroupImage.encode_length_mod (g : GroupImage) : g.encode.length % 4 = 0 := by
  have hp := flatMap_length_mod fun p (_ : p ∈ g.params) => NumericImage.encode_length_mod p
  have hs := flatMap_length_mod fun s (_ : s ∈ g.structs) => StructImage.encode_length_mod s
  have ht := text_length_mod g.name
  simp only [GroupImage.encode, List.length_append, word_length, countWord_length]
  omega

theorem GroupImage.reads {g : GroupImage} (h : g.Fits) :
    Reads ParameterTable.readGroup g.encode g.decoded := by
  obtain ⟨hname, hnp, hp, hns, hs⟩ := h
  unfold ParameterTable.readGroup GroupImage.encode
  refine Reads.bind (reads_text hname) (text_length_mod _) ?_
  refine Reads.bind (Reads.i32 _) (by simp) ?_
  refine Reads.bind (Reads.len hnp) (by simp) ?_
  refine Reads.bind (Reads.count (fun p hp' => NumericImage.reads none (hp p hp'))
    (fun p _ => NumericImage.encode_length_mod p))
    (flatMap_length_mod fun p _ => NumericImage.encode_length_mod p) ?_
  refine Reads.bind (Reads.len hns) (by simp) ?_
  refine Reads.map (Reads.count (fun s hs' => StructImage.reads (hs s hs'))
    (fun s _ => StructImage.encode_length_mod s)) ?_
  simp only [GroupImage.decoded, NumericImage.vectors_eq, NumericImage.matrices_eq]

/-! ## Bindings, channels and the table -/

namespace BindingImage

/-- The record as the reader files it. -/
def filed (b : BindingImage) : Binding :=
  match b.kind with
  | 0 => .texture ⟨b.name, b.index.toInt, b.extra.toUInt32.toUInt8.toNat, samplerIndex b.extra,
      b.multisample == 1⟩
  | 1 => .bindPoint ⟨b.name, b.index.toInt⟩
  | 2 => .buffer ⟨b.name, b.index.toInt⟩
  | 3 => .uav ⟨b.name, b.index.toInt, b.extra.toInt⟩
  | 4 => .sampler ⟨b.extra.toUInt32.toNat, b.index.toInt⟩

theorem encode_length_mod (b : BindingImage) : b.encode.length % 4 = 0 := by
  have ht := text_length_mod b.name
  simp only [encode, List.length_append, word_length]
  split <;> simp only [Bytes.ofWord_length, List.length_nil] <;> omega

theorem samplerOf_toInt (x : Int32) : ParameterTable.samplerOf x.toInt = samplerIndex x := by
  have hc : x >>> 8 = 0xFFFFFF ↔ x.toInt / 256 = 0xFFFFFF := by
    rw [← Int32.toInt_inj, toInt_shiftRight_eight]
    rfl
  simp only [ParameterTable.samplerOf, samplerIndex, hc, toInt_shiftRight_eight]

theorem reads {b : BindingImage} (h : b.Fits) : Reads ParameterTable.readBinding b.encode b.filed := by
  unfold ParameterTable.readBinding encode
  refine Reads.bind (reads_text h) (text_length_mod _) ?_
  refine Reads.bind (Reads.i32 _) (by simp) ?_
  refine Reads.bind (Reads.i32 _) (by simp) ?_
  refine Reads.bind (Reads.i32 _) (by simp) ?_
  -- the kind word selects the branch; only a texture reads one more word
  rcases b with ⟨name, kind, index, extra, ms⟩
  match kind with
  | 0 =>
    simp only [show (Int32.ofNat ((0 : Fin 5) : Nat)).toInt = 0 from rfl, if_pos]
    exact Reads.map (Reads.u32 ms) (by simp [filed, toInt_emod_byte, samplerOf_toInt])
  | 1 =>
    simp only [show (Int32.ofNat ((1 : Fin 5) : Nat)).toInt = 1 from rfl]
    exact Reads.pure _
  | 2 =>
    simp only [show (Int32.ofNat ((2 : Fin 5) : Nat)).toInt = 2 from rfl]
    exact Reads.pure _
  | 3 =>
    simp only [show (Int32.ofNat ((3 : Fin 5) : Nat)).toInt = 3 from rfl]
    exact Reads.pure _
  | 4 =>
    simp only [show (Int32.ofNat ((4 : Fin 5) : Nat)).toInt = 4 from rfl]
    rw [← signed_toUInt32, signed_emod_word]
    exact Reads.pure _

end BindingImage

/-! ## Bind channels -/

theorem orSource_signed (u s : UInt32) :
    BindChannels.orSource (signed u) s.toNat = signed (u ||| 1 <<< s) := by
  have hs : (1 : UInt32) <<< s = UInt32.ofNat (2 ^ (s.toNat % 32)) := by
    apply UInt32.toNat_inj.mp
    rw [UInt32.toNat_shiftLeft, UInt32.toNat_ofNat', UInt32.toNat_one, Nat.one_shiftLeft]
  have hbit : 2 ^ (s.toNat % 32) < 2 ^ 32 := Nat.pow_lt_pow_right (by decide) (Nat.mod_lt _ (by decide))
  have hlt : u.toNat ||| 2 ^ (s.toNat % 32) < 2 ^ 32 := Nat.or_lt_two_pow u.toNat_lt hbit
  rw [BindChannels.orSource, signed_emod_word, Nat.pow_eq, hs]
  congr 1
  apply UInt32.toNat_inj.mp
  rw [UInt32.toNat_or, UInt32.toNat_ofNat', UInt32.toNat_ofNat', Nat.mod_eq_of_lt hlt,
    Nat.mod_eq_of_lt hbit]

/-- Setting source bits on the signed word is setting them on the unsigned one. -/
theorem foldl_orSource (cs : List (UInt32 × UInt32)) (u : UInt32) :
    (cs.map fun c => (⟨c.1.toNat, c.2.toNat⟩ : BindChannel)).foldl
        (fun m c => BindChannels.orSource m c.source) (signed u) =
      signed (cs.foldl (fun (m : UInt32) c => m ||| (1 : UInt32) <<< c.1) u) := by
  induction cs generalizing u with
  | nil => rfl
  | cons c cs ih => simp only [List.map_cons, List.foldl_cons, orSource_signed, ih]

namespace RecordImage

variable {updated : Bool} {r : RecordImage}

theorem reads_bindChannels (hn : r.channels.length < 2 ^ 31) :
    Reads BindChannels.read r.channelBytes r.bindChannels := by
  unfold BindChannels.read channelBytes
  refine Reads.bind (Reads.i32 _) (by simp) ?_
  refine Reads.bind (Reads.len hn) (by simp) ?_
  refine Reads.map (Reads.count (fun c _ => Reads.bind (Reads.u32 c.1) (by rw [Bytes.ofWord_length])
    (Reads.map (Reads.u32 c.2) rfl)) (fun c _ => by simp [Bytes.ofWord_length])) ?_
  rw [← signed_toUInt32, foldl_orSource, signed_eq_toInt32]
  rfl

/-! ## The parameter table -/

theorem ofParts_eq_table (r : RecordImage) :
    ParameterTable.ofParts (r.groups.map GroupImage.decoded) (r.bindings.map BindingImage.filed) =
      r.table := by
  -- group 0 holds the globals; every binding lands in the list of its kind
  unfold ParameterTable.ofParts table
  rcases r with ⟨_, _, _, _, _, _, _, groups, bindings⟩
  cases groups <;>
  · simp only [List.map_cons, List.map_nil, List.head?_cons, List.head?_nil,
      List.filterMap_map]
    congr 1 <;> congr 1 <;> funext b <;>
      rcases b with ⟨_, ⟨_ | _ | _ | _ | _ | k, hk⟩, _⟩ <;> first | rfl | omega

theorem reads_table (hg : r.groups.length < 2 ^ 31) (hgs : ∀ g ∈ r.groups, g.Fits)
    (hb : r.bindings.length < 2 ^ 31) (hbs : ∀ b ∈ r.bindings, b.Fits) :
    Reads ParameterTable.read r.tableBytes r.table := by
  unfold ParameterTable.read tableBytes
  refine Reads.bind (Reads.len hg) (by simp) ?_
  refine Reads.bind (Reads.count (fun g hg' => GroupImage.reads (hgs g hg'))
    (fun g _ => GroupImage.encode_length_mod g))
    (flatMap_length_mod fun g _ => GroupImage.encode_length_mod g) ?_
  refine Reads.bind (Reads.len hb) (by simp) ?_
  exact Reads.map (Reads.count (fun b hb' => BindingImage.reads (hbs b hb'))
    (fun b _ => BindingImage.encode_length_mod b)) (ofParts_eq_table r)

/-! ## The record -/

theorem effectiveVersion_eq : SubProgram.effectiveVersion updated r.version.toInt = r.layoutVersion updated := by
  unfold SubProgram.effectiveVersion layoutVersion SubProgram.versionClamp
  cases updated <;> simp

theorem channelBytes_length_mod (r : RecordImage) : r.channelBytes.length % 4 = 0 := by
  have := flatMap_length_mod fun c (_ : c ∈ r.channels) =>
    show (Bytes.ofWord c.1 ++ Bytes.ofWord c.2).length % 4 = 0 by simp [Bytes.ofWord_length]
  simp only [channelBytes, List.length_append, word_length, countWord_length]
  omega

theorem reads (h : r.Fits updated) :
    Reads (SubProgram.read updated) (r.encode updated) (r.decoded updated) := by
  obtain ⟨hk, hks, hl, hc, hch, hg, hgs, hb, hbs⟩ := h
  unfold SubProgram.read encode
  refine Reads.bind (Reads.i32 _) (by simp) ?_
  dsimp only
  rw [effectiveVersion_eq]
  refine Reads.bind (Reads.i32 _) (by simp) ?_
  refine Reads.bind (Reads.skip (by simp [zeros])) (by simp [zeros]) ?_
  -- the reserved word after the header, then the keyword lists
  refine Reads.optional Iff.rfl (Reads.skip (by simp [zeros])) (by simp [zeros]) ?_
  refine Reads.bind (reads_texts hk hks) (texts_length_mod _) ?_
  refine Reads.ite_bind (SubProgram.hasLocalKeywords_iff _)
    (fun hl' => Reads.fmap (reads_texts (hl hl').1 (hl hl').2)) (fun _ => Reads.pure none)
    (by split <;> simp) ?_
  refine Reads.byteVec_align hc ?_
  refine Reads.bind (reads_bindChannels hch) (channelBytes_length_mod r) ?_
  exact Reads.map (reads_table hg hgs hb hbs) rfl

end RecordImage

/-- A sub-program record laid out at any aligned position reads back as the
record it describes, and the cursor stops at its last byte. -/
theorem read_encode (updated : Bool) (r : RecordImage) (h : r.Fits updated) (pre rest : List UInt8)
    (hpre : pre.length % 4 = 0) :
    (SubProgram.read updated).run ⟨pre ++ r.encode updated ++ rest, pre.length⟩ =
      (.ok (r.decoded updated), ⟨pre ++ r.encode updated ++ rest, pre.length + (r.encode updated).length⟩) :=
  RecordImage.reads h pre rest hpre

/-- A record with a keyword, a texture and a bind channel, at the start of a buffer. -/
def sample : RecordImage :=
  ⟨201806141, 1, ["FOG"], ["LOCAL"], [1, 2, 3], 0, [(3, 1)], [⟨"$Globals", 16, [], []⟩],
    [⟨"_MainTex", 0, 0, -256, 0⟩]⟩

theorem read_encode_sample :
    sample.Fits true ∧
      (SubProgram.read true).run ⟨sample.encode true, 0⟩ =
        (.ok (sample.decoded true), ⟨sample.encode true, (sample.encode true).length⟩) := by
  have hfits : sample.Fits true := by
    refine ⟨by decide, ?_, ?_, by decide, by decide, by decide, ?_, by decide, ?_⟩ <;>
      simp [sample, TextFits, GroupImage.Fits, BindingImage.Fits, RecordImage.localStored,
        RecordImage.layoutVersion] <;> decide
  refine ⟨hfits, ?_⟩
  simpa using read_encode true sample hfits [] [] rfl

end ShaderRecovery
