import Mathlib
import ShaderRecovery.Asset.Convert
import ShaderRecovery.Proofs.SubProgramLayout
import ShaderRecovery.Proofs.Checked

/-!
# Where conversion reads the text layout

Converting a shader asset takes a text layout: indentation width and the
depths of declarations and bodies in decompiled programs. Only the text of a
decompiled DX10/DX11 vertex or pixel program reads it. A segment table writes
each sub-program at the layout given; a legacy blob fills its script in with
the default layout, whatever layout is given.

* `SubProgram.text_layout_free` — a program that is not decompiled has one
  text at every layout.
* `ProgramLibrary.TextsAgree`, `ProgramLibrary.shaderText_layout` — the
  ShaderLab text of a library reads its layout only through the texts of its
  sub-programs.
* `ShaderAsset.convert_legacy_layout` — a legacy asset converts to one text at
  every layout.
* `ShaderAsset.convert_texts_agree` — a segmented asset converts alike at two
  layouts at which its programs have the same texts.

Principal results: `ShaderAsset.convert_layout` — whatever the LZ4 block
decoder, the layout never changes the text of a legacy asset, reaches a
segmented asset only through the texts of its programs, and changes no text
at all when no segment holds a decompiled program — and
`LegacyVertex.legacy_convert_ignores_layout`, the first part at work on a
legacy asset holding a vertex program: converted with indentation three, it
is filled in with the program's text at the default layout, which is not its
text at indentation three.
-/

namespace ShaderRecovery

namespace SubProgram

/-- Only decompiled programs read the layout. -/
theorem text_layout_free {sp : SubProgram} (h : sp.programType.decompileStage? = none)
    (l l' : TextLayout) : sp.text l = sp.text l' := by
  have hp : sp.programText l = sp.programText l' := by
    simp only [programText, h]
  simp only [text, hp]

end SubProgram

namespace ProgramLibrary

/-- Every sub-program the library can name has the same text at the
library's layout and at `l`. -/
def TextsAgree (lib : ProgramLibrary) (l : TextLayout) : Prop :=
  ∀ p ∈ lib.programs, ∀ i sp, p.subProgram? i = .ok sp → sp.text lib.layout = sp.text l

section Layout

variable {lib : ProgramLibrary} {l : TextLayout}

theorem sectionsText_layout (h : lib.TextsAgree l) (refs : List ProgramRef) :
    lib.sectionsText refs = { lib with layout := l }.sectionsText refs := by
  unfold sectionsText
  refine bind_congr_right fun sections => bind_congr_left (mapM_congr_of_mem fun s _ => ?_)
  dsimp only
  -- a section names a platform's index and a slot of it
  cases hp : lib.programs[s.platformIndex]? with
  | none =>
    dsimp only
    rw [throw_bind_eq, throw_bind_eq]
  | some p =>
    dsimp only
    have hmem : p ∈ lib.programs := List.mem_of_getElem? hp
    rw [pure_bind, pure_bind]
    cases hs : p.subProgram? s.ref.blob with
    | error e => rw [error_bind_eq, error_bind_eq]
    | ok sp => rw [ok_bind_eq, ok_bind_eq, h p hmem s.ref.blob sp hs]

theorem normalPassText_layout (h : lib.TextsAgree l) (state : RenderState) (b : ProgramBlocks) :
    lib.normalPassText state b = { lib with layout := l }.normalPassText state b := by
  unfold normalPassText
  refine bind_congr_left (mapM_congr_of_mem fun st _ => ?_)
  rw [sectionsText_layout h]

theorem passText_layout (h : lib.TextsAgree l) (pass : Pass) :
    lib.passText pass = { lib with layout := l }.passText pass := by
  cases pass with
  | use name => rfl
  | grab tex => rfl
  | normal state b =>
    simp only [passText]
    rw [normalPassText_layout h]

theorem subShaderText_layout (h : lib.TextsAgree l) (s : SubShader) :
    lib.subShaderText s = { lib with layout := l }.subShaderText s := by
  unfold subShaderText
  rw [mapM_congr_of_mem fun pass _ => passText_layout h pass]

/-- The ShaderLab text reads the layout only through the sub-program texts. -/
theorem shaderText_layout (h : lib.TextsAgree l) (src : ShaderSource) :
    lib.shaderText src = { lib with layout := l }.shaderText src := by
  unfold shaderText
  rw [mapM_congr_of_mem fun s _ => subShaderText_layout h s]

end Layout

end ProgramLibrary

namespace ShaderAsset

variable (decodeBlock : BlockDecoder)

/-- A legacy asset fills its script in at the default layout, whatever layout
it is converted with. -/
theorem convert_legacy_layout {a : ShaderAsset} {b : LegacyBlob} (hb : a.legacy = some b)
    (o : DecodeOptions) (l l' : TextLayout) : a.convert decodeBlock o l = a.convert decodeBlock o l' := by
  simp only [convert, hb]

/-- A segmented asset reads the layout only through the texts of the programs
its segments decode to. -/
theorem convert_texts_agree {a : ShaderAsset} {o : DecodeOptions} {l l' : TextLayout}
    (htexts : ∀ t progs, a.segments = some t → t.decodeSegmented decodeBlock o = .ok progs →
      ∀ p ∈ progs, ∀ i sp, p.subProgram? i = .ok sp → sp.text l = sp.text l') :
    a.convert decodeBlock o l = a.convert decodeBlock o l' := by
  cases hl : a.legacy with
  | some b => exact convert_legacy_layout decodeBlock hl o l l'
  | none =>
    cases ht : a.segments with
    | none => simp only [convert, hl, ht]
    | some t =>
      simp only [convert, hl, ht]
      cases hd : t.decodeSegmented decodeBlock o with
      | error e => rw [error_bind_eq, error_bind_eq]
      | ok progs =>
        rw [ok_bind_eq, ok_bind_eq]
        have hagree : ProgramLibrary.TextsAgree ⟨t.platforms, progs, l⟩ l' := htexts t progs ht hd
        rw [ProgramLibrary.shaderText_layout hagree]

/-- Whatever the LZ4 block decoder, the layout a shader is converted with never
changes the text of a legacy asset; a segmented asset takes it from the texts
of its programs alone, so without decompiled programs it converts to one text
at every layout. -/
theorem convert_layout (a : ShaderAsset) (o : DecodeOptions) (l l' : TextLayout) :
    (a.legacy.isSome → a.convert decodeBlock o l = a.convert decodeBlock o l') ∧
      ((∀ t progs, a.segments = some t → t.decodeSegmented decodeBlock o = .ok progs →
          ∀ p ∈ progs, ∀ i sp, p.subProgram? i = .ok sp → sp.text l = sp.text l') →
        a.convert decodeBlock o l = a.convert decodeBlock o l') ∧
      ((∀ t progs, a.segments = some t → t.decodeSegmented decodeBlock o = .ok progs →
          ∀ p ∈ progs, ∀ i sp, p.subProgram? i = .ok sp → sp.programType.decompileStage? = none) →
        a.convert decodeBlock o l = a.convert decodeBlock o l') := by
  refine ⟨fun hs => ?_, convert_texts_agree decodeBlock, fun hfree => ?_⟩
  · obtain ⟨b, hb⟩ := Option.isSome_iff_exists.mp hs
    exact convert_legacy_layout decodeBlock hb o l l'
  · -- a program that is not decompiled has one text at every layout
    refine convert_texts_agree decodeBlock fun t progs ht hd p hp i sp hsp => ?_
    exact SubProgram.text_layout_free (hfree t progs ht hd p hp i sp hsp) l l'

end ShaderAsset

/-! ## A legacy script with one program -/

namespace ProgramIndex

theorem substitute_nil (p : ProgramIndex) (layout : TextLayout) : p.substitute layout [] = .ok [] := by
  rw [substitute]
  rfl

/-- A script naming only program 0 is filled in with that program's text at
the default layout. -/
theorem legacyScript_single (p : ProgramIndex) :
    p.legacyScript "GpuProgramIndex 0" = (p.subProgram? 0 >>= fun sp => sp.text .default) := by
  have hsplit : splitAtMarker "GpuProgramIndex 0".toList = some ([], ['0']) := by decide
  unfold legacyScript
  rw [substitute]
  split
  · rename_i h
    rw [hsplit] at h
    cases h
  · rename_i before after h
    rw [hsplit] at h
    cases h
    have harg : List.takeWhile (fun x => decide (x ≠ '\n')) ['0'] = ['0'] := by decide
    have hparse : parseIndex? ['0'] = some 0 := by decide
    dsimp only
    simp only [harg, hparse, List.isEmpty_cons, Bool.false_eq_true, ↓reduceIte, pure_bind,
      List.length_singleton, List.drop_one, List.tail_cons, substitute_nil]
    -- what is left: the text of program 0, read back from its characters
    cases p.subProgram? 0 with
    | error e => rfl
    | ok sp =>
      rw [ok_bind_eq, ok_bind_eq]
      cases sp.text TextLayout.default with
      | error e => rfl
      | ok t =>
        rw [ok_bind_eq, ok_bind_eq, List.nil_append, List.append_nil]
        exact congrArg Except.ok String.ofList_toList

end ProgramIndex

/-! ## A legacy asset holding one vertex program -/

namespace LegacyVertex

open ByteReader Layout

/-- A DX11 container whose only chunk is the `SHDR` code of a vertex program
that returns at once. -/
def container : List UInt8 :=
  [0x44, 0x58, 0x42, 0x43] ++ List.replicate 16 0 ++ [1, 0, 0, 0] ++ [56, 0, 0, 0] ++ [1, 0, 0, 0] ++
    [36, 0, 0, 0] ++ [0x53, 0x48, 0x44, 0x52] ++ [12, 0, 0, 0] ++ [0x40, 0, 1, 0] ++ [3, 0, 0, 0] ++
    [0x3e, 0, 0, 1]

/-- A DX11 vertex sub-program record carrying `container`. -/
def record : RecordImage := ⟨201806140, 15, [], [], List.replicate 6 0 ++ container, 0, [], [], []⟩

def program : SubProgram := record.decoded false

/-- Bytes compressed as one LZ4 literal run. -/
def literalBlock (bs : List UInt8) : List UInt8 :=
  if bs.length < 15 then UInt8.ofNat (bs.length * 16) :: bs
  else 0xF0 :: (List.replicate ((bs.length - 15) / 255) 255 ++ [UInt8.ofNat ((bs.length - 15) % 255)] ++ bs)

/-- The legacy blob, uncompressed: one index entry at offset 16, then the record. -/
def blobBytes : List UInt8 :=
  countWord 1 ++ word 16 ++ word (Int32.ofNat (record.encode false).length) ++ word 0 ++ record.encode false

def blob : LegacyBlob := ⟨literalBlock blobBytes, blobBytes.length⟩

/-- An LZ4 block decoder as it acts on `blob`: the block is one run of
literals, which a decoder writes out as it stands. -/
def blobDecoder : BlockDecoder := fun block capacity =>
  if block = blob.data ∧ capacity = blob.size then .ok blobBytes else .error .expectedAnotherByte

/-- An asset whose script names program 0 of `blob`. -/
def asset : ShaderAsset := ⟨⟨"", [], [], none, none⟩, utf8 "GpuProgramIndex 0", some blob, none⟩

def index : ProgramIndex := ⟨[⟨16, 116, 0⟩], [some program], false⟩

theorem blob_decode : blob.decode blobDecoder .default = .ok index :=
  eq_ok_of_toOption (by decide +kernel)

theorem index_subProgram : index.subProgram? 0 = .ok program := rfl

/-- Converted with indentation three, the asset is filled in with its vertex
program's text at the default layout, which is not the program's text at
indentation three. -/
theorem legacy_convert_ignores_layout :
    asset.convert blobDecoder .default { TextLayout.default with indentWidth := 3 } =
        (ShaderAsset.banner ++ ·) <$> program.text .default ∧
      program.text { TextLayout.default with indentWidth := 3 } ≠ program.text .default := by
  constructor
  · have hlegacy : asset.legacy = some blob := rfl
    have hscript : Utf8.decodeLossy asset.script = "GpuProgramIndex 0" := Utf8.decodeLossy_toUTF8 _
    simp only [ShaderAsset.convert, hlegacy]
    rw [blob_decode, ok_bind_eq, hscript, ProgramIndex.legacyScript_single, index_subProgram, ok_bind_eq,
      bind_pure_comp]
  · intro h
    have hopt := congrArg Except.toOption h
    revert hopt
    decide +kernel

end LegacyVertex

end ShaderRecovery
