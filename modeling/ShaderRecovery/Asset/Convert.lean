import ShaderRecovery.Asset.Shader

/-!
# Converting shader assets to text

A shader asset holds a script, the parsed form, and the compiled sub-programs
in a legacy blob or a segment table. Conversion writes a banner, then: for a
legacy blob, the script with each `GpuProgramIndex` filled in; for a segment
table, the ShaderLab text of the parsed form; otherwise the script itself.
Compiled programs are expanded with the LZ4 block decoder given.

Where the text layout reaches the converted text is stated in
`ShaderAsset.convert_layout`.
-/

namespace ShaderRecovery

/-- A shader object as stored in an asset. -/
structure ShaderAsset where
  source : ShaderSource
  script : List UInt8
  legacy : Option LegacyBlob
  segments : Option SegmentTable
  deriving DecidableEq, Repr

namespace ShaderAsset

/-- The banner above every converted shader. -/
def banner : String :=
  "//////////////////////////////////////////\n//\n// NOTE: This is *not* a valid shader file\n//\n" ++
    "///////////////////////////////////////////\n"

/-- The text of a shader asset; legacy scripts use the default layout. -/
def convert (decodeBlock : BlockDecoder) (a : ShaderAsset) (o : DecodeOptions) (layout : TextLayout) :
    Except AssetError String :=
  match a.legacy, a.segments with
  | some b, _ => do
    let p ← b.decode decodeBlock o
    return banner ++ (← p.legacyScript (Utf8.decodeLossy a.script))
  | none, some t => do
    let programs ← t.decodeSegmented decodeBlock o
    return banner ++ (← ProgramLibrary.shaderText ⟨t.platforms, programs, layout⟩ a.source)
  | none, none => .ok (banner ++ Utf8.decodeLossy a.script)

end ShaderAsset

end ShaderRecovery
