import ShaderRecovery.Dxbc.Program

/-!
# Compiled shaders

What decompilation needs from a container: the input signature (`ISGN`, else
`ISG1`), the output signature (`OSGN`, else `OSG1`, else `OSG5`), each parsed
with the layout of the chunk found, and the token program. A stage without
inputs or outputs may leave its signature chunk out. Faults are reported in
the order container, input signature, output signature, program.

How the chunks of a container are chosen is stated in
`CompiledShader.parse_composes`.
-/

namespace ShaderRecovery

/-- Signatures and program of one compiled stage. -/
structure CompiledShader where
  inputs : List SignatureEntry
  outputs : List SignatureEntry
  program : TokenProgram
  deriving DecidableEq, Repr, Inhabited

namespace Container

/-- Tags searched, in order, for a signature of the given kind. -/
def signatureTags (kind : FourCC) : List FourCC :=
  if kind = FourCC.isgn then [FourCC.isgn, FourCC.isg1]
  else if kind = FourCC.osgn then [FourCC.osgn, FourCC.osg1, FourCC.osg5]
  else [kind]

/-- The signature of a kind, if the container has a chunk for it, parsed
with that chunk's layout. -/
def signature? (c : Container) (kind : FourCC) :
    Option (Except ContainerError (List SignatureEntry)) :=
  (c.findFirst? (signatureTags kind)).map fun chunk =>
    (Signature.parse (SignatureLayout.ofFourCC chunk.fourcc) chunk.data).mapError
      (.badSignature (some chunk.fourcc))

end Container

namespace CompiledShader

/-- Entries of an optional signature: none when the chunk is absent. -/
def entriesOf : Option (Except ContainerError (List SignatureEntry)) →
    Except ContainerError (List SignatureEntry)
  | none => .ok []
  | some r => r

/-- Reads a compiled stage from container bytes. -/
def parse (bytes : List UInt8) : Except ContainerError CompiledShader := do
  let c ← Container.parse bytes
  let inputs ← entriesOf (c.signature? FourCC.isgn)
  let outputs ← entriesOf (c.signature? FourCC.osgn)
  let program ← (TokenProgram.ofContainer c).mapError fun
    | .missingChunk => .missingProgram
    | f => .badProgram f
  return ⟨inputs, outputs, program⟩

end CompiledShader

end ShaderRecovery
