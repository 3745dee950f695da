import ShaderRecovery.Dxbc.FourCC

/-!
# Faults of compiled shader containers

Each way a container, a signature chunk or a token program can be malformed
is one constructor, carrying the numbers its message reports. `message`
functions give the text; the grouping into header, offset, bounds, chunk,
program and missing-chunk faults is `ContainerError.category`.
-/

namespace ShaderRecovery

/-- Faults of a signature chunk. -/
inductive SignatureFault where
  | truncatedHeader (len : Nat)
  | wordOutside (field : String) (offset len : Nat)
  | tableInHeader (offset : Nat)
  | tableOutside (offset tableEnd len : Nat)
  | nameInTable (entry offset : Nat)
  | nameOutside (entry offset len : Nat)
  | nameUnterminated (entry offset : Nat)
  | nameNotUtf8 (entry offset : Nat)
  deriving DecidableEq, Repr

/-- Faults of a token program chunk. -/
inductive TokenFault where
  | missingChunk
  | misaligned (len : Nat)
  | tooShort (dwords : Nat)
  | declaredOutOfBounds (declared available : Nat)
  deriving DecidableEq, Repr

/-- Faults of a container and of what is read from it. -/
inductive ContainerError where
  | tooShort (len : Nat)
  | badMagic (magic : FourCC)
  | tooManyChunks (count : Nat)
  | totalSizeOutOfRange (totalSize len : Nat)
  | tableOverrun (tableEnd totalSize : Nat)
  | chunkOverlapsTable (index offset : Nat)
  | wordPastEnd (offset len : Nat)
  | chunkOverrun (index : Nat) (fourcc : FourCC) (len start totalSize : Nat)
  /-- A signature chunk that does not parse; the tag names the chunk it came
  from, `none` when the chunk was given on its own. -/
  | badSignature (fourcc : Option FourCC) (fault : SignatureFault)
  | badProgram (fault : TokenFault)
  | missingProgram
  deriving DecidableEq, Repr

namespace SignatureFault

def message : SignatureFault → String
  | truncatedHeader len =>
    s!"signature chunk is truncated: need 8 bytes for header, got {len}"
  | wordOutside field offset len =>
    s!"need 4 bytes for {field} at {offset}, but chunk length is {len}"
  | tableInHeader offset => s!"param_offset {offset} points into signature header"
  | tableOutside offset tableEnd len =>
    s!"signature table at {offset}..{tableEnd} is outside chunk length {len}"
  | nameInTable entry offset =>
    s!"entry {entry} semantic name offset {offset} points into the entry table"
  | nameOutside entry offset len =>
    s!"entry {entry} semantic_name: offset {offset} is outside chunk length {len}"
  | nameUnterminated entry offset =>
    s!"entry {entry} semantic_name: string at {offset} is not terminated"
  | nameNotUtf8 entry offset =>
    s!"entry {entry} semantic_name: string at {offset} is not valid UTF-8"

end SignatureFault

namespace TokenFault

def message : TokenFault → String
  | missingChunk => "DXBC is missing SHDR/SHEX shader chunk"
  | misaligned len => s!"shader bytecode length {len} is not a multiple of 4"
  | tooShort dwords => s!"shader bytecode too short ({dwords} dwords)"
  | declaredOutOfBounds declared available =>
    s!"shader bytecode declares {declared} dwords but only {available} provided"

end TokenFault

namespace ContainerError

/-- The six groups of container faults. -/
inductive Category where
  | malformedHeader
  | malformedOffsets
  | outOfBounds
  | invalidChunk
  | invalidProgram
  | missingChunk
  deriving DecidableEq, Repr

def category : ContainerError → Category
  | tooShort _ | badMagic _ => .malformedHeader
  | tooManyChunks _ | tableOverrun _ _ | chunkOverlapsTable _ _ => .malformedOffsets
  | totalSizeOutOfRange _ _ | wordPastEnd _ _ | chunkOverrun .. => .outOfBounds
  | badSignature _ _ => .invalidChunk
  | badProgram _ => .invalidProgram
  | missingProgram => .missingChunk

/-- The detail after the group's prefix. -/
def detail : ContainerError → String
  | tooShort len => s!"need at least 32 bytes, got {len}"
  | badMagic magic => s!"bad magic FourCC(\"{magic}\")"
  | tooManyChunks count => s!"{count} chunks exceeds the limit of 4096"
  | totalSizeOutOfRange totalSize len => s!"total_size {totalSize} outside 32..={len}"
  | tableOverrun tableEnd totalSize =>
    s!"chunk table ends at {tableEnd}, past total_size {totalSize}"
  | chunkOverlapsTable index offset => s!"chunk {index} at {offset} overlaps the header"
  | wordPastEnd offset len => s!"word at {offset} past end of {len}-byte container"
  | chunkOverrun index fourcc len start totalSize =>
    s!"chunk {index} ({fourcc}) of {len} bytes at {start} exceeds total_size {totalSize}"
  | badSignature (some fourcc) fault => toString fourcc ++ " signature: " ++ fault.message
  | badSignature none fault => fault.message
  | badProgram fault => fault.message
  | missingProgram => "SHDR/SHEX"

def message (e : ContainerError) : String :=
  match e.category with
  | .malformedHeader => "malformed DXBC header: " ++ e.detail
  | .malformedOffsets => "malformed DXBC offsets: " ++ e.detail
  | .outOfBounds => "DXBC data out of bounds: " ++ e.detail
  | .invalidChunk => "invalid DXBC chunk: " ++ e.detail
  | .invalidProgram => "invalid shader program: " ++ e.detail
  | .missingChunk => "missing " ++ e.detail ++ " chunk"

end ContainerError

end ShaderRecovery
