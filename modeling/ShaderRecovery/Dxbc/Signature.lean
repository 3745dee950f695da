import ShaderRecovery.Dxbc.Container
import ShaderRecovery.Text.Utf8

/-!
# Signature chunks

A signature chunk maps the registers of a stage's inputs or outputs to
semantics. It starts with the entry count and the offset of the entry table;
each entry holds the offset of its semantic name (a NUL-terminated UTF-8
string elsewhere in the chunk), the semantic index, the system value, the
component type, the register and a packed mask word. Three entry layouts
exist: the basic 24-byte one, and 28- and 32-byte ones that put a stream word
first. The basic layout keeps the stream in the third byte of the mask word.

What a table decodes to, and when it is refused, is stated in
`Signature.parse_decodes_table`.
-/

namespace ShaderRecovery

/-- One input or output element of a stage. -/
structure SignatureEntry where
  semanticName : String
  semanticIndex : UInt32
  register : UInt32
  systemValue : UInt32
  componentType : UInt32
  mask : UInt8
  readWriteMask : UInt8
  stream : UInt32
  deriving DecidableEq, Repr, Inhabited

/-- Entry layouts of signature chunks. -/
inductive SignatureLayout where
  /-- 24-byte entries (`ISGN`, `OSGN`). -/
  | basic
  /-- 28-byte entries led by a stream word (`OSG5`). -/
  | stream
  /-- 32-byte entries led by a stream word, with a precision word (`ISG1`, `OSG1`). -/
  | streamPrecision
  deriving DecidableEq, Repr

namespace SignatureLayout

def entryLen : SignatureLayout → Nat
  | basic => 24
  | stream => 28
  | streamPrecision => 32

/-- The layout a chunk tag calls for. -/
def ofFourCC (f : FourCC) : SignatureLayout :=
  if f = FourCC.osg5 then stream
  else if f = FourCC.isg1 ∨ f = FourCC.osg1 then streamPrecision
  else basic

def hasStreamWord : SignatureLayout → Bool
  | basic => false
  | _ => true

end SignatureLayout

/-- Component type codes of signature entries. -/
def ComponentType.uint32 : UInt32 := 1
def ComponentType.sint32 : UInt32 := 2

namespace Signature

/-- A word of the chunk, or the fault naming the field read. -/
def field (bs : List UInt8) (name : String) (off : Nat) : Except SignatureFault UInt32 :=
  match Bytes.wordAt? bs off with
  | some w => .ok w
  | none => .error (.wordOutside name off bs.length)

/-- The NUL-terminated name at `off` of entry `i`. -/
def nameAt (bs : List UInt8) (i off : Nat) : Except SignatureFault String :=
  if off > bs.length then .error (.nameOutside i off bs.length)
  else
    let tail := bs.drop off
    match tail.idxOf? 0 with
    | none => .error (.nameUnterminated i off)
    | some n =>
      match Utf8.decode? (tail.take n) with
      | some s => .ok s
      | none => .error (.nameNotUtf8 i off)

/-- Entry `i` of a table that starts at `tableStart` and ends at `tableEnd`. -/
def entryAt (layout : SignatureLayout) (bs : List UInt8) (tableStart tableEnd i : Nat) :
    Except SignatureFault SignatureEntry := do
  let base := tableStart + i * layout.entryLen
  let leading ← if layout.hasStreamWord then some <$> field bs "stream" base else pure none
  let pos := if layout.hasStreamWord then base + 4 else base
  let nameOffset := (← field bs "semantic_name_offset" pos).toNat
  let semanticIndex ← field bs "semantic_index" (pos + 4)
  let systemValue ← field bs "system_value_type" (pos + 8)
  let componentType ← field bs "component_type" (pos + 12)
  let register ← field bs "register" (pos + 16)
  let packed ← field bs "mask" (pos + 20)
  if tableStart ≤ nameOffset ∧ nameOffset < tableEnd then throw (.nameInTable i nameOffset)
  let name ← nameAt bs i nameOffset
  return {
    semanticName := name
    semanticIndex, register, systemValue, componentType
    mask := (packed &&& 0xff).toUInt8
    readWriteMask := ((packed >>> 8) &&& 0xff).toUInt8
    stream := leading.getD ((packed >>> 16) &&& 0xff) }

/-- Parses a signature chunk payload with a given entry layout. -/
def parse (layout : SignatureLayout) (bs : List UInt8) :
    Except SignatureFault (List SignatureEntry) := do
  if bs.length < 8 then throw (.truncatedHeader bs.length)
  let count := (← field bs "param_count" 0).toNat
  let tableStart := (← field bs "param_offset" 4).toNat
  if count = 0 then return []
  if tableStart < 8 then throw (.tableInHeader tableStart)
  let tableEnd := count * layout.entryLen + tableStart
  if tableEnd > bs.length then throw (.tableOutside tableStart tableEnd bs.length)
  (List.range count).mapM (entryAt layout bs tableStart tableEnd)

end Signature

end ShaderRecovery
