import ShaderRecovery.Bytes.Word
import ShaderRecovery.Text.Hex

/-!
# Four-character codes

A chunk of a DXBC container is named by four bytes, read as one
little-endian word. Its text keeps printable ASCII and writes any other byte
as `\xNN`.
-/

namespace ShaderRecovery

/-- A four-byte chunk tag, kept as the little-endian word it is stored as. -/
structure FourCC where
  code : UInt32
  deriving DecidableEq, Repr, Inhabited

namespace FourCC

/-- The code of four ASCII characters. -/
def ofChars (a b c d : Char) : FourCC :=
  ⟨Bytes.word a.toNat.toUInt8 b.toNat.toUInt8 c.toNat.toUInt8 d.toNat.toUInt8⟩

def dxbc : FourCC := ofChars 'D' 'X' 'B' 'C'
def isgn : FourCC := ofChars 'I' 'S' 'G' 'N'
def isg1 : FourCC := ofChars 'I' 'S' 'G' '1'
def osgn : FourCC := ofChars 'O' 'S' 'G' 'N'
def osg1 : FourCC := ofChars 'O' 'S' 'G' '1'
def osg5 : FourCC := ofChars 'O' 'S' 'G' '5'
def shdr : FourCC := ofChars 'S' 'H' 'D' 'R'
def shex : FourCC := ofChars 'S' 'H' 'E' 'X'

/-- The four bytes in stored order. -/
def bytes (f : FourCC) : List UInt8 := Bytes.ofWord f.code

/-- Printable ASCII, space excluded. -/
def isGraphic (b : UInt8) : Bool := 0x21 ≤ b && b ≤ 0x7e

/-- Text of one byte: itself when printable, else `\x` and two hex digits. -/
def byteText (b : UInt8) : String :=
  if isGraphic b then String.singleton (Char.ofNat b.toNat)
  else "\\x" ++ NumText.hex 2 b.toNat

instance : ToString FourCC := ⟨fun f => String.join (f.bytes.map byteText)⟩

end FourCC

end ShaderRecovery
