/-!
# Colour write masks

A colour write mask is a byte of channel bits: alpha 1, red 2, green 4,
blue 8. Higher bits mean nothing and are dropped. Its text lists the channels
it writes in the order red, green, blue, alpha.

Principal result: `letters_length` (the text has one letter per channel bit
set).
-/

namespace ShaderRecovery

/-- The channels a render target writes. -/
structure ColorMask where
  bits : UInt8
  deriving DecidableEq, Repr

namespace ColorMask

/-- Keeps the four channel bits of a byte. -/
def ofByte (b : UInt8) : ColorMask := ⟨b &&& 0x0f⟩

/-- Channels with their bits, in written order. -/
def channels : List (UInt8 × Char) := [(2, 'R'), (4, 'G'), (8, 'B'), (1, 'A')]

def writes (m : ColorMask) (bit : UInt8) : Bool := m.bits &&& bit != 0

/-- The letters of the channels written, in the order `RGBA`. -/
def letters (m : ColorMask) : String :=
  String.ofList ((channels.filter fun c => m.writes c.1).map (·.2))

theorem letters_length (m : ColorMask) :
    m.letters.length = (channels.filter fun c => m.writes c.1).length := by
  simp [letters]

example : (ofByte 0xD).letters = "GBA" := by decide +kernel
example : (ofByte 0xFF).letters = "RGBA" := by decide +kernel

end ColorMask

end ShaderRecovery
