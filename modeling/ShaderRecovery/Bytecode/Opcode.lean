/-!
# Opcodes of SM4/SM5 token programs

An instruction starts with an opcode token: the opcode in bits 0 to 10, the
saturate flag in bit 13, the test-non-zero flag in bit 18, the length in words
in bits 24 to 30 and an extension flag in bit 31. Only the opcodes decoded
here are named; all others are carried by number.
-/

namespace ShaderRecovery

namespace Opcode

def add : Nat := 0x00
def bitAnd : Nat := 0x01
def exitLoop : Nat := 0x02
def exitLoopIf : Nat := 0x03
def nextIteration : Nat := 0x07
def derivRtx : Nat := 0x0b
def derivRty : Nat := 0x0c
def discard : Nat := 0x0d
def div : Nat := 0x0e
def dp2 : Nat := 0x0f
def dp3 : Nat := 0x10
def dp4 : Nat := 0x11
def beginElse : Nat := 0x12
def endIf : Nat := 0x15
def endLoop : Nat := 0x16
def eq : Nat := 0x18
def exp : Nat := 0x19
def frc : Nat := 0x1a
def ftoi : Nat := 0x1b
def ftou : Nat := 0x1c
def ge : Nat := 0x1d
def iadd : Nat := 0x1e
def beginIf : Nat := 0x1f
def ieq : Nat := 0x20
def ige : Nat := 0x21
def ilt : Nat := 0x22
def imad : Nat := 0x23
def imax : Nat := 0x24
def imin : Nat := 0x25
def ine : Nat := 0x27
def ineg : Nat := 0x28
def ishl : Nat := 0x29
def ishr : Nat := 0x2a
def itof : Nat := 0x2b
def load : Nat := 0x2d
def log : Nat := 0x2f
def beginLoop : Nat := 0x30
def lt : Nat := 0x31
def mad : Nat := 0x32
def min : Nat := 0x33
def max : Nat := 0x34
def customData : Nat := 0x35
def mov : Nat := 0x36
def movc : Nat := 0x37
def mul : Nat := 0x38
def ne : Nat := 0x39
def nop : Nat := 0x3a
def bitNot : Nat := 0x3b
def bitOr : Nat := 0x3c
def ret : Nat := 0x3e
def roundNe : Nat := 0x40
def roundNi : Nat := 0x41
def roundPi : Nat := 0x42
def roundZ : Nat := 0x43
def rsq : Nat := 0x44
def sample : Nat := 0x45
def sampleLod : Nat := 0x48
def sampleBias : Nat := 0x4a
def sqrt : Nat := 0x4b
def sinCos : Nat := 0x4d
def ult : Nat := 0x4f
def uge : Nat := 0x50
def umax : Nat := 0x53
def umin : Nat := 0x54
def ushr : Nat := 0x55
def utof : Nat := 0x56
def bitXor : Nat := 0x57
def rcp : Nat := 0x81

def declResource : Nat := 0x58
def declConstantBuffer : Nat := 0x59
def declSampler : Nat := 0x5a
def declInputFirst : Nat := 0x5f
def declInputLast : Nat := 0x64
def declOutputFirst : Nat := 0x65
def declOutputLast : Nat := 0x67
def declTemps : Nat := 0x68
def declIndexableTemp : Nat := 0x69
def declGlobalFlags : Nat := 0x6a

/-- Opcodes that only declare state. -/
def isDeclaration (op : Nat) : Bool :=
  (0x58 ≤ op && op ≤ 0x6a) || (0x8f ≤ op && op ≤ 0xa2) || op == 0xce

/-- The opcode field of a token. -/
def ofToken (t : UInt32) : Nat := (t &&& 0x7ff).toNat

/-- The length field of an opcode token, in words. -/
def lengthOf (t : UInt32) : Nat := ((t >>> 24) &&& 0x7f).toNat

/-- Bit 31: another token extends this one. -/
def isExtended (t : UInt32) : Bool := t >>> 31 == 1

def saturates (t : UInt32) : Bool := (t >>> 13) &&& 1 == 1

def testsNonzero (t : UInt32) : Bool := (t >>> 18) &&& 1 == 1

end Opcode

end ShaderRecovery
