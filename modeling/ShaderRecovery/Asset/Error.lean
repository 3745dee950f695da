import ShaderRecovery.Asset.Platform
import ShaderRecovery.Compression.Lz4
import ShaderRecovery.Hlsl.Session
import ShaderRecovery.Text.Quoted

/-!
# Errors of shader assets

Reading a shader asset fails for want of bytes, for a decompressed size that
differs from the recorded one, for an LZ4 fault, for a parameter, property or
platform code that has no meaning, for a reference to a sub-program that was
not decoded, for a bytecode header past the code, for a program index that is
no number, or because decompiling the code failed.
-/

namespace ShaderRecovery

/-- Why reading or writing a shader asset failed. -/
inductive AssetError where
  /-- `needed` bytes were asked for where `available` remained. -/
  | truncated (needed available : Nat)
  | sizeMismatch (expected written : Nat)
  | lz4 (fault : Lz4Fault)
  | unsupportedParameterType (raw : Int)
  | unsupportedPlatform (p : Platform)
  | unsupportedPropertyType (raw : Int)
  | missingSubProgram (blob : Nat)
  | headerOutOfRange (offset len : Nat)
  | invalidProgramIndex (text : String)
  | decompile (e : DecompileError)
  deriving DecidableEq, Repr

namespace AssetError

def message : AssetError → String
  | truncated needed available =>
    s!"unexpected end of data: needed {needed} bytes, {available} available"
  | sizeMismatch expected written =>
    s!"decompressed size mismatch: wrote {written} bytes but expected {expected} bytes"
  | lz4 fault => "lz4 decompression failed: " ++ fault.message
  | unsupportedParameterType raw => s!"unsupported parameter type {raw}"
  | unsupportedPlatform p => "unsupported platform " ++ p.label
  | unsupportedPropertyType raw => s!"unsupported property type {raw}"
  | missingSubProgram blob => s!"no decoded sub-program at blob index {blob}"
  | headerOutOfRange offset len =>
    s!"bytecode header offset {offset} is past the end of {len} bytes"
  | invalidProgramIndex text => "invalid program index " ++ Quoted.quote text
  | decompile e => "decompilation failed: " ++ e.message

end AssetError

end ShaderRecovery
