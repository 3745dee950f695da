import ShaderRecovery.Dxbc.Signature

/-!
# Names in emitted HLSL

A vertex function reads `appdata_full v` and fills `v2f o`; a fragment
function reads `v2f inp` and fills `fout o`; temporaries are `tmp0`, `tmp1`,
…. A signature entry's field is named after its semantic: the common vertex
semantics have their usual field names, any other semantic is lower-cased.
Input fields add the semantic index when it is not zero; output fields always
add it, except for `SV_POSITION`.
-/

namespace ShaderRecovery

namespace Naming

def vertexInputStruct : String := "appdata_full"
def vertToFragStruct : String := "v2f"
def fragmentOutputStruct : String := "fout"
def vertexInputName : String := "v"
def fragmentInputName : String := "inp"
def outputName : String := "o"
def tempPrefix : String := "tmp"
def facingName : String := "facing"
def facingSemantic : String := "SV_IsFrontFace"

/-- ASCII lower case; other characters are kept. -/
def asciiLower (s : String) : String := s.map Char.toLower

/-- Field name of a semantic without its index. -/
def baseField (semantic : String) : String :=
  if semantic = "POSITION" then "vertex"
  else if semantic = "NORMAL" then "normal"
  else if semantic = "TANGENT" then "tangent"
  else if semantic = "COLOR" then "color"
  else if semantic = "TEXCOORD" then "texcoord"
  else if semantic = "SV_POSITION" then "position"
  else asciiLower semantic

/-- Field of an input entry: the index is added when non-zero. -/
def inputField (e : SignatureEntry) : String :=
  let base := baseField e.semanticName
  if e.semanticIndex > 0 then base ++ toString e.semanticIndex else base

/-- Field of an output entry: the index is always added, except for
`SV_POSITION`. -/
def outputField (e : SignatureEntry) : String :=
  let base := baseField e.semanticName
  if e.semanticName = "SV_POSITION" then base else base ++ toString e.semanticIndex

/-- Number of set bits of a byte. -/
def popCount (m : Nat) : Nat := ((List.range 8).filter fun i => m / Nat.pow 2 i % 2 = 1).length

/-- HLSL type of an entry: `int`, `uint` or `float`, with the component count
when the mask has more than one. -/
def typeName (e : SignatureEntry) : String :=
  let scalar :=
    if e.componentType = ComponentType.sint32 then "int"
    else if e.componentType = ComponentType.uint32 then "uint"
    else "float"
  let count := popCount e.mask.toNat
  if count > 1 then scalar ++ toString count else scalar

/-- Semantic with its index, such as `TEXCOORD1`. -/
def semanticWithIndex (e : SignatureEntry) : String := e.semanticName ++ toString e.semanticIndex

end Naming

end ShaderRecovery
