import ShaderRecovery.Asset.Error
import ShaderRecovery.Float.Text

/-!
# Material properties

A material property has a name, a description shown in the editor,
attributes, a kind and default values. Its ShaderLab line is

  `[attr] ... name ("description", Kind) = default`

where a colour or vector default is its four values in parentheses, a float or
range default its first value, a range kind also its bounds (the second and
third values), and a texture default its texture name followed by `{ }`.
Property kinds the format does not know are refused.
-/

namespace ShaderRecovery

/-- What a property holds. -/
inductive PropertyKind where
  | color
  | vector
  | float
  | range
  | texture
  | unsupported (raw : Int)
  deriving DecidableEq, Repr

namespace PropertyKind

def ofRaw : Int → PropertyKind
  | 0 => .color
  | 1 => .vector
  | 2 => .float
  | 3 => .range
  | 4 => .texture
  | n => .unsupported n

end PropertyKind

/-- The shape of a texture. -/
inductive TextureDimension where
  | unknown
  | none
  | any
  | tex2D
  | tex3D
  | cube
  | tex2DArray
  | cubeArray
  deriving DecidableEq, Repr

namespace TextureDimension

def ofRaw : Int → TextureDimension
  | 0 => .none
  | 1 => .any
  | 2 => .tex2D
  | 3 => .tex3D
  | 4 => .cube
  | 5 => .tex2DArray
  | 6 => .cubeArray
  | _ => .unknown

/-- The word of a texture property's kind; empty when the shape is not known. -/
def word : TextureDimension → String
  | .any => "any"
  | .tex2D => "2D"
  | .tex3D => "3D"
  | .cube => "Cube"
  | .tex2DArray => "2DArray"
  | .cubeArray => "CubeArray"
  | .unknown | .none => ""

end TextureDimension

/-- A material property. -/
structure Property where
  name : String
  description : String
  attributes : List String
  kind : PropertyKind
  flags : Nat
  /-- Colour and vector use all four values, a float the first, a range the
  value and its two bounds. -/
  defaults : List Binary32
  textureName : String
  textureDimension : TextureDimension
  deriving DecidableEq, Repr

namespace Property

/-- The `i`-th default value; missing values are zero. -/
def defaultAt (p : Property) (i : Nat) : String :=
  (p.defaults.getD i Binary32.zero).render FloatStyle.plain

/-- The ShaderLab line of a property, with its line feed. -/
def text (p : Property) : Except AssetError String := do
  let kindWord ← match p.kind with
    | .color => pure "Color"
    | .vector => pure "Vector"
    | .float => pure "Float"
    | .range => pure ("Range(" ++ p.defaultAt 1 ++ ", " ++ p.defaultAt 2 ++ ")")
    | .texture => pure p.textureDimension.word
    | .unsupported raw => throw (.unsupportedPropertyType raw)
  let value := match p.kind with
    | .color | .vector =>
      "(" ++ ",".intercalate ((List.range 4).map p.defaultAt) ++ ")"
    | .texture => "\"" ++ p.textureName ++ "\" \x7b \x7d"
    | _ => p.defaultAt 0
  let attrs := String.join (p.attributes.map fun a => "[" ++ a ++ "] ")
  return attrs ++ p.name ++ " (\"" ++ p.description ++ "\", " ++ kindWord ++ ") = " ++ value ++ "\n"

end Property

end ShaderRecovery
