import ShaderRecovery.Dxbc.Program

/-!
# Compiler platforms and GPU program types

Each sub-program is compiled for a GPU program type, and a shader stores its
sub-programs per compiler platform. A platform runs a fixed set of program
types; platforms outside the table run none and are refused. Raw numbers that
name no platform or type are kept as they are.

Principal result: `ofRaw_raw` (the raw number of a decoded platform is the
number it came from).
-/

namespace ShaderRecovery

/-- A shader compiler platform. -/
inductive Platform where
  | gl
  | d3d9
  | xbox360
  | ps3
  | d3d11
  | gles20
  | naCl
  | flash
  | d3d11Level9
  | gles3Plus
  | psp2
  | ps4
  | xboxOne
  | psm
  | metal
  | openGLCore
  | n3ds
  | wiiU
  | vulkan
  | switch
  | xboxOneD3D12
  | gameCoreXboxOne
  | gameCoreScarlett
  | ps5
  | ps5Nggc
  | unknown (raw : Int)
  deriving DecidableEq, Repr

/-- A GPU program type. -/
inductive ProgramType where
  | unused
  | glLegacy
  | gles31Aep
  | gles31
  | gles3
  | gles
  | glCore32
  | glCore41
  | glCore43
  | dx9VertexSM20
  | dx9VertexSM30
  | dx9PixelSM20
  | dx9PixelSM30
  | dx10Level9Vertex
  | dx10Level9Pixel
  | dx11VertexSM40
  | dx11VertexSM50
  | dx11PixelSM40
  | dx11PixelSM50
  | dx11GeometrySM40
  | dx11GeometrySM50
  | dx11HullSM50
  | dx11DomainSM50
  | metalVS
  | metalFS
  | spirv
  | consoleVS
  | consoleFS
  | consoleHS
  | consoleDS
  | consoleGS
  | rayTracing
  | ps5Nggc
  | unknown (raw : Int)
  deriving DecidableEq, Repr

namespace Platform

/-- Known platforms with their raw numbers, in order. -/
def table : List (Platform × Int) :=
  [(.gl, 0),
   (.d3d9, 1),
   (.xbox360, 2),
   (.ps3, 3),
   (.d3d11, 4),
   (.gles20, 5),
   (.naCl, 6),
   (.flash, 7),
   (.d3d11Level9, 8),
   (.gles3Plus, 9),
   (.psp2, 10),
   (.ps4, 11),
   (.xboxOne, 12),
   (.psm, 13),
   (.metal, 14),
   (.openGLCore, 15),
   (.n3ds, 16),
   (.wiiU, 17),
   (.vulkan, 18),
   (.switch, 19),
   (.xboxOneD3D12, 20),
   (.gameCoreXboxOne, 21),
   (.gameCoreScarlett, 22),
   (.ps5, 23),
   (.ps5Nggc, 24)]

def ofRaw (raw : Int) : Platform :=
  ((table.find? (·.2 == raw)).map (·.1)).getD (.unknown raw)

def raw : Platform → Int
  | .gl => 0
  | .d3d9 => 1
  | .xbox360 => 2
  | .ps3 => 3
  | .d3d11 => 4
  | .gles20 => 5
  | .naCl => 6
  | .flash => 7
  | .d3d11Level9 => 8
  | .gles3Plus => 9
  | .psp2 => 10
  | .ps4 => 11
  | .xboxOne => 12
  | .psm => 13
  | .metal => 14
  | .openGLCore => 15
  | .n3ds => 16
  | .wiiU => 17
  | .vulkan => 18
  | .switch => 19
  | .xboxOneD3D12 => 20
  | .gameCoreXboxOne => 21
  | .gameCoreScarlett => 22
  | .ps5 => 23
  | .ps5Nggc => 24
  | .unknown n => n

/-- The platform's name; an unknown one is its number. -/
def name : Platform → String
  | .gl => "GL"
  | .d3d9 => "D3D9"
  | .xbox360 => "Xbox360"
  | .ps3 => "PS3"
  | .d3d11 => "D3D11"
  | .gles20 => "GLES20"
  | .naCl => "NaCl"
  | .flash => "Flash"
  | .d3d11Level9 => "D3D11_9x"
  | .gles3Plus => "GLES3Plus"
  | .psp2 => "PSP2"
  | .ps4 => "PS4"
  | .xboxOne => "XboxOne"
  | .psm => "PSM"
  | .metal => "Metal"
  | .openGLCore => "OpenGLCore"
  | .n3ds => "N3DS"
  | .wiiU => "WiiU"
  | .vulkan => "Vulkan"
  | .switch => "Switch"
  | .xboxOneD3D12 => "XboxOneD3D12"
  | .gameCoreXboxOne => "GameCoreXboxOne"
  | .gameCoreScarlett => "GameCoreScarlett"
  | .ps5 => "PS5"
  | .ps5Nggc => "PS5NGGC"
  | .unknown n => toString n

/-- The name, with an unknown platform written `Unknown(n)`. -/
def label : Platform → String
  | .unknown n => "Unknown(" ++ toString n ++ ")"
  | p => p.name

/-- Keyword in sub-program section labels. -/
def keyword : Platform → String
  | .gl => "openGL"
  | .d3d9 => "d3d9"
  | .xbox360 => "xbox360"
  | .ps3 => "ps3"
  | .d3d11 => "d3d11"
  | .gles20 => "gles"
  | .naCl => "glesdesktop"
  | .flash => "flash"
  | .d3d11Level9 => "d3d11_9x"
  | .gles3Plus => "gles3"
  | .psp2 => "psp2"
  | .ps4 => "ps4"
  | .xboxOne => "xboxone"
  | .psm => "psm"
  | .metal => "metal"
  | .openGLCore => "glcore"
  | .n3ds => "n3ds"
  | .wiiU => "wiiu"
  | .vulkan => "vulkan"
  | .switch => "switch"
  | .xboxOneD3D12 => "xboxone_d3d12"
  | .gameCoreXboxOne => "xboxone"
  | .gameCoreScarlett => "xbox_scarlett"
  | .ps5 => "ps5"
  | .ps5Nggc => "ps5_nggc"
  | .unknown _ => "unknown"

/-- The program types a platform runs; `none` for a platform outside the table. -/
def programTypes? : Platform → Option (List ProgramType)
  | .gl => some [.glLegacy]
  | .d3d9 => some [.dx9VertexSM20, .dx9VertexSM30, .dx9PixelSM20, .dx9PixelSM30]
  | .xbox360 => some [.consoleVS, .consoleFS, .consoleHS, .consoleDS, .consoleGS]
  | .ps3 => some [.consoleVS, .consoleFS, .consoleHS, .consoleDS, .consoleGS]
  | .psp2 => some [.consoleVS, .consoleFS, .consoleHS, .consoleDS, .consoleGS]
  | .ps4 => some [.consoleVS, .consoleFS, .consoleHS, .consoleDS, .consoleGS]
  | .xboxOne => some [.consoleVS, .consoleFS, .consoleHS, .consoleDS, .consoleGS]
  | .n3ds => some [.consoleVS, .consoleFS, .consoleHS, .consoleDS, .consoleGS]
  | .wiiU => some [.consoleVS, .consoleFS, .consoleHS, .consoleDS, .consoleGS]
  | .switch => some [.consoleVS, .consoleFS, .consoleHS, .consoleDS, .consoleGS]
  | .xboxOneD3D12 => some [.consoleVS, .consoleFS, .consoleHS, .consoleDS, .consoleGS]
  | .gameCoreXboxOne => some [.consoleVS, .consoleFS, .consoleHS, .consoleDS, .consoleGS]
  | .gameCoreScarlett => some [.consoleVS, .consoleFS, .consoleHS, .consoleDS, .consoleGS]
  | .ps5 => some [.consoleVS, .consoleFS, .consoleHS, .consoleDS, .consoleGS]
  | .ps5Nggc => some [.ps5Nggc]
  | .d3d11 => some [.dx11VertexSM40, .dx11VertexSM50, .dx11PixelSM40, .dx11PixelSM50, .dx11GeometrySM40, .dx11GeometrySM50, .dx11HullSM50, .dx11DomainSM50]
  | .gles20 => some [.gles]
  | .d3d11Level9 => some [.dx10Level9Vertex, .dx10Level9Pixel]
  | .gles3Plus => some [.gles31Aep, .gles31, .gles3]
  | .metal => some [.metalVS, .metalFS]
  | .openGLCore => some [.glCore32, .glCore41, .glCore43]
  | .vulkan => some [.spirv]
  | _ => none

theorem table_raw : ∀ e ∈ table, e.1.raw = e.2 := by decide

theorem ofRaw_raw (n : Int) : (ofRaw n).raw = n := by
  unfold ofRaw
  cases h : table.find? (·.2 == n) with
  | none => rfl
  | some e =>
    have hn := List.find?_some h
    have he := table_raw e (List.mem_of_find?_eq_some h)
    simp only [beq_iff_eq] at hn
    simp [he, hn]

end Platform

namespace ProgramType

def table : List (ProgramType × Int) :=
  [(.unused, 0),
   (.glLegacy, 1),
   (.gles31Aep, 2),
   (.gles31, 3),
   (.gles3, 4),
   (.gles, 5),
   (.glCore32, 6),
   (.glCore41, 7),
   (.glCore43, 8),
   (.dx9VertexSM20, 9),
   (.dx9VertexSM30, 10),
   (.dx9PixelSM20, 11),
   (.dx9PixelSM30, 12),
   (.dx10Level9Vertex, 13),
   (.dx10Level9Pixel, 14),
   (.dx11VertexSM40, 15),
   (.dx11VertexSM50, 16),
   (.dx11PixelSM40, 17),
   (.dx11PixelSM50, 18),
   (.dx11GeometrySM40, 19),
   (.dx11GeometrySM50, 20),
   (.dx11HullSM50, 21),
   (.dx11DomainSM50, 22),
   (.metalVS, 23),
   (.metalFS, 24),
   (.spirv, 25),
   (.consoleVS, 26),
   (.consoleFS, 27),
   (.consoleHS, 28),
   (.consoleDS, 29),
   (.consoleGS, 30),
   (.rayTracing, 31),
   (.ps5Nggc, 32)]

def ofRaw (raw : Int) : ProgramType :=
  ((table.find? (·.2 == raw)).map (·.1)).getD (.unknown raw)

def raw : ProgramType → Int
  | .unused => 0
  | .glLegacy => 1
  | .gles31Aep => 2
  | .gles31 => 3
  | .gles3 => 4
  | .gles => 5
  | .glCore32 => 6
  | .glCore41 => 7
  | .glCore43 => 8
  | .dx9VertexSM20 => 9
  | .dx9VertexSM30 => 10
  | .dx9PixelSM20 => 11
  | .dx9PixelSM30 => 12
  | .dx10Level9Vertex => 13
  | .dx10Level9Pixel => 14
  | .dx11VertexSM40 => 15
  | .dx11VertexSM50 => 16
  | .dx11PixelSM40 => 17
  | .dx11PixelSM50 => 18
  | .dx11GeometrySM40 => 19
  | .dx11GeometrySM50 => 20
  | .dx11HullSM50 => 21
  | .dx11DomainSM50 => 22
  | .metalVS => 23
  | .metalFS => 24
  | .spirv => 25
  | .consoleVS => 26
  | .consoleFS => 27
  | .consoleHS => 28
  | .consoleDS => 29
  | .consoleGS => 30
  | .rayTracing => 31
  | .ps5Nggc => 32
  | .unknown n => n

/-- The type's name; type 0 is `Unknown` and an unknown type is its number. -/
def name : ProgramType → String
  | .unused => "Unknown"
  | .glLegacy => "GLLegacy"
  | .gles31Aep => "GLES31AEP"
  | .gles31 => "GLES31"
  | .gles3 => "GLES3"
  | .gles => "GLES"
  | .glCore32 => "GLCore32"
  | .glCore41 => "GLCore41"
  | .glCore43 => "GLCore43"
  | .dx9VertexSM20 => "DX9VertexSM20"
  | .dx9VertexSM30 => "DX9VertexSM30"
  | .dx9PixelSM20 => "DX9PixelSM20"
  | .dx9PixelSM30 => "DX9PixelSM30"
  | .dx10Level9Vertex => "DX10Level9Vertex"
  | .dx10Level9Pixel => "DX10Level9Pixel"
  | .dx11VertexSM40 => "DX11VertexSM40"
  | .dx11VertexSM50 => "DX11VertexSM50"
  | .dx11PixelSM40 => "DX11PixelSM40"
  | .dx11PixelSM50 => "DX11PixelSM50"
  | .dx11GeometrySM40 => "DX11GeometrySM40"
  | .dx11GeometrySM50 => "DX11GeometrySM50"
  | .dx11HullSM50 => "DX11HullSM50"
  | .dx11DomainSM50 => "DX11DomainSM50"
  | .metalVS => "MetalVS"
  | .metalFS => "MetalFS"
  | .spirv => "SPIRV"
  | .consoleVS => "ConsoleVS"
  | .consoleFS => "ConsoleFS"
  | .consoleHS => "ConsoleHS"
  | .consoleDS => "ConsoleDS"
  | .consoleGS => "ConsoleGS"
  | .rayTracing => "RayTracing"
  | .ps5Nggc => "PS5NGGC"
  | .unknown n => toString n

/-- The stage DX10/DX11 vertex and pixel program types are decompiled as;
level-9 pixel code carries a pixel version token and is decoded as one. -/
def decompileStage? : ProgramType → Option Stage
  | .dx10Level9Vertex | .dx11VertexSM40 | .dx11VertexSM50 => some .vertex
  | .dx10Level9Pixel | .dx11PixelSM40 | .dx11PixelSM50 => some .pixel
  | _ => none

end ProgramType

namespace Platform

/-- Whether a platform runs a program type; `none` for a platform outside
the table. -/
def accepts? (p : Platform) (t : ProgramType) : Option Bool :=
  p.programTypes?.map (t ∈ ·)

end Platform

end ShaderRecovery
