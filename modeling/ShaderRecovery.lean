import ShaderRecovery.Float.Binary32
import ShaderRecovery.Float.Shortest
import ShaderRecovery.Float.Text
import ShaderRecovery.Text.Utf8
import ShaderRecovery.Bytes.Word
import ShaderRecovery.Text.Hex
import ShaderRecovery.Dxbc.FourCC
import ShaderRecovery.Dxbc.Error
import ShaderRecovery.Dxbc.Container
import ShaderRecovery.Dxbc.Signature
import ShaderRecovery.Dxbc.Program
import ShaderRecovery.Dxbc.Compiled
import ShaderRecovery.Hlsl.Binding
import ShaderRecovery.Bytecode.Ir
import ShaderRecovery.Bytecode.Opcode
import ShaderRecovery.Bytecode.Operand
import ShaderRecovery.Bytecode.Instruction
import ShaderRecovery.Bytecode.Decode
import ShaderRecovery.Hlsl.Naming
import ShaderRecovery.Hlsl.Writer
import ShaderRecovery.Hlsl.Emit
import ShaderRecovery.Hlsl.Session
import ShaderRecovery.Compression.Lz4
import ShaderRecovery.Asset.Platform
import ShaderRecovery.Text.CodeRanges
import ShaderRecovery.Text.GraphemeExtend
import ShaderRecovery.Text.Printable
import ShaderRecovery.Text.Quoted
import ShaderRecovery.Asset.Error
import ShaderRecovery.Asset.Cursor
import ShaderRecovery.Text.Blank
import ShaderRecovery.Asset.EngineVersion
import ShaderRecovery.Asset.Keywords
import ShaderRecovery.Asset.ColorMask
import ShaderRecovery.Asset.Codec
import ShaderRecovery.Asset.Property
import ShaderRecovery.Asset.RenderState
import ShaderRecovery.Asset.Selection
import ShaderRecovery.Asset.Parameters
import ShaderRecovery.Asset.SubProgram
import ShaderRecovery.Asset.ProgramText
import ShaderRecovery.Asset.ProgramIndex
import ShaderRecovery.Asset.Blob
import ShaderRecovery.Asset.Shader
import ShaderRecovery.Asset.Convert
import ShaderRecovery.Asset.Dump
import ShaderRecovery.Main
import ShaderRecovery.Proofs.Reads
import ShaderRecovery.Proofs.Utf8Bytes
import ShaderRecovery.Proofs.SubProgramLayout
import ShaderRecovery.Proofs.InstructionChain
import ShaderRecovery.Proofs.WellFormedIr
import ShaderRecovery.Proofs.EmitBounds
import ShaderRecovery.Proofs.Checked
import ShaderRecovery.Proofs.ConvertLayout
import ShaderRecovery.Proofs.ContainerChecks
import ShaderRecovery.Proofs.ChunkSelection
import ShaderRecovery.Proofs.SessionHistory
import ShaderRecovery.Proofs.SegmentPasses
import ShaderRecovery.Proofs.ConstantResolution
import ShaderRecovery.Proofs.RelativeConstants
import ShaderRecovery.Proofs.SignatureSplit
import ShaderRecovery.Proofs.CursorMachine
import ShaderRecovery.Proofs.Traversal
import ShaderRecovery.Proofs.SignatureTable
import ShaderRecovery.Proofs.VariantSelection
import ShaderRecovery.Proofs.LegacyScript
import ShaderRecovery.Proofs.OperandLayout
import ShaderRecovery.Proofs.InstructionLayout
import ShaderRecovery.Proofs.PlatformSegments
import ShaderRecovery.Proofs.BindingLayouts
import ShaderRecovery.Proofs.ParameterDeclarations
import ShaderRecovery.Proofs.BlockIndentation
import ShaderRecovery.Proofs.RenderStateGroups
import ShaderRecovery.Proofs.ReleaseText
import ShaderRecovery.Proofs.OperandTermination
