import ShaderRecovery.Bytecode.Instruction

/-!
# Decoding a token program

The body of a program, after its two header words, is a chain of
instructions: each starts with an opcode token whose length field (or, for
`customdata`, the following word) says how many words it takes. Decoding
walks the chain: a `customdata` block becomes a declaration, a `nop` nothing,
a declaration opcode one declaration and any other opcode one instruction.
Operands that cannot be decoded do not stop the walk: the instruction or
declaration is kept by its opcode alone.

The walk fails at the first element of the chain that is missing its
`customdata` length, has length zero, or runs past the body; the error gives
the element's word position in the program.

Principal result: `build_unsupported` (only vertex and pixel programs are
decoded); the walk along the chain is stated in `ShaderIr.build_follows_chain`.
-/

namespace ShaderRecovery

/-- Why the instruction chain of a program is broken. -/
inductive ChainFault where
  | unexpectedEof (wanted remaining : Nat)
  | lengthZero
  | outOfBounds (start len available : Nat)
  deriving DecidableEq, Repr

/-- A broken chain and the word where the broken element starts. -/
structure DecodeError where
  atDword : Nat
  fault : ChainFault
  deriving DecidableEq, Repr

namespace ChainFault

def message : ChainFault → String
  | unexpectedEof wanted remaining =>
    s!"unexpected end of token stream (wanted {wanted} dwords, {remaining} remaining)"
  | lengthZero => "instruction length is zero"
  | outOfBounds start len available =>
    s!"instruction at {start} with length {len} overruns program (available {available})"

end ChainFault

def DecodeError.message (e : DecodeError) : String :=
  s!"SM4/5 decode error at dword {e.atDword}: " ++ e.fault.message

/-- What a walk has produced so far. -/
structure Decoded where
  decls : List Decl
  instructions : List Instruction
  deriving DecidableEq, Repr

namespace Decoded

def empty : Decoded := ⟨[], []⟩

def addDecl (d : Decoded) (x : Decl) : Decoded := { d with decls := d.decls ++ [x] }

def addInstruction (d : Decoded) (x : Instruction) : Decoded :=
  { d with instructions := d.instructions ++ [x] }

end Decoded

namespace Decode

/-- Word position of the first body word. -/
def bodyStart : Nat := 2

/-- The length of the chain element starting with `t`, followed by `ts`. -/
def elementLength (t : UInt32) (ts : List UInt32) : Option Nat :=
  if Opcode.ofToken t = Opcode.customData then ts.head?.map UInt32.toNat
  else some (Opcode.lengthOf t)

/-- What one chain element adds, given its words. -/
def element (acc : Decoded) (op : Nat) (words : List UInt32) : Decoded :=
  if op = Opcode.customData ∨ op = Opcode.nop then acc
  else if Opcode.isDeclaration op then acc.addDecl ((Decl.decode? op words).getD (.unknown op))
  else
    match Instruction.decode op words with
    | .ok i => acc.addInstruction i
    | .error _ => acc.addInstruction (.unknown op)

/-- Walks the chain from body word `i`, over the words `toks` left, in a body
of `n` words. -/
def walk (n : Nat) (i : Nat) (toks : List UInt32) (acc : Decoded) : Except DecodeError Decoded :=
  match _hm : toks with
  | [] => .ok acc
  | t :: ts =>
    let pos := bodyStart + i
    let op := Opcode.ofToken t
    let acc := if op = Opcode.customData then
        match ts.head? with
        | some len => acc.addDecl (.customData (t >>> 11).toNat len.toNat)
        | none => acc
      else acc
    match elementLength t ts with
    | none => .error ⟨pos, .unexpectedEof 1 0⟩
    | some len =>
      if _h : len = 0 then .error ⟨pos, .lengthZero⟩
      else if _hl : len > toks.length then .error ⟨pos, .outOfBounds pos len (n + bodyStart)⟩
      else walk n (i + len) (toks.drop len) (element acc op (toks.take len))
termination_by toks.length
decreasing_by subst _hm; rw [List.length_drop]; omega

theorem walk_nil (n i : Nat) (acc : Decoded) : walk n i [] acc = .ok acc := by
  unfold walk
  rfl

end Decode

/-- Why a program cannot be decoded: a broken chain, or a stage that is not
rendered. -/
inductive BuildError where
  | chain (e : DecodeError)
  | unsupportedStage (s : Stage)
  deriving DecidableEq, Repr

namespace ShaderIr

/-- Decodes a compiled stage as a vertex or fragment program. -/
def build (shader : CompiledShader) (stage : Stage) : Except BuildError ShaderIr :=
  match FunctionStage.ofStage? stage with
  | none => .error (.unsupportedStage stage)
  | some fs =>
    let body := shader.program.body
    match Decode.walk body.length 0 body Decoded.empty with
    | .error e => .error (.chain e)
    | .ok d => .ok {
        stage := fs
        major := shader.program.version.major
        minor := shader.program.version.minor
        decls := d.decls
        instructions := d.instructions
        inputs := shader.inputs
        outputs := shader.outputs
        bindings := none }

theorem build_unsupported (shader : CompiledShader) (stage : Stage)
    (h : FunctionStage.ofStage? stage = none) : build shader stage = .error (.unsupportedStage stage) := by
  simp [build, h]

end ShaderIr

end ShaderRecovery
