import ShaderRecovery.Dxbc.Signature

/-!
# Token programs

The program chunk (`SHEX`, else `SHDR`) is a list of words: a version token,
the program length in words, then the body. The version token holds the
minor model in bits 0 to 3, the major model in bits 4 to 7 and the stage in
bits 16 to 31. A program is cut to its declared length, which must cover the
two header words and fit the chunk.

Principal result: `parseTokens_misaligned` (a payload whose length is not a
multiple of four is refused).
-/

namespace ShaderRecovery

/-- Stage of a token program. -/
inductive Stage where
  | pixel
  | vertex
  | geometry
  | hull
  | domain
  | compute
  | unknown (code : Nat)
  deriving DecidableEq, Repr, Inhabited

namespace Stage

def ofCode : Nat → Stage
  | 0 => pixel
  | 1 => vertex
  | 2 => geometry
  | 3 => hull
  | 4 => domain
  | 5 => compute
  | n => unknown n

def name : Stage → String
  | pixel => "Pixel"
  | vertex => "Vertex"
  | geometry => "Geometry"
  | hull => "Hull"
  | domain => "Domain"
  | compute => "Compute"
  | unknown n => s!"Unknown({n})"

end Stage

/-- Stage and shader model of a version token. -/
structure Version where
  stage : Stage
  major : Nat
  minor : Nat
  deriving DecidableEq, Repr, Inhabited

namespace Version

def ofToken (v : UInt32) : Version :=
  ⟨Stage.ofCode (v >>> 16).toNat, ((v >>> 4) &&& 0xf).toNat, (v &&& 0xf).toNat⟩

end Version

/-- A token program cut to its declared length, header words included. -/
structure TokenProgram where
  version : Version
  tokens : List UInt32
  deriving DecidableEq, Repr, Inhabited

namespace TokenProgram

/-- The words after the version and length header. -/
def body (p : TokenProgram) : List UInt32 := p.tokens.drop 2

/-- Decodes a program chunk payload. -/
def parseTokens (bs : List UInt8) : Except TokenFault TokenProgram := do
  if bs.length % 4 ≠ 0 then throw (.misaligned bs.length)
  let tokens := Bytes.words bs
  match tokens with
  | v :: declared :: _ =>
    let n := declared.toNat
    if n < 2 ∨ n > tokens.length then throw (.declaredOutOfBounds n tokens.length)
    return ⟨Version.ofToken v, tokens.take n⟩
  | _ => throw (.tooShort tokens.length)

/-- The program of a container, from its `SHEX` chunk or else its `SHDR` chunk. -/
def ofContainer (c : Container) : Except TokenFault TokenProgram :=
  match c.findFirst? [FourCC.shex, FourCC.shdr] with
  | some chunk => parseTokens chunk.data
  | none => .error .missingChunk

theorem parseTokens_misaligned (bs : List UInt8) (h : bs.length % 4 ≠ 0) :
    parseTokens bs = .error (.misaligned bs.length) := by
  simp [parseTokens, h]
  rfl

end TokenProgram

end ShaderRecovery
