import Mathlib
import ShaderRecovery.Dxbc.Compiled
import ShaderRecovery.Proofs.Checked

/-!
# Which chunks a compiled stage is read from

Reading a compiled stage parses the container, then the input signature, the
output signature and the token program, each from a chunk chosen by a list of
tags: the first chunk of the first tag in the list that has one, wherever the
chunks of the later tags stand in the file. A signature chunk is parsed with
the layout its own tag calls for; a stage may leave a signature out.

* `TokenProgram.Check`, `TokenProgram.parseTokens_eq` — a program chunk is
  checked for alignment, for its two header words and for a declared length
  between two and the words present, in that order, and is cut to the declared
  length.
* `Container.SignatureIs`, `Container.SignatureFails` — what a container's
  signature of a list of tags is, and how reading it fails.
* `Container.entriesOf_signature?_eq_ok`, `Container.entriesOf_signature?_eq_error`,
  `CompiledShader.program_eq_ok`, `CompiledShader.program_eq_error` — one lemma
  per step of `CompiledShader.parse`.

Principal result: `CompiledShader.parse_composes` — reading a compiled
stage succeeds exactly when the container, both signatures and the program
chunk are read, and fails with the fault of the first step that fails, in the
order container, input signature, output signature, program.
-/

namespace ShaderRecovery

/-! ## Token programs -/

namespace TokenProgram

/-- The declared length of a program chunk: its second word. -/
def declaredOf (bs : List UInt8) : Nat := ((Bytes.words bs)[1]?.getD 0).toNat

/-- The program a chunk describes: the stage and model of its first word, and
its words up to the declared length. -/
def decoded (bs : List UInt8) : TokenProgram :=
  ⟨Version.ofToken ((Bytes.words bs).headD 0), (Bytes.words bs).take (declaredOf bs)⟩

/-- A condition a program chunk must meet. -/
inductive Check where
  | aligned
  | header
  | declaredLength
  deriving DecidableEq, Repr

namespace Check

variable (bs : List UInt8)

def Holds : Check → Prop
  | aligned => bs.length % 4 = 0
  | header => 2 ≤ (Bytes.words bs).length
  | declaredLength => 2 ≤ declaredOf bs ∧ declaredOf bs ≤ (Bytes.words bs).length

instance : DecidablePred (Holds bs)
  | aligned => inferInstanceAs (Decidable (_ = _))
  | header => inferInstanceAs (Decidable (_ ≤ _))
  | declaredLength => inferInstanceAs (Decidable (_ ∧ _))

/-- The fault a failing check is reported with. -/
def fault : Check → TokenFault
  | aligned => .misaligned bs.length
  | header => .tooShort (Bytes.words bs).length
  | declaredLength => .declaredOutOfBounds (declaredOf bs) (Bytes.words bs).length

end Check

/-- The checks of a program chunk, in the order they are made. -/
def checks : List Check := [.aligned, .header, .declaredLength]

/-- Decoding a program chunk runs its checks in order and cuts the words to the
declared length. -/
theorem parseTokens_eq (bs : List UInt8) :
    parseTokens bs = firstFault (Check.Holds bs) (Check.fault bs) checks (decoded bs) := by
  unfold parseTokens checks
  by_cases haligned : bs.length % 4 = 0
  case neg =>
    rw [if_pos haligned, firstFault_cons_of_not _ _ (k := Check.aligned) haligned]
    rfl
  rw [if_neg (fun h => h haligned), firstFault_cons_of_holds _ _ (k := Check.aligned) haligned]
  -- the words of the chunk decide the rest: fewer than two, or a version and a length
  rcases hw : Bytes.words bs with _ | ⟨v, _ | ⟨d, rest⟩⟩
  · rw [firstFault_cons_of_not _ _ (k := Check.header) (by simp [Check.Holds, hw])]
    simp [Check.fault, hw]
    rfl
  · rw [firstFault_cons_of_not _ _ (k := Check.header) (by simp [Check.Holds, hw])]
    simp [Check.fault, hw]
    rfl
  · have hd : declaredOf bs = d.toNat := by simp [declaredOf, hw]
    rw [firstFault_cons_of_holds _ _ (k := Check.header) (by simp [Check.Holds, hw])]
    dsimp only
    by_cases hlen : 2 ≤ d.toNat ∧ d.toNat ≤ rest.length + 2
    · rw [firstFault_cons_of_holds _ _ (k := Check.declaredLength) (by simp [Check.Holds, hw, hd]; omega),
        firstFault_nil, if_neg (by simp only [List.length_cons]; omega)]
      simp [decoded, hw, hd]
      rfl
    · rw [firstFault_cons_of_not _ _ (k := Check.declaredLength) (by simp [Check.Holds, hw, hd]; omega),
        if_pos (by simp only [List.length_cons]; omega)]
      simp [Check.fault, hw, hd]
      rfl

/-- A program chunk never decodes to the fault of a missing chunk. -/
theorem parseTokens_ne_missingChunk (bs : List UInt8) : parseTokens bs ≠ .error .missingChunk := by
  intro h
  rw [parseTokens_eq, firstFault_eq_error] at h
  obtain ⟨-, k, -, -, -, -, hk⟩ := h
  cases k <;> cases hk

end TokenProgram

/-! ## Signatures -/

namespace Container

variable (c : Container) (tags : List FourCC)

/-- The entries a container gives for a signature: those of the chunk chosen by
the tags, parsed with the layout of that chunk's own tag; none when no chunk has
any of the tags. -/
def SignatureIs (es : List SignatureEntry) : Prop :=
  match c.findFirst? tags with
  | none => es = []
  | some ch => Signature.parse (SignatureLayout.ofFourCC ch.fourcc) ch.data = .ok es

/-- Reading a signature fails with `e`: the chosen chunk does not parse, and `e`
wraps its fault with the chunk's tag. -/
def SignatureFails (e : ContainerError) : Prop :=
  ∃ ch f, c.findFirst? tags = some ch ∧
    Signature.parse (SignatureLayout.ofFourCC ch.fourcc) ch.data = .error f ∧
    e = .badSignature (some ch.fourcc) f

variable {c}

theorem entriesOf_signature?_eq_ok {kind : FourCC} {es : List SignatureEntry} :
    CompiledShader.entriesOf (c.signature? kind) = .ok es ↔ c.SignatureIs (signatureTags kind) es := by
  unfold signature? SignatureIs
  cases c.findFirst? (signatureTags kind) with
  | none => simp [CompiledShader.entriesOf, eq_comm]
  | some ch => simp [CompiledShader.entriesOf, mapError_eq_ok_iff]

theorem entriesOf_signature?_eq_error {kind : FourCC} {e : ContainerError} :
    CompiledShader.entriesOf (c.signature? kind) = .error e ↔ c.SignatureFails (signatureTags kind) e := by
  unfold signature? SignatureFails
  cases c.findFirst? (signatureTags kind) with
  | none => simp [CompiledShader.entriesOf]
  | some ch => simp [CompiledShader.entriesOf, mapError_eq_error_iff]

theorem signatureTags_isgn : signatureTags FourCC.isgn = [FourCC.isgn, FourCC.isg1] := by decide

theorem signatureTags_osgn : signatureTags FourCC.osgn = [FourCC.osgn, FourCC.osg1, FourCC.osg5] := by
  decide

end Container

/-! ## The compiled stage -/

namespace CompiledShader

variable {c : Container} {g : TokenFault → ContainerError}

/-- The program of a container: the chunk chosen by `SHEX`, then `SHDR`, decoded. -/
theorem program_eq_ok {p : TokenProgram} :
    (TokenProgram.ofContainer c).mapError g = .ok p ↔
      ∃ ch, c.findFirst? [FourCC.shex, FourCC.shdr] = some ch ∧
        TokenProgram.parseTokens ch.data = .ok p := by
  rw [mapError_eq_ok_iff, TokenProgram.ofContainer]
  cases c.findFirst? [FourCC.shex, FourCC.shdr] with
  | none => simp
  | some ch => simp

/-- Reading the program fails when no chunk is chosen, or with the fault of the
chosen chunk; `g` names each fault for the stage. -/
theorem program_eq_error {e : ContainerError} :
    (TokenProgram.ofContainer c).mapError g = .error e ↔
      (c.findFirst? [FourCC.shex, FourCC.shdr] = none ∧ e = g .missingChunk) ∨
      ∃ ch f, c.findFirst? [FourCC.shex, FourCC.shdr] = some ch ∧
        TokenProgram.parseTokens ch.data = .error f ∧ e = g f := by
  rw [mapError_eq_error_iff, TokenProgram.ofContainer]
  cases c.findFirst? [FourCC.shex, FourCC.shdr] with
  | none => simp [eq_comm]
  | some ch => simp

/-- Reading a compiled stage composes its steps. It succeeds exactly when the
container parses, the signatures chosen by `ISGN`, `ISG1` and by `OSGN`,
`OSG1`, `OSG5` are read (empty when absent), and the chunk chosen by `SHEX`,
`SHDR` decodes as a program; the stage then holds what each step gave.
Otherwise the fault is that of the first step that fails: the container's, a
signature's wrapped with its chunk's tag, a missing program chunk, or the
program chunk's own fault. A program chunk decodes exactly when its checks
hold, and fails with the first that does not. A signature's fault is reported
as an invalid chunk naming the chunk's tag, a missing program chunk as a
missing chunk, and a program chunk's fault as an invalid program with the
fault's text. -/
theorem parse_composes (b : List UInt8) :
    (∀ s, parse b = .ok s ↔ ∃ c, Container.parse b = .ok c ∧
        c.SignatureIs [FourCC.isgn, FourCC.isg1] s.inputs ∧
        c.SignatureIs [FourCC.osgn, FourCC.osg1, FourCC.osg5] s.outputs ∧
        ∃ ch, c.findFirst? [FourCC.shex, FourCC.shdr] = some ch ∧
          TokenProgram.parseTokens ch.data = .ok s.program) ∧
    (∀ e, parse b = .error e ↔ Container.parse b = .error e ∨ ∃ c, Container.parse b = .ok c ∧
        (c.SignatureFails [FourCC.isgn, FourCC.isg1] e ∨
          (∃ es, c.SignatureIs [FourCC.isgn, FourCC.isg1] es) ∧
          (c.SignatureFails [FourCC.osgn, FourCC.osg1, FourCC.osg5] e ∨
            (∃ es, c.SignatureIs [FourCC.osgn, FourCC.osg1, FourCC.osg5] es) ∧
            ((c.findFirst? [FourCC.shex, FourCC.shdr] = none ∧ e = .missingProgram) ∨
              ∃ ch f, c.findFirst? [FourCC.shex, FourCC.shdr] = some ch ∧
                TokenProgram.parseTokens ch.data = .error f ∧ e = .badProgram f)))) ∧
    (∀ bs p, TokenProgram.parseTokens bs = .ok p ↔
        (∀ k ∈ TokenProgram.checks, k.Holds bs) ∧ p = TokenProgram.decoded bs) ∧
    (∀ bs f, TokenProgram.parseTokens bs = .error f ↔
        ∃ pre k post, TokenProgram.checks = pre ++ k :: post ∧
          (∀ j ∈ pre, j.Holds bs) ∧ ¬k.Holds bs ∧ f = k.fault bs) ∧
    (∀ (t : FourCC) (f : SignatureFault),
        (ContainerError.badSignature (some t) f).category = .invalidChunk ∧
        (ContainerError.badSignature (some t) f).message =
          "invalid DXBC chunk: " ++ toString t ++ " signature: " ++ f.message) ∧
    (ContainerError.missingProgram.category = .missingChunk ∧
        ContainerError.missingProgram.message = "missing SHDR/SHEX chunk") ∧
    (∀ f : TokenFault, (ContainerError.badProgram f).category = .invalidProgram ∧
        (ContainerError.badProgram f).message = "invalid shader program: " ++ f.message) := by
  refine ⟨fun s => ?_, fun e => ?_, fun bs p => ?_, fun bs f => ?_, fun _ _ => ⟨rfl, rfl⟩,
    ⟨rfl, by decide⟩, fun _ => ⟨rfl, rfl⟩⟩
  · simp only [parse, bind_eq_ok_iff, Container.entriesOf_signature?_eq_ok, program_eq_ok,
      Container.signatureTags_isgn, Container.signatureTags_osgn]
    constructor
    · rintro ⟨c, hc, ins, hins, outs, houts, p, hp, hs⟩
      cases hs
      exact ⟨c, hc, hins, houts, hp⟩
    · rintro ⟨c, hc, hins, houts, hp⟩
      exact ⟨c, hc, _, hins, _, houts, _, hp, rfl⟩
  · simp only [parse, bind_eq_error_iff, Container.entriesOf_signature?_eq_ok,
      Container.entriesOf_signature?_eq_error, program_eq_error, Container.signatureTags_isgn,
      Container.signatureTags_osgn, pure, Except.pure, reduceCtorEq, and_false, exists_false, or_false,
      exists_and_right]
    -- the steps line up; only the name of a program chunk's fault is left
    refine or_congr_right (exists_congr fun c => and_congr_right fun _ =>
      or_congr_right (and_congr_right fun _ => or_congr_right (and_congr_right fun _ =>
        or_congr_right (exists_congr fun ch => exists_congr fun f =>
          and_congr_right fun _ => and_congr_right fun hf => ?_))))
    -- decoding never reports a missing chunk, so its fault is named a program fault
    cases f with
    | missingChunk => exact absurd hf (TokenProgram.parseTokens_ne_missingChunk _)
    | _ => exact Iff.rfl
  · rw [TokenProgram.parseTokens_eq, firstFault_eq_ok]
  · rw [TokenProgram.parseTokens_eq, firstFault_eq_error]

end CompiledShader

end ShaderRecovery
