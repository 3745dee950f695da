import Mathlib
import ShaderRecovery.Proofs.InstructionChain

/-!
# Decoded programs are well formed

Every lane index the emitter later uses to pick a component is bounded when
the program is decoded: swizzle lanes and the component of a relative index
are taken modulo four (or capped at three), write masks modulo sixteen, and a
dot product is `dp2`, `dp3` or `dp4`. This module states those bounds as
predicates on the decoded form and proves that decoding only builds values
that satisfy them:

* `Ensures P x` — every value `x` may return satisfies `P`; composed
  through binds by `Ensures.bind`.
* `Swizzle.WellFormed`, `OperandIndex.WellFormed`, `Dst.WellFormed`,
  `Src.WellFormed`, `Instruction.WellFormed`, `Decl.WellFormed`,
  `ShaderIr.WellFormed` — the bounds.
* `Operand.rawOperandWithin_indices`, `Operand.dst_wellFormed`,
  `Operand.src_wellFormed`, `Operand.texture_wellFormed` — what each operand
  reader returns.
* `Instruction.decode_wellFormed`, `Decl.decode?_wellFormed` — every decoded
  instruction and declaration.

Principal result: `ShaderIr.build_wellFormed` — a program that decodes is
well formed.
-/

namespace ShaderRecovery

/-! ## Partial correctness of a computation that may fail -/

/-- Every value `x` may return satisfies `P`. -/
def Ensures (P : α → Prop) (x : Except ε α) : Prop := ∀ a, x = .ok a → P a

namespace Ensures

variable {P Q : α → Prop}

theorem pure {a : α} (h : P a) : Ensures (ε := ε) P (Pure.pure a) := by
  intro b hb
  cases hb
  exact h

theorem throw {e : ε} : Ensures P (MonadExcept.throw e : Except ε α) := by
  intro a h
  cases h

theorem error {e : ε} : Ensures P (Except.error e : Except ε α) := by
  intro a h
  cases h

theorem trivial (x : Except ε α) : Ensures (fun _ => True) x := fun _ _ => True.intro

theorem bind {P : β → Prop} {x : Except ε α} {f : α → Except ε β} (hx : Ensures Q x)
    (hf : ∀ a, Q a → Ensures P (f a)) : Ensures P (x >>= f) := by
  intro b hb
  cases hxa : x with
  | error e =>
    rw [hxa] at hb
    cases hb
  | ok a => exact hf a (hx a hxa) b (by rw [hxa] at hb; exact hb)

theorem ite {c : Prop} [Decidable c] {x y : Except ε α} (hx : c → Ensures P x) (hy : ¬c → Ensures P y) :
    Ensures P (if c then x else y) := by
  by_cases h : c
  · rw [if_pos h]
    exact hx h
  · rw [if_neg h]
    exact hy h

/-- Both branches continue with `k`: only what `k` returns matters. -/
theorem ite_bind {P : β → Prop} {c : Prop} [Decidable c] {x y : Except ε α} {k : α → Except ε β}
    (hk : ∀ a, Ensures P (k a)) : Ensures P (if c then x >>= k else y >>= k) := by
  split
  · exact bind (trivial x) fun a _ => hk a
  · exact bind (trivial y) fun a _ => hk a

/-- A guard that fails, or the continuation. -/
theorem guard {P : β → Prop} {c : Prop} [Decidable c] {e : ε} {k : Unit → Except ε β}
    (hk : Ensures P (k ())) : Ensures P (if c then MonadExcept.throw e >>= k else k ()) := by
  split
  · exact bind (Q := fun _ => False) throw fun _ h => h.elim
  · exact hk

end Ensures

/-! ## The bounds -/

/-- Each lane selects one of the four components. -/
def Swizzle.WellFormed (s : Swizzle) : Prop := s.x ≤ 3 ∧ s.y ≤ 3 ∧ s.z ≤ 3 ∧ s.w ≤ 3

/-- A relative index reads one of the four components of its register. -/
def OperandIndex.WellFormed (i : OperandIndex) : Prop :=
  ∀ rel, i.relative = some rel → rel.component ≤ 3

theorem OperandIndex.ofImm_wellFormed (imm : Nat) : (OperandIndex.ofImm imm).WellFormed := by
  intro rel h
  cases h

theorem OperandIndex.relative_wellFormed (imm : Nat) {rel : RelativeIndex} (h : rel.component ≤ 3) :
    (⟨imm, some rel⟩ : OperandIndex).WellFormed := by
  intro rel' h'
  cases h'
  exact h

def Dst.WellFormed (d : Dst) : Prop := d.reg.index.WellFormed ∧ d.mask ≤ 15

def SrcKind.WellFormed : SrcKind → Prop
  | .register reg => reg.index.WellFormed
  | .constantBuffer _ reg => reg.WellFormed
  | .immediateConstantBuffer reg => reg.WellFormed
  | .immediate .. => True

def Src.WellFormed (s : Src) : Prop := s.kind.WellFormed ∧ s.swizzle.WellFormed

def SampleLevel.WellFormed : SampleLevel → Prop
  | .implicit => True
  | .lod s => s.WellFormed
  | .bias s => s.WellFormed

/-- Operands within their bounds, and a dot product over two to four lanes. -/
def Instruction.WellFormed : Instruction → Prop
  | .unary _ d s => d.WellFormed ∧ s.WellFormed
  | .binary _ d a b => d.WellFormed ∧ a.WellFormed ∧ b.WellFormed
  | .mad d a b c => d.WellFormed ∧ a.WellFormed ∧ b.WellFormed ∧ c.WellFormed
  | .movc d c a b => d.WellFormed ∧ c.WellFormed ∧ a.WellFormed ∧ b.WellFormed
  | .dot w d a b => 2 ≤ w ∧ w ≤ 4 ∧ d.WellFormed ∧ a.WellFormed ∧ b.WellFormed
  | .sinCos s c x => (∀ d, s = some d → d.WellFormed) ∧ (∀ d, c = some d → d.WellFormed) ∧ x.WellFormed
  | .sample d coord t _ level =>
    d.WellFormed ∧ coord.WellFormed ∧ t.swizzle.WellFormed ∧ level.WellFormed
  | .load d coord t => d.WellFormed ∧ coord.WellFormed ∧ t.swizzle.WellFormed
  | .discard c _ | .beginIf c _ | .exitLoopIf c _ => c.WellFormed
  | .beginElse | .endIf | .beginLoop | .endLoop | .exitLoop | .nextIteration | .ret | .unknown _ => True

/-- Input and output declarations write at most the four lanes. -/
def Decl.WellFormed : Decl → Prop
  | .input _ mask | .output _ mask => mask ≤ 15
  | _ => True

def ShaderIr.WellFormed (ir : ShaderIr) : Prop :=
  (∀ d ∈ ir.decls, d.WellFormed) ∧ ∀ i ∈ ir.instructions, i.WellFormed

/-! ## Raw operands -/

namespace RawOperand

/-- Every index of the operand is within bounds. -/
def IndicesWellFormed (r : RawOperand) : Prop := ∀ i ∈ r.indices, i.WellFormed

theorem swizzle_wellFormed (r : RawOperand) : r.swizzle.WellFormed := by
  unfold swizzle Swizzle.replicate Swizzle.identity Swizzle.WellFormed
  split
  · dsimp only
    omega
  · split
    · dsimp only
      omega
    · split <;> decide

theorem mask_le (r : RawOperand) : r.mask ≤ 15 := by
  unfold mask
  split
  · omega
  · split
    · decide
    · split <;> decide

theorem relative_component_le (r : RawOperand) : Ensures (fun rel => rel.component ≤ 3) r.relative := by
  unfold relative
  split
  · exact Ensures.throw
  · refine Ensures.pure ?_
    dsimp only
    split
    · exact Nat.min_le_right _ _
    · omega

theorem index_wellFormed {r : RawOperand} (h : r.IndicesWellFormed) (n : Nat) : (r.index n).WellFormed := by
  unfold index
  cases hi : r.indices[n]? with
  | none => intro rel hrel; cases hrel
  | some i => exact h i (List.mem_of_getElem? hi)

theorem registerRef_wellFormed {r : RawOperand} (h : r.IndicesWellFormed) (file : RegFile) :
    (r.registerRef file).index.WellFormed := by
  unfold registerRef
  split
  · exact index_wellFormed h 1
  · intro rel hrel; cases hrel
  · intro rel hrel; cases hrel
  · exact index_wellFormed h 0

end RawOperand

/-! ## Operand readers -/

namespace Operand

open TokenReader

theorem indicesFrom_wellFormed {read : Nat → TokenReader OperandIndex}
    (hread : ∀ n ts, Ensures (fun p => p.1.WellFormed) (read n ts)) (k n : Nat) (ts : List UInt32) :
    Ensures (fun p => ∀ i ∈ p.1, i.WellFormed) (indicesFrom read k n ts) := by
  induction k generalizing n ts with
  | zero => exact Ensures.pure (by simp)
  | succ k ih =>
    refine Ensures.bind (hread n ts) fun ⟨i, ts'⟩ hi => ?_
    refine Ensures.bind (ih (n + 1) ts') fun ⟨is, ts''⟩ his => ?_
    refine Ensures.pure ?_
    intro j hj
    rcases List.mem_cons.mp hj with rfl | hj
    · exact hi
    · exact his j hj

/-- An index read by an operand: an immediate, or a relative part whose
component is in bounds whatever the nested operand. -/
theorem rawOperandWithin_indices (bound : Nat) (ts : List UInt32) :
    Ensures (fun p => p.1.IndicesWellFormed) (rawOperandWithin bound ts) := by
  cases bound with
  | zero => exact Ensures.throw
  | succ bound =>
    rw [rawOperandWithin]
    refine Ensures.bind (Ensures.trivial _) fun ⟨token, ts₁⟩ _ => ?_
    dsimp only
    refine Ensures.ite_bind fun ⟨m, ts₂⟩ => ?_
    dsimp only
    refine Ensures.guard ?_
    refine Ensures.bind (indicesFrom_wellFormed ?_ _ _ _) fun ⟨is, ts₃⟩ his => ?_
    · -- each index: an immediate, or a relative part, possibly after an immediate
      intro n ts
      split
      · exact Ensures.bind (Ensures.trivial _) fun _ _ => Ensures.pure (OperandIndex.ofImm_wellFormed _)
      · refine Ensures.bind (Ensures.trivial _) fun raw _ => ?_
        exact Ensures.bind (RawOperand.relative_component_le raw.1) fun _ h =>
          Ensures.pure (OperandIndex.relative_wellFormed _ h)
      · refine Ensures.bind (Ensures.trivial _) fun _ _ => Ensures.bind (Ensures.trivial _) fun raw _ => ?_
        exact Ensures.bind (RawOperand.relative_component_le raw.1) fun _ h =>
          Ensures.pure (OperandIndex.relative_wellFormed _ h)
      · exact Ensures.error
    · -- the immediates of the operand do not touch its indices
      split
      · exact Ensures.bind (Ensures.trivial _) fun _ _ =>
          Ensures.bind (Ensures.trivial _) fun _ _ => Ensures.pure his
      · exact Ensures.bind (Ensures.trivial _) fun _ _ => Ensures.pure his

theorem dst_wellFormed (saturate : Bool) (ts : List UInt32) :
    Ensures (fun p => p.1.WellFormed) (dst saturate ts) := by
  unfold dst rawOperand
  refine Ensures.bind (rawOperandWithin_indices _ _) fun raw h => ?_
  dsimp only
  split
  · exact Ensures.pure ⟨RawOperand.registerRef_wellFormed h _, RawOperand.mask_le raw.1⟩
  · exact Ensures.error

theorem optionalDst_wellFormed (ts : List UInt32) :
    Ensures (fun p => ∀ d, p.1 = some d → d.WellFormed) (optionalDst ts) := by
  refine Ensures.bind (dst_wellFormed false ts) fun d hd => Ensures.pure ?_
  intro d' h
  dsimp only at h
  split at h
  · cases h
  · cases h
    exact hd

theorem src_wellFormed (ts : List UInt32) : Ensures (fun p => p.1.WellFormed) (src ts) := by
  unfold src rawOperand
  refine Ensures.bind (rawOperandWithin_indices _ _) fun raw h => ?_
  dsimp only
  -- the kind: an immediate, a constant buffer, the immediate buffer or a register
  have finish : ∀ x : Except OperandFault SrcKind, Ensures SrcKind.WellFormed x →
      Ensures (fun p : Src × List UInt32 => p.1.WellFormed)
        (x >>= fun kind => Pure.pure (⟨kind, raw.1.swizzle, raw.1.modifier⟩, raw.2)) :=
    fun x hx => Ensures.bind hx fun _ hk => Ensures.pure ⟨hk, RawOperand.swizzle_wellFormed raw.1⟩
  split
  · exact finish _ (Ensures.pure True.intro)
  · split
    · exact finish _ (Ensures.pure (RawOperand.index_wellFormed h 1))
    · split
      · exact finish _ (Ensures.pure (RawOperand.index_wellFormed h 0))
      · split
        · exact finish _ (Ensures.pure (RawOperand.registerRef_wellFormed h _))
        · exact finish _ Ensures.error

theorem texture_wellFormed (ts : List UInt32) :
    Ensures (fun p => p.1.swizzle.WellFormed) (texture ts) := by
  unfold texture rawOperand
  refine Ensures.bind (Ensures.trivial _) fun raw _ => ?_
  dsimp only
  exact Ensures.guard (Ensures.pure (RawOperand.swizzle_wellFormed raw.1))

end Operand

/-! ## Instructions and declarations -/

namespace Instruction

open Operand

theorem decode_wellFormed (op : Nat) (toks : List UInt32) :
    Ensures Instruction.WellFormed (decode op toks) := by
  unfold decode
  dsimp only
  split
  · -- unary
    refine Ensures.bind (dst_wellFormed _ _) fun d hd => ?_
    exact Ensures.bind (src_wellFormed _) fun s hs => Ensures.pure ⟨hd, hs⟩
  · -- binary
    refine Ensures.bind (dst_wellFormed _ _) fun d hd => ?_
    refine Ensures.bind (src_wellFormed _) fun a ha => ?_
    exact Ensures.bind (src_wellFormed _) fun b hb => Ensures.pure ⟨hd, ha, hb⟩
  · refine Ensures.ite (fun _ => ?_) (fun _ => ?_)
    · -- mad
      refine Ensures.bind (dst_wellFormed _ _) fun d hd => ?_
      refine Ensures.bind (src_wellFormed _) fun a ha => ?_
      refine Ensures.bind (src_wellFormed _) fun b hb => ?_
      exact Ensures.bind (src_wellFormed _) fun c hc => Ensures.pure ⟨hd, ha, hb, hc⟩
    refine Ensures.ite (fun _ => ?_) (fun _ => ?_)
    · -- movc
      refine Ensures.bind (dst_wellFormed _ _) fun d hd => ?_
      refine Ensures.bind (src_wellFormed _) fun c hc => ?_
      refine Ensures.bind (src_wellFormed _) fun a ha => ?_
      exact Ensures.bind (src_wellFormed _) fun b hb => Ensures.pure ⟨hd, hc, ha, hb⟩
    refine Ensures.ite (fun hdot => ?_) (fun _ => ?_)
    · -- a dot product: the width follows the opcode, two to four lanes
      have hw : 2 ≤ op - Opcode.dp2 + 2 ∧ op - Opcode.dp2 + 2 ≤ 4 := by
        simp only [Opcode.dp2, Opcode.dp3, Opcode.dp4] at hdot ⊢
        omega
      refine Ensures.bind (dst_wellFormed _ _) fun d hd => ?_
      refine Ensures.bind (src_wellFormed _) fun a ha => ?_
      exact Ensures.bind (src_wellFormed _) fun b hb => Ensures.pure ⟨hw.1, hw.2, hd, ha, hb⟩
    refine Ensures.ite (fun _ => ?_) (fun _ => ?_)
    · -- sincos: either destination may be the null register
      refine Ensures.bind (optionalDst_wellFormed _) fun s hs => ?_
      refine Ensures.bind (optionalDst_wellFormed _) fun c hc => ?_
      exact Ensures.bind (src_wellFormed _) fun x hx => Ensures.pure ⟨hs, hc, hx⟩
    refine Ensures.ite (fun _ => ?_) (fun _ => ?_)
    · -- sample, with its level of detail or bias
      refine Ensures.bind (dst_wellFormed _ _) fun d hd => ?_
      refine Ensures.bind (src_wellFormed _) fun coord hcoord => ?_
      refine Ensures.bind (texture_wellFormed _) fun t ht => ?_
      refine Ensures.bind (Ensures.trivial _) fun smp _ => ?_
      have finish : ∀ x : Except OperandFault SampleLevel, Ensures SampleLevel.WellFormed x →
          Ensures WellFormed (x >>= fun level => Pure.pure (sample d.1 coord.1 t.1 smp.1 level)) :=
        fun x hx => Ensures.bind hx fun _ hl => Ensures.pure ⟨hd, hcoord, ht, hl⟩
      refine Ensures.ite (fun _ => ?_) (fun _ => Ensures.ite (fun _ => ?_) (fun _ => ?_))
      · exact Ensures.bind (src_wellFormed _) fun l hl => finish _ (Ensures.pure (P := SampleLevel.WellFormed) hl)
      · exact Ensures.bind (src_wellFormed _) fun l hl => finish _ (Ensures.pure (P := SampleLevel.WellFormed) hl)
      · exact finish _ (Ensures.pure True.intro)
    refine Ensures.ite (fun _ => ?_) (fun _ => ?_)
    · -- load
      refine Ensures.bind (dst_wellFormed _ _) fun d hd => ?_
      refine Ensures.bind (src_wellFormed _) fun coord hcoord => ?_
      exact Ensures.bind (texture_wellFormed _) fun t ht => Ensures.pure ⟨hd, hcoord, ht⟩
    -- the three tests on a condition, then the operand-free instructions
    refine Ensures.ite (fun _ => Ensures.bind (src_wellFormed _) fun c hc => Ensures.pure hc) (fun _ => ?_)
    refine Ensures.ite (fun _ => Ensures.bind (src_wellFormed _) fun c hc => Ensures.pure hc) (fun _ => ?_)
    refine Ensures.ite (fun _ => Ensures.bind (src_wellFormed _) fun c hc => Ensures.pure hc) (fun _ => ?_)
    repeat refine Ensures.ite (fun _ => Ensures.pure True.intro) (fun _ => ?_)
    exact Ensures.pure True.intro

end Instruction

namespace Decl

/-- A declaration built from an operand, when every operand builds a well-formed one. -/
theorem wellFormed_of_map {operand : Option RawOperand} {f : RawOperand → Decl} {d : Decl}
    (h : operand.map f = some d) (hf : ∀ raw, (f raw).WellFormed) : d.WellFormed := by
  obtain ⟨raw, _, rfl⟩ := Option.map_eq_some_iff.mp h
  exact hf raw

theorem decode?_wellFormed {op : Nat} {toks : List UInt32} {d : Decl} (h : decode? op toks = some d) :
    d.WellFormed := by
  unfold decode? at h
  dsimp only at h
  -- a mask stands only in input and output declarations, and is an operand's mask
  split at h
  · split at h
    · cases h
      trivial
    · cases h
  split at h
  · split at h
    · cases h
      trivial
    · cases h
  split at h
  · exact wellFormed_of_map h fun _ => trivial
  split at h
  · exact wellFormed_of_map h fun _ => trivial
  split at h
  · exact wellFormed_of_map h fun _ => trivial
  split at h
  · exact wellFormed_of_map h RawOperand.mask_le
  split at h
  · exact wellFormed_of_map h RawOperand.mask_le
  split at h
  · cases h
    trivial
  · cases h

end Decl

/-! ## Decoded programs -/

namespace Decode

theorem declsOf_wellFormed (w : List UInt32) : ∀ d ∈ declsOf w, d.WellFormed := by
  cases w with
  | nil => intro d hd; cases hd
  | cons t ts =>
    unfold declsOf
    dsimp only
    split
    · intro d hd
      rw [List.mem_singleton] at hd
      subst hd
      trivial
    split
    · intro d hd; cases hd
    split
    · -- a declaration that does not decode is kept by its opcode
      intro d hd
      rw [List.mem_singleton] at hd
      subst hd
      cases hdec : Decl.decode? (Opcode.ofToken t) (t :: ts) with
      | none => trivial
      | some d => exact Decl.decode?_wellFormed hdec
    · intro d hd; cases hd

theorem instructionsOf_wellFormed (w : List UInt32) : ∀ i ∈ instructionsOf w, i.WellFormed := by
  cases w with
  | nil => intro i hi; cases hi
  | cons t ts =>
    unfold instructionsOf
    dsimp only
    split
    · intro i hi; cases hi
    · split
      · rename_i decoded hdec
        intro i hi
        rw [List.mem_singleton] at hi
        rw [hi]
        exact Instruction.decode_wellFormed _ _ decoded hdec
      · intro i hi
        rw [List.mem_singleton] at hi
        subst hi
        trivial

end Decode

namespace ShaderIr

theorem ofChain_wellFormed (shader : CompiledShader) (fs : FunctionStage) (ks : List (List UInt32)) :
    (ofChain shader fs ks).WellFormed := by
  refine ⟨fun d hd => ?_, fun i hi => ?_⟩
  · obtain ⟨w, _, hw⟩ := List.mem_flatMap.mp hd
    exact Decode.declsOf_wellFormed w d hw
  · obtain ⟨w, _, hw⟩ := List.mem_flatMap.mp hi
    exact Decode.instructionsOf_wellFormed w i hw

/-- A program that decodes is well formed. -/
theorem build_wellFormed {shader : CompiledShader} {stage : Stage} {ir : ShaderIr}
    (h : build shader stage = .ok ir) : ir.WellFormed := by
  cases hs : FunctionStage.ofStage? stage with
  | none =>
    rw [build_unsupported shader stage hs] at h
    cases h
  | some fs =>
    -- the chain either reaches the end of the body, or decoding fails
    rcases Decode.Chain.cover shader.program.body 0 (Nat.zero_le _) with
      ⟨ks, hc⟩ | ⟨j, ks, f, hc, hf⟩
    · rw [build_of_chain hs hc] at h
      cases h
      exact ofChain_wellFormed shader fs ks
    · rw [build_of_fault hs hc hf] at h
      cases h

end ShaderIr

end ShaderRecovery
