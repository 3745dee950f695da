import Mathlib
import ShaderRecovery.Proofs.WellFormedIr
import ShaderRecovery.Proofs.OperandLayout

/-!
# Operand decoding consumes its tokens

An operand may carry relative indices, each an operand of its own that may
carry more, and a chain of extension tokens whose length a bit of each token
decides. `Operand.rawOperandWithin` therefore nests its reads up to a bound,
failing with `nestingExhausted` when it runs out, and `Operand.rawOperand`
gives it one more than the number of tokens left. Every read consumes tokens,
so that bound is never what ends a decode.

* `Operand.extensions_consumes` — each extension step reads one token.
* `Operand.rawOperandWithin_consumes` — an operand read consumes at least its
  own token, at any depth of nesting.
* `Operand.rawOperandWithin_succ` — once the bound exceeds the tokens, one
  more level of nesting decodes the same; `rawOperandWithin_of_length_lt` — so
  does every larger bound.
* `FaultsIn` — a bound on the faults a computation may end with;
  `Operand.rawOperandWithin_exhausts` — the nesting fault arises only from a
  bound at most the tokens left, so `rawOperand` never ends with it.

Principal result: `Operand.rawOperand_consumes_and_bound_suffices`.
-/

namespace ShaderRecovery

namespace Ensures

/-- A weaker postcondition. -/
theorem mono {P Q : α → Prop} {x : Except ε α} (hx : Ensures P x) (h : ∀ a, P a → Q a) :
    Ensures Q x :=
  fun a ha => h a (hx a ha)

/-- Two continuations that agree on every value the first step may return. -/
theorem bind_congr {P : α → Prop} {x : Except ε α} {f g : α → Except ε β} (hx : Ensures P x)
    (h : ∀ a, P a → f a = g a) : x >>= f = x >>= g := by
  cases hxa : x with
  | error e => rfl
  | ok a => exact h a (hx a hxa)

end Ensures

/-- Every fault `x` may end with satisfies `P`. -/
def FaultsIn {ε α : Type} (P : ε → Prop) (x : Except ε α) : Prop := ∀ e, x = .error e → P e

namespace FaultsIn

variable {ε α β : Type} {P Q : ε → Prop}

theorem pure {a : α} : FaultsIn P (Pure.pure a : Except ε α) := by
  intro e h
  cases h

theorem error {e : ε} (h : P e) : FaultsIn P (Except.error e : Except ε α) := by
  intro e' h'
  cases h'
  exact h

theorem mono {x : Except ε α} (hx : FaultsIn P x) (h : ∀ e, P e → Q e) : FaultsIn Q x :=
  fun e he => h e (hx e he)

/-- The faults of a bind are those of its first step and those of the
continuation after a value the first step returns. -/
theorem bind {x : Except ε α} {f : α → Except ε β} (hx : FaultsIn P x)
    (hf : ∀ a, x = .ok a → FaultsIn P (f a)) : FaultsIn P (x >>= f) := by
  intro e h
  cases hxa : x with
  | error e' =>
    have he : e' = e := by
      rw [hxa] at h
      exact Except.error.inj h
    exact he ▸ hx e' hxa
  | ok a =>
    rw [hxa] at h
    exact hf a hxa e h

/-- A guard that fails with `e`, or the continuation. -/
theorem guard {c : Prop} [Decidable c] {e : ε} {k : Unit → Except ε β} (he : P e)
    (hk : FaultsIn P (k ())) : FaultsIn P (if c then MonadExcept.throw e >>= k else k ()) := by
  split
  · exact bind (error he) fun _ h => by cases h
  · exact hk

end FaultsIn

namespace Operand

open TokenReader

/-! ## Every read consumes tokens -/

/-- Reading a token leaves one fewer. -/
theorem next_consumes (ts : List UInt32) : Ensures (fun p => p.2.length < ts.length) (next ts) := by
  cases ts with
  | nil => exact Ensures.error
  | cons t ts => intro p hp; cases hp; simp

/-- Each extension token read leaves one token fewer. -/
theorem extensions_consumes (m : Modifier) (ts : List UInt32) :
    Ensures (fun p => p.2.length < ts.length) (extensions m ts) := by
  induction ts generalizing m with
  | nil => exact Ensures.error
  | cons t ts ih =>
    rw [extensions]
    split
    · intro p hp
      have := ih _ p hp
      simp only [List.length_cons]
      omega
    · intro p hp
      cases hp
      simp

/-- The immediates of an operand, when its component count has any, are read
from the tokens. -/
theorem immediates_keeps (c : Nat) (ts : List UInt32) :
    Ensures (fun p => p.2.length ≤ ts.length) (immediates c ts) := by
  unfold immediates
  split
  · refine Ensures.bind (next_consumes ts) ?_
    rintro ⟨_, ts₁⟩ h₁
    exact Ensures.pure (Nat.le_of_lt h₁)
  · split
    · refine Ensures.bind (next_consumes ts) ?_
      rintro ⟨_, ts₁⟩ h₁
      refine Ensures.bind (next_consumes ts₁) ?_
      rintro ⟨_, ts₂⟩ h₂
      refine Ensures.bind (next_consumes ts₂) ?_
      rintro ⟨_, ts₃⟩ h₃
      refine Ensures.bind (next_consumes ts₃) ?_
      rintro ⟨_, ts₄⟩ h₄
      exact Ensures.pure (by simp only at h₁ h₂ h₃ h₄ ⊢; omega)
    · exact Ensures.error

/-- Indices read one after another leave no more tokens than they were given,
when each index read does not. -/
theorem indicesFrom_keeps {read : Nat → TokenReader OperandIndex}
    (hread : ∀ n ts, Ensures (fun p => p.2.length ≤ ts.length) (read n ts)) (k n : Nat)
    (ts : List UInt32) : Ensures (fun p => p.2.length ≤ ts.length) (indicesFrom read k n ts) := by
  induction k generalizing n ts with
  | zero => exact Ensures.pure le_rfl
  | succ k ih =>
    refine Ensures.bind (hread n ts) ?_
    rintro ⟨_, ts₁⟩ h₁
    refine Ensures.bind (ih (n + 1) ts₁) ?_
    rintro ⟨_, ts₂⟩ h₂
    exact Ensures.pure (le_trans h₂ h₁)

/-- The extension chain, read when the operand token announces it, leaves no
more tokens than it was given. -/
theorem chain_keeps (token : UInt32) (ts : List UInt32) :
    Ensures (fun p => p.2.length ≤ ts.length)
      (if Opcode.isExtended token then extensions .none ts else pure (.none, ts)) :=
  Ensures.ite (fun _ => (extensions_consumes _ ts).mono fun _ h => Nat.le_of_lt h)
    (fun _ => Ensures.pure le_rfl)

/-- An index reader consumes tokens when the nested operand reader does. -/
theorem readIndex_consumes {bound : Nat}
    (ih : ∀ ts, Ensures (fun p => p.2.length < ts.length) (rawOperandWithin bound ts))
    (rep : Nat) (ts : List UInt32) :
    Ensures (fun p => p.2.length < ts.length) (readIndex bound rep ts) := by
  unfold readIndex
  split
  · refine Ensures.bind (next_consumes ts) ?_
    rintro ⟨_, ts₁⟩ h₁
    exact Ensures.pure h₁
  · refine Ensures.bind (ih ts) ?_
    rintro ⟨_, ts₁⟩ h₁
    exact Ensures.bind (Ensures.trivial _) fun _ _ => Ensures.pure h₁
  · refine Ensures.bind (next_consumes ts) ?_
    rintro ⟨_, ts₁⟩ h₁
    refine Ensures.bind (ih ts₁) ?_
    rintro ⟨_, ts₂⟩ h₂
    exact Ensures.bind (Ensures.trivial _) fun _ _ => Ensures.pure (lt_trans h₂ h₁)
  · exact Ensures.error

/-- Every operand read, however deeply its relative indices nest, consumes at
least its own token. -/
theorem rawOperandWithin_consumes (bound : Nat) (ts : List UInt32) :
    Ensures (fun p => p.2.length < ts.length) (rawOperandWithin bound ts) := by
  induction bound generalizing ts with
  | zero => exact Ensures.error
  | succ bound ih =>
    rw [rawOperandWithin]
    refine Ensures.bind (next_consumes ts) ?_
    rintro ⟨token, ts₁⟩ h₁
    dsimp only
    rw [← apply_ite_left bind]
    refine Ensures.bind (chain_keeps token ts₁) ?_
    rintro ⟨_, ts₂⟩ h₂
    dsimp only
    refine Ensures.guard ?_
    -- the closure of the reader reads the `n`-th index with `readIndex`
    have hidx := indicesFrom_keeps (fun n ts =>
      (readIndex_consumes ih (((token >>> (22 + 3 * n).toUInt32) &&& 7).toNat) ts).mono
        fun _ h => Nat.le_of_lt h) (((token >>> 20) &&& 3).toNat) 0 ts₂
    refine Ensures.bind hidx ?_
    rintro ⟨_, ts₃⟩ h₃
    dsimp only at h₁ h₂ h₃
    split
    · simp only [pure_bind]
      refine Ensures.bind (immediates_keeps _ ts₃) ?_
      rintro ⟨_, ts₄⟩ h₄
      exact Ensures.pure (by dsimp only at h₄ ⊢; omega)
    · exact Ensures.pure (by dsimp only; omega)

/-- An index read never lengthens its input, at any nesting bound. -/
theorem readIndex_keeps (bound rep : Nat) (ts : List UInt32) :
    Ensures (fun p => p.2.length ≤ ts.length) (readIndex bound rep ts) :=
  (readIndex_consumes (rawOperandWithin_consumes bound) rep ts).mono fun _ h => Nat.le_of_lt h

/-! ## The nesting bound of `rawOperand` is never reached -/

/-- Index readers that agree on every input of fewer than `L` tokens read the
same indices from such an input, when the first never lengthens its input. -/
theorem indicesFrom_congr {r₁ r₂ : Nat → TokenReader OperandIndex} {L : Nat}
    (hkeep : ∀ n ts, Ensures (fun p => p.2.length ≤ ts.length) (r₁ n ts))
    (hagree : ∀ n ts, ts.length < L → r₁ n ts = r₂ n ts) (k n : Nat) {ts : List UInt32}
    (h : ts.length < L) : indicesFrom r₁ k n ts = indicesFrom r₂ k n ts := by
  induction k generalizing n ts with
  | zero => rfl
  | succ k ih =>
    rw [indicesFrom, indicesFrom, ← hagree n ts h]
    refine Ensures.bind_congr (hkeep n ts) ?_
    rintro ⟨_, ts₁⟩ h₁
    dsimp only
    rw [ih (n + 1) (lt_of_le_of_lt h₁ h)]

/-- Index readers over two nesting bounds agree where the operand readers do. -/
theorem readIndex_congr {b c L : Nat}
    (ih : ∀ ts, ts.length < L → rawOperandWithin b ts = rawOperandWithin c ts) (rep : Nat)
    {ts : List UInt32} (h : ts.length < L) : readIndex b rep ts = readIndex c rep ts := by
  unfold readIndex
  split
  · rfl
  · rw [ih ts h]
  · refine Ensures.bind_congr (next_consumes ts) ?_
    rintro ⟨_, ts₁⟩ h₁
    dsimp only at h₁ ⊢
    rw [ih ts₁ (by omega)]
  · rfl

/-- One more level of nesting changes nothing once the bound exceeds the
tokens: each nested operand starts after its enclosing token, so it never
needs more. -/
theorem rawOperandWithin_succ (bound : Nat) {ts : List UInt32} (h : ts.length < bound) :
    rawOperandWithin (bound + 1) ts = rawOperandWithin bound ts := by
  induction bound generalizing ts with
  | zero => exact absurd h (Nat.not_lt_zero _)
  | succ bound ih =>
    cases ts with
    | nil => rfl
    | cons t ts =>
      have hlen : ts.length < bound := by simpa using h
      rw [rawOperandWithin, rawOperandWithin]
      dsimp only [next]
      rw [ok_bind_eq, ok_bind_eq]
      dsimp only
      rw [← apply_ite_left bind, ← apply_ite_left bind]
      refine Ensures.bind_congr (chain_keeps t ts) ?_
      rintro ⟨_, ts₂⟩ h₂
      dsimp only at h₂ ⊢
      split
      · rfl
      · -- the indices are read by readers one level apart, which agree on the shorter input
        refine bind_congr_left (indicesFrom_congr (fun n ts => readIndex_keeps _ _ ts)
          (fun n ts hts => ?_) _ 0 (lt_of_le_of_lt h₂ hlen))
        exact readIndex_congr (fun _ h => ih h) _ hts

/-- The bound `rawOperand` gives, one more than the number of tokens, never
cuts a read short: every larger bound decodes the same. -/
theorem rawOperandWithin_of_length_lt {bound : Nat} {ts : List UInt32} (h : ts.length < bound) :
    rawOperandWithin bound ts = rawOperand ts := by
  induction bound, h using Nat.le_induction with
  | base => rfl
  | succ bound h ih => rw [rawOperandWithin_succ bound h, ih]

end Operand

/-! ## The nesting fault -/

/-- Fault `e` is the nesting fault only if the bound `b` is at most `n`. -/
def ExhaustsAt (b n : Nat) (e : OperandFault) : Prop := e = .nestingExhausted → b ≤ n

theorem ExhaustsAt.of_ne {b n : Nat} {e : OperandFault} (h : e ≠ .nestingExhausted) : ExhaustsAt b n e :=
  fun he => absurd he h

theorem ExhaustsAt.le {b n m : Nat} {e : OperandFault} (h : ExhaustsAt b n e) (hnm : n ≤ m) :
    ExhaustsAt b m e :=
  fun he => le_trans (h he) hnm

/-- A read that never ends with the nesting fault bounds it at any bound. -/
theorem FaultsIn.exhaustsAt {α : Type} {x : Except OperandFault α} {b n : Nat}
    (h : FaultsIn (· ≠ .nestingExhausted) x) : FaultsIn (ExhaustsAt b n) x :=
  h.mono fun _ => ExhaustsAt.of_ne

namespace Operand

open TokenReader

/-- Reading a token fails only for want of one. -/
theorem next_faults (ts : List UInt32) : FaultsIn (· ≠ .nestingExhausted) (next ts) := by
  cases ts with
  | nil => exact FaultsIn.error (by decide)
  | cons t ts => exact FaultsIn.pure

theorem extensions_faults (m : Modifier) (ts : List UInt32) :
    FaultsIn (· ≠ .nestingExhausted) (extensions m ts) := by
  induction ts generalizing m with
  | nil => exact FaultsIn.error (by decide)
  | cons t ts ih =>
    rw [extensions]
    split
    · exact ih _
    · exact FaultsIn.pure

theorem immediates_faults (c : Nat) (ts : List UInt32) :
    FaultsIn (· ≠ .nestingExhausted) (immediates c ts) := by
  unfold immediates
  split
  · exact FaultsIn.bind (next_faults ts) fun _ _ => FaultsIn.pure
  · split
    · refine FaultsIn.bind (next_faults ts) ?_
      rintro ⟨_, ts₁⟩ -
      refine FaultsIn.bind (next_faults ts₁) ?_
      rintro ⟨_, ts₂⟩ -
      refine FaultsIn.bind (next_faults ts₂) ?_
      rintro ⟨_, ts₃⟩ -
      exact FaultsIn.bind (next_faults ts₃) fun _ _ => FaultsIn.pure
    · exact FaultsIn.error (by simp)

theorem relative_faults (r : RawOperand) : FaultsIn (· ≠ .nestingExhausted) r.relative := by
  unfold RawOperand.relative
  split
  · exact FaultsIn.error (by simp)
  · exact FaultsIn.pure

/-- The extension chain, read when the operand token announces it, never ends
with the nesting fault. -/
theorem chain_faults (token : UInt32) (ts : List UInt32) :
    FaultsIn (· ≠ .nestingExhausted)
      (if Opcode.isExtended token then extensions .none ts else pure (.none, ts)) := by
  split
  · exact extensions_faults _ ts
  · exact FaultsIn.pure

/-- Indices read one after another end with the nesting fault only where an
index read does, on no more tokens. -/
theorem indicesFrom_exhausts {read : Nat → TokenReader OperandIndex} {b : Nat}
    (hkeep : ∀ n ts, Ensures (fun p => p.2.length ≤ ts.length) (read n ts))
    (hread : ∀ n ts, FaultsIn (ExhaustsAt b ts.length) (read n ts)) (k n : Nat) (ts : List UInt32) :
    FaultsIn (ExhaustsAt b ts.length) (indicesFrom read k n ts) := by
  induction k generalizing n ts with
  | zero => exact FaultsIn.pure
  | succ k ih =>
    refine FaultsIn.bind (hread n ts) ?_
    rintro ⟨_, ts₁⟩ h₁
    have hlen := hkeep n ts _ h₁
    refine FaultsIn.bind ((ih (n + 1) ts₁).mono fun _ he => he.le hlen) ?_
    exact fun _ _ => FaultsIn.pure

/-- An index read ends with the nesting fault only where the nested operand
read does. -/
theorem readIndex_exhausts {bound : Nat}
    (ih : ∀ ts, FaultsIn (ExhaustsAt bound ts.length) (rawOperandWithin bound ts)) (rep : Nat)
    (ts : List UInt32) : FaultsIn (ExhaustsAt bound ts.length) (readIndex bound rep ts) := by
  unfold readIndex
  split
  · exact FaultsIn.bind (next_faults ts).exhaustsAt fun _ _ => FaultsIn.pure
  · refine FaultsIn.bind (ih ts) ?_
    rintro ⟨raw, _⟩ -
    exact FaultsIn.bind (relative_faults raw).exhaustsAt fun _ _ => FaultsIn.pure
  · refine FaultsIn.bind (next_faults ts).exhaustsAt ?_
    rintro ⟨_, ts₁⟩ h₁
    have hlen := next_consumes ts _ h₁
    refine FaultsIn.bind ((ih ts₁).mono fun _ he => he.le (Nat.le_of_lt hlen)) ?_
    rintro ⟨raw, _⟩ -
    exact FaultsIn.bind (relative_faults raw).exhaustsAt fun _ _ => FaultsIn.pure
  · exact FaultsIn.error (ExhaustsAt.of_ne (by simp))

/-- The nesting fault arises only from a bound at most the tokens left: each
level of nesting reads a token before it nests again. -/
theorem rawOperandWithin_exhausts (bound : Nat) (ts : List UInt32) :
    FaultsIn (ExhaustsAt bound ts.length) (rawOperandWithin bound ts) := by
  induction bound generalizing ts with
  | zero => exact FaultsIn.error fun _ => Nat.zero_le _
  | succ bound ih =>
    rw [rawOperandWithin]
    refine FaultsIn.bind (next_faults ts).exhaustsAt ?_
    rintro ⟨token, ts₁⟩ h₁
    have hlen₁ := next_consumes ts _ h₁
    dsimp only at hlen₁ ⊢
    rw [← apply_ite_left bind]
    refine FaultsIn.bind (chain_faults token ts₁).exhaustsAt ?_
    rintro ⟨_, ts₂⟩ h₂
    have hlen₂ := chain_keeps token ts₁ _ h₂
    dsimp only at hlen₂ ⊢
    refine FaultsIn.guard (ExhaustsAt.of_ne (by simp)) ?_
    -- a nested read that runs out of bound had at most `bound` tokens, fewer than `ts`
    have hidx := indicesFrom_exhausts (b := bound) (fun n ts => readIndex_keeps bound _ ts)
      (fun n ts => readIndex_exhausts ih (((token >>> (22 + 3 * n).toUInt32) &&& 7).toNat) ts)
      (((token >>> 20) &&& 3).toNat) 0 ts₂
    refine FaultsIn.bind (hidx.mono fun _ he he' => by have := he he'; omega) ?_
    rintro ⟨_, ts₃⟩ -
    split
    · simp only [pure_bind]
      exact FaultsIn.bind (immediates_faults _ _).exhaustsAt fun _ _ => FaultsIn.pure
    · exact FaultsIn.pure

/-- `rawOperand` never ends with the nesting fault: its bound exceeds the
tokens. -/
theorem rawOperand_ne_exhausted (ts : List UInt32) : rawOperand ts ≠ .error .nestingExhausted := by
  intro h
  have := rawOperandWithin_exhausts (ts.length + 1) ts _ h rfl
  omega

/-- Decoding an operand is total, and its nesting bound is never what stops it:
every extension step and every operand read, at any depth of relative
indices, consumes tokens, so every bound above the number of tokens left
decodes as `rawOperand` does, and `rawOperand` ends with a value, a want of
tokens or an unsupported encoding, never with the nesting fault. -/
theorem rawOperand_consumes_and_bound_suffices :
    (∀ m ts, Ensures (fun p => p.2.length < ts.length) (extensions m ts)) ∧
    (∀ bound ts, Ensures (fun p => p.2.length < ts.length) (rawOperandWithin bound ts)) ∧
    (∀ bound ts, ts.length < bound → rawOperandWithin bound ts = rawOperand ts) ∧
    (∀ ts, rawOperand ts ≠ .error .nestingExhausted) :=
  ⟨extensions_consumes, rawOperandWithin_consumes, fun _ _ h => rawOperandWithin_of_length_lt h,
    rawOperand_ne_exhausted⟩

end Operand

end ShaderRecovery
