import Mathlib
import ShaderRecovery.Bytecode.Decode

/-!
# Decoding follows the instruction chain

The body of a token program is cut into a chain of elements: the first starts
at word `0`, and each next one where the previous one ends, its length being
the length field of its opcode token or, for a `customdata` block, the word
after the token. This module states that chain as a relation on its own and
proves that decoding a vertex or pixel program is a fold over it:

* `Decode.lengthAt`, `Decode.faultAt` — the length of the element at a word,
  and what is wrong with it: no length word, length zero, or running past the
  body.
* `Decode.Chain body i j ks` — from word `i` the chain reaches word `j` through
  the elements `ks`, each with a length that reads, is positive and fits.
* `Decode.declsOf`, `Decode.instructionsOf` — what one element contributes: a
  `customdata` block one `customData` declaration, a `nop` nothing, a
  declaration opcode one declaration (`unknown` when its operands do not
  decode) and any other opcode one instruction (`unknown` likewise).
* `Decode.walk_next`, `Decode.walk_fault`, `Decode.walk_chain` — one sound
  element is one step of the walk, a broken one ends it with its error, and a
  whole chain is the fold of its elements.
* `Decode.Chain.cover` — from any word the chain either reaches the end of the
  body or stops at a broken element.

Principal result: `build_follows_chain` — only vertex and pixel programs are
decoded; one decodes exactly when its chain reaches the end of the body, into
the images of the chain's elements in order, and otherwise fails with the
fault of the element the chain stops at, placed at its word in the program.
-/

namespace ShaderRecovery

namespace Decode

/-! ## The chain -/

section Chain

variable (body : List UInt32)

/-- The length of the element starting at body word `i`; `none` past the end,
and for a `customdata` block with no length word. -/
def lengthAt (i : Nat) : Option Nat :=
  match body.drop i with
  | [] => none
  | t :: ts => elementLength t ts

/-- What breaks the element starting at body word `i`; `none` for an element
that fits, and past the end of the body, where the chain stops. -/
def faultAt (i : Nat) : Option ChainFault :=
  match body.drop i with
  | [] => none
  | t :: ts =>
    match elementLength t ts with
    | none => some (.unexpectedEof 1 0)
    | some len =>
      if len = 0 then some .lengthZero
      else if body.length < i + len then
        some (.outOfBounds (bodyStart + i) len (body.length + bodyStart))
      else none

/-- `Chain body i j ks`: from body word `i` the chain reaches word `j` through
the elements whose words are `ks`, each of a length that reads, is positive
and fits in the body. -/
inductive Chain : Nat → Nat → List (List UInt32) → Prop
  | stop (i : Nat) : Chain i i []
  | next {i len j : Nat} {ks : List (List UInt32)} :
      lengthAt body i = some len → 0 < len → i + len ≤ body.length →
      Chain (i + len) j ks → Chain i j ((body.drop i).take len :: ks)

end Chain

/-! ## What an element contributes -/

/-- The declarations of one element: a `customdata` block gives its class and
its length in words. -/
def declsOf : List UInt32 → List Decl
  | [] => []
  | t :: ts =>
    let op := Opcode.ofToken t
    if op = Opcode.customData then [.customData (t >>> 11).toNat (ts.length + 1)]
    else if op = Opcode.nop then []
    else if Opcode.isDeclaration op then [(Decl.decode? op (t :: ts)).getD (.unknown op)]
    else []

/-- The instructions of one element. -/
def instructionsOf : List UInt32 → List Instruction
  | [] => []
  | t :: ts =>
    let op := Opcode.ofToken t
    if op = Opcode.customData ∨ op = Opcode.nop ∨ Opcode.isDeclaration op then []
    else
      match Instruction.decode op (t :: ts) with
      | .ok i => [i]
      | .error _ => [.unknown op]

end Decode

namespace Decoded

/-- Adds the images of one chain element. -/
def addElement (d : Decoded) (w : List UInt32) : Decoded :=
  ⟨d.decls ++ Decode.declsOf w, d.instructions ++ Decode.instructionsOf w⟩

theorem foldl_addElement (ks : List (List UInt32)) (d : Decoded) :
    ks.foldl addElement d =
      ⟨d.decls ++ ks.flatMap Decode.declsOf, d.instructions ++ ks.flatMap Decode.instructionsOf⟩ := by
  induction ks generalizing d with
  | nil => simp
  | cons w ks ih => simp [ih, addElement]

end Decoded

namespace Decode

/-! ## One element, one step -/

theorem element_cons {t : UInt32} (rest : List UInt32) (acc : Decoded)
    (hc : Opcode.ofToken t ≠ Opcode.customData) :
    element acc (Opcode.ofToken t) (t :: rest) = acc.addElement (t :: rest) := by
  unfold element Decoded.addElement declsOf instructionsOf
  by_cases hn : Opcode.ofToken t = Opcode.nop
  · have hnc : Opcode.nop ≠ Opcode.customData := by decide
    simp [hn, hnc]
  · by_cases hd : Opcode.isDeclaration (Opcode.ofToken t) = true
    · simp [hc, hn, hd, Decoded.addDecl]
    · cases hi : Instruction.decode (Opcode.ofToken t) (t :: rest) <;>
        simp [hc, hn, hd, hi, Decoded.addInstruction]

theorem element_customData (acc : Decoded) (w : List UInt32) :
    element acc Opcode.customData w = acc := by
  simp [element]

/-- A `customdata` block is the declaration the walk adds before the element. -/
theorem addElement_customData {t : UInt32} (rest : List UInt32) (acc : Decoded)
    (hc : Opcode.ofToken t = Opcode.customData) :
    acc.addElement (t :: rest) = acc.addDecl (.customData (t >>> 11).toNat (rest.length + 1)) := by
  simp [Decoded.addElement, Decoded.addDecl, declsOf, instructionsOf, hc]

theorem take_cons_of_pos (t : UInt32) (ts : List UInt32) {len : Nat} (h : 0 < len) :
    (t :: ts).take len = t :: ts.take (len - 1) := by
  obtain ⟨k, rfl⟩ : ∃ k, len = k + 1 := ⟨len - 1, by omega⟩
  rfl

section Walk

variable {body : List UInt32}

/-! An element starts inside the body: there is a token at its word. -/

theorem drop_eq_cons {i : Nat} (h : i < body.length) : ∃ t ts, body.drop i = t :: ts :=
  ⟨body[i], body.drop (i + 1), List.drop_eq_getElem_cons h⟩

theorem lt_length_of_lengthAt {i len : Nat} (h : lengthAt body i = some len) : i < body.length := by
  refine Nat.lt_of_not_le fun hle => ?_
  rw [lengthAt, List.drop_eq_nil_of_le hle] at h
  cases h

theorem lt_length_of_faultAt {i : Nat} {f : ChainFault} (h : faultAt body i = some f) : i < body.length := by
  refine Nat.lt_of_not_le fun hle => ?_
  rw [faultAt, List.drop_eq_nil_of_le hle] at h
  cases h

/-- A sound element is one step of the walk, which adds its images. -/
theorem walk_next {i len : Nat} (acc : Decoded) (hl : lengthAt body i = some len) (h0 : 0 < len)
    (hn : i + len ≤ body.length) :
    walk body.length i (body.drop i) acc =
      walk body.length (i + len) (body.drop (i + len)) (acc.addElement ((body.drop i).take len)) := by
  obtain ⟨t, ts, hts⟩ := drop_eq_cons (lt_length_of_lengthAt hl)
  have hlen : (body.drop i).length = body.length - i := List.length_drop
  rw [hts] at hlen
  simp only [lengthAt, hts] at hl
  rw [hts, walk.eq_2, hl]
  dsimp only
  rw [dif_neg (by omega), dif_neg (by simp only [List.length_cons] at hlen ⊢; omega),
    ← hts, List.drop_drop, hts, take_cons_of_pos t ts h0]
  congr 1
  by_cases hc : Opcode.ofToken t = Opcode.customData
  · -- a `customdata` block: the length word follows the token and gives the length
    obtain ⟨l, ts', rfl, hll⟩ : ∃ l ts', ts = l :: ts' ∧ l.toNat = len := by
      rw [elementLength, if_pos hc] at hl
      cases ts with
      | nil => simp at hl
      | cons l ts' => exact ⟨l, ts', rfl, by simpa using hl⟩
    have hk : (List.take (len - 1) (l :: ts')).length = len - 1 := by
      simp only [List.length_take, List.length_cons] at hlen ⊢
      omega
    rw [if_pos hc, hc, element_customData, addElement_customData _ _ hc, hk]
    simp only [List.head?_cons, hll, Nat.sub_add_cancel h0]
  · rw [if_neg hc, element_cons _ _ hc]

/-- A broken element ends the walk with its fault, at its word in the program. -/
theorem walk_fault {i : Nat} {f : ChainFault} (acc : Decoded) (hf : faultAt body i = some f) :
    walk body.length i (body.drop i) acc = .error ⟨bodyStart + i, f⟩ := by
  obtain ⟨t, ts, hts⟩ := drop_eq_cons (lt_length_of_faultAt hf)
  have hlen : (t :: ts).length = body.length - i := by rw [← hts, List.length_drop]
  simp only [faultAt, hts] at hf
  rw [hts, walk.eq_2]
  cases he : elementLength t ts with
  | none =>
    simp only [he, Option.some.injEq] at hf ⊢
    rw [← hf]
  | some len =>
    simp only [he] at hf ⊢
    by_cases h0 : len = 0
    · rw [if_pos h0] at hf
      cases hf
      rw [dif_pos h0]
    · rw [if_neg h0] at hf
      by_cases hb : body.length < i + len
      · rw [if_pos hb] at hf
        cases hf
        rw [dif_neg h0, dif_pos (by omega), Nat.add_comm body.length]
      · rw [if_neg hb] at hf
        cases hf

/-- The walk over a chain is the fold of its elements. -/
theorem walk_chain {i j : Nat} {ks : List (List UInt32)} (acc : Decoded) (hc : Chain body i j ks) :
    walk body.length i (body.drop i) acc =
      walk body.length j (body.drop j) (ks.foldl Decoded.addElement acc) := by
  induction hc generalizing acc with
  | stop => rfl
  | next hl h0 hn _ ih => rw [walk_next acc hl h0 hn, ih, List.foldl_cons]

theorem walk_end (acc : Decoded) : walk body.length body.length (body.drop body.length) acc = .ok acc := by
  rw [List.drop_length, walk_nil]

end Walk

/-! ## Where the chain goes -/

/-- An element with nothing wrong has a length that reads, is positive and fits. -/
theorem sound_of_faultAt {body : List UInt32} {i : Nat} (hi : i < body.length)
    (hf : faultAt body i = none) :
    ∃ len, lengthAt body i = some len ∧ 0 < len ∧ i + len ≤ body.length := by
  obtain ⟨t, ts, hts⟩ := drop_eq_cons hi
  simp only [faultAt, hts] at hf
  cases he : elementLength t ts with
  | none => simp [he] at hf
  | some len =>
    simp only [he] at hf
    have h0 : len ≠ 0 := fun h => by simp [h] at hf
    have hb : ¬body.length < i + len := fun h => by simp [h0, h] at hf
    exact ⟨len, by simp [lengthAt, hts, he], by omega, by omega⟩

/-- From any word in the body the chain reaches the end, or stops at a broken
element. -/
theorem Chain.cover (body : List UInt32) (i : Nat) (hi : i ≤ body.length) :
    (∃ ks, Chain body i body.length ks) ∨ ∃ j ks f, Chain body i j ks ∧ faultAt body j = some f := by
  by_cases he : i = body.length
  · subst he
    exact .inl ⟨[], .stop _⟩
  · cases hf : faultAt body i with
    | some f => exact .inr ⟨i, [], f, .stop i, hf⟩
    | none =>
      obtain ⟨len, hl, h0, hn⟩ := sound_of_faultAt (by omega) hf
      rcases Chain.cover body (i + len) hn with ⟨ks, hks⟩ | ⟨j, ks, f, hks, hf'⟩
      · exact .inl ⟨_, .next hl h0 hn hks⟩
      · exact .inr ⟨j, _, f, .next hl h0 hn hks, hf'⟩
termination_by body.length - i

end Decode

/-! ## Building a program -/

namespace ShaderIr

/-- The program a chain of elements decodes to. -/
def ofChain (shader : CompiledShader) (fs : FunctionStage) (ks : List (List UInt32)) : ShaderIr where
  stage := fs
  major := shader.program.version.major
  minor := shader.program.version.minor
  decls := ks.flatMap Decode.declsOf
  instructions := ks.flatMap Decode.instructionsOf
  inputs := shader.inputs
  outputs := shader.outputs
  bindings := none

theorem ofStage?_eq_none_iff (stage : Stage) :
    FunctionStage.ofStage? stage = none ↔ stage ≠ .vertex ∧ stage ≠ .pixel := by
  cases stage <;> simp [FunctionStage.ofStage?]

theorem build_of_chain {shader : CompiledShader} {stage : Stage} {fs : FunctionStage}
    (hs : FunctionStage.ofStage? stage = some fs) {ks : List (List UInt32)}
    (hc : Decode.Chain shader.program.body 0 shader.program.body.length ks) :
    build shader stage = .ok (ofChain shader fs ks) := by
  have hw := Decode.walk_chain Decoded.empty hc
  rw [Decode.walk_end, Decoded.foldl_addElement, List.drop_zero] at hw
  simp only [build, hs, hw]
  rfl

theorem build_of_fault {shader : CompiledShader} {stage : Stage} {fs : FunctionStage}
    (hs : FunctionStage.ofStage? stage = some fs) {j : Nat} {ks : List (List UInt32)} {f : ChainFault}
    (hc : Decode.Chain shader.program.body 0 j ks) (hf : Decode.faultAt shader.program.body j = some f) :
    build shader stage = .error (.chain ⟨Decode.bodyStart + j, f⟩) := by
  have hw := Decode.walk_chain Decoded.empty hc
  rw [Decode.walk_fault _ hf, List.drop_zero] at hw
  simp [build, hs, hw]

/-- Decoding a program follows its instruction chain. Only vertex and pixel
programs are decoded. For those, decoding succeeds exactly when the chain from
the first body word reaches the end of the body, and the program then holds
the images of the chain's elements in order; when the chain stops at a broken
element, decoding fails with that element's fault, at its word in the program
(two header words before the body). -/
theorem build_follows_chain (shader : CompiledShader) (stage : Stage) :
    ((∃ s, build shader stage = .error (.unsupportedStage s)) ↔ stage ≠ .vertex ∧ stage ≠ .pixel) ∧
    ∀ fs, FunctionStage.ofStage? stage = some fs →
      ((∃ ir, build shader stage = .ok ir) ↔
          ∃ ks, Decode.Chain shader.program.body 0 shader.program.body.length ks) ∧
      (∀ ks, Decode.Chain shader.program.body 0 shader.program.body.length ks →
          build shader stage = .ok (ofChain shader fs ks)) ∧
      (∀ j ks f, Decode.Chain shader.program.body 0 j ks → Decode.faultAt shader.program.body j = some f →
          build shader stage = .error (.chain ⟨Decode.bodyStart + j, f⟩)) := by
  refine ⟨?_, fun fs hs => ⟨?_, fun ks hc => build_of_chain hs hc,
    fun j ks f hc hf => build_of_fault hs hc hf⟩⟩
  · -- an unsupported stage is the only way to that error
    rw [← ofStage?_eq_none_iff]
    constructor
    · rintro ⟨s, hb⟩
      cases hs : FunctionStage.ofStage? stage with
      | none => rfl
      | some fs =>
        rcases Decode.Chain.cover shader.program.body 0 (Nat.zero_le _) with
          ⟨ks, hc⟩ | ⟨j, ks, f, hc, hf⟩
        · rw [build_of_chain hs hc] at hb
          cases hb
        · rw [build_of_fault hs hc hf] at hb
          cases hb
    · intro hs
      exact ⟨stage, build_unsupported shader stage hs⟩
  · constructor
    · rintro ⟨ir, hb⟩
      rcases Decode.Chain.cover shader.program.body 0 (Nat.zero_le _) with
        ⟨ks, hc⟩ | ⟨j, ks, f, hc, hf⟩
      · exact ⟨ks, hc⟩
      · rw [build_of_fault hs hc hf] at hb
        cases hb
    · rintro ⟨ks, hc⟩
      exact ⟨_, build_of_chain hs hc⟩

end ShaderIr

end ShaderRecovery
