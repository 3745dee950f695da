import Mathlib
import ShaderRecovery.Hlsl.Emit

/-!
# Structured control flow is indented by nesting depth

The body of a decompiled function is written line by line: the local
declarations at the base depth, then each instruction. `if (…) {` and
`while (true) {` raise the depth after their line, `} else {` stands one level
back and raises it again, the ends `}` stand one level back; lowering the depth
stops at zero.

Each control-flow instruction is classified once (`Instruction.blockStep`): it
opens a block, turns an `if` to its `else` part, closes a block, or keeps the
blocks as they are. The blocks open after a run of instructions are a stack
(`Instruction.blocksAfter`), and the instructions are well nested when every
step matches the innermost open block and none is left open.

* `LineWriter.indented`, `LineWriter.WritesLines` — lines written at a depth;
  `foldl_line_text` — writing lines appends each at the writer's depth.
* `Emit.instruction_writes` — one instruction writes its lines at the writer's
  depth (one level back for `else` and the ends), its control-flow line being
  exactly its brace line, and moves the depth by its block step.
* `ShaderIr.writerAt` — the writer after the locals and the first `k`
  instructions; `depth_writerAt` — where the blocks nest, its depth is the base
  depth plus the blocks open.

Principal result: `ShaderIr.emit_indents_by_nesting`.
-/

namespace ShaderRecovery

/-- A block of structured control flow: an `if`, in its `then` or `else` part,
or a loop. -/
inductive Block where
  | conditional
  | loop
  deriving DecidableEq, Repr

/-- What an instruction does to structured control flow. -/
inductive BlockStep where
  /-- Opens a block: `if (…) {` or `while (true) {`. -/
  | opens (b : Block)
  /-- `} else {`: the innermost `if` goes on in its `else` part. -/
  | turns
  /-- `}`: closes the innermost block, of this kind. -/
  | closes (b : Block)
  /-- Anything that is not control flow. -/
  | keeps
  deriving DecidableEq, Repr

namespace BlockStep

/-- The blocks open after the step, innermost first; `none` when an `else` is
not directly inside an `if` or an end does not close the innermost block. -/
def nest : BlockStep → List Block → Option (List Block)
  | opens b, bs => some (b :: bs)
  | turns, bs => if bs.head? = some .conditional then some bs else none
  | closes b, bs => if bs.head? = some b then some bs.tail else none
  | keeps, bs => some bs

/-- How many levels the step's own line stands back from the depth before it:
`else` and the ends align with their opener. -/
def shift : BlockStep → Nat
  | turns | closes _ => 1
  | opens _ | keeps => 0

/-- The writer's depth after the step: one more after an opener, one less
after an end, never below zero. -/
def depthAfter : BlockStep → Nat → Nat
  | opens _, δ => δ + 1
  | turns, δ => δ - 1 + 1
  | closes _, δ => δ - 1
  | keeps, δ => δ

/-- Where the step nests, the depth follows the open blocks: from the base
depth plus the blocks open before the step to the base plus those after it. -/
theorem depthAfter_of_nest {st : BlockStep} {bs bs' : List Block} (h : st.nest bs = some bs')
    (d : Nat) : st.depthAfter (d + bs.length) = d + bs'.length := by
  cases st with
  | opens b =>
    cases h
    simp [depthAfter]
    omega
  | turns =>
    simp only [nest] at h
    split at h
    · rename_i hhead
      cases h
      have hlen : 0 < bs.length := List.length_pos_iff.mpr (by rintro rfl; cases hhead)
      simp only [depthAfter]
      omega
    · cases h
  | closes b =>
    simp only [nest] at h
    split at h
    · rename_i hhead
      cases h
      have hlen : 0 < bs.length := List.length_pos_iff.mpr (by rintro rfl; cases hhead)
      simp only [depthAfter, List.length_tail]
      omega
    · cases h
  | keeps =>
    cases h
    rfl

end BlockStep

namespace Instruction

/-- The block step of an instruction. -/
def blockStep : Instruction → BlockStep
  | .beginIf _ _ => .opens .conditional
  | .beginLoop => .opens .loop
  | .beginElse => .turns
  | .endIf => .closes .conditional
  | .endLoop => .closes .loop
  | .unary .. | .binary .. | .mad .. | .movc .. | .dot .. | .sinCos .. | .sample .. | .load ..
  | .discard .. | .exitLoop | .exitLoopIf .. | .nextIteration | .ret | .unknown _ => .keeps

/-- The blocks open after a run of instructions, innermost first; `none` when
the run does not nest. -/
def blocksAfter (is : List Instruction) : Option (List Block) :=
  is.foldlM (fun bs i => i.blockStep.nest bs) []

/-- Every `else` stands directly inside an open `if`, every end closes the
innermost open block of its kind, and no block is left open. -/
def WellNested (is : List Instruction) : Prop := blocksAfter is = some []

instance (is : List Instruction) : Decidable (WellNested is) :=
  inferInstanceAs (Decidable (blocksAfter is = some []))

theorem blocksAfter_take_succ (is : List Instruction) {k : Nat} (hk : k < is.length) :
    blocksAfter (is.take (k + 1)) = (blocksAfter (is.take k)).bind is[k].blockStep.nest := by
  rw [blocksAfter, blocksAfter, List.take_add_one, List.getElem?_eq_getElem hk, Option.toList_some,
    List.foldlM_append]
  simp only [List.foldlM_cons, List.foldlM_nil, bind_pure]
  rfl

/-- Every prefix of a well-nested run nests. -/
theorem WellNested.blocksAfter_take {is : List Instruction} (h : WellNested is) (k : Nat) :
    ∃ bs, blocksAfter (is.take k) = some bs := by
  have hwhole : blocksAfter is =
      (blocksAfter (is.take k)).bind fun bs => (is.drop k).foldlM (fun bs i => i.blockStep.nest bs) bs := by
    conv_lhs => rw [← List.take_append_drop k is]
    unfold blocksAfter
    rw [List.foldlM_append]
    rfl
  cases hpre : blocksAfter (is.take k) with
  | none =>
    -- a prefix that fails to nest makes the whole run fail
    have hnest : blocksAfter is = some [] := h
    rw [hnest, hpre] at hwhole
    cases hwhole
  | some bs => exact ⟨bs, rfl⟩

end Instruction

namespace LineWriter

/-- Lines written at depth `k`: each after `k * width` spaces, and ended by a
newline. -/
def indented (width k : Nat) (ls : List String) : String :=
  String.join (ls.map fun s => String.ofList (List.replicate (k * width) ' ') ++ s ++ "\n")

/-- `w'` is `w` after writing some lines at its depth. -/
def WritesLines (w w' : LineWriter) : Prop := ∃ ls : List String, w' = ls.foldl line w

@[simp] theorem line_depth (w : LineWriter) (s : String) : (w.line s).depth = w.depth := rfl

@[simp] theorem line_width (w : LineWriter) (s : String) : (w.line s).width = w.width := rfl

@[simp] theorem indent_text (w : LineWriter) : w.indent.text = w.text := rfl

@[simp] theorem indent_width (w : LineWriter) : w.indent.width = w.width := rfl

@[simp] theorem indent_depth (w : LineWriter) : w.indent.depth = w.depth + 1 := rfl

@[simp] theorem dedent_text (w : LineWriter) : w.dedent.text = w.text := rfl

@[simp] theorem dedent_width (w : LineWriter) : w.dedent.width = w.width := rfl

@[simp] theorem dedent_depth (w : LineWriter) : w.dedent.depth = w.depth - 1 := rfl

theorem foldl_line_depth (ls : List String) (w : LineWriter) : (ls.foldl line w).depth = w.depth := by
  induction ls generalizing w with
  | nil => rfl
  | cons s ls ih => rw [List.foldl_cons, ih, line_depth]

theorem foldl_line_width (ls : List String) (w : LineWriter) : (ls.foldl line w).width = w.width := by
  induction ls generalizing w with
  | nil => rfl
  | cons s ls ih => rw [List.foldl_cons, ih, line_width]

/-- Writing lines appends each at the writer's depth. -/
theorem foldl_line_text (ls : List String) (w : LineWriter) :
    (ls.foldl line w).text = w.text ++ indented w.width w.depth ls := by
  induction ls generalizing w with
  | nil => simp [indented]
  | cons s ls ih =>
    rw [List.foldl_cons, ih, line_text, line_width, line_depth, indented, indented, List.map_cons,
      String.join_cons]
    simp only [margin, String.append_assoc]

theorem line_text_indented (w : LineWriter) (s : String) :
    (w.line s).text = w.text ++ indented w.width w.depth [s] :=
  foldl_line_text [s] w

theorem WritesLines.refl (w : LineWriter) : WritesLines w w := ⟨[], rfl⟩

theorem WritesLines.line (w : LineWriter) (s : String) : WritesLines w (w.line s) := ⟨[s], rfl⟩

theorem WritesLines.trans {w₁ w₂ w₃ : LineWriter} (h₁ : WritesLines w₁ w₂) (h₂ : WritesLines w₂ w₃) :
    WritesLines w₁ w₃ := by
  obtain ⟨ls₁, rfl⟩ := h₁
  obtain ⟨ls₂, rfl⟩ := h₂
  exact ⟨ls₁ ++ ls₂, by rw [List.foldl_append]⟩

/-- A fold whose every step writes lines writes lines. -/
theorem WritesLines.foldl {α : Type} {f : LineWriter → α → LineWriter}
    (hf : ∀ w x, WritesLines w (f w x)) (xs : List α) (w : LineWriter) :
    WritesLines w (xs.foldl f w) := by
  induction xs generalizing w with
  | nil => exact .refl w
  | cons x xs ih => exact (hf w x).trans (ih (f w x))

theorem WritesLines.depth_eq {w w' : LineWriter} (h : WritesLines w w') : w'.depth = w.depth := by
  obtain ⟨ls, rfl⟩ := h
  exact foldl_line_depth ls w

end LineWriter

namespace Emit

open LineWriter

/-- The one line a control-flow instruction writes, with its brace. -/
def blockLine (ir : ShaderIr) : Instruction → Option String
  | .beginIf c nz => some ("if (" ++ condition ir c nz ++ ") \x7b")
  | .beginElse => some "\x7d else \x7b"
  | .endIf | .endLoop => some "\x7d"
  | .beginLoop => some "while (true) \x7b"
  | .unary .. | .binary .. | .mad .. | .movc .. | .dot .. | .sinCos .. | .sample .. | .load ..
  | .discard .. | .exitLoop | .exitLoopIf .. | .nextIteration | .ret | .unknown _ => none

variable (ir : ShaderIr)

theorem assign_writesLines (w : LineWriter) (d : Dst) (value : List Nat → String) :
    WritesLines w (assign ir w d value) := by
  unfold assign
  dsimp only
  split
  · exact .refl w
  · apply WritesLines.foldl
    rintro w ⟨target, ls⟩
    exact .line w _

/-- An instruction that is not control flow writes lines at the writer's depth. -/
theorem instruction_writesLines (w : LineWriter) (i : Instruction) (h : i.blockStep = .keeps) :
    WritesLines w (instruction ir w i) := by
  cases i with
  | beginIf => cases h
  | beginElse => cases h
  | endIf => cases h
  | endLoop => cases h
  | beginLoop => cases h
  | sinCos sin cos s =>
    -- the sine, then the cosine, each an assignment when asked for
    cases sin <;> cases cos <;> simp only [instruction]
    · exact .refl w
    · exact assign_writesLines ir w _ _
    · exact assign_writesLines ir w _ _
    · exact (assign_writesLines ir w _ _).trans (assign_writesLines ir _ _ _)
  | discard => exact .line w _
  | exitLoop => exact .line w _
  | exitLoopIf => exact .line w _
  | nextIteration => exact .line w _
  | ret => exact .line w _
  | unknown => exact .line w _
  | _ =>
    simp only [instruction]
    exact assign_writesLines ir w _ _

theorem blockLine_of_keeps (i : Instruction) (h : i.blockStep = .keeps) : blockLine ir i = none := by
  cases i <;> first | rfl | cases h

/-- One instruction writes its lines at the writer's depth, one level back for
`else` and the ends; a control-flow instruction writes exactly its brace
line; and the depth moves by the instruction's block step. -/
theorem instruction_writes (w : LineWriter) (i : Instruction) :
    ∃ ls, (instruction ir w i).text = w.text ++ indented w.width (w.depth - i.blockStep.shift) ls ∧
      (instruction ir w i).width = w.width ∧
      (instruction ir w i).depth = i.blockStep.depthAfter w.depth ∧
      ∀ s, blockLine ir i = some s → ls = [s] := by
  by_cases hk : i.blockStep = .keeps
  · obtain ⟨ls, hls⟩ := instruction_writesLines ir w i hk
    refine ⟨ls, ?_, ?_, ?_, fun s hs => ?_⟩
    · rw [hls, foldl_line_text, hk]
      rfl
    · rw [hls, foldl_line_width]
    · rw [hls, foldl_line_depth, hk]
      rfl
    · rw [blockLine_of_keeps ir i hk] at hs
      cases hs
  · -- control flow writes its one brace line, then moves the depth
    cases i with
    | beginIf c nz => exact ⟨_, line_text_indented _ _, rfl, rfl, fun s h => by cases h; rfl⟩
    | beginElse => exact ⟨_, line_text_indented _ _, rfl, rfl, fun s h => by cases h; rfl⟩
    | endIf => exact ⟨_, line_text_indented _ _, rfl, rfl, fun s h => by cases h; rfl⟩
    | endLoop => exact ⟨_, line_text_indented _ _, rfl, rfl, fun s h => by cases h; rfl⟩
    | beginLoop => exact ⟨_, line_text_indented _ _, rfl, rfl, fun s h => by cases h; rfl⟩
    | _ => exact absurd rfl hk

theorem instruction_width (w : LineWriter) (i : Instruction) : (instruction ir w i).width = w.width := by
  obtain ⟨-, -, hwidth, -⟩ := instruction_writes ir w i
  exact hwidth

theorem foldl_instruction_width (is : List Instruction) (w : LineWriter) :
    (is.foldl (instruction ir) w).width = w.width := by
  induction is generalizing w with
  | nil => rfl
  | cons i is ih => rw [List.foldl_cons, ih, instruction_width]

/-- The local declarations write lines at the writer's depth. -/
theorem locals_writesLines (w : LineWriter) : WritesLines w (locals ir w) := by
  unfold locals
  dsimp only
  refine (WritesLines.line w _).trans ((WritesLines.foldl ?_ _ _).trans (WritesLines.foldl ?_ _ _))
  · intro w d
    cases d with
    | indexableTemp array len _ => exact .line w _
    | _ => exact .refl w
  · exact fun w _ => .line w _

end Emit

namespace ShaderIr

open LineWriter

/-- The writer after the local declarations and the first `k` instructions. -/
def writerAt (ir : ShaderIr) (d width k : Nat) : LineWriter :=
  (ir.instructions.take k).foldl (Emit.instruction ir) (Emit.locals ir (LineWriter.create d width))

variable (ir : ShaderIr) (d width : Nat)

theorem writerAt_succ {k : Nat} (hk : k < ir.instructions.length) :
    ir.writerAt d width (k + 1) = Emit.instruction ir (ir.writerAt d width k) ir.instructions[k] := by
  rw [writerAt, writerAt, List.take_add_one, List.getElem?_eq_getElem hk, Option.toList_some,
    List.foldl_append, List.foldl_cons, List.foldl_nil]

theorem emit_eq_writerAt : ir.emit d width = (ir.writerAt d width ir.instructions.length).text := by
  rw [writerAt, List.take_length]
  rfl

theorem writerAt_zero_writes : WritesLines (LineWriter.create d width) (ir.writerAt d width 0) :=
  Emit.locals_writesLines ir _

theorem width_writerAt (k : Nat) : (ir.writerAt d width k).width = width := by
  obtain ⟨ls, hls⟩ := writerAt_zero_writes ir d width
  rw [writerAt, Emit.foldl_instruction_width]
  rw [writerAt, List.take_zero, List.foldl_nil] at hls
  rw [hls, foldl_line_width]
  rfl

/-- Each instruction moves the writer's depth by its block step. -/
theorem depth_writerAt_succ {k : Nat} (hk : k < ir.instructions.length) :
    (ir.writerAt d width (k + 1)).depth =
      ir.instructions[k].blockStep.depthAfter (ir.writerAt d width k).depth := by
  obtain ⟨-, -, -, hdepth, -⟩ := Emit.instruction_writes ir (ir.writerAt d width k) ir.instructions[k]
  rw [writerAt_succ ir d width hk, hdepth]

/-- Where the first `k` instructions nest, the writer after them stands at the
base depth plus the blocks they leave open. -/
theorem depth_writerAt {k : Nat} (hk : k ≤ ir.instructions.length) {bs : List Block}
    (h : Instruction.blocksAfter (ir.instructions.take k) = some bs) :
    (ir.writerAt d width k).depth = d + bs.length := by
  -- induction on the prefix, one instruction's block step at a time
  induction k generalizing bs with
  | zero =>
    cases h
    rw [(writerAt_zero_writes ir d width).depth_eq]
    rfl
  | succ k ih =>
    have hk' : k < ir.instructions.length := by omega
    rw [Instruction.blocksAfter_take_succ _ hk', Option.bind_eq_some_iff] at h
    obtain ⟨bs₀, h₀, hnest⟩ := h
    rw [depth_writerAt_succ ir d width hk', ih (by omega) h₀]
    exact BlockStep.depthAfter_of_nest hnest d

/-- What well-nested control flow gives the emitted body: each instruction's
lines stand at the base depth plus the blocks open before it, one level less
for `else` and the ends; a control-flow instruction's line is exactly
`if (…) {`, `} else {`, `}` or `while (true) {`; and the writer ends at the
base depth. -/
def IndentsByNesting (ir : ShaderIr) (d width : Nat) : Prop :=
  (∀ k (hk : k < ir.instructions.length), ∃ bs ls,
    Instruction.blocksAfter (ir.instructions.take k) = some bs ∧
    (ir.writerAt d width (k + 1)).text = (ir.writerAt d width k).text ++
      LineWriter.indented width (d + bs.length - ir.instructions[k].blockStep.shift) ls ∧
    ∀ s, Emit.blockLine ir ir.instructions[k] = some s → ls = [s]) ∧
  (ir.writerAt d width ir.instructions.length).depth = d

theorem indentsByNesting_of_wellNested (h : Instruction.WellNested ir.instructions) :
    ir.IndentsByNesting d width := by
  refine ⟨fun k hk => ?_, ?_⟩
  · obtain ⟨bs, hbs⟩ := h.blocksAfter_take k
    obtain ⟨ls, htext, -, -, hline⟩ :=
      Emit.instruction_writes ir (ir.writerAt d width k) ir.instructions[k]
    refine ⟨bs, ls, hbs, ?_, hline⟩
    rw [writerAt_succ ir d width hk, htext, width_writerAt, depth_writerAt ir d width hk.le hbs]
  · have hall : Instruction.blocksAfter (ir.instructions.take ir.instructions.length) = some [] := by
      rw [List.take_length]
      exact h
    rw [depth_writerAt ir d width le_rfl hall]
    rfl

/-- Structured control flow is indented by nesting depth: the local
declarations stand at the base depth; the body is the writer's text after the
last instruction; for any instruction list each instruction moves the depth by
its block step, an end never taking it below zero; and when the control flow
is well nested, each instruction's lines stand at the base depth plus the
blocks open before it (one level less for `else` and the ends, which align
with their opener), every `if`, `else` and loop line opens one brace and every
`else` and end line closes one, and the writer ends at the base depth. -/
theorem emit_indents_by_nesting :
    (∃ ls, (ir.writerAt d width 0).text = LineWriter.indented width d ls ∧
      (ir.writerAt d width 0).depth = d) ∧
    ir.emit d width = (ir.writerAt d width ir.instructions.length).text ∧
    (∀ k (hk : k < ir.instructions.length), (ir.writerAt d width (k + 1)).depth =
      ir.instructions[k].blockStep.depthAfter (ir.writerAt d width k).depth) ∧
    (Instruction.WellNested ir.instructions → ir.IndentsByNesting d width) := by
  refine ⟨?_, emit_eq_writerAt ir d width, fun k hk => depth_writerAt_succ ir d width hk,
    indentsByNesting_of_wellNested ir d width⟩
  obtain ⟨ls, hls⟩ := writerAt_zero_writes ir d width
  refine ⟨ls, ?_, ?_⟩
  · rw [hls, foldl_line_text]
    simp [LineWriter.create]
  · rw [hls, foldl_line_depth]
    rfl

/-- A loop around an `if` with an `else`. -/
def loopSample : ShaderIr :=
  let c : Src := ⟨.register ⟨.temp, .ofImm 0⟩, .identity, .none⟩
  ⟨.vertex, 5, 0, [], [.beginLoop, .beginIf c true, .ret, .beginElse, .exitLoop, .endIf, .endLoop],
    [], [], none⟩

theorem emit_indents_loopSample :
    Instruction.WellNested loopSample.instructions ∧ loopSample.IndentsByNesting 1 4 :=
  ⟨by decide, (emit_indents_by_nesting loopSample 1 4).2.2.2 (by decide)⟩

end ShaderIr

end ShaderRecovery
