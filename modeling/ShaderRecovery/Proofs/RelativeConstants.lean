import Mathlib
import ShaderRecovery.Hlsl.Emit

/-!
# Relative indices of constant reads

A constant buffer operand `cb{slot}[rel + k]` reads the register that one lane
of another register selects, `k` registers further on. Unbound, it prints its
index as the relative expression, plus `k` when `k` is not zero. Binding
metadata resolves the lanes on the immediate part `k` alone; bound to an array
or a matrix, the read prints the member subscripted by the relative expression
plus the row. A member that is neither prints with no subscript at all, the
same text for every index, so there the relative expression is lost.

* `Emit.applyModifier_infix` — a modifier wraps the expression it modifies;
* `Emit.constantRead_unresolved`, `Emit.constantRead_resolved` — the two ways
  a constant read is printed;
* `Emit.formatConstant_indexed` — an array or matrix member is subscripted by
  the relative expression;
* `Emit.formatConstant_flat` — any other member prints the same whatever the
  index.

Principal result: `Emit.srcExpr_keeps_relative` — the text of a relatively
indexed constant read holds the relative expression whenever its lanes stay
unresolved or resolve to an array or matrix member.
`Emit.flat_member_drops_relative` shows the remaining case: `cb0[tmp0.x]`
bound to the vector `_Color` prints as `_Color.xyzw`.
-/

namespace ShaderRecovery

namespace Emit

theorem applyModifier_infix (e : String) (m : Modifier) :
    ∃ pre post, applyModifier e m = pre ++ e ++ post := by
  cases m with
  | none => exact ⟨"", "", by simp [applyModifier]⟩
  | neg => exact ⟨"-", "", by simp [applyModifier]⟩
  | abs => exact ⟨"abs(", ")", rfl⟩
  | absNeg => exact ⟨"-abs(", ")", rfl⟩

theorem indexExpr_relative (ir : ShaderIr) (k : Nat) (rel : RelativeIndex) :
    ∃ post, indexExpr ir ⟨k, some rel⟩ = relativeExpr ir rel ++ post := by
  by_cases hk : k = 0
  · exact ⟨"", by simp [indexExpr, hk]⟩
  · exact ⟨" + " ++ toString k, by simp [indexExpr, hk, String.append_assoc]⟩

section Reads

variable {ir : ShaderIr} {slot : Nat} {reg : OperandIndex} {comps : List Nat}

/-- Lanes that no binding resolves print raw, with the register's index. -/
theorem constantRead_unresolved
    (h : ∀ md, ir.bindings = some md → md.resolveConstant slot reg.imm comps = none) :
    constantRead ir slot reg comps =
      "cb" ++ toString slot ++ "[" ++ indexExpr ir reg ++ "]." ++ letters comps := by
  unfold constantRead
  cases hb : ir.bindings with
  | none => rfl
  | some md => simp [h md hb]

theorem constantRead_resolved {md : BindingMetadata} {a : ConstantAccess} (hb : ir.bindings = some md)
    (ha : md.resolveConstant slot reg.imm comps = some a) :
    constantRead ir slot reg comps = formatConstant ir a reg := by
  simp [constantRead, hb, ha]

end Reads

/-- An array or matrix member is subscripted by the relative expression, then
the row when it is not the first. -/
theorem formatConstant_indexed (ir : ShaderIr) {a : ConstantAccess} (h : a.member.isIndexed = true)
    (k : Nat) (rel : RelativeIndex) :
    ∃ post, formatConstant ir a ⟨k, some rel⟩ = a.member.name ++ "[" ++ relativeExpr ir rel ++ post := by
  by_cases hrow : a.row = 0
  · exact ⟨"]." ++ letters a.components, by simp [formatConstant, h, hrow, String.append_assoc]⟩
  · exact ⟨" + " ++ toString a.row ++ "]." ++ letters a.components,
      by simp [formatConstant, h, hrow, String.append_assoc]⟩

/-- A member that is neither an array nor a matrix prints the same text
whatever the operand's index: its relative part is never read. -/
theorem formatConstant_flat (ir : ShaderIr) {a : ConstantAccess} (h : a.member.isIndexed = false)
    (reg reg' : OperandIndex) : formatConstant ir a reg = formatConstant ir a reg' := by
  simp [formatConstant, h]

/-- Relative indices survive in the text of a constant read: for every
program, binding and read `cb{slot}[rel + k]`, the printed read holds the
relative expression of `rel`, provided the lanes either stay unresolved, where
the raw `cb{slot}[rel + k]` is printed, or resolve to an array or matrix
member, printed `name[rel + row]`. -/
theorem srcExpr_keeps_relative (ir : ShaderIr) (slot k : Nat) (rel : RelativeIndex) (sw : Swizzle)
    (mod : Modifier) (lanes : List Nat)
    (hidx : ∀ md a, ir.bindings = some md →
      md.resolveConstant slot k (lanes.map sw.lane) = some a → a.member.isIndexed = true) :
    ∃ pre post, srcExpr ir ⟨.constantBuffer slot ⟨k, some rel⟩, sw, mod⟩ lanes =
      pre ++ relativeExpr ir rel ++ post := by
  have hsrc : srcExpr ir ⟨.constantBuffer slot ⟨k, some rel⟩, sw, mod⟩ lanes =
      applyModifier (constantRead ir slot ⟨k, some rel⟩ (lanes.map sw.lane)) mod := rfl
  -- the read itself holds the relative expression, bound or not
  have hread : ∃ pre post, constantRead ir slot ⟨k, some rel⟩ (lanes.map sw.lane) =
      pre ++ relativeExpr ir rel ++ post := by
    by_cases hres : ∃ md a, ir.bindings = some md ∧ md.resolveConstant slot k (lanes.map sw.lane) = some a
    · obtain ⟨md, a, hb, ha⟩ := hres
      obtain ⟨post, hpost⟩ := formatConstant_indexed ir (hidx md a hb ha) k rel
      refine ⟨a.member.name ++ "[", post, ?_⟩
      rw [constantRead_resolved hb ha, hpost]
    · have hnone : ∀ md, ir.bindings = some md → md.resolveConstant slot k (lanes.map sw.lane) = none :=
        fun md hb => Option.eq_none_iff_forall_ne_some.mpr fun a ha => hres ⟨md, a, hb, ha⟩
      obtain ⟨post, hpost⟩ := indexExpr_relative ir k rel
      refine ⟨"cb" ++ toString slot ++ "[", post ++ "]." ++ letters (lanes.map sw.lane), ?_⟩
      rw [constantRead_unresolved hnone, hpost]
      simp [String.append_assoc]
  obtain ⟨pre, post, hr⟩ := hread
  obtain ⟨pre', post', hm⟩ := applyModifier_infix (constantRead ir slot ⟨k, some rel⟩ (lanes.map sw.lane)) mod
  exact ⟨pre' ++ pre, post ++ post', by rw [hsrc, hm, hr]; simp [String.append_assoc]⟩

/-- The relative part `tmp0.x`: lane x of temporary 0. -/
def tmp0x : RelativeIndex := ⟨.temp, 0, 0⟩

/-- Globals with one array of two colors. -/
def colorArrayBinding : BindingMetadata := ⟨[⟨"$Globals", 0, [⟨"_Colors", 0, .vector 4, 2⟩]⟩], []⟩

/-- A vertex program bound to `colorArrayBinding`. -/
def colorArrayProgram : ShaderIr := ⟨.vertex, 5, 0, [], [], [], [], some colorArrayBinding⟩

theorem srcExpr_keeps_relative_array :
    (∀ md a, colorArrayProgram.bindings = some md →
      md.resolveConstant 0 0 ([0, 1, 2, 3].map Swizzle.identity.lane) = some a → a.member.isIndexed = true) ∧
    ∃ pre post, srcExpr colorArrayProgram ⟨.constantBuffer 0 ⟨0, some tmp0x⟩, Swizzle.identity, .none⟩
      [0, 1, 2, 3] = pre ++ relativeExpr colorArrayProgram tmp0x ++ post := by
  have hidx : ∀ md a, colorArrayProgram.bindings = some md →
      md.resolveConstant 0 0 ([0, 1, 2, 3].map Swizzle.identity.lane) = some a → a.member.isIndexed = true := by
    intro md a hb ha
    cases hb
    have hres : colorArrayBinding.resolveConstant 0 0 ([0, 1, 2, 3].map Swizzle.identity.lane) =
        some ⟨⟨"_Colors", 0, .vector 4, 2⟩, 0, [0, 1, 2, 3]⟩ := by decide
    rw [hres, Option.some.injEq] at ha
    rw [← ha]
    rfl
  exact ⟨hidx, srcExpr_keeps_relative colorArrayProgram 0 0 tmp0x Swizzle.identity .none [0, 1, 2, 3] hidx⟩

/-- Globals with one color vector. -/
def colorBinding : BindingMetadata := ⟨[⟨"$Globals", 0, [⟨"_Color", 0, .vector 4, 0⟩]⟩], []⟩

/-- A vertex program bound to `colorBinding`. -/
def colorProgram : ShaderIr := ⟨.vertex, 5, 0, [], [], [], [], some colorBinding⟩

/-- Bound to a vector, a relatively indexed read loses its index: the lanes of
`cb0[tmp0.x]` resolve, on the immediate zero, to `_Color`, and the read prints
as `_Color.xyzw`, which holds no `tmp0.x`. -/
theorem flat_member_drops_relative :
    srcExpr colorProgram ⟨.constantBuffer 0 ⟨0, some tmp0x⟩, Swizzle.identity, .none⟩ [0, 1, 2, 3] =
        "_Color.xyzw" ∧
      relativeExpr colorProgram tmp0x = "tmp0.x" ∧
      ¬ ∃ pre post, srcExpr colorProgram ⟨.constantBuffer 0 ⟨0, some tmp0x⟩, Swizzle.identity, .none⟩
        [0, 1, 2, 3] = pre ++ relativeExpr colorProgram tmp0x ++ post := by
  have hsrc : srcExpr colorProgram ⟨.constantBuffer 0 ⟨0, some tmp0x⟩, Swizzle.identity, .none⟩
      [0, 1, 2, 3] = "_Color.xyzw" := by decide
  have hrel : relativeExpr colorProgram tmp0x = "tmp0.x" := by decide
  refine ⟨hsrc, hrel, ?_⟩
  rintro ⟨pre, post, h⟩
  -- the relative expression has a `t`, the printed read has none
  have ht : 't' ∈ "_Color.xyzw".toList := by
    rw [← hsrc, h, hrel]
    simp [String.toList_append]
  exact absurd ht (by decide)

end Emit

end ShaderRecovery
