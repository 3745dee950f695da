import Mathlib
import ShaderRecovery.Asset.RenderState

/-!
# Render-state text is a sequence of independent line groups

The render state of a pass is written as line groups in a fixed order: name,
level of detail, tags, the `Blend`, `BlendOp` and `ColorMask` lines of each
render target, alpha to coverage, depth clip, depth test, depth writes,
culling, depth offset, the stencil block, the fog block, lighting and the
program id. Each group is a function of its own settings alone
(`RenderState.nameLines` to `RenderState.programIdLines`, and
`BlendTarget.factorLines`, `BlendTarget.opLines`, `BlendTarget.maskLines` for
a render target, which also read its number and whether targets blend
separately); `RenderState.text_eq_groups` puts the text together from them.

Settings are compared with their defaults as IEEE values. A whole-number
default is held exactly (`Binary32.kind_ofWhole`), so the text's tests against
whole numbers are IEEE equality with the default (`Binary32.isNat_eq_eqv`).

* `*_of_eqv` — a group whose settings equal the defaults writes nothing;
  `RenderState.text_default_eq` — so the default state writes its program id
  alone; `RenderState.zclipLines_eq_nil_iff` — depth clipping is written
  unless set to its default, also when the setting is missing.
* `RenderState.block` — a block of sub-settings; `stencilBlock_eq_block` and
  `fogBlock_eq_block` — the stencil and fog blocks hold the lines of the
  sub-settings that differ from their defaults and are written exactly when
  one does.

Principal result: `RenderState.text_composes_omitting_defaults`.
-/

namespace ShaderRecovery

/-! ## Whole numbers in single precision -/

namespace Binary32

theorem expField_eq (x : Binary32) : x.expField = x.bits.toNat / 2 ^ 23 % 2 ^ 8 := by
  unfold expField
  rw [UInt32.toNat_and, UInt32.toNat_shiftRight, Nat.shiftRight_eq_div_pow]
  exact Nat.and_two_pow_sub_one_eq_mod _ 8

theorem fracField_eq (x : Binary32) : x.fracField = x.bits.toNat % 2 ^ 23 := by
  unfold fracField
  rw [UInt32.toNat_and]
  exact Nat.and_two_pow_sub_one_eq_mod _ 23

theorem signBit_eq (x : Binary32) : x.signBit = decide (x.bits.toNat / 2 ^ 31 = 1) := by
  unfold signBit
  rw [Bool.eq_iff_iff, beq_iff_eq, decide_eq_true_iff, ← UInt32.toNat_inj,
    UInt32.toNat_shiftRight, Nat.shiftRight_eq_div_pow]
  rfl

theorem unit_eq : unit = 2 ^ 149 := Nat.pow_eq

/-- A normal value: the hidden bit above the fraction, scaled by the exponent. -/
theorem kind_of_normal {x : Binary32} (h255 : x.expField ≠ 255) (h0 : x.expField ≠ 0) :
    x.kind = .finite x.signBit ((2 ^ 23 + x.fracField) * 2 ^ (x.expField - 1)) := by
  rewrite [kind, if_neg h255, if_neg h0, Nat.pow_eq]
  rfl

/-- A whole number below `2^24` is held exactly: `n` whole units, positive. -/
theorem kind_ofWhole {n : Nat} (h0 : n ≠ 0) (h : n < 2 ^ 24) :
    (ofWhole n).kind = .finite false (n * unit) := by
  set e := Nat.log2 n with he
  have hlo : 2 ^ e ≤ n := Nat.log2_self_le h0
  have hhi : n < 2 ^ (e + 1) := Nat.lt_log2_self
  have he23 : e ≤ 23 := by
    have := (Nat.log2_lt h0).2 h
    omega
  -- the bits below the leading one, shifted up to fill the 23 fraction bits
  obtain ⟨r, hr⟩ : ∃ r, n = 2 ^ e + r := ⟨n - 2 ^ e, by omega⟩
  have hr' : r < 2 ^ e := by rw [pow_succ] at hhi; omega
  have hpow : 2 ^ 23 = 2 ^ e * 2 ^ (23 - e) := by rw [← pow_add]; congr 1; omega
  have hfrac : (n - 2 ^ e) * 2 ^ 23 / 2 ^ e = r * 2 ^ (23 - e) := by
    rw [hr, Nat.add_sub_cancel_left, hpow, ← Nat.mul_assoc, Nat.mul_comm r, Nat.mul_assoc,
      Nat.mul_div_cancel_left _ (Nat.two_pow_pos e)]
  have hrf : r * 2 ^ (23 - e) < 2 ^ 23 := by
    rw [hpow]; exact Nat.mul_lt_mul_of_pos_right hr' (Nat.two_pow_pos _)
  have hbits : (ofWhole n).bits.toNat = (127 + e) * 2 ^ 23 + r * 2 ^ (23 - e) := by
    simp only [ofWhole, if_neg h0, ← he, Nat.pow_eq, UInt32.toNat_ofNat']
    rw [show (8388608 : Nat) = 2 ^ 23 by norm_num, hfrac]
    omega
  have hexp : (ofWhole n).expField = 127 + e := by
    rw [expField_eq, hbits]; omega
  have hfr : (ofWhole n).fracField = r * 2 ^ (23 - e) := by
    rw [fracField_eq, hbits]; omega
  have hsign : (ofWhole n).signBit = false := by
    rw [signBit_eq, hbits]; simp; omega
  have hmag : (2 ^ 23 + r * 2 ^ (23 - e)) * 2 ^ (127 + e - 1) = n * unit :=
    calc (2 ^ 23 + r * 2 ^ (23 - e)) * 2 ^ (127 + e - 1)
        = n * (2 ^ (23 - e) * 2 ^ (127 + e - 1)) := by rw [hpow, hr]; ring
      _ = n * unit := by rw [← pow_add, unit_eq]; congr 2; omega
  rw [kind_of_normal (by omega) (by omega), hexp, hfr, hsign, hmag]

theorem kind_zero : zero.kind = .finite false 0 := kind_ofBits_zero

theorem unit_pos : 0 < unit := Nat.two_pow_pos 149

/-- Comparing with a whole number is IEEE equality with the value that holds it. -/
theorem isNat_eq_eqv (x : Binary32) {n : Nat} (h : n < 2 ^ 24) : x.isNat n = x.eqv (ofWhole n) := by
  by_cases h0 : n = 0
  · subst h0
    have hz : ofWhole 0 = zero := if_pos rfl
    unfold isNat eqv
    rw [hz, kind_zero]
    cases x.kind with
    | finite s m => by_cases hm : m = 0 <;> simp [hm]
    | _ => rfl
  · unfold isNat eqv
    rw [kind_ofWhole h0 h]
    cases x.kind with
    | finite s m =>
      by_cases hm : m = n * unit
      · -- the magnitude of a non-zero whole number is not zero, so the signs must agree
        have hne : n * unit ≠ 0 := Nat.mul_ne_zero h0 unit_pos.ne'
        cases s <;> simp [hm, h0, hne]
      · dsimp only
        rw [beq_eq_false_iff_ne.mpr hm, Bool.false_and, Bool.false_and]
    | _ => rfl

/-- Equal to a non-zero whole number: positive, of exactly its units. -/
theorem eqv_ofWhole_iff (x : Binary32) {n : Nat} (h0 : n ≠ 0) (h : n < 2 ^ 24) :
    x.eqv (ofWhole n) = true ↔ x.kind = .finite false (n * unit) := by
  have hne : n * unit ≠ 0 := Nat.mul_ne_zero h0 unit_pos.ne'
  unfold eqv
  rw [kind_ofWhole h0 h]
  cases x.kind with
  | finite s m =>
    cases s <;> simp only [beq_iff_eq, Bool.and_eq_true, Bool.or_eq_true, Kind.finite.injEq] <;>
      grind
  | _ => simp

/-- Equal to zero: a zero of either sign. -/
theorem eqv_zero_iff (x : Binary32) : x.eqv zero = true ↔ ∃ s, x.kind = .finite s 0 := by
  unfold eqv
  rw [kind_zero]
  cases x.kind with
  | finite s m => by_cases hm : m = 0 <;> simp [hm]
  | _ => simp

theorem isPositive_of_eqv_zero {x : Binary32} (h : x.eqv zero = true) : x.isPositive = false := by
  obtain ⟨s, hs⟩ := (eqv_zero_iff x).1 h
  unfold isPositive
  rw [hs]
  cases s <;> rfl

theorem isNat_of_eqv {x : Binary32} {n : Nat} (h : n < 2 ^ 24) (hx : x.eqv (ofWhole n) = true) :
    x.isNat n = true :=
  (isNat_eq_eqv x h).trans hx

theorem isNat_zero_of_eqv {x : Binary32} (hx : x.eqv zero = true) : x.isNat 0 = true :=
  isNat_of_eqv (by decide) hx

theorem toInt32Sat_of_eqv {x : Binary32} {n : Nat} (h0 : n ≠ 0) (h : n < 2 ^ 24)
    (hx : x.eqv (ofWhole n) = true) : x.toInt32Sat = n := by
  unfold toInt32Sat
  rw [(eqv_ofWhole_iff x h0 h).1 hx]
  dsimp only
  rw [Nat.mul_div_cancel _ unit_pos]
  omega

end Binary32

namespace BlendTarget

open Binary32

/-- IEEE equality of every setting of two render targets. -/
def eqv (a b : BlendTarget) : Bool :=
  a.srcBlend.eqv b.srcBlend && a.destBlend.eqv b.destBlend && a.srcBlendAlpha.eqv b.srcBlendAlpha &&
    a.destBlendAlpha.eqv b.destBlendAlpha && a.blendOp.eqv b.blendOp &&
    a.blendOpAlpha.eqv b.blendOpAlpha && a.colorMask.eqv b.colorMask

/-- The target number on `Blend` and `BlendOp` lines: none for target 0 unless
the targets blend separately. -/
def targetPrefix (index : Nat) (separate : Bool) : String :=
  if index ≠ 0 || separate then toString index ++ " " else ""

/-- The `Blend` line: the colour factors, and the alpha factors when they are
not one and zero. -/
def factorLines (target : String) (src dst srcAlpha dstAlpha : Binary32) : List String :=
  let alphaDefault := srcAlpha.isNat 1 && dstAlpha.isNat 0
  let factor := KeywordTable.blendFactor.keyword
  if !src.isNat 1 || !dst.isNat 0 || !alphaDefault then
    ["  Blend " ++ target ++ factor src ++ " " ++ factor dst ++
      (if alphaDefault then "" else ", " ++ factor srcAlpha ++ " " ++ factor dstAlpha)]
  else []

/-- The `BlendOp` line: the colour operation, and the alpha operation when it
is not addition. -/
def opLines (target : String) (op opAlpha : Binary32) : List String :=
  let word := KeywordTable.blendOp.keyword
  if !op.isNat 0 || !opAlpha.isNat 0 then
    ["  BlendOp " ++ target ++ word op ++ (if opAlpha.isNat 0 then "" else ", " ++ word opAlpha)]
  else []

/-- The `ColorMask` line, which always names its target. -/
def maskLines (index : Nat) (colorMask : Binary32) : List String :=
  let mask := colorMask.toInt32Sat
  if mask = 15 then []
  else
    let letters := if mask = 0 then "0" else (ColorMask.ofByte (UInt8.ofNat (mask % 16).toNat)).letters
    ["  ColorMask " ++ letters ++ " " ++ toString index]

/-- The lines of a render target are its `Blend`, `BlendOp` and `ColorMask`
groups, each reading only its own settings, the target number and whether
targets blend separately. -/
theorem lines_eq_groups (b : BlendTarget) (index : Nat) (separate : Bool) :
    b.lines index separate =
      factorLines (targetPrefix index separate) b.srcBlend b.destBlend b.srcBlendAlpha
          b.destBlendAlpha ++
        opLines (targetPrefix index separate) b.blendOp b.blendOpAlpha ++
        maskLines index b.colorMask := rfl

theorem factorLines_of_eqv {target : String} {src dst srcAlpha dstAlpha : Binary32}
    (hs : src.eqv default.srcBlend) (hd : dst.eqv default.destBlend)
    (hsa : srcAlpha.eqv default.srcBlendAlpha) (hda : dstAlpha.eqv default.destBlendAlpha) :
    factorLines target src dst srcAlpha dstAlpha = [] := by
  simp [factorLines, isNat_of_eqv (by decide) hs, isNat_zero_of_eqv hd,
    isNat_of_eqv (by decide) hsa, isNat_zero_of_eqv hda]

theorem opLines_of_eqv {target : String} {op opAlpha : Binary32} (ho : op.eqv default.blendOp)
    (hoa : opAlpha.eqv default.blendOpAlpha) : opLines target op opAlpha = [] := by
  simp [opLines, isNat_zero_of_eqv ho, isNat_zero_of_eqv hoa]

theorem maskLines_of_eqv {index : Nat} {colorMask : Binary32} (h : colorMask.eqv default.colorMask) :
    maskLines index colorMask = [] := by
  simp [maskLines, toInt32Sat_of_eqv (by decide) (by decide) h]

/-- A render target whose settings all equal the defaults writes nothing. -/
theorem lines_of_eqv {b : BlendTarget} (h : b.eqv default) (index : Nat) (separate : Bool) :
    b.lines index separate = [] := by
  simp only [eqv, Bool.and_eq_true] at h
  obtain ⟨⟨⟨⟨⟨⟨hs, hd⟩, hsa⟩, hda⟩, ho⟩, hoa⟩, hm⟩ := h
  rw [lines_eq_groups, factorLines_of_eqv hs hd hsa hda, opLines_of_eqv ho hoa, maskLines_of_eqv hm]
  rfl

end BlendTarget

namespace StencilOp

open Binary32

/-- IEEE equality of every setting of two operation sets. -/
def eqv (a b : StencilOp) : Bool :=
  a.pass.eqv b.pass && a.fail.eqv b.fail && a.zfail.eqv b.zfail && a.comp.eqv b.comp

/-- An operation set is at its default exactly when it equals the default,
setting by setting. -/
theorem isDefault_eq_eqv (s : StencilOp) : s.isDefault = s.eqv default := by
  have hz : ofWhole 0 = zero := if_pos rfl
  unfold isDefault eqv
  rw [isNat_eq_eqv s.pass (by decide), isNat_eq_eqv s.fail (by decide),
    isNat_eq_eqv s.zfail (by decide), isNat_eq_eqv s.comp (by decide), hz]
  rfl

end StencilOp

namespace RenderState

open Binary32

/-! ## The line groups -/

/-- Lines, each ended by a line feed. -/
def linesText (ls : List String) : String := String.join (ls.map (· ++ "\n"))

@[simp] theorem linesText_append (a b : List String) :
    linesText (a ++ b) = linesText a ++ linesText b := by
  simp [linesText]

/-- The lines of a setting, or none when it is at its default. -/
def unlessAt (atDefault : Bool) (ls : List String) : List String := if atDefault then [] else ls

/-- A block of sub-settings, each given with whether it is at its default and
with its lines: the lines of the sub-settings that are not at their default,
in order, between the title line and a closing brace; nothing at all when
every sub-setting is at its default. -/
def block (title : String) (subs : List (Bool × List String)) : List String :=
  if subs.all (·.1) then []
  else ("  " ++ title ++ " \x7b") :: subs.flatMap (fun sub => unlessAt sub.1 sub.2) ++ ["  \x7d"]

theorem block_eq_nil_iff (title : String) (subs : List (Bool × List String)) :
    block title subs = [] ↔ ∀ sub ∈ subs, sub.1 = true := by
  unfold block
  split
  case isTrue h => simpa using h
  case isFalse h => simpa using h

def nameLines (name : String) : List String :=
  if name.isEmpty then [] else ["  Name \"" ++ name ++ "\""]

def lodLines (lod : Int) : List String := if lod = 0 then [] else ["  LOD " ++ toString lod]

def tagLines (tags : TagMap) : List String :=
  if tags.isEmpty then []
  else
    ["  Tags \x7b " ++ String.join (tags.map fun kv => "\"" ++ kv.1 ++ "\" = \"" ++ kv.2 ++ "\" ") ++
      "\x7d"]

def alphaToMaskLines (a : Binary32) : List String := if a.isPositive then ["  AlphaToMask On"] else []

def zclipLines (zclip : Option Binary32) : List String :=
  if zclip.any (·.isNat 1) then [] else ["  ZClip Off"]

def ztestLines (ztest : Binary32) : List String :=
  if ztest.isNat 4 then [] else ["  ZTest " ++ KeywordTable.ztest.keyword ztest]

def zwriteLines (zwrite : Binary32) : List String := if zwrite.isNat 1 then [] else ["  ZWrite Off"]

def cullLines (culling : Binary32) : List String :=
  if culling.isNat 2 then [] else ["  Cull " ++ KeywordTable.cull.keyword culling]

def offsetLines (factor units : Binary32) : List String :=
  if factor.isNat 0 && units.isNat 0 then [] else ["  Offset " ++ num factor ++ ", " ++ num units]

/-- The stencil block, read from the stencil settings alone. -/
def stencilBlock (ref readMask writeMask : Binary32) (op front back : StencilOp) : List String :=
  let ops := [(op, ""), (front, "Front"), (back, "Back")]
  if !ref.isNat 0 || !readMask.isNat 255 || !writeMask.isNat 255 ||
      ops.any (fun o => !o.1.isDefault) then
    ["  Stencil \x7b"] ++
    (if ref.isNat 0 then [] else ["   Ref " ++ num ref]) ++
    (if readMask.isNat 255 then [] else ["   ReadMask " ++ num readMask]) ++
    (if writeMask.isNat 255 then [] else ["   WriteMask " ++ num writeMask]) ++
    (ops.filter (fun o => !o.1.isDefault)).flatMap (fun o => o.1.lines o.2) ++
    ["  \x7d"]
  else []

/-- The four components of a colour; a missing component reads as zero. -/
def components (color : List Binary32) : List Binary32 := (List.range 4).map fun i => color.getD i .zero

/-- IEEE equality of two colours, component by component. -/
def colorEqv (a b : List Binary32) : Bool :=
  (List.range 4).all fun i => (a.getD i .zero).eqv (b.getD i .zero)

/-- The fog block, read from the fog settings alone. -/
def fogBlock (mode : FogMode) (color : List Binary32) (density start finish : Binary32) : List String :=
  let colorZero := (components color).all (·.isNat 0)
  let range := !start.isNat 0 || !finish.isNat 0
  if mode ≠ .unknown || !colorZero || !density.isNat 0 || range then
    ["  Fog \x7b"] ++
    (if mode ≠ .unknown then ["   Mode " ++ mode.word] else []) ++
    (if colorZero then [] else ["   Color (" ++ ",".intercalate ((components color).map num) ++ ")"]) ++
    (if density.isNat 0 then [] else ["   Density " ++ num density]) ++
    (if range then ["   Range " ++ num start ++ ", " ++ num finish] else []) ++
    ["  \x7d"]
  else []

def lightingLines (on : Bool) : List String := if on then ["  Lighting On"] else []

def programIdLines (id : Int) : List String := ["  GpuProgramID " ++ toString id]

theorem tags_text (tags : TagMap) : tags.text 2 = linesText (tagLines tags) := by
  unfold TagMap.text tagLines
  split
  · rfl
  · simp [linesText, String.append_assoc]

/-- The render-state text is its groups in a fixed order: each group reads
only its own settings, a render target's lines also its number and whether
targets blend separately. -/
theorem text_eq_groups (s : RenderState) :
    s.text = linesText (nameLines s.name ++ lodLines s.lod ++ tagLines s.tags ++
      s.blendTargets.zipIdx.flatMap (fun bi => bi.1.lines bi.2 s.separateBlend) ++
      alphaToMaskLines s.alphaToMask ++ zclipLines s.zclip ++ ztestLines s.ztest ++
      zwriteLines s.zwrite ++ cullLines s.culling ++ offsetLines s.offsetFactor s.offsetUnits ++
      stencilBlock s.stencilRef s.stencilReadMask s.stencilWriteMask s.stencilOp
        s.stencilOpFront s.stencilOpBack ++
      fogBlock s.fogMode s.fogColor s.fogDensity s.fogStart s.fogEnd ++
      lightingLines s.lighting ++ programIdLines s.gpuProgramId) := by
  simp only [text, linesText_append, ← tags_text]
  simp only [linesText, nameLines, lodLines, alphaToMaskLines, zclipLines, ztestLines, zwriteLines,
    cullLines, offsetLines, stencilBlock, stencilLines, fogBlock, fogLines, components,
    lightingLines, programIdLines, List.map_append, String.join_append, String.append_assoc]

/-- The stencil block holds the lines of the stencil settings that differ from
their defaults, and is written exactly when one does. -/
theorem stencilBlock_eq_block (ref readMask writeMask : Binary32) (op front back : StencilOp) :
    stencilBlock ref readMask writeMask op front back = block "Stencil"
      [(ref.eqv default.stencilRef, ["   Ref " ++ num ref]),
       (readMask.eqv default.stencilReadMask, ["   ReadMask " ++ num readMask]),
       (writeMask.eqv default.stencilWriteMask, ["   WriteMask " ++ num writeMask]),
       (op.eqv default.stencilOp, op.lines ""),
       (front.eqv default.stencilOpFront, front.lines "Front"),
       (back.eqv default.stencilOpBack, back.lines "Back")] := by
  have hr : ref.isNat 0 = ref.eqv default.stencilRef := isNat_eq_eqv ref (by decide)
  have hrm : readMask.isNat 255 = readMask.eqv default.stencilReadMask :=
    isNat_eq_eqv readMask (by decide)
  have hwm : writeMask.isNat 255 = writeMask.eqv default.stencilWriteMask :=
    isNat_eq_eqv writeMask (by decide)
  have ho : op.isDefault = op.eqv default.stencilOp := op.isDefault_eq_eqv
  have hf : front.isDefault = front.eqv default.stencilOpFront := front.isDefault_eq_eqv
  have hb : back.isDefault = back.eqv default.stencilOpBack := back.isDefault_eq_eqv
  unfold stencilBlock block unlessAt
  rw [hr, hrm, hwm]
  simp only [List.any_cons, List.any_nil, List.all_cons, List.all_nil, List.filter_cons, List.filter_nil,
    List.flatMap_cons, List.flatMap_nil, ho, hf, hb]
  generalize ref.eqv default.stencilRef = a, readMask.eqv default.stencilReadMask = b,
    writeMask.eqv default.stencilWriteMask = c, op.eqv default.stencilOp = d,
    front.eqv default.stencilOpFront = e, back.eqv default.stencilOpBack = f
  by_cases hall : (a && b && c && d && e && f) = true
  · -- every setting at its default: neither side writes anything
    simp only [Bool.and_eq_true] at hall
    obtain ⟨⟨⟨⟨⟨rfl, rfl⟩, rfl⟩, rfl⟩, rfl⟩, rfl⟩ := hall
    rfl
  · -- some setting differs: both write the block, each line under its own test
    have hsome : (!a || !b || !c || (!d || (!e || (!f || false)))) = true := by
      simpa [Bool.and_assoc, Bool.or_assoc, ← Bool.not_and] using hall
    have hnot : ¬(a && (b && (c && (d && (e && (f && true)))))) = true := by
      simpa [Bool.and_assoc] using hall
    rw [if_pos hsome, if_neg hnot]
    cases d <;> cases e <;> cases f <;> simp

theorem colorZero_eq_colorEqv (color : List Binary32) :
    (components color).all (·.isNat 0) = colorEqv color default.fogColor := by
  have hz : ofWhole 0 = zero := if_pos rfl
  simp only [components, colorEqv, List.all_map, Function.comp_def,
    isNat_eq_eqv _ (show 0 < 2 ^ 24 by decide), hz]
  simp [List.range_succ, default]

/-- The fog block holds the lines of the fog settings that differ from their
defaults, the range covering start and end together, and is written exactly
when one does. -/
theorem fogBlock_eq_block (mode : FogMode) (color : List Binary32) (density start finish : Binary32) :
    fogBlock mode color density start finish = block "Fog"
      [(decide (mode = default.fogMode), ["   Mode " ++ mode.word]),
       (colorEqv color default.fogColor,
         ["   Color (" ++ ",".intercalate ((components color).map num) ++ ")"]),
       (density.eqv default.fogDensity, ["   Density " ++ num density]),
       (start.eqv default.fogStart && finish.eqv default.fogEnd,
         ["   Range " ++ num start ++ ", " ++ num finish])] := by
  have hd : density.isNat 0 = density.eqv default.fogDensity := isNat_eq_eqv density (by decide)
  have hs : start.isNat 0 = start.eqv default.fogStart := isNat_eq_eqv start (by decide)
  have he : finish.isNat 0 = finish.eqv default.fogEnd := isNat_eq_eqv finish (by decide)
  unfold fogBlock block unlessAt
  rw [colorZero_eq_colorEqv, hd, hs, he]
  generalize colorEqv color default.fogColor = c, density.eqv default.fogDensity = d,
    start.eqv default.fogStart = a, finish.eqv default.fogEnd = b
  have hu : default.fogMode = .unknown := rfl
  dsimp only
  simp only [hu, List.all_cons, List.all_nil, List.flatMap_cons, List.flatMap_nil, Bool.and_true,
    List.append_nil]
  -- the range line stands for start and end together
  simp only [← Bool.not_and]
  generalize (a && b) = r
  by_cases hall : (decide (mode = .unknown) && c && d && r) = true
  · -- every setting at its default: neither side writes anything
    simp only [Bool.and_eq_true, decide_eq_true_eq] at hall
    obtain ⟨⟨⟨hm, rfl⟩, rfl⟩, rfl⟩ := hall
    simp [hm]
  · -- some setting differs: both write the block, each line under its own test
    have hsome : (decide (mode ≠ .unknown) || !c || !d || !r) = true := by
      simpa [Bool.and_assoc, Bool.or_assoc, ← Bool.not_and] using hall
    have hnot : ¬(decide (mode = .unknown) && (c && (d && r))) = true := by
      simpa [Bool.and_assoc] using hall
    rw [if_pos hsome, if_neg hnot]
    by_cases hm : mode = .unknown <;> cases c <;> cases d <;> cases r <;> simp [hm]

/-- No stencil block is written exactly when every stencil setting equals its
default. -/
theorem stencilBlock_eq_nil_iff (ref readMask writeMask : Binary32) (op front back : StencilOp) :
    stencilBlock ref readMask writeMask op front back = [] ↔
      ref.eqv default.stencilRef ∧ readMask.eqv default.stencilReadMask ∧
        writeMask.eqv default.stencilWriteMask ∧ op.eqv default.stencilOp ∧
        front.eqv default.stencilOpFront ∧ back.eqv default.stencilOpBack := by
  rw [stencilBlock_eq_block, block_eq_nil_iff]
  simp

/-- No fog block is written exactly when every fog setting equals its default. -/
theorem fogBlock_eq_nil_iff (mode : FogMode) (color : List Binary32) (density start finish : Binary32) :
    fogBlock mode color density start finish = [] ↔
      mode = default.fogMode ∧ colorEqv color default.fogColor ∧ density.eqv default.fogDensity ∧
        start.eqv default.fogStart ∧ finish.eqv default.fogEnd := by
  rw [fogBlock_eq_block, block_eq_nil_iff]
  simp

/-! ## Groups at their defaults -/

theorem alphaToMaskLines_of_eqv {a : Binary32} (h : a.eqv default.alphaToMask) :
    alphaToMaskLines a = [] := by
  simp [alphaToMaskLines, isPositive_of_eqv_zero h]

/-- Depth clipping is left out exactly when it is set and equals the default:
a missing setting counts as off. -/
theorem zclipLines_eq_nil_iff {zclip : Option Binary32} :
    zclipLines zclip = [] ↔ Option.Rel (fun x y => x.eqv y = true) zclip default.zclip := by
  have hd : default.zclip = some (ofWhole 1) := rfl
  cases zclip with
  | none => simp [zclipLines, hd]
  | some z => simp [zclipLines, hd, isNat_eq_eqv z (n := 1) (by decide)]

theorem ztestLines_of_eqv {ztest : Binary32} (h : ztest.eqv default.ztest) : ztestLines ztest = [] := by
  simp [ztestLines, isNat_of_eqv (by decide) h]

theorem zwriteLines_of_eqv {zwrite : Binary32} (h : zwrite.eqv default.zwrite) :
    zwriteLines zwrite = [] := by
  simp [zwriteLines, isNat_of_eqv (by decide) h]

theorem cullLines_of_eqv {culling : Binary32} (h : culling.eqv default.culling) :
    cullLines culling = [] := by
  simp [cullLines, isNat_of_eqv (by decide) h]

theorem offsetLines_of_eqv {factor units : Binary32} (hf : factor.eqv default.offsetFactor)
    (hu : units.eqv default.offsetUnits) : offsetLines factor units = [] := by
  simp [offsetLines, isNat_zero_of_eqv hf, isNat_zero_of_eqv hu]

/-- Every setting of the default state equals itself, so its blocks are empty. -/
theorem stencilBlock_default :
    stencilBlock default.stencilRef default.stencilReadMask default.stencilWriteMask
      default.stencilOp default.stencilOpFront default.stencilOpBack = [] := by
  rw [stencilBlock_eq_block, block_eq_nil_iff]
  decide

theorem fogBlock_default :
    fogBlock default.fogMode default.fogColor default.fogDensity default.fogStart default.fogEnd = [] := by
  rw [fogBlock_eq_block, block_eq_nil_iff]
  decide

theorem blendLines_default :
    default.blendTargets.zipIdx.flatMap (fun bi => bi.1.lines bi.2 default.separateBlend) = [] := by
  rw [List.flatMap_eq_nil_iff]
  intro bi hbi
  have hb : bi.1 = BlendTarget.default := List.eq_of_mem_replicate (List.fst_mem_of_mem_zipIdx hbi)
  rw [hb]
  exact BlendTarget.lines_of_eqv (by decide) _ _

/-- The default state writes its program id and nothing else. -/
theorem text_default_eq : default.text = linesText (programIdLines default.gpuProgramId) := by
  have hz : zclipLines default.zclip = [] := zclipLines_eq_nil_iff.mpr (.some (by decide))
  rw [text_eq_groups, blendLines_default, stencilBlock_default, fogBlock_default,
    alphaToMaskLines_of_eqv (by decide), hz,
    ztestLines_of_eqv (by decide), zwriteLines_of_eqv (by decide), cullLines_of_eqv (by decide),
    offsetLines_of_eqv (by decide) (by decide)]
  rfl

/-! ## The text of a render state -/

/-- Render-state text is compositional and leaves defaults out. It is the
concatenation, in a fixed order, of line groups that each read only their own
settings (a render target's lines also its number and whether targets blend
separately). A group whose settings equal the defaults writes nothing, so the
default state writes its program id alone; depth clipping is left out exactly
then, a missing setting counting as off. The stencil and fog blocks hold
the lines of their settings that differ from the defaults, the fog range
standing for start and end together, and are written exactly when one does. -/
theorem text_composes_omitting_defaults :
    (∀ s : RenderState, s.text = linesText (nameLines s.name ++ lodLines s.lod ++ tagLines s.tags ++
      s.blendTargets.zipIdx.flatMap (fun bi => bi.1.lines bi.2 s.separateBlend) ++
      alphaToMaskLines s.alphaToMask ++ zclipLines s.zclip ++ ztestLines s.ztest ++
      zwriteLines s.zwrite ++ cullLines s.culling ++ offsetLines s.offsetFactor s.offsetUnits ++
      stencilBlock s.stencilRef s.stencilReadMask s.stencilWriteMask s.stencilOp
        s.stencilOpFront s.stencilOpBack ++
      fogBlock s.fogMode s.fogColor s.fogDensity s.fogStart s.fogEnd ++
      lightingLines s.lighting ++ programIdLines s.gpuProgramId)) ∧
    (∀ (b : BlendTarget) (index : Nat) (separate : Bool), b.lines index separate =
      BlendTarget.factorLines (BlendTarget.targetPrefix index separate) b.srcBlend b.destBlend
          b.srcBlendAlpha b.destBlendAlpha ++
        BlendTarget.opLines (BlendTarget.targetPrefix index separate) b.blendOp b.blendOpAlpha ++
        BlendTarget.maskLines index b.colorMask) ∧
    (nameLines default.name = [] ∧ lodLines default.lod = [] ∧ tagLines default.tags = [] ∧
      (∀ target src dst srcAlpha dstAlpha, src.eqv BlendTarget.default.srcBlend →
        dst.eqv BlendTarget.default.destBlend → srcAlpha.eqv BlendTarget.default.srcBlendAlpha →
        dstAlpha.eqv BlendTarget.default.destBlendAlpha →
        BlendTarget.factorLines target src dst srcAlpha dstAlpha = []) ∧
      (∀ target op opAlpha, op.eqv BlendTarget.default.blendOp →
        opAlpha.eqv BlendTarget.default.blendOpAlpha → BlendTarget.opLines target op opAlpha = []) ∧
      (∀ index colorMask, colorMask.eqv BlendTarget.default.colorMask →
        BlendTarget.maskLines index colorMask = []) ∧
      (∀ a, a.eqv default.alphaToMask → alphaToMaskLines a = []) ∧
      (∀ zclip, zclipLines zclip = [] ↔ Option.Rel (fun x y => x.eqv y = true) zclip default.zclip) ∧
      (∀ ztest, ztest.eqv default.ztest → ztestLines ztest = []) ∧
      (∀ zwrite, zwrite.eqv default.zwrite → zwriteLines zwrite = []) ∧
      (∀ culling, culling.eqv default.culling → cullLines culling = []) ∧
      (∀ factor units, factor.eqv default.offsetFactor → units.eqv default.offsetUnits →
        offsetLines factor units = []) ∧
      lightingLines default.lighting = []) ∧
    default.text = linesText (programIdLines default.gpuProgramId) ∧
    (∀ ref readMask writeMask op front back,
      stencilBlock ref readMask writeMask op front back = block "Stencil"
        [(ref.eqv default.stencilRef, ["   Ref " ++ num ref]),
         (readMask.eqv default.stencilReadMask, ["   ReadMask " ++ num readMask]),
         (writeMask.eqv default.stencilWriteMask, ["   WriteMask " ++ num writeMask]),
         (op.eqv default.stencilOp, op.lines ""),
         (front.eqv default.stencilOpFront, front.lines "Front"),
         (back.eqv default.stencilOpBack, back.lines "Back")] ∧
      (stencilBlock ref readMask writeMask op front back = [] ↔
        ref.eqv default.stencilRef ∧ readMask.eqv default.stencilReadMask ∧
        writeMask.eqv default.stencilWriteMask ∧ op.eqv default.stencilOp ∧
        front.eqv default.stencilOpFront ∧ back.eqv default.stencilOpBack)) ∧
    (∀ mode color density start finish,
      fogBlock mode color density start finish = block "Fog"
        [(decide (mode = default.fogMode), ["   Mode " ++ mode.word]),
         (colorEqv color default.fogColor,
           ["   Color (" ++ ",".intercalate ((components color).map num) ++ ")"]),
         (density.eqv default.fogDensity, ["   Density " ++ num density]),
         (start.eqv default.fogStart && finish.eqv default.fogEnd,
           ["   Range " ++ num start ++ ", " ++ num finish])] ∧
      (fogBlock mode color density start finish = [] ↔
        mode = default.fogMode ∧ colorEqv color default.fogColor ∧ density.eqv default.fogDensity ∧
        start.eqv default.fogStart ∧ finish.eqv default.fogEnd)) := by
  refine ⟨text_eq_groups, BlendTarget.lines_eq_groups, ⟨rfl, rfl, rfl,
    fun _ _ _ _ _ => BlendTarget.factorLines_of_eqv, fun _ _ _ => BlendTarget.opLines_of_eqv,
    fun _ _ => BlendTarget.maskLines_of_eqv, fun _ => alphaToMaskLines_of_eqv,
    fun _ => zclipLines_eq_nil_iff, fun _ => ztestLines_of_eqv, fun _ => zwriteLines_of_eqv,
    fun _ => cullLines_of_eqv, fun _ _ => offsetLines_of_eqv, rfl⟩, text_default_eq,
    fun _ _ _ _ _ _ => ⟨stencilBlock_eq_block .., stencilBlock_eq_nil_iff ..⟩,
    fun _ _ _ _ _ => ⟨fogBlock_eq_block .., fogBlock_eq_nil_iff ..⟩⟩

end RenderState

end ShaderRecovery
