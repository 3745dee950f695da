import Mathlib
import ShaderRecovery.Asset.Parameters

/-!
# Binding metadata mirrors the parameter table

The decompiler's register names come from the parameter table. A constant
buffer is bound at the bind point of its name: the index of the first bind
point record with that name, when it is not negative. The loose globals are
bound as `$Globals` unless a named buffer already has that name; then each
named buffer with a bind point gets a layout, in table order. A layout's
members are the buffer's matrices then vectors at a non-negative byte offset;
structure parameters are never bound. Textures with a non-negative bind point
are bound, in order.

* `bindPoint?_eq_some_iff` — the bind point of a name is the index of its first
  record.
* `CbufferMember.ofParams`, `filterMap_member?` — the members a list of
  parameters lays out.
* `constantBuffers_bindingMetadata`, `textures_bindingMetadata` — the layouts
  and the texture bindings, as lists.
* `constantBuffer?_bindingMetadata`, `texture?_bindingMetadata` — looking a
  slot up finds the globals at their bind point, else the first named buffer,
  or the first texture, of the table bound there.
* `bindingMetadata_withoutStructs` — dropping every structure parameter
  changes nothing.

Principal result: `ParameterTable.bindingMetadata_mirrors_table`.
-/

namespace ShaderRecovery

namespace CbufferMember

/-- The members a list of parameters lays out: each parameter at a
non-negative byte offset, in order, with its shape and its element count, a
negative count read as zero. -/
def ofParams (ps : List NumericParam) : List CbufferMember :=
  (ps.filter (0 ≤ ·.index)).map fun p => ⟨p.name, p.index.toNat, p.memberKind, p.arraySize.toNat⟩

theorem filterMap_member? (ps : List NumericParam) : ps.filterMap NumericParam.member? = ofParams ps := by
  induction ps with
  | nil => rfl
  | cons p ps ih =>
    rw [List.filterMap_cons, ih]
    by_cases h : p.index < 0
    · simp [ofParams, NumericParam.member?, h]
    · have h' : 0 ≤ p.index := by omega
      simp [ofParams, NumericParam.member?, h, h']

end CbufferMember

namespace ParameterTable

/-- The table without its structure parameters, loose or in a buffer. -/
def withoutStructs (t : ParameterTable) : ParameterTable :=
  { t with structs := [], constantBuffers := t.constantBuffers.map fun g => { g with structs := [] } }

variable (t : ParameterTable)

/-- The bind point of a name is the index of the first bind point record of
that name, when that index is not negative. -/
theorem bindPoint?_eq_some_iff {name : String} {s : Nat} :
    t.bindPoint? name = some s ↔
      ∃ pre b post, t.bufferBindings = pre ++ b :: post ∧ (∀ x ∈ pre, x.name ≠ name) ∧
        b.name = name ∧ b.index = (s : Int) := by
  have first : ∀ b, t.bufferBindings.find? (·.name == name) = some b ↔
      b.name = name ∧ ∃ pre post, t.bufferBindings = pre ++ b :: post ∧ ∀ x ∈ pre, x.name ≠ name := by
    intro b
    simp [List.find?_eq_some_iff_append]
  unfold bindPoint?
  split
  · rename_i b hb
    obtain ⟨hname, pre, post, hsplit, hpre⟩ := (first b).mp hb
    constructor
    · intro h
      split at h
      · cases h
      · cases h
        exact ⟨pre, b, post, hsplit, hpre, hname, by omega⟩
    · -- a record of the name with index `s` is the first one, so it is `b`
      rintro ⟨pre', b', post', hsplit', hpre', hname', hidx⟩
      have hb' := (first b').mpr ⟨hname', pre', post', hsplit', hpre'⟩
      rw [hb] at hb'
      cases hb'
      rw [if_neg (by omega)]
      simp only [Option.some.injEq]
      omega
  · rename_i hnone
    simp only [reduceCtorEq, false_iff, not_exists, not_and]
    intro pre b post hsplit hpre hname _
    have hb := (first b).mpr ⟨hname, pre, post, hsplit, hpre⟩
    rw [hnone] at hb
    cases hb

/-- The layouts: the loose globals at the bind point of `$Globals` when no
named buffer takes that name, then every named buffer with a bind point, in
order. -/
theorem constantBuffers_bindingMetadata :
    t.bindingMetadata.constantBuffers =
      (if ∃ g ∈ t.constantBuffers, g.name = globalsName then []
        else ((t.bindPoint? globalsName).map fun s =>
          (⟨globalsName, s, CbufferMember.ofParams t.globalParams⟩ : CbufferLayout)).toList) ++
      t.constantBuffers.filterMap fun g =>
        (t.bindPoint? g.name).map fun s => ⟨g.name, s, CbufferMember.ofParams g.numeric⟩ := by
  simp only [bindingMetadata, CbufferMember.filterMap_member?, List.any_eq_true, beq_iff_eq]
  split
  · rfl
  · cases t.bindPoint? globalsName <;> rfl

/-- The texture bindings: every texture at a non-negative bind point, in
order. -/
theorem textures_bindingMetadata :
    t.bindingMetadata.textures =
      (t.textures.filter (0 ≤ ·.index)).map fun x => ⟨x.name, x.index.toNat, x.samplerIndex, x.dim⟩ := by
  simp only [bindingMetadata]
  induction t.textures with
  | nil => rfl
  | cons x xs ih =>
    by_cases h : x.index < 0
    · simp [h, ih]
    · have h' : 0 ≤ x.index := by omega
      simp [h, h', ih]

/-- Looking a slot up among the named buffers' layouts finds the first named
buffer bound there. -/
theorem find?_namedLayouts (gs : List ParamGroup) (s : Nat) :
    (gs.filterMap fun g => (t.bindPoint? g.name).map fun s' =>
        (⟨g.name, s', CbufferMember.ofParams g.numeric⟩ : CbufferLayout)).find? (·.slot == s) =
      (gs.find? fun g => t.bindPoint? g.name = some s).map fun g =>
        ⟨g.name, s, CbufferMember.ofParams g.numeric⟩ := by
  induction gs with
  | nil => rfl
  | cons g gs ih =>
    cases hb : t.bindPoint? g.name with
    | none => simp [hb, ih]
    | some s' =>
      by_cases hs : s' = s
      · subst hs
        simp [hb]
      · simp [hb, hs, ih]

/-- The layout at a slot: the loose globals when they are bound there, else
the first named buffer bound there. -/
theorem constantBuffer?_bindingMetadata (s : Nat) :
    t.bindingMetadata.constantBuffer? s =
      if (∀ g ∈ t.constantBuffers, g.name ≠ globalsName) ∧ t.bindPoint? globalsName = some s then
        some ⟨globalsName, s, CbufferMember.ofParams t.globalParams⟩
      else (t.constantBuffers.find? fun g => t.bindPoint? g.name = some s).map fun g =>
        ⟨g.name, s, CbufferMember.ofParams g.numeric⟩ := by
  rw [BindingMetadata.constantBuffer?, constantBuffers_bindingMetadata, List.find?_append,
    find?_namedLayouts]
  by_cases hnamed : ∃ g ∈ t.constantBuffers, g.name = globalsName
  · have hnot : ¬((∀ g ∈ t.constantBuffers, g.name ≠ globalsName) ∧
        t.bindPoint? globalsName = some s) := by
      obtain ⟨g, hg, hname⟩ := hnamed
      exact fun h => h.1 g hg hname
    rw [if_pos hnamed, if_neg hnot]
    rfl
  · have hfree : ∀ g ∈ t.constantBuffers, g.name ≠ globalsName := fun g hg h => hnamed ⟨g, hg, h⟩
    rw [if_neg hnamed]
    -- the globals come first: they answer when their bind point is the slot
    cases hg : t.bindPoint? globalsName with
    | none => simp
    | some s' =>
      by_cases hs : s' = s
      · subst hs
        rw [if_pos ⟨hfree, rfl⟩]
        simp
      · rw [if_neg fun h => hs (Option.some.inj h.2)]
        simp [hs]

/-- The texture at a slot is the first texture of the table whose bind point
is that slot. -/
theorem texture?_bindingMetadata (s : Nat) :
    t.bindingMetadata.texture? s =
      (t.textures.find? fun x => x.index = (s : Int)).map fun x => ⟨x.name, s, x.samplerIndex, x.dim⟩ := by
  rw [BindingMetadata.texture?, textures_bindingMetadata]
  induction t.textures with
  | nil => rfl
  | cons x xs ih =>
    by_cases h : x.index < 0
    · have hne : x.index ≠ (s : Int) := by omega
      simp [h, hne, ih]
    · have h' : 0 ≤ x.index := by omega
      by_cases hs : x.index = (s : Int)
      · simp [hs]
      · have hnat : x.index.toNat ≠ s := by omega
        simp [h', hs, hnat, ih]

/-- Structure parameters are never bound. -/
theorem bindingMetadata_withoutStructs : t.withoutStructs.bindingMetadata = t.bindingMetadata := by
  simp [bindingMetadata, withoutStructs, List.filterMap_map, List.any_map, Function.comp_def,
    ParamGroup.numeric, globalParams, bindPoint?]

/-- Binding metadata mirrors the parameter table: a name's bind point is the
index of its first bind point record when not negative; the layouts are the
loose globals under `$Globals` when no named buffer takes that name and it has
a bind point, then each named buffer with a bind point, in order, with the
members its matrices then vectors lay out at non-negative offsets; structure
parameters are never bound; the texture bindings are the textures at
non-negative bind points, in order; and looking a slot up finds the first
layout, or texture, bound there. -/
theorem bindingMetadata_mirrors_table :
    (∀ name (s : Nat), t.bindPoint? name = some s ↔
      ∃ pre b post, t.bufferBindings = pre ++ b :: post ∧ (∀ x ∈ pre, x.name ≠ name) ∧
        b.name = name ∧ b.index = (s : Int)) ∧
    t.bindingMetadata.constantBuffers =
      (if ∃ g ∈ t.constantBuffers, g.name = globalsName then []
        else ((t.bindPoint? globalsName).map fun s =>
          (⟨globalsName, s, CbufferMember.ofParams t.globalParams⟩ : CbufferLayout)).toList) ++
      t.constantBuffers.filterMap (fun g =>
        (t.bindPoint? g.name).map fun s => ⟨g.name, s, CbufferMember.ofParams g.numeric⟩) ∧
    t.withoutStructs.bindingMetadata = t.bindingMetadata ∧
    t.bindingMetadata.textures =
      (t.textures.filter (0 ≤ ·.index)).map (fun x => ⟨x.name, x.index.toNat, x.samplerIndex, x.dim⟩) ∧
    (∀ s, t.bindingMetadata.constantBuffer? s =
      if (∀ g ∈ t.constantBuffers, g.name ≠ globalsName) ∧ t.bindPoint? globalsName = some s then
        some ⟨globalsName, s, CbufferMember.ofParams t.globalParams⟩
      else (t.constantBuffers.find? fun g => t.bindPoint? g.name = some s).map fun g =>
        ⟨g.name, s, CbufferMember.ofParams g.numeric⟩) ∧
    (∀ s, t.bindingMetadata.texture? s =
      (t.textures.find? fun x => x.index = (s : Int)).map fun x => ⟨x.name, s, x.samplerIndex, x.dim⟩) :=
  ⟨fun _ _ => bindPoint?_eq_some_iff t, constantBuffers_bindingMetadata t,
    bindingMetadata_withoutStructs t, textures_bindingMetadata t, constantBuffer?_bindingMetadata t,
    texture?_bindingMetadata t⟩

end ParameterTable

end ShaderRecovery
