import Mathlib
import ShaderRecovery.Proofs.WellFormedIr
import ShaderRecovery.Hlsl.Emit

/-!
# What the emitter relies on

Reading a register of a signature, the emitter looks up, for each lane, the
entry whose mask has that lane, takes the lane relative to the entry's lowest
lane, and places the result at the lane's position; reading a constant, it
turns lanes into byte addresses and finds the member that covers them. This
module proves the facts those steps rest on, and finds where one of them fails:

* `GroupingSafe` — every lane is a bit of a mask byte, an owner's lowest lane
  is not above a lane it owns, and every group pairs each lane position, below
  the number of lanes, with its component. `groupingSafe` proves it for lanes
  of at most three, the lanes a well-formed program reads: a source through
  its swizzle (`Src.swizzled_le`), a destination at its mask
  (`maskLanes_le`).
* `BindingMetadata.resolveLanes_addresses` — a resolved access computed every
  byte address below `2 ^ 32`.
* `CbufferMember.registerCount_eq` — the register count of a member is the
  product of its rows and its array length taken modulo `2 ^ 32`;
  `BindingMetadata.Fits` says that no product reaches `2 ^ 32`, and then the
  count is the product itself.

Principal results: `decompile_in_bounds` — a decoded program reads lanes of
at most three, its signature reads are safe, its constant accesses stay inside
the 32-bit address space, and with metadata that fits every register count is
exact. `transform_array_registerCount_wraps` shows that the last part needs the
fit: a matrix array of `2 ^ 32` registers counts none, and its own first byte
is in no member.
-/

namespace ShaderRecovery

/-! ## Lanes of a well-formed program -/

theorem Swizzle.lane_le {s : Swizzle} (h : s.WellFormed) (l : Nat) : s.lane l ≤ 3 := by
  obtain ⟨hx, hy, hz, hw⟩ := h
  unfold lane
  split <;> assumption

/-- A source is read at its swizzle's lanes of the lanes asked for, which for a
well-formed source are at most three. -/
theorem Src.swizzled_le {s : Src} (h : s.WellFormed) (lanes : List Nat) :
    ∀ c ∈ lanes.map s.swizzle.lane, c ≤ 3 := by
  intro c hc
  obtain ⟨l, -, rfl⟩ := List.mem_map.mp hc
  exact Swizzle.lane_le h.2 l

/-- A destination is written at the lanes of its mask, all below four. -/
theorem maskLanes_le (m : Nat) : ∀ c ∈ maskLanes m, c ≤ 3 := by
  intro c hc
  have := List.mem_range.mp (List.mem_filter.mp hc).1
  omega

/-! ## Grouping the lanes of a signature register -/

namespace Emit

theorem owner?_hasBit {es : List SignatureEntry} {r c i : Nat} {e : SignatureEntry}
    (h : owner? es r c = some (i, e)) : hasBit e.mask.toNat c = true := by
  unfold owner? at h
  -- the search carries the position along; the owner it returns passed the test
  suffices ∀ es n, owner?.go r c es n = some (i, e) → hasBit e.mask.toNat c = true from this es 0 h
  intro es
  induction es with
  | nil => intro n hn; cases hn
  | cons e' es ih =>
    intro n hn
    unfold owner?.go at hn
    split at hn
    · rename_i hown
      cases hn
      exact hown.2
    · exact ih (n + 1) hn

/-- The lowest lane of a mask byte is not above any lane the mask has. -/
theorem lowestBit_le {m c : Nat} (hm : m < 256) (h : hasBit m c = true) : lowestBit m ≤ c := by
  have hc : c < 8 := by
    refine Nat.lt_of_not_le fun hc => ?_
    have hpow : 256 ≤ 2 ^ c := Nat.pow_le_pow_right (n := 2) (by decide) hc
    have hzero : m / 2 ^ c = 0 := Nat.div_eq_of_lt (by omega)
    simp [hasBit, hzero] at h
  unfold lowestBit
  cases hf : (List.range 8).find? (hasBit m) with
  | none =>
    have := List.find?_range_eq_none.mp hf c hc
    simp [h] at this
  | some c' =>
    obtain ⟨_, _, hfirst⟩ := List.find?_range_eq_some.mp hf
    refine Nat.le_of_not_lt fun hlt => ?_
    simpa [h] using hfirst c hlt

theorem addLane_locals (owner : Option (Nat × SignatureEntry)) (loc pos : Nat) (gs : List Group)
    (h : ∀ g ∈ gs, g.locals.length = g.positions.length) :
    ∀ g ∈ addLane owner loc pos gs, g.locals.length = g.positions.length := by
  induction gs with
  | nil => simp [addLane]
  | cons g gs ih =>
    unfold addLane
    split
    · intro g' hg'
      rcases List.mem_cons.mp hg' with rfl | hg'
      · simp [h g (by simp)]
      · exact h g' (by simp [hg'])
    · intro g' hg'
      rcases List.mem_cons.mp hg' with rfl | hg'
      · exact h _ (by simp)
      · exact ih (fun g'' hg'' => h g'' (by simp [hg''])) g' hg'

/-- Every group holds one component for each lane position it holds. -/
theorem signatureGroups_locals (es : List SignatureEntry) (r : Nat) (comps : List Nat) :
    ∀ g ∈ signatureGroups es r comps, g.locals.length = g.positions.length := by
  unfold signatureGroups
  -- the walk over the lanes keeps the pairing, one `addLane` at a time
  suffices ∀ cs pos gs, (∀ g ∈ gs, g.locals.length = g.positions.length) →
      ∀ g ∈ signatureGroups.go es r cs pos gs, g.locals.length = g.positions.length from
    this comps 0 [] (by simp)
  intro cs
  induction cs with
  | nil => intro pos gs h; exact h
  | cons c cs ih =>
    intro pos gs h
    exact ih (pos + 1) _ (addLane_locals _ _ _ gs h)

theorem signatureGroups_position_lt {es : List SignatureEntry} {r : Nat} {comps : List Nat}
    {g : Group} (hg : g ∈ signatureGroups es r comps) {p : Nat} (hp : p ∈ g.positions) :
    p < comps.length := by
  have hmem : p ∈ ((signatureGroups es r comps).map Group.positions).flatten :=
    List.mem_flatten.mpr ⟨g.positions, List.mem_map.mpr ⟨g, hg, rfl⟩, hp⟩
  exact List.mem_range.mp ((signatureGroups_lanes es r comps).mem_iff.mp hmem)

end Emit

/-- What reading the lanes `comps` of signature register `r` relies on. -/
structure GroupingSafe (es : List SignatureEntry) (r : Nat) (comps : List Nat) : Prop where
  /-- Every lane is a bit of a mask byte. -/
  lane_lt : ∀ c ∈ comps, c < 8
  /-- The lane relative to its owner does not go below the owner's lowest lane. -/
  lowest_le : ∀ c ∈ comps, ∀ i e, Emit.owner? es r c = some (i, e) → Emit.lowestBit e.mask.toNat ≤ c
  /-- Each group pairs every position with a component. -/
  locals_length : ∀ g ∈ Emit.signatureGroups es r comps, g.locals.length = g.positions.length
  /-- Every position is the position of a lane. -/
  position_lt : ∀ g ∈ Emit.signatureGroups es r comps, ∀ p ∈ g.positions, p < comps.length

theorem groupingSafe (es : List SignatureEntry) (r : Nat) {comps : List Nat} (h : ∀ c ∈ comps, c ≤ 3) :
    GroupingSafe es r comps where
  lane_lt c hc := by have := h c hc; omega
  lowest_le _ _ _ _ he := Emit.lowestBit_le (UInt8.toNat_lt _) (Emit.owner?_hasBit he)
  locals_length := Emit.signatureGroups_locals es r comps
  position_lt _ hg _ hp := Emit.signatureGroups_position_lt hg hp

/-! ## Addresses of constant accesses -/

namespace BindingMetadata

/-- A resolved access computed every byte address of its lanes below `2 ^ 32`:
the register's base and each lane's address are checked before they are used. -/
theorem resolveLanes_addresses {members : List CbufferMember} {reg : Nat} {lanes : List Nat}
    {found : Option (Nat × CbufferMember × Nat)} {r : Option (Nat × CbufferMember × Nat) × List Nat}
    (h : resolveLanes members reg lanes found = some r) : ∀ lane ∈ lanes, reg * 16 + 4 * lane < addressLimit := by
  induction lanes generalizing found r with
  | nil => intro lane hl; cases hl
  | cons lane lanes ih =>
    simp only [resolveLanes, bind, Option.bind] at h
    split at h
    · contradiction
    rename_i hguard
    -- past the guard, the lanes after this one were resolved too
    have hrest : ∃ found' r', resolveLanes members reg lanes found' = some r' := by
      split at h
      · contradiction
      dsimp only at h
      split at h
      · split at h
        · contradiction
        split at h
        · contradiction
        · exact ⟨_, _, by assumption⟩
      · split at h
        · contradiction
        · exact ⟨_, _, by assumption⟩
    intro l hl
    rcases List.mem_cons.mp hl with rfl | hl
    · omega
    · obtain ⟨_, _, h'⟩ := hrest
      exact ih h' l hl

theorem resolveConstant_addresses {md : BindingMetadata} {slot reg : Nat} {lanes : List Nat}
    {a : ConstantAccess} (h : md.resolveConstant slot reg lanes = some a) :
    ∀ lane ∈ lanes, reg * 16 + 4 * lane < addressLimit := by
  simp only [resolveConstant, bind, Option.bind_eq_some_iff, pure] at h
  obtain ⟨cb, _, ⟨found, comps⟩, hr, _⟩ := h
  exact resolveLanes_addresses hr

end BindingMetadata

/-! ## Register counts -/

namespace CbufferMember

/-- Registers of one element: one for a vector, one per row for a matrix. -/
def rowsPerElement (m : CbufferMember) : Nat :=
  match m.kind with
  | .vector _ => 1
  | .matrix rows _ => max rows 1

theorem registerCount_eq (m : CbufferMember) :
    m.registerCount = m.rowsPerElement * max m.arraySize 1 % 2 ^ 32 := by
  rcases m with ⟨_, _, _ | _, _⟩ <;> rfl

theorem registerCount_of_lt {m : CbufferMember} (h : m.rowsPerElement * max m.arraySize 1 < 2 ^ 32) :
    m.registerCount = m.rowsPerElement * max m.arraySize 1 := by
  rw [registerCount_eq, Nat.mod_eq_of_lt h]

end CbufferMember

/-- No member of any buffer spans `2 ^ 32` registers or more. -/
def BindingMetadata.Fits (md : BindingMetadata) : Prop :=
  ∀ cb ∈ md.constantBuffers, ∀ m ∈ cb.members, m.rowsPerElement * max m.arraySize 1 < 2 ^ 32

/-- Decoding and emitting stay in bounds. A decoded program is well formed, so
every lane it reads is at most three: a well-formed source is read through its
swizzle and a destination written at its mask lanes. Reading such lanes of a
signature register shifts a mask byte by less than eight, never takes a lane
below its owner's lowest lane, and places every lane at a position that
exists; a resolved constant access computes its byte addresses below
`2 ^ 32`; and with metadata that fits, the register count of every member is
the exact product of its rows and array length. -/
theorem decompile_in_bounds {shader : CompiledShader} {stage : Stage} {ir : ShaderIr}
    (h : ShaderIr.build shader stage = .ok ir) (md : BindingMetadata) (hmd : md.Fits) :
    ir.WellFormed ∧
      (∀ comps : List Nat, (∀ c ∈ comps, c ≤ 3) → ∀ es r, GroupingSafe es r comps) ∧
      (∀ s : Src, s.WellFormed → ∀ (lanes : List Nat) es r, GroupingSafe es r (lanes.map s.swizzle.lane)) ∧
      (∀ (d : Dst) es r, GroupingSafe es r (maskLanes d.mask)) ∧
      (∀ slot reg lanes a, md.resolveConstant slot reg lanes = some a →
        ∀ lane ∈ lanes, reg * 16 + 4 * lane < BindingMetadata.addressLimit) ∧
      ∀ cb ∈ md.constantBuffers, ∀ m ∈ cb.members,
        m.registerCount = m.rowsPerElement * max m.arraySize 1 :=
  ⟨ShaderIr.build_wellFormed h, fun _ hc es r => groupingSafe es r hc,
    fun _ hs lanes es r => groupingSafe es r (Src.swizzled_le hs lanes),
    fun d es r => groupingSafe es r (maskLanes_le d.mask),
    fun _ _ _ _ ha => BindingMetadata.resolveConstant_addresses ha,
    fun cb hcb m hm => CbufferMember.registerCount_of_lt (hmd cb hcb m hm)⟩

/-- A program whose body is one `ret`, with one matrix of globals. -/
def retProgram : CompiledShader := ⟨[], [], ⟨⟨.vertex, 4, 0⟩, [0x00010040, 3, 0x0100003e]⟩⟩

def globalsMetadata : BindingMetadata :=
  ⟨[⟨"$Globals", 0, [⟨"_Transform", 0, .matrix 4 4, 0⟩]⟩], []⟩

theorem decompile_in_bounds_ret :
    ShaderIr.build retProgram .vertex = .ok (ShaderIr.ofChain retProgram .vertex [[0x0100003e]]) ∧
      globalsMetadata.Fits ∧
      ((ShaderIr.ofChain retProgram .vertex [[0x0100003e]]).WellFormed ∧
        (∀ comps : List Nat, (∀ c ∈ comps, c ≤ 3) → ∀ es r, GroupingSafe es r comps) ∧
        (∀ s : Src, s.WellFormed → ∀ (lanes : List Nat) es r, GroupingSafe es r (lanes.map s.swizzle.lane)) ∧
        (∀ (d : Dst) es r, GroupingSafe es r (maskLanes d.mask)) ∧
        (∀ slot reg lanes a, globalsMetadata.resolveConstant slot reg lanes = some a →
          ∀ lane ∈ lanes, reg * 16 + 4 * lane < BindingMetadata.addressLimit) ∧
        ∀ cb ∈ globalsMetadata.constantBuffers, ∀ m ∈ cb.members,
          m.registerCount = m.rowsPerElement * max m.arraySize 1) := by
  have hchain : Decode.Chain retProgram.program.body 0 retProgram.program.body.length [[0x0100003e]] :=
    @Decode.Chain.next retProgram.program.body 0 1 1 [] (by decide) (by decide) (by decide) (.stop 1)
  have hbuild : ShaderIr.build retProgram .vertex = .ok (ShaderIr.ofChain retProgram .vertex [[0x0100003e]]) :=
    ShaderIr.build_of_chain rfl hchain
  have hfits : globalsMetadata.Fits := by
    simp [BindingMetadata.Fits, globalsMetadata, CbufferMember.rowsPerElement]
  exact ⟨hbuild, hfits, decompile_in_bounds hbuild globalsMetadata hfits⟩

/-- Without the fit the count wraps: two rows times `2 ^ 31` elements is
`2 ^ 32` registers, counted as none, so not even the member's first byte is
located in it. -/
theorem transform_array_registerCount_wraps :
    (⟨"_Transform", 0, .matrix 2 4, 2 ^ 31⟩ : CbufferMember).rowsPerElement * max (2 ^ 31) 1 = 2 ^ 32 ∧
      (⟨"_Transform", 0, .matrix 2 4, 2 ^ 31⟩ : CbufferMember).registerCount = 0 ∧
      (⟨"_Transform", 0, .matrix 2 4, 2 ^ 31⟩ : CbufferMember).locate 0 = none := by
  decide

end ShaderRecovery
