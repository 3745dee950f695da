import Mathlib
import ShaderRecovery.Hlsl.Binding

/-!
# Bound constant names address the raw bytes

A read of lanes of `cb{slot}[reg]` is named by binding metadata when every
lane's byte address `reg * 16 + 4 * lane` falls in the same member and row of
the first buffer at that slot, the member being the first, by position, that
covers the address. This module states what such a name means and when one
is found:

* `CbufferMember.locate_eq_some_iff` — where a member puts an address: rows of
  sixteen bytes and lanes of four in an array or matrix, lanes of four
  otherwise, the component kept as a byte;
* `BindingMetadata.locateIn_eq_some_iff` — the search over a buffer's members
  finds exactly the first cover (`FirstCover`);
* `BindingMetadata.resolveConstant_eq_some_iff` — a resolution succeeds exactly
  when there are lanes and all of them have their addresses below `2 ^ 32` and
  the same first cover.

Principal results: `BindingMetadata.resolveConstant_same_bytes` — with
member offsets that are multiples of four and members without a subscript at
most 256 lanes wide, the member, row and components of a resolved access name
the very bytes of the raw lanes, and a resolution is found whenever the lanes
share their first cover — and `BindingMetadata.wide_vector_component_wraps`:
in a wider member the component wraps, and the name reads another lane.
-/

namespace ShaderRecovery

namespace CbufferMember

theorem registerCount_of_not_isIndexed {m : CbufferMember} (h : m.isIndexed = false) :
    m.registerCount = 1 := by
  rcases m with ⟨_, _, _ | _, n⟩ <;> simp_all [isIndexed, registerCount]

variable {m : CbufferMember} {address row c : Nat}

/-- Where a member puts an address: past its offset, by rows of sixteen bytes
and lanes of four bytes in an array or a matrix, by lanes of four bytes in one
row otherwise, where the component is kept as a byte. -/
theorem locate_eq_some_iff :
    m.locate address = some (row, c) ↔ m.offset ≤ address ∧
      if m.isIndexed then
        row = (address - m.offset) / 16 ∧ c = (address - m.offset) % 16 / 4 ∧
          row < m.registerCount ∧ c < m.width
      else row = 0 ∧ c = (address - m.offset) / 4 % 256 ∧ (address - m.offset) / 4 < m.width := by
  unfold locate
  by_cases hlt : address < m.offset
  · simp only [if_pos hlt, reduceCtorEq, false_iff, not_and]
    omega
  · rw [if_neg hlt]
    by_cases hidx : m.isIndexed
    · simp only [hidx, if_true]
      split
      · simp_all
        omega
      · simp_all
    · simp only [hidx]
      split
      · simp_all
      · simp_all
        omega

theorem locate_lt_width (h : m.locate address = some (row, c)) : c < m.width := by
  obtain ⟨-, hcase⟩ := locate_eq_some_iff.mp h
  split at hcase <;> omega

theorem locate_lt_registerCount (h : m.locate address = some (row, c)) : row < m.registerCount := by
  obtain ⟨-, hcase⟩ := locate_eq_some_iff.mp h
  split at hcase
  · exact hcase.2.2.1
  · rename_i hidx
    rw [registerCount_of_not_isIndexed (by simpa using hidx)]
    omega

/-- With an offset and an address that are multiples of four, the row and
component a member finds name the address itself, so long as a member without
a subscript has no more lanes than a byte counts. -/
theorem locate_address (hoff : m.offset % 4 = 0) (ha : address % 4 = 0)
    (hw : m.isIndexed = false → m.width ≤ 256) (h : m.locate address = some (row, c)) :
    if m.isIndexed then m.offset + 16 * row + 4 * c = address
    else row = 0 ∧ m.offset + 4 * c = address := by
  obtain ⟨hle, hcase⟩ := locate_eq_some_iff.mp h
  split_ifs at hcase ⊢ with hidx
  · omega
  · -- the component is below the width, hence below 256, so it did not wrap
    have hfit := hw (by simpa using hidx)
    omega

end CbufferMember

namespace BindingMetadata

/-- Member `i` of `ms`, which is `m`, is the first member that covers byte
`address`, at row `row` and component `c`. -/
def FirstCover (ms : List CbufferMember) (address i : Nat) (m : CbufferMember) (row c : Nat) : Prop :=
  ms[i]? = some m ∧ m.locate address = some (row, c) ∧
    ∀ j < i, ∀ m' ∈ ms[j]?, m'.locate address = none

section FirstCover

variable {m₀ m : CbufferMember} {ms : List CbufferMember} {address row c : Nat}

theorem firstCover_cons_zero :
    FirstCover (m₀ :: ms) address 0 m row c ↔ m = m₀ ∧ m₀.locate address = some (row, c) := by
  simp only [FirstCover, List.getElem?_cons_zero, Option.some.injEq, Nat.not_lt_zero,
    false_imp_iff, implies_true, and_true]
  constructor
  · rintro ⟨rfl, h⟩
    exact ⟨rfl, h⟩
  · rintro ⟨rfl, h⟩
    exact ⟨rfl, h⟩

/-- Past a member that does not cover the address, the first cover is found
among the rest. -/
theorem firstCover_cons_succ (h₀ : m₀.locate address = none) {k : Nat} :
    FirstCover (m₀ :: ms) address (k + 1) m row c ↔ FirstCover ms address k m row c := by
  simp only [FirstCover, List.getElem?_cons_succ]
  constructor
  · rintro ⟨hm, hloc, hfirst⟩
    exact ⟨hm, hloc, fun j hj m' hm' => hfirst (j + 1) (by omega) m' (by simpa using hm')⟩
  · rintro ⟨hm, hloc, hfirst⟩
    refine ⟨hm, hloc, fun j hj m' hm' => ?_⟩
    cases j with
    | zero =>
      simp only [List.getElem?_cons_zero, Option.mem_def, Option.some.injEq] at hm'
      exact hm' ▸ h₀
    | succ j => exact hfirst j (by omega) m' (by simpa using hm')

theorem FirstCover.mem {i : Nat} (h : FirstCover ms address i m row c) : m ∈ ms :=
  List.mem_of_getElem? h.1

end FirstCover

/-- The search behind `locateIn`, counting positions from `n`, finds exactly
the first cover. -/
theorem locateIn_go_eq_some_iff (address : Nat) (ms : List CbufferMember) (n : Nat)
    {i : Nat} {m : CbufferMember} {row c : Nat} :
    locateIn.go address ms n = some (i, m, row, c) ↔ n ≤ i ∧ FirstCover ms address (i - n) m row c := by
  induction ms generalizing n with
  | nil => simp [locateIn.go, FirstCover]
  | cons m₀ ms ih =>
    cases h₀ : m₀.locate address with
    | some rc =>
      obtain ⟨r₀, c₀⟩ := rc
      simp only [locateIn.go, h₀, Option.some.injEq, Prod.mk.injEq]
      constructor
      · rintro ⟨rfl, rfl, rfl, rfl⟩
        simpa [firstCover_cons_zero] using h₀
      · rintro ⟨hle, hcov⟩
        -- a later position would need the first member not to cover the address
        have hi : i - n = 0 := by
          by_contra hne
          have := hcov.2.2 0 (by omega) m₀ (by simp)
          simp [h₀] at this
        rw [hi, firstCover_cons_zero] at hcov
        obtain ⟨rfl, hloc⟩ := hcov
        rw [h₀, Option.some.injEq, Prod.mk.injEq] at hloc
        exact ⟨by omega, rfl, hloc.1, hloc.2⟩
    | none =>
      simp only [locateIn.go, h₀]
      rw [ih (n + 1)]
      constructor
      · rintro ⟨hle, hcov⟩
        refine ⟨by omega, ?_⟩
        rwa [show i - n = (i - (n + 1)) + 1 by omega, firstCover_cons_succ h₀]
      · rintro ⟨hle, hcov⟩
        -- the first member does not cover the address, so the cover is further on
        have hi : i ≠ n := by
          rintro rfl
          rw [Nat.sub_self, firstCover_cons_zero] at hcov
          simp [h₀] at hcov
        refine ⟨by omega, ?_⟩
        rwa [show i - n = (i - (n + 1)) + 1 by omega, firstCover_cons_succ h₀] at hcov

theorem locateIn_eq_some_iff {ms : List CbufferMember} {address i : Nat} {m : CbufferMember}
    {row c : Nat} : locateIn ms address = some (i, m, row, c) ↔ FirstCover ms address i m row c := by
  rw [locateIn, locateIn_go_eq_some_iff]
  simp

/-- Lane `lane` of register `reg` has its byte address below `2 ^ 32`, and
member `i` of `ms`, which is `m`, is its first cover, at `row` and
component `c`. -/
def LaneCover (ms : List CbufferMember) (reg i : Nat) (m : CbufferMember) (row lane c : Nat) : Prop :=
  reg * 16 + 4 * lane < addressLimit ∧ FirstCover ms (reg * 16 + 4 * lane) i m row c

section Resolve

variable {ms : List CbufferMember} {reg lane : Nat} {lanes : List Nat}
  {found : Option (Nat × CbufferMember × Nat)} {res : Option (Nat × CbufferMember × Nat) × List Nat}

theorem bind_cons_eq_some_iff {β : Type} {o : Option (β × List Nat)} {c : Nat} {r : β × List Nat} :
    (o.bind fun rest => some (rest.1, c :: rest.2)) = some r ↔
      ∃ rest, o = some rest ∧ r = (rest.1, c :: rest.2) := by
  cases o <;> simp [eq_comm]

/-- One lane of a resolution: its address is checked and located, the member
and row are compared with those found so far, and the rest of the lanes are
resolved against this lane's. -/
theorem resolveLanes_cons_eq_some_iff :
    resolveLanes ms reg (lane :: lanes) found = some res ↔
      ∃ i m row c, LaneCover ms reg i m row lane c ∧
        (∀ j m₀ r, found = some (j, m₀, r) → j = i ∧ r = row) ∧
        ∃ rest, resolveLanes ms reg lanes (some (i, m, row)) = some rest ∧ res = (rest.1, c :: rest.2) := by
  simp only [LaneCover, ← locateIn_eq_some_iff]
  simp only [resolveLanes]
  by_cases hg : reg * 16 ≥ addressLimit ∨ reg * 16 + 4 * lane ≥ addressLimit
  · -- an address past `2 ^ 32` resolves nothing
    rw [if_pos hg]
    simp only [ne_eq, Option.pure_def, Option.bind_eq_bind, Option.bind_none, reduceCtorEq, Prod.exists,
      false_iff, not_exists, not_and, and_imp]
    omega
  · rw [if_neg hg]
    have ha : reg * 16 + 4 * lane < addressLimit := by omega
    cases hl : locateIn ms (reg * 16 + 4 * lane) with
    | none =>
      simp only [ne_eq, Option.pure_def, Option.bind_eq_bind, Option.bind_none, reduceCtorEq, and_false,
        Prod.exists, false_and, exists_const, exists_false]
    | some v =>
      obtain ⟨i, m, row, c⟩ := v
      cases found with
      | none =>
        simp only [Option.pure_def, Option.bind_eq_bind, Option.bind_some, bind_cons_eq_some_iff, Prod.exists, ha,
          Option.some.injEq, Prod.mk.injEq, true_and, reduceCtorEq, IsEmpty.forall_iff, implies_true,
          existsAndEq, and_true, exists_eq_left']
      | some f =>
        obtain ⟨j, m₀, r⟩ := f
        by_cases hij : i ≠ j ∨ r ≠ row
        · -- a lane in another member or row than the lanes before it
          simp only [ne_eq, Option.pure_def, Option.bind_eq_bind, Option.bind_none, Option.bind_some, hij,
            reduceIte, reduceCtorEq, Option.some.injEq, Prod.mk.injEq, and_imp, forall_apply_eq_imp_iff₂,
            forall_apply_eq_imp_iff, forall_eq', Prod.exists, existsAndEq, and_true, false_iff, not_and, not_exists]
          omega
        · simp only [ne_eq, Option.pure_def, Option.bind_eq_bind, Option.bind_none, Option.bind_some, hij,
            reduceIte, bind_cons_eq_some_iff, Prod.exists, ha, Option.some.injEq, Prod.mk.injEq, true_and, and_imp,
            forall_apply_eq_imp_iff₂, forall_apply_eq_imp_iff, forall_eq', existsAndEq, and_true, exists_eq_left',
            iff_and_self, forall_exists_index]
          omega

/-- A resolution of some lanes found one member and row, the first cover of
every lane, agreeing with what was found before. -/
theorem resolveLanes_sound (h : resolveLanes ms reg lanes found = some res) (hne : lanes ≠ []) :
    ∃ i m row, res.1 = some (i, m, row) ∧ (∀ j m₀ r, found = some (j, m₀, r) → j = i ∧ r = row) ∧
      List.Forall₂ (LaneCover ms reg i m row) lanes res.2 := by
  induction lanes generalizing found res with
  | nil => exact absurd rfl hne
  | cons lane lanes ih =>
    obtain ⟨i, m, row, c, hlane, hfound, rest, hrest, rfl⟩ := resolveLanes_cons_eq_some_iff.mp h
    -- the lanes after this one found this lane's member and row
    have hnext : rest.1 = some (i, m, row) ∧ List.Forall₂ (LaneCover ms reg i m row) lanes rest.2 := by
      cases lanes with
      | nil =>
        simp only [resolveLanes, Option.some.injEq] at hrest
        rw [← hrest]
        exact ⟨rfl, .nil⟩
      | cons lane' lanes =>
        obtain ⟨i', m', row', hfound', hagree, hall⟩ := ih hrest (List.cons_ne_nil _ _)
        obtain ⟨rfl, rfl⟩ := hagree i m row rfl
        obtain ⟨c', cs, hl', -, -⟩ := List.forall₂_cons_left_iff.mp hall
        -- one position of the list holds one member
        have hm : m' = m := Option.some.inj (hl'.2.1.symm.trans hlane.2.1)
        subst hm
        exact ⟨hfound', hall⟩
    exact ⟨i, m, row, hnext.1, hfound, .cons hlane hnext.2⟩

/-- Lanes that share their first cover, agreeing with what was found before,
are resolved to it. -/
theorem resolveLanes_complete {i : Nat} {m : CbufferMember} {row : Nat} {cs : List Nat}
    (hf : List.Forall₂ (LaneCover ms reg i m row) lanes cs) (hne : lanes ≠ [])
    (hfound : ∀ j m₀ r, found = some (j, m₀, r) → j = i ∧ r = row) :
    resolveLanes ms reg lanes found = some (some (i, m, row), cs) := by
  induction hf generalizing found with
  | nil => exact absurd rfl hne
  | @cons lane c lanes cs hlane hrest ih =>
    refine resolveLanes_cons_eq_some_iff.mpr ⟨i, m, row, c, hlane, hfound, ?_⟩
    cases lanes with
    | nil =>
      cases hrest
      exact ⟨(some (i, m, row), []), rfl, rfl⟩
    | cons lane' lanes =>
      refine ⟨(some (i, m, row), cs), ih (List.cons_ne_nil _ _) ?_, rfl⟩
      rintro j m₀ r ⟨⟩
      exact ⟨rfl, rfl⟩

end Resolve

/-- A constant access is resolved exactly when the buffer is known, there are
lanes, and all lanes have their addresses below `2 ^ 32` and the same first
cover, whose member and row the access names, with each lane's component. -/
theorem resolveConstant_eq_some_iff {md : BindingMetadata} {slot reg : Nat} {lanes : List Nat}
    {a : ConstantAccess} :
    md.resolveConstant slot reg lanes = some a ↔
      ∃ cb, md.constantBuffer? slot = some cb ∧ lanes ≠ [] ∧
        ∃ i, List.Forall₂ (LaneCover cb.members reg i a.member a.row) lanes a.components := by
  simp only [resolveConstant, bind, Option.bind_eq_some_iff, pure]
  constructor
  · rintro ⟨cb, hcb, res, hres, ⟨i, m, row⟩, hfound, ha⟩
    cases ha
    -- no lanes leave nothing found
    have hne : lanes ≠ [] := by
      rintro rfl
      simp only [resolveLanes, Option.some.injEq] at hres
      rw [← hres] at hfound
      cases hfound
    obtain ⟨i', m', row', hfound', -, hall⟩ := resolveLanes_sound hres hne
    rw [hfound, Option.some.injEq, Prod.mk.injEq, Prod.mk.injEq] at hfound'
    obtain ⟨rfl, rfl, rfl⟩ := hfound'
    exact ⟨cb, hcb, hne, i, hall⟩
  · rintro ⟨cb, hcb, hne, i, hall⟩
    refine ⟨cb, hcb, (some (i, a.member, a.row), a.components),
      resolveLanes_complete hall hne (by simp), (i, a.member, a.row), rfl, rfl⟩

/-- Every element related to nothing but one value each gives a related list. -/
theorem exists_forall₂_of_forall {α β : Type} {R : α → β → Prop} {xs : List α}
    (h : ∀ x ∈ xs, ∃ y, R x y) : ∃ ys, List.Forall₂ R xs ys := by
  induction xs with
  | nil => exact ⟨[], .nil⟩
  | cons x xs ih =>
    obtain ⟨y, hy⟩ := h x (by simp)
    obtain ⟨ys, hys⟩ := ih fun x' hx' => h x' (by simp [hx'])
    exact ⟨y :: ys, .cons hy hys⟩

/-- Constant-buffer names address the same bytes as the raw register. A
resolved access names a member of the first buffer at the slot, one component
per lane, each within the member's width, and a row within its register count;
with member offsets that are multiples of four and members without a subscript
at most 256 lanes wide, the member's bytes at that row and component are the
lane's own bytes: `offset + 16 * row + 4 * component` in an array or a matrix,
`offset + 4 * component` at row zero otherwise. Conversely, lanes whose
addresses fit below `2 ^ 32` and share their first cover are resolved to it. -/
theorem resolveConstant_same_bytes (md : BindingMetadata)
    (hoff : ∀ cb ∈ md.constantBuffers, ∀ m ∈ cb.members, m.offset % 4 = 0)
    (hwide : ∀ cb ∈ md.constantBuffers, ∀ m ∈ cb.members, m.isIndexed = false → m.width ≤ 256)
    (slot reg : Nat) (lanes : List Nat) :
    (∀ a, md.resolveConstant slot reg lanes = some a →
      (∃ cb, md.constantBuffers.find? (·.slot == slot) = some cb ∧ a.member ∈ cb.members) ∧
      a.row < a.member.registerCount ∧
      List.Forall₂ (fun lane c => c < a.member.width ∧
        if a.member.isIndexed then a.member.offset + 16 * a.row + 4 * c = reg * 16 + 4 * lane
        else a.row = 0 ∧ a.member.offset + 4 * c = reg * 16 + 4 * lane) lanes a.components) ∧
    (lanes ≠ [] → ∀ cb i m row, md.constantBuffers.find? (·.slot == slot) = some cb →
      (∀ lane ∈ lanes, reg * 16 + 4 * lane < addressLimit ∧
        ∃ c, FirstCover cb.members (reg * 16 + 4 * lane) i m row c) →
      ∃ cs, md.resolveConstant slot reg lanes = some ⟨m, row, cs⟩) := by
  refine ⟨fun a ha => ?_, fun hne cb i m row hcb hall => ?_⟩
  · obtain ⟨cb, hcb, hne, i, hlanes⟩ := resolveConstant_eq_some_iff.mp ha
    obtain ⟨lane, lanes', rfl⟩ := List.exists_cons_of_ne_nil hne
    obtain ⟨c, cs, hfirst, -, -⟩ := List.forall₂_cons_left_iff.mp hlanes
    have hmem : a.member ∈ cb.members := hfirst.2.mem
    have hcb' := List.mem_of_find?_eq_some hcb
    have hoff' : a.member.offset % 4 = 0 := hoff cb hcb' _ hmem
    have hwide' := hwide cb hcb' _ hmem
    refine ⟨⟨cb, hcb, hmem⟩, CbufferMember.locate_lt_registerCount hfirst.2.2.1, ?_⟩
    exact hlanes.imp fun l c' hl =>
      ⟨CbufferMember.locate_lt_width hl.2.2.1,
        CbufferMember.locate_address hoff' (by omega) hwide' hl.2.2.1⟩
  · have hcover : ∀ l ∈ lanes, ∃ c, LaneCover cb.members reg i m row l c := by
      intro l hl
      obtain ⟨hlt, c, hc⟩ := hall l hl
      exact ⟨c, hlt, hc⟩
    obtain ⟨cs, hcs⟩ := exists_forall₂_of_forall hcover
    exact ⟨cs, resolveConstant_eq_some_iff.mpr ⟨cb, hcb, hne, i, hcs⟩⟩

/-- The layout of the binding tests: a vector, a scalar, a pair and a matrix. -/
def colorLayout : BindingMetadata :=
  ⟨[⟨"$Globals", 0, [⟨"_Color", 0, .vector 4, 0⟩, ⟨"_Cutoff", 16, .vector 1, 0⟩,
    ⟨"_Tiling", 20, .vector 2, 0⟩, ⟨"_Matrix", 32, .matrix 4 4, 0⟩]⟩], []⟩

theorem resolveConstant_same_bytes_tiling :
    (∀ cb ∈ colorLayout.constantBuffers, ∀ m ∈ cb.members, m.offset % 4 = 0) ∧
    (∀ cb ∈ colorLayout.constantBuffers, ∀ m ∈ cb.members, m.isIndexed = false → m.width ≤ 256) ∧
    (∀ a, colorLayout.resolveConstant 0 1 [1, 2] = some a →
      (∃ cb, colorLayout.constantBuffers.find? (·.slot == 0) = some cb ∧ a.member ∈ cb.members) ∧
      a.row < a.member.registerCount ∧
      List.Forall₂ (fun lane c => c < a.member.width ∧
        if a.member.isIndexed then a.member.offset + 16 * a.row + 4 * c = 1 * 16 + 4 * lane
        else a.row = 0 ∧ a.member.offset + 4 * c = 1 * 16 + 4 * lane) [1, 2] a.components) ∧
    ([1, 2] ≠ [] → ∀ cb i m row, colorLayout.constantBuffers.find? (·.slot == 0) = some cb →
      (∀ lane ∈ [1, 2], 1 * 16 + 4 * lane < addressLimit ∧
        ∃ c, FirstCover cb.members (1 * 16 + 4 * lane) i m row c) →
      ∃ cs, colorLayout.resolveConstant 0 1 [1, 2] = some ⟨m, row, cs⟩) := by
  have hoff : ∀ cb ∈ colorLayout.constantBuffers, ∀ m ∈ cb.members, m.offset % 4 = 0 := by
    simp [colorLayout]
  have hwide : ∀ cb ∈ colorLayout.constantBuffers, ∀ m ∈ cb.members, m.isIndexed = false → m.width ≤ 256 := by
    simp [colorLayout, CbufferMember.width]
  exact ⟨hoff, hwide, resolveConstant_same_bytes colorLayout hoff hwide 0 1 [1, 2]⟩

/-- A vector of 300 lanes, more than a byte counts. -/
def wideVector : CbufferMember := ⟨"_Big", 0, .vector 300, 0⟩

/-- The lane at byte 1024 of a 300-lane vector is its component 256, which is
kept as the byte 0: the access names the vector's first lane, four bytes at
its start, and not the bytes of the raw lane. -/
theorem wide_vector_component_wraps :
    (⟨[⟨"$Globals", 0, [wideVector]⟩], []⟩ : BindingMetadata).resolveConstant 0 64 [0] =
        some ⟨wideVector, 0, [0]⟩ ∧
      ¬ List.Forall₂ (fun lane c => wideVector.offset + 4 * c = 64 * 16 + 4 * lane) [0] [0] := by
  refine ⟨rfl, ?_⟩
  simp [wideVector]

end BindingMetadata

end ShaderRecovery
