import Mathlib
import ShaderRecovery.Hlsl.Emit

/-!
# Splitting packed signature registers

Several signature entries may share one register, each with its own lanes.
An access to lanes `comps` of such a register is split by owner: a lane is
owned by the first entry of the register whose mask has it, and lanes of one
owner form one group, in the order of their first lane. A read by a single
owner names its field; any other read gathers the lanes one by one into a
vector. A write assigns once per group.

The walk over the lanes keeps the invariant `Grouped` (`Grouped.addLane` is
its step, `grouped_go` the run), from which `signatureGroups_splits` reads the
split off as `SplitsLanes`.

* `firstOwner_owner?` — the owner search finds the first covering entry;
* `lowestBit_spec` — an owner's lowest lane is its mask's lowest set bit;
* `signatureRead_gathered` — a read of several owners is a vector of one-lane
  reads;
* `assign_text`, `dstTargets_forall₂`, `dstTargets_lanes` — a write is one line
  per group, into the owner's field, over all lanes written.

Principal result: `Emit.signature_lanes_split`.
-/

namespace ShaderRecovery

namespace Emit

/-- Entry `e` covers lane `c` of register `r`. -/
def Owns (e : SignatureEntry) (r c : Nat) : Prop := e.register.toNat = r ∧ hasBit e.mask.toNat c = true

instance (e : SignatureEntry) (r c : Nat) : Decidable (Owns e r c) :=
  inferInstanceAs (Decidable (_ ∧ _))

/-- `o` is the first entry of `es`, with its position, that covers lane `c`
of register `r`; `none` when no entry covers it. -/
def FirstOwner (es : List SignatureEntry) (r c : Nat) : Option (Nat × SignatureEntry) → Prop
  | some (i, e) => es[i]? = some e ∧ Owns e r c ∧ ∀ j < i, ∀ e' ∈ es[j]?, ¬ Owns e' r c
  | none => ∀ e ∈ es, ¬ Owns e r c

section Owner

variable {r c : Nat}

theorem owner?_go_succ (es : List SignatureEntry) (n : Nat) :
    owner?.go r c es (n + 1) = (owner?.go r c es n).map fun p => (p.1 + 1, p.2) := by
  induction es generalizing n with
  | nil => rfl
  | cons e es ih =>
    simp only [owner?.go]
    split
    · rfl
    · exact ih (n + 1)

theorem owner?_cons (e : SignatureEntry) (es : List SignatureEntry) :
    owner? (e :: es) r c = if Owns e r c then some (0, e) else (owner? es r c).map fun p => (p.1 + 1, p.2) := by
  by_cases h : Owns e r c
  · have h' : e.register.toNat = r ∧ hasBit e.mask.toNat c = true := h
    rw [if_pos h]
    simp only [owner?, owner?.go]
    rw [if_pos h']
  · have h' : ¬ (e.register.toNat = r ∧ hasBit e.mask.toNat c = true) := h
    rw [if_neg h]
    simp only [owner?, owner?.go]
    rw [if_neg h']
    exact owner?_go_succ es 0

/-- The owner search finds the first covering entry. -/
theorem firstOwner_owner? (es : List SignatureEntry) : FirstOwner es r c (owner? es r c) := by
  induction es with
  | nil => intro e he; cases he
  | cons e es ih =>
    rw [owner?_cons]
    by_cases he : Owns e r c
    · rw [if_pos he]
      exact ⟨rfl, he, fun j hj => absurd hj (Nat.not_lt_zero j)⟩
    · rw [if_neg he]
      cases ho : owner? es r c with
      | none =>
        rw [ho] at ih
        intro e' he'
        rcases List.mem_cons.mp he' with rfl | he'
        · exact he
        · exact ih e' he'
      | some p =>
        obtain ⟨i, e₁⟩ := p
        rw [ho] at ih
        obtain ⟨hi, hown, hfirst⟩ := ih
        refine ⟨by simpa using hi, hown, fun j hj e' he' => ?_⟩
        cases j with
        | zero =>
          simp only [List.getElem?_cons_zero, Option.mem_def, Option.some.injEq] at he'
          exact he' ▸ he
        | succ j => exact hfirst j (by omega) e' (by simpa using he')

/-- Two owners the search found compare equal by position only when they are
the same entry. -/
theorem sameOwner_owner? {es : List SignatureEntry} {c' : Nat}
    (h : sameOwner (owner? es r c) (owner? es r c') = true) : owner? es r c = owner? es r c' := by
  have hc := firstOwner_owner? (r := r) (c := c) es
  have hc' := firstOwner_owner? (r := r) (c := c') es
  revert h hc hc'
  cases owner? es r c with
  | none => cases owner? es r c' <;> simp [sameOwner]
  | some p =>
    cases owner? es r c' with
    | none => simp [sameOwner]
    | some q =>
      obtain ⟨i, e⟩ := p
      obtain ⟨j, e'⟩ := q
      intro h hc hc'
      simp only [sameOwner, beq_iff_eq] at h
      subst h
      have he : e = e' := Option.some.inj (hc.1.symm.trans hc'.1)
      rw [he]

theorem sameOwner_self (o : Option (Nat × SignatureEntry)) : sameOwner o o = true := by
  rcases o with _ | ⟨i, e⟩ <;> simp [sameOwner]

end Owner

/-- The component of lane `c` within its owner: the lane less the owner's
lowest lane. A lane no entry owns keeps its number. -/
def localLane : Option (Nat × SignatureEntry) → Nat → Nat
  | some (_, e), c => c - lowestBit e.mask.toNat
  | none, c => c

/-- A group with one more lane. -/
def Group.extend (g : Group) (loc pos : Nat) : Group :=
  { g with locals := g.locals ++ [loc], positions := g.positions ++ [pos] }

theorem mem_extend_positions {g : Group} {loc pos p : Nat} :
    p ∈ (g.extend loc pos).positions ↔ p ∈ g.positions ∨ p = pos := by
  simp [Group.extend]

theorem signatureGroups_go_cons (es : List SignatureEntry) (r c : Nat) (cs : List Nat) (pos : Nat)
    (gs : List Group) :
    signatureGroups.go es r (c :: cs) pos gs =
      signatureGroups.go es r cs (pos + 1) (addLane (owner? es r c) (localLane (owner? es r c) c) pos gs) := by
  simp only [signatureGroups.go]
  rcases owner? es r c with _ | ⟨i, e⟩ <;> rfl

section AddLane

variable {o : Option (Nat × SignatureEntry)} {loc pos : Nat}

theorem addLane_cons (g : Group) (gs : List Group) :
    addLane o loc pos (g :: gs) =
      if sameOwner g.owner o then g.extend loc pos :: gs else g :: addLane o loc pos gs := rfl

/-- A group after `addLane` was there before, is the new group, or is an old
group of the same owner with the lane added. -/
theorem mem_addLane {gs : List Group} {g' : Group} (h : g' ∈ addLane o loc pos gs) :
    g' ∈ gs ∨ g' = ⟨o, [loc], [pos]⟩ ∨
      ∃ g ∈ gs, sameOwner g.owner o = true ∧ g' = g.extend loc pos := by
  induction gs with
  | nil =>
    simp only [addLane, List.mem_singleton] at h
    exact .inr (.inl h)
  | cons g gs ih =>
    rw [addLane_cons] at h
    split at h
    · rename_i hs
      rcases List.mem_cons.mp h with rfl | h
      · exact .inr (.inr ⟨g, by simp, hs, rfl⟩)
      · exact .inl (by simp [h])
    · rcases List.mem_cons.mp h with rfl | h
      · exact .inl (by simp)
      · rcases ih h with h | h | ⟨g₀, hg₀, hs, rfl⟩
        · exact .inl (by simp [h])
        · exact .inr (.inl h)
        · exact .inr (.inr ⟨g₀, by simp [hg₀], hs, rfl⟩)

/-- A property of every group survives `addLane` when the new group has it and
adding the lane to a group of the same owner keeps it. -/
theorem forall_mem_addLane {P : Group → Prop} {gs : List Group} (hold : ∀ g ∈ gs, P g)
    (hnew : P ⟨o, [loc], [pos]⟩) (hext : ∀ g ∈ gs, sameOwner g.owner o = true → P (g.extend loc pos)) :
    ∀ g' ∈ addLane o loc pos gs, P g' := by
  intro g' hg'
  rcases mem_addLane hg' with hg' | rfl | ⟨g, hmem, hs, rfl⟩
  · exact hold g' hg'
  · exact hnew
  · exact hext g hmem hs

/-- A relation between the groups in order survives `addLane` when adding the
lane to either side keeps it, and every group that does not share the owner
stands in it with the new group. -/
theorem addLane_pairwise {R : Group → Group → Prop} {gs : List Group} (hR : gs.Pairwise R)
    (hl : ∀ g ∈ gs, ∀ h ∈ gs, R g h → R (g.extend loc pos) h)
    (hr : ∀ g ∈ gs, ∀ h ∈ gs, R g h → R g (h.extend loc pos))
    (hnew : ∀ g ∈ gs, sameOwner g.owner o = false → R g ⟨o, [loc], [pos]⟩) :
    (addLane o loc pos gs).Pairwise R := by
  induction gs with
  | nil => simp [addLane]
  | cons g gs ih =>
    rw [List.pairwise_cons] at hR
    rw [addLane_cons]
    split
    · exact List.pairwise_cons.mpr ⟨fun h hh => hl g (by simp) h (by simp [hh]) (hR.1 h hh), hR.2⟩
    · rename_i hs
      refine List.pairwise_cons.mpr ⟨fun h hh => ?_, ih hR.2
        (fun a ha b hb => hl a (by simp [ha]) b (by simp [hb]))
        (fun a ha b hb => hr a (by simp [ha]) b (by simp [hb]))
        (fun a ha => hnew a (by simp [ha]))⟩
      rcases mem_addLane hh with hh | rfl | ⟨h₀, hh₀, -, rfl⟩
      · exact hR.1 h hh
      · exact hnew g (by simp) (by simpa using hs)
      · exact hr g (by simp) h₀ (by simp [hh₀]) (hR.1 h₀ hh₀)

end AddLane

/-- The groups built from the lanes before position `pos` of `comps`: each
group holds the positions of one owner, in increasing order, with their
components within it; groups come in the order of their first positions, and
no two share an owner. -/
structure Grouped (es : List SignatureEntry) (r : Nat) (comps : List Nat) (pos : Nat) (gs : List Group) :
    Prop where
  owner_eq : ∀ g ∈ gs, ∀ p ∈ g.positions, g.owner = owner? es r (comps.getD p 0)
  locals_eq : ∀ g ∈ gs, g.locals = g.positions.map fun p => localLane g.owner (comps.getD p 0)
  increasing : ∀ g ∈ gs, g.positions.Pairwise (· < ·)
  lt_pos : ∀ g ∈ gs, ∀ p ∈ g.positions, p < pos
  nonempty : ∀ g ∈ gs, g.positions ≠ []
  ordered : gs.Pairwise fun g h => ∃ p ∈ g.positions, ∀ q ∈ h.positions, p < q
  distinct : gs.Pairwise fun g h => g.owner ≠ h.owner

namespace Grouped

variable {es : List SignatureEntry} {r : Nat} {comps : List Nat} {pos : Nat} {gs : List Group}

theorem nil : Grouped es r comps 0 [] :=
  ⟨by simp, by simp, by simp, by simp, by simp, .nil, .nil⟩

/-- A group that shares the owner of the lane at `pos` has that very owner. -/
theorem owner_of_same (hg : Grouped es r comps pos gs) {g : Group} (hmem : g ∈ gs)
    (hs : sameOwner g.owner (owner? es r (comps.getD pos 0)) = true) :
    g.owner = owner? es r (comps.getD pos 0) := by
  obtain ⟨p, hp⟩ := List.exists_mem_of_ne_nil _ (hg.nonempty g hmem)
  rw [hg.owner_eq g hmem p hp] at hs ⊢
  exact sameOwner_owner? hs

/-- Adding the lane at `pos` keeps the grouping, one position further on. -/
theorem addLane (hg : Grouped es r comps pos gs) :
    Grouped es r comps (pos + 1)
      (Emit.addLane (owner? es r (comps.getD pos 0))
        (localLane (owner? es r (comps.getD pos 0)) (comps.getD pos 0)) pos gs) := by
  constructor
  · refine forall_mem_addLane hg.owner_eq (fun p hp => ?_) fun g hmem hs p hp => ?_
    · rw [List.mem_singleton.mp hp]
    · rcases mem_extend_positions.mp hp with hp | rfl
      · exact hg.owner_eq g hmem p hp
      · exact hg.owner_of_same (g := g) hmem hs
  · refine forall_mem_addLane hg.locals_eq rfl fun g hmem hs => ?_
    simp only [Group.extend, List.map_append, List.map_singleton]
    rw [hg.locals_eq g hmem, hg.owner_of_same hmem hs]
  · refine forall_mem_addLane hg.increasing (List.pairwise_singleton _ _) fun g hmem _ => ?_
    refine List.pairwise_append.mpr ⟨hg.increasing g hmem, List.pairwise_singleton _ _, fun a ha b hb => ?_⟩
    rw [List.mem_singleton.mp hb]
    exact hg.lt_pos g hmem a ha
  · refine forall_mem_addLane (fun g hmem p hp => Nat.lt_succ_of_lt (hg.lt_pos g hmem p hp))
      (fun p hp => ?_) fun g hmem _ p hp => ?_
    · rw [List.mem_singleton.mp hp]
      exact Nat.lt_succ_self pos
    · rcases mem_extend_positions.mp hp with hp | rfl
      · exact Nat.lt_succ_of_lt (hg.lt_pos g hmem p hp)
      · exact Nat.lt_succ_self _
  · refine forall_mem_addLane hg.nonempty (List.cons_ne_nil _ _) fun g _ _ => ?_
    simp [Group.extend]
  · -- the lane at `pos` comes after every position so far
    refine addLane_pairwise hg.ordered ?_ ?_ ?_
    · rintro g - h - ⟨p, hp, hlt⟩
      exact ⟨p, mem_extend_positions.mpr (.inl hp), hlt⟩
    · rintro g hmem h - ⟨p, hp, hlt⟩
      refine ⟨p, hp, fun q hq => ?_⟩
      rcases mem_extend_positions.mp hq with hq | rfl
      · exact hlt q hq
      · exact hg.lt_pos g hmem p hp
    · intro g hmem _
      obtain ⟨p, hp⟩ := List.exists_mem_of_ne_nil _ (hg.nonempty g hmem)
      refine ⟨p, hp, fun q hq => ?_⟩
      rw [List.mem_singleton.mp hq]
      exact hg.lt_pos g hmem p hp
  · refine addLane_pairwise hg.distinct (fun _ _ _ _ hne => hne) (fun _ _ _ _ hne => hne) ?_
    intro g _ hs heq
    rw [heq, sameOwner_self] at hs
    cases hs

end Grouped

/-- The walk over the lanes keeps the grouping from the start to the end. -/
theorem grouped_go {es : List SignatureEntry} {r : Nat} {comps : List Nat} :
    ∀ (cs : List Nat) (pos : Nat) (gs : List Group), comps.drop pos = cs →
      Grouped es r comps pos gs → Grouped es r comps (pos + cs.length) (signatureGroups.go es r cs pos gs)
  | [], pos, gs, _, hg => hg
  | c :: cs, pos, gs, hdrop, hg => by
    have hc : comps.getD pos 0 = c := by
      rw [List.getD_eq_getElem?_getD, ← List.head?_drop, hdrop]
      rfl
    have hrest : comps.drop (pos + 1) = cs := by
      rw [← List.drop_drop, hdrop]
      rfl
    rw [signatureGroups_go_cons, List.length_cons, ← Nat.add_assoc, Nat.add_right_comm, ← hc]
    exact grouped_go cs (pos + 1) _ hrest (hc ▸ hg.addLane)

theorem grouped_signatureGroups (es : List SignatureEntry) (r : Nat) (comps : List Nat) :
    Grouped es r comps comps.length (signatureGroups es r comps) := by
  have h : Grouped es r comps (0 + comps.length) (signatureGroups.go es r comps 0 []) :=
    grouped_go comps 0 [] rfl Grouped.nil
  rw [Nat.zero_add] at h
  exact h

/-- The lowest set bit of a byte with lane `c` set is set, and no bit below it is. -/
theorem lowestBit_spec {m c : Nat} (hm : m < 256) (h : hasBit m c = true) :
    hasBit m (lowestBit m) = true ∧ ∀ j < lowestBit m, hasBit m j = false := by
  -- a byte has no bit from eight on
  have hc : c < 8 := by
    refine Nat.lt_of_not_le fun hc => ?_
    have hpow : 2 ^ 8 ≤ 2 ^ c := Nat.pow_le_pow_right (by decide) hc
    have hzero : m / 2 ^ c = 0 := Nat.div_eq_of_lt (by omega)
    simp [hasBit, hzero] at h
  unfold lowestBit
  cases hf : (List.range 8).find? (hasBit m) with
  | none =>
    have := List.find?_range_eq_none.mp hf c hc
    simp [h] at this
  | some i =>
    obtain ⟨hi, -, hfirst⟩ := List.find?_range_eq_some.mp hf
    exact ⟨hi, fun j hj => by simpa using hfirst j hj⟩

/-- How the lanes of one access of register `r` are split over the entries
`es`: the groups' positions are the positions of `comps`, each once; positions
increase within a group and groups come in order of their positions; every
position of a group is owned by the group's owner, the first entry covering
its lane, or by no entry for the group without one; a group's components are
its lanes less its owner's lowest lane, and no two groups share an owner. -/
structure SplitsLanes (es : List SignatureEntry) (r : Nat) (comps : List Nat) (gs : List Group) :
    Prop where
  partition : (gs.map Group.positions).flatten.Perm (List.range comps.length)
  increasing : ∀ g ∈ gs, g.positions.Pairwise (· < ·)
  ordered : gs.Pairwise fun g h => ∃ p ∈ g.positions, ∀ q ∈ h.positions, p < q
  owner : ∀ g ∈ gs, ∀ p ∈ g.positions, FirstOwner es r (comps.getD p 0) g.owner
  locals : ∀ g ∈ gs, g.locals = g.positions.map fun p => localLane g.owner (comps.getD p 0)
  lowest : ∀ g ∈ gs, ∀ i e, g.owner = some (i, e) →
    hasBit e.mask.toNat (lowestBit e.mask.toNat) = true ∧
      ∀ j < lowestBit e.mask.toNat, hasBit e.mask.toNat j = false
  distinct : gs.Pairwise fun g h => g.owner ≠ h.owner

theorem signatureGroups_splits (es : List SignatureEntry) (r : Nat) (comps : List Nat) :
    SplitsLanes es r comps (signatureGroups es r comps) := by
  have hg := grouped_signatureGroups es r comps
  refine ⟨signatureGroups_lanes es r comps, hg.increasing, hg.ordered, fun g hmem p hp => ?_,
    hg.locals_eq, fun g hmem i e ho => ?_, hg.distinct⟩
  · rw [hg.owner_eq g hmem p hp]
    exact firstOwner_owner? es
  · -- the owner covers the lane at any of the group's positions
    obtain ⟨p, hp⟩ := List.exists_mem_of_ne_nil _ (hg.nonempty g hmem)
    have hfirst : FirstOwner es r (comps.getD p 0) (some (i, e)) := by
      rw [← ho, hg.owner_eq g hmem p hp]
      exact firstOwner_owner? es
    exact lowestBit_spec (UInt8.toNat_lt _) hfirst.2.1.2

/-- A search whose hits all agree finds that common value once one hit exists. -/
theorem findSome?_eq_of_agree {α β : Type} {f : α → Option β} {v : β} :
    ∀ {l : List α}, (∀ x ∈ l, f x = none ∨ f x = some v) → (∃ x ∈ l, f x = some v) →
      l.findSome? f = some v
  | [], _, ⟨_, hx, _⟩ => absurd hx (List.not_mem_nil)
  | x :: l, hall, hex => by
    rw [List.findSome?_cons]
    rcases hall x (by simp) with hx | hx
    · rw [hx]
      refine findSome?_eq_of_agree (fun y hy => hall y (by simp [hy])) ?_
      obtain ⟨y, hy, hfy⟩ := hex
      rcases List.mem_cons.mp hy with rfl | hy
      · rw [hx] at hfy
        cases hfy
      · exact ⟨y, hy, hfy⟩
    · rw [hx]

/-- One lane makes one group. -/
theorem signatureGroups_single (es : List SignatureEntry) (r c : Nat) :
    signatureGroups es r [c] = [⟨owner? es r c, [localLane (owner? es r c) c], [0]⟩] := by
  simp only [signatureGroups, signatureGroups_go_cons]
  rfl

/-- Looking a position up among the groups finds the lane's component within
its group, rendered as that group renders, for any rendering that reads only
the group's owner. -/
theorem Grouped.findSome?_lane {es : List SignatureEntry} {r : Nat} {comps : List Nat} {n : Nat}
    {gs : List Group} (hg : Grouped es r comps n gs) {p : Nat} {g₀ : Group} (hg₀ : g₀ ∈ gs)
    (hp : p ∈ g₀.positions) (F : Group → Nat → String) (hF : ∀ g g', g.owner = g'.owner → F g = F g') :
    gs.findSome? (fun g => (g.positions.idxOf? p).bind fun k => (g.locals[k]?).map (F g)) =
      some (F g₀ (localLane g₀.owner (comps.getD p 0))) := by
  -- a group holding the position renders the lane, any other finds nothing
  have hhit : ∀ g ∈ gs, p ∈ g.positions →
      ((g.positions.idxOf? p).bind fun k => (g.locals[k]?).map (F g)) =
        some (F g₀ (localLane g₀.owner (comps.getD p 0))) := by
    intro g hmem hpos
    obtain ⟨k, hk⟩ := Option.ne_none_iff_exists'.mp (mt List.idxOf?_eq_none_iff.mp (not_not.mpr hpos))
    obtain ⟨hklt, hkp, -⟩ := List.idxOf?_eq_some_iff.mp hk
    have howner : g.owner = g₀.owner := by
      rw [hg.owner_eq g hmem p hpos, hg.owner_eq g₀ hg₀ p hp]
    have hloc : g.locals[k]? = some (localLane g.owner (comps.getD p 0)) := by
      rw [hg.locals_eq g hmem, List.getElem?_map, List.getElem?_eq_getElem hklt, hkp]
      rfl
    rw [hk, Option.bind_some, hloc, Option.map_some, howner, hF g g₀ howner]
  refine findSome?_eq_of_agree (fun g hmem => ?_) ⟨g₀, hg₀, hhit g₀ hg₀ hp⟩
  by_cases hpos : p ∈ g.positions
  · exact .inr (hhit g hmem hpos)
  · left
    rw [List.idxOf?_eq_none_iff.mpr hpos, Option.bind_none]

theorem signatureRead_gathered (ir : ShaderIr) (file : RegFile) (r : Nat) (comps : List Nat)
    (h : (signatureGroups (entries ir file) r comps).length ≠ 1) :
    signatureRead ir file r comps = vectorType "float" comps.length ++ "(" ++
      ", ".intercalate (comps.map fun c => signatureRead ir file r [c]) ++ ")" := by
  have hg := grouped_signatureGroups (entries ir file) r comps
  have hperm := signatureGroups_lanes (entries ir file) r comps
  rw [signatureRead]
  split
  · rename_i g hgs
    rw [hgs] at h
    simp at h
  · -- each part is the one-lane read of its lane
    show vectorType _ _ ++ "(" ++ ", ".intercalate (List.map _ (List.range comps.length)) ++ ")" = _
    congr 3
    apply List.ext_getElem (by simp)
    intro i h1 h2
    have hi : i < comps.length := by simpa using h1
    have hmem : ∃ g ∈ signatureGroups (entries ir file) r comps, i ∈ g.positions := by
      have hi' : i ∈ ((signatureGroups (entries ir file) r comps).map Group.positions).flatten :=
        hperm.mem_iff.mpr (List.mem_range.mpr hi)
      simpa using hi'
    obtain ⟨g₀, hg₀, hp⟩ := hmem
    rw [List.getElem_map, List.getElem_map, List.getElem_range, hg.findSome?_lane hg₀ hp _ ?hF,
      Option.getD_some, hg.owner_eq g₀ hg₀ i hp, List.getD_eq_getElem _ _ hi, signatureRead,
      signatureGroups_single]
    -- the rendering reads the owner only
    rintro g g' h
    rw [h]

/-- An assignment writes one line `target = value;` per target, in order. -/
theorem assign_text (ir : ShaderIr) (w : LineWriter) (d : Dst) (value : List Nat → String)
    (hmask : maskLanes d.mask ≠ []) (hnull : d.reg.file ≠ .null) :
    (assign ir w d value).text = w.text ++ String.join ((dstTargets ir d (maskLanes d.mask)).map fun t =>
      w.margin ++ (t.1 ++ " = " ++ (if d.saturate then "saturate(" ++ value t.2 ++ ")" else value t.2) ++ ";") ++
        "\n") := by
  unfold assign
  dsimp only
  rw [if_neg (not_or.mpr ⟨hmask, hnull⟩)]
  -- each line keeps the margin, so the lines are appended one after another
  induction dstTargets ir d (maskLanes d.mask) generalizing w with
  | nil => simp
  | cons t ts ih =>
    rw [List.foldl_cons, ih, LineWriter.line_text, List.map_cons, String.join_cons]
    simp only [String.append_assoc]
    rfl

/-- The targets of a signature register are its groups: each writes the
group's lanes, into the field of the group's owner. -/
theorem dstTargets_forall₂ (ir : ShaderIr) (d : Dst) (lanes : List Nat)
    (hfile : d.reg.file = .input ∨ d.reg.file = .output) :
    List.Forall₂ (fun t g => t.2 = g.positions.map (fun p => lanes.getD p 0) ∧
        (∀ i e, g.owner = some (i, e) →
          t.1 = filePrefix ir d.reg.file ++ "." ++ fieldName d.reg.file e ++ "." ++ letters g.locals) ∧
        (g.owner = none →
          t.1 = filePrefix ir d.reg.file ++ ".o" ++ toString d.reg.index.imm ++ "." ++ letters g.locals))
      (dstTargets ir d lanes) (signatureGroups (entries ir d.reg.file) d.reg.index.imm lanes) := by
  rcases hfile with h | h <;>
  · unfold dstTargets
    simp only [h]
    rw [List.forall₂_map_left_iff]
    exact List.forall₂_same.mpr fun g _ => ⟨rfl, fun i e ho => by simp only [ho], fun ho => by simp only [ho]⟩

/-- The lanes of the targets of a signature register are the lanes written,
each once. -/
theorem dstTargets_lanes (ir : ShaderIr) (d : Dst) (lanes : List Nat)
    (hfile : d.reg.file = .input ∨ d.reg.file = .output) :
    ((dstTargets ir d lanes).flatMap Prod.snd).Perm lanes := by
  have hsnd : (dstTargets ir d lanes).map Prod.snd =
      (signatureGroups (entries ir d.reg.file) d.reg.index.imm lanes).map fun g =>
        g.positions.map fun p => lanes.getD p 0 := by
    rw [← List.forall₂_eq_eq_eq, List.forall₂_map_left_iff, List.forall₂_map_right_iff]
    exact (dstTargets_forall₂ ir d lanes hfile).imp fun _ _ h => h.1
  have hrange : (List.range lanes.length).map (fun p => lanes.getD p 0) = lanes := by
    apply List.ext_getElem (by simp)
    intro i _ h2
    rw [List.getElem_map, List.getElem_range, List.getD_eq_getElem _ _ h2]
  calc (dstTargets ir d lanes).flatMap Prod.snd
      = ((signatureGroups (entries ir d.reg.file) d.reg.index.imm lanes).map Group.positions).flatten.map
          fun p => lanes.getD p 0 := by
        rw [List.flatMap_def, hsnd, List.map_flatten, List.map_map]
        rfl
    List.Perm _ ((List.range lanes.length).map fun p => lanes.getD p 0) :=
        (signatureGroups_lanes _ _ lanes).map _
    _ = lanes := hrange

/-- Packed signature registers are split without losing or repeating a lane.
The lanes of one access are grouped by their first owner in the signature,
with every position in one group and each group's components taken within its
owner; a read that is not one owner's is gathered as a vector of one-lane
reads, one per lane; and a write of an input or output register assigns once
per group, into the group owner's field, each lane of the mask exactly once. -/
theorem signature_lanes_split :
    (∀ es r comps, SplitsLanes es r comps (signatureGroups es r comps)) ∧
    (∀ ir file r comps, (signatureGroups (entries ir file) r comps).length ≠ 1 →
      signatureRead ir file r comps = vectorType "float" comps.length ++ "(" ++
        ", ".intercalate (comps.map fun c => signatureRead ir file r [c]) ++ ")") ∧
    (∀ ir w d value, (d.reg.file = .input ∨ d.reg.file = .output) → maskLanes d.mask ≠ [] →
      ∃ targets : List (String × List Nat),
        (assign ir w d value).text = w.text ++ String.join (targets.map fun t =>
          w.margin ++ (t.1 ++ " = " ++ (if d.saturate then "saturate(" ++ value t.2 ++ ")" else value t.2) ++ ";") ++
            "\n") ∧
        List.Forall₂ (fun t g => t.2 = g.positions.map (fun p => (maskLanes d.mask).getD p 0) ∧
            ∀ i e, g.owner = some (i, e) →
              t.1 = filePrefix ir d.reg.file ++ "." ++ fieldName d.reg.file e ++ "." ++ letters g.locals)
          targets (signatureGroups (entries ir d.reg.file) d.reg.index.imm (maskLanes d.mask)) ∧
        (targets.flatMap Prod.snd).Perm (maskLanes d.mask)) := by
  refine ⟨signatureGroups_splits, signatureRead_gathered, fun ir w d value hfile hmask => ?_⟩
  have hnull : d.reg.file ≠ .null := by
    rcases hfile with h | h <;> rw [h] <;> decide
  refine ⟨dstTargets ir d (maskLanes d.mask), assign_text ir w d value hmask hnull, ?_,
    dstTargets_lanes ir d _ hfile⟩
  exact (dstTargets_forall₂ ir d _ hfile).imp fun _ _ h => ⟨h.1, h.2.1⟩

end Emit

end ShaderRecovery
