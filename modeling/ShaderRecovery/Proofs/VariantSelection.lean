import Mathlib
import ShaderRecovery.Asset.Selection
import ShaderRecovery.Proofs.Traversal

/-!
# Which sections a program block emits

`Selection.select` groups the references of a program block twice (by blob,
then by program type), sends each group to the first platform that runs its
type, and stops at a platform outside the compatibility table. This module
says what that computes, without the two folds or the scan.

* `Selection.groupBy_eq` — grouping is the list of keys in order of first
  occurrence (`List.eraseDups`), each with the items of that key in input
  order. `addTo_grouping` is the step (one item lands in its group, or opens
  one at the end) and `foldl_addTo_grouping` the run.
* `Selection.groupKeys`, `Selection.members` — the (blob, type) groups in the
  order sections are emitted, and the references of each with their positions.
* `Selection.MeetsUnknown`, `Selection.firstRunner?` — what the scan of the
  platforms for a type finds first: a platform outside the table, or the first
  platform that runs the type.
* `Selection.sectionsOf` — the sections one group contributes.

Principal result: `Selection.select_by_groups` — the selection fails exactly at
the first group whose scan meets an unknown platform, with that platform;
otherwise it returns the groups' sections in order; every reference whose
type some listed platform runs then appears exactly once, and no other; and a
section's label is its platform keyword, then for a tiered section `hw_tier`
and the tier with two digits after any sign, then a space.
-/

namespace ShaderRecovery

namespace Selection

/-! ## Grouping by first occurrence -/

section Grouping

variable {α κ : Type} [DecidableEq κ] (key : α → κ)

/-- The groups of `xs`: keys in order of first occurrence, each with the items
of that key in input order. -/
def grouping (xs : List α) : List (κ × List α) :=
  (xs.map key).eraseDups.map fun k => (k, xs.filter fun a => key a = k)

theorem nodup_eraseDups : ∀ ks : List κ, ks.eraseDups.Nodup
  | [] => by simp
  | k :: ks => by
    rw [List.eraseDups_cons]
    have hrest := nodup_eraseDups (ks.filter fun b => !b == k)
    refine List.nodup_cons.mpr ⟨?_, hrest⟩
    simp [List.mem_eraseDups, List.mem_filter]
termination_by ks => ks.length
decreasing_by
  have := List.length_filter_le (fun b => !b == k) ks
  simp only [List.length_cons]
  omega

variable {key}

/-- An item whose key has a group joins the end of that group. -/
theorem addTo_of_mem (a : α) {ks : List κ} (g : κ → List α) (hk : key a ∈ ks) (hnd : ks.Nodup) :
    addTo key a (ks.map fun k => (k, g k)) =
      ks.map fun k => (k, if k = key a then g k ++ [a] else g k) := by
  induction ks with
  | nil => cases hk
  | cons k ks ih =>
    obtain ⟨hk_notin, hnd'⟩ := List.nodup_cons.mp hnd
    rw [List.map_cons, addTo]
    by_cases hka : k = key a
    · -- the first group of the key takes the item; no later group has that key
      subst hka
      simp only [↓reduceIte, List.map_cons, List.cons.injEq, true_and]
      apply List.map_congr_left
      intro k' hk'
      have : k' ≠ key a := fun h => hk_notin (h ▸ hk')
      simp [this]
    · have hk' : key a ∈ ks := by
        rcases List.mem_cons.mp hk with h | h
        · exact absurd h.symm hka
        · exact h
      simp only [hka, ↓reduceIte, List.map_cons, ih hk' hnd']

/-- An item whose key has no group opens one at the end. -/
theorem addTo_of_not_mem (a : α) (gs : List (κ × List α)) (hk : ∀ g ∈ gs, g.1 ≠ key a) :
    addTo key a gs = gs ++ [(key a, [a])] := by
  induction gs with
  | nil => rfl
  | cons g gs ih =>
    obtain ⟨k, l⟩ := g
    have hka : k ≠ key a := hk (k, l) (by simp)
    simp only [addTo, hka, ↓reduceIte, List.cons_append,
      ih fun g hg => hk g (List.mem_cons_of_mem _ hg)]

/-- One step of grouping: the item goes to the end of its key's group, or a
new group at the end. -/
theorem addTo_grouping (xs : List α) (a : α) :
    addTo key a (grouping key xs) = grouping key (xs ++ [a]) := by
  unfold grouping
  rw [List.map_append, List.map_singleton, List.eraseDups_append]
  by_cases hk : key a ∈ xs.map key
  · -- the key is known: the list of keys stays, and only its group grows
    have hnone : ([key a].removeAll (xs.map key)).eraseDups = [] := by
      have hex : ∃ b ∈ xs, key b = key a := List.mem_map.mp hk
      simp [List.removeAll, hex]
    rw [hnone, List.append_nil,
      addTo_of_mem a (fun k => xs.filter fun b => key b = k) (by simpa using hk)
        (nodup_eraseDups _)]
    apply List.map_congr_left
    intro k _
    by_cases hka : k = key a
    · simp [hka]
    · simp [hka, Ne.symm hka]
  · -- a new key: every old group stays, and the item opens the last group
    have hone : ([key a].removeAll (xs.map key)).eraseDups = [key a] := by
      have hex : ¬∃ b ∈ xs, key b = key a := fun h => hk (List.mem_map.mpr h)
      simp [List.removeAll, hex, List.eraseDups_cons]
    rw [hone, addTo_of_not_mem]
    · rw [List.map_append, List.map_singleton]
      congr 1
      · apply List.map_congr_left
        intro k hk'
        have hka : key a ≠ k := fun h => hk (by simpa [h] using hk')
        simp [hka]
      · have hnone : xs.filter (fun b => key b = key a) = [] :=
          List.filter_eq_nil_iff.mpr fun b hb h => hk (List.mem_map.mpr ⟨b, hb, by simpa using h⟩)
        simp [hnone]
    · intro g hg
      obtain ⟨k, hk', rfl⟩ := List.mem_map.mp hg
      intro h
      simp only at h
      exact hk (List.mem_eraseDups.mp (h ▸ hk'))

/-- The grouping fold, run from the groups of `xs` over `ys`, gives the
groups of `xs ++ ys`. -/
theorem foldl_addTo_grouping (xs ys : List α) :
    ys.foldl (fun gs a => addTo key a gs) (grouping key xs) = grouping key (xs ++ ys) := by
  induction ys generalizing xs with
  | nil => simp
  | cons y ys ih =>
    rw [List.foldl_cons, addTo_grouping, ih]
    simp

/-- Grouping lists the keys in order of first occurrence, each group holding
the items of its key in input order. -/
theorem groupBy_eq (xs : List α) :
    groupBy key xs = (xs.map key).eraseDups.map fun k => xs.filter fun a => key a = k := by
  have h : xs.foldl (fun gs a => addTo key a gs) (grouping key []) = grouping key ([] ++ xs) :=
    foldl_addTo_grouping [] xs
  unfold groupBy
  rw [show grouping key ([] : List α) = [] from rfl] at h
  rw [h, List.nil_append, grouping, List.map_map]
  rfl

end Grouping

/-! ## Scanning the platforms -/

/-- Scanning the platforms for type `t` meets `p`, a platform outside the
compatibility table, before any platform that runs `t`. -/
def MeetsUnknown (platforms : List Platform) (t : ProgramType) (p : Platform) : Prop :=
  ∃ k : Nat, platforms[k]? = some p ∧ p.accepts? t = none ∧
    ∀ j < k, ∀ q : Platform, platforms[j]? = some q → q.accepts? t = some false

/-- The first listed platform that runs `t`, with its position. -/
def firstRunner? (platforms : List Platform) (t : ProgramType) : Option (Nat × Platform) :=
  (platforms.zipIdx.find? fun pi => pi.1.accepts? t = some true).map fun pi => (pi.2, pi.1)

theorem not_meetsUnknown_nil (t : ProgramType) (p : Platform) : ¬MeetsUnknown [] t p := by
  rintro ⟨k, hk, -⟩
  simp at hk

/-- The scan meets an unknown platform at the head, or refuses the head and
meets it in the rest. -/
theorem meetsUnknown_cons {q : Platform} {ps : List Platform} {t : ProgramType} {p : Platform} :
    MeetsUnknown (q :: ps) t p ↔
      (q = p ∧ q.accepts? t = none) ∨ (q.accepts? t = some false ∧ MeetsUnknown ps t p) := by
  constructor
  · rintro ⟨k, hk, hp, hbefore⟩
    cases k with
    | zero =>
      simp only [List.getElem?_cons_zero, Option.some.injEq] at hk
      subst hk
      exact .inl ⟨rfl, hp⟩
    | succ k =>
      refine .inr ⟨hbefore 0 (by omega) q rfl, k, by simpa using hk, hp, fun j hj r hr => ?_⟩
      exact hbefore (j + 1) (by omega) r (by simpa using hr)
  · rintro (⟨rfl, hq⟩ | ⟨hq, k, hk, hp, hbefore⟩)
    · exact ⟨0, rfl, hq, fun j hj => absurd hj (by omega)⟩
    · refine ⟨k + 1, by simpa using hk, hp, fun j hj r hr => ?_⟩
      cases j with
      | zero =>
        simp only [List.getElem?_cons_zero, Option.some.injEq] at hr
        exact hr ▸ hq
      | succ j => exact hbefore j (by omega) r (by simpa using hr)

section Scan

variable (t : ProgramType)

/-- The scan fails exactly when it meets an unknown platform before any that
runs the type, with that platform. -/
theorem firstAccepting_eq_error_iff (ps : List Platform) (n : Nat) {e : AssetError} :
    firstAccepting t ((ps.zipIdx n).map fun pi => (pi.2, pi.1)) = .error e ↔
      ∃ p, MeetsUnknown ps t p ∧ e = .unsupportedPlatform p := by
  induction ps generalizing n with
  | nil =>
    simp only [List.zipIdx_nil, List.map_nil, firstAccepting, reduceCtorEq, false_iff, not_exists,
      not_and]
    intro p hp
    exact absurd hp (not_meetsUnknown_nil t p)
  | cons q ps ih =>
    simp only [List.zipIdx_cons, List.map_cons, firstAccepting]
    simp only [meetsUnknown_cons]
    cases hq : q.accepts? t with
    | none =>
      simp only [Except.error.injEq, and_true, reduceCtorEq, false_and, or_false]
      constructor
      · rintro rfl
        exact ⟨q, rfl, rfl⟩
      · rintro ⟨p, rfl, rfl⟩
        rfl
    | some b =>
      cases b with
      | true => simp
      | false => simp [ih]

/-- A scan that meets no unknown platform finds the first platform that runs
the type, if any. -/
theorem firstAccepting_of_not_meets (ps : List Platform) (n : Nat)
    (h : ∀ p, ¬MeetsUnknown ps t p) :
    firstAccepting t ((ps.zipIdx n).map fun pi => (pi.2, pi.1)) =
      .ok (((ps.zipIdx n).find? fun pi => pi.1.accepts? t = some true).map fun pi => (pi.2, pi.1)) := by
  induction ps generalizing n with
  | nil => rfl
  | cons q ps ih =>
    simp only [List.zipIdx_cons, List.map_cons, firstAccepting, List.find?_cons]
    cases hq : q.accepts? t with
    | none => exact absurd (meetsUnknown_cons.mpr (.inl ⟨rfl, hq⟩)) (h q)
    | some b =>
      cases b with
      | true => simp
      | false =>
        exact ih (n + 1) fun p hp => h p (meetsUnknown_cons.mpr (.inr ⟨hq, hp⟩))

end Scan

/-! ## Groups of references -/

/-- The (blob, program type) groups of a block in the order their sections
are emitted: blobs in order of first reference, and the types of a blob in
order of first reference. -/
def groupKeys (refs : List ProgramRef) : List (Nat × ProgramType) :=
  (refs.map (·.blob)).eraseDups.flatMap fun b =>
    ((refs.filter fun r => r.blob = b).map (·.programType)).eraseDups.map fun t => (b, t)

/-- The references of one group with their positions in the block, in block
order. -/
def members (refs : List ProgramRef) (k : Nat × ProgramType) : List (Nat × ProgramRef) :=
  (refs.zipIdx.map fun ri => (ri.2, ri.1)).filter fun ir => ir.2.blob = k.1 ∧ ir.2.programType = k.2

section Groups

variable {refs : List ProgramRef}

/-- The two groupings of `select` give, in order, the members of each group key. -/
theorem groups_eq (refs : List ProgramRef) :
    (groupBy (fun ir : Nat × ProgramRef => ir.2.blob) (refs.zipIdx.map fun ri => (ri.2, ri.1))).flatMap
        (groupBy fun ir => ir.2.programType) = (groupKeys refs).map (members refs) := by
  have hsnd : (refs.zipIdx.map fun ri => (ri.2, ri.1)).map (·.2) = refs := by
    rw [List.map_map]
    exact List.zipIdx_map_fst 0 refs
  rw [groupBy_eq, groupKeys, List.map_flatMap, List.flatMap_map]
  have hblobs : (refs.zipIdx.map fun ri => (ri.2, ri.1)).map (fun ir => ir.2.blob) = refs.map (·.blob) := by
    conv_rhs => rw [← hsnd, List.map_map]
    rfl
  rw [hblobs]
  congr 1
  funext b
  rw [groupBy_eq, List.map_map]
  -- a blob's types are read off the references of that blob
  have htypes : ((refs.zipIdx.map fun ri => (ri.2, ri.1)).filter fun ir => ir.2.blob = b).map
      (fun ir => ir.2.programType) = (refs.filter fun r => r.blob = b).map (·.programType) := by
    conv_rhs => rw [← hsnd, List.filter_map, List.map_map]
    rfl
  rw [htypes]
  congr 1
  funext t
  simp only [Function.comp, members, List.filter_filter]
  congr 1
  funext ir
  rw [Bool.and_comm, Bool.decide_and]

theorem mem_members {k : Nat × ProgramType} {ir : Nat × ProgramRef} :
    ir ∈ members refs k ↔ refs[ir.1]? = some ir.2 ∧ ir.2.blob = k.1 ∧ ir.2.programType = k.2 := by
  obtain ⟨i, r⟩ := ir
  simp only [members, List.mem_filter, List.mem_map, decide_eq_true_eq]
  constructor
  · rintro ⟨⟨⟨r', i'⟩, hmem, heq⟩, hb, ht⟩
    simp only [Prod.mk.injEq] at heq
    obtain ⟨rfl, rfl⟩ := heq
    exact ⟨List.mem_zipIdx_iff_getElem?.mp hmem, hb, ht⟩
  · rintro ⟨hget, hb, ht⟩
    exact ⟨⟨(r, i), List.mem_zipIdx_iff_getElem?.mpr hget, rfl⟩, hb, ht⟩

/-- A group key names a group with at least one member, all of the key's type. -/
theorem members_cons {k : Nat × ProgramType} (hk : k ∈ groupKeys refs) :
    ∃ ir rest, members refs k = ir :: rest ∧ ir.2.programType = k.2 := by
  obtain ⟨r, hr, hb, ht⟩ : ∃ r ∈ refs, r.blob = k.1 ∧ r.programType = k.2 := by
    simp only [groupKeys, List.mem_flatMap, List.mem_eraseDups, List.mem_map, List.mem_filter,
      decide_eq_true_eq] at hk
    obtain ⟨b, -, t, ⟨r, ⟨hr, hb⟩, ht⟩, rfl⟩ := hk
    exact ⟨r, hr, hb, ht⟩
  obtain ⟨i, hi⟩ := List.mem_iff_getElem?.mp hr
  have hmem : (i, r) ∈ members refs k := mem_members.mpr ⟨hi, hb, ht⟩
  obtain ⟨ir, rest, heq⟩ := List.exists_cons_of_ne_nil (List.ne_nil_of_mem hmem)
  have hir : ir ∈ members refs k := heq ▸ List.mem_cons_self
  exact ⟨ir, rest, heq, (mem_members.mp hir).2.2⟩

end Groups

/-! ## Sections of a group -/

/-- The sections group `k` contributes: each member, in block order, goes to
the first platform that runs the group's type, with its tier when the group
has several members; nothing when no listed platform runs the type. -/
def sectionsOf (platforms : List Platform) (refs : List ProgramRef) (k : Nat × ProgramType) :
    List ProgramSection :=
  match firstRunner? platforms k.2 with
  | none => []
  | some (i, p) => (members refs k).map fun ir =>
      ⟨i, p, ir.1, ir.2, if (members refs k).length > 1 then some ir.2.tier else none⟩

section GroupSections

variable {platforms : List Platform} {refs : List ProgramRef} {k : Nat × ProgramType}

theorem groupSections_members (hk : k ∈ groupKeys refs) :
    groupSections platforms (members refs k) =
      firstAccepting k.2 (platforms.zipIdx.map fun pi => (pi.2, pi.1)) >>= fun found =>
        match found with
        | none => pure []
        | some (i, p) => pure ((members refs k).map fun ir =>
            ⟨i, p, ir.1, ir.2, if (members refs k).length > 1 then some ir.2.tier else none⟩) := by
  obtain ⟨⟨j, r⟩, rest, heq, hty⟩ := members_cons hk
  rw [heq]
  simp only [groupSections]
  -- `rewrite`, not `rw`: whether the closing `rfl` is reducible depends on the
  -- instances `groupSections` was elaborated with
  rewrite [hty]
  rfl

/-- A group fails exactly when the scan for its type meets an unknown platform. -/
theorem groupSections_eq_error_iff (hk : k ∈ groupKeys refs) {e : AssetError} :
    groupSections platforms (members refs k) = .error e ↔
      ∃ p, MeetsUnknown platforms k.2 p ∧ e = .unsupportedPlatform p := by
  rw [groupSections_members hk, bind_eq_error_iff, ← firstAccepting_eq_error_iff k.2 platforms 0]
  constructor
  · rintro (h | ⟨found, -, h⟩)
    · exact h
    · cases found <;> cases h
  · exact .inl

/-- A group whose scan meets no unknown platform gives its sections. -/
theorem groupSections_of_not_meets (hk : k ∈ groupKeys refs) (h : ∀ p, ¬MeetsUnknown platforms k.2 p) :
    groupSections platforms (members refs k) = .ok (sectionsOf platforms refs k) := by
  rw [groupSections_members hk, firstAccepting_of_not_meets k.2 platforms 0 h, ok_bind_eq,
    sectionsOf, firstRunner?]
  cases (platforms.zipIdx.find? fun pi => pi.1.accepts? k.2 = some true) <;> rfl

theorem groupSections_ok_iff (hk : k ∈ groupKeys refs) :
    (∃ ss, groupSections platforms (members refs k) = .ok ss) ↔ ∀ p, ¬MeetsUnknown platforms k.2 p := by
  constructor
  · rintro ⟨ss, hss⟩ p hp
    have := (groupSections_eq_error_iff hk).mpr ⟨p, hp, rfl⟩
    rw [hss] at this
    cases this
  · intro h
    exact ⟨_, groupSections_of_not_meets hk h⟩

end GroupSections

/-! ## The selection -/

section Select

variable {refs : List ProgramRef} {platforms : List Platform}

theorem select_eq (refs : List ProgramRef) (platforms : List Platform) :
    select refs platforms =
      (groupKeys refs).mapM (fun k => groupSections platforms (members refs k)) >>= fun ss =>
        pure ss.flatten := by
  unfold select
  simp only
  rw [groups_eq, List.mapM_map]
  rfl

/-- The selection fails at the first group, in emission order, whose scan
meets a platform outside the table, naming that platform. -/
theorem select_eq_error_iff {e : AssetError} :
    select refs platforms = .error e ↔
      ∃ pre k post p, groupKeys refs = pre ++ k :: post ∧
        (∀ k' ∈ pre, ∀ q, ¬MeetsUnknown platforms k'.2 q) ∧ MeetsUnknown platforms k.2 p ∧
        e = .unsupportedPlatform p := by
  rw [select_eq, bind_eq_error_iff]
  have hpure : ∀ ss : List (List ProgramSection),
      (pure ss.flatten : Except AssetError (List ProgramSection)) ≠ .error e := fun _ h => by cases h
  rw [or_iff_left (by rintro ⟨ss, -, h⟩; exact hpure ss h), mapM_eq_error_iff]
  constructor
  · rintro ⟨pre, k, post, hkeys, hpre, hk⟩
    have hmem : ∀ k' ∈ pre ++ [k], k' ∈ groupKeys refs := fun k' h' => by
      rw [hkeys]
      rcases List.mem_append.mp h' with h' | h'
      · exact List.mem_append_left _ h'
      · simp [List.mem_singleton.mp h']
    obtain ⟨p, hp, rfl⟩ := (groupSections_eq_error_iff (hmem k (by simp))).mp hk
    refine ⟨pre, k, post, p, hkeys, fun k' hk' => ?_, hp, rfl⟩
    exact (groupSections_ok_iff (hmem k' (by simp [hk']))).mp (hpre k' hk')
  · rintro ⟨pre, k, post, p, hkeys, hpre, hp, rfl⟩
    have hmem : ∀ k' ∈ pre ++ [k], k' ∈ groupKeys refs := fun k' h' => by
      rw [hkeys]
      rcases List.mem_append.mp h' with h' | h'
      · exact List.mem_append_left _ h'
      · simp [List.mem_singleton.mp h']
    refine ⟨pre, k, post, hkeys, fun k' hk' => ?_, ?_⟩
    · exact (groupSections_ok_iff (hmem k' (by simp [hk']))).mpr (hpre k' hk')
    · exact (groupSections_eq_error_iff (hmem k (by simp))).mpr ⟨p, hp, rfl⟩

/-- When no group's scan meets a platform outside the table, the selection
is every group's sections, groups in emission order. -/
theorem select_of_not_meets (h : ∀ k ∈ groupKeys refs, ∀ p, ¬MeetsUnknown platforms k.2 p) :
    select refs platforms = .ok ((groupKeys refs).flatMap (sectionsOf platforms refs)) := by
  rw [select_eq, mapM_congr_of_mem fun k hk => groupSections_of_not_meets hk (h k hk)]
  rw [show ((groupKeys refs).mapM fun k => (Except.ok (sectionsOf platforms refs k) :
      Except AssetError (List ProgramSection))) = pure ((groupKeys refs).map (sectionsOf platforms refs))
    from List.mapM_pure]
  rfl

/-- A selection that returns has met no platform outside the table. -/
theorem not_meets_of_select_eq_ok {ss : List ProgramSection} (hs : select refs platforms = .ok ss) :
    ∀ k ∈ groupKeys refs, ∀ p, ¬MeetsUnknown platforms k.2 p := by
  intro k hk
  rw [select_eq, bind_eq_ok_iff] at hs
  obtain ⟨groups, hgroups, -⟩ := hs
  exact (groupSections_ok_iff hk).mp (exists_of_mapM_eq_ok hgroups hk)

/-- The selection returns exactly when no group's scan meets a platform
outside the table, and then returns every group's sections in order. -/
theorem select_eq_ok_iff {ss : List ProgramSection} :
    select refs platforms = .ok ss ↔
      (∀ k ∈ groupKeys refs, ∀ p, ¬MeetsUnknown platforms k.2 p) ∧
        ss = (groupKeys refs).flatMap (sectionsOf platforms refs) := by
  constructor
  · intro hs
    have h := not_meets_of_select_eq_ok hs
    rw [select_of_not_meets h, Except.ok.injEq] at hs
    exact ⟨h, hs.symm⟩
  · rintro ⟨h, rfl⟩
    exact select_of_not_meets h

end Select

/-! ## Which references reach a section -/

/-- Some listed platform runs the type exactly when a first one does. -/
theorem firstRunner?_isSome_iff {platforms : List Platform} {t : ProgramType} :
    (firstRunner? platforms t).isSome ↔ ∃ p ∈ platforms, p.accepts? t = some true := by
  simp only [firstRunner?, Option.isSome_map, List.find?_isSome, decide_eq_true_eq]
  constructor
  · rintro ⟨⟨p, i⟩, hmem, hp⟩
    exact ⟨p, List.mem_zipIdx' hmem |>.2 ▸ List.getElem_mem _, hp⟩
  · rintro ⟨p, hp, hrun⟩
    obtain ⟨i, hi⟩ := List.mem_iff_getElem?.mp hp
    exact ⟨(p, i), List.mem_zipIdx_iff_getElem?.mpr hi, hrun⟩

/-- The references of a group's sections: all of its members when some listed
platform runs the group's type, none otherwise. -/
theorem map_sectionsOf (platforms : List Platform) (refs : List ProgramRef) (k : Nat × ProgramType) :
    (sectionsOf platforms refs k).map (fun s => (s.refIndex, s.ref)) =
      (members refs k).filter fun ir => ∃ p ∈ platforms, p.accepts? ir.2.programType = some true := by
  -- every member has the group's type, so the filter keeps all or nothing
  have htype : ∀ ir ∈ members refs k, ir.2.programType = k.2 := fun ir h => (mem_members.mp h).2.2
  unfold sectionsOf
  cases hrun : firstRunner? platforms k.2 with
  | none =>
    have hno : ¬∃ p ∈ platforms, p.accepts? k.2 = some true := by
      rw [← firstRunner?_isSome_iff, hrun]
      simp
    symm
    apply List.filter_eq_nil_iff.mpr
    intro ir hir
    simpa [htype ir hir] using hno
  | some ip =>
    have hyes : ∃ p ∈ platforms, p.accepts? k.2 = some true := by
      rw [← firstRunner?_isSome_iff, hrun]
      rfl
    obtain ⟨i, p⟩ := ip
    rw [List.map_map]
    symm
    rw [List.filter_eq_self.mpr fun ir hir => by simpa [htype ir hir] using hyes]
    exact (List.map_id' _).symm

open List in
/-- The groups of a selection hold every reference of the block exactly once. -/
theorem flatMap_members_perm (refs : List ProgramRef) :
    ((groupKeys refs).flatMap (members refs)).Perm (refs.zipIdx.map fun ri => (ri.2, ri.1)) := by
  let ixs := refs.zipIdx.map fun ri => (ri.2, ri.1)
  let byBlob := groupBy (fun ir : Nat × ProgramRef => ir.2.blob) ixs
  calc (groupKeys refs).flatMap (members refs)
      = (byBlob.flatMap (groupBy fun ir => ir.2.programType)).flatten := by
        rw [List.flatMap_def, ← groups_eq]
    _ = byBlob.flatMap fun bg => (groupBy (fun ir : Nat × ProgramRef => ir.2.programType) bg).flatten := by
        rw [List.flatMap_def, List.flatten_flatten, List.map_map, List.flatMap_def]
        rfl
    _ ~ byBlob.flatMap id := List.Perm.flatMap_left _ fun bg _ => flatten_groups _ bg
    _ = byBlob.flatten := List.flatMap_id
    _ ~ ixs := flatten_groups _ ixs

/-- A selection that returns holds, as (position, reference) pairs, exactly the
references whose type some listed platform runs, each once. -/
theorem select_perm {refs : List ProgramRef} {platforms : List Platform} {ss : List ProgramSection}
    (hs : select refs platforms = .ok ss) :
    (ss.map fun s => (s.refIndex, s.ref)).Perm
      ((refs.zipIdx.map fun ri => (ri.2, ri.1)).filter fun ir =>
        ∃ p ∈ platforms, p.accepts? ir.2.programType = some true) := by
  obtain ⟨-, rfl⟩ := select_eq_ok_iff.mp hs
  rw [List.map_flatMap]
  simp only [map_sectionsOf]
  rw [← List.filter_flatMap]
  exact (flatMap_members_perm refs).filter _

end Selection

namespace ProgramSection

/-- A section's label: the platform keyword; for a tiered section then
`hw_tier`, a minus sign for a negative tier, and the tier's magnitude with at
least two digits; then a space. -/
theorem label_eq (s : ProgramSection) :
    s.label = s.platform.keyword ++
      (match s.tier with
        | some t => " hw_tier" ++ (if t < 0 then "-" else "") ++
            NumText.padLeft '0' 2 (toString t.natAbs)
        | none => "") ++ " " := by
  unfold label
  cases s.tier with
  | none => simp
  | some t =>
    simp only [NumText.decimalPadded]
    by_cases ht : t < 0
    · simp only [ht, ↓reduceIte, Nat.reduceSub, String.append_assoc]
    · have hnat : t.toNat = t.natAbs := by omega
      simp only [ht, ↓reduceIte, hnat, String.append_assoc, String.empty_append]

end ProgramSection

namespace Selection

/-- Selecting the sections of a program block: it fails exactly at the first
group, in emission order, whose scan meets a platform outside the table,
naming that platform; otherwise it returns every group's sections, groups in
emission order, and these hold each reference whose type some listed platform
runs exactly once, and no other. A section's label is its platform keyword,
then for a tiered section `hw_tier` and the tier, with two digits after any
sign, then a space. -/
theorem select_by_groups (refs : List ProgramRef) (platforms : List Platform) :
    (∀ e, select refs platforms = .error e ↔
      ∃ pre k post p, groupKeys refs = pre ++ k :: post ∧
        (∀ k' ∈ pre, ∀ q, ¬MeetsUnknown platforms k'.2 q) ∧ MeetsUnknown platforms k.2 p ∧
        e = .unsupportedPlatform p) ∧
    (∀ ss, select refs platforms = .ok ss ↔
      (∀ k ∈ groupKeys refs, ∀ p, ¬MeetsUnknown platforms k.2 p) ∧
        ss = (groupKeys refs).flatMap (sectionsOf platforms refs)) ∧
    (∀ ss, select refs platforms = .ok ss →
      (ss.map fun s => (s.refIndex, s.ref)).Perm
        ((refs.zipIdx.map fun ri => (ri.2, ri.1)).filter fun ir =>
          ∃ p ∈ platforms, p.accepts? ir.2.programType = some true)) ∧
    ∀ s : ProgramSection, s.label = s.platform.keyword ++
      (match s.tier with
        | some t => " hw_tier" ++ (if t < 0 then "-" else "") ++
            NumText.padLeft '0' 2 (toString t.natAbs)
        | none => "") ++ " " :=
  ⟨fun _ => select_eq_error_iff, fun _ => select_eq_ok_iff, fun _ => select_perm,
    ProgramSection.label_eq⟩

example :
    ((select [⟨1, .gles3, 0⟩, ⟨1, .gles3, 1⟩, ⟨1, .gles3, 2⟩, ⟨2, .glCore41, 0⟩]
      [.openGLCore, .gles3Plus]).map fun ss => ss.map fun s => (s.platformIndex, s.label)) =
      .ok [(1, "gles3 hw_tier00 "), (1, "gles3 hw_tier01 "), (1, "gles3 hw_tier02 "), (0, "glcore ")] := by
  decide

end Selection

end ShaderRecovery
