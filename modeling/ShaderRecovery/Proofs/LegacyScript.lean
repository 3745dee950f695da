import Mathlib
import ShaderRecovery.Asset.ProgramIndex
import ShaderRecovery.Proofs.Checked
import ShaderRecovery.Proofs.Traversal

/-!
# Filling in a legacy script

A legacy script names its sub-programs as `GpuProgramIndex N`, the index
running to the end of its line. `ProgramIndex.substitute` walks the script,
each time looking for the first marker in what is left. This module describes
that walk without the loop.

* `ProgramIndex.FirstMarker` — the first occurrence of the marker in a text:
  no occurrence starts earlier. `splitAtMarker_eq_some_iff` and
  `splitAtMarker_eq_none_iff` say that the search finds exactly it.
* `ProgramIndex.MarkerScan` — how a script is read: the occurrences found, each
  the text before it and its argument (the rest of its line), and the text
  after the last. `MarkerScan.exists_of` and `MarkerScan.unique`: every script
  is read in exactly one way.
* `ProgramIndex.fill` — what one occurrence becomes: itself for an empty
  argument, else the text of the sub-program its argument names.
* `substitute_of_firstMarker` is the step of the walk, `substitute_of_scan`
  the run.

Principal result: `ProgramIndex.legacyScript_fills_markers` — each script
has one reading, and the export is the reading with every occurrence filled,
left to right, all other text kept in order; the text an occurrence is filled
with is not read again, the first occurrence that cannot be filled gives the
fault, and a script without the marker comes back unchanged.
-/

namespace ShaderRecovery

namespace ProgramIndex

/-! ## The first marker -/

theorem dropPrefix?_eq_list (xs ys : List Char) : dropPrefix? xs ys = ys.dropPrefix? xs := by
  induction xs generalizing ys with
  | nil => cases ys <;> rfl
  | cons x xs ih =>
    cases ys with
    | nil => rfl
    | cons y ys =>
      simp only [dropPrefix?, List.dropPrefix?, ih, beq_iff_eq]
      by_cases h : x = y
      · simp [h]
      · simp [h, Ne.symm h]

theorem dropPrefix?_append (xs rest : List Char) : dropPrefix? xs (xs ++ rest) = some rest := by
  induction xs with
  | nil => rfl
  | cons x xs ih => simp [dropPrefix?, ih]

/-- The search for the marker is the library's search for an infix, from an
accumulated prefix. -/
theorem dropInfix?_go_eq (cs acc : List Char) :
    List.dropInfix?.go marker cs acc = (splitAtMarker cs).map fun r => (acc.reverse ++ r.1, r.2) := by
  induction cs generalizing acc with
  | nil => rfl
  | cons c cs ih =>
    rw [List.dropInfix?.go, splitAtMarker, dropPrefix?_eq_list]
    cases (c :: cs).dropPrefix? marker with
    | none =>
      dsimp only
      rw [ih, Option.map_map]
      congr 1
      funext r
      simp
    | some after => simp

theorem splitAtMarker_eq_dropInfix? (cs : List Char) : splitAtMarker cs = cs.dropInfix? marker := by
  rw [List.dropInfix?, dropInfix?_go_eq]
  cases splitAtMarker cs <;> simp

/-- `cs` is `before`, the marker and `after`, and no occurrence of the marker
starts earlier. -/
def FirstMarker (cs before after : List Char) : Prop :=
  cs = before ++ marker ++ after ∧ ∀ pre post, cs = pre ++ marker ++ post → before.length ≤ pre.length

/-- The search finds exactly the first occurrence of the marker. -/
theorem splitAtMarker_eq_some_iff {cs before after : List Char} :
    splitAtMarker cs = some (before, after) ↔ FirstMarker cs before after := by
  rw [splitAtMarker_eq_dropInfix?, List.dropInfix?_eq_some_iff, FirstMarker]
  simp only [beq_iff_eq, exists_eq_right, ge_iff_le]
  constructor
  · rintro ⟨h, hfirst⟩
    exact ⟨h, fun pre post hcs => hfirst pre marker post hcs rfl⟩
  · rintro ⟨h, hfirst⟩
    exact ⟨h, fun pre i post hcs hi => hfirst pre post (hi ▸ hcs)⟩

/-- The search finds nothing exactly when the marker does not occur. -/
theorem splitAtMarker_eq_none_iff {cs : List Char} : splitAtMarker cs = none ↔ ¬marker <:+: cs := by
  induction cs with
  | nil =>
    simp only [splitAtMarker, true_iff]
    intro h
    have := h.length_le
    simp [marker] at this
  | cons c cs ih =>
    rw [splitAtMarker, List.infix_cons_iff]
    cases hpre : dropPrefix? marker (c :: cs) with
    | none =>
      -- no occurrence at the head: the marker occurs in `c :: cs` only if in `cs`
      have hnot : ¬marker <+: c :: cs := by
        rintro ⟨rest, hrest⟩
        rw [← hrest, dropPrefix?_append] at hpre
        cases hpre
      simp only [Option.map_eq_none_iff, ih, hnot, false_or]
    | some after =>
      have hhead : marker <+: c :: cs := ⟨after, append_of_dropPrefix? _ _ _ hpre⟩
      simp [hhead]

theorem FirstMarker.occurs {cs before after : List Char} (h : FirstMarker cs before after) :
    marker <:+: cs :=
  ⟨before, after, h.1.symm⟩

/-- The first marker of a text is unique. -/
theorem FirstMarker.unique {cs b a b' a' : List Char} (h : FirstMarker cs b a)
    (h' : FirstMarker cs b' a') : b = b' ∧ a = a' := by
  have := (splitAtMarker_eq_some_iff.mpr h).symm.trans (splitAtMarker_eq_some_iff.mpr h')
  simpa using this

/-! ## Reading a script -/

/-- How a script is read: the occurrences of the marker found, each as the
text before it and its argument (the rest of the marker's line), and the text
after the last argument, which holds no marker. Each occurrence is the first
marker of what is left, and reading goes on after its argument. -/
inductive MarkerScan : List Char → List (List Char × List Char) → List Char → Prop
  | done {cs : List Char} : ¬marker <:+: cs → MarkerScan cs [] cs
  | hit {cs before after tail : List Char} {hits : List (List Char × List Char)} :
      FirstMarker cs before after → MarkerScan (after.dropWhile (· ≠ '\n')) hits tail →
      MarkerScan cs ((before, after.takeWhile (· ≠ '\n')) :: hits) tail

namespace MarkerScan

/-- Every script can be read. -/
theorem exists_of (cs : List Char) : ∃ hits tail, MarkerScan cs hits tail := by
  cases hsplit : splitAtMarker cs with
  | none => exact ⟨[], cs, .done (splitAtMarker_eq_none_iff.mp hsplit)⟩
  | some r =>
    obtain ⟨before, after⟩ := r
    have hlt : (after.dropWhile (· ≠ '\n')).length < cs.length :=
      Nat.lt_of_le_of_lt (List.length_dropWhile_le _ _) (splitAtMarker_rest_lt cs before after hsplit)
    obtain ⟨hits, tail, hscan⟩ := exists_of (after.dropWhile (· ≠ '\n'))
    exact ⟨_, tail, .hit (splitAtMarker_eq_some_iff.mp hsplit) hscan⟩
termination_by cs.length
decreasing_by exact hlt

/-- A script is read in one way only. -/
theorem unique {cs tail tail' : List Char} {hits hits' : List (List Char × List Char)}
    (h : MarkerScan cs hits tail) (h' : MarkerScan cs hits' tail') : hits = hits' ∧ tail = tail' := by
  induction h generalizing hits' tail' with
  | done hno =>
    cases h' with
    | done _ => exact ⟨rfl, rfl⟩
    | hit hfirst _ => exact absurd hfirst.occurs hno
  | hit hfirst _ ih =>
    cases h' with
    | done hno => exact absurd hfirst.occurs hno
    | hit hfirst' hrest' =>
      obtain ⟨rfl, rfl⟩ := hfirst.unique hfirst'
      obtain ⟨rfl, rfl⟩ := ih hrest'
      exact ⟨rfl, rfl⟩

end MarkerScan

/-! ## Filling the occurrences -/

/-- What an occurrence of the marker becomes: the marker itself when its
argument is empty, else the text, in `layout`, of the sub-program the argument
names, failing when the argument is no index, names no decoded sub-program or
its text cannot be made. -/
def fill (p : ProgramIndex) (layout : TextLayout) (arg : List Char) : Except AssetError (List Char) :=
  if arg = [] then .ok marker
  else match parseIndex? arg with
    | none => .error (.invalidProgramIndex (String.ofList arg))
    | some i => (p.subProgram? i >>= fun sp => sp.text layout).map String.toList

theorem drop_takeWhile_length (p : Char → Bool) (cs : List Char) :
    cs.drop (cs.takeWhile p).length = cs.dropWhile p := by
  have hsplit : cs.takeWhile p ++ cs.dropWhile p = cs := List.takeWhile_append_dropWhile
  calc cs.drop (cs.takeWhile p).length
      = (cs.takeWhile p ++ cs.dropWhile p).drop (cs.takeWhile p).length := by rw [hsplit]
    _ = cs.dropWhile p := List.drop_left

theorem map_eq_bind_pure {α β : Type} (f : α → β) (x : Except AssetError α) :
    (x >>= fun a => pure (f a)) = f <$> x := by
  cases x <;> rfl

variable {p : ProgramIndex} {layout : TextLayout}

/-- One step of the walk: the first marker is filled, and the walk goes on
after its argument. -/
theorem substitute_of_firstMarker {cs before after : List Char} (h : FirstMarker cs before after) :
    p.substitute layout cs =
      p.fill layout (after.takeWhile (· ≠ '\n')) >>= fun t =>
        (fun rest => before ++ t ++ rest) <$> p.substitute layout (after.dropWhile (· ≠ '\n')) := by
  rw [substitute]
  split
  · rename_i hnone
    rw [splitAtMarker_eq_some_iff.mpr h] at hnone
    cases hnone
  · rename_i before' after' hsplit
    obtain ⟨rfl, rfl⟩ := FirstMarker.unique (splitAtMarker_eq_some_iff.mp hsplit) h
    dsimp only
    split
    · -- an empty argument: the marker stays, and the rest of the line is read on
      rename_i hempty
      have harg : after'.takeWhile (· ≠ '\n') = [] := List.isEmpty_iff.mp hempty
      have hrest : after'.dropWhile (· ≠ '\n') = after' := by
        rw [← drop_takeWhile_length, harg, List.length_nil, List.drop_zero]
      rw [harg, hrest, fill, if_pos rfl, ok_bind_eq, map_eq_bind_pure]
    · rename_i hne
      have harg : after'.takeWhile (· ≠ '\n') ≠ [] := fun h => hne (List.isEmpty_iff.mpr h)
      rw [fill, if_neg harg, drop_takeWhile_length]
      cases hidx : parseIndex? (after'.takeWhile (· ≠ '\n')) with
      | none => rfl
      | some i =>
        simp only [pure_bind]
        cases hsp : p.subProgram? i with
        | error e => rfl
        | ok sp =>
          simp only [ok_bind_eq]
          cases htext : sp.text layout with
          | error e => rfl
          | ok text =>
            simp only [ok_bind_eq, Except.map]
            exact map_eq_bind_pure _ _

/-- The whole walk: each occurrence of the reading filled in turn, the first
that cannot be filled giving the fault, then the pieces joined with the text
after the last occurrence. -/
theorem substitute_of_scan {cs tail : List Char} {hits : List (List Char × List Char)}
    (hs : MarkerScan cs hits tail) :
    p.substitute layout cs = (fun pieces => pieces.flatten ++ tail) <$>
      hits.mapM fun h => (h.1 ++ ·) <$> p.fill layout h.2 := by
  induction hs with
  | done hno =>
    rw [substitute]
    split
    · rfl
    · rename_i before after hsplit
      exact absurd (splitAtMarker_eq_some_iff.mp hsplit).occurs hno
  | @hit cs before after tail hits hfirst _ ih =>
    rw [substitute_of_firstMarker hfirst, ih, List.mapM_cons]
    cases p.fill layout (after.takeWhile (· ≠ '\n')) with
    | error e => rfl
    | ok t =>
      simp only [ok_bind_eq]
      cases hits.mapM (fun h => (h.1 ++ ·) <$> p.fill layout h.2) with
      | error e => rfl
      | ok pieces =>
        show Except.ok _ = Except.ok (((before ++ t) :: pieces).flatten ++ tail)
        simp

theorem legacyScript_of_scan {script : String} {tail : List Char}
    {hits : List (List Char × List Char)} (hs : MarkerScan script.toList hits tail) :
    p.legacyScript script = (fun pieces => String.ofList (pieces.flatten ++ tail)) <$>
      hits.mapM fun h => (h.1 ++ ·) <$> p.fill TextLayout.default h.2 := by
  rw [legacyScript, substitute_of_scan hs]
  cases hits.mapM fun h => (h.1 ++ ·) <$> p.fill TextLayout.default h.2 <;> rfl

/-- Exporting a legacy script: the script is read in exactly one way, and the
export is that reading with each occurrence of the marker filled in turn (an
empty argument keeps the marker, any other gives the text of the sub-program
it names), the text around the occurrences kept in order and the filled-in
text not read again; the first occurrence that cannot be filled gives the
fault. A script without the marker comes back unchanged. -/
theorem legacyScript_fills_markers (p : ProgramIndex) (script : String) :
    (∃ hits tail, MarkerScan script.toList hits tail) ∧
    (∀ hits tail hits' tail', MarkerScan script.toList hits tail →
      MarkerScan script.toList hits' tail' → hits = hits' ∧ tail = tail') ∧
    (∀ hits tail, MarkerScan script.toList hits tail →
      p.legacyScript script = (fun pieces => String.ofList (pieces.flatten ++ tail)) <$>
        hits.mapM fun h => (h.1 ++ ·) <$> p.fill TextLayout.default h.2) ∧
    (¬marker <:+: script.toList → p.legacyScript script = .ok script) := by
  refine ⟨MarkerScan.exists_of _, fun _ _ _ _ h h' => h.unique h', fun _ _ hs => legacyScript_of_scan hs,
    fun hno => ?_⟩
  rw [legacyScript_of_scan (.done hno)]
  show Except.ok (String.ofList ([].flatten ++ script.toList)) = _
  simp

end ProgramIndex

end ShaderRecovery
