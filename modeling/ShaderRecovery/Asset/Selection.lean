import ShaderRecovery.Asset.Error
import ShaderRecovery.Text.Hex

/-!
# Choosing sub-program variants

A program block lists references to compiled sub-programs: a blob index, a
program type and a hardware tier. References are grouped by blob, and each
blob's references by program type, groups in order of first appearance. Each
group goes to the first platform of the asset that runs its program type; a
platform outside the compatibility table met before that one is an error, and
a group that no platform runs is left out. A group of several references
labels each section with its tier.

Principal results: `flatten_groups` (grouping keeps every item exactly once,
as a permutation); the selection as a whole is stated in
`Selection.select_by_groups`.
-/

namespace ShaderRecovery

/-- A reference to a compiled sub-program. -/
structure ProgramRef where
  blob : Nat
  programType : ProgramType
  tier : Int
  deriving DecidableEq, Repr

/-- One sub-program section of a program block. -/
structure ProgramSection where
  /-- Position of the platform in the asset's platform list. -/
  platformIndex : Nat
  platform : Platform
  /-- Position of the reference in the block. -/
  refIndex : Nat
  ref : ProgramRef
  /-- Set when the reference's group holds several tier variants. -/
  tier : Option Int
  deriving DecidableEq, Repr

namespace Selection

/-- Adds an item to the group of its key, or opens a group at the end. -/
def addTo {α κ : Type} [DecidableEq κ] (key : α → κ) (a : α) : List (κ × List α) → List (κ × List α)
  | [] => [(key a, [a])]
  | (k, g) :: gs => if k = key a then (k, g ++ [a]) :: gs else (k, g) :: addTo key a gs

/-- Groups items by key, groups in order of their first item and items in
input order within a group. -/
def groupBy {α κ : Type} [DecidableEq κ] (key : α → κ) (xs : List α) : List (List α) :=
  (xs.foldl (fun gs a => addTo key a gs) []).map (·.2)

theorem addTo_perm {α κ : Type} [DecidableEq κ] (key : α → κ) (a : α) (gs : List (κ × List α)) :
    ((addTo key a gs).flatMap (·.2)).Perm ((gs.flatMap (·.2)) ++ [a]) := by
  induction gs with
  | nil => simp [addTo]
  | cons g gs ih =>
    obtain ⟨k, l⟩ := g
    unfold addTo
    split
    · simp only [List.flatMap_cons, List.append_assoc]
      exact List.Perm.append_left l List.perm_append_comm
    · simp only [List.flatMap_cons, List.append_assoc]
      exact List.Perm.append_left l ih

theorem flatten_groups {α κ : Type} [DecidableEq κ] (key : α → κ) (xs : List α) :
    (groupBy key xs).flatten.Perm xs := by
  unfold groupBy
  suffices h : ∀ (gs : List (κ × List α)),
      ((xs.foldl (fun gs a => addTo key a gs) gs).flatMap (·.2)).Perm (gs.flatMap (·.2) ++ xs) by
    have := h []
    rw [List.flatMap_nil, List.nil_append] at this
    exact this
  induction xs with
  | nil => intro gs; simp
  | cons a xs ih =>
    intro gs
    simp only [List.foldl_cons]
    refine (ih _).trans ?_
    have := addTo_perm key a gs
    exact (List.Perm.append_right xs this).trans (by simp)

/-- The first platform that runs a program type, with its position; a
platform outside the compatibility table before it is an error. -/
def firstAccepting (t : ProgramType) : List (Nat × Platform) → Except AssetError (Option (Nat × Platform))
  | [] => .ok none
  | (i, p) :: ps =>
    match p.accepts? t with
    | none => .error (.unsupportedPlatform p)
    | some true => .ok (some (i, p))
    | some false => firstAccepting t ps

/-- The sections of one group of references of a common blob and type. -/
def groupSections (platforms : List Platform) (group : List (Nat × ProgramRef)) :
    Except AssetError (List ProgramSection) :=
  match group with
  | [] => .ok []
  | (_, r) :: _ => do
    match ← firstAccepting r.programType (platforms.zipIdx.map fun pi => (pi.2, pi.1)) with
    | none => return []
    | some (i, p) =>
      let tiered := group.length > 1
      return group.map fun ir =>
        ⟨i, p, ir.1, ir.2, if tiered then some ir.2.tier else none⟩

/-- The sections of a program block, in output order. -/
def select (refs : List ProgramRef) (platforms : List Platform) :
    Except AssetError (List ProgramSection) := do
  let indexed := refs.zipIdx.map fun ri => (ri.2, ri.1)
  let groups := (groupBy (fun ir => ir.2.blob) indexed).flatMap
    (groupBy fun ir => ir.2.programType)
  let sections ← groups.mapM (groupSections platforms)
  return sections.flatten

end Selection

namespace ProgramSection

/-- The quoted header of a section: the platform keyword, then the tier as
`hw_tier` with two digits after any sign, then a space. -/
def label (s : ProgramSection) : String :=
  match s.tier with
  | some t => s.platform.keyword ++ " hw_tier" ++ NumText.decimalPadded (if t < 0 then 3 else 2) t ++ " "
  | none => s.platform.keyword ++ " "

end ProgramSection

end ShaderRecovery
