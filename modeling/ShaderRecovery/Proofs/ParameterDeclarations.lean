import Mathlib
import ShaderRecovery.Asset.ProgramText

/-!
# Parameter declarations are unique and complete

A decompiled program declares the parameters its code reads: a comment, the
loose globals (matrices, then vectors), the first buffer whose name contains
`Global` without a wrapper, a comment, every named buffer after a comment of
its own (wrapped in `CBUFFER_START(name)` … `CBUFFER_END` unless its name
contains `Global`), a comment, then the textures. One set of names spans all
of them: a declaration is written only the first time its name comes up.

The lines visited are listed as `DeclLine`s, before any is dropped
(`ParameterTable.declLines`); `freshLines` drops every declaration of a name
declared earlier, and what it keeps is what is written (`all_writes`).

* `Declarations.all_eq_foldl` — the declarations visit the lines of
  `declLines` one by one; `foldl_visit` — visiting lines writes the fresh ones.
* `nodup_freshNames`, `mem_freshNames`, `mem_freshDecls` — the names written
  are distinct, are the names visited, and each is written with the text of
  its first visit.
* `freshLines_marks`, `declLines_marks` — buffer wrappers are never dropped:
  one `CBUFFER_START`/`CBUFFER_END` pair per named buffer whose name does not
  contain `Global`.

Principal result: `SubProgram.declarations_unique_and_complete`.
-/

namespace ShaderRecovery

namespace SubProgram

/-- A line of the parameter declarations, in the order lines are visited. -/
inductive DeclLine where
  | comment (text : String)
  /-- The declaration of a name; written only where no earlier line declared
  that name. -/
  | declaration (name text : String)
  /-- `CBUFFER_START(name)`: the lines after it are one level deeper. -/
  | bufferStart (name : String)
  /-- `CBUFFER_END`, one level back. -/
  | bufferEnd
  deriving DecidableEq, Repr

namespace DeclLine

/-- Writes one line. -/
def write (w : LineWriter) : DeclLine → LineWriter
  | comment s => w.line s
  | declaration _ s => w.line s
  | bufferStart name => (w.line ("CBUFFER_START(" ++ name ++ ")")).indent
  | bufferEnd => w.dedent.line "CBUFFER_END"

/-- The name and text a line declares. -/
def declared? : DeclLine → Option (String × String)
  | declaration n s => some (n, s)
  | comment _ | bufferStart _ | bufferEnd => none

/-- Whether a line opens or closes a buffer. -/
def isBufferMark : DeclLine → Bool
  | bufferStart _ | bufferEnd => true
  | comment _ | declaration _ _ => false

end DeclLine

open DeclLine

/-- The declaration line of a numeric parameter. -/
def numericLine (p : NumericParam) : DeclLine := .declaration p.name p.declaration

/-- The lines a buffer's parameters visit, matrices then vectors, wrapped
unless the buffer's name marks it global. -/
def bufferLines (g : ParamGroup) : List DeclLine :=
  if g.isGlobal then g.numeric.map numericLine
  else [.bufferStart g.name] ++ g.numeric.map numericLine ++ [.bufferEnd]

/-- Every line the declarations of a table visit, before repeated names are
dropped. -/
def declLines (t : ParameterTable) (label : String) : List DeclLine :=
  [.comment ("// $Globals ConstantBuffers for " ++ label ++ " Shader")] ++
    t.globalParams.map numericLine ++ ((t.globalBuffer?.map bufferLines).getD []) ++
    [.comment ("// Custom ConstantBuffers for " ++ label ++ " Shader")] ++
    t.constantBuffers.flatMap (fun g => .comment ("// groupName: " ++ g.name) :: bufferLines g) ++
    [.comment ("// Texture params for " ++ label ++ " Shader")] ++
    t.textures.map fun x => .declaration x.name x.declaration

/-- The lines kept: every line, except a declaration of a name that `seen`
holds or an earlier kept line declared. -/
def freshLines : List String → List DeclLine → List DeclLine
  | _, [] => []
  | seen, .declaration n s :: ls =>
    if n ∈ seen then freshLines seen ls else .declaration n s :: freshLines (n :: seen) ls
  | seen, .comment s :: ls => .comment s :: freshLines seen ls
  | seen, .bufferStart name :: ls => .bufferStart name :: freshLines seen ls
  | seen, .bufferEnd :: ls => .bufferEnd :: freshLines seen ls

/-- The declarations a table asks for, by name and text, in the order they are
visited: the loose globals, the first buffer whose name contains `Global`,
every named buffer, then the textures. -/
def declarationOrder (t : ParameterTable) : List (String × String) :=
  t.globalParams.map (fun p => (p.name, p.declaration)) ++
    ((t.globalBuffer?.map ParamGroup.numeric).getD []).map (fun p => (p.name, p.declaration)) ++
    t.constantBuffers.flatMap (fun g => g.numeric.map fun p => (p.name, p.declaration)) ++
    t.textures.map fun x => (x.name, x.declaration)

namespace Declarations

/-- What visiting one line does to the declarations written so far. -/
def visit (d : Declarations) : DeclLine → Declarations
  | .comment s => d.comment s
  | .declaration n s => d.declare n s
  | .bufferStart name => ⟨(d.w.line ("CBUFFER_START(" ++ name ++ ")")).indent, d.seen⟩
  | .bufferEnd => ⟨d.w.dedent.line "CBUFFER_END", d.seen⟩

theorem numeric_eq_foldl (d : Declarations) (ps : List NumericParam) :
    d.numeric ps = (ps.map numericLine).foldl visit d := by
  rw [numeric, List.foldl_map]
  rfl

theorem buffer_eq_foldl (d : Declarations) (g : ParamGroup) :
    d.buffer g = (bufferLines g).foldl visit d := by
  unfold buffer bufferLines
  split
  · exact numeric_eq_foldl d g.numeric
  · rw [List.foldl_append, List.foldl_append, ← numeric_eq_foldl]
    rfl

theorem foldl_globalBuffer (d : Declarations) (o : Option ParamGroup) :
    ((o.map bufferLines).getD []).foldl visit d = (o.map d.buffer).getD d := by
  cases o with
  | none => rfl
  | some g => exact (buffer_eq_foldl d g).symm

theorem foldl_buffers (d : Declarations) (gs : List ParamGroup) :
    (gs.flatMap fun g => .comment ("// groupName: " ++ g.name) :: bufferLines g).foldl visit d =
      gs.foldl (fun d g => (d.comment ("// groupName: " ++ g.name)).buffer g) d := by
  rw [List.foldl_flatMap]
  congr 1
  funext d g
  rw [List.foldl_cons, ← buffer_eq_foldl]
  rfl

theorem foldl_textures (d : Declarations) (xs : List TextureParam) :
    (xs.map fun x => DeclLine.declaration x.name x.declaration).foldl visit d =
      xs.foldl (fun d x => d.declare x.name x.declaration) d := by
  rw [List.foldl_map]
  rfl

/-- The declarations of a table visit its lines one by one. -/
theorem all_eq_foldl (d : Declarations) (t : ParameterTable) (label : String) :
    d.all t label = (declLines t label).foldl visit d := by
  simp only [declLines, List.foldl_append, List.foldl_cons, List.foldl_nil, ← numeric_eq_foldl,
    foldl_globalBuffer, foldl_buffers, foldl_textures]
  unfold all
  cases t.globalBuffer? <;> rfl

/-- Visiting lines writes exactly the fresh ones: the run of `visit` against
the run of `write` over `freshLines`, the set of names carried along. -/
theorem foldl_visit (ls : List DeclLine) (d : Declarations) :
    (ls.foldl visit d).w = (freshLines d.seen ls).foldl DeclLine.write d.w := by
  -- induction on the lines; the names seen are those of the declarations state
  induction ls generalizing d with
  | nil => rfl
  | cons l ls ih =>
    cases l with
    | comment s => exact ih (d.comment s)
    | declaration n s =>
      by_cases hn : n ∈ d.seen
      · rw [List.foldl_cons, freshLines, if_pos hn, visit, declare_seen d n s hn]
        exact ih d
      · rw [List.foldl_cons, freshLines, if_neg hn, List.foldl_cons]
        have hd : d.visit (.declaration n s) = ⟨d.w.line s, n :: d.seen⟩ := by
          simp [visit, declare, hn]
        rw [hd]
        exact ih _
    | bufferStart name => exact ih _
    | bufferEnd => exact ih _

end Declarations

section Fresh

/-- The names the kept lines declare are distinct and none was seen before. -/
theorem nodup_freshNames (seen : List String) (ls : List DeclLine) :
    (((freshLines seen ls).filterMap declared?).map Prod.fst).Nodup ∧
      ∀ n ∈ ((freshLines seen ls).filterMap declared?).map Prod.fst, n ∉ seen := by
  -- induction on the lines, the names seen growing with each kept declaration
  induction ls generalizing seen with
  | nil => simp [freshLines]
  | cons l ls ih =>
    cases l with
    | declaration m s =>
      by_cases hm : m ∈ seen
      · rw [freshLines, if_pos hm]
        exact ih seen
      · obtain ⟨hnd, hout⟩ := ih (m :: seen)
        rw [freshLines, if_neg hm]
        simp only [List.filterMap_cons, declared?, List.map_cons, List.nodup_cons, List.mem_cons]
        refine ⟨⟨fun hmem => hout m hmem (List.mem_cons_self), hnd⟩, ?_⟩
        rintro n (rfl | hn)
        · exact hm
        · exact fun hs => hout n hn (List.mem_cons_of_mem _ hs)
    | comment s => exact ih seen
    | bufferStart name => exact ih seen
    | bufferEnd => exact ih seen

/-- A name is declared by the kept lines exactly when some line declares it
and it was not seen before. -/
theorem mem_freshNames (seen : List String) (ls : List DeclLine) (n : String) :
    n ∈ ((freshLines seen ls).filterMap declared?).map Prod.fst ↔
      n ∈ (ls.filterMap declared?).map Prod.fst ∧ n ∉ seen := by
  induction ls generalizing seen with
  | nil => simp [freshLines]
  | cons l ls ih =>
    cases l with
    | declaration m s =>
      by_cases hm : m ∈ seen
      · rw [freshLines, if_pos hm, ih]
        simp only [List.filterMap_cons, declared?, List.map_cons, List.mem_cons]
        constructor
        · rintro ⟨hn, hs⟩
          exact ⟨.inr hn, hs⟩
        · rintro ⟨rfl | hn, hs⟩
          · exact absurd hm hs
          · exact ⟨hn, hs⟩
      · rw [freshLines, if_neg hm]
        simp only [List.filterMap_cons, declared?, List.map_cons, List.mem_cons, ih]
        constructor
        · rintro (rfl | ⟨hn, hs⟩)
          · exact ⟨.inl rfl, hm⟩
          · exact ⟨.inr hn, fun h => hs (.inr h)⟩
        · rintro ⟨rfl | hn, hs⟩
          · exact .inl rfl
          · by_cases hnm : n = m
            · exact .inl hnm
            · exact .inr ⟨hn, fun h => h.elim hnm hs⟩
    | comment s => exact ih seen
    | bufferStart name => exact ih seen
    | bufferEnd => exact ih seen

/-- A name is declared by the kept lines with the text of the first line that
declares it. -/
theorem mem_freshDecls (seen : List String) (ls : List DeclLine) (n s : String) :
    (n, s) ∈ (freshLines seen ls).filterMap declared? ↔
      n ∉ seen ∧ (ls.filterMap declared?).find? (·.1 == n) = some (n, s) := by
  induction ls generalizing seen with
  | nil => simp [freshLines]
  | cons l ls ih =>
    cases l with
    | declaration m t =>
      have hcons : ∀ l, (declaration m t :: l).filterMap declared? = (m, t) :: l.filterMap declared? :=
        fun _ => rfl
      by_cases hm : m ∈ seen
      · -- a declaration of a seen name is dropped, and it is not the first of `n`
        rw [freshLines, if_pos hm, ih, hcons, List.find?_cons]
        by_cases hnm : m = n
        · subst hnm
          simp [hm]
        · rw [beq_eq_false_iff_ne.mpr hnm]
      · rw [freshLines, if_neg hm, hcons, hcons, List.mem_cons, ih, List.find?_cons]
        by_cases hnm : m = n
        · subst hnm
          simp [hm, eq_comm]
        · rw [beq_eq_false_iff_ne.mpr hnm, List.mem_cons]
          constructor
          · rintro (h | ⟨hs, hf⟩)
            · exact absurd (Prod.mk.inj h).1.symm hnm
            · exact ⟨fun h => hs (.inr h), hf⟩
          · rintro ⟨hs, hf⟩
            exact .inr ⟨fun h => h.elim (fun h' => hnm h'.symm) hs, hf⟩
    | comment s => exact ih seen
    | bufferStart name => exact ih seen
    | bufferEnd => exact ih seen

/-- Buffer wrappers are never dropped. -/
theorem freshLines_marks (seen : List String) (ls : List DeclLine) :
    (freshLines seen ls).filter isBufferMark = ls.filter isBufferMark := by
  induction ls generalizing seen with
  | nil => rfl
  | cons l ls ih =>
    cases l with
    | declaration m t =>
      by_cases hm : m ∈ seen
      · rw [freshLines, if_pos hm, ih]
        rfl
      · rw [freshLines, if_neg hm, List.filter_cons, List.filter_cons, ih]
    | comment s => simp only [freshLines, List.filter_cons, ih]
    | bufferStart name => simp only [freshLines, List.filter_cons, ih]
    | bufferEnd => simp only [freshLines, List.filter_cons, ih]

end Fresh

section Visited

variable (t : ParameterTable) (label : String)

theorem bufferLines_decls (g : ParamGroup) :
    (bufferLines g).filterMap declared? = g.numeric.map fun p => (p.name, p.declaration) := by
  unfold bufferLines
  split <;> simp [List.filterMap_cons, List.filterMap_map, Function.comp_def, numericLine, declared?]

theorem bufferLines_marks (g : ParamGroup) :
    (bufferLines g).filter isBufferMark = if g.isGlobal then [] else [.bufferStart g.name, .bufferEnd] := by
  unfold bufferLines
  split <;> simp [List.filter_cons, List.filter_map, Function.comp_def, numericLine, isBufferMark]

/-- The declarations visited are those of `declarationOrder`, in its order. -/
theorem declLines_decls : (declLines t label).filterMap declared? = declarationOrder t := by
  simp only [declLines, declarationOrder, List.filterMap_append, List.filterMap_cons,
    declared?, List.filterMap_nil, List.filterMap_flatMap, bufferLines_decls, List.nil_append,
    List.filterMap_map, Function.comp_def, numericLine]
  cases t.globalBuffer? with
  | none => simp
  | some g => simp [bufferLines_decls]

/-- One wrapper pair per named buffer whose name does not contain `Global`, in
order; the global buffer visited first has none. -/
theorem declLines_marks :
    (declLines t label).filter isBufferMark =
      t.constantBuffers.flatMap fun g => if g.isGlobal then [] else [.bufferStart g.name, .bufferEnd] := by
  have hglobal : ((t.globalBuffer?.map bufferLines).getD []).filter isBufferMark = [] := by
    cases hg : t.globalBuffer? with
    | none => rfl
    | some g =>
      have hgl : g.isGlobal = true := by
        simpa using List.find?_some hg
      simp [bufferLines_marks, hgl]
  simp only [declLines, List.filter_append, List.filter_cons, isBufferMark, List.filter_map,
    Function.comp_def, numericLine, List.filter_flatMap, hglobal, bufferLines_marks]
  simp

/-- The names visited are those of the loose globals, of every named buffer's
numeric parameters and of the textures; the first buffer whose name contains
`Global` is one of the named buffers. -/
theorem mem_declarationOrder_names (n : String) :
    n ∈ (declarationOrder t).map Prod.fst ↔
      (∃ p ∈ t.globalParams, p.name = n) ∨ (∃ g ∈ t.constantBuffers, ∃ p ∈ g.numeric, p.name = n) ∨
        ∃ x ∈ t.textures, x.name = n := by
  have hbuf : ∀ p ∈ (t.globalBuffer?.map ParamGroup.numeric).getD [],
      ∃ g ∈ t.constantBuffers, p ∈ g.numeric := by
    cases hg : t.globalBuffer? with
    | none => simp
    | some g => exact fun p hp => ⟨g, List.mem_of_find?_eq_some hg, by simpa using hp⟩
  simp only [declarationOrder, List.map_append, List.map_map, List.mem_append, List.mem_map,
    Function.comp_def, List.map_flatMap, List.mem_flatMap]
  constructor
  · rintro (((h | ⟨p, hp, rfl⟩) | ⟨g, hg, p, hp, rfl⟩) | h)
    · exact .inl h
    · obtain ⟨g, hg, hpg⟩ := hbuf p hp
      exact .inr (.inl ⟨g, hg, p, hpg, rfl⟩)
    · exact .inr (.inl ⟨g, hg, p, hp, rfl⟩)
    · exact .inr (.inr h)
  · rintro (h | ⟨g, hg, p, hp, rfl⟩ | h)
    · exact .inl (.inl (.inl h))
    · exact .inl (.inr ⟨g, hg, p, hp, rfl⟩)
    · exact .inr h

end Visited

/-- The lines the declarations of a table write. -/
def declarationLines (t : ParameterTable) (label : String) : List DeclLine :=
  freshLines [] (declLines t label)

/-- Writing the declarations from no names writes the lines of
`declarationLines`, in order. -/
theorem all_writes (t : ParameterTable) (label : String) (w : LineWriter) :
    (Declarations.all ⟨w, []⟩ t label).w = (declarationLines t label).foldl DeclLine.write w := by
  rw [Declarations.all_eq_foldl, Declarations.foldl_visit]
  rfl

/-- Declarations are unique and complete per function: the declarations of a
table write their lines in order; the names declared are distinct, and are
exactly the names of the loose globals, of the named buffers' numeric
parameters and of the textures; each name is declared with the text of its
first occurrence in visiting order; and every named buffer whose name does not
contain `Global` gets one `CBUFFER_START(name)` … `CBUFFER_END` pair, in
order, whatever its members. -/
theorem declarations_unique_and_complete (t : ParameterTable) (label : String) (w : LineWriter) :
    (Declarations.all ⟨w, []⟩ t label).w = (declarationLines t label).foldl DeclLine.write w ∧
    (((declarationLines t label).filterMap declared?).map Prod.fst).Nodup ∧
    (∀ n, n ∈ ((declarationLines t label).filterMap declared?).map Prod.fst ↔
      (∃ p ∈ t.globalParams, p.name = n) ∨ (∃ g ∈ t.constantBuffers, ∃ p ∈ g.numeric, p.name = n) ∨
        ∃ x ∈ t.textures, x.name = n) ∧
    (∀ n s, (n, s) ∈ (declarationLines t label).filterMap declared? ↔
      (declarationOrder t).find? (·.1 == n) = some (n, s)) ∧
    (declarationLines t label).filter isBufferMark =
      t.constantBuffers.flatMap fun g => if g.isGlobal then [] else [.bufferStart g.name, .bufferEnd] := by
  refine ⟨all_writes t label w, (nodup_freshNames [] _).1, fun n => ?_, fun n s => ?_, ?_⟩
  · rw [declarationLines, mem_freshNames, declLines_decls, mem_declarationOrder_names]
    simp
  · rw [declarationLines, mem_freshDecls, declLines_decls]
    simp
  · rw [declarationLines, freshLines_marks, declLines_marks]

end SubProgram

end ShaderRecovery
