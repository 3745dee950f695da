import Mathlib
import ShaderRecovery.Hlsl.Session

/-!
# What a session holds after any run of calls

A decompilation session is driven by four calls: load bytes, decode as a
stage, apply binding metadata, emit. This module runs any list of calls from a
fresh session and says what the session holds at the end, in terms of the
calls alone: the program decoded is the one the last successful decode since
the last load built from what is loaded, carrying the metadata of the last
call that applied some after it.

* `Session.Call`, `Session.step`, `Session.run` — calls and their effect on
  the session; emitting reads the session and leaves it as it is.
* `Session.DecodedBy` — a run of calls ends with a successful decode of the
  loaded program, followed only by calls that neither load nor decode it
  again; `Session.lastMetadata` is the metadata the last of them applies.
* `Session.step_inv`, `Session.run_inv` — the invariant tying a session to
  the calls that made it, kept by every step and so by every run.
* `Session.buildIr_sequence_iff`, `Session.buildIr_error_state`, … — what one
  call does, from any session.

Principal result: `Session.run_history` — after any run of calls from a
fresh session, a program is decoded exactly when the calls decoded one from
what is loaded, as above; a decode fails for want of a load, and metadata or
emitting for want of a decode, exactly when that is missing; a failing call
changes nothing but a failing load, which clears the session; and emitting
writes the decoded program.
-/

namespace ShaderRecovery

namespace Session

/-- A call on a session. -/
inductive Call where
  | load (bytes : List UInt8)
  | buildIr (stage : Stage)
  | applyMetadata (md : BindingMetadata)
  | emit (depth width : Nat)

/-- The session a call leaves. Emitting reads the session and leaves it. -/
def step (s : Session) : Call → Session
  | .load bytes => (s.load bytes).2
  | .buildIr stage => (s.buildIr stage).2
  | .applyMetadata md => (s.applyMetadata md).2
  | .emit _ _ => s

/-- The session after a run of calls. -/
def run (s : Session) (calls : List Call) : Session := calls.foldl step s

theorem run_nil (s : Session) : s.run [] = s := rfl

theorem run_cons (s : Session) (x : Call) (calls : List Call) :
    s.run (x :: calls) = (s.step x).run calls := rfl

/-! ## Histories -/

namespace Call

/-- The metadata a call applies. -/
def metadata? : Call → Option BindingMetadata
  | applyMetadata md => some md
  | _ => none

def isLoad : Call → Bool
  | load _ => true
  | _ => false

def isEmit : Call → Bool
  | emit _ _ => true
  | _ => false

/-- A call after which the program decoded from `c` stays: it neither loads
nor decodes `c` successfully. -/
def Keeps (c : CompiledShader) : Call → Prop
  | load _ => False
  | buildIr stage => ∃ e, ShaderIr.build c stage = .error e
  | applyMetadata _ => True
  | emit _ _ => True

end Call

/-- The metadata of the last call of a run that applies some. -/
def lastMetadata (calls : List Call) : Option BindingMetadata :=
  (calls.filterMap Call.metadata?).getLast?

/-- The last load of the run parsed into `c`. -/
def LoadedBy (calls : List Call) (c : CompiledShader) : Prop :=
  ∃ pre bytes post, calls = pre ++ .load bytes :: post ∧ (∀ x ∈ post, x.isLoad = false) ∧
    CompiledShader.parse bytes = .ok c

/-- The run ends with a decode of `c` as some stage that gives `ir₀`, followed
only by calls that keep it; `ir` is `ir₀` with the metadata the last of those
calls applies. -/
def DecodedBy (calls : List Call) (c : CompiledShader) (ir : ShaderIr) : Prop :=
  ∃ pre stage post ir₀, calls = pre ++ .buildIr stage :: post ∧ (∀ x ∈ post, x.Keeps c) ∧
    ShaderIr.build c stage = .ok ir₀ ∧ ir = { ir₀ with bindings := lastMetadata post }

theorem lastMetadata_append_singleton (calls : List Call) (x : Call) :
    lastMetadata (calls ++ [x]) = (x.metadata?).or (lastMetadata calls) := by
  cases x <;> simp [lastMetadata, Call.metadata?, List.filterMap_append]

/-- The last element of a run is either the decode itself or part of what
follows it. -/
theorem append_singleton_eq_append_cons {pre post calls : List Call} {x y : Call} :
    calls ++ [x] = pre ++ y :: post ↔
      (pre = calls ∧ y = x ∧ post = []) ∨
        ∃ post', post = post' ++ [x] ∧ calls = pre ++ y :: post' := by
  constructor
  · intro h
    rcases List.eq_nil_or_concat post with rfl | ⟨post', z, rfl⟩
    · obtain ⟨hpre, hxy⟩ := List.append_inj' h rfl
      simp only [List.cons.injEq, and_true] at hxy
      exact .inl ⟨hpre.symm, hxy.symm, rfl⟩
    · rw [List.concat_eq_append, ← List.cons_append, ← List.append_assoc] at h
      obtain ⟨hcalls, hxz⟩ := List.append_inj' h rfl
      simp only [List.cons.injEq, and_true] at hxz
      exact .inr ⟨post', by rw [List.concat_eq_append, hxz], hcalls⟩
  · rintro (⟨rfl, rfl, rfl⟩ | ⟨post', rfl, rfl⟩)
    · rfl
    · simp

theorem build_bindings {c : CompiledShader} {stage : Stage} {ir : ShaderIr}
    (h : ShaderIr.build c stage = .ok ir) : ir.bindings = none := by
  unfold ShaderIr.build at h
  split at h
  · cases h
  · dsimp only at h
    split at h
    · cases h
    · cases h
      rfl

/-- A decoded program, which carries no metadata, is its own copy without
metadata. -/
theorem build_noBindings {c : CompiledShader} {stage : Stage} {ir : ShaderIr}
    (h : ShaderIr.build c stage = .ok ir) : { ir with bindings := none } = ir := by
  have hnone := build_bindings h
  cases ir
  cases hnone
  rfl

section LoadedBy

variable {calls : List Call} {c : CompiledShader}

theorem not_loadedBy_nil : ¬LoadedBy [] c := by
  rintro ⟨pre, bytes, post, h, -⟩
  cases pre <;> cases h

/-- A load decides what is loaded, whatever came before. -/
theorem loadedBy_load (bytes : List UInt8) :
    LoadedBy (calls ++ [.load bytes]) c ↔ CompiledShader.parse bytes = .ok c := by
  constructor
  · rintro ⟨pre, bytes', post, h, hpost, hparse⟩
    rcases append_singleton_eq_append_cons.mp h with ⟨-, hy, -⟩ | ⟨post', rfl, -⟩
    · cases hy
      exact hparse
    · have hlast := hpost (.load bytes) (by simp)
      simp [Call.isLoad] at hlast
  · intro hparse
    exact ⟨calls, bytes, [], rfl, by simp, hparse⟩

/-- Any other call leaves what is loaded. -/
theorem loadedBy_append_of_not_load {x : Call} (hx : x.isLoad = false) :
    LoadedBy (calls ++ [x]) c ↔ LoadedBy calls c := by
  constructor
  · rintro ⟨pre, bytes, post, h, hpost, hparse⟩
    rcases append_singleton_eq_append_cons.mp h with ⟨-, rfl, -⟩ | ⟨post', rfl, hcalls⟩
    · cases hx
    · exact ⟨pre, bytes, post', hcalls, fun y hy => hpost y (by simp [hy]), hparse⟩
  · rintro ⟨pre, bytes, post, rfl, hpost, hparse⟩
    refine ⟨pre, bytes, post ++ [x], by simp, ?_, hparse⟩
    intro y hy
    rcases List.mem_append.mp hy with hy | hy
    · exact hpost y hy
    · rw [List.mem_singleton.mp hy]
      exact hx

end LoadedBy

section DecodedBy

variable {calls : List Call} {c : CompiledShader} {ir : ShaderIr}

/-- A load ends every decode before it. -/
theorem not_decodedBy_load (bytes : List UInt8) : ¬DecodedBy (calls ++ [.load bytes]) c ir := by
  rintro ⟨pre, stage, post, ir₀, h, hkeep, -⟩
  rcases append_singleton_eq_append_cons.mp h with ⟨-, hy, -⟩ | ⟨post', rfl, -⟩
  · cases hy
  · exact hkeep (.load bytes) (by simp)

/-- A successful decode of the loaded program starts a new history. -/
theorem decodedBy_buildIr_ok {stage : Stage} {ir₀ : ShaderIr} (h : ShaderIr.build c stage = .ok ir₀) :
    DecodedBy (calls ++ [.buildIr stage]) c ir ↔ ir = ir₀ := by
  constructor
  · rintro ⟨pre, stage', post, ir₁, hcalls, hkeep, hbuild, rfl⟩
    rcases append_singleton_eq_append_cons.mp hcalls with ⟨-, hy, rfl⟩ | ⟨post', rfl, -⟩
    · cases hy
      rw [h] at hbuild
      cases hbuild
      exact build_noBindings h
    · obtain ⟨e, he⟩ := hkeep (.buildIr stage) (by simp)
      rw [h] at he
      cases he
  · rintro rfl
    exact ⟨calls, stage, [], ir, rfl, by simp, h, (build_noBindings h).symm⟩

/-- A call that keeps the decoded program extends its history: the program
stays, with the metadata the call applies, if any. -/
theorem decodedBy_append_of_keeps {x : Call} (hx : x.Keeps c) :
    DecodedBy (calls ++ [x]) c ir ↔
      ∃ ir', DecodedBy calls c ir' ∧ ir = { ir' with bindings := x.metadata?.or ir'.bindings } := by
  constructor
  · rintro ⟨pre, stage, post, ir₀, hcalls, hkeep, hbuild, rfl⟩
    rcases append_singleton_eq_append_cons.mp hcalls with ⟨-, rfl, -⟩ | ⟨post', rfl, hcalls'⟩
    · -- the last call cannot be the decode, which it keeps
      obtain ⟨e, he⟩ := hx
      rw [hbuild] at he
      cases he
    · have hkeep' : ∀ y ∈ post', y.Keeps c := fun y hy => hkeep y (by simp [hy])
      refine ⟨_, ⟨pre, stage, post', ir₀, hcalls', hkeep', hbuild, rfl⟩, ?_⟩
      rw [lastMetadata_append_singleton]
  · rintro ⟨ir', ⟨pre, stage, post, ir₀, rfl, hkeep, hbuild, rfl⟩, rfl⟩
    refine ⟨pre, stage, post ++ [x], ir₀, by simp, ?_, hbuild, ?_⟩
    · intro y hy
      rcases List.mem_append.mp hy with hy | hy
      · exact hkeep y hy
      · rw [List.mem_singleton.mp hy]
        exact hx
    · rw [lastMetadata_append_singleton]

/-- A call that keeps the decoded program and applies no metadata leaves its
history as it is. -/
theorem decodedBy_append_of_keeps_of_none {x : Call} (hx : x.Keeps c) (hm : x.metadata? = none) :
    DecodedBy (calls ++ [x]) c ir ↔ DecodedBy calls c ir := by
  rw [decodedBy_append_of_keeps hx, hm]
  constructor
  · rintro ⟨ir', h, rfl⟩
    exact h
  · intro h
    exact ⟨ir, h, rfl⟩

end DecodedBy

/-! ## One call, from any session -/

section Calls

variable {s : Session} {c : CompiledShader} {ir : ShaderIr}

theorem load_ir (s : Session) (bytes : List UInt8) : (s.load bytes).2.ir = none := by
  unfold load
  split <;> rfl

theorem buildIr_of_none (h : s.compiled = none) (stage : Stage) :
    s.buildIr stage = (.error (.sequence .decodeBeforeLoad), s) := by
  simp [buildIr, h]

theorem buildIr_of_ok {stage : Stage} (hc : s.compiled = some c) (hb : ShaderIr.build c stage = .ok ir) :
    s.buildIr stage = (.ok (), { s with ir := some ir }) := by
  simp [buildIr, hc, hb]

theorem buildIr_of_error {stage : Stage} {e : BuildError} (hc : s.compiled = some c)
    (hb : ShaderIr.build c stage = .error e) : s.buildIr stage = (.error (.ofBuild e), s) := by
  simp [buildIr, hc, hb]

theorem applyMetadata_of_none (h : s.ir = none) (md : BindingMetadata) :
    s.applyMetadata md = (.error (.sequence .metadataBeforeDecode), s) := by
  simp [applyMetadata, h]

theorem applyMetadata_of_some (h : s.ir = some ir) (md : BindingMetadata) :
    s.applyMetadata md = (.ok (), { s with ir := some (ir.withBindings md) }) := by
  simp [applyMetadata, h]

/-- A decode fails for want of a load exactly when nothing is loaded: a
failing decode of a loaded program reports the decoder's fault. -/
theorem buildIr_sequence_iff (s : Session) (stage : Stage) :
    (∃ f, (s.buildIr stage).1 = .error (.sequence f)) ↔ s.compiled = none := by
  cases hc : s.compiled with
  | none => simp [buildIr_of_none hc]
  | some c =>
    simp only [reduceCtorEq, iff_false, not_exists]
    intro f
    cases hb : ShaderIr.build c stage with
    | ok ir => simp [buildIr_of_ok hc hb]
    | error e =>
      rw [buildIr_of_error hc hb]
      cases e <;> simp [DecompileError.ofBuild]

/-- A failing decode leaves the session as it was. -/
theorem buildIr_error_state (s : Session) (stage : Stage) {e : DecompileError}
    (h : (s.buildIr stage).1 = .error e) : (s.buildIr stage).2 = s := by
  cases hc : s.compiled with
  | none => rw [buildIr_of_none hc]
  | some c =>
    cases hb : ShaderIr.build c stage with
    | ok ir => simp [buildIr_of_ok hc hb] at h
    | error e' => rw [buildIr_of_error hc hb]

/-- Metadata fails, for want of a decode, exactly when nothing is decoded, and
then changes nothing. -/
theorem applyMetadata_sequence_iff (s : Session) (md : BindingMetadata) :
    (∃ f, (s.applyMetadata md).1 = .error (.sequence f)) ↔ s.ir = none := by
  cases hi : s.ir with
  | none => simp [applyMetadata_of_none hi]
  | some ir => simp [applyMetadata_of_some hi]

theorem applyMetadata_error_state (s : Session) (md : BindingMetadata) {e : DecompileError}
    (h : (s.applyMetadata md).1 = .error e) : (s.applyMetadata md).2 = s := by
  cases hi : s.ir with
  | none => rw [applyMetadata_of_none hi]
  | some ir => simp [applyMetadata_of_some hi] at h

/-- A failing load leaves nothing loaded and nothing decoded. -/
theorem load_error_state (s : Session) (bytes : List UInt8) {e : DecompileError}
    (h : (s.load bytes).1 = .error e) : (s.load bytes).2 = fresh := by
  unfold load at h ⊢
  split
  · rename_i hp
    simp [hp] at h
  · rfl

theorem emit_sequence_iff (s : Session) (depth width : Nat) :
    (∃ f, s.emit depth width = .error (.sequence f)) ↔ s.ir = none := by
  cases hi : s.ir with
  | none => simp [emit, hi]
  | some ir => simp [emit, hi]

/-- Emitting succeeds exactly when a program is decoded, with its text. -/
theorem emit_eq_ok_iff (s : Session) (depth width : Nat) (text : String) :
    s.emit depth width = .ok text ↔ ∃ ir, s.ir = some ir ∧ text = ir.emit depth width := by
  cases hi : s.ir with
  | none => simp [emit, hi]
  | some ir => simp [emit, hi, eq_comm]

end Calls

/-! ## The invariant of a run -/

/-- What a session holds, in terms of the calls that made it: the program of
the last load, and the program its history decoded. -/
structure Inv (calls : List Call) (s : Session) : Prop where
  compiled : ∀ c, s.compiled = some c ↔ LoadedBy calls c
  ir : ∀ ir, s.ir = some ir ↔ ∃ c, s.compiled = some c ∧ DecodedBy calls c ir

section Inv

variable {calls : List Call} {s : Session}

theorem inv_fresh : Inv [] fresh where
  compiled c := by simp [fresh, not_loadedBy_nil]
  ir ir := by simp [fresh]

/-- The history of the loaded program determines the program decoded. -/
theorem Inv.ir_of_decodedBy (hi : Inv calls s) {c : CompiledShader} {ir : ShaderIr}
    (hc : s.compiled = some c) (hd : DecodedBy calls c ir) : s.ir = some ir :=
  (hi.ir ir).mpr ⟨c, hc, hd⟩

/-- A call that loads nothing leaves what is loaded. -/
theorem Inv.compiled_append {x : Call} (hi : Inv calls s) (hx : x.isLoad = false) (c : CompiledShader) :
    s.compiled = some c ↔ LoadedBy (calls ++ [x]) c := by
  rw [loadedBy_append_of_not_load hx]
  exact hi.compiled c

/-- A call that loads nothing and leaves the session keeps the invariant when
it keeps the history of every program that may be loaded. -/
theorem Inv.append_of_keeps {x : Call} (hi : Inv calls s) (hx : x.isLoad = false)
    (hd : ∀ c ir, s.compiled = some c → (DecodedBy (calls ++ [x]) c ir ↔ DecodedBy calls c ir)) :
    Inv (calls ++ [x]) s where
  compiled := hi.compiled_append hx
  ir ir := by
    rw [hi.ir ir]
    exact exists_congr fun c => and_congr_right fun hc => (hd c ir hc).symm

/-- A call that loads nothing and sets the program decoded to `ir'` keeps the
invariant when the history after it decodes `ir'` and nothing else. -/
theorem Inv.withIr {x : Call} (hi : Inv calls s) (hx : x.isLoad = false) {c : CompiledShader}
    (hc : s.compiled = some c) {ir' : ShaderIr} (hd : ∀ ir, DecodedBy (calls ++ [x]) c ir ↔ ir = ir') :
    Inv (calls ++ [x]) { s with ir := some ir' } where
  compiled := hi.compiled_append hx
  ir ir := by
    show some ir' = some ir ↔ ∃ c', s.compiled = some c' ∧ DecodedBy (calls ++ [x]) c' ir
    simp [hc, hd, eq_comm]

/-- A load sets the session from the bytes alone. -/
theorem inv_load (bytes : List UInt8) : Inv (calls ++ [.load bytes]) (s.load bytes).2 where
  compiled c := by
    rw [loadedBy_load]
    unfold load
    split <;> rename_i h <;> simp [h]
  ir ir := by simp [load_ir, not_decodedBy_load]

theorem inv_buildIr (hi : Inv calls s) (stage : Stage) :
    Inv (calls ++ [.buildIr stage]) (s.buildIr stage).2 := by
  cases hc : s.compiled with
  | none =>
    rw [buildIr_of_none hc]
    exact hi.append_of_keeps rfl fun c _ h => by simp [hc] at h
  | some c =>
    cases hb : ShaderIr.build c stage with
    | ok ir₀ =>
      rw [buildIr_of_ok hc hb]
      exact hi.withIr rfl hc fun _ => decodedBy_buildIr_ok hb
    | error e =>
      -- the failed decode keeps whatever history the loaded program had
      rw [buildIr_of_error hc hb]
      refine hi.append_of_keeps rfl fun c' ir hc' => ?_
      rw [hc] at hc'
      cases hc'
      exact decodedBy_append_of_keeps_of_none ⟨e, hb⟩ rfl

theorem inv_applyMetadata (hi : Inv calls s) (md : BindingMetadata) :
    Inv (calls ++ [.applyMetadata md]) (s.applyMetadata md).2 := by
  cases hir : s.ir with
  | none =>
    -- nothing decoded: no history of the loaded program, before or after
    rw [applyMetadata_of_none hir]
    have hnone : ∀ c ir, s.compiled = some c → ¬DecodedBy calls c ir := fun c ir hc hd => by
      simp [hi.ir_of_decodedBy hc hd] at hir
    refine hi.append_of_keeps rfl fun c ir hc => ?_
    rw [decodedBy_append_of_keeps (c := c) (x := .applyMetadata md) trivial]
    simp [hnone c _ hc]
  | some ir₁ =>
    rw [applyMetadata_of_some hir]
    obtain ⟨c, hc, hd₁⟩ := (hi.ir ir₁).mp hir
    refine hi.withIr rfl hc fun ir => ?_
    rw [decodedBy_append_of_keeps (c := c) (x := .applyMetadata md) trivial]
    constructor
    · -- the history of the loaded program decoded `ir₁` and nothing else
      rintro ⟨ir', hd', rfl⟩
      have h := hi.ir_of_decodedBy hc hd'
      rw [hir, Option.some.injEq] at h
      subst h
      rfl
    · rintro rfl
      exact ⟨ir₁, hd₁, rfl⟩

theorem inv_emit (hi : Inv calls s) (depth width : Nat) : Inv (calls ++ [.emit depth width]) s :=
  hi.append_of_keeps rfl fun _ _ _ => decodedBy_append_of_keeps_of_none trivial rfl

/-- Every call keeps the invariant. -/
theorem step_inv (hi : Inv calls s) : ∀ x, Inv (calls ++ [x]) (s.step x)
  | .load bytes => inv_load bytes
  | .buildIr stage => inv_buildIr hi stage
  | .applyMetadata md => inv_applyMetadata hi md
  | .emit depth width => inv_emit hi depth width

end Inv

/-- A run keeps the invariant, call after call. -/
theorem run_inv_of_inv : ∀ (calls : List Call) {pre : List Call} {s : Session},
    Inv pre s → Inv (pre ++ calls) (s.run calls)
  | [], _, _, hi => by simpa [run_nil] using hi
  | x :: calls, pre, s, hi => by
    rw [run_cons, ← List.singleton_append, ← List.append_assoc]
    exact run_inv_of_inv calls (step_inv hi x)

/-- Every run from a fresh session keeps the invariant. -/
theorem run_inv (calls : List Call) : Inv calls (fresh.run calls) := by
  simpa using run_inv_of_inv calls inv_fresh

/-- Emitting never changes the session: a run does what it does with its
emits left out. -/
theorem run_filter_emit (s : Session) (calls : List Call) :
    s.run (calls.filter fun x => !x.isEmit) = s.run calls := by
  induction calls generalizing s with
  | nil => rfl
  | cons x calls ih =>
    cases h : x.isEmit with
    | true =>
      -- an emit is dropped, and its step leaves the session
      rw [List.filter_cons_of_neg (by simp [h]), ih, run_cons]
      cases x <;> simp_all [Call.isEmit, step]
    | false => rw [List.filter_cons_of_pos (by simp [h]), run_cons, run_cons, ih]

/-- After any run of calls from a fresh session: what is loaded is what the
last load parsed; a program is decoded exactly when the loaded program's
history decoded it, carrying the last metadata applied since; the next decode
fails for want of a load, and the next metadata or emit for want of a decode,
exactly when that is missing; a failing decode or metadata call changes
nothing and a failing load clears the session; emits change nothing; and a
successful emit writes the decoded program. -/
theorem run_history (calls : List Call) :
    (∀ c, (fresh.run calls).compiled = some c ↔ LoadedBy calls c) ∧
    (∀ ir, (fresh.run calls).ir = some ir ↔
      ∃ c, (fresh.run calls).compiled = some c ∧ DecodedBy calls c ir) ∧
    (∀ stage, (∃ f, ((fresh.run calls).buildIr stage).1 = .error (.sequence f)) ↔
      (fresh.run calls).compiled = none) ∧
    (∀ md, (∃ f, ((fresh.run calls).applyMetadata md).1 = .error (.sequence f)) ↔
      (fresh.run calls).ir = none) ∧
    (∀ depth width, (∃ f, (fresh.run calls).emit depth width = .error (.sequence f)) ↔
      (fresh.run calls).ir = none) ∧
    (∀ stage e, ((fresh.run calls).buildIr stage).1 = .error e →
      ((fresh.run calls).buildIr stage).2 = fresh.run calls) ∧
    (∀ md e, ((fresh.run calls).applyMetadata md).1 = .error e →
      ((fresh.run calls).applyMetadata md).2 = fresh.run calls) ∧
    (∀ bytes e, ((fresh.run calls).load bytes).1 = .error e → ((fresh.run calls).load bytes).2 = fresh) ∧
    fresh.run (calls.filter fun x => !x.isEmit) = fresh.run calls ∧
    (∀ depth width text, (fresh.run calls).emit depth width = .ok text ↔
      ∃ ir, (fresh.run calls).ir = some ir ∧ text = ir.emit depth width) :=
  ⟨(run_inv calls).compiled, (run_inv calls).ir, buildIr_sequence_iff _, applyMetadata_sequence_iff _,
    emit_sequence_iff _, fun _ _ => buildIr_error_state _ _, fun _ _ => applyMetadata_error_state _ _,
    fun _ _ => load_error_state _ _, run_filter_emit _ _, emit_eq_ok_iff _⟩

end Session

end ShaderRecovery
