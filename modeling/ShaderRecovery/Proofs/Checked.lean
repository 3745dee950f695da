import Mathlib

/-!
# Computations that may fail

Lemmas on `Except` that the proofs share.

* `ok_bind_eq`, `error_bind_eq`, `throw_bind_eq`, `bind_congr_left`,
  `bind_congr_right` — binds one constructor at a time; `bind_eq_ok_iff` and
  `bind_eq_error_iff` — when a bind returns a value and when it fails.
* `mapM_congr_of_mem` — traversals compared on the members of their list.
* `firstFault` — a list of checks run in order: the fault of the first that
  fails, else a value. `mapM_firstFault` runs one list of checks per element of
  a traversal; `firstFault_eq_ok` and `firstFault_eq_error` say when each
  outcome arises.
-/

namespace ShaderRecovery

/-- Two functions that agree on a list traverse it alike, failures included. -/
theorem mapM_congr_of_mem {f g : α → Except ε β} {xs : List α} (h : ∀ x ∈ xs, f x = g x) :
    xs.mapM f = xs.mapM g := by
  induction xs with
  | nil => rfl
  | cons x xs ih =>
    rw [List.mapM_cons, List.mapM_cons, h x (by simp), ih fun y hy => h y (by simp [hy])]

section Bind

variable {x y : Except ε α} {f g : α → Except ε β}

/-! Binds compared piece by piece, so that two continuations are never unfolded
against each other. -/

theorem bind_congr_right (h : ∀ a, f a = g a) : x >>= f = x >>= g := by
  rw [funext h]

theorem bind_congr_left (h : x = y) : x >>= f = y >>= f := by
  rw [h]

theorem error_bind_eq (e : ε) (f : α → Except ε β) : (Except.error e >>= f) = .error e := rfl

theorem ok_bind_eq (a : α) (f : α → Except ε β) : (Except.ok a >>= f) = f a := rfl

theorem pure_eq_ok (a : α) : (pure a : Except ε α) = .ok a := rfl

theorem throw_bind_eq (e : ε) (f : α → Except ε β) :
    (MonadExcept.throw e >>= f) = MonadExcept.throw e := rfl

/-- A bind returns a value exactly when its first step does and the rest
returns the value from it. -/
theorem bind_eq_ok_iff {b : β} : x >>= f = .ok b ↔ ∃ a, x = .ok a ∧ f a = .ok b := by
  cases x with
  | error e =>
    rw [error_bind_eq]
    constructor
    · intro h
      cases h
    · rintro ⟨a, h, -⟩
      cases h
  | ok a =>
    rw [ok_bind_eq]
    constructor
    · intro h
      exact ⟨a, rfl, h⟩
    · rintro ⟨a', h, hf⟩
      cases h
      exact hf

/-- A bind fails when its first step fails, or when the rest fails on what the
first step returned. -/
theorem bind_eq_error_iff {e : ε} :
    x >>= f = .error e ↔ x = .error e ∨ ∃ a, x = .ok a ∧ f a = .error e := by
  cases x with
  | error e' =>
    rw [error_bind_eq]
    constructor
    · intro h
      cases h
      exact .inl rfl
    · rintro (h | ⟨a, h, -⟩)
      · cases h
        rfl
      · cases h
  | ok a =>
    rw [ok_bind_eq]
    constructor
    · intro h
      exact .inr ⟨a, rfl, h⟩
    · rintro (h | ⟨a', h, hf⟩)
      · cases h
      · cases h
        exact hf

theorem mapError_eq_ok_iff {ε' : Type} {g : ε → ε'} {a : α} : x.mapError g = .ok a ↔ x = .ok a := by
  cases x <;> simp [Except.mapError]

theorem mapError_eq_error_iff {ε' : Type} {g : ε → ε'} {e' : ε'} :
    x.mapError g = .error e' ↔ ∃ e, x = .error e ∧ e' = g e := by
  cases x <;> simp [Except.mapError, eq_comm]

/-- A computation whose outcome, forgetting the error, is a value returns it. -/
theorem eq_ok_of_toOption {a : α} (h : x.toOption = some a) : x = .ok a := by
  cases x with
  | error e => cases h
  | ok b => cases h; rfl

end Bind

section FirstFault

variable {κ ε α β : Type} (holds : κ → Prop) [DecidablePred holds] (fault : κ → ε)

/-- Checks run in order: the fault of the first that does not hold, else the
value. -/
def firstFault (ks : List κ) (v : α) : Except ε α :=
  match ks.find? (fun k => !decide (holds k)) with
  | some k => .error (fault k)
  | none => .ok v

theorem firstFault_nil (v : α) : firstFault holds fault [] v = .ok v := rfl

theorem firstFault_cons_of_holds {k : κ} (h : holds k) (ks : List κ) (v : α) :
    firstFault holds fault (k :: ks) v = firstFault holds fault ks v := by
  simp [firstFault, h]

theorem firstFault_cons_of_not {k : κ} (h : ¬holds k) (ks : List κ) (v : α) :
    firstFault holds fault (k :: ks) v = .error (fault k) := by
  simp [firstFault, h]

/-- A value computed after the checks is the value the checks guard. -/
theorem firstFault_bind_pure (ks : List κ) (v : α) (f : α → β) :
    (firstFault holds fault ks v >>= fun a => pure (f a)) = firstFault holds fault ks (f v) := by
  unfold firstFault
  split <;> rfl

/-- Two lists of checks run one after the other. -/
theorem firstFault_append (ks ks' : List κ) (v : α) :
    firstFault holds fault (ks ++ ks') v =
      (firstFault holds fault ks () >>= fun _ => firstFault holds fault ks' v) := by
  unfold firstFault
  rw [List.find?_append]
  cases ks.find? (fun k => !decide (holds k)) <;> rfl

/-- A traversal whose every step is a list of checks is the concatenation of
those lists, guarding the list of the steps' values. -/
theorem mapM_firstFault (cs : β → List κ) (g : β → α) (xs : List β) :
    xs.mapM (fun x => firstFault holds fault (cs x) (g x)) =
      firstFault holds fault (xs.flatMap cs) (xs.map g) := by
  induction xs with
  | nil => rfl
  | cons x xs ih =>
    rw [List.mapM_cons, ih, List.flatMap_cons, firstFault_append, List.map_cons]
    -- the checks of `x` either stop the traversal or let it go on unchanged
    cases hx : (cs x).find? (fun k => !decide (holds k)) with
    | some k =>
      have hv : ∀ {γ : Type} (w : γ), firstFault holds fault (cs x) w = .error (fault k) := by
        intro γ w
        simp [firstFault, hx]
      rw [hv, hv]
      rfl
    | none =>
      have hv : ∀ {γ : Type} (w : γ), firstFault holds fault (cs x) w = .ok w := by
        intro γ w
        simp [firstFault, hx]
      rw [hv, hv]
      exact firstFault_bind_pure holds fault _ _ (g x :: ·)

theorem firstFault_eq_ok {ks : List κ} {v w : α} :
    firstFault holds fault ks v = .ok w ↔ (∀ k ∈ ks, holds k) ∧ w = v := by
  unfold firstFault
  split
  · rename_i k hk
    obtain ⟨hfail, -⟩ := List.find?_eq_some_iff_append.mp hk
    have hk_mem : k ∈ ks := List.mem_of_find?_eq_some hk
    simp only [reduceCtorEq, false_iff, not_and]
    intro hall
    simp [hall k hk_mem] at hfail
  · rename_i hk
    have hall : ∀ k ∈ ks, holds k := by simpa using List.find?_eq_none.mp hk
    simp only [Except.ok.injEq]
    exact ⟨fun h => ⟨hall, h.symm⟩, fun h => h.2.symm⟩

/-- The fault reported is that of the first failing check, all checks before
it holding. -/
theorem firstFault_eq_error {ks : List κ} {v : α} {e : ε} :
    firstFault holds fault ks v = .error e ↔
      ∃ pre k post, ks = pre ++ k :: post ∧ (∀ j ∈ pre, holds j) ∧ ¬holds k ∧ e = fault k := by
  unfold firstFault
  split
  · rename_i k hk
    obtain ⟨hfail, pre, post, hks, hpre⟩ := List.find?_eq_some_iff_append.mp hk
    simp only [Except.error.injEq]
    constructor
    · rintro rfl
      exact ⟨pre, k, post, hks, fun j hj => by simpa using hpre j hj, by simpa using hfail, rfl⟩
    · rintro ⟨pre', k', post', hks', hpre', hk', rfl⟩
      -- both decompositions name the first failing check, so they agree
      have hfind : ks.find? (fun k => !decide (holds k)) = some k' := by
        rw [hks', List.find?_append, List.find?_eq_none.mpr (by simpa using hpre')]
        simp [hk']
      rw [hk] at hfind
      cases hfind
      rfl
  · rename_i hk
    simp only [reduceCtorEq, false_iff, not_exists, not_and]
    intro pre k post hks _ hfail
    have := List.find?_eq_none.mp hk k (by simp [hks])
    simp [hfail] at this

end FirstFault

end ShaderRecovery
