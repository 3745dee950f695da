import Mathlib
import ShaderRecovery.Proofs.Checked

/-!
# Traversals that may fail

What `List.mapM` over `Except` returns, stated element by element, so that a
parser or a selector that runs one step per element is described by what each
step returns.

* `mapM_eq_ok_iff_forall₂` and `mapM_range_eq_ok_iff` — a traversal returns a
  list exactly when each step returns the element in its place.
* `exists_of_mapM_eq_ok`, `exists_of_mapM_eq_error` — what a returned or failed
  traversal says of its steps.
* `mapM_eq_error_iff` and `mapM_range_eq_error_iff` — a traversal fails with
  the fault of its first failing step, every step before it returning a value.
-/

namespace ShaderRecovery

section Traversal

variable {α β ε : Type} {f : α → Except ε β}

/-- A traversal returns `ys` exactly when each step returns the element of
`ys` in its place. -/
theorem mapM_eq_ok_iff_forall₂ {xs : List α} {ys : List β} :
    xs.mapM f = .ok ys ↔ List.Forall₂ (fun x y => f x = .ok y) xs ys := by
  induction xs generalizing ys with
  | nil =>
    cases ys with
    | nil => simp [pure, Except.pure]
    | cons y ys => simp [pure, Except.pure]
  | cons x xs ih =>
    rw [List.mapM_cons, bind_eq_ok_iff]
    cases ys with
    | nil =>
      simp only [List.forall₂_nil_right_iff, reduceCtorEq, iff_false, not_exists, not_and]
      intro a _ h
      obtain ⟨as, -, h⟩ := bind_eq_ok_iff.mp h
      cases h
    | cons y ys =>
      rw [List.forall₂_cons, ← ih]
      constructor
      · rintro ⟨a, ha, h⟩
        obtain ⟨as, has, h⟩ := bind_eq_ok_iff.mp h
        cases h
        exact ⟨ha, has⟩
      · rintro ⟨ha, has⟩
        exact ⟨y, ha, by rw [has]; rfl⟩

/-- A traversal of the positions below `n` returns `ys` exactly when `ys` has
one element per position, each what its step returns. -/
theorem mapM_range_eq_ok_iff {g : Nat → Except ε β} {n : Nat} {ys : List β} :
    (List.range n).mapM g = .ok ys ↔ ys.length = n ∧ ∀ i (h : i < ys.length), g i = .ok ys[i] := by
  rw [mapM_eq_ok_iff_forall₂, List.forall₂_iff_get]
  simp only [List.length_range, List.get_eq_getElem, List.getElem_range]
  constructor
  · rintro ⟨hlen, h⟩
    exact ⟨hlen.symm, fun i hi => h i (by omega) hi⟩
  · rintro ⟨hlen, h⟩
    exact ⟨hlen.symm, fun i _ hi => h i hi⟩

/-- Every element of a traversal that returns has a step that returns. -/
theorem exists_of_mapM_eq_ok {xs : List α} {ys : List β} (h : xs.mapM f = .ok ys) {x : α}
    (hx : x ∈ xs) : ∃ y, f x = .ok y := by
  have hf := mapM_eq_ok_iff_forall₂.mp h
  clear h
  induction hf with
  | nil => cases hx
  | cons hxy _ ih =>
    rcases List.mem_cons.mp hx with rfl | hx
    · exact ⟨_, hxy⟩
    · exact ih hx

/-- A traversal fails with the fault of its first failing step; every step
before it returns a value. -/
theorem mapM_eq_error_iff {xs : List α} {e : ε} :
    xs.mapM f = .error e ↔
      ∃ pre x post, xs = pre ++ x :: post ∧ (∀ y ∈ pre, ∃ b, f y = .ok b) ∧ f x = .error e := by
  induction xs with
  | nil =>
    simp only [List.mapM_nil, pure, Except.pure, reduceCtorEq, false_iff, not_exists, not_and]
    intro pre x post h
    simp at h
  | cons x xs ih =>
    rw [List.mapM_cons, bind_eq_error_iff]
    constructor
    · rintro (hx | ⟨b, hb, h⟩)
      · exact ⟨[], x, xs, rfl, by simp, hx⟩
      · rw [bind_eq_error_iff] at h
        rcases h with hxs | ⟨bs, -, h⟩
        · obtain ⟨pre, y, post, rfl, hpre, hy⟩ := ih.mp hxs
          refine ⟨x :: pre, y, post, rfl, ?_, hy⟩
          rintro z (_ | ⟨_, hz⟩)
          · exact ⟨b, hb⟩
          · exact hpre z hz
        · cases h
    · rintro ⟨pre, y, post, hxs, hpre, hy⟩
      cases pre with
      | nil =>
        cases hxs
        exact .inl hy
      | cons z pre =>
        obtain ⟨rfl, rfl⟩ := List.cons_eq_cons.mp hxs
        obtain ⟨b, hb⟩ := hpre _ List.mem_cons_self
        refine .inr ⟨b, hb, ?_⟩
        rw [bind_eq_error_iff]
        exact .inl (ih.mpr ⟨pre, y, post, rfl, fun w hw => hpre w (by simp [hw]), hy⟩)

/-- The positions below `n` split at any one of them. -/
theorem range_eq_append_cons {n i : Nat} (h : i < n) :
    List.range n = List.range i ++ i :: List.range' (i + 1) (n - (i + 1)) := by
  have e : n = i + ((n - (i + 1)) + 1) := by omega
  conv_lhs => rw [e]
  rw [List.range_eq_range', List.range_eq_range', ← List.range'_append, List.range'_succ]
  simp

/-- A split of the positions below `n` is at a position: what stands before
it is every smaller position. -/
theorem eq_range_of_range_eq_append_cons {n x : Nat} {pre post : List Nat}
    (h : List.range n = pre ++ x :: post) :
    x = pre.length ∧ pre = List.range pre.length ∧ pre.length < n := by
  have hlen : pre.length < n := by
    have := congrArg List.length h
    simp only [List.length_range, List.length_append, List.length_cons] at this
    omega
  have hx : (List.range n)[pre.length]? = some x := by rw [h]; simp
  rw [List.getElem?_range hlen] at hx
  have hpre : (List.range n).take pre.length = pre := by rw [h]; simp
  rw [List.take_range, Nat.min_eq_left hlen.le] at hpre
  exact ⟨(Option.some.inj hx).symm, hpre.symm, hlen⟩

/-- A traversal of the positions below `n` fails with the fault of the first
position whose step fails, every smaller position's step returning a value. -/
theorem mapM_range_eq_error_iff {g : Nat → Except ε β} {n : Nat} {e : ε} :
    (List.range n).mapM g = .error e ↔
      ∃ i < n, (∀ k < i, ∃ b, g k = .ok b) ∧ g i = .error e := by
  rw [mapM_eq_error_iff]
  constructor
  · rintro ⟨pre, x, post, h, hpre, hx⟩
    obtain ⟨rfl, hrange, hlt⟩ := eq_range_of_range_eq_append_cons h
    refine ⟨pre.length, hlt, fun k hk => hpre k ?_, hx⟩
    rw [hrange]
    exact List.mem_range.mpr hk
  · rintro ⟨i, hi, hbefore, hg⟩
    exact ⟨List.range i, i, _, range_eq_append_cons hi,
      fun k hk => hbefore k (List.mem_range.mp hk), hg⟩

/-- A traversal fails only with the fault of one of its steps. -/
theorem exists_of_mapM_eq_error {xs : List α} {e : ε} (h : xs.mapM f = .error e) :
    ∃ x ∈ xs, f x = .error e := by
  obtain ⟨pre, x, post, rfl, -, hx⟩ := mapM_eq_error_iff.mp h
  exact ⟨x, by simp, hx⟩

end Traversal

end ShaderRecovery
