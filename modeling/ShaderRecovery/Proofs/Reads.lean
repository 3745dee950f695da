import Mathlib
import ShaderRecovery.Asset.Cursor

/-!
# Reading a byte layout back

Asset records are laid out in four-byte units: words, and length-prefixed
fields padded with zeros to a multiple of four. `Reads r bs a` says that the
reader `r`, started at a multiple of four in any byte string that holds `bs`
there, consumes exactly `bs` and returns `a`, whatever bytes stand before and
after. Since the judgement holds for every surrounding, readers compose: a
read of `bs₁` followed by a read of `bs₂` reads `bs₁ ++ bs₂`, as long as `bs₁`
ends on a multiple of four again (`Reads.bind`).

The reader primitives are given their run equations once (`run_bind`,
`run_take` and the cursor accessors), so that the judgements below never
unfold the monad.

Principal results: `Reads.bind`, `Reads.count` (a counted list reads the
concatenation of its elements) and `Reads.alignedString` (a padded field reads
its bytes, decoded). The signed-word lemmas relate `signed` to `Int32`.
-/

namespace ShaderRecovery

namespace ByteReader

variable {α β : Type}

/-! ## Run equations -/

theorem run_bind (x : ByteReader α) (f : α → ByteReader β) (c : Cursor) :
    (x >>= f).run c = match x.run c with
      | (.ok a, c') => (f a).run c'
      | (.error e, c') => (.error e, c') := by
  simp only [run, ExceptT.run_bind, StateT.run_bind]
  rcases (ExceptT.run x).run c with ⟨_ | a, c'⟩ <;> rfl

theorem run_pure (a : α) (c : Cursor) : (pure a : ByteReader α).run c = (.ok a, c) := rfl

theorem run_remaining (c : Cursor) : remaining.run c = (.ok c.remaining, c) := rfl

theorem run_position (c : Cursor) : position.run c = (.ok c.pos, c) := rfl

theorem run_seek (p : Nat) (c : Cursor) : (seek p).run c = (.ok (), { c with pos := p }) := rfl

theorem run_alignTo4 (c : Cursor) : alignTo4.run c = (.ok (), { c with pos := c.alignedPos }) := rfl

/-! ## Layout of words and fields -/

/-- The word of a count or a length, as a signed word holds it. -/
def countWord (n : Nat) : List UInt8 := Bytes.ofWord (UInt32.ofNat n)

/-- Zeros after `n` bytes up to the next multiple of four. -/
def padding (n : Nat) : List UInt8 := List.replicate ((4 - n % 4) % 4) 0

/-- A length-prefixed field padded to a multiple of four. -/
def field (bs : List UInt8) : List UInt8 := countWord bs.length ++ bs ++ padding bs.length

@[simp] theorem countWord_length (n : Nat) : (countWord n).length = 4 := rfl

theorem padding_four_add (n : Nat) : padding (4 + n) = padding n := by
  simp only [padding, Nat.add_mod_left]

theorem field_length_mod (bs : List UInt8) : (field bs).length % 4 = 0 := by
  simp only [field, padding, List.length_append, countWord_length, List.length_replicate]
  omega

theorem flatMap_length_mod {f : α → List UInt8} {xs : List α}
    (h : ∀ x ∈ xs, (f x).length % 4 = 0) : (xs.flatMap f).length % 4 = 0 := by
  induction xs with
  | nil => rfl
  | cons x xs ih =>
    have hx := h x (by simp)
    have hxs := ih fun y hy => h y (by simp [hy])
    rw [List.flatMap_cons, List.length_append]
    omega

/-! ## Signed words -/

theorem signed_toUInt32 (v : Int32) : signed v.toUInt32 = v.toInt := by
  rw [← Int32.toInt_toBitVec, BitVec.toInt_eq_toNat_cond]
  simp only [signed, UInt32.toNat, Int32.toBitVec_toUInt32]
  split <;> split <;> omega

theorem signed_ofNat {n : Nat} (h : n < 2 ^ 31) : signed (UInt32.ofNat n) = n := by
  simp only [signed, UInt32.toNat_ofNat']
  rw [Nat.mod_eq_of_lt (by omega), if_pos (by omega)]

theorem signed_eq_toInt32 (u : UInt32) : signed u = u.toInt32.toInt := by
  rw [← signed_toUInt32]
  rfl

/-- A signed word modulo 256 is its low byte. -/
theorem signed_emod_byte (u : UInt32) : (signed u % 256).toNat = u.toUInt8.toNat := by
  have := u.toNat_lt
  simp only [signed, UInt32.toNat_toUInt8]
  split <;> omega

theorem signed_emod_word (u : UInt32) : (signed u % 4294967296).toNat = u.toNat := by
  have := u.toNat_lt
  simp only [signed]
  split <;> omega

/-- An arithmetic shift by eight is division by 256, rounding down. -/
theorem toInt_shiftRight_eight (x : Int32) : (x >>> 8).toInt = x.toInt / 256 := by
  rw [← Int32.toInt_toBitVec, Int32.toBitVec_shiftRight, BitVec.toInt_sshiftRight',
    Int32.toInt_toBitVec, Int.shiftRight_eq_div_pow]
  rfl

/-! ## The judgement -/

/-- `r` consumes exactly `bs` and returns `a`, from any position that is a
multiple of four, whatever surrounds `bs`. -/
def Reads (r : ByteReader α) (bs : List UInt8) (a : α) : Prop :=
  ∀ pre rest : List UInt8, pre.length % 4 = 0 →
    r.run ⟨pre ++ bs ++ rest, pre.length⟩ = (.ok a, ⟨pre ++ bs ++ rest, pre.length + bs.length⟩)

namespace Reads

theorem pure (a : α) : Reads (Pure.pure a) [] a := by
  intro pre rest _
  simp [run_pure]

theorem bind {x : ByteReader α} {f : α → ByteReader β} {bs₁ bs₂ : List UInt8} {a : α} {b : β}
    (h₁ : Reads x bs₁ a) (h₄ : bs₁.length % 4 = 0) (h₂ : Reads (f a) bs₂ b) :
    Reads (x >>= f) (bs₁ ++ bs₂) b := by
  intro pre rest hpre
  have e₁ := h₁ pre (bs₂ ++ rest) hpre
  have e₂ := h₂ (pre ++ bs₁) rest (by simp only [List.length_append]; omega)
  simp only [List.append_assoc, List.length_append] at e₁ e₂ ⊢
  rw [run_bind, e₁]
  simpa only [Nat.add_assoc] using e₂

/-- A read whose value is then transformed; `e` names the transformed value. -/
theorem map {x : ByteReader α} {g : α → β} {bs : List UInt8} {a : α} {b : β}
    (h : Reads x bs a) (e : g a = b) : Reads (x >>= fun v => Pure.pure (g v)) bs b := by
  intro pre rest hpre
  rw [run_bind, h pre rest hpre, ← e]
  rfl

theorem fmap {x : ByteReader α} {g : α → β} {bs : List UInt8} {a : α} (h : Reads x bs a) :
    Reads (g <$> x) bs (g a) := by
  rw [← bind_pure_comp]
  exact map h rfl

theorem take {n : Nat} {bs : List UInt8} (h : bs.length = n) : Reads (take n) bs bs := by
  intro pre rest _
  subst h
  rw [run_take, if_pos (by simp)]
  simp

theorem u32 (w : UInt32) : Reads u32 (Bytes.ofWord w) w :=
  map (take (Bytes.ofWord_length w)) (by simp [Bytes.headWord?, Bytes.ofWord, Bytes.word_ofWord])

theorem i32 (v : Int32) : Reads i32 (Bytes.ofWord v.toUInt32) v.toInt :=
  map (u32 v.toUInt32) (signed_toUInt32 v)

theorem len {n : Nat} (h : n < 2 ^ 31) : Reads len (countWord n) n := by
  -- the word reads as the count itself, so the negative branch is never taken
  have hw := map (g := signed) (u32 (UInt32.ofNat n)) (signed_ofNat h)
  have := bind (f := fun (v : Int) => if v < 0 then
      (do throw (AssetError.truncated (v + 2 ^ 32).toNat (← remaining)) : ByteReader Nat)
      else Pure.pure v.toNat) hw (by rw [Bytes.ofWord_length]) (by
        rw [if_neg (by omega), Int.toNat_natCast]
        exact pure n)
  rw [List.append_nil] at this
  exact this

theorem bytes {n : Nat} {bs : List UInt8} (h : bs.length = n) : Reads (bytes n) bs bs := by
  intro pre rest hpre
  have hr : ¬ n > (⟨pre ++ bs ++ rest, pre.length⟩ : Cursor).remaining := by
    simp only [Cursor.remaining, List.length_append]
    omega
  rw [ByteReader.bytes, run_bind, run_remaining]
  dsimp only
  rw [if_neg hr]
  exact take h pre rest hpre

theorem byteVec {bs : List UInt8} (h : bs.length < 2 ^ 31) :
    Reads byteVec (countWord bs.length ++ bs) bs :=
  bind (len h) (by rw [countWord_length]) (bytes rfl)

theorem skip {n : Nat} {bs : List UInt8} (h : bs.length = n) : Reads (skip n) bs () := by
  intro pre rest hpre
  have hr : ¬ n > (⟨pre ++ bs ++ rest, pre.length⟩ : Cursor).remaining := by
    simp only [Cursor.remaining, List.length_append]
    omega
  rw [ByteReader.skip, run_bind, run_remaining]
  dsimp only
  rw [if_neg hr, run_bind, run_position]
  dsimp only
  rw [run_seek, h]

/-- Alignment after a read steps over the padding that completes it to a
multiple of four. -/
theorem align {x : ByteReader α} {k : α → ByteReader β} {bs more : List UInt8} {a : α} {b : β}
    (h₁ : Reads x bs a) (h₂ : Reads (k a) more b) :
    Reads (x >>= fun v => alignTo4 >>= fun _ => k v) (bs ++ padding bs.length ++ more) b := by
  intro pre rest hpre
  have hp : (padding bs.length).length = (4 - bs.length % 4) % 4 := by simp [padding]
  have e₁ := h₁ pre (padding bs.length ++ more ++ rest) hpre
  have e₂ := h₂ (pre ++ bs ++ padding bs.length) rest (by simp only [List.length_append]; omega)
  simp only [List.append_assoc, List.length_append] at e₁ e₂ ⊢
  rw [run_bind, e₁]
  dsimp only
  rw [run_bind, run_alignTo4]
  dsimp only
  -- the next multiple of four lies inside the string: the padding is there
  have hpos : (⟨pre ++ (bs ++ (padding bs.length ++ (more ++ rest))), pre.length + bs.length⟩ :
      Cursor).alignedPos = pre.length + (bs.length + (padding bs.length).length) := by
    simp only [Cursor.alignedPos, List.length_append]
    omega
  rw [hpos]
  simpa only [Nat.add_assoc] using e₂

/-- A byte vector and its padding, then a continuation. -/
theorem byteVec_align {k : List UInt8 → ByteReader β} {bs more : List UInt8} {b : β}
    (h : bs.length < 2 ^ 31) (hk : Reads (k bs) more b) :
    Reads (ByteReader.byteVec >>= fun v => alignTo4 >>= fun _ => k v) (field bs ++ more) b := by
  have := align (byteVec h) hk
  rwa [List.length_append, countWord_length, padding_four_add] at this

theorem alignedString {bs : List UInt8} (h : bs.length < 2 ^ 31) :
    Reads alignedString (field bs) (Utf8.decodeLossy bs) := by
  have := byteVec_align (k := fun v => Pure.pure (Utf8.decodeLossy v)) h (pure _)
  rwa [List.append_nil] at this

/-- `n` reads in a row read the concatenation of what each reads. -/
theorem count {r : ByteReader β} {enc : α → List UInt8} {dec : α → β} {xs : List α}
    (h : ∀ x ∈ xs, Reads r (enc x) (dec x)) (h₄ : ∀ x ∈ xs, (enc x).length % 4 = 0) :
    Reads (count r xs.length) (xs.flatMap enc) (xs.map dec) := by
  induction xs with
  | nil => exact pure []
  | cons x xs ih =>
    have hxs := ih (fun y hy => h y (by simp [hy])) (fun y hy => h₄ y (by simp [hy]))
    rw [List.length_cons, ByteReader.count, List.flatMap_cons, List.map_cons]
    exact bind (h x (by simp)) (h₄ x (by simp)) (map hxs rfl)

/-- A field present exactly when `c` holds, then the rest of the record; the
reader and the layout may state the condition differently. -/
theorem optional {c d : Prop} [Decidable c] [Decidable d] {x : ByteReader Unit}
    {k : Unit → ByteReader β} {bs more : List UInt8} {b : β} (hcd : c ↔ d) (hx : Reads x bs ())
    (h₄ : bs.length % 4 = 0) (hk : Reads (k ()) more b) :
    Reads (if c then x >>= k else k ()) ((if d then bs else []) ++ more) b := by
  by_cases hc : c
  · rw [if_pos hc, if_pos (hcd.mp hc)]
    exact bind hx h₄ hk
  · rw [if_neg hc, if_neg (mt hcd.mpr hc), List.nil_append]
    exact hk

/-- One of two reads chosen by `c`, each followed by the same continuation. -/
theorem ite_bind {c d : Prop} [Decidable c] [Decidable d] {x y : ByteReader α}
    {k : α → ByteReader β} {bs₁ bs₂ more : List UInt8} {a₁ a₂ : α} {b : β} (hcd : c ↔ d)
    (hx : d → Reads x bs₁ a₁) (hy : ¬d → Reads y bs₂ a₂)
    (h₄ : (if d then bs₁ else bs₂).length % 4 = 0) (hk : Reads (k (if d then a₁ else a₂)) more b) :
    Reads (if c then x >>= k else y >>= k) ((if d then bs₁ else bs₂) ++ more) b := by
  by_cases hd : d
  · rw [if_pos (hcd.mpr hd), if_pos hd]
    rw [if_pos hd] at h₄ hk
    exact bind (hx hd) h₄ hk
  · rw [if_neg (mt hcd.mp hd), if_neg hd]
    rw [if_neg hd] at h₄ hk
    exact bind (hy hd) h₄ hk

end Reads

end ByteReader

end ShaderRecovery
