import Mathlib
import ShaderRecovery.Asset.EngineVersion

/-!
# Reading a release inverts printing it

A release is printed `major.minor`, each number in decimal. Reading takes the
trimmed text apart at its dots and reads the run of digits at the start of
the first part, and of the second part if there is one. The run is specified
on its own terms (`EngineVersion.LeadingRun`: a maximal non-empty run of
digits whose value, `digitsValue`, fits 32 bits), and `leadingNumber` reads
exactly that (`leadingNumber_eq_some_iff`).

* `Blank.trimList_append` — trimming text that starts and ends with a
  character that is not blank only trims the end of what follows it.
* `EngineVersion.parse?_eq_some_iff` — what a text reads as, by its parts.
* `EngineVersion.parts_display_append`, `parse?_display_append` — a printed
  release followed by text that does not start with a digit reads back.
* `EngineVersion.hasSegments_iff_lex` — segments begin at 2019.3 in the
  lexicographic order.

Principal result: `EngineVersion.parse?_inverts_display`.
-/

namespace ShaderRecovery

/-! ## Trimming text that starts and ends with a digit -/

namespace Blank

theorem isBlank_of_isDigit {c : Char} (h : c.isDigit = true) : isBlank c = false := by
  simp only [Char.isDigit, Bool.and_eq_true, decide_eq_true_eq] at h
  obtain ⟨h₁, h₂⟩ := h
  have h₁' : 48 ≤ c.toNat := h₁
  have h₂' : c.toNat ≤ 57 := h₂
  simp only [isBlank, Bool.or_eq_false_iff, Bool.and_eq_false_iff, decide_eq_false_iff_not,
    beq_eq_false_iff_ne]
  omega

/-- Trimming text whose front starts and ends with characters that are not
blank keeps the front and trims only the end of what follows. -/
theorem trimList_append {pre : List Char} (cs : List Char) (hne : pre ≠ [])
    (hhead : ∀ c ∈ pre.head?, isBlank c = false) (hlast : ∀ c ∈ pre.getLast?, isBlank c = false) :
    trimList (pre ++ cs) = pre ++ cs.rdropWhile isBlank := by
  obtain ⟨c, pre', rfl⟩ := List.exists_cons_of_ne_nil hne
  have hfront : trimFront (c :: pre' ++ cs) = c :: pre' ++ cs := by
    rw [trimFront, List.cons_append, List.dropWhile_cons_of_neg (by simp [hhead c rfl])]
  -- the reversed front starts with its last character, which is not blank
  have hback : (c :: pre').reverse.dropWhile isBlank = (c :: pre').reverse := by
    cases hrev : (c :: pre').reverse with
    | nil => simp at hrev
    | cons d rest =>
      have hd : d ∈ (c :: pre').getLast? := by
        rw [← List.head?_reverse, hrev]
        rfl
      rw [List.dropWhile_cons_of_neg (by simp [hlast d hd])]
  unfold trimList
  rw [hfront, List.reverse_append, trimFront, List.dropWhile_append, hback]
  split
  case isTrue h =>
    rw [List.rdropWhile, List.isEmpty_iff.mp h, List.reverse_nil, List.append_nil,
      List.reverse_reverse]
  case isFalse => rw [List.reverse_append, List.reverse_reverse, List.rdropWhile]

end Blank

namespace EngineVersion

/-! ## Digit runs -/

/-- The value of a run of decimal digits, the most significant first. -/
def digitsValue (ds : List Char) : Nat := Nat.ofDigits 10 (ds.reverse.map fun c => c.toNat - '0'.toNat)

/-- `cs` starts with a non-empty run of decimal digits, not followed by another
digit, whose value is `n`, and `n` fits 32 bits. -/
def LeadingRun (cs : List Char) (n : Nat) : Prop :=
  ∃ ds rest, cs = ds ++ rest ∧ ds ≠ [] ∧ (∀ c ∈ ds, c.isDigit = true) ∧
    (∀ c ∈ rest.head?, c.isDigit = false) ∧ digitsValue ds = n ∧ n < 2 ^ 32

theorem digitsValue_append_singleton (ds : List Char) (d : Char) :
    digitsValue (ds ++ [d]) = d.toNat - '0'.toNat + 10 * digitsValue ds := by
  simp [digitsValue, Nat.ofDigits_cons]

/-- Reading digits one at a time, each step multiplying by ten. -/
theorem foldl_digits (ds : List Char) (acc : Nat) :
    ds.foldl (fun acc d => acc * 10 + (d.toNat - 48)) acc = acc * 10 ^ ds.length + digitsValue ds := by
  induction ds using List.reverseRecOn generalizing acc with
  | nil => simp [digitsValue]
  | append_singleton ds d ih =>
    rw [List.foldl_append, ih, List.foldl_cons, List.foldl_nil, digitsValue_append_singleton,
      List.length_append, List.length_singleton, pow_succ]
    have : '0'.toNat = 48 := rfl
    rw [this]
    ring

/-- The digits at the front of a run followed by no digit are the run. -/
theorem takeWhile_run {ds rest : List Char} (hds : ∀ c ∈ ds, c.isDigit = true)
    (hrest : ∀ c ∈ rest.head?, c.isDigit = false) : (ds ++ rest).takeWhile Char.isDigit = ds := by
  rw [List.takeWhile_append_of_pos hds]
  cases rest with
  | nil => simp
  | cons c rest => simp [List.takeWhile_cons_of_neg, hrest c rfl]

/-- `leadingNumber` reads exactly the leading run of digits, when its value
fits 32 bits. -/
theorem leadingNumber_eq_some_iff (cs : List Char) (n : Nat) :
    leadingNumber cs = some n ↔ LeadingRun cs n := by
  unfold leadingNumber
  dsimp only
  rw [foldl_digits, Nat.zero_mul, Nat.zero_add]
  constructor
  · intro h
    split at h
    case isTrue => cases h
    case isFalse hne =>
      split at h
      case isFalse => cases h
      case isTrue hfit =>
        cases h
        -- the run is what `takeWhile` keeps, the rest what `dropWhile` leaves
        refine ⟨cs.takeWhile Char.isDigit, cs.dropWhile Char.isDigit,
          List.takeWhile_append_dropWhile.symm, by simpa using hne,
          fun c hc => List.mem_takeWhile_imp hc, ?_, rfl, hfit⟩
        have hnot := List.head?_dropWhile_not Char.isDigit cs
        intro c hc
        rw [Option.mem_def] at hc
        rw [hc] at hnot
        exact hnot
  · rintro ⟨ds, rest, rfl, hne, hds, hrest, rfl, hfit⟩
    rw [takeWhile_run hds hrest, if_neg (by simpa using hne), if_pos (by omega)]

/-! ## Release texts -/

/-- The dot-separated parts of a release text, blank ends removed. -/
def parts (t : String) : List (List Char) := (Blank.trimList t.toList).splitOn '.'

/-- A release text reads as `major.minor` exactly when its first part starts
with a run of digits giving the major number and its second part, if there is
one, with a run giving the minor number, which is 0 when there is no second
part. -/
theorem parse?_eq_some_iff (t : String) (v : EngineVersion) :
    parse? t = some v ↔ LeadingRun ((parts t).headD []) v.major ∧
      ((parts t)[1]? = none ∧ v.minor = 0 ∨ ∃ p, (parts t)[1]? = some p ∧ LeadingRun p v.minor) := by
  obtain ⟨major, minor⟩ := v
  have hne : parts t ≠ [] := List.splitOn_ne_nil _ _
  unfold parse?
  rw [← parts]
  dsimp only
  -- a text has one part, or a first and a second part and maybe more
  rcases hps : parts t with _ | ⟨p₀, _ | ⟨p₁, ps⟩⟩
  · exact absurd hps hne
  · simp only [List.headD_cons, List.drop_one, List.tail_cons, List.getElem?_cons_succ,
      List.getElem?_nil, ← leadingNumber_eq_some_iff]
    simp [Option.bind_eq_some_iff, eq_comm (a := 0)]
  · simp only [List.headD_cons, List.drop_one, List.tail_cons, List.getElem?_cons_succ,
      List.getElem?_cons_zero, ← leadingNumber_eq_some_iff]
    simp [Option.bind_eq_some_iff]

/-! ## Printing and reading back -/

theorem digitsValue_toDigits (n : Nat) : digitsValue (Nat.toDigits 10 n) = n := by
  induction n using Nat.strong_induction_on with
  | _ n ih =>
    rw [Nat.toDigits_eq_if (by decide)]
    split
    case isTrue h =>
      simp [digitsValue, Nat.toNat_digitChar_sub_48_of_lt_ten h]
    case isFalse h =>
      rw [digitsValue_append_singleton, ih (n / 10) (by omega), show '0'.toNat = 48 from rfl,
        Nat.toNat_digitChar_sub_48_of_lt_ten (Nat.mod_lt _ (by decide))]
      omega

/-- The decimal text of a 32-bit number, followed by anything but a digit, is
a leading run of that number. -/
theorem leadingRun_toDigits {n : Nat} {rest : List Char} (hrest : ∀ c ∈ rest.head?, c.isDigit = false)
    (hn : n < 2 ^ 32) : LeadingRun (Nat.toDigits 10 n ++ rest) n :=
  ⟨_, rest, rfl, Nat.toDigits_ne_nil,
    fun _ hc => Nat.isDigit_of_mem_toDigits (by decide) (by decide) hc, hrest, digitsValue_toDigits n, hn⟩

/-- The first part of a split is the text up to the first separator. -/
theorem headD_splitOn (l : List Char) (a : Char) : (l.splitOn a).headD [] = l.takeWhile (· != a) := by
  induction l with
  | nil => rfl
  | cons x xs ih =>
    rw [List.splitOn_cons_eq_if_modifyHead]
    by_cases hx : x = a
    · simp [hx]
    · obtain ⟨p, ps, hps⟩ := List.exists_cons_of_ne_nil (List.splitOn_ne_nil a xs)
      rw [hps, List.headD_cons] at ih
      rw [hps]
      simp [hx, ih]

theorem toList_display_append (v : EngineVersion) (s : String) :
    (display v ++ s).toList = Nat.toDigits 10 v.major ++ '.' :: (Nat.toDigits 10 v.minor ++ s.toList) := by
  simp [display]
  rfl

/-- The parts of a printed release followed by `s`: the major number's digits,
then the minor number's digits followed by the start of `s`. -/
theorem parts_display_append (v : EngineVersion) (s : String) :
    ∃ r more,
      parts (display v ++ s) = Nat.toDigits 10 v.major :: (Nat.toDigits 10 v.minor ++ r) :: more ∧
      ∀ c ∈ r.head?, c ∈ s.toList.head? := by
  have hdig : ∀ n, ∀ c ∈ Nat.toDigits 10 n, c.isDigit = true :=
    fun _ _ hc => Nat.isDigit_of_mem_toDigits (by decide) (by decide) hc
  have hdot : ∀ n, '.' ∉ Nat.toDigits 10 n := fun n hc => absurd (hdig n '.' hc) (by decide)
  -- the printed release holds digits and a dot, none of them blank
  have hpre :
      ∀ c ∈ Nat.toDigits 10 v.major ++ '.' :: Nat.toDigits 10 v.minor, Blank.isBlank c = false := by
    intro c hc
    simp only [List.mem_append, List.mem_cons] at hc
    rcases hc with hc | rfl | hc
    · exact Blank.isBlank_of_isDigit (hdig _ c hc)
    · decide
    · exact Blank.isBlank_of_isDigit (hdig _ c hc)
  have htrim : Blank.trimList (display v ++ s).toList =
      Nat.toDigits 10 v.major ++ '.' :: (Nat.toDigits 10 v.minor ++ s.toList.rdropWhile Blank.isBlank) := by
    rw [toList_display_append, ← List.cons_append, ← List.append_assoc,
      Blank.trimList_append _ (by simp) (fun c hc => hpre c (List.mem_of_mem_head? hc))
        (fun c hc => hpre c (List.mem_of_mem_getLast? hc))]
    simp
  obtain ⟨r₀, more, hsplit⟩ := List.exists_cons_of_ne_nil
    (List.splitOn_ne_nil '.' (Nat.toDigits 10 v.minor ++ s.toList.rdropWhile Blank.isBlank))
  have hr₀ := headD_splitOn (Nat.toDigits 10 v.minor ++ s.toList.rdropWhile Blank.isBlank) '.'
  have hminor : ∀ c ∈ Nat.toDigits 10 v.minor, (c != '.') = true := by
    intro c hc
    rw [bne_iff_ne]
    rintro rfl
    exact hdot _ hc
  rw [hsplit, List.headD_cons, List.takeWhile_append_of_pos hminor] at hr₀
  refine ⟨(s.toList.rdropWhile Blank.isBlank).takeWhile (· != '.'), more, ?_, ?_⟩
  · rw [parts, htrim, List.splitOn_append_cons_self_of_not_mem (hdot _), hsplit, hr₀]
  · -- what the minor part reads after its digits is a prefix of `s`
    intro c hc
    obtain ⟨t, ht⟩ :=
      (List.takeWhile_prefix (· != '.')).trans (List.rdropWhile_prefix Blank.isBlank s.toList)
    rw [← ht, List.head?_append, Option.mem_def.mp hc]
    rfl

/-- A printed release, its numbers fitting 32 bits, followed by any text that
does not start with a digit reads back as the release. -/
theorem parse?_display_append {v : EngineVersion} (hmajor : v.major < 2 ^ 32)
    (hminor : v.minor < 2 ^ 32) {s : String} (hs : ∀ c ∈ s.toList.head?, c.isDigit = false) :
    parse? (display v ++ s) = some v := by
  obtain ⟨r, more, hparts, hr⟩ := parts_display_append v s
  have hmajorRun : LeadingRun (Nat.toDigits 10 v.major) v.major := by
    have h := leadingRun_toDigits (fun c (hc : c ∈ ([] : List Char).head?) => absurd hc (by simp)) hmajor
    rwa [List.append_nil] at h
  rw [parse?_eq_some_iff, hparts, List.headD_cons, List.getElem?_cons_succ, List.getElem?_cons_zero]
  exact ⟨hmajorRun, .inr ⟨_, rfl, leadingRun_toDigits (fun c hc => hs c (hr c hc)) hminor⟩⟩

/-- Segments begin at release 2019.3, in the lexicographic order of releases. -/
theorem hasSegments_iff_lex (v : EngineVersion) :
    v.hasSegments = true ↔ toLex (2019, 3) ≤ toLex (v.major, v.minor) := by
  rw [hasSegments_iff, Prod.Lex.toLex_le_toLex]
  dsimp only
  rw [eq_comm (a := 2019)]

/-- Reading a release inverts printing it: a printed pair of 32-bit numbers
followed by text that does not start with a digit reads back as the pair. More
generally a text reads as `major.minor` exactly when the first dot-separated
part of its trimmed form starts with a run of digits giving the major number,
and the second part, if any, with a run giving the minor number (0 when there
is no second part). Segments begin at 2019.3 in the lexicographic order. -/
theorem parse?_inverts_display :
    (∀ (a b : UInt32) (s : String), (∀ c ∈ s.toList.head?, c.isDigit = false) →
      parse? (display ⟨a.toNat, b.toNat⟩ ++ s) = some ⟨a.toNat, b.toNat⟩) ∧
    (∀ (t : String) (v : EngineVersion), parse? t = some v ↔
      LeadingRun ((parts t).headD []) v.major ∧
        ((parts t)[1]? = none ∧ v.minor = 0 ∨
          ∃ p, (parts t)[1]? = some p ∧ LeadingRun p v.minor)) ∧
    (∀ v : EngineVersion, v.hasSegments = true ↔ toLex (2019, 3) ≤ toLex (v.major, v.minor)) :=
  ⟨fun a b _ hs => parse?_display_append a.toNat_lt_size b.toNat_lt_size hs, parse?_eq_some_iff,
    hasSegments_iff_lex⟩

end EngineVersion

end ShaderRecovery
