import Mathlib.Algebra.Order.Field.Power
import Mathlib.Data.Nat.Log
import Mathlib.Data.Rat.Cast.Order
import Mathlib.Tactic.NormNum
import Mathlib.Tactic.Positivity

/-!
# Floating-point numbers

The numbers that words of 32 and 64 bits stand for in the binary formats of IEEE 754, the word of 64 bits for an integer,
rounded to nearest with ties to even, and what is left of a number to a fixed number of decimals.
-/

namespace LibAttachSql.Lib

/-- A floating-point number: a finite one is a significand times a power of two, with a sign. -/
inductive Floating where
  | nan (isNegative : Bool)
  | infinite (isNegative : Bool)
  | finite (isNegative : Bool) (significand : ℕ) (exponent : ℤ)
  deriving DecidableEq

namespace Floating

/-- The number in a format with `e` bits for the exponent and `f` for the fraction. -/
def decode (e f word : ℕ) : Floating :=
  let isNegative := word.testBit (e + f)
  let exponent := word / 2 ^ f % 2 ^ e
  let fraction := word % 2 ^ f
  let bias : ℤ := 2 ^ (e - 1) - 1 + f
  if exponent = 2 ^ e - 1 then if fraction = 0 then .infinite isNegative else .nan isNegative
  else if exponent = 0 then .finite isNegative fraction (1 - bias)
  else .finite isNegative (2 ^ f + fraction) (exponent - bias)

/-- The number of a word of 64 bits. -/
def ofWord64 (word : ℕ) : Floating := decode 11 52 word

/-- The number of a word of 32 bits. -/
def ofWord32 (word : ℕ) : Floating := decode 8 23 word

/-- The absolute value of a finite number. -/
def magnitude (significand : ℕ) (exponent : ℤ) : ℚ := significand * 2 ^ exponent

/-- The number is a rational one. -/
def Holds : Floating → ℚ → Prop
  | .finite isNegative significand exponent, q =>
    (if isNegative then -magnitude significand exponent else magnitude significand exponent) = q
  | _, _ => False

/-! ### Rounding -/

/-- `m / 2 ^ k` rounded to nearest, ties to even. -/
def roundShift (m k : ℕ) : ℕ :=
  let q := m / 2 ^ k
  let r := m % 2 ^ k
  if 2 ^ k < 2 * r ∨ 2 ^ k = 2 * r ∧ q % 2 = 1 then q + 1 else q

/-- The word of 64 bits for a natural number.  A significand that is rounded up to `2 ^ 53` carries into the exponent. -/
def natWord64 (n : ℕ) : ℕ :=
  if n = 0 then 0
  else
    let e := Nat.log 2 n
    let significand := if e ≤ 52 then n * 2 ^ (52 - e) else roundShift n (e - 52)
    (1023 + e) * 2 ^ 52 + (significand - 2 ^ 52)

/-- The word of 64 bits for an integer. -/
def intWord64 (n : ℤ) : ℕ := if n < 0 then 2 ^ 63 + natWord64 n.natAbs else natWord64 n.natAbs

/-- A finite number times `10 ^ decimals`, rounded. -/
def scaled (decimals significand : ℕ) (exponent : ℤ) : ℕ :=
  if 0 ≤ exponent then significand * 2 ^ exponent.toNat * 10 ^ decimals
  else roundShift (significand * 10 ^ decimals) (-exponent).toNat

/-- The integer part of a number, toward zero; 0 for what is not finite. -/
def truncate : Floating → ℤ
  | .finite isNegative significand exponent =>
    let whole := if 0 ≤ exponent then significand * 2 ^ exponent.toNat else significand / 2 ^ (-exponent).toNat
    if isNegative then -whole else whole
  | _ => 0

/-- The word of 64 bits for the number of a word of 32 bits. -/
def widen (word : ℕ) : ℕ :=
  let exponent := word / 2 ^ 23 % 2 ^ 8
  let fraction := word % 2 ^ 23
  (if word.testBit 31 then 2 ^ 63 else 0) +
    if exponent = 255 then 2047 * 2 ^ 52 + fraction * 2 ^ 29
    else if exponent = 0 then
      if fraction = 0 then 0
      else (Nat.log 2 fraction + 874) * 2 ^ 52 + (fraction * 2 ^ (52 - Nat.log 2 fraction) - 2 ^ 52)
    else (exponent + 896) * 2 ^ 52 + fraction * 2 ^ 29

lemma le_roundShift (m k : ℕ) : m / 2 ^ k ≤ roundShift m k := by
  unfold roundShift
  dsimp only
  split_ifs <;> omega

lemma roundShift_le (m k : ℕ) : roundShift m k ≤ m / 2 ^ k + 1 := by
  unfold roundShift
  dsimp only
  split_ifs <;> omega

/-! ### Words of integers -/

/-- A normal number, taken apart. -/
lemma ofWord64_normal {e m : ℕ} (he : e < 1023) (hlow : 2 ^ 52 ≤ m) (hhigh : m < 2 ^ 53) (isNegative : Bool) :
    ofWord64 ((if isNegative then 2 ^ 63 else 0) + ((1023 + e) * 2 ^ 52 + (m - 2 ^ 52))) =
      .finite isNegative m (e - 52) := by
  generalize hword : (if isNegative then 2 ^ 63 else 0) + ((1023 + e) * 2 ^ 52 + (m - 2 ^ 52)) = word
  have hsign : word.testBit (11 + 52) = isNegative := by
    rw [Nat.testBit_eq_decide_div_mod_eq]
    cases isNegative <;> simp only [if_true, Bool.false_eq_true, if_false] at hword <;> simp <;> omega
  have hexp : word / 2 ^ 52 % 2 ^ 11 = 1023 + e := by
    cases isNegative <;> simp only [if_true, Bool.false_eq_true, if_false] at hword <;> omega
  have hfrac : word % 2 ^ 52 = m - 2 ^ 52 := by
    cases isNegative <;> simp only [if_true, Bool.false_eq_true, if_false] at hword <;> omega
  unfold ofWord64 decode
  dsimp only
  have hsum : 2 ^ 52 + (m - 2 ^ 52) = m := by omega
  have hexponent : ((1023 + e : ℕ) : ℤ) - (2 ^ (11 - 1) - 1 + (52 : ℕ)) = e - 52 := by
    push_cast
    omega
  rw [hsign, hexp, hfrac, if_neg (by omega), if_neg (by omega), hsum, hexponent]

/-- The significand of an integer, before it is put in its word. -/
lemma significand_bounds {n : ℕ} (h : n ≠ 0) :
    2 ^ 52 ≤ (if Nat.log 2 n ≤ 52 then n * 2 ^ (52 - Nat.log 2 n) else roundShift n (Nat.log 2 n - 52)) ∧
      (if Nat.log 2 n ≤ 52 then n * 2 ^ (52 - Nat.log 2 n) else roundShift n (Nat.log 2 n - 52)) ≤ 2 ^ 53 := by
  have hlow : 2 ^ Nat.log 2 n ≤ n := Nat.pow_log_le_self 2 h
  have hhigh : n < 2 ^ (Nat.log 2 n + 1) := Nat.lt_pow_succ_log_self (by decide) n
  generalize Nat.log 2 n = e at hlow hhigh ⊢
  rcases Nat.lt_or_ge 52 e with he | he
  · obtain ⟨k, rfl⟩ := Nat.exists_eq_add_of_le he.le
    rw [if_neg (by omega), Nat.add_sub_cancel_left]
    have hle := le_roundShift n k
    have hge := roundShift_le n k
    have h₁ : 2 ^ 52 ≤ n / 2 ^ k := by
      rw [Nat.le_div_iff_mul_le (by positivity), ← Nat.pow_add]
      exact hlow
    have h₂ : n / 2 ^ k < 2 ^ 53 := by
      rw [Nat.div_lt_iff_lt_mul (by positivity), ← Nat.pow_add, show 53 + k = 52 + k + 1 by omega]
      exact hhigh
    omega
  · rw [if_pos he]
    have h₁ : 2 ^ 52 = 2 ^ e * 2 ^ (52 - e) := by rw [← Nat.pow_add, Nat.add_sub_cancel' he]
    have h₂ : 2 ^ 53 = 2 ^ (e + 1) * 2 ^ (52 - e) := by rw [← Nat.pow_add, show e + 1 + (52 - e) = 53 by omega]
    rw [h₁, h₂]
    exact ⟨Nat.mul_le_mul_right _ hlow, Nat.mul_le_mul_right _ hhigh.le⟩

/-- The sign of a word is that of the integer it was made for. -/
lemma natWord64_lt {n : ℕ} (h : n ≤ 2 ^ 64) : natWord64 n < 2 ^ 63 := by
  unfold natWord64
  split_ifs with h₀
  · decide
  · have hbounds := significand_bounds h₀
    have hlog : Nat.log 2 n ≤ 64 := (Nat.log_mono_right h).trans (by rw [Nat.log_pow (by decide)])
    dsimp only
    omega

lemma intWord64_lt {n : ℤ} (h : n.natAbs ≤ 2 ^ 64) : intWord64 n < 2 ^ 64 := by
  have hlt := natWord64_lt h
  unfold intWord64
  split_ifs <;> omega

/-- The number of the word for a natural number that is no larger than `2 ^ 53`. -/
lemma ofWord64_small {n : ℕ} (h₀ : n ≠ 0) (h : n ≤ 2 ^ 53) (isNegative : Bool) :
    ∃ significand exponent, ofWord64 ((if isNegative then 2 ^ 63 else 0) + natWord64 n) =
        .finite isNegative significand exponent ∧ magnitude significand exponent = n := by
  have hbounds := significand_bounds h₀
  have hhigh : n < 2 ^ (Nat.log 2 n + 1) := Nat.lt_pow_succ_log_self (by decide) n
  unfold natWord64
  rw [if_neg h₀]
  dsimp only
  rcases h.lt_or_eq with hlt | rfl
  · have he : Nat.log 2 n ≤ 52 := Nat.lt_succ_iff.mp (Nat.log_lt_of_lt_pow h₀ hlt)
    generalize Nat.log 2 n = e at hbounds hhigh he ⊢
    rw [if_pos he] at hbounds ⊢
    have hm : n * 2 ^ (52 - e) < 2 ^ 53 := by
      calc n * 2 ^ (52 - e) < 2 ^ (e + 1) * 2 ^ (52 - e) := Nat.mul_lt_mul_of_pos_right hhigh (by positivity)
        _ = 2 ^ 53 := by rw [← Nat.pow_add, show e + 1 + (52 - e) = 53 by omega]
    refine ⟨_, _, ofWord64_normal (by omega) hbounds.1 hm isNegative, ?_⟩
    have hexponent : (2 : ℚ) ^ (52 - e) = 2 ^ (((52 - e : ℕ) : ℤ)) := (zpow_natCast _ _).symm
    have hzero : ((52 : ℕ) : ℤ) - e + (e - 52) = 0 := by omega
    unfold magnitude
    rw [Nat.cast_mul, Nat.cast_pow, Nat.cast_ofNat, hexponent, mul_assoc, ← zpow_add₀ (by norm_num),
      Nat.cast_sub he, hzero, zpow_zero, mul_one]
  · have hlog : Nat.log 2 (2 ^ 53) = 53 := Nat.log_pow (by decide) 53
    have hround : roundShift (2 ^ 53) (53 - 52) = 2 ^ 52 := by decide
    rw [hlog, if_neg (show ¬ 53 ≤ 52 by decide), hround]
    refine ⟨_, _, ofWord64_normal (e := 53) (m := 2 ^ 52) (by decide) le_rfl (by decide) isNegative, ?_⟩
    unfold magnitude
    norm_num

/-- **A small integer has a word of its own.** -/
theorem holds_intWord64 {n : ℤ} (h : n.natAbs ≤ 2 ^ 53) : (ofWord64 (intWord64 n)).Holds n := by
  unfold intWord64
  rcases eq_or_ne n 0 with rfl | h₀
  · show (if false = true then _ else magnitude 0 _) = _
    simp [magnitude]
  have hne : n.natAbs ≠ 0 := Int.natAbs_ne_zero.mpr h₀
  split_ifs with hn
  · obtain ⟨m, e, hword, hm⟩ := ofWord64_small hne h true
    have hcast : ((n.natAbs : ℕ) : ℚ) = -(n : ℚ) := by
      rw [← Int.cast_natCast, Int.ofNat_natAbs_of_nonpos hn.le, Int.cast_neg]
    rw [if_pos rfl] at hword
    rw [hword]
    show (if true = true then -magnitude m e else _) = _
    rw [if_pos rfl, hm, hcast, neg_neg]
  · obtain ⟨m, e, hword, hm⟩ := ofWord64_small hne h false
    have hcast : ((n.natAbs : ℕ) : ℚ) = (n : ℚ) := by
      rw [← Int.cast_natCast, Int.natAbs_of_nonneg (Int.not_lt.mp hn)]
    rw [if_neg Bool.false_ne_true, Nat.zero_add] at hword
    rw [hword]
    show (if false = true then _ else magnitude m e) = _
    rw [if_neg Bool.false_ne_true, hm, hcast]

example : natWord64 1 = 0x3ff0000000000000 := by decide +kernel
example : intWord64 (-2) = 0xc000000000000000 := by decide +kernel
example : natWord64 (2 ^ 64 - 1) = natWord64 (2 ^ 64) := by decide +kernel

lemma magnitude_nonneg (m : ℕ) (e : ℤ) : 0 ≤ magnitude m e := by
  unfold magnitude
  positivity

/-- What a word holds has the sign of the word. -/
lemma sign_of_holds {word : ℕ} {q : ℚ} (h : (ofWord64 word).Holds q) :
    (word.testBit 63 = true → q ≤ 0) ∧ (word.testBit 63 = false → 0 ≤ q) := by
  have hsigned (m : ℕ) (e : ℤ) (hq : (if word.testBit 63 then -magnitude m e else magnitude m e) = q) :
      (word.testBit 63 = true → q ≤ 0) ∧ (word.testBit 63 = false → 0 ≤ q) := by
    have hnonneg := magnitude_nonneg m e
    cases hbit : word.testBit 63 with
    | true =>
      rw [if_pos hbit] at hq
      exact ⟨fun _ => by rw [← hq]; exact neg_nonpos.mpr hnonneg, nofun⟩
    | false =>
      rw [if_neg (by rw [hbit]; exact Bool.false_ne_true)] at hq
      exact ⟨nofun, fun _ => by rw [← hq]; exact hnonneg⟩
  unfold ofWord64 decode at h
  dsimp only at h
  split at h
  · split at h
    · exact h.elim
    · exact h.elim
  · split at h
    · exact hsigned _ _ h
    · exact hsigned _ _ h

/-- The word of an integer that is not negative holds no negative number. -/
lemma nonneg_of_holds {n : ℤ} (hn : 0 ≤ n) (hlt : n.natAbs ≤ 2 ^ 64) {q : ℚ} (h : (ofWord64 (intWord64 n)).Holds q) :
    0 ≤ q := by
  refine (sign_of_holds h).2 ?_
  unfold intWord64
  rw [if_neg (Int.not_lt.mpr hn)]
  exact Nat.testBit_lt_two_pow (natWord64_lt hlt)

/-- The word of a negative integer holds no positive number. -/
lemma nonpos_of_holds {n : ℤ} (hn : n < 0) (hlt : n.natAbs ≤ 2 ^ 64) {q : ℚ} (h : (ofWord64 (intWord64 n)).Holds q) :
    q ≤ 0 := by
  refine (sign_of_holds h).1 ?_
  have hlt63 := natWord64_lt hlt
  unfold intWord64
  rw [if_pos hn, Nat.testBit_eq_decide_div_mod_eq, decide_eq_true_eq]
  omega

/-! ### Decimals -/

/-- A number is below a power of ten to six decimals exactly if it is below it, when its significand is small: what is
not an integer is far smaller. -/
lemma scaled_lt_iff {m : ℕ} {e : ℤ} {k : ℕ} (hm : m < 2 ^ 53) (hk : 16 ≤ k) :
    scaled 6 m e < 10 ^ (k + 6) ↔ magnitude m e < 10 ^ k := by
  unfold scaled
  split_ifs with he
  · obtain ⟨n, rfl⟩ := Int.eq_ofNat_of_zero_le he
    have hvalue : magnitude m n = ((m * 2 ^ n : ℕ) : ℚ) := by
      unfold magnitude
      rw [zpow_natCast, Nat.cast_mul, Nat.cast_pow, Nat.cast_ofNat]
    rw [hvalue, Int.toNat_natCast, Nat.pow_add]
    have hcast : ((10 : ℚ) ^ k) = ((10 ^ k : ℕ) : ℚ) := by norm_num
    rw [hcast, Nat.cast_lt]
    exact Nat.mul_lt_mul_right (by norm_num)
  · have hpow : 2 ^ 53 * 10 ^ 6 < 10 ^ (k + 6) := by
      calc 2 ^ 53 * 10 ^ 6 < 10 ^ (16 + 6) := by norm_num
        _ ≤ 10 ^ (k + 6) := Nat.pow_le_pow_right (by norm_num) (by omega)
    refine iff_of_true ?_ ?_
    · have hround := roundShift_le (m * 10 ^ 6) (-e).toNat
      have hdiv : m * 10 ^ 6 / 2 ^ (-e).toNat ≤ m * 10 ^ 6 := Nat.div_le_self _ _
      omega
    · have hone : (2 : ℚ) ^ e ≤ 1 := zpow_le_one_of_nonpos₀ (by norm_num) (by omega)
      have hm' : (m : ℚ) < 2 ^ 53 := by exact_mod_cast hm
      calc magnitude m e = m * 2 ^ e := rfl
        _ ≤ m * 1 := mul_le_mul_of_nonneg_left hone (Nat.cast_nonneg m)
        _ < 2 ^ 53 := by rwa [mul_one]
        _ < 10 ^ 16 := by norm_num
        _ ≤ 10 ^ k := pow_le_pow_right₀ (by norm_num) hk

end Floating

end LibAttachSql.Lib
