import LibAttachSql.Accessors
import LibAttachSql.Expansion

/-!
# The length of a text

`attachsql_statement_get_char` prints a number or a date into 40 bytes and adds up what `snprintf` answers, the length the
text would have had with enough room.  This module says for which values that is the length of what was stored.
-/

namespace LibAttachSql

open Lib

/-- The number of characters in the buffer, in front of the first NUL. -/
def TmpBuffer.stored (t : TmpBuffer) : ℕ := ((t.mem.slice 0 stmtCharBufferSize).takeWhile (· != 0)).length

/-- The length that is answered is that of characters in the buffer, and every append began in it with room left. -/
structure TmpBuffer.Honest (t : TmpBuffer) : Prop where
  length : t.length ≤ t.stored
  stored : t.stored < stmtCharBufferSize
  inside : ∀ a ∈ t.appends, a.1 ≤ stmtCharBufferSize ∧ 0 ≤ a.2

/-! ### Texts without a NUL -/

/-- Text for the buffer: no byte of it is NUL. -/
def NoNul (text : List UInt8) : Prop := ∀ b ∈ text, b ≠ 0

lemma NoNul.append {xs ys : List UInt8} (hx : NoNul xs) (hy : NoNul ys) : NoNul (xs ++ ys) :=
  fun b hb => (List.mem_append.mp hb).elim (hx b) (hy b)

lemma NoNul.cons {x : UInt8} {xs : List UInt8} (hx : x ≠ 0) (hxs : NoNul xs) : NoNul (x :: xs) :=
  List.forall_mem_cons.mpr ⟨hx, hxs⟩

lemma noNul_digitBytes (n : ℕ) : NoNul (digitBytes n) := by
  intro b hb
  unfold digitBytes at hb
  obtain ⟨c, hc, rfl⟩ := List.mem_map.mp hb
  obtain ⟨hlow, hhigh⟩ := toNat_of_mem_digits hc
  intro hzero
  have hnat := congrArg UInt8.toNat hzero
  rw [UInt8.toNat_ofNat'] at hnat
  change c.toNat % 2 ^ 8 = 0 at hnat
  omega

lemma noNul_decimal (v : ℤ) : NoNul (decimal v) := by
  rcases lt_or_ge v 0 with h | h
  · rw [decimal_of_neg h]
    exact .cons (by decide) (noNul_digitBytes _)
  · rw [decimal_of_nonneg h]
    exact noNul_digitBytes _

lemma noNul_padded (width n : ℕ) : NoNul (padded width n) := by
  refine .append (fun b hb => ?_) (noNul_decimal _)
  rw [List.eq_of_mem_replicate hb]
  decide

lemma noNul_sign (isNegative : Bool) : NoNul (if isNegative then [0x2d] else []) := by
  intro b hb
  cases isNegative with
  | true => rw [List.mem_singleton.mp hb]; decide
  | false => cases hb

lemma noNul_printClock (hour minute second : ℕ) : NoNul (printClock hour minute second) :=
  .append (noNul_padded _ _) (.cons (by decide) (.append (noNul_padded _ _) (.cons (by decide) (noNul_padded _ _))))

lemma noNul_printFloating (x : Floating) : NoNul (printFloating x) := by
  cases x with
  | nan isNegative => exact .append (noNul_sign _) (fun b hb => by rintro rfl; revert hb; decide)
  | infinite isNegative => exact .append (noNul_sign _) (fun b hb => by rintro rfl; revert hb; decide)
  | finite isNegative m e =>
    exact .append (noNul_sign _) (.append (noNul_decimal _) (.cons (by decide) (noNul_padded _ _)))

/-! ### Appending -/

/-- What was printed so far. -/
structure TmpBuffer.Ready (t : TmpBuffer) (printed : List UInt8) : Prop where
  prints : t.Prints printed
  noNul : NoNul printed
  places : ∀ a ∈ t.appends, a.1 ≤ printed.length ∧ a.2 = stmtCharBufferSize - a.1

/-- What was printed, with a NUL behind it. -/
structure TmpBuffer.Ended (t : TmpBuffer) (printed : List UInt8) : Prop extends t.Ready printed where
  ends : printed.length < stmtCharBufferSize → t.mem printed.length = 0

namespace TmpBuffer

variable {t : TmpBuffer} {printed text : List UInt8}

lemma ready_start (mem : Memory UInt8) : (start mem).Ready [] := ⟨prints_start mem, nofun, nofun⟩

/-- **An append.** -/
lemma Ready.snprintf (h : t.Ready printed) (htext : NoNul text) : (t.snprintf text).Ended (printed ++ text) := by
  refine ⟨⟨h.prints.snprintf text, h.noNul.append htext, fun a ha => ?_⟩, fun hfit => ?_⟩
  · rw [List.length_append]
    rcases List.mem_append.mp ha with hold | hnew
    · obtain ⟨hplace, hleft⟩ := h.places a hold
      exact ⟨by omega, hleft⟩
    · rw [List.mem_singleton.mp hnew, ← h.prints.length]
      exact ⟨Nat.le_add_right _ _, rfl⟩
  · rw [List.length_append] at hfit ⊢
    exact snprintf_ends h.prints hfit

/-- The first print. -/
lemma ended_start (mem : Memory UInt8) (htext : NoNul text) : ((start mem).snprintf text).Ended text :=
  (ready_start mem).snprintf htext

/-- **The length is that of what is stored exactly if the text fits.** -/
lemma Ended.honest_iff (h : t.Ended printed) : t.Honest ↔ printed.length < stmtCharBufferSize := by
  constructor
  · intro hhonest
    rw [← h.prints.length]
    exact hhonest.length.trans_lt hhonest.stored
  · intro hfit
    have hslice : t.mem.slice 0 stmtCharBufferSize =
        printed ++ 0 :: t.mem.slice (printed.length + 1) (stmtCharBufferSize - printed.length - 1) := by
      obtain ⟨k, hk⟩ := Nat.exists_eq_add_of_le (Nat.succ_le_of_lt hfit)
      rw [hk, Nat.succ_eq_add_one, Nat.add_assoc, Nat.add_comm 1 k, Memory.slice_add, h.prints.stored hfit, Nat.zero_add,
        Memory.slice_succ, h.ends hfit]
      congr 3
      omega
    have hstored : t.stored = printed.length := by
      unfold stored
      rw [hslice, List.takeWhile_append_of_pos (fun b hb => by simpa using h.noNul b hb),
        List.takeWhile_cons_of_neg (by simp), List.append_nil]
    refine ⟨?_, ?_, fun a ha => ?_⟩
    · rw [hstored, h.prints.length]
    · rw [hstored]
      exact hfit
    · obtain ⟨hplace, hleft⟩ := h.places a ha
      omega

end TmpBuffer

/-! ### Lengths -/

/-- The digits of a number below ten digits' worth, counted. -/
lemma length_decimal_le_iff {n k : ℕ} (hk : 0 < k) : (decimal (n : ℤ)).length ≤ k ↔ n < 10 ^ k := by
  rw [decimal_natCast]
  unfold digitBytes
  rw [List.length_map]
  exact Nat.length_toDigits_le_iff (by decide) hk

lemma length_padded (width n : ℕ) : (padded width n).length = max width (decimal (n : ℤ)).length := by
  unfold padded
  rw [List.length_append, List.length_replicate]
  omega

/-! ### What fits -/

/-- A `double` of 32 digits before the point, or 31 behind a minus sign; or one that is not finite. -/
def FloatingFits : Floating → Prop
  | .finite isNegative significand exponent =>
    Floating.magnitude significand exponent < 10 ^ (if isNegative then 31 else 32)
  | _ => True

/-- The digits of a date and time that are more than its format asks for, those of the day apart. -/
def Datetime.extraDigits (d : Datetime) : ℕ :=
  (if 10 ^ 4 ≤ d.year then 1 else 0) + (if 10 ^ 2 ≤ d.month then 1 else 0) + (if 10 ^ 2 ≤ d.hour then 1 else 0) +
    (if 10 ^ 2 ≤ d.minute then 1 else 0) + (if 10 ^ 2 ≤ d.second then 1 else 0) +
    (if 10 ^ 6 ≤ d.microsecond then 1 else 0) + (if 10 ^ 7 ≤ d.microsecond then 1 else 0) +
    (if 10 ^ 8 ≤ d.microsecond then 1 else 0) + (if 10 ^ 9 ≤ d.microsecond then 1 else 0)

/-- A date and time whose day does not stand in a negative `char`, or that has few extra digits. -/
def Datetime.Fits (d : Datetime) : Prop := d.day < 2 ^ 31 ∨ d.extraDigits < 6

/-- A column whose text has room. -/
def TextFits (m : Memory UInt8) (cell : StmtCell) : Prop :=
  if cell.type = 0x04 then FloatingFits (.ofWord64 (Floating.widen (unpackInt4 m cell.data)))
  else if cell.type = 0x05 then FloatingFits (.ofWord64 (unpackInt8 m cell.data))
  else if cell.type = 0x07 ∨ cell.type = 0x0c then (unpackDatetime m cell.data cell.length .fresh).Fits
  else True

/-! ### Numbers -/

lemma length_printInteger_lt {w : ℕ} (hw : w ≤ 64) (isUnsigned : Bool) (x : ℤ) :
    (printInteger w isUnsigned x).length < stmtCharBufferSize := by
  have hpow : (2 : ℤ) ^ w ≤ 2 ^ 64 := pow_le_pow_right₀ (by norm_num) hw
  have hpos : (0 : ℤ) < 2 ^ w := by positivity
  have hbound : (if isUnsigned then unsigned w x else signed w x).natAbs < 10 ^ 20 := by
    cases isUnsigned with
    | true =>
      have h₁ := Int.emod_nonneg x hpos.ne'
      have h₂ := Int.emod_lt_of_pos x hpos
      show (x % 2 ^ w).natAbs < 10 ^ 20
      omega
    | false =>
      have h₁ := Int.le_bmod (x := x) (m := 2 ^ w) (by positivity)
      have h₂ := Int.bmod_lt (x := x) (m := 2 ^ w) (by positivity)
      show (x.bmod (2 ^ w)).natAbs < 10 ^ 20
      push_cast at h₁ h₂
      omega
  exact (length_decimal_le (k := 20) (by decide) hbound).trans_lt (by decide)

lemma significand_lt {word m : ℕ} {isNegative : Bool} {e : ℤ} (h : Floating.ofWord64 word = .finite isNegative m e) :
    m < 2 ^ 53 := by
  unfold Floating.ofWord64 Floating.decode at h
  dsimp only at h
  split_ifs at h
  · cases h
    omega
  · cases h
    omega

/-- **When `%f` fits.** -/
lemma length_printFloating_lt_iff (word : ℕ) :
    (printFloating (.ofWord64 word)).length < stmtCharBufferSize ↔ FloatingFits (.ofWord64 word) := by
  cases hx : Floating.ofWord64 word with
  | nan isNegative => exact iff_of_true (by cases isNegative <;> decide) trivial
  | infinite isNegative => exact iff_of_true (by cases isNegative <;> decide) trivial
  | finite isNegative m e =>
    have hm := significand_lt hx
    show _ ↔ Floating.magnitude m e < 10 ^ (if isNegative then 31 else 32)
    generalize hk : (if isNegative then 31 else 32) = k
    have hk' : k = 31 ∧ isNegative = true ∨ k = 32 ∧ isNegative = false := by
      cases isNegative with
      | true => exact .inl ⟨hk.symm, rfl⟩
      | false => exact .inr ⟨hk.symm, rfl⟩
    rw [← Floating.scaled_lt_iff hm (by omega)]
    -- what stands in front of the point, and six digits behind it
    have hwhole := length_decimal_le_iff (n := Floating.scaled 6 m e / 10 ^ 6) (k := k) (by omega)
    have hrest := (length_decimal_le_iff (n := Floating.scaled 6 m e % 10 ^ 6) (k := 6) (by decide)).mpr
      (Nat.mod_lt _ (by decide))
    rw [Nat.div_lt_iff_lt_mul (by decide), ← Nat.pow_add] at hwhole
    rw [← hwhole]
    have hlength : (printFloating (.finite isNegative m e)).length =
        (if isNegative then 1 else 0) + ((decimal (Floating.scaled 6 m e / 10 ^ 6 : ℕ)).length + 7) := by
      have hpadded := length_padded 6 (Floating.scaled 6 m e % 10 ^ 6)
      unfold printFloating
      simp only [List.length_append, List.length_cons]
      have hsign : (if isNegative then [(0x2d : UInt8)] else []).length = if isNegative then 1 else 0 := by
        cases isNegative <;> rfl
      omega
    rw [hlength]
    unfold stmtCharBufferSize
    rcases hk' with ⟨rfl, rfl⟩ | ⟨rfl, rfl⟩
    · rw [if_pos rfl]
      omega
    · rw [if_neg Bool.false_ne_true]
      omega

/-! ### Dates and times -/

/-- The digits of a number of 32 bits. -/
lemma digits_cases {n : ℕ} (h : n < 2 ^ 32) :
    ((decimal (n : ℤ)).length ≤ 2 ↔ n < 10 ^ 2) ∧ ((decimal (n : ℤ)).length ≤ 3 ↔ n < 10 ^ 3) ∧
      ((decimal (n : ℤ)).length ≤ 4 ↔ n < 10 ^ 4) ∧ ((decimal (n : ℤ)).length ≤ 5 ↔ n < 10 ^ 5) ∧
      ((decimal (n : ℤ)).length ≤ 6 ↔ n < 10 ^ 6) ∧ ((decimal (n : ℤ)).length ≤ 7 ↔ n < 10 ^ 7) ∧
      ((decimal (n : ℤ)).length ≤ 8 ↔ n < 10 ^ 8) ∧ ((decimal (n : ℤ)).length ≤ 9 ↔ n < 10 ^ 9) ∧
      (decimal (n : ℤ)).length ≤ 10 :=
  ⟨length_decimal_le_iff (by decide), length_decimal_le_iff (by decide), length_decimal_le_iff (by decide),
    length_decimal_le_iff (by decide), length_decimal_le_iff (by decide), length_decimal_le_iff (by decide),
    length_decimal_le_iff (by decide), length_decimal_le_iff (by decide),
    (length_decimal_le_iff (by decide)).mpr (h.trans (by decide))⟩

/-- A date and time out of the bytes of a column: what its fields can hold, with a day out of one `char`. -/
structure Datetime.Stored (d : Datetime) : Prop where
  year : d.year < 2 ^ 16
  month : d.month < 2 ^ 8
  day : d.day < 2 ^ 7 ∨ 2 ^ 32 - 2 ^ 7 ≤ d.day ∧ d.day < 2 ^ 32
  hour : d.hour < 2 ^ 8
  minute : d.minute < 2 ^ 8
  second : d.second < 2 ^ 8
  microsecond : d.microsecond < 2 ^ 32

lemma unpackInt2_lt (m : Memory UInt8) (p : ℕ) : unpackInt2 m p < 2 ^ 16 := by
  have h₀ := (m p).toNat_lt
  have h₁ := (m (p + 1)).toNat_lt
  unfold unpackInt2
  omega

lemma stored_unpackDatetime (m : Memory UInt8) (p length : ℕ) : (unpackDatetime m p length .fresh).Stored := by
  have hday : uint32 (signedChar (m (p + 3))) < 2 ^ 7 ∨
      2 ^ 32 - 2 ^ 7 ≤ uint32 (signedChar (m (p + 3))) ∧ uint32 (signedChar (m (p + 3))) < 2 ^ 32 := by
    have hlt := (m (p + 3)).toNat_lt
    unfold uint32 signedChar
    split_ifs <;> omega
  have hyear := unpackInt2_lt m p
  have hmicro := unpackInt4_lt m (p + 7)
  unfold unpackDatetime
  dsimp only
  split_ifs
  · exact ⟨by decide, by decide, by decide, by decide, by decide, by decide, by decide⟩
  · exact ⟨hyear, (m _).toNat_lt, hday, Nat.two_pow_pos 8, Nat.two_pow_pos 8, Nat.two_pow_pos 8, Nat.two_pow_pos 32⟩
  · exact ⟨hyear, (m _).toNat_lt, hday, (m _).toNat_lt, (m _).toNat_lt, (m _).toNat_lt, Nat.two_pow_pos 32⟩
  · exact ⟨hyear, (m _).toNat_lt, hday, (m _).toNat_lt, (m _).toNat_lt, (m _).toNat_lt, hmicro⟩

/-- A byte, to two digits. -/
lemma length_padded_two {n : ℕ} (h : n < 2 ^ 8) : (padded 2 n).length = 2 + if 10 ^ 2 ≤ n then 1 else 0 := by
  obtain ⟨h₂, h₃, -⟩ := digits_cases (n := n) (by omega)
  rw [length_padded]
  split_ifs <;> omega

/-- A year, to four digits. -/
lemma length_padded_four {n : ℕ} (h : n < 2 ^ 16) : (padded 4 n).length = 4 + if 10 ^ 4 ≤ n then 1 else 0 := by
  obtain ⟨-, -, h₄, h₅, -⟩ := digits_cases (n := n) (by omega)
  rw [length_padded]
  split_ifs <;> omega

/-- Microseconds, to six digits. -/
lemma length_padded_six {n : ℕ} (h : n < 2 ^ 32) : (padded 6 n).length =
    6 + ((if 10 ^ 6 ≤ n then 1 else 0) + (if 10 ^ 7 ≤ n then 1 else 0) + (if 10 ^ 8 ≤ n then 1 else 0) +
      if 10 ^ 9 ≤ n then 1 else 0) := by
  obtain ⟨-, -, -, -, h₆, h₇, h₈, h₉, h₁₀⟩ := digits_cases h
  rw [length_padded]
  split_ifs <;> omega

/-- A day is short, or it has ten digits. -/
lemma length_padded_day {n : ℕ} (h : n < 2 ^ 7 ∨ 2 ^ 32 - 2 ^ 7 ≤ n ∧ n < 2 ^ 32) :
    (padded 2 n).length ≤ 3 ∧ n < 2 ^ 31 ∨ (padded 2 n).length = 10 ∧ 2 ^ 31 ≤ n := by
  obtain ⟨h₂, h₃, -, -, -, -, -, h₉, h₁₀⟩ := digits_cases (n := n) (by omega)
  rw [length_padded]
  omega

lemma unpackTime_lt (m : Memory UInt8) (p length : ℕ) :
    (unpackTime m p length .fresh).minute < 2 ^ 8 ∧ (unpackTime m p length .fresh).second < 2 ^ 8 ∧
      (unpackTime m p length .fresh).microsecond < 2 ^ 32 := by
  have hmicro := unpackInt4_lt m (p + 8)
  unfold unpackTime
  dsimp only
  split_ifs
  · exact ⟨by decide, by decide, by decide⟩
  · exact ⟨(m _).toNat_lt, (m _).toNat_lt, Nat.two_pow_pos 32⟩
  · exact ⟨(m _).toNat_lt, (m _).toNat_lt, hmicro⟩

lemma digit_le_one (p : Prop) [Decidable p] : (if p then 1 else 0) ≤ 1 := by split_ifs <;> decide

section Buffer

variable {t : TmpBuffer} {printed : List UInt8} {d : Datetime} (mem : Memory UInt8)

/-- The microseconds, if there are any. -/
lemma ended_microsecond (h : t.Ended printed) (microsecond : ℕ) :
    (t.microsecond microsecond).Ended
      (printed ++ if microsecond ≠ 0 then 0x2e :: padded 6 microsecond else []) := by
  unfold TmpBuffer.microsecond
  split_ifs with hne
  · exact h.toReady.snprintf (.cons (by decide) (noNul_padded _ _))
  · rw [List.append_nil]
    exact h

lemma length_printClock (hour minute second : ℕ) :
    (printClock hour minute second).length =
      (padded 2 hour).length + (padded 2 minute).length + (padded 2 second).length + 2 := by
  unfold printClock
  simp only [List.length_append, List.length_cons]
  omega

/-- **A time always fits.** -/
lemma ended_time (time : Datetime) (hminute : time.minute < 2 ^ 8) (hsecond : time.second < 2 ^ 8)
    (hmicro : time.microsecond < 2 ^ 32) :
    ∃ printed, ((TmpBuffer.start mem).time time).Ended printed ∧ printed.length < stmtCharBufferSize := by
  refine ⟨_, ended_microsecond (TmpBuffer.ended_start mem (.append (noNul_sign _) (noNul_printClock _ _ _))) _, ?_⟩
  have hhours : uint32 (time.hour + 24 * time.day) < 2 ^ 32 := by
    unfold uint32
    omega
  have h₁ := (digits_cases hhours).2.2.2.2.2.2.2.2
  have h₂ := (digits_cases (n := time.minute) (by omega)).2.1
  have h₃ := (digits_cases (n := time.second) (by omega)).2.1
  have h₄ := (digits_cases hmicro).2.2.2.2.2.2.2.2
  have hsign : (if time.isNegative then [(0x2d : UInt8)] else []).length ≤ 1 := by cases time.isNegative <;> decide
  have hmicros : (if time.microsecond ≠ 0 then 0x2e :: padded 6 time.microsecond else []).length ≤ 11 := by
    split_ifs
    · rw [List.length_cons, length_padded]
      omega
    · exact Nat.zero_le _
  rw [List.length_append, List.length_append, length_printClock, length_padded, length_padded, length_padded]
  unfold stmtCharBufferSize
  omega

/-- **A date always fits.** -/
lemma ended_date (hd : d.Stored) :
    ∃ printed, ((TmpBuffer.start mem).date d).Ended printed ∧
      printed.length = (padded 4 d.year).length + (padded 2 d.month).length + (padded 2 d.day).length + 2 ∧
        printed.length < stmtCharBufferSize := by
  refine ⟨_, TmpBuffer.ended_start mem (.append (noNul_padded _ _)
    (.cons (by decide) (.append (noNul_padded _ _) (.cons (by decide) (noNul_padded _ _))))), ?_, ?_⟩
  · simp only [List.length_append, List.length_cons]
    omega
  · have hyear := hd.year
    have hmonth := hd.month
    have hday := hd.day
    have h₁ := (digits_cases (n := d.year) (by omega)).2.2.2.1
    have h₂ := (digits_cases (n := d.month) (by omega)).2.1
    have h₃ := (digits_cases (n := d.day) (by omega)).2.2.2.2.2.2.2.2
    simp only [List.length_append, List.length_cons, length_padded]
    unfold stmtCharBufferSize
    omega

/-- **When a date and time fits.** -/
lemma ended_datetime (hd : d.Stored) :
    ∃ printed, ((TmpBuffer.start mem).datetime d).Ended printed ∧ (printed.length < stmtCharBufferSize ↔ d.Fits) := by
  obtain ⟨date, hdate, hlength, -⟩ := ended_date mem hd
  refine ⟨_, ended_microsecond (hdate.toReady.snprintf (.cons (by decide) (noNul_printClock _ _ _))) _, ?_⟩
  have hday := length_padded_day hd.day
  have hmicros : (if d.microsecond ≠ 0 then 0x2e :: padded 6 d.microsecond else []).length =
      if d.microsecond ≠ 0 then 1 + (padded 6 d.microsecond).length else 0 := by
    split_ifs
    · rw [List.length_cons, Nat.add_comm]
    · rfl
  rw [List.length_append, List.length_append, hlength, List.length_cons, length_printClock, hmicros,
    length_padded_two hd.month, length_padded_two hd.hour, length_padded_two hd.minute, length_padded_two hd.second,
    length_padded_four hd.year, length_padded_six hd.microsecond]
  unfold Datetime.Fits Datetime.extraDigits stmtCharBufferSize
  have hyear := digit_le_one (10 ^ 4 ≤ d.year)
  have hmonth := digit_le_one (10 ^ 2 ≤ d.month)
  have hhour := digit_le_one (10 ^ 2 ≤ d.hour)
  have hminute := digit_le_one (10 ^ 2 ≤ d.minute)
  have hsecond := digit_le_one (10 ^ 2 ≤ d.second)
  rcases Nat.eq_zero_or_pos d.microsecond with hus | hus
  · rw [if_neg (not_not.mpr hus), if_neg (show ¬ 10 ^ 6 ≤ d.microsecond by omega),
      if_neg (show ¬ 10 ^ 7 ≤ d.microsecond by omega), if_neg (show ¬ 10 ^ 8 ≤ d.microsecond by omega),
      if_neg (show ¬ 10 ^ 9 ≤ d.microsecond by omega)]
    omega
  · have h₆ := digit_le_one (10 ^ 6 ≤ d.microsecond)
    have h₇ := digit_le_one (10 ^ 7 ≤ d.microsecond)
    have h₈ := digit_le_one (10 ^ 8 ≤ d.microsecond)
    have h₉ := digit_le_one (10 ^ 9 ≤ d.microsecond)
    rw [if_pos hus.ne']
    omega

end Buffer

/-- **The length that `attachsql_statement_get_char` answers is that of what it stored**, for every value whose text has
room: for every integer, date and time of day, and for the floating-point numbers and the dates with a time that fit. -/
theorem char_length {con : Con} {cell : StmtCell} {tmp : Memory UInt8} {column : ℕ} {t : TmpBuffer}
    (h : charAnswer tmp column con cell = .tmp t) : t.Honest ↔ TextFits con.buf.mem cell := by
  have hshort {printed : List UInt8} (hended : t.Ended printed) (hfit : printed.length < stmtCharBufferSize)
      (htype : cell.type ∉ [0x04, 0x05, 0x07, 0x0c]) : t.Honest ↔ TextFits con.buf.mem cell := by
    simp only [List.mem_cons, List.not_mem_nil, or_false, not_or] at htype
    obtain ⟨h₄, h₅, h₇, h₁₂⟩ := htype
    refine iff_of_true (hended.honest_iff.mpr hfit) ?_
    unfold TextFits
    rw [if_neg h₄, if_neg h₅, if_neg (by simp [h₇, h₁₂])]
    trivial
  have hinteger (w : ℕ) (hw : w ≤ 64) (isUnsigned : Bool) (x : ℤ) (htype : cell.type ∉ [0x04, 0x05, 0x07, 0x0c])
      (ht : CharAnswer.tmp ((TmpBuffer.start tmp).snprintf (printInteger w isUnsigned x)) = .tmp t) :
      t.Honest ↔ TextFits con.buf.mem cell := by
    obtain rfl := CharAnswer.tmp.inj ht
    exact hshort (TmpBuffer.ended_start tmp (noNul_decimal _)) (length_printInteger_lt hw isUnsigned x) htype
  unfold charAnswer at h
  dsimp only at h
  by_cases h₁ : cell.type = 0x01
  · rw [if_pos h₁] at h
    exact hinteger 32 (by decide) _ _ (by rw [h₁]; decide) h
  rw [if_neg h₁] at h
  by_cases h₂ : cell.type = 0x0d ∨ cell.type = 0x02
  · rw [if_pos h₂] at h
    exact hinteger 32 (by decide) _ _ (by rcases h₂ with h₂ | h₂ <;> rw [h₂] <;> decide) h
  rw [if_neg h₂] at h
  by_cases h₃ : cell.type = 0x03
  · rw [if_pos h₃] at h
    exact hinteger 32 (by decide) _ _ (by rw [h₃]; decide) h
  rw [if_neg h₃] at h
  by_cases h₄ : cell.type = 0x08
  · rw [if_pos h₄] at h
    exact hinteger 64 (by decide) _ _ (by rw [h₄]; decide) h
  rw [if_neg h₄] at h
  by_cases h₅ : cell.type = 0x04
  · rw [if_pos h₅] at h
    obtain rfl := CharAnswer.tmp.inj h
    unfold TextFits
    rw [if_pos h₅, ← length_printFloating_lt_iff]
    exact (TmpBuffer.ended_start tmp (noNul_printFloating _)).honest_iff
  rw [if_neg h₅] at h
  by_cases h₆ : cell.type = 0x05
  · rw [if_pos h₆] at h
    obtain rfl := CharAnswer.tmp.inj h
    unfold TextFits
    rw [if_neg h₅, if_pos h₆, ← length_printFloating_lt_iff]
    exact (TmpBuffer.ended_start tmp (noNul_printFloating _)).honest_iff
  rw [if_neg h₆] at h
  by_cases h₇ : cell.type = columnTypeNull
  · rw [if_pos h₇] at h
    cases h
  rw [if_neg h₇] at h
  by_cases h₈ : cell.type = 0x09
  · rw [if_pos h₈] at h
    exact hinteger 32 (by decide) _ _ (by rw [h₈]; decide) h
  rw [if_neg h₈] at h
  by_cases h₉ : cell.type = 0x0b
  · rw [if_pos h₉] at h
    obtain rfl := CharAnswer.tmp.inj h
    obtain ⟨hminute, hsecond, hmicro⟩ := unpackTime_lt con.buf.mem cell.data cell.length
    obtain ⟨printed, hended, hfit⟩ := ended_time tmp _ hminute hsecond hmicro
    exact hshort hended hfit (by rw [h₉]; decide)
  rw [if_neg h₉] at h
  by_cases h₁₀ : cell.type = 0x0a
  · rw [if_pos h₁₀] at h
    obtain rfl := CharAnswer.tmp.inj h
    obtain ⟨printed, hended, -, hfit⟩ := ended_date tmp (stored_unpackDatetime con.buf.mem cell.data cell.length)
    exact hshort hended hfit (by rw [h₁₀]; decide)
  rw [if_neg h₁₀] at h
  by_cases h₁₁ : cell.type = 0x07 ∨ cell.type = 0x0c
  · rw [if_pos h₁₁] at h
    obtain rfl := CharAnswer.tmp.inj h
    obtain ⟨printed, hended, hfit⟩ := ended_datetime tmp (stored_unpackDatetime con.buf.mem cell.data cell.length)
    unfold TextFits
    rw [if_neg h₅, if_neg h₆, if_pos h₁₁, ← hfit]
    exact hended.honest_iff
  rw [if_neg h₁₁] at h
  split_ifs at h

/-- A connection with the bytes of a column in its read buffer. -/
def columnArrived (bytes : List UInt8) : Con :=
  { Con.calm 0 with
    status := .idle
    commandStatus := .rowInBuffer
    readBuffer := some
      { buffer := 4096, bufferSize := defaultBufferSize, bufferUsed := bytes.length,
        bufferWritePtr := 4096 + bytes.length, bufferReadPtr := 4096, packetEndPtr := some (4096 + bytes.length),
        mem := Memory.store (fun _ => 0) 4096 bytes } }

/-- The text `2007-11-30 16:30:19`. -/
theorem char_length_datetime : ∃ t,
    charAnswer (fun _ => 0) 0 (columnArrived [0xd7, 0x07, 11, 30, 16, 30, 19]) ⟨4096, 7, 0x0c⟩ = .tmp t ∧
      (t.Honest ↔ TextFits (columnArrived [0xd7, 0x07, 11, 30, 16, 30, 19]).buf.mem ⟨4096, 7, 0x0c⟩) :=
  ⟨_, rfl, @char_length _ _ _ 0 _ rfl⟩

/-- The double `2 ^ 107` has 33 digits in front of its point: 40 characters are answered, of which 39 are stored.  A
DATETIME of eleven bytes, all of them large, is answered with 43. -/
theorem char_length_long :
    (∃ t, charAnswer (fun _ => 0) 0 (columnArrived (packInt8 0x46a0000000000000)) ⟨4096, 8, 0x05⟩ = .tmp t ∧
      t.length = 40 ∧ ¬ t.Honest) ∧
      ∃ t, charAnswer (fun _ => 0) 0 (columnArrived (List.replicate 11 0xff)) ⟨4096, 11, 0x0c⟩ = .tmp t ∧
        t.length = 43 ∧ ¬ t.Honest := by
  have hlong {t : TmpBuffer} (h : stmtCharBufferSize ≤ t.length) : ¬ t.Honest := fun hhonest =>
    absurd (hhonest.length.trans_lt hhonest.stored) (Nat.not_lt.mpr h)
  refine ⟨⟨_, rfl, ?_⟩, ⟨_, rfl, ?_⟩⟩
  · have hlength : ((TmpBuffer.start fun _ => 0).snprintf (printFloating (.ofWord64 (unpackInt8
        (columnArrived (packInt8 0x46a0000000000000)).buf.mem 4096)))).length = 40 := by decide +kernel
    exact ⟨hlength, hlong hlength.ge⟩
  · have hlength : ((TmpBuffer.start fun _ => 0).datetime (unpackDatetime
        (columnArrived (List.replicate 11 0xff)).buf.mem 4096 11 .fresh)).length = 43 := by decide +kernel
    exact ⟨hlength, hlong (Nat.le_trans (by decide) hlength.ge)⟩

end LibAttachSql
