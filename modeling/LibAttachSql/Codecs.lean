import LibAttachSql.ExecuteRoundTrip
import LibAttachSql.TextRows

/-!
# The codecs of `pack.cc`

Lengths, dates and times, written into a buffer and read back.  A length of one byte is read as a `char`, so 128 to 250
are not kept; a date and time comes back whatever it is; a time whose hours alone are not zero is written as zero.
-/

namespace LibAttachSql

open Lib

/-! ### Lengths -/

/-- A length is a codeword of its own: read back as it was written whatever stands behind it, written in the shortest
form there is, and never mistaken for a NULL or an error. -/
structure LengthCodec (n : ℕ) : Prop where
  readBack : ∀ (m : Memory UInt8) (p : ℕ), m.slice p (packLength n).length = packLength n →
    unpackLength m p = { length := n, bytes := (packLength n).length, null := false }
  shortest : ∀ bs, takeLength bs = some (n, []) → (packLength n).length ≤ bs.length
  size : (packLength n).length ∈ [1, 3, 4, 9]
  notNull : (packLength n).head? ≠ some 0xfb
  notError : (packLength n).head? ≠ some 0xff
  null : ∀ (m : Memory UInt8) (p : ℕ), m p = 0xfb → unpackLength m p = { length := 0, bytes := 1, null := true }

/-- The byte that stands for NULL. -/
lemma unpackLength_null {m : Memory UInt8} {p : ℕ} (h : m p = 0xfb) :
    unpackLength m p = { length := 0, bytes := 1, null := true } := by
  unfold unpackLength
  rw [h]
  rfl

lemma head_packLength (n : ℕ) : (packLength n).head? ≠ some 0xfb ∧ (packLength n).head? ≠ some 0xff := by
  unfold packLength
  split_ifs with h
  · have hbyte : (byteAt n 0).toNat = n := by
      rw [toNat_byteAt]
      omega
    rw [List.head?_cons]
    refine ⟨fun h' => ?_, fun h' => ?_⟩ <;> rw [Option.some.inj h'] at hbyte <;> simp at hbyte <;> omega
  all_goals
    rw [List.head?_cons]
    exact ⟨fun h' => absurd (Option.some.inj h') (by decide), fun h' => absurd (Option.some.inj h') (by decide)⟩

/-- **Which lengths make the round trip.** -/
theorem length_codec {n : ℕ} (hn : n < 2 ^ 64) : LengthCodec n ↔ n < 0x80 ∨ 0xfa < n := by
  constructor
  · intro h
    by_contra hc
    have hslice := Memory.slice_store (fun _ => 0) 0 (packLength n)
    have hread := h.readBack _ 0 hslice
    have hneg := unpackLength_of_negative hslice (by omega) (by omega)
    rw [hread] at hneg
    dsimp only at hneg
    omega
  · intro h
    refine ⟨fun m p hs => unpackLength_of_slice hs ?_, fun bs hbs => ?_, ?_, (head_packLength n).1, (head_packLength n).2,
      fun m p => unpackLength_null⟩
    · exact h.imp id fun h => ⟨h, hn⟩
    · rw [length_packLength]
      exact length_of_takeLength hbs
    · rw [length_packLength]
      unfold lengthSize
      split_ifs <;> simp

/-- A length of five. -/
theorem length_codec_five : 5 < 2 ^ 64 ∧ LengthCodec 5 := ⟨by decide, (length_codec (by decide)).mpr (.inl (by decide))⟩

/-- A length of 200 comes back as one of almost 2 ^ 64. -/
theorem length_codec_200 : ¬ LengthCodec 200 ∧
    unpackLength (Memory.store (fun _ => 0) 0 (packLength 200)) 0 =
      { length := 2 ^ 64 - 56, bytes := 1, null := false } := by
  refine ⟨fun h => ?_, by decide⟩
  have hread := h.readBack (Memory.store (fun _ => 0) 0 (packLength 200)) 0 (by decide)
  exact absurd hread (by decide)

/-! ### Dates and times -/

/-- A fresh `attachsql_datetime_st`. -/
def Datetime.fresh : Datetime :=
  { year := 0, month := 0, day := 0, hour := 0, minute := 0, second := 0, microsecond := 0, isNegative := false }

/-- `attachsql_unpack_datetime`. -/
def unpackDatetime (m : Memory UInt8) (buffer length : ℕ) (datetime : Datetime) : Datetime :=
  if length = 0 then datetime
  else
    let datetime := { datetime with
      isNegative := false
      year := unpackInt2 m buffer
      month := (m (buffer + 2)).toNat
      day := uint32 (signedChar (m (buffer + 3))) }
    if length ≤ 4 then datetime
    else
      let datetime := { datetime with
        hour := (m (buffer + 4)).toNat
        minute := (m (buffer + 5)).toNat
        second := (m (buffer + 6)).toNat }
      if length ≤ 7 then datetime else { datetime with microsecond := unpackInt4 m (buffer + 7) }

/-- `attachsql_unpack_time`. -/
def unpackTime (m : Memory UInt8) (buffer length : ℕ) (datetime : Datetime) : Datetime :=
  if length = 0 then datetime
  else
    let datetime := { datetime with
      isNegative := m buffer != 0
      day := unpackInt4 m (buffer + 1)
      hour := (m (buffer + 5)).toNat
      minute := (m (buffer + 6)).toNat
      second := (m (buffer + 7)).toNat }
    if length ≤ 8 then datetime else { datetime with microsecond := unpackInt4 m (buffer + 8) }

/-- `attachsql_pack_datetime` into a buffer, with the place it returns.  The groups are written from the last one on. -/
def packDatetimeAt (m : Memory UInt8) (buffer : ℕ) (datetime : Datetime) (dateOnly : Bool) : Memory UInt8 × ℕ :=
  let (m, length) :=
    if ¬ dateOnly ∧ 0 < datetime.microsecond then (m.store (buffer + 8) (packInt4 datetime.microsecond), 11)
    else (m, 0)
  let (m, length) :=
    if ¬ dateOnly ∧ (0 < length ∨ 0 < datetime.hour ∨ 0 < datetime.minute ∨ 0 < datetime.second) then
      (m.store (buffer + 5)
        [UInt8.ofNat datetime.hour, UInt8.ofNat datetime.minute, UInt8.ofNat datetime.second],
        if length = 0 then 7 else length)
    else (m, length)
  let (m, length) :=
    if 0 < length ∨ 0 < datetime.year ∨ 0 < datetime.month ∨ 0 < datetime.day then
      ((m.store (buffer + 1) (packInt2 datetime.year)).store (buffer + 3)
        [UInt8.ofNat datetime.month, UInt8.ofNat datetime.day],
        if length = 0 then 4 else length)
    else (m, length)
  (m.store buffer [UInt8.ofNat length], buffer + length + 1)

/-- `attachsql_pack_time` into a buffer, with the place it returns. -/
def packTimeAt (m : Memory UInt8) (buffer : ℕ) (time : Datetime) : Memory UInt8 × ℕ :=
  let (m, length) :=
    if 0 < time.microsecond then (m.store (buffer + 9) (packInt4 time.microsecond), 12) else (m, 0)
  let (m, length) :=
    if 0 < length ∨ 0 < time.day ∨ 0 < time.minute ∨ 0 < time.second then
      (((m.store (buffer + 1) [if time.isNegative then 1 else 0]).store (buffer + 2) (packInt4 time.day)).store
        (buffer + 6) [UInt8.ofNat time.hour, UInt8.ofNat time.minute, UInt8.ofNat time.second],
        if length = 0 then 8 else length)
    else (m, length)
  (m.store buffer [UInt8.ofNat length], buffer + length + 1)

/-- What is written is what `packDatetime` lists, and the place returned is behind it. -/
lemma packDatetimeAt_eq (m : Memory UInt8) (buffer : ℕ) (datetime : Datetime) (dateOnly : Bool) :
    packDatetimeAt m buffer datetime dateOnly =
      (m.store buffer (packDatetime datetime dateOnly), buffer + (packDatetime datetime dateOnly).length) := by
  set date := packInt2 datetime.year ++ [UInt8.ofNat datetime.month, UInt8.ofNat datetime.day] with hdate
  set time := [UInt8.ofNat datetime.hour, UInt8.ofNat datetime.minute, UInt8.ofNat datetime.second] with htime
  set micro := packInt4 datetime.microsecond
  have hput (m : Memory UInt8) : (m.store (buffer + 1) (packInt2 datetime.year)).store (buffer + 3)
      [UInt8.ofNat datetime.month, UInt8.ofNat datetime.day] = m.store (buffer + 1) date :=
    (Memory.store_append m (buffer + 1) (packInt2 datetime.year) _).symm
  have hhead (m : Memory UInt8) (b : UInt8) (body : List UInt8) :
      (m.store (buffer + 1) body).store buffer [b] = m.store buffer (b :: body) :=
    Memory.store_store_append m buffer [b] body
  have hgroups (m : Memory UInt8) (rest : List UInt8) :
      (m.store (buffer + 5) rest).store (buffer + 1) date = m.store (buffer + 1) (date ++ rest) :=
    Memory.store_store_append m (buffer + 1) date rest
  have htail : (m.store (buffer + 8) micro).store (buffer + 5) time = m.store (buffer + 5) (time ++ micro) :=
    Memory.store_store_append m (buffer + 5) time micro
  unfold packDatetimeAt packDatetime
  simp only [← hdate, ← htime, hput]
  by_cases hus : ¬ dateOnly ∧ 0 < datetime.microsecond
  · have ht : ¬ dateOnly ∧ (0 < 11 ∨ 0 < datetime.hour ∨ 0 < datetime.minute ∨ 0 < datetime.second) :=
      ⟨hus.1, .inl (by decide)⟩
    have hd : 0 < 11 ∨ 0 < datetime.year ∨ 0 < datetime.month ∨ 0 < datetime.day := .inl (by decide)
    simp only [if_pos hus, if_pos ht, if_neg (Nat.succ_ne_zero 10), if_pos hd]
    refine Prod.ext ?_ rfl
    dsimp only
    rw [htail, hgroups, hhead, List.append_assoc]
    rfl
  · simp only [if_neg hus, Nat.lt_irrefl 0, false_or]
    by_cases ht : ¬ dateOnly ∧ (0 < datetime.hour ∨ 0 < datetime.minute ∨ 0 < datetime.second)
    · have hd : 0 < 7 ∨ 0 < datetime.year ∨ 0 < datetime.month ∨ 0 < datetime.day := .inl (by decide)
      simp only [if_pos ht, if_true, if_neg (Nat.succ_ne_zero 6), if_pos hd]
      refine Prod.ext ?_ rfl
      dsimp only
      rw [hgroups, hhead]
      rfl
    · simp only [if_neg ht, Nat.lt_irrefl 0, false_or]
      by_cases hd : 0 < datetime.year ∨ 0 < datetime.month ∨ 0 < datetime.day
      · simp only [if_pos hd]
        refine Prod.ext ?_ rfl
        dsimp only
        rw [hhead]
        rfl
      · simp only [if_neg hd]
        exact Prod.ext rfl rfl

/-- What is written is what `packTime` lists, and the place returned is behind it. -/
lemma packTimeAt_eq (m : Memory UInt8) (buffer : ℕ) (time : Datetime) :
    packTimeAt m buffer time = (m.store buffer (packTime time), buffer + (packTime time).length) := by
  have hstore (body : List UInt8) (us : List UInt8) (hb : body.length = 8) (b : UInt8) :
      ((m.store (buffer + 9) us).store (buffer + 1) body).store buffer [b] = m.store buffer (b :: (body ++ us)) := by
    rw [show buffer + 9 = buffer + 1 + body.length by omega, Memory.store_store_append]
    exact Memory.store_store_append m buffer [b] _
  have hbody (m : Memory UInt8) : ((m.store (buffer + 1) [if time.isNegative then 1 else 0]).store (buffer + 2)
      (packInt4 time.day)).store (buffer + 6) [UInt8.ofNat time.hour, UInt8.ofNat time.minute, UInt8.ofNat time.second] =
      m.store (buffer + 1) ((if time.isNegative then 1 else 0) :: packInt4 time.day ++
        [UInt8.ofNat time.hour, UInt8.ofNat time.minute, UInt8.ofNat time.second]) := by
    rw [Memory.store_append]
    congr 1
    exact (Memory.store_append m (buffer + 1) [_] _).symm
  unfold packTimeAt packTime
  by_cases hus : 0 < time.microsecond
  · simp only [if_pos hus, hbody]
    rw [if_pos (.inl (by decide))]
    refine Prod.ext ?_ rfl
    exact hstore _ _ rfl _
  · simp only [if_neg hus]
    by_cases ht : 0 < time.day ∨ 0 < time.minute ∨ 0 < time.second
    · rw [if_pos (.inr ht), if_pos ht]
      refine Prod.ext ?_ rfl
      rw [hbody]
      exact Memory.store_store_append m buffer [8] _
    · rw [if_neg (by simpa using ht), if_neg ht]
      exact Prod.ext rfl rfl

/-! ### The round trips -/

/-- A writer puts down a block: a byte with a length out of `lengths`, as many bytes behind it that do not depend on what
was there, and the place behind them as its answer.  No other byte changes. -/
structure WritesBlock (write : Memory UInt8 → ℕ → Memory UInt8 × ℕ) (lengths : List ℕ) : Prop where
  length : ∀ m p, ((write m p).1 p).toNat ∈ lengths
  place : ∀ m p, (write m p).2 = p + 1 + ((write m p).1 p).toNat
  bytes : ∀ m m' p a, p ≤ a → a < (write m p).2 → (write m p).1 a = (write m' p).1 a
  frame : ∀ m p a, a < p ∨ (write m p).2 ≤ a → (write m p).1 a = m a

/-- A writer that stores a block as a list. -/
lemma writesBlock_of_store {write : Memory UInt8 → ℕ → Memory UInt8 × ℕ} {lengths : List ℕ} {n : UInt8}
    {body : List UInt8} (h : ∀ m p, write m p = (m.store p (n :: body), p + (n :: body).length))
    (hbody : body.length = n.toNat) (hn : n.toNat ∈ lengths) : WritesBlock write lengths := by
  have hfirst (m : Memory UInt8) (p : ℕ) : (write m p).1 p = n := by
    rw [h]
    have hmem : m.store p (n :: body) (p + 0) = (n :: body)[0] := Memory.store_of_mem (Nat.succ_pos _)
    exact hmem
  refine ⟨fun m p => ?_, fun m p => ?_, fun m m' p a h₁ h₂ => ?_, fun m p a ha => ?_⟩
  · rw [hfirst]
    exact hn
  · rw [hfirst, h, List.length_cons, hbody]
    dsimp only
    omega
  · rw [h] at h₂ ⊢
    rw [h]
    obtain ⟨i, rfl⟩ := Nat.exists_eq_add_of_le h₁
    have hi : i < (n :: body).length := Nat.lt_of_add_lt_add_left h₂
    exact (Memory.store_of_mem hi).trans (Memory.store_of_mem hi).symm
  · rw [h] at ha ⊢
    exact ha.elim Memory.store_of_lt Memory.store_of_ge

/-- A date and time of the claimed ranges. -/
structure Datetime.InRange (d : Datetime) : Prop where
  year : d.year < 2 ^ 16
  month : d.month ≤ 12
  day : d.day ≤ 31
  hour : d.hour ≤ 23
  minute : d.minute ≤ 59
  second : d.second ≤ 59
  microsecond : d.microsecond ≤ 999999

/-- A time: a number of days, and the time within one. -/
structure Datetime.IsTime (t : Datetime) : Prop where
  day : t.day < 2 ^ 32
  hour : t.hour ≤ 23
  minute : t.minute ≤ 59
  second : t.second ≤ 59
  microsecond : t.microsecond ≤ 999999

section Reading

variable {m : Memory UInt8} {p : ℕ} {d : Datetime}

lemma uint32_signedChar {n : ℕ} (h : n < 0x80) : uint32 (signedChar (UInt8.ofNat n)) = n := by
  unfold signedChar uint32
  rw [toNat_ofNat_of_lt (by omega), if_pos (by omega)]
  omega

/-- The bytes of a date. -/
lemma date_of_slice (h : m.slice p 4 = packInt2 d.year ++ [UInt8.ofNat d.month, UInt8.ofNat d.day]) (hd : d.InRange) :
    unpackInt2 m p = d.year ∧ (m (p + 2)).toNat = d.month ∧ uint32 (signedChar (m (p + 3))) = d.day := by
  have hmonth := hd.month
  have hday := hd.day
  obtain ⟨hyear, hrest⟩ := Memory.slice_eq_append h
  obtain ⟨h₁, hrest⟩ := List.cons.inj ((Memory.slice_succ m (p + 2) 1).symm.trans hrest)
  obtain ⟨h₂, -⟩ := List.cons.inj ((Memory.slice_succ m (p + 3) 0).symm.trans hrest)
  refine ⟨unpackInt2_of_slice hyear hd.year, ?_, ?_⟩
  · rw [h₁, toNat_ofNat_of_lt (by omega)]
  · rw [h₂, uint32_signedChar (by omega)]

/-- The bytes of a time of day. -/
lemma clock_of_slice (h : m.slice p 3 = [UInt8.ofNat d.hour, UInt8.ofNat d.minute, UInt8.ofNat d.second])
    (hh : d.hour < 2 ^ 8) (hmi : d.minute < 2 ^ 8) (hs : d.second < 2 ^ 8) :
    (m p).toNat = d.hour ∧ (m (p + 1)).toNat = d.minute ∧ (m (p + 2)).toNat = d.second := by
  obtain ⟨h₀, hrest⟩ := List.cons.inj ((Memory.slice_succ m p 2).symm.trans h)
  obtain ⟨h₁, hrest⟩ := List.cons.inj ((Memory.slice_succ m (p + 1) 1).symm.trans hrest)
  obtain ⟨h₂, -⟩ := List.cons.inj ((Memory.slice_succ m (p + 2) 0).symm.trans hrest)
  rw [h₀, h₁, h₂]
  exact ⟨toNat_ofNat_of_lt hh, toNat_ofNat_of_lt hmi, toNat_ofNat_of_lt hs⟩

/-- The date of a date and time, at midnight. -/
def Datetime.date (d : Datetime) : Datetime := { d with hour := 0, minute := 0, second := 0, microsecond := 0 }

/-- What is to be read of a date and time that was written without its last two groups. -/
lemma midnight {dateOnly : Bool} (hus : ¬ (¬ dateOnly ∧ 0 < d.microsecond))
    (hclock : ¬ (¬ dateOnly ∧ (0 < d.hour ∨ 0 < d.minute ∨ 0 < d.second))) :
    (if dateOnly then d.date else d) = d.date := by
  cases dateOnly with
  | true => rfl
  | false =>
    obtain ⟨hh, hmi, hs⟩ : d.hour = 0 ∧ d.minute = 0 ∧ d.second = 0 := by simpa using hclock
    have hmicro : d.microsecond = 0 := by simpa using hus
    obtain ⟨year, month, day, hour, minute, second, microsecond, isNegative⟩ := d
    dsimp only at hh hmi hs hmicro
    subst hh hmi hs hmicro
    rfl

/-- **What is read of a date and time that was written**: the same, or with `date_only` its date.  It has no sign. -/
lemma unpackDatetime_of_slice {dateOnly : Bool}
    (h : m.slice p (packDatetime d dateOnly).length = packDatetime d dateOnly) (hd : d.InRange) :
    unpackDatetime m (p + 1) (m p).toNat .fresh =
      { (if dateOnly then d.date else d) with isNegative := false } := by
  have hhour := hd.hour
  have hminute := hd.minute
  have hsecond := hd.second
  have hmicro := hd.microsecond
  unfold packDatetime at h
  split_ifs at h with h₁ h₂ h₃
  · -- all three groups
    obtain ⟨hp, h⟩ := List.cons.inj ((Memory.slice_succ m p 11).symm.trans h)
    obtain ⟨h, hus⟩ := Memory.slice_eq_append h
    obtain ⟨hdate, hclock⟩ := Memory.slice_eq_append h
    obtain ⟨hy, hmo, hday⟩ := date_of_slice hdate hd
    obtain ⟨hh, hmi, hs⟩ := clock_of_slice (p := p + 1 + 4) hclock (by omega) (by omega) (by omega)
    have hus' : unpackInt4 m (p + 1 + 7) = d.microsecond := unpackInt4_of_slice hus (by omega)
    rw [hp, if_neg h₁.1]
    show Datetime.mk (unpackInt2 m (p + 1)) (m (p + 1 + 2)).toNat (uint32 (signedChar (m (p + 1 + 3))))
      (m (p + 1 + 4)).toNat (m (p + 1 + 4 + 1)).toNat (m (p + 1 + 4 + 2)).toNat (unpackInt4 m (p + 1 + 7)) false = _
    rw [hy, hmo, hday, hh, hmi, hs, hus']
  · -- the date and the time
    obtain ⟨hp, h⟩ := List.cons.inj ((Memory.slice_succ m p 7).symm.trans h)
    obtain ⟨hdate, hclock⟩ := Memory.slice_eq_append h
    obtain ⟨hy, hmo, hday⟩ := date_of_slice hdate hd
    obtain ⟨hh, hmi, hs⟩ := clock_of_slice (p := p + 1 + 4) hclock (by omega) (by omega) (by omega)
    have hus : d.microsecond = 0 := by
      by_contra hne
      exact h₁ ⟨h₂.1, Nat.pos_of_ne_zero hne⟩
    rw [hp, if_neg h₂.1]
    show Datetime.mk (unpackInt2 m (p + 1)) (m (p + 1 + 2)).toNat (uint32 (signedChar (m (p + 1 + 3))))
      (m (p + 1 + 4)).toNat (m (p + 1 + 4 + 1)).toNat (m (p + 1 + 4 + 2)).toNat 0 false = _
    rw [hy, hmo, hday, hh, hmi, hs, ← hus]
  · -- the date alone
    obtain ⟨hp, hdate⟩ := List.cons.inj ((Memory.slice_succ m p 4).symm.trans h)
    obtain ⟨hy, hmo, hday⟩ := date_of_slice hdate hd
    rw [hp]
    show Datetime.mk (unpackInt2 m (p + 1)) (m (p + 1 + 2)).toNat (uint32 (signedChar (m (p + 1 + 3)))) 0 0 0 0 false = _
    rw [hy, hmo, hday, midnight h₁ h₂]
    rfl
  · -- nothing
    obtain ⟨hp, -⟩ := List.cons.inj ((Memory.slice_succ m p 0).symm.trans h)
    obtain ⟨hy, hmo, hday⟩ : d.year = 0 ∧ d.month = 0 ∧ d.day = 0 := by omega
    rw [hp, midnight h₁ h₂]
    show Datetime.mk 0 0 0 0 0 0 0 false = Datetime.mk d.year d.month d.day 0 0 0 0 false
    rw [hy, hmo, hday]

/-- A time is zero but for its hours: what `attachsql_pack_time` takes for zero. -/
def Datetime.HoursAlone (t : Datetime) : Prop :=
  0 < t.hour ∧ t.day = 0 ∧ t.minute = 0 ∧ t.second = 0 ∧ t.microsecond = 0

/-- The same time: day, clock and sign.  A time of zero has no sign. -/
def Datetime.SameTime (a t : Datetime) : Prop :=
  a.day = t.day ∧ a.hour = t.hour ∧ a.minute = t.minute ∧ a.second = t.second ∧ a.microsecond = t.microsecond ∧
    (a.isNegative = t.isNegative ∨
      t.day = 0 ∧ t.hour = 0 ∧ t.minute = 0 ∧ t.second = 0 ∧ t.microsecond = 0)

/-- The bytes of a time but its microseconds. -/
lemma time_of_slice {t : Datetime} (h : m.slice p 8 = (if t.isNegative then 1 else 0) :: packInt4 t.day ++
      [UInt8.ofNat t.hour, UInt8.ofNat t.minute, UInt8.ofNat t.second]) (ht : t.IsTime) :
    (m p != 0) = t.isNegative ∧ unpackInt4 m (p + 1) = t.day ∧ (m (p + 5)).toNat = t.hour ∧
      (m (p + 6)).toNat = t.minute ∧ (m (p + 7)).toNat = t.second := by
  have hhour := ht.hour
  have hminute := ht.minute
  have hsecond := ht.second
  obtain ⟨hbody, hclock⟩ := Memory.slice_eq_append h
  obtain ⟨hsign, hday⟩ := List.cons.inj ((Memory.slice_succ m p 4).symm.trans hbody)
  obtain ⟨hh, hmi, hs⟩ := clock_of_slice (p := p + 5) hclock (by omega) (by omega) (by omega)
  refine ⟨?_, unpackInt4_of_slice hday ht.day, hh, hmi, hs⟩
  rw [hsign]
  cases t.isNegative <;> rfl

/-- **What is read of a time that was written**: the same, unless only its hours are not zero. -/
lemma unpackTime_of_slice {t : Datetime} (h : m.slice p (packTime t).length = packTime t) (ht : t.IsTime) :
    (unpackTime m (p + 1) (m p).toNat .fresh).SameTime t ↔ ¬ t.HoursAlone := by
  have hmicro := ht.microsecond
  unfold packTime at h
  by_cases h₁ : 0 < t.microsecond
  · -- all of it
    simp only [if_pos h₁] at h
    refine iff_of_true ?_ (fun hlone => by have := hlone.2.2.2.2; omega)
    obtain ⟨hp, h⟩ := List.cons.inj ((Memory.slice_succ m p 12).symm.trans h)
    obtain ⟨hbody, hus⟩ := Memory.slice_eq_append h
    obtain ⟨hsign, hday, hh, hmi, hs⟩ := time_of_slice hbody ht
    have hus' : unpackInt4 m (p + 1 + 8) = t.microsecond := unpackInt4_of_slice hus (by omega)
    rw [hp]
    exact ⟨hday, hh, hmi, hs, hus', .inl hsign⟩
  by_cases h₂ : 0 < t.day ∨ 0 < t.minute ∨ 0 < t.second
  · -- no microseconds
    simp only [if_neg h₁, if_pos h₂] at h
    refine iff_of_true ?_ (fun hlone => by obtain ⟨-, hd, hmi, hs, -⟩ := hlone; omega)
    obtain ⟨hp, hbody⟩ := List.cons.inj ((Memory.slice_succ m p 8).symm.trans h)
    obtain ⟨hsign, hday, hh, hmi, hs⟩ := time_of_slice hbody ht
    rw [hp]
    exact ⟨hday, hh, hmi, hs, by show 0 = _; omega, .inl hsign⟩
  · -- nothing, so that the hours are lost
    simp only [if_neg h₁, if_neg h₂] at h
    obtain ⟨hp, -⟩ := List.cons.inj ((Memory.slice_succ m p 0).symm.trans h)
    obtain ⟨hday, hmi, hs⟩ : t.day = 0 ∧ t.minute = 0 ∧ t.second = 0 := by omega
    have hus : t.microsecond = 0 := by omega
    rw [hp]
    constructor
    · rintro ⟨-, hh, -⟩ hlone
      exact absurd hh.symm (Nat.pos_iff_ne_zero.mp hlone.1)
    · intro hlone
      have hh : t.hour = 0 := by
        by_contra hne
        exact hlone ⟨Nat.pos_of_ne_zero hne, hday, hmi, hs, hus⟩
      exact ⟨hday.symm, hh.symm, hmi.symm, hs.symm, hus.symm, .inr ⟨hday, hh, hmi, hs, hus⟩⟩

end Reading

/-- A time makes the round trip. -/
structure TimeCodec (t : Datetime) : Prop where
  writes : WritesBlock (fun m p => packTimeAt m p t) [0, 8, 12]
  readBack : ∀ m p, (unpackTime (packTimeAt m p t).1 (p + 1) ((packTimeAt m p t).1 p).toNat .fresh).SameTime t

/-- A time is written as a block. -/
lemma writesBlock_packTimeAt (t : Datetime) : WritesBlock (fun m p => packTimeAt m p t) [0, 8, 12] := by
  have h (m : Memory UInt8) (p : ℕ) := packTimeAt_eq m p t
  unfold packTime at h
  by_cases h₁ : 0 < t.microsecond
  · simp only [if_pos h₁] at h
    exact writesBlock_of_store h rfl (by decide)
  by_cases h₂ : 0 < t.day ∨ 0 < t.minute ∨ 0 < t.second
  · simp only [if_neg h₁, if_pos h₂] at h
    exact writesBlock_of_store h rfl (by decide)
  · simp only [if_neg h₁, if_neg h₂] at h
    exact writesBlock_of_store h rfl (by decide)

/-- **Which times make the round trip**: all but those that are zero but for their hours. -/
theorem time_codec {t : Datetime} (ht : t.IsTime) : TimeCodec t ↔ ¬ t.HoursAlone := by
  have hread (m : Memory UInt8) (p : ℕ) :
      (unpackTime (packTimeAt m p t).1 (p + 1) ((packTimeAt m p t).1 p).toNat .fresh).SameTime t ↔ ¬ t.HoursAlone := by
    rw [packTimeAt_eq]
    exact unpackTime_of_slice (Memory.slice_store m p (packTime t)) ht
  constructor
  · intro h
    exact (hread (fun _ => 0) 0).mp (h.readBack _ _)
  · intro h
    exact ⟨writesBlock_packTimeAt t, fun m p => (hread m p).mpr h⟩

/-- A negative time of a day and a microsecond. -/
theorem time_codec_day : TimeCodec ⟨0, 0, 1, 0, 0, 0, 1, true⟩ :=
  (time_codec ⟨by decide, by decide, by decide, by decide, by decide⟩).mpr (fun h => absurd h.1 (by decide))

/-- Five hours come back as none. -/
theorem time_codec_hours : ¬ TimeCodec ⟨0, 0, 0, 5, 0, 0, 0, false⟩ := by
  intro h
  have hhour : 0 = 5 := (h.readBack (fun _ => 0) 0).2.1
  exact absurd hhour (by decide)

/-- A date and time makes the round trip, and so does its date. -/
structure DatetimeCodec (d : Datetime) (dateOnly : Bool) : Prop where
  writes : WritesBlock (fun m p => packDatetimeAt m p d dateOnly) [0, 4, 7, 11]
  readBack : ∀ m p,
    unpackDatetime (packDatetimeAt m p d dateOnly).1 (p + 1) ((packDatetimeAt m p d dateOnly).1 p).toNat .fresh =
      { (if dateOnly then d.date else d) with isNegative := false }

/-- A date and time is written as a block. -/
lemma writesBlock_packDatetimeAt (d : Datetime) (dateOnly : Bool) :
    WritesBlock (fun m p => packDatetimeAt m p d dateOnly) [0, 4, 7, 11] := by
  have h (m : Memory UInt8) (p : ℕ) := packDatetimeAt_eq m p d dateOnly
  unfold packDatetime at h
  split_ifs at h
  · exact writesBlock_of_store h rfl (by decide)
  · exact writesBlock_of_store h rfl (by decide)
  · exact writesBlock_of_store h rfl (by decide)
  · exact writesBlock_of_store h rfl (by decide)

/-- **Every date and time makes the round trip**. -/
theorem datetime_codec {d : Datetime} (hd : d.InRange) (dateOnly : Bool) : DatetimeCodec d dateOnly := by
  refine ⟨writesBlock_packDatetimeAt d dateOnly, fun m p => ?_⟩
  rw [packDatetimeAt_eq]
  exact unpackDatetime_of_slice (Memory.slice_store m p (packDatetime d dateOnly)) hd

/-- The last microsecond of a year. -/
theorem datetime_codec_2014 : DatetimeCodec ⟨2014, 12, 31, 23, 59, 59, 999999, false⟩ false ∧
    DatetimeCodec ⟨2014, 12, 31, 23, 59, 59, 999999, false⟩ true := by
  have h : Datetime.InRange ⟨2014, 12, 31, 23, 59, 59, 999999, false⟩ :=
    ⟨by decide, by decide, by decide, by decide, by decide, by decide, by decide⟩
  exact ⟨datetime_codec h false, datetime_codec h true⟩

end LibAttachSql
