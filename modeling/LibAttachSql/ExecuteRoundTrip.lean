import LibAttachSql.System
import LibAttachSql.Lib.BinaryProtocol
import Mathlib.Data.List.Forall2

/-!
# The payload of an execution, read back

`attachsql_stmt_execute` lays out a NULL bitmap, a table of types and the values in one buffer.  It makes room for a type
only where a parameter is not NULL, drops the hours of a time whose other parts are zero, and grows its buffer by what a
single value needs.  This module says exactly when a server reads back what was bound.
-/

namespace LibAttachSql

open Lib

/-! ### Bound values -/

/-- The fields of a parameter that stand for a value. -/
def BoundAs (p : StmtParam) : BinaryValue → Prop
  | .null => p.type = columnTypeNull
  | .long u bits => p.type = 0x03 ∧ p.data = .int bits ∧ p.isUnsigned = u ∧ bits < 2 ^ 32
  | .longlong u bits => p.type = 0x08 ∧ p.data = .bigint bits ∧ p.isUnsigned = u ∧ bits < 2 ^ 64
  | .double bytes => p.type = 0x05 ∧ p.data = .double bytes ∧ bytes.length = 8
  | .string bytes => p.type = 0xfe ∧ p.data = .string bytes ∧ p.length = bytes.length ∧ bytes.length < 2 ^ 64
  | .blob bytes => p.type = 0xfc ∧ p.data = .string bytes ∧ p.length = bytes.length ∧ bytes.length < 2 ^ 64
  | .datetime y mo d h mi s us =>
    p.type = 0x0c ∧
      (∃ n, p.data = .datetime ⟨y, mo, d, h, mi, s, us, n⟩) ∧
      y < 2 ^ 16 ∧ mo < 2 ^ 8 ∧ d < 2 ^ 8 ∧ h < 2 ^ 8 ∧ mi < 2 ^ 8 ∧ s < 2 ^ 8 ∧ us < 2 ^ 32
  | .time n d h mi s us =>
    p.type = 0x0b ∧
      (∃ y mo, p.data = .datetime ⟨y, mo, d, h, mi, s, us, n⟩) ∧
      d < 2 ^ 32 ∧ h < 2 ^ 8 ∧ mi < 2 ^ 8 ∧ s < 2 ^ 8 ∧ us < 2 ^ 32

/-- A parameter stands for a value, and for all of it: no setter marks a parameter as long data. -/
structure Bound (p : StmtParam) (v : BinaryValue) : Prop where
  notLong : p.isLongData = false
  value : BoundAs p v

section Setters

variable {p : StmtParam} (h : p.isLongData = false)

include h

/-- `attachsql_statement_set_int` and `attachsql_statement_set_unsigned_int`. -/
lemma bound_setInt (u : Bool) {bits : ℕ} (hb : bits < 2 ^ 32) :
    Bound (setParam 0x03 0 u (.int bits) p) (.long u bits) := ⟨h, rfl, rfl, rfl, hb⟩

end Setters

/-- A time that is zero but for its hours or its sign: `attachsql_pack_time` takes it for zero. -/
def LosesTime : BinaryValue → Prop
  | .time n d h mi s us => us = 0 ∧ d = 0 ∧ mi = 0 ∧ s = 0 ∧ (h ≠ 0 ∨ n = true)
  | _ => False

/-- The type code of a value. -/
def typeCode : BinaryValue → UInt8
  | .null => 0x06
  | .long _ _ => 0x03
  | .longlong _ _ => 0x08
  | .double _ => 0x05
  | .string _ => 0xfe
  | .blob _ => 0xfc
  | .datetime .. => 0x0c
  | .time .. => 0x0b

/-- The bytes `attachsql_stmt_execute` writes for a value. -/
def wireBytes : BinaryValue → List UInt8
  | .null => []
  | .long _ bits => packInt4 bits
  | .longlong _ bits => packInt8 bits
  | .double bytes => bytes
  | .string bytes => packData bytes
  | .blob bytes => packData bytes
  | .datetime y mo d h mi s us => packDatetime ⟨y, mo, d, h, mi, s, us, false⟩ false
  | .time n d h mi s us => packTime ⟨0, 0, d, h, mi, s, us, n⟩

section Values

variable {p : StmtParam} {v : BinaryValue}

lemma Bound.type_eq_null_iff (h : Bound p v) : p.type = columnTypeNull ↔ v = .null := by
  have hv := h.value
  cases v with
  | null => exact iff_of_true hv rfl
  | _ => exact iff_of_false (by rw [hv.1]; decide) nofun

lemma Bound.paramBytes_eq (h : Bound p v) (hv : v ≠ .null) : paramBytes p = some (wireBytes v) := by
  have hb := h.value
  unfold paramBytes
  cases v with
  | null => exact absurd rfl hv
  | long u bits => rw [hb.1, hb.2.1]; rfl
  | longlong u bits => rw [hb.1, hb.2.1]; rfl
  | double bytes =>
    rw [hb.1, hb.2.1]
    exact congrArg some (List.take_of_length_le hb.2.2.le)
  | string bytes =>
    rw [hb.1, hb.2.1, hb.2.2.1]
    exact congrArg (fun l => some (packData l)) (List.take_of_length_le le_rfl)
  | blob bytes =>
    rw [hb.1, hb.2.1, hb.2.2.1]
    exact congrArg (fun l => some (packData l)) (List.take_of_length_le le_rfl)
  | datetime y mo d h mi s us =>
    obtain ⟨ht, ⟨n, hd⟩, -⟩ := hb
    rw [ht, hd]
    rfl
  | time n d h mi s us =>
    obtain ⟨ht, ⟨y, mo, hd⟩, -⟩ := hb
    rw [ht, hd]
    rfl

lemma length_packLength {n : ℕ} : (packLength n).length = lengthSize n := by
  unfold packLength lengthSize
  split_ifs <;> first | rfl | omega

lemma length_wireBytes (h : Bound p v) (hl : ¬ LosesTime v) : (wireBytes v).length = v.size := by
  have hb := h.value
  cases v with
  | null => rfl
  | long u bits => rfl
  | longlong u bits => rfl
  | double bytes => exact hb.2.2
  | string bytes => simp only [wireBytes, packData, List.length_append, length_packLength, BinaryValue.size]
  | blob bytes => simp only [wireBytes, packData, List.length_append, length_packLength, BinaryValue.size]
  | datetime y mo d h mi s us =>
    simp only [wireBytes, packDatetime, BinaryValue.size, Nat.pos_iff_ne_zero]
    split_ifs <;> simp_all [packInt2, packInt4]
  | time n d h mi s us =>
    simp only [wireBytes, packTime, BinaryValue.size, LosesTime] at hl ⊢
    split_ifs <;> simp_all [packInt4]

/-! ### Reading a value back -/

lemma littleEndian_packInt2 {n : ℕ} (h : n < 2 ^ 16) : littleEndian (packInt2 n) = n := by
  simp only [packInt2, littleEndian, toNat_byteAt]
  omega

lemma littleEndian_packInt3 {n : ℕ} (h : n < 2 ^ 24) : littleEndian (packInt3 n) = n := by
  simp only [packInt3, littleEndian, toNat_byteAt]
  omega

lemma littleEndian_packInt4 {n : ℕ} (h : n < 2 ^ 32) : littleEndian (packInt4 n) = n := by
  simp only [packInt4, littleEndian, toNat_byteAt]
  omega

lemma littleEndian_packInt8 {n : ℕ} (h : n < 2 ^ 64) : littleEndian (packInt8 n) = n := by
  simp only [packInt8, littleEndian, toNat_byteAt]
  omega

lemma takeLength_packLength {n : ℕ} (h : n < 2 ^ 64) (rest : List UInt8) :
    takeLength (packLength n ++ rest) = some (n, rest) := by
  unfold packLength
  split_ifs with h₁ h₂ h₃
  · have hn : (byteAt n 0).toNat = n := by
      rw [toNat_byteAt]
      omega
    rw [List.singleton_append, takeLength, if_pos (by omega), hn]
  · exact (takeInt_append rfl).trans (by rw [littleEndian_packInt2 (Nat.lt_succ_of_le h₂)])
  · exact (takeInt_append rfl).trans (by rw [littleEndian_packInt3 (Nat.lt_succ_of_le h₃)])
  · exact (takeInt_append rfl).trans (by rw [littleEndian_packInt8 h])

lemma takeString_packData {bytes : List UInt8} (h : bytes.length < 2 ^ 64) (rest : List UInt8) :
    takeString (packData bytes ++ rest) = some (bytes, rest) := by
  unfold takeString packData
  rw [List.append_assoc, takeLength_packLength h, Option.bind_some]
  exact takeBytes_append rfl

lemma toNat_ofNat_of_lt {n : ℕ} (h : n < 2 ^ 8) : (UInt8.ofNat n).toNat = n := by
  rw [UInt8.toNat_ofNat']
  omega

lemma length_nil_block : ([] : List UInt8).length = (0 : UInt8).toNat := rfl

/-- A date and time is written as a block that is read back. -/
lemma packDatetime_block {y mo d h mi s us : ℕ} {n : Bool}
    (hb : y < 2 ^ 16 ∧ mo < 2 ^ 8 ∧ d < 2 ^ 8 ∧ h < 2 ^ 8 ∧ mi < 2 ^ 8 ∧ s < 2 ^ 8 ∧ us < 2 ^ 32) :
    ∃ block, (∀ rest, takeBlock (packDatetime ⟨y, mo, d, h, mi, s, us, n⟩ false ++ rest) = some (block, rest)) ∧
      readDatetime block = some (.datetime y mo d h mi s us) := by
  obtain ⟨hy, hmo, hd, hh, hmi, hs, hus⟩ := hb
  have hyear := littleEndian_packInt2 hy
  have hmicro := littleEndian_packInt4 hus
  simp only [packDatetime, Bool.false_eq_true, not_false_eq_true, true_and]
  split_ifs with h₁ h₂ h₃
  · refine ⟨_, fun rest => takeBlock_append rfl, ?_⟩
    simp only [packInt2, packInt4, List.cons_append, List.nil_append, readDatetime] at hyear hmicro ⊢
    rw [hyear, hmicro, toNat_ofNat_of_lt hmo, toNat_ofNat_of_lt hd, toNat_ofNat_of_lt hh, toNat_ofNat_of_lt hmi,
      toNat_ofNat_of_lt hs]
  · obtain rfl : us = 0 := by simpa using h₁
    refine ⟨_, fun rest => takeBlock_append rfl, ?_⟩
    simp only [packInt2, List.cons_append, List.nil_append, readDatetime] at hyear ⊢
    rw [hyear, toNat_ofNat_of_lt hmo, toNat_ofNat_of_lt hd, toNat_ofNat_of_lt hh, toNat_ofNat_of_lt hmi,
      toNat_ofNat_of_lt hs]
  · obtain rfl : us = 0 := by simpa using h₁
    obtain ⟨rfl, rfl, rfl⟩ : h = 0 ∧ mi = 0 ∧ s = 0 := by simpa using h₂
    refine ⟨_, fun rest => takeBlock_append rfl, ?_⟩
    simp only [packInt2, List.cons_append, List.nil_append, readDatetime] at hyear ⊢
    rw [hyear, toNat_ofNat_of_lt hmo, toNat_ofNat_of_lt hd]
  · obtain rfl : us = 0 := by simpa using h₁
    obtain ⟨rfl, rfl, rfl⟩ : h = 0 ∧ mi = 0 ∧ s = 0 := by simpa using h₂
    obtain ⟨rfl, rfl, rfl⟩ : y = 0 ∧ mo = 0 ∧ d = 0 := by simpa using h₃
    exact ⟨[], fun rest => takeBlock_append length_nil_block, rfl⟩

/-- A time that loses nothing is written as a block that is read back. -/
lemma packTime_block {y mo d h mi s us : ℕ} {n : Bool}
    (hb : d < 2 ^ 32 ∧ h < 2 ^ 8 ∧ mi < 2 ^ 8 ∧ s < 2 ^ 8 ∧ us < 2 ^ 32) (hl : ¬ LosesTime (.time n d h mi s us)) :
    ∃ block, (∀ rest, takeBlock (packTime ⟨y, mo, d, h, mi, s, us, n⟩ ++ rest) = some (block, rest)) ∧
      readTime block = some (.time n d h mi s us) := by
  obtain ⟨hd, hh, hmi, hs, hus⟩ := hb
  have hdays := littleEndian_packInt4 hd
  have hmicro := littleEndian_packInt4 hus
  have hsign : ((if n = true then 1 else 0 : UInt8) != 0) = n := by cases n <;> rfl
  unfold packTime
  dsimp only
  generalize (if n = true then 1 else 0 : UInt8) = sign at hsign ⊢
  split_ifs with h₁ h₂
  · refine ⟨_, fun rest => takeBlock_append rfl, ?_⟩
    simp only [packInt4, List.cons_append, List.nil_append, readTime] at hdays hmicro ⊢
    rw [hdays, hmicro, hsign, toNat_ofNat_of_lt hh, toNat_ofNat_of_lt hmi, toNat_ofNat_of_lt hs]
  · obtain rfl : us = 0 := by simpa using h₁
    refine ⟨_, fun rest => takeBlock_append rfl, ?_⟩
    simp only [packInt4, List.cons_append, List.nil_append, readTime] at hdays ⊢
    rw [hdays, hsign, toNat_ofNat_of_lt hh, toNat_ofNat_of_lt hmi, toNat_ofNat_of_lt hs]
  · obtain rfl : us = 0 := by simpa using h₁
    obtain ⟨rfl, rfl, rfl⟩ : d = 0 ∧ mi = 0 ∧ s = 0 := by simpa using h₂
    obtain ⟨rfl, rfl⟩ : h = 0 ∧ n = false := by simpa [LosesTime] using hl
    exact ⟨[], fun rest => takeBlock_append length_nil_block, rfl⟩

/-- **What is written for a value is read back as that value**, but for a time that loses its hours. -/
theorem takeValue_wireBytes (h : Bound p v) (hv : v ≠ .null) (hl : ¬ LosesTime v) (rest : List UInt8) :
    takeValue (typeCode v) p.isUnsigned (wireBytes v ++ rest) = some (v, rest) := by
  have hb := h.value
  cases v with
  | null => exact absurd rfl hv
  | long u bits =>
    obtain ⟨-, -, hu, hbits⟩ := hb
    have hlen : (packInt4 bits).length = 4 := rfl
    simp only [typeCode, wireBytes, takeInt_append hlen, littleEndian_packInt4 hbits, hu,
      takeValue_long, Option.map_some]
  | longlong u bits =>
    obtain ⟨-, -, hu, hbits⟩ := hb
    have hlen : (packInt8 bits).length = 8 := rfl
    simp only [typeCode, wireBytes, takeInt_append hlen, littleEndian_packInt8 hbits, hu,
      takeValue_longlong, Option.map_some]
  | double bytes => simp only [typeCode, wireBytes, takeValue_double, takeBytes_append hb.2.2, Option.map_some]
  | string bytes =>
    simp only [typeCode, wireBytes, takeValue_string, takeString_packData hb.2.2.2, Option.map_some]
  | blob bytes => simp only [typeCode, wireBytes, takeValue_blob, takeString_packData hb.2.2.2, Option.map_some]
  | datetime y mo d h mi s us =>
    obtain ⟨block, hblock, hread⟩ := packDatetime_block (n := false) hb.2.2
    simp only [typeCode, wireBytes, takeValue_datetime, hblock, hread, Option.bind_some, Option.map_some]
  | time n d h mi s us =>
    obtain ⟨block, hblock, hread⟩ := @packTime_block 0 0 d _ mi s us n hb.2.2 hl
    simp only [typeCode, wireBytes, takeValue_time, hblock, hread, Option.bind_some, Option.map_some]

end Values

/-! ### One parameter -/

/-- The size of the execution buffer after a check for `required` bytes. -/
def checkedSize (size required : ℕ) : ℕ :=
  if size < required then if size = 0 then stmtExecDefaultSize else size * 2 else size

/-- The bytes a string is checked for. -/
def checkedFor : BinaryValue → ℕ
  | .string bytes => bytes.length
  | .blob bytes => bytes.length
  | _ => 0

/-- The size of the execution buffer a value is written into, when it was `size` before. -/
def valueRoom (size : ℕ) (v : BinaryValue) : ℕ := checkedSize (checkedSize size sizeofDatetime) (checkedFor v)

/-- The type word of a parameter. -/
def typeWord (p : StmtParam) : ℕ := if p.isUnsigned then p.type ||| stmtParamUnsignedBit else p.type

/-- What the loop makes of its state for parameter `i`, which stands for the value `v`. -/
def Fill.filled (f : Fill) (i : ℕ) (p : StmtParam) (v : BinaryValue) : Fill :=
  let f' := f.put (f.typePos + i * 2) (packInt2 (typeWord p))
  { f' with stmt := { f'.stmt with execBufferLength := valueRoom f.stmt.execBufferLength v } }.push (wireBytes v)

lemma stmtCheckBufferSize_eq_some {env : Env} {stmt stmt' : Stmt} {required : ℕ}
    (h : stmtCheckBufferSize env stmt required = some stmt') :
    stmt' = { stmt with execBufferLength := checkedSize stmt.execBufferLength required } := by
  unfold stmtCheckBufferSize at h
  unfold checkedSize
  by_cases hlt : stmt.execBufferLength < required
  · rw [if_pos hlt] at h ⊢
    generalize (if stmt.execBufferLength = 0 then stmtExecDefaultSize else stmt.execBufferLength * 2) = newSize at h ⊢
    dsimp only at h
    split at h <;> cases h
    rfl
  · rw [if_neg hlt] at h ⊢
    cases h
    rfl

lemma checkedSize_zero (size : ℕ) : checkedSize size 0 = size := if_neg (Nat.not_lt_zero _)

/-- The second check is for the length of a string, and is left out for anything else. -/
lemma Bound.stringCheck_eq_some {env : Env} {p : StmtParam} {v : BinaryValue} {stmt stmt' : Stmt} (h : Bound p v)
    (hc : (if isStringType p.type then stmtCheckBufferSize env stmt p.length else some stmt) = some stmt') :
    stmt' = { stmt with execBufferLength := checkedSize stmt.execBufferLength (checkedFor v) } := by
  have hb := h.value
  cases v with
  | string bytes =>
    rw [hb.1, if_pos (by decide), hb.2.2.1] at hc
    exact stmtCheckBufferSize_eq_some hc
  | blob bytes =>
    rw [hb.1, if_pos (by decide), hb.2.2.1] at hc
    exact stmtCheckBufferSize_eq_some hc
  | null =>
    rw [show p.type = columnTypeNull from hb, if_neg (by decide)] at hc
    show stmt' = { stmt with execBufferLength := checkedSize stmt.execBufferLength 0 }
    rw [checkedSize_zero]
    exact (Option.some.inj hc).symm
  | _ =>
    rw [hb.1, if_neg (by decide)] at hc
    show stmt' = { stmt with execBufferLength := checkedSize stmt.execBufferLength 0 }
    rw [checkedSize_zero]
    exact (Option.some.inj hc).symm

section Fill

variable {env : Env} {f f' : Fill} {i : ℕ} {p : StmtParam} {v : BinaryValue}

lemma fillParam_of_null (h : Bound p .null) : fillParam env f i p = .ok f := by
  unfold fillParam
  rw [if_pos (h.type_eq_null_iff.mpr rfl)]

/-- A parameter that is not NULL is written, unless memory runs out. -/
lemma fillParam_of_bound (h : Bound p v) (hv : v ≠ .null) :
    (∃ stmt, fillParam env f i p = .error (.noMemory stmt)) ∨ fillParam env f i p = .ok (f.filled i p v) := by
  unfold fillParam
  rw [if_neg (mt h.type_eq_null_iff.mp hv), h.notLong, h.paramBytes_eq hv]
  simp only [Bool.false_eq_true, if_false]
  split
  · exact Or.inl ⟨_, rfl⟩
  · next stmt hstmt =>
    split
    · exact Or.inl ⟨_, rfl⟩
    · next stmt' hstmt' =>
      rw [h.stringCheck_eq_some hstmt', stmtCheckBufferSize_eq_some hstmt]
      exact Or.inr rfl

/-! ### All parameters -/

/-- The bytes of all values. -/
def wireValues (vs : List BinaryValue) : List UInt8 := (vs.map wireBytes).flatten

/-- The type words of all parameters. -/
def typeTable (ps : List StmtParam) : List UInt8 := (ps.map fun p => packInt2 (typeWord p)).flatten

lemma wireValues_cons (v : BinaryValue) (vs : List BinaryValue) :
    wireValues (v :: vs) = wireBytes v ++ wireValues vs := by
  simp [wireValues]

lemma typeTable_cons (p : StmtParam) (ps : List StmtParam) :
    typeTable (p :: ps) = packInt2 (typeWord p) ++ typeTable ps := by
  simp [typeTable]

lemma length_packInt2 (n : ℕ) : (packInt2 n).length = 2 := rfl

variable {ps : List StmtParam} {vs : List BinaryValue}

/-- Only memory can run out on the way through bound parameters. -/
lemma fillParams_of_bound (h : List.Forall₂ Bound ps vs) (f : Fill) (i : ℕ) :
    (∃ stmt, fillParams env f i ps = .error (.noMemory stmt)) ∨ ∃ f', fillParams env f i ps = .ok f' := by
  induction h generalizing f i with
  | nil => exact Or.inr ⟨f, rfl⟩
  | @cons p v ps vs hp _ ih =>
    rw [fillParams]
    by_cases hv : v = .null
    · subst hv
      rw [fillParam_of_null hp]
      exact ih f (i + 1)
    · rcases fillParam_of_bound hp hv with ⟨stmt, hstmt⟩ | hok
      · exact Or.inl ⟨stmt, by rw [hstmt]; rfl⟩
      · rw [hok]
        exact ih _ (i + 1)

/-- The loop goes on from what it makes of a parameter that is not NULL. -/
lemma fillParams_cons_of_bound (hp : Bound p v) (hv : v ≠ .null) (hf : fillParams env f i (p :: ps) = .ok f') :
    fillParams env (f.filled i p v) (i + 1) ps = .ok f' := by
  rw [fillParams] at hf
  rcases fillParam_of_bound hp hv with ⟨stmt, hstmt⟩ | hok
  · rw [hstmt] at hf
    cases hf
  · rw [hok] at hf
    exact hf

/-- The place of the next value moves by the bytes of the values, NULL or not. -/
lemma fillParams_pos (h : List.Forall₂ Bound ps vs) (hf : fillParams env f i ps = .ok f') :
    f'.pos = f.pos + (wireValues vs).length := by
  induction h generalizing f i with
  | nil =>
    cases hf
    rfl
  | @cons p v ps vs hp _ ih =>
    rw [wireValues_cons, List.length_append]
    by_cases hv : v = .null
    · subst hv
      rw [fillParams, fillParam_of_null hp] at hf
      rw [ih hf, wireBytes, List.length_nil, Nat.zero_add]
    · rw [ih (fillParams_cons_of_bound hp hv hf), ← Nat.add_assoc]
      rfl

/-- The values fit into an execution buffer of `size` bytes that grows by the checks made for each: the next type stands
at `typePos`, the next value at `pos`. -/
def ValuesFit : ℕ → ℕ → ℕ → List BinaryValue → Prop
  | size, _, pos, [] => pos ≤ size
  | size, typePos, pos, v :: vs =>
    typePos + 2 ≤ size ∧ pos + v.size ≤ valueRoom size v ∧
      ValuesFit (valueRoom size v) (typePos + 2) (pos + v.size) vs

instance decidableValuesFit : (size typePos pos : ℕ) → (vs : List BinaryValue) →
    Decidable (ValuesFit size typePos pos vs)
  | size, _, pos, [] => inferInstanceAs (Decidable (pos ≤ size))
  | size, typePos, pos, v :: vs =>
    have := decidableValuesFit (valueRoom size v) (typePos + 2) (pos + v.size) vs
    inferInstanceAs (Decidable (_ ∧ _ ∧ _))

/-- A value that is neither NULL nor a time that loses its hours. -/
def Kept (v : BinaryValue) : Prop := v ≠ .null ∧ ¬ LosesTime v

lemma put_outside_iff (f : Fill) (p : ℕ) (bs : List UInt8) :
    (f.put p bs).outside = false ↔ f.outside = false ∧ p + bs.length ≤ f.stmt.execBufferLength := by
  simp [Fill.put]

lemma filled_outside_iff (f : Fill) (i : ℕ) (p : StmtParam) (v : BinaryValue) :
    (f.filled i p v).outside = false ↔
      f.outside = false ∧ f.typePos + i * 2 + 2 ≤ f.stmt.execBufferLength ∧
        f.pos + (wireBytes v).length ≤ valueRoom f.stmt.execBufferLength v := by
  rw [← and_assoc, ← length_packInt2 (typeWord p), ← put_outside_iff]
  exact put_outside_iff _ _ _

/-- Every store stays inside the buffer exactly when the values fit. -/
lemma fillParams_inside_iff (h : List.Forall₂ Bound ps vs) (hk : ∀ v ∈ vs, Kept v)
    (hf : fillParams env f i ps = .ok f') :
    (f'.outside = false ∧ f'.pos ≤ f'.stmt.execBufferLength) ↔
      f.outside = false ∧ ValuesFit f.stmt.execBufferLength (f.typePos + i * 2) f.pos vs := by
  induction h generalizing f i with
  | nil =>
    cases hf
    rfl
  | @cons p v ps vs hp _ ih =>
    obtain ⟨⟨hv, hl⟩, hk⟩ := List.forall_mem_cons.mp hk
    rw [ih hk (fillParams_cons_of_bound hp hv hf), ValuesFit]
    have hlen := length_wireBytes hp hl
    have hnext : (f.filled i p v).typePos + (i + 1) * 2 = f.typePos + i * 2 + 2 :=
      show f.typePos + (i + 1) * 2 = f.typePos + i * 2 + 2 by omega
    have hpos : (f.filled i p v).pos = f.pos + v.size := congrArg (f.pos + ·) hlen
    rw [filled_outside_iff, hlen, hnext, hpos, and_assoc, and_assoc]
    rfl

lemma filled_execBuffer (f : Fill) (i : ℕ) (p : StmtParam) (v : BinaryValue) :
    (f.filled i p v).stmt.execBuffer =
      (f.stmt.execBuffer.store (f.typePos + i * 2) (packInt2 (typeWord p))).store f.pos (wireBytes v) := rfl

/-- A block that holds neither the type nor the value of parameter `i` is left alone. -/
lemma slice_filled {q n : ℕ} (h : q + n ≤ f.typePos + i * 2 ∨ f.typePos + i * 2 + 2 ≤ q) (hpos : q + n ≤ f.pos) :
    (f.filled i p v).stmt.execBuffer.slice q n = f.stmt.execBuffer.slice q n := by
  rw [filled_execBuffer, Memory.slice_store_of_disjoint (Or.inl hpos), Memory.slice_store_of_disjoint h]

lemma slice_filled_type (hpos : f.typePos + i * 2 + 2 ≤ f.pos) :
    (f.filled i p v).stmt.execBuffer.slice (f.typePos + i * 2) 2 = packInt2 (typeWord p) := by
  rw [filled_execBuffer, Memory.slice_store_of_disjoint (Or.inl hpos)]
  exact Memory.slice_store _ _ _

lemma slice_filled_value :
    (f.filled i p v).stmt.execBuffer.slice f.pos (wireBytes v).length = wireBytes v := by
  rw [filled_execBuffer, Memory.slice_store]

/-- **What the loop leaves in the buffer**: the types from `typePos` on, the values from `pos` on, and between and
before them what was there. -/
theorem fillParams_content (h : List.Forall₂ Bound ps vs) (hk : ∀ v ∈ vs, Kept v)
    (hf : fillParams env f i ps = .ok f') (hpos : f.typePos + (i + ps.length) * 2 ≤ f.pos) :
    (∀ q n, q + n ≤ f.typePos + i * 2 → f'.stmt.execBuffer.slice q n = f.stmt.execBuffer.slice q n) ∧
    f'.stmt.execBuffer.slice (f.typePos + i * 2) (2 * ps.length) = typeTable ps ∧
    (∀ q n, f.typePos + (i + ps.length) * 2 ≤ q → q + n ≤ f.pos →
      f'.stmt.execBuffer.slice q n = f.stmt.execBuffer.slice q n) ∧
    f'.stmt.execBuffer.slice f.pos (wireValues vs).length = wireValues vs := by
  induction h generalizing f i with
  | nil =>
    cases hf
    exact ⟨fun _ _ _ => rfl, rfl, fun _ _ _ _ => rfl, rfl⟩
  | @cons p v ps vs hp _ ih =>
    obtain ⟨⟨hv, -⟩, hk⟩ := List.forall_mem_cons.mp hk
    rw [List.length_cons] at hpos ⊢
    obtain ⟨hbefore, htypes, hbetween, hvalues⟩ := ih hk (fillParams_cons_of_bound hp hv hf)
      (show f.typePos + (i + 1 + ps.length) * 2 ≤ f.pos + (wireBytes v).length by omega)
    change ∀ q n, q + n ≤ f.typePos + (i + 1) * 2 → _ at hbefore
    change ∀ q n, f.typePos + (i + 1 + ps.length) * 2 ≤ q → q + n ≤ f.pos + (wireBytes v).length → _ at hbetween
    refine ⟨fun q n hq => ?_, ?_, fun q n hq hn => ?_, ?_⟩
    · rw [hbefore q n (by omega), slice_filled (Or.inl hq) (by omega)]
    · have htype := hbefore (f.typePos + i * 2) 2 (by omega)
      rw [slice_filled_type (by omega)] at htype
      have hsplit : 2 * (ps.length + 1) = 2 + 2 * ps.length := by omega
      have hnext : f.typePos + i * 2 + 2 = (f.filled i p v).typePos + (i + 1) * 2 :=
        show f.typePos + i * 2 + 2 = f.typePos + (i + 1) * 2 by omega
      rw [hsplit, Memory.slice_add, htype, hnext, htypes, typeTable_cons]
    · rw [hbetween q n (by omega) (by omega), slice_filled (Or.inr (by omega)) hn]
    · have hvalue := hbetween f.pos (wireBytes v).length (by omega) (by omega)
      rw [slice_filled_value] at hvalue
      have hnext : f.pos + (wireBytes v).length = (f.filled i p v).pos := rfl
      rw [wireValues_cons, List.length_append, Memory.slice_add, hvalue, hnext, hvalues]

end Fill

/-! ### Reading all parameters back -/

section Reading

variable {ps : List StmtParam} {vs : List BinaryValue}

/-- The types a server reads out of the type table. -/
def readTypes (ps : List StmtParam) (vs : List BinaryValue) : List (UInt8 × Bool) :=
  List.zipWith (fun p v => (typeCode v, p.isUnsigned)) ps vs

lemma packInt2_toNat (c : UInt8) : packInt2 c.toNat = [c, 0] := by
  have hc := c.toNat_lt
  have hlow : c.toNat / 2 ^ (8 * 0) % 256 = c.toNat := by omega
  have hhigh : c.toNat / 2 ^ (8 * 1) % 256 = 0 := by omega
  rw [packInt2, byteAt, byteAt, hlow, hhigh, UInt8.ofNat_toNat]
  rfl

lemma packInt2_unsigned (c : UInt8) : packInt2 (c.toNat ||| stmtParamUnsignedBit) = [c, 0x80] := by
  have hc := c.toNat_lt
  have hc' : c.toNat < 2 ^ 15 := by omega
  have hor : c.toNat ||| stmtParamUnsignedBit = 2 ^ 15 * 1 + c.toNat :=
    (Nat.or_comm _ _).trans (Nat.two_pow_add_eq_or_of_lt hc' 1).symm
  have hlow : (2 ^ 15 * 1 + c.toNat) / 2 ^ (8 * 0) % 256 = c.toNat := by omega
  have hhigh : (2 ^ 15 * 1 + c.toNat) / 2 ^ (8 * 1) % 256 = 0x80 := by omega
  rw [hor, packInt2, byteAt, byteAt, hlow, hhigh, UInt8.ofNat_toNat]
  rfl

lemma Bound.packInt2_typeWord {p : StmtParam} {v : BinaryValue} (h : Bound p v) :
    packInt2 (typeWord p) = [typeCode v, if p.isUnsigned then 0x80 else 0] := by
  have ht : p.type = (typeCode v).toNat := by
    have hb := h.value
    cases v with
    | null => exact hb
    | _ => exact hb.1
  unfold typeWord
  rw [ht]
  cases p.isUnsigned
  · exact packInt2_toNat _
  · exact packInt2_unsigned _

lemma takeTypes_typeTable (h : List.Forall₂ Bound ps vs) (rest : List UInt8) :
    takeTypes ps.length (typeTable ps ++ rest) = some (readTypes ps vs, rest) := by
  induction h with
  | nil => rfl
  | @cons p v ps vs hp _ ih =>
    have hflag : ((if p.isUnsigned then 0x80 else 0 : UInt8) == 0x80) = p.isUnsigned := by
      cases p.isUnsigned <;> rfl
    rw [typeTable_cons, hp.packInt2_typeWord, List.length_cons, List.append_assoc]
    simp only [List.cons_append, List.nil_append, takeTypes, ih, Option.map_some, hflag, readTypes,
      List.zipWith_cons_cons]

lemma takeValues_wireValues (h : List.Forall₂ Bound ps vs) (hk : ∀ v ∈ vs, Kept v) {bitmap : List UInt8}
    (hbitmap : ∀ i, nullBit bitmap i = false) (i : ℕ) :
    takeValues bitmap i (readTypes ps vs) (wireValues vs) = some (vs, []) := by
  induction h generalizing i with
  | nil => rfl
  | @cons p v ps vs hp _ ih =>
    obtain ⟨⟨hv, hl⟩, hk⟩ := List.forall_mem_cons.mp hk
    simp only [readTypes, List.zipWith_cons_cons] at ih ⊢
    rw [takeValues, hbitmap, wireValues_cons, takeValue_wireBytes hp hv hl, Option.bind_some, ih hk]
    simp

/-- Without NULL parameters no bit of the bitmap is set. -/
lemma nullBit_nullBitmap (hps : ∀ p ∈ ps, p.type ≠ columnTypeNull) (i : ℕ) : nullBit (nullBitmap ps) i = false := by
  have hbyte : ∀ b ∈ nullBitmap ps, b = 0 := by
    intro b hb
    obtain ⟨byte, -, rfl⟩ := List.mem_map.mp hb
    have hnone : (List.range 8).filter (fun bit => (ps[byte * 8 + bit]?).any (·.type = columnTypeNull)) = [] := by
      refine List.filter_eq_nil_iff.mpr fun bit _ hnull => ?_
      obtain ⟨p, hp, htype⟩ := (Option.any_eq_true _ _).mp hnull
      exact hps p (List.mem_of_getElem? hp) (of_decide_eq_true htype)
    rw [hnone]
    rfl
  have hzero : (nullBitmap ps).getD (i / 8) 0 = 0 := by
    rw [List.getD_eq_getElem?_getD]
    cases hget : (nullBitmap ps)[i / 8]? with
    | none => rfl
    | some b => exact hbyte b (List.mem_of_getElem? hget)
  unfold nullBit
  rw [hzero]
  exact Nat.zero_testBit _

lemma length_nullBitmap (ps : List StmtParam) : (nullBitmap ps).length = (ps.length + 7) / 8 := by
  simp [nullBitmap]

/-! ### Lengths -/

lemma length_wireBytes_le {p : StmtParam} {v : BinaryValue} (h : Bound p v) :
    (wireBytes v).length ≤ v.size ∧ (LosesTime v → (wireBytes v).length < v.size) := by
  by_cases hl : LosesTime v
  · cases v with
    | time n d hour mi s us =>
      obtain ⟨rfl, rfl, rfl, rfl, hn⟩ := hl
      have hbytes : (wireBytes (.time n 0 hour 0 0 0)).length = 1 := rfl
      have hsize : (BinaryValue.time n 0 hour 0 0 0).size = 9 := by
        rcases hn with hn | hn <;> simp [BinaryValue.size, hn]
      rw [hbytes, hsize]
      omega
    | _ => exact absurd hl id
  · exact ⟨Nat.le_of_eq (length_wireBytes h hl), fun h => absurd h hl⟩

/-- The parameters that get a type. -/
def typed (ps : List StmtParam) : ℕ := (ps.filter (·.type ≠ columnTypeNull)).length

/-- Types and values take no more bytes than a server needs, and as many only if nothing was dropped. -/
lemma length_typed_wireValues (h : List.Forall₂ Bound ps vs) :
    2 * typed ps + (wireValues vs).length ≤ 2 * ps.length + (vs.map BinaryValue.size).sum ∧
    (2 * ps.length + (vs.map BinaryValue.size).sum ≤ 2 * typed ps + (wireValues vs).length → ∀ v ∈ vs, Kept v) := by
  induction h with
  | nil => exact ⟨Nat.le_refl _, fun _ _ hv => absurd hv (List.not_mem_nil)⟩
  | @cons p v ps vs hp _ ih =>
    obtain ⟨hle, hkept⟩ := ih
    obtain ⟨hlen, hlost⟩ := length_wireBytes_le hp
    simp only [wireValues_cons, List.length_append, List.map_cons, List.sum_cons, List.length_cons,
      List.forall_mem_cons]
    by_cases hv : v = .null
    · have htyped : typed (p :: ps) = typed ps := by simp [typed, hp.type_eq_null_iff.mpr hv]
      rw [htyped]
      omega
    · have htyped : typed (p :: ps) = typed ps + 1 := by simp [typed, mt hp.type_eq_null_iff.mp hv]
      rw [htyped]
      refine ⟨by omega, fun hge => ⟨⟨hv, fun hl => ?_⟩, hkept (by omega)⟩⟩
      have := hlost hl
      omega

lemma type_ne_null_of_kept (h : List.Forall₂ Bound ps vs) (hk : ∀ v ∈ vs, Kept v) :
    ∀ p ∈ ps, p.type ≠ columnTypeNull := by
  induction h with
  | nil => exact fun _ hp => absurd hp List.not_mem_nil
  | @cons p v ps vs hp _ ih =>
    obtain ⟨⟨hv, -⟩, hk⟩ := List.forall_mem_cons.mp hk
    exact List.forall_mem_cons.mpr ⟨mt hp.type_eq_null_iff.mp hv, ih hk⟩

lemma typed_of_kept (h : List.Forall₂ Bound ps vs) (hk : ∀ v ∈ vs, Kept v) : typed ps = ps.length := by
  unfold typed
  rw [List.filter_eq_self.mpr fun p hp => decide_eq_true (type_ne_null_of_kept h hk p hp)]

end Reading

/-! ### The round trip -/

section RoundTrip

variable {env : Env} {stmt : Stmt} {params : List StmtParam} {values : List BinaryValue}

/-- A statement as a prepare and the binding calls leave it, with these parameters. -/
structure Stmt.Ready (stmt : Stmt) (params : List StmtParam) : Prop where
  paramData : stmt.paramData.getD [] = params
  paramCount : params.length = stmt.paramCount
  id : stmt.id < 2 ^ 32
  newBind : stmt.newBind = true

/-- A prepare leaves a new statement so. -/
lemma prepareOkStmt_ready (m : Memory UInt8) (p : ℕ) (hmem : env.newArray (unpackInt2 m (p + 6)) sizeofStmtParam) :
    (prepareOkStmt env m p Stmt.fresh).Ready (List.replicate (unpackInt2 m (p + 6)) StmtParam.fresh) where
  paramData := by
    unfold prepareOkStmt
    by_cases hzero : unpackInt2 m (p + 6) = 0
    · simp [hzero, Stmt.fresh]
    · simp [hzero, hmem]
  paramCount := List.length_replicate
  id := unpackInt4_lt m p
  newBind := rfl

/-- Binding a parameter leaves a statement so. -/
lemma Stmt.Ready.set (h : stmt.Ready params) (param : ℕ) (set : StmtParam → StmtParam) :
    { stmt with paramData := some (params.modify param set) }.Ready (params.modify param set) where
  paramData := rfl
  paramCount := (List.length_modify ..).trans h.paramCount
  id := h.id
  newBind := h.newBind

/-- The execution is built, and a server reads back the statement id and the values from all of its payload. -/
def RoundTrips (env : Env) (stmt : Stmt) (values : List BinaryValue) : Prop :=
  ∃ stmt' payload, execPayload env stmt = .ok (stmt', payload) ∧
    decodeExecute values.length payload = some (stmt.id, values)

/-- The values fit into the execution buffer as it grows. -/
def ExecFits (stmt : Stmt) (values : List BinaryValue) : Prop :=
  let head := 10 + (values.length + 7) / 8
  ValuesFit (checkedSize stmt.execBufferLength 2060) head (head + 2 * values.length) values

instance (stmt : Stmt) (values : List BinaryValue) : Decidable (ExecFits stmt values) :=
  decidableValuesFit _ _ _ values

/-- What stands before the types. -/
def execHead (stmt : Stmt) (params : List StmtParam) : List UInt8 :=
  packInt4 stmt.id ++ [0] ++ packInt4 1 ++ nullBitmap params ++ [if stmt.newBind then 1 else 0]

/-- Where the loop over the parameters starts. -/
def execStart (stmt : Stmt) (params : List StmtParam) : Fill :=
  let f := { stmt := stmt, typePos := 0, pos := 0, outside := false : Fill }.push (execHead stmt params)
  { f with typePos := f.pos, pos := f.pos + typed params * 2 }

/-- The statement after the first check of the buffer's size. -/
def Stmt.checked (stmt : Stmt) : Stmt :=
  { stmt with execBufferLength := checkedSize stmt.execBufferLength 2060 }

lemma length_execHead : (execHead stmt params).length = 10 + (params.length + 7) / 8 := by
  simp only [execHead, List.length_append, length_nullBitmap, packInt4, List.length_cons, List.length_nil]
  omega

lemma execStart_pos : (execStart stmt params).pos = 10 + (params.length + 7) / 8 + typed params * 2 := by
  show 0 + (execHead stmt params).length + typed params * 2 = _
  rw [length_execHead, Nat.zero_add]

lemma execStart_typePos : (execStart stmt params).typePos = 10 + (params.length + 7) / 8 := by
  show 0 + (execHead stmt params).length = _
  rw [length_execHead, Nat.zero_add]

/-- The payload is built unless memory runs out or a store leaves the buffer. -/
lemma execPayload_of_bound (hr : stmt.Ready params) (hb : List.Forall₂ Bound params values)
    (hmem : ∀ stmt', execPayload env stmt ≠ .error (.noMemory stmt')) :
    ∃ f, fillParams env (execStart stmt.checked params) 0 params = .ok f ∧
      execPayload env stmt =
        if f.outside ∨ f.stmt.execBufferLength < f.pos then .error .outside
        else .ok (f.stmt, f.stmt.execBuffer.slice 0 f.pos) := by
  unfold execPayload at hmem ⊢
  cases hcheck : stmtCheckBufferSize env stmt 2060 with
  | none =>
    rw [hcheck] at hmem
    exact absurd rfl (hmem stmt)
  | some stmt' =>
    obtain rfl : stmt' = stmt.checked := stmtCheckBufferSize_eq_some hcheck
    have hparams : (stmt.checked.paramData.getD []).take stmt.checked.paramCount = params := by
      show (stmt.paramData.getD []).take stmt.paramCount = params
      rw [hr.paramData, ← hr.paramCount, List.take_length]
    simp only [hcheck, hparams] at hmem ⊢
    have hcount : ¬ params.length ≠ stmt.checked.paramCount := not_not_intro hr.paramCount
    rw [if_neg hcount] at hmem ⊢
    change ∀ stmt', (fillParams env (execStart stmt.checked params) 0 params).bind _ ≠ _ at hmem
    show ∃ f, _ ∧ (fillParams env (execStart stmt.checked params) 0 params).bind _ = _
    rcases fillParams_of_bound hb (execStart stmt.checked params) 0 with ⟨stmt', hstmt'⟩ | ⟨f, hf⟩
    · rw [hstmt'] at hmem
      exact absurd rfl (hmem stmt')
    · rw [hf]
      exact ⟨f, rfl, rfl⟩

lemma ValuesFit.typePos_le {size typePos : ℕ} {vs : List BinaryValue}
    (h : ValuesFit size typePos (typePos + 2 * vs.length) vs) : typePos ≤ size := by
  cases vs with
  | nil => exact h
  | cons v vs => exact Nat.le_of_add_right_le h.1

lemma execStart_outside_iff :
    (execStart stmt params).outside = false ↔ 10 + (params.length + 7) / 8 ≤ stmt.execBufferLength := by
  show (Fill.put ⟨stmt, 0, 0, false⟩ 0 (execHead stmt params)).outside = false ↔ _
  rw [put_outside_iff, length_execHead, Nat.zero_add]
  exact and_iff_right rfl

/-- The loop stays inside the buffer exactly when the values fit. -/
lemma execStart_fits_iff (hb : List.Forall₂ Bound params values) (hk : ∀ v ∈ values, Kept v) :
    (execStart stmt.checked params).outside = false ∧
      ValuesFit (execStart stmt.checked params).stmt.execBufferLength
        ((execStart stmt.checked params).typePos + 0 * 2) (execStart stmt.checked params).pos values ↔
      ExecFits stmt values := by
  have hlen : params.length = values.length := hb.length_eq
  have htypes : typed params * 2 = 2 * values.length := by rw [typed_of_kept hb hk, hlen, Nat.mul_comm]
  rw [execStart_outside_iff, execStart_typePos, execStart_pos, htypes, hlen, Nat.zero_mul, Nat.add_zero]
  exact and_iff_right_of_imp fun hfits => ValuesFit.typePos_le hfits

/-- What the payload is made of when nothing is NULL. -/
lemma slice_execPayload (hb : List.Forall₂ Bound params values) (hk : ∀ v ∈ values, Kept v) {f : Fill}
    (hf : fillParams env (execStart stmt.checked params) 0 params = .ok f) :
    f.stmt.execBuffer.slice 0 f.pos = execHead stmt params ++ (typeTable params ++ wireValues values) := by
  have hstart : (execStart stmt.checked params).pos =
      (execStart stmt.checked params).typePos + 2 * params.length := by
    rw [execStart_pos, execStart_typePos, typed_of_kept hb hk, Nat.mul_comm]
  obtain ⟨hbefore, htypes, -, hvalues⟩ := fillParams_content hb hk hf (by omega)
  have hhead := hbefore 0 (execHead stmt params).length
    (by rw [execStart_typePos, length_execHead]; omega)
  have hstored : (execStart stmt.checked params).stmt.execBuffer.slice 0 (execHead stmt params).length =
      execHead stmt params := by
    show (stmt.execBuffer.store 0 (execHead stmt params)).slice 0 _ = _
    rw [Memory.slice_store]
  have htypePos : (execStart stmt.checked params).typePos = 0 + (execHead stmt params).length := rfl
  rw [Nat.zero_mul, Nat.add_zero] at htypes
  rw [fillParams_pos hb hf, hstart, Nat.add_assoc, htypePos, Nat.zero_add, Memory.slice_add, hhead, hstored,
    Memory.slice_add, ← htypePos, htypes, ← hstart, hvalues]

/-- **The payload of an execution is read back exactly when no parameter is NULL, no time loses its hours and the
values fit into the execution buffer as it grows.** -/
theorem execute_round_trip_iff (hr : stmt.Ready params) (hb : List.Forall₂ Bound params values)
    (hmem : ∀ stmt', execPayload env stmt ≠ .error (.noMemory stmt')) :
    RoundTrips env stmt values ↔ (∀ v ∈ values, v ≠ .null ∧ ¬ LosesTime v) ∧ ExecFits stmt values := by
  obtain ⟨f, hf, hexec⟩ := execPayload_of_bound hr hb hmem
  have hlen : params.length = values.length := hb.length_eq
  constructor
  · rintro ⟨stmt', payload, hok, hread⟩
    rw [hexec] at hok
    split at hok
    · cases hok
    · next hinside =>
      cases hok
      have hsize := size_decodeExecute hread
      rw [Memory.length_slice, fillParams_pos hb hf, execStart_pos, ← hlen] at hsize
      have hk : ∀ v ∈ values, Kept v := (length_typed_wireValues hb).2 (by dsimp only at hsize; omega)
      refine ⟨hk, (execStart_fits_iff hb hk).mp ((fillParams_inside_iff hb hk hf).mp ?_)⟩
      rw [not_or, Bool.not_eq_true, Nat.not_lt] at hinside
      exact hinside
  · rintro ⟨hk, hfits⟩
    have hinside := (fillParams_inside_iff hb hk hf).mpr ((execStart_fits_iff hb hk).mpr hfits)
    refine ⟨f.stmt, _, hexec.trans (if_neg ?_), ?_⟩
    · rw [not_or, Bool.not_eq_true, Nat.not_lt]
      exact hinside
    · have hid : (packInt4 stmt.id).length = 4 := rfl
      have hfixed : ([0] ++ packInt4 1).length = 5 := rfl
      have hbitmap : (nullBitmap params).length = (values.length + 7) / 8 := by rw [length_nullBitmap, hlen]
      have htypes := takeTypes_typeTable hb (wireValues values)
      rw [hlen] at htypes
      have hvalues := takeValues_wireValues hb hk (nullBit_nullBitmap (type_ne_null_of_kept hb hk)) 0
      have hread := decodeExecute_append hid hfixed hbitmap htypes hvalues
      rw [littleEndian_packInt4 hr.id] at hread
      rw [slice_execPayload hb hk hf, execHead, hr.newBind, if_pos rfl, ← hread]
      simp only [List.append_assoc]

end RoundTrip

/-- Statement 1 with these parameters. -/
def stmtWith (params : List StmtParam) : Stmt :=
  { Stmt.fresh with id := 1, paramCount := params.length, paramData := some params, state := .prepared }

/-- A parameter bound to the integer 7. -/
def boundSeven : StmtParam := setParam 0x03 0 false (.int 7) StmtParam.fresh

lemma boundSeven_bound : Bound boundSeven (.long false 7) := bound_setInt rfl false (by decide)

lemma fresh_bound : Bound StmtParam.fresh .null := ⟨rfl, rfl⟩

lemma stmtWith_ready (params : List StmtParam) : (stmtWith params).Ready params :=
  ⟨rfl, rfl, show 1 < 2 ^ 32 by decide, rfl⟩

lemma ne_noMemory_of_isSome {env : Env} {stmt : Stmt} (h : (execPayload env stmt).toOption.isSome) (stmt' : Stmt) :
    execPayload env stmt ≠ .error (.noMemory stmt') := by
  intro he
  rw [he] at h
  exact nomatch h

/-- What a server reads out of the payload that is built. -/
def readBack (env : Env) (stmt : Stmt) (n : ℕ) : Option (ℕ × List BinaryValue) :=
  match execPayload env stmt with
  | .ok (_, payload) => decodeExecute n payload
  | .error _ => none

/-- Two integers are read back. -/
theorem execute_round_trip_two : RoundTrips .calm (stmtWith [boundSeven, boundSeven]) [.long false 7, .long false 7] :=
  (execute_round_trip_iff (stmtWith_ready _) (.cons boundSeven_bound (.cons boundSeven_bound .nil))
    (ne_noMemory_of_isSome (by decide))).mpr ⟨by simp [LosesTime], by decide⟩

/-- A NULL before an integer: the type of the integer lands where the values start, and no server reads the payload. -/
theorem execute_null_first : ¬ ∀ (env : Env) (stmt : Stmt) (params : List StmtParam) (values : List BinaryValue),
    stmt.Ready params → List.Forall₂ Bound params values →
    (∀ stmt', execPayload env stmt ≠ .error (.noMemory stmt')) → RoundTrips env stmt values := by
  intro h
  obtain ⟨stmt', payload, hok, hread⟩ := h .calm (stmtWith [StmtParam.fresh, boundSeven]) _ [.null, .long false 7]
    (stmtWith_ready _) (.cons fresh_bound (.cons boundSeven_bound .nil)) (ne_noMemory_of_isSome (by decide))
  have hnone : readBack .calm (stmtWith [StmtParam.fresh, boundSeven]) 2 = none := by decide
  rw [readBack, hok] at hnone
  exact nomatch hread.symm.trans hnone

end LibAttachSql
