import LibAttachSql.Accessors
import LibAttachSql.Expansion

/-!
# Integers read from a statement row

An integer stands in a binary row in two's complement, in as many bytes as its type has.  Each accessor casts the bytes in
its own way; this module says for which types and values what it answers is the integer.
-/

namespace LibAttachSql

open Lib

/-! ### Integers in a row -/

/-- The integer types of a column. -/
inductive IntegerType where
  | tiny | short | year | int24 | long | longlong
  deriving DecidableEq

namespace IntegerType

/-- The code of the type. -/
def code : IntegerType → ℕ
  | .tiny => 0x01
  | .short => 0x02
  | .year => 0x0d
  | .int24 => 0x09
  | .long => 0x03
  | .longlong => 0x08

/-- The bits of a value of the type. -/
def bits : IntegerType → ℕ
  | .tiny => 8
  | .short | .year => 16
  | .int24 => 24
  | .long => 32
  | .longlong => 64

/-- The values of the type. -/
def Range (t : IntegerType) (isUnsigned : Bool) (v : ℤ) : Prop :=
  if isUnsigned then 0 ≤ v ∧ v < 2 ^ t.bits else -2 ^ (t.bits - 1) ≤ v ∧ v < 2 ^ (t.bits - 1)

instance (t : IntegerType) (isUnsigned : Bool) (v : ℤ) : Decidable (t.Range isUnsigned v) := by
  unfold Range
  infer_instance

/-- The bytes of a value in a row: its two's complement, of 24 bits in the four bytes of 32. -/
def pack (t : IntegerType) (v : ℤ) : List UInt8 :=
  match t with
  | .tiny => [byteAt (v % 2 ^ 8).toNat 0]
  | .short | .year => packInt2 (v % 2 ^ 16).toNat
  | .int24 | .long => packInt4 (v % 2 ^ 32).toNat
  | .longlong => packInt8 (v % 2 ^ 64).toNat

end IntegerType

/-- The column of the row that was taken apart is an integer of the type, with this value. -/
structure Con.HoldsInteger (con : Con) (column : ℕ) (t : IntegerType) (isUnsigned : Bool) (v : ℤ) : Prop where
  cell : ∃ row cell, con.stmtRow = some row ∧ row[column]? = some cell ∧ cell.type = t.code ∧
    con.buf.mem.slice cell.data (t.pack v).length = t.pack v
  inResult : column < con.result.columnCount
  flag : con.isUnsigned column = isUnsigned
  range : t.Range isUnsigned v

/-! ### Accessors -/

/-- The accessors for a value. -/
inductive Accessor where
  | int | intUnsigned | bigint | bigintUnsigned | double | char
  deriving DecidableEq

namespace Accessor

/-- A call of the accessor; `tmp` is what `stmt_tmp_buffer` held before. -/
def call (a : Accessor) (env : Env) (con : Con) (tmp : Memory UInt8) (column : ℕ) (error : ErrorPtr) :
    Con × ErrorPtr × Value :=
  match a with
  | .int => statementGetInt env con column error
  | .intUnsigned => statementGetIntUnsigned env con column error
  | .bigint => statementGetBigint env con column error
  | .bigintUnsigned => statementGetBigintUnsigned env con column error
  | .double => statementGetDouble env con column error
  | .char => statementGetText env con tmp column error

/-- The integers that the result can be. -/
def Represents (a : Accessor) (v : ℤ) : Prop :=
  match a with
  | .int => -2 ^ 31 ≤ v ∧ v < 2 ^ 31
  | .intUnsigned => 0 ≤ v ∧ v < 2 ^ 32
  | .bigint => -2 ^ 63 ≤ v ∧ v < 2 ^ 63
  | .bigintUnsigned => 0 ≤ v ∧ v < 2 ^ 64
  | .double => -2 ^ 53 ≤ v ∧ v ≤ 2 ^ 53
  | .char => True

/-- The answer is the integer: as it is, as the number of a `double`, or in decimals. -/
def Answers : Accessor → Value → ℤ → Prop
  | .double, .double bytes, v => (Floating.ofWord64 (littleEndian bytes)).Holds v
  | .char, .chars (some text), v => text = decimal v
  | .int, .int x, v | .intUnsigned, .int x, v | .bigint, .int x, v | .bigintUnsigned, .int x, v => x = v
  | _, _, _ => False

/-- When the casts of the accessor keep a value.  The signed accessors read a TINY, a SHORT, a YEAR and a LONG as signed,
`double` and `char` all but a TINY as unsigned, and every accessor the 24 bits of an INT24 as unsigned. -/
def Keeps (a : Accessor) (t : IntegerType) (isUnsigned : Bool) (v : ℤ) : Prop :=
  match a, t with
  | .int, .tiny | .bigint, .tiny | .double, .tiny => v < 2 ^ 7
  | .char, .tiny => isUnsigned = true → v < 2 ^ 7
  | .int, .short | .int, .year | .bigint, .short | .bigint, .year => v < 2 ^ 15
  | .bigint, .long => v < 2 ^ 31
  | .int, .int24 | .bigint, .int24 | .double, _ | .char, .short | .char, .year | .char, .int24 => 0 ≤ v
  | _, _ => True

end Accessor

/-! ### The bytes of a column -/

section Bytes

variable {m : Memory UInt8} {p : ℕ} {v : ℤ}

lemma unpackInt2_short (h : m.slice p 2 = packInt2 (v % 2 ^ 16).toNat) : (unpackInt2 m p : ℤ) = v % 2 ^ 16 := by
  rw [unpackInt2_of_slice h (by omega)]
  omega

lemma unpackInt4_long (h : m.slice p 4 = packInt4 (v % 2 ^ 32).toNat) : (unpackInt4 m p : ℤ) = v % 2 ^ 32 := by
  rw [unpackInt4_of_slice h (by omega)]
  omega

lemma unpackInt8_longlong (h : m.slice p 8 = packInt8 (v % 2 ^ 64).toNat) : (unpackInt8 m p : ℤ) = v % 2 ^ 64 := by
  rw [unpackInt8_of_slice h (by omega)]
  omega

/-- Three of the four bytes of an INT24 are read. -/
lemma unpackInt3_int24 (h : m.slice p 4 = packInt4 (v % 2 ^ 32).toNat) : (unpackInt3 m p : ℤ) = v % 2 ^ 24 := by
  have hlong := unpackInt4_long h
  have hlow : unpackInt4 m p % 2 ^ 24 = unpackInt3 m p := by
    have h₀ := (m p).toNat_lt
    have h₁ := (m (p + 1)).toNat_lt
    have h₂ := (m (p + 2)).toNat_lt
    unfold unpackInt4 unpackInt3
    omega
  omega

end Bytes

/-! ### What is answered -/

section Calls

variable {env : Env} {con : Con} {tmp : Memory UInt8} {column : ℕ} {t : IntegerType} {isUnsigned : Bool} {v : ℤ}
  {error : ErrorPtr}

/-- An accessor converts the cell of its column. -/
lemma statementGetAs_cell {row : List StmtCell} {cell : StmtCell} (hrow : con.stmtRow = some row)
    (hcell : row[column]? = some cell) (hcolumn : column < con.result.columnCount) (zero : Value)
    (convert : Con → StmtCell → Option Value) {value : Value}
    (hvalue : convert { con with own := con.own.readStmtRow } cell = some value) :
    (statementGetAs env con column zero convert error).2.2 = value := by
  have hget : statementGet env con column error = ({ con with own := con.own.readStmtRow }, error, some cell) := by
    unfold statementGet
    split
    · next hnone => cases hrow.symm.trans hnone
    · next row' hrow' =>
      cases hrow.symm.trans hrow'
      rw [if_neg (Nat.not_le.mpr hcolumn), hcell]
  unfold statementGetAs
  rw [hget]
  dsimp only
  rw [hvalue]

/-- What an accessor for integers makes of an integer. -/
def Casts.read (casts : Casts) (t : IntegerType) (v : ℤ) : ℤ :=
  match t with
  | .tiny => casts.tiny (byteAt (v % 2 ^ 8).toNat 0)
  | .short | .year => casts.short (v % 2 ^ 16).toNat
  | .int24 => casts.int24 (v % 2 ^ 24).toNat
  | .long => casts.long (v % 2 ^ 32).toNat
  | .longlong => casts.longlong (v % 2 ^ 64).toNat

lemma toInteger_integer (h : con.HoldsInteger column t isUnsigned v) (casts : Casts) (zero : Value) :
    (statementGetAs env con column zero (toInteger casts) error).2.2 = .int (casts.read t v) := by
  obtain ⟨row, cell, hrow, hcell, htype, hbytes⟩ := h.cell
  refine statementGetAs_cell hrow hcell h.inResult _ _ ?_
  unfold toInteger
  rw [htype]
  cases t with
  | tiny =>
    have hbyte : con.buf.mem cell.data = byteAt (v % 2 ^ 8).toNat 0 := (List.cons.inj hbytes).1
    exact congrArg (fun b => some (Value.int (casts.tiny b))) hbyte
  | short =>
    have hread : unpackInt2 con.buf.mem cell.data = (v % 2 ^ 16).toNat := unpackInt2_of_slice hbytes (by omega)
    exact congrArg (fun n => some (Value.int (casts.short n))) hread
  | year =>
    have hread : unpackInt2 con.buf.mem cell.data = (v % 2 ^ 16).toNat := unpackInt2_of_slice hbytes (by omega)
    exact congrArg (fun n => some (Value.int (casts.short n))) hread
  | int24 =>
    have hread : unpackInt3 con.buf.mem cell.data = (v % 2 ^ 24).toNat := by
      have hint := unpackInt3_int24 hbytes
      omega
    exact congrArg (fun n => some (Value.int (casts.int24 n))) hread
  | long =>
    have hread : unpackInt4 con.buf.mem cell.data = (v % 2 ^ 32).toNat := unpackInt4_of_slice hbytes (by omega)
    exact congrArg (fun n => some (Value.int (casts.long n))) hread
  | longlong =>
    have hread : unpackInt8 con.buf.mem cell.data = (v % 2 ^ 64).toNat := unpackInt8_of_slice hbytes (by omega)
    exact congrArg (fun n => some (Value.int (casts.longlong n))) hread

/-! ### Integers -/

section Casts

variable (hv : t.Range isUnsigned v)

include hv

lemma read_intCasts (hr : Accessor.int.Represents v) :
    intCasts.read t v = v ↔ Accessor.int.Keeps t isUnsigned v := by
  obtain ⟨hlow, hhigh⟩ := hr
  unfold IntegerType.Range at hv
  cases t <;> cases isUnsigned <;>
    simp only [IntegerType.bits, Bool.false_eq_true, if_true, if_false, Casts.read, intCasts, signed, signedChar,
      toNat_byteAt, Int.bmod_def, Accessor.Keeps, iff_true] at hv ⊢ <;> omega

lemma read_intUnsignedCasts (hr : Accessor.intUnsigned.Represents v) :
    intUnsignedCasts.read t v = v ↔ Accessor.intUnsigned.Keeps t isUnsigned v := by
  obtain ⟨hlow, hhigh⟩ := hr
  unfold IntegerType.Range at hv
  cases t <;> cases isUnsigned <;>
    simp only [IntegerType.bits, Bool.false_eq_true, if_true, if_false, Casts.read, intUnsignedCasts, unsigned,
      toNat_byteAt, Accessor.Keeps, iff_true] at hv ⊢ <;> omega

lemma read_bigintCasts (hr : Accessor.bigint.Represents v) :
    bigintCasts.read t v = v ↔ Accessor.bigint.Keeps t isUnsigned v := by
  obtain ⟨hlow, hhigh⟩ := hr
  unfold IntegerType.Range at hv
  cases t <;> cases isUnsigned <;>
    simp only [IntegerType.bits, Bool.false_eq_true, if_true, if_false, Casts.read, bigintCasts, signed, signedChar,
      toNat_byteAt, Int.bmod_def, Accessor.Keeps, iff_true] at hv ⊢ <;> omega

lemma read_bigintUnsignedCasts (hr : Accessor.bigintUnsigned.Represents v) :
    bigintUnsignedCasts.read t v = v ↔ Accessor.bigintUnsigned.Keeps t isUnsigned v := by
  obtain ⟨hlow, hhigh⟩ := hr
  unfold IntegerType.Range at hv
  cases t <;> cases isUnsigned <;>
    simp only [IntegerType.bits, Bool.false_eq_true, if_true, if_false, Casts.read, bigintUnsignedCasts, unsigned,
      toNat_byteAt, Accessor.Keeps, iff_true] at hv ⊢ <;> omega

end Casts

/-! ### Doubles -/

/-- The integer that `attachsql_statement_get_double` casts. -/
def doubleRead (t : IntegerType) (v : ℤ) : ℤ :=
  match t with
  | .tiny => signedChar (byteAt (v % 2 ^ 8).toNat 0)
  | .short | .year => v % 2 ^ 16
  | .int24 => v % 2 ^ 24
  | .long => v % 2 ^ 32
  | .longlong => v % 2 ^ 64

lemma toDouble_integer (h : con.HoldsInteger column t isUnsigned v) :
    (statementGetDouble env con column error).2.2 = double (Floating.intWord64 (doubleRead t v)) := by
  obtain ⟨row, cell, hrow, hcell, htype, hbytes⟩ := h.cell
  refine statementGetAs_cell hrow hcell h.inResult _ _ ?_
  unfold toDouble
  rw [htype]
  have hcast (n : ℕ) (x : ℤ) (hread : (n : ℤ) = x) :
      some (double (Floating.intWord64 n)) = some (double (Floating.intWord64 x)) := by rw [hread]
  cases t with
  | tiny =>
    have hbyte : con.buf.mem cell.data = byteAt (v % 2 ^ 8).toNat 0 := (List.cons.inj hbytes).1
    exact congrArg (fun b => some (double (Floating.intWord64 (signedChar b)))) hbyte
  | short => exact hcast _ _ (unpackInt2_short hbytes)
  | year => exact hcast _ _ (unpackInt2_short hbytes)
  | int24 => exact hcast _ _ (unpackInt3_int24 hbytes)
  | long => exact hcast _ _ (unpackInt4_long hbytes)
  | longlong => exact hcast _ _ (unpackInt8_longlong hbytes)

/-- The cast integer is the value, or has another sign. -/
lemma doubleRead_cases (hv : t.Range isUnsigned v) (hr : Accessor.double.Represents v) :
    (doubleRead t v = v ∧ Accessor.double.Keeps t isUnsigned v) ∨
      ¬ Accessor.double.Keeps t isUnsigned v ∧ (doubleRead t v).natAbs ≤ 2 ^ 64 ∧
        (0 ≤ doubleRead t v ∧ v < 0 ∨ doubleRead t v < 0 ∧ 0 < v) := by
  obtain ⟨hlow, hhigh⟩ := hr
  unfold IntegerType.Range at hv
  cases t <;> cases isUnsigned <;>
    simp only [IntegerType.bits, Bool.false_eq_true, if_true, if_false, doubleRead, signedChar, toNat_byteAt,
      Accessor.Keeps] at hv ⊢ <;> omega

/-- **Which integers are answered as a `double`.** -/
lemma double_answers_iff (h : con.HoldsInteger column t isUnsigned v) (hr : Accessor.double.Represents v) :
    Accessor.double.Answers (statementGetDouble env con column error).2.2 v ↔
      Accessor.double.Keeps t isUnsigned v := by
  rw [toDouble_integer h]
  show (Floating.ofWord64 (littleEndian (packInt8 (Floating.intWord64 (doubleRead t v))))).Holds v ↔ _
  rcases doubleRead_cases h.range hr with ⟨hread, hkeeps⟩ | ⟨hkeeps, hbound, hsign⟩
  · obtain ⟨hlow, hhigh⟩ := hr
    rw [hread, littleEndian_packInt8 (Floating.intWord64_lt (by omega))]
    exact iff_of_true (Floating.holds_intWord64 (by omega)) hkeeps
  · rw [littleEndian_packInt8 (Floating.intWord64_lt hbound)]
    refine iff_of_false (fun hholds => ?_) hkeeps
    rcases hsign with ⟨hpos, hneg⟩ | ⟨hneg, hpos⟩
    · have hnonneg := Floating.nonneg_of_holds hpos hbound hholds
      have hv : (0 : ℤ) ≤ v := by exact_mod_cast hnonneg
      omega
    · have hnonpos := Floating.nonpos_of_holds hneg hbound hholds
      have hv : v ≤ (0 : ℤ) := by exact_mod_cast hnonpos
      omega

/-! ### Text -/

/-- The integer that `attachsql_statement_get_char` prints. -/
def charRead (t : IntegerType) (isUnsigned : Bool) (v : ℤ) : ℤ :=
  let convert (w : ℕ) (x : ℤ) : ℤ := if isUnsigned then unsigned w x else signed w x
  match t with
  | .tiny => convert 32 (signedChar (byteAt (v % 2 ^ 8).toNat 0))
  | .short | .year => convert 32 (v % 2 ^ 16)
  | .int24 => convert 32 (v % 2 ^ 24)
  | .long => convert 32 (v % 2 ^ 32)
  | .longlong => convert 64 (v % 2 ^ 64)

lemma charRead_natAbs_lt (hv : t.Range isUnsigned v) : (charRead t isUnsigned v).natAbs < 10 ^ 20 := by
  unfold IntegerType.Range at hv
  cases t <;> cases isUnsigned <;>
    simp only [IntegerType.bits, Bool.false_eq_true, if_true, if_false, charRead, unsigned, signed, signedChar,
      toNat_byteAt, Int.bmod_def] at hv ⊢ <;> omega

lemma charRead_eq_iff (hv : t.Range isUnsigned v) :
    charRead t isUnsigned v = v ↔ Accessor.char.Keeps t isUnsigned v := by
  unfold IntegerType.Range at hv
  cases t <;> cases isUnsigned <;>
    simp only [IntegerType.bits, Bool.false_eq_true, if_true, if_false, charRead, unsigned, signed, signedChar,
      toNat_byteAt, Int.bmod_def, Accessor.Keeps, iff_true, true_implies, false_implies] at hv ⊢ <;> omega

lemma decimal_inj {x y : ℤ} : decimal x = decimal y ↔ x = y := by
  constructor
  · intro h
    rw [← decimalValue_decimal x, h, decimalValue_decimal]
  · exact congrArg decimal

lemma toChars_integer (h : con.HoldsInteger column t isUnsigned v) :
    (statementGetText env con tmp column error).2.2 = .chars (some (decimal (charRead t isUnsigned v))) := by
  obtain ⟨row, cell, hrow, hcell, htype, hbytes⟩ := h.cell
  have hflag : ({ con with own := con.own.readStmtRow }).isUnsigned column = isUnsigned := h.flag
  -- what is printed is in the buffer
  have hshort := length_decimal_le (k := 20) (by decide) (charRead_natAbs_lt h.range)
  have htext := TmpBuffer.snprintf_start tmp (hshort.trans_lt (by decide : 20 + 1 < stmtCharBufferSize))
  have hprint (x : List UInt8) (hx : x = decimal (charRead t isUnsigned v)) :
      some (Value.chars (some (((TmpBuffer.start tmp).snprintf x).mem.slice 0 ((TmpBuffer.start tmp).snprintf x).length))) =
        some (.chars (some (decimal (charRead t isUnsigned v)))) := by
    rw [hx, htext]
  have hcast (w : ℕ) {x y : ℤ} (hxy : x = y) :
      printInteger w isUnsigned x = decimal (if isUnsigned then unsigned w y else signed w y) := by
    rw [hxy]
    rfl
  refine statementGetAs_cell hrow hcell h.inResult _ _ ?_
  unfold toChars charAnswer
  rw [htype, hflag]
  cases t with
  | tiny =>
    have hbyte : con.buf.mem cell.data = byteAt (v % 2 ^ 8).toNat 0 := (List.cons.inj hbytes).1
    exact hprint _ (hcast 32 (congrArg signedChar hbyte))
  | short => exact hprint _ (hcast 32 (unpackInt2_short hbytes))
  | year => exact hprint _ (hcast 32 (unpackInt2_short hbytes))
  | int24 => exact hprint _ (hcast 32 (unpackInt3_int24 hbytes))
  | long => exact hprint _ (hcast 32 (unpackInt4_long hbytes))
  | longlong => exact hprint _ (hcast 64 (unpackInt8_longlong hbytes))

end Calls

/-- **Which integers an accessor answers**: exactly those that its casts keep. -/
theorem integer_accessor {con : Con} {column : ℕ} {t : IntegerType} {isUnsigned : Bool} {v : ℤ}
    (h : con.HoldsInteger column t isUnsigned v) (a : Accessor) (hr : a.Represents v) (env : Env) (tmp : Memory UInt8)
    (error : ErrorPtr) : a.Answers (a.call env con tmp column error).2.2 v ↔ a.Keeps t isUnsigned v := by
  cases a with
  | int =>
    show Accessor.int.Answers (statementGetInt env con column error).2.2 v ↔ _
    unfold statementGetInt
    rw [toInteger_integer h]
    exact read_intCasts h.range hr
  | intUnsigned =>
    show Accessor.intUnsigned.Answers (statementGetIntUnsigned env con column error).2.2 v ↔ _
    unfold statementGetIntUnsigned
    rw [toInteger_integer h]
    exact read_intUnsignedCasts h.range hr
  | bigint =>
    show Accessor.bigint.Answers (statementGetBigint env con column error).2.2 v ↔ _
    unfold statementGetBigint
    rw [toInteger_integer h]
    exact read_bigintCasts h.range hr
  | bigintUnsigned =>
    show Accessor.bigintUnsigned.Answers (statementGetBigintUnsigned env con column error).2.2 v ↔ _
    unfold statementGetBigintUnsigned
    rw [toInteger_integer h]
    exact read_bigintUnsignedCasts h.range hr
  | double => exact double_answers_iff h hr
  | char =>
    show Accessor.char.Answers (statementGetText env con tmp column error).2.2 v ↔ _
    rw [toChars_integer h]
    exact decimal_inj.trans (charRead_eq_iff h.range)

/-- A connection whose row has one column, an integer. -/
def integerArrived (t : IntegerType) (isUnsigned : Bool) (v : ℤ) : Con :=
  { Con.calm 0 with
    status := .idle
    commandStatus := .rowInBuffer
    result.columnCount := 1
    result.columns := some [{ (default : Column) with type := UInt8.ofNat t.code, flags := if isUnsigned then 2 ^ 5 else 0 }]
    stmtRow := some [⟨4096, (t.pack v).length, t.code⟩]
    readBuffer := some
      { buffer := 4096, bufferSize := defaultBufferSize, bufferUsed := (t.pack v).length,
        bufferWritePtr := 4096 + (t.pack v).length, bufferReadPtr := 4096,
        packetEndPtr := some (4096 + (t.pack v).length), mem := Memory.store (fun _ => 0) 4096 (t.pack v) } }

lemma integerArrived_holds {t : IntegerType} {isUnsigned : Bool} {v : ℤ} (hv : t.Range isUnsigned v) :
    (integerArrived t isUnsigned v).HoldsInteger 0 t isUnsigned v where
  cell := ⟨_, _, rfl, rfl, rfl, Memory.slice_store _ _ _⟩
  inResult := Nat.one_pos
  flag := by
    show Nat.testBit (if isUnsigned then 2 ^ 5 else 0) 5 = isUnsigned
    cases isUnsigned <;> decide
  range := hv

/-- An INT as a `double`. -/
theorem integer_accessor_long : (integerArrived .long false 123456).HoldsInteger 0 .long false 123456 ∧
    (Accessor.double.Answers (Accessor.double.call .calm (integerArrived .long false 123456) (fun _ => 0) 0 (.at none)).2.2
      123456 ↔ Accessor.double.Keeps .long false 123456) :=
  ⟨integerArrived_holds (by decide),
    integer_accessor (integerArrived_holds (by decide)) .double (by unfold Accessor.Represents; decide) _ _ _⟩

/-- A TINY UNSIGNED of 200 is answered as -56, a SMALLINT of -1 as 65535. -/
theorem integer_accessor_fails :
    ¬ Accessor.int.Answers (Accessor.int.call .calm (integerArrived .tiny true 200) (fun _ => 0) 0 (.at none)).2.2 200 ∧
      ¬ Accessor.double.Answers
        (Accessor.double.call .calm (integerArrived .short false (-1)) (fun _ => 0) 0 (.at none)).2.2 (-1) ∧
      ¬ Accessor.char.Answers
        (Accessor.char.call .calm (integerArrived .short false (-1)) (fun _ => 0) 0 (.at none)).2.2 (-1) := by
  refine ⟨fun h => ?_, fun h => ?_, fun h => ?_⟩
  · change Accessor.int.Answers (statementGetInt .calm (integerArrived .tiny true 200) 0 (.at none)).2.2 200 at h
    unfold statementGetInt at h
    rw [toInteger_integer (integerArrived_holds (by decide))] at h
    exact absurd h (by unfold Accessor.Answers; decide)
  · have hkeeps := (double_answers_iff (integerArrived_holds (by decide)) (by unfold Accessor.Represents; decide)).mp h
    exact absurd hkeeps (by unfold Accessor.Keeps; decide)
  · change Accessor.char.Answers
      (statementGetText .calm (integerArrived .short false (-1)) (fun _ => 0) 0 (.at none)).2.2 (-1) at h
    rw [toChars_integer (integerArrived_holds (by decide))] at h
    exact absurd (decimal_inj.mp h) (by decide)

end LibAttachSql
