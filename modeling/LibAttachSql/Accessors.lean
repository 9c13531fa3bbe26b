import LibAttachSql.Codecs
import LibAttachSql.Lib.Floating
import LibAttachSql.NullError
import LibAttachSql.Query

/-!
# The values of a statement row

The accessors of `statement_getset.cc`: a column of the row that `attachsql_statement_row_get` took apart, as an integer, as
a `double` or as text.  Numbers and dates are printed into a buffer of the connection, `stmt_tmp_buffer`, by up to three
calls of `snprintf`.
-/

namespace LibAttachSql

open Lib

/-! ### Integers -/

/-- A value converted to a signed type of `w` bits. -/
def signed (w : ℕ) (x : ℤ) : ℤ := x.bmod (2 ^ w)

/-- A value converted to an unsigned type of `w` bits. -/
def unsigned (w : ℕ) (x : ℤ) : ℤ := x % 2 ^ w

/-- What an accessor for integers makes of the bytes of a column, by how they are stored. -/
structure Casts where
  tiny : UInt8 → ℤ
  short : ℕ → ℤ
  long : ℕ → ℤ
  longlong : ℕ → ℤ
  floating : Floating → ℤ
  int24 : ℕ → ℤ

/-- The types that the accessors for numbers refuse. -/
def isNoNumber (type : ℕ) : Bool :=
  type ∈ [0x00, 0x07, 0x0a, 0x0b, 0x0c, 0x0f, 0x10, 0xf6, 0xf7, 0xf8, 0xf9, 0xfa, 0xfb, 0xfc, 0xfd, 0xfe, 0xff, 0xffff]

/-- The `switch` of the four accessors for integers.  A type that is not listed is answered with 0. -/
def toInteger (casts : Casts) (con : Con) (cell : StmtCell) : Option Value :=
  let m := con.buf.mem
  let data := cell.data
  if cell.type = 0x01 then some (.int (casts.tiny (m data)))
  else if cell.type = 0x0d ∨ cell.type = 0x02 then some (.int (casts.short (unpackInt2 m data)))
  else if cell.type = 0x03 then some (.int (casts.long (unpackInt4 m data)))
  else if cell.type = 0x08 then some (.int (casts.longlong (unpackInt8 m data)))
  else if cell.type = 0x04 then some (.int (casts.floating (.ofWord32 (unpackInt4 m data))))
  else if cell.type = 0x05 then some (.int (casts.floating (.ofWord64 (unpackInt8 m data))))
  else if cell.type = columnTypeNull then some (.int 0)
  else if cell.type = 0x09 then some (.int (casts.int24 (unpackInt3 m data)))
  else if isNoNumber cell.type then none
  else some (.int 0)

/-- The casts of `attachsql_statement_get_int`.  A number that does not fit is wrapped here; the cast of one that is not an
integer is undefined then. -/
def intCasts : Casts where
  tiny c := signedChar c
  short n := signed 16 n
  long n := signed 32 n
  longlong n := signed 32 n
  floating x := signed 32 x.truncate
  int24 n := signed 32 n

/-- The casts of `attachsql_statement_get_int_unsigned`. -/
def intUnsignedCasts : Casts where
  tiny c := c.toNat
  short n := unsigned 16 n
  long n := unsigned 32 n
  longlong n := unsigned 32 n
  floating x := unsigned 32 x.truncate
  int24 n := unsigned 32 n

/-- The casts of `attachsql_statement_get_bigint`. -/
def bigintCasts : Casts where
  tiny c := signedChar c
  short n := signed 16 n
  long n := signed 32 n
  longlong n := signed 64 n
  floating x := signed 64 x.truncate
  int24 n := signed 32 n

/-- The casts of `attachsql_statement_get_bigint_unsigned`: a `float` or `double` is cast to 32 bits. -/
def bigintUnsignedCasts : Casts where
  tiny c := c.toNat
  short n := unsigned 16 n
  long n := unsigned 32 n
  longlong n := unsigned 64 n
  floating x := unsigned 32 x.truncate
  int24 n := unsigned 32 n

/-- `attachsql_statement_get_int`. -/
def statementGetInt (env : Env) (con : Con) (column : ℕ) (error : ErrorPtr) : Con × ErrorPtr × Value :=
  statementGetAs env con column (.int 0) (toInteger intCasts) error

/-- `attachsql_statement_get_int_unsigned`. -/
def statementGetIntUnsigned (env : Env) (con : Con) (column : ℕ) (error : ErrorPtr) : Con × ErrorPtr × Value :=
  statementGetAs env con column (.int 0) (toInteger intUnsignedCasts) error

/-- `attachsql_statement_get_bigint`. -/
def statementGetBigint (env : Env) (con : Con) (column : ℕ) (error : ErrorPtr) : Con × ErrorPtr × Value :=
  statementGetAs env con column (.int 0) (toInteger bigintCasts) error

/-- `attachsql_statement_get_bigint_unsigned`. -/
def statementGetBigintUnsigned (env : Env) (con : Con) (column : ℕ) (error : ErrorPtr) : Con × ErrorPtr × Value :=
  statementGetAs env con column (.int 0) (toInteger bigintUnsignedCasts) error

/-! ### Doubles -/

/-- A `double` with this word. -/
def double (word : ℕ) : Value := .double (packInt8 word)

/-- The `switch` of `attachsql_statement_get_double`. -/
def toDouble (con : Con) (cell : StmtCell) : Option Value :=
  let m := con.buf.mem
  let data := cell.data
  if cell.type = 0x01 then some (double (Floating.intWord64 (signedChar (m data))))
  else if cell.type = 0x0d ∨ cell.type = 0x02 then some (double (Floating.intWord64 (unpackInt2 m data)))
  else if cell.type = 0x03 then some (double (Floating.intWord64 (unpackInt4 m data)))
  else if cell.type = 0x08 then some (double (Floating.intWord64 (unpackInt8 m data)))
  else if cell.type = 0x04 then some (double (Floating.widen (unpackInt4 m data)))
  else if cell.type = 0x05 then some (double (unpackInt8 m data))
  else if cell.type = columnTypeNull then some (double 0)
  else if cell.type = 0x09 then some (double (Floating.intWord64 (unpackInt3 m data)))
  else if isNoNumber cell.type then none
  else some (double 0)

/-- `attachsql_statement_get_double`. -/
def statementGetDouble (env : Env) (con : Con) (column : ℕ) (error : ErrorPtr) : Con × ErrorPtr × Value :=
  statementGetAs env con column (double 0) toDouble error

/-! ### Text -/

/-- `ATTACHSQL_STMT_CHAR_BUFFER_SIZE`. -/
def stmtCharBufferSize : ℕ := 40

/-- `stmt_tmp_buffer` while it is printed into: its bytes, `*length`, and for each `snprintf` the place it begins at and the
size that is left from there. -/
structure TmpBuffer where
  mem : Memory UInt8
  length : ℕ
  appends : List (ℕ × ℤ)

/-- Nothing printed yet. -/
def TmpBuffer.start (mem : Memory UInt8) : TmpBuffer := { mem := mem, length := 0, appends := [] }

/-- `snprintf` at `*length`, with the size that is left: it stores as much of the text as fits in front of a NUL and answers
the length of all of it. -/
def TmpBuffer.snprintf (t : TmpBuffer) (text : List UInt8) : TmpBuffer :=
  let left : ℤ := stmtCharBufferSize - t.length
  let size := sizeT left
  { mem := if size = 0 then t.mem else t.mem.store t.length (text.take (size - 1) ++ [0])
    length := t.length + text.length
    appends := t.appends ++ [(t.length, left)] }

/-- What `attachsql_statement_get_char` answers: a null pointer without or with an error, bytes of the row, or the buffer. -/
inductive CharAnswer where
  | null
  | cannot
  | data (data length : ℕ)
  | tmp (buffer : TmpBuffer)

/-- `%0` with a width, for a number without a sign. -/
def padded (width n : ℕ) : List UInt8 := List.replicate (width - (decimal n).length) 0x30 ++ decimal n

/-- `%d` or `%u` with a size of `w` bits. -/
def printInteger (w : ℕ) (isUnsigned : Bool) (x : ℤ) : List UInt8 :=
  decimal (if isUnsigned then unsigned w x else signed w x)

/-- `%f`. -/
def printFloating : Floating → List UInt8
  | .nan isNegative => (if isNegative then [0x2d] else []) ++ [0x6e, 0x61, 0x6e]
  | .infinite isNegative => (if isNegative then [0x2d] else []) ++ [0x69, 0x6e, 0x66]
  | .finite isNegative significand exponent =>
    let n := Floating.scaled 6 significand exponent
    (if isNegative then [0x2d] else []) ++ (decimal (n / 10 ^ 6 : ℕ) ++ 0x2e :: padded 6 (n % 10 ^ 6))

/-- The clock of a date or time: `%02u:%02u:%02u`. -/
def printClock (hour minute second : ℕ) : List UInt8 :=
  padded 2 hour ++ 0x3a :: (padded 2 minute ++ 0x3a :: padded 2 second)

/-- `.%06u` for the microseconds, if there are any. -/
def TmpBuffer.microsecond (t : TmpBuffer) (microsecond : ℕ) : TmpBuffer :=
  if microsecond ≠ 0 then t.snprintf (0x2e :: padded 6 microsecond) else t

/-- A time in the buffer.  The hours are those of a `uint32_t`. -/
def TmpBuffer.time (t : TmpBuffer) (time : Datetime) : TmpBuffer :=
  (t.snprintf ((if time.isNegative then [0x2d] else []) ++
    printClock (uint32 (time.hour + 24 * time.day)) time.minute time.second)).microsecond time.microsecond

/-- A date in the buffer. -/
def TmpBuffer.date (t : TmpBuffer) (d : Datetime) : TmpBuffer :=
  t.snprintf (padded 4 d.year ++ 0x2d :: (padded 2 d.month ++ 0x2d :: padded 2 d.day))

/-- A date and time in the buffer. -/
def TmpBuffer.datetime (t : TmpBuffer) (d : Datetime) : TmpBuffer :=
  ((t.date d).snprintf (0x20 :: printClock d.hour d.minute d.second)).microsecond d.microsecond

/-- Whether a column of the result is flagged UNSIGNED. -/
def Con.isUnsigned (con : Con) (column : ℕ) : Bool :=
  ((con.result.columns.bind (·[column]?)).map fun c => c.flags.testBit 5).getD false

/-- The `switch` of `attachsql_statement_get_char`, with `stmt_tmp_buffer` as it was.  The macros of `inttypes.h` for 8 and
16 bits print the promoted `int`, as those for 32 bits do. -/
def charAnswer (tmp : Memory UInt8) (column : ℕ) (con : Con) (cell : StmtCell) : CharAnswer :=
  let m := con.buf.mem
  let data := cell.data
  let isUnsigned := con.isUnsigned column
  let t := TmpBuffer.start tmp
  if cell.type = 0x01 then .tmp (t.snprintf (printInteger 32 isUnsigned (signedChar (m data))))
  else if cell.type = 0x0d ∨ cell.type = 0x02 then .tmp (t.snprintf (printInteger 32 isUnsigned (unpackInt2 m data)))
  else if cell.type = 0x03 then .tmp (t.snprintf (printInteger 32 isUnsigned (unpackInt4 m data)))
  else if cell.type = 0x08 then .tmp (t.snprintf (printInteger 64 isUnsigned (unpackInt8 m data)))
  else if cell.type = 0x04 then .tmp (t.snprintf (printFloating (.ofWord64 (Floating.widen (unpackInt4 m data)))))
  else if cell.type = 0x05 then .tmp (t.snprintf (printFloating (.ofWord64 (unpackInt8 m data))))
  else if cell.type = columnTypeNull then .null
  else if cell.type = 0x09 then .tmp (t.snprintf (printInteger 32 isUnsigned (unpackInt3 m data)))
  else if cell.type = 0x0b then .tmp (t.time (unpackTime m data cell.length .fresh))
  else if cell.type = 0x0a then .tmp (t.date (unpackDatetime m data cell.length .fresh))
  else if cell.type = 0x07 ∨ cell.type = 0x0c then .tmp (t.datetime (unpackDatetime m data cell.length .fresh))
  else if cell.type = 0xffff then .cannot
  else if isNoNumber cell.type then .data data cell.length
  else .null

/-- The characters that are answered, as many as `*length` says. -/
def toChars (tmp : Memory UInt8) (column : ℕ) (con : Con) (cell : StmtCell) : Option Value :=
  match charAnswer tmp column con cell with
  | .null => some (.chars none)
  | .cannot => none
  | .data data length => some (.chars (some (con.buf.mem.slice data length)))
  | .tmp t => some (.chars (some (t.mem.slice 0 t.length)))

/-- `attachsql_statement_get_char` with a place for the length. -/
def statementGetText (env : Env) (con : Con) (tmp : Memory UInt8) (column : ℕ) (error : ErrorPtr) :
    Con × ErrorPtr × Value :=
  statementGetChar env con column true (toChars tmp column) error

/-! ### What is in the buffer -/

/-- This much was printed, and it is in the buffer as far as it fits. -/
structure TmpBuffer.Prints (t : TmpBuffer) (printed : List UInt8) : Prop where
  length : t.length = printed.length
  stored : printed.length < stmtCharBufferSize → t.mem.slice 0 printed.length = printed

namespace TmpBuffer

variable {t : TmpBuffer} {printed : List UInt8}

lemma prints_start (mem : Memory UInt8) : (start mem).Prints [] := ⟨rfl, fun _ => rfl⟩

/-- Text that fits is stored behind what is there, and a NUL behind it. -/
lemma snprintf_mem (h : t.Prints printed) {text : List UInt8} (hfit : printed.length + text.length < stmtCharBufferSize) :
    (t.snprintf text).mem = t.mem.store printed.length (text ++ [0]) := by
  unfold stmtCharBufferSize at hfit
  have hsize : sizeT ((stmtCharBufferSize : ℤ) - t.length) = 40 - printed.length := by
    unfold sizeT stmtCharBufferSize
    rw [h.length]
    omega
  unfold snprintf
  dsimp only
  rw [hsize, if_neg (by omega), List.take_of_length_le (by omega), h.length]

lemma Prints.snprintf (h : t.Prints printed) (text : List UInt8) : (t.snprintf text).Prints (printed ++ text) := by
  refine ⟨?_, fun hfit => ?_⟩
  · rw [List.length_append, ← h.length]
    rfl
  · rw [List.length_append] at hfit ⊢
    rw [snprintf_mem h hfit, Memory.slice_add, Nat.zero_add,
      Memory.slice_store_of_disjoint (Or.inl (by omega)), h.stored (by omega)]
    have htext := Memory.slice_eq_append (Memory.slice_store t.mem printed.length (text ++ [0]))
    rw [htext.1]

/-- Behind what was printed last stands a NUL. -/
lemma snprintf_ends (h : t.Prints printed) {text : List UInt8} (hfit : printed.length + text.length < stmtCharBufferSize) :
    (t.snprintf text).mem (printed.length + text.length) = 0 := by
  rw [snprintf_mem h hfit]
  exact (Memory.store_of_mem (by simp)).trans (List.getElem_concat_length rfl _)

/-- The first print. -/
lemma snprintf_start (mem : Memory UInt8) {text : List UInt8} (hfit : text.length < stmtCharBufferSize) :
    ((start mem).snprintf text).mem.slice 0 ((start mem).snprintf text).length = text := by
  have h := (prints_start mem).snprintf text
  rw [List.nil_append] at h
  rw [h.length, h.stored hfit]

end TmpBuffer

end LibAttachSql
