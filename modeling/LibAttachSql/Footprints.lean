import LibAttachSql.Lib.Reading
import LibAttachSql.Query
import LibAttachSql.SendFrame

/-!
# What the readers of packets read

The readers of `net.cc`, `connect.cc` and `query.cc` once more, now as computations that show every byte they read.  Each of
them answers what the reader makes of its packet, and `run` of it is what the reader stores.  Where a reader computes how
many bytes of the packet remain, that number is part of the answer.
-/

namespace LibAttachSql

open Lib

/-! ### Numbers, lengths and strings -/

section Parts

variable {m : Memory UInt8} {lo hi : ℕ}

/-- The reads of `attachsql_unpack_int2`. -/
def int2Reading (p : ℕ) : Reading UInt8 ℕ := do
  let a ← .get p
  let b ← .get (p + 1)
  pure (a.toNat + b.toNat * 2 ^ 8)

/-- The reads of `attachsql_unpack_int3`. -/
def int3Reading (p : ℕ) : Reading UInt8 ℕ := do
  let a ← .get p
  let b ← .get (p + 1)
  let c ← .get (p + 2)
  pure (a.toNat + b.toNat * 2 ^ 8 + c.toNat * 2 ^ 16)

/-- The reads of `attachsql_unpack_int4`. -/
def int4Reading (p : ℕ) : Reading UInt8 ℕ := do
  let a ← .get p
  let b ← .get (p + 1)
  let c ← .get (p + 2)
  let d ← .get (p + 3)
  pure (a.toNat + b.toNat * 2 ^ 8 + c.toNat * 2 ^ 16 + d.toNat * 2 ^ 24)

/-- The reads of `attachsql_unpack_int8`. -/
def int8Reading (p : ℕ) : Reading UInt8 ℕ := do
  let a ← int4Reading p
  let b ← int4Reading (p + 4)
  pure (a + b * 2 ^ 32)

/-- The reads of `attachsql_unpack_length`. -/
def lengthReading (p : ℕ) : Reading UInt8 Unpacked := do
  let c ← .get p
  if c < 0xfb then pure { length := sizeT (signedChar c), bytes := 1, null := false }
  else if c = 0xfb then pure { length := 0, bytes := 1, null := true }
  else if c = 0xfc then do
    let n ← int2Reading (p + 1)
    pure { length := n, bytes := 3, null := false }
  else if c = 0xfd then do
    let n ← int3Reading (p + 1)
    pure { length := n, bytes := 4, null := false }
  else do
    let n ← int8Reading (p + 1)
    pure { length := n, bytes := 9, null := false }

/-- The reads of a string behind its length that is kept in a field of `size` bytes. -/
def fieldReading (p size : ℕ) : Reading UInt8 (List UInt8 × ℕ) := do
  let len ← lengthReading p
  let bytes ← .block (p + len.bytes) (if size ≤ len.length then size - 1 else len.length)
  pure (bytes, ptrAdd (p + len.bytes) len.length)

/-- The reads of a string behind its length that is skipped. -/
def skipReading (p : ℕ) : Reading UInt8 ℕ := do
  let len ← lengthReading p
  pure (ptrAdd (p + len.bytes) len.length)

/-- The reads of `snprintf` with `%.*s`.  It counts all the bytes it would print, however small its target; without a
precision it goes on to the first NUL. -/
def textReading (p : ℕ) (precision : ℤ) (size : ℕ) : Reading UInt8 (List UInt8) := do
  let bytes ← .scan (fun c => decide (c = 0)) p (if 0 ≤ precision then precision.toNat else 2 ^ 64)
  pure (bytes.take (size - 1))

@[simp] lemma run_int2Reading (p : ℕ) : (int2Reading p).run m = unpackInt2 m p := by
  unfold int2Reading
  rw [Reading.run_bind, Reading.run_bind, Reading.run_pure, Reading.run_get, Reading.run_get, unpackInt2]

@[simp] lemma run_int3Reading (p : ℕ) : (int3Reading p).run m = unpackInt3 m p := by
  unfold int3Reading
  rw [Reading.run_bind, Reading.run_bind, Reading.run_bind, Reading.run_pure, Reading.run_get, Reading.run_get,
    Reading.run_get, unpackInt3]

@[simp] lemma run_int4Reading (p : ℕ) : (int4Reading p).run m = unpackInt4 m p := by
  unfold int4Reading
  rw [Reading.run_bind, Reading.run_bind, Reading.run_bind, Reading.run_bind, Reading.run_pure, Reading.run_get,
    Reading.run_get, Reading.run_get, Reading.run_get, unpackInt4]

@[simp] lemma run_int8Reading (p : ℕ) : (int8Reading p).run m = unpackInt8 m p := by
  unfold int8Reading
  rw [Reading.run_bind, Reading.run_bind, Reading.run_pure, run_int4Reading, run_int4Reading, unpackInt8]

@[simp] lemma run_lengthReading (p : ℕ) : (lengthReading p).run m = unpackLength m p := by
  unfold lengthReading unpackLength
  rw [Reading.run_bind, Reading.run_get]
  split_ifs <;> simp

@[simp] lemma run_fieldReading (p size : ℕ) : (fieldReading p size).run m = readField m p size := by
  simp [fieldReading, readField]

@[simp] lemma run_skipReading (p size : ℕ) : (skipReading p).run m = (readField m p size).2 := by
  simp [skipReading, readField]

lemma takeWhile_of_take {α : Type} (f : α → Bool) (n : ℕ) (l : List α) :
    (l.take n).takeWhile f = (l.takeWhile f).take n := by
  induction l generalizing n with
  | nil => simp
  | cons a l ih =>
    cases n with
    | zero => simp
    | succ n =>
      rw [List.take_succ_cons, List.takeWhile_cons, List.takeWhile_cons, ih]
      split <;> rfl

/-- A text ends before its first NUL. -/
lemma stop_eq : (fun c : UInt8 => !decide (c = 0)) = fun c => decide (c ≠ 0) := funext fun _ => decide_not.symm

/-- What `snprintf` stores, of what it reads. -/
@[simp] lemma run_textReading (p : ℕ) (precision : ℤ) {size : ℕ} (hsize : size ≤ 2 ^ 64) :
    (textReading p precision size).run m = printString m p precision size := by
  have hcount : (if 0 ≤ precision then min precision.toNat (size - 1) else size - 1) =
      min (size - 1) (if 0 ≤ precision then precision.toNat else 2 ^ 64) := by
    split_ifs <;> omega
  unfold textReading printString
  rw [Reading.run_bind, Reading.run_scan, Reading.run_pure, hcount, ← Memory.take_slice, takeWhile_of_take, stop_eq]

lemma within_int2Reading (p : ℕ) :
    (int2Reading p).Within m (Set.Ico lo hi) ↔ lo ≤ p ∧ p + 2 ≤ hi := by
  simp only [int2Reading, Reading.within_bind, Reading.within_get, Reading.within_pure, Set.mem_Ico, and_true]
  omega

lemma within_int3Reading (p : ℕ) :
    (int3Reading p).Within m (Set.Ico lo hi) ↔ lo ≤ p ∧ p + 3 ≤ hi := by
  simp only [int3Reading, Reading.within_bind, Reading.within_get, Reading.within_pure, Set.mem_Ico, and_true]
  omega

lemma within_int4Reading (p : ℕ) :
    (int4Reading p).Within m (Set.Ico lo hi) ↔ lo ≤ p ∧ p + 4 ≤ hi := by
  simp only [int4Reading, Reading.within_bind, Reading.within_get, Reading.within_pure, Set.mem_Ico, and_true]
  omega

lemma within_int8Reading (p : ℕ) :
    (int8Reading p).Within m (Set.Ico lo hi) ↔ lo ≤ p ∧ p + 8 ≤ hi := by
  simp only [int8Reading, Reading.within_bind, within_int4Reading, Reading.within_pure, and_true]
  omega

/-- A length lies in the bytes it says it stands in. -/
lemma within_lengthReading (p : ℕ) :
    (lengthReading p).Within m (Set.Ico lo hi) ↔ lo ≤ p ∧ p + (unpackLength m p).bytes ≤ hi := by
  unfold lengthReading unpackLength
  rw [Reading.within_bind, Reading.within_get, Reading.run_get, Set.mem_Ico]
  split_ifs
  · rw [Reading.within_pure, and_true]
    dsimp only
    omega
  · rw [Reading.within_pure, and_true]
    dsimp only
    omega
  · rw [Reading.within_bind, within_int2Reading, Reading.within_pure, and_true]
    dsimp only
    omega
  · rw [Reading.within_bind, within_int3Reading, Reading.within_pure, and_true]
    dsimp only
    omega
  · rw [Reading.within_bind, within_int8Reading, Reading.within_pure, and_true]
    dsimp only
    omega

lemma bytes_pos (m : Memory UInt8) (p : ℕ) : 0 < (unpackLength m p).bytes := by
  unfold unpackLength
  split_ifs <;> exact Nat.succ_pos _

lemma within_fieldReading (p : ℕ) {size : ℕ} (hsize : 0 < size) :
    (fieldReading p size).Within m (Set.Ico lo hi) ↔
      lo ≤ p ∧ p + (unpackLength m p).bytes + min (unpackLength m p).length (size - 1) ≤ hi := by
  have hmin : (if size ≤ (unpackLength m p).length then size - 1 else (unpackLength m p).length) =
      min (unpackLength m p).length (size - 1) := by
    split_ifs <;> omega
  unfold fieldReading
  rw [Reading.within_bind, within_lengthReading, run_lengthReading, Reading.within_bind, Reading.within_pure, hmin]
  constructor
  · rintro ⟨⟨hlo, hlen⟩, hblock, -⟩
    rw [Reading.within_block_Ico_of_le (by omega) hlen] at hblock
    exact ⟨hlo, hblock⟩
  · rintro ⟨hlo, hend⟩
    refine ⟨⟨hlo, by omega⟩, ?_, trivial⟩
    rw [Reading.within_block_Ico_of_le (by omega) (by omega)]
    exact hend

lemma within_skipReading (p : ℕ) :
    (skipReading p).Within m (Set.Ico lo hi) ↔ lo ≤ p ∧ p + (unpackLength m p).bytes ≤ hi := by
  unfold skipReading
  rw [Reading.within_bind, within_lengthReading, Reading.within_pure, and_true]

/-- A text with a precision stays in its place. -/
lemma within_textReading {p : ℕ} {precision : ℤ} (hp : 0 ≤ precision) (hlo : lo ≤ p) (hhi : p + precision.toNat ≤ hi)
    (size : ℕ) : (textReading p precision size).Within m (Set.Ico lo hi) := by
  unfold textReading
  rw [Reading.within_bind, if_pos hp, Reading.within_scan]
  refine ⟨fun i hi' _ => ?_, fun _ h => absurd h List.not_mem_nil⟩
  rw [Set.mem_Ico]
  omega

end Parts

/-! ### Responses -/

/-- What is taken from an OK packet, and how many bytes were said to remain for its message. -/
structure OkFields where
  affectedRows : ℕ
  insertId : ℕ
  serverStatus : ℕ
  warningCount : ℕ
  serverMessage : List UInt8
  remaining : ℤ

/-- What is taken from an ERR packet. -/
structure ErrFields where
  serverErrno : ℕ
  sqlstate : List UInt8
  serverMessage : List UInt8
  remaining : ℤ

/-- What is taken from a response. -/
inductive ResponseFields where
  | ok (fields : OkFields)
  | err (fields : ErrFields)
  | eof (warningCount serverStatus : ℕ)
  | header (columnCount : ℕ)

/-- The number of bytes that were said to remain, if the packet has a message. -/
def ResponseFields.remaining : ResponseFields → Option ℤ
  | ok fields => some fields.remaining
  | err fields => some fields.remaining
  | eof _ _ => none
  | header _ => none

/-- The reads of the OK branch of `attachsql_packet_read_response`, for a packet of `size` bytes at `p`. -/
def okReading (p size : ℕ) : Reading UInt8 OkFields := do
  let affectedRows ← lengthReading (p + 1)
  let insertId ← lengthReading (p + 1 + affectedRows.bytes)
  let serverStatus ← int2Reading (p + 1 + affectedRows.bytes + insertId.bytes)
  let warningCount ← int2Reading (p + 1 + affectedRows.bytes + insertId.bytes + 2)
  let remaining : ℤ := size - (1 + affectedRows.bytes + insertId.bytes + 4 : ℕ)
  let serverMessage ← textReading (p + 1 + affectedRows.bytes + insertId.bytes + 4) remaining maxMessageLen
  pure
    { affectedRows := affectedRows.length, insertId := insertId.length, serverStatus, warningCount, serverMessage
      remaining }

/-- The reads of the ERR branch.  The marker before the SQLSTATE is skipped. -/
def errReading (p size : ℕ) : Reading UInt8 ErrFields := do
  let serverErrno ← int2Reading (p + 1)
  let sqlstate ← .block (p + 1 + 3) 5
  let remaining : ℤ := size - 9
  let serverMessage ← textReading (p + 1 + 8) remaining maxMessageLen
  pure { serverErrno, sqlstate, serverMessage, remaining }

/-- The reads of `attachsql_packet_read_response`. -/
def responseReading (p size : ℕ) : Reading UInt8 ResponseFields := do
  let c ← .get p
  if c = 0x00 then do
    let fields ← okReading p size
    pure (.ok fields)
  else if c = 0xff then do
    let fields ← errReading p size
    pure (.err fields)
  else if c = 0xfe then do
    let warningCount ← int2Reading (p + 1)
    let serverStatus ← int2Reading (p + 1 + 2)
    pure (.eof warningCount serverStatus)
  else do
    let len ← lengthReading p
    pure (.header (uint16 len.length))

/-! ### Prepared statements -/

/-- What is taken from a PREPARE_OK packet. -/
structure PrepareOkFields where
  id : ℕ
  columnCount : ℕ
  paramCount : ℕ
  warningCount : ℕ
  remaining : ℤ

/-- The reads of the PREPARE_OK branch of `attachsql_packet_read_prepare_response`. -/
def prepareOkReading (p size : ℕ) : Reading UInt8 PrepareOkFields := do
  let id ← int4Reading (p + 1)
  let columnCount ← int2Reading (p + 1 + 4)
  let paramCount ← int2Reading (p + 1 + 6)
  let warningCount ← int2Reading (p + 1 + 9)
  pure { id, columnCount, paramCount, warningCount, remaining := size - 12 }

/-- The reads of `attachsql_packet_read_prepare_response`. -/
def prepareResponseReading (p size : ℕ) : Reading UInt8 (ResponseFields ⊕ PrepareOkFields) := do
  let c ← .get p
  if c ≠ 0x00 then do
    let fields ← responseReading p size
    pure (.inl fields)
  else do
    let fields ← prepareOkReading p size
    pure (.inr fields)

/-! ### Column definitions -/

/-- The reads of `attachsql_packet_get_column` for a definition at `p`, into a record. -/
def columnReading (column : Column) (p : ℕ) : Reading UInt8 Column := do
  let p ← skipReading p
  let (schema, p) ← fieldReading p maxSchemaSize
  let (table, p) ← fieldReading p maxTableSize
  let (originTable, p) ← fieldReading p maxTableSize
  let (name, p) ← fieldReading p maxColumnSize
  let (originColumn, p) ← fieldReading p maxColumnSize
  let charset ← int2Reading (p + 1)
  let length ← int4Reading (p + 1 + 2)
  let type ← .get (p + 1 + 6)
  let flags ← int2Reading (p + 1 + 7)
  let decimals ← .get (p + 1 + 9)
  let (defaultValue, _) ← fieldReading (p + 1 + 12) maxDefaultValueSize
  pure { schema, table, originTable, column := name, originColumn, charset, length, type, flags, decimals
         defaultValue := if defaultValue = [] then column.defaultValue else defaultValue
         defaultSize := defaultValue.length }

/-! ### Rows -/

/-- The reads of the loop of `attachsql_query_row_get` and `attachsql_query_row_buffer`. -/
def cellsReading : ℕ → ℕ → Reading UInt8 (List Cell)
  | 0, _ => pure []
  | n + 1, p => do
    let len ← lengthReading p
    let cells ← cellsReading n (ptrAdd (p + len.bytes) len.length)
    pure ({ data := p + len.bytes, length := len.length } :: cells)

/-- The reads before a value of a row of a statement, by the type of its column. -/
def stmtValueReading (p type : ℕ) : Reading UInt8 (Option (ℕ × ℕ)) :=
  if type ∈ [0xfe, 0x0f, 0xfd, 0xf7, 0xf8, 0xfb, 0xfa, 0xf9, 0xfc, 0xff, 0x10, 0x00, 0xf6] then do
    let len ← lengthReading p
    pure (some (len.bytes, len.length))
  else if type ∈ [0x0a, 0x0c, 0x07, 0x0b] then do
    let c ← .get p
    pure (some (1, sizeT (signedChar c)))
  else if type ∈ [0x08, 0x05] then pure (some (0, 8))
  else if type ∈ [0x03, 0x09, 0x04] then pure (some (0, 4))
  else if type ∈ [0x02, 0x0d] then pure (some (0, 2))
  else if type = 0x01 then pure (some (0, 1))
  else if type = columnTypeNull then pure (some (0, 0))
  else pure none

/-- The reads of the loop of `attachsql_statement_row_get`. -/
def stmtCellsReading (bitmap : ℕ) : ℕ → ℕ → List Column → Reading UInt8 (List StmtCell × Bool)
  | _, _, [] => pure ([], true)
  | i, p, column :: columns => do
    let byte ← .get (bitmap + (i + 2) / 8)
    let type := if byte.toNat.testBit ((i + 2) % 8) then columnTypeNull else column.type.toNat
    let value ← stmtValueReading p type
    match value with
    | none => pure ([], false)
    | some (bytes, length) => do
      let (cells, ok) ← stmtCellsReading bitmap (i + 1) (ptrAdd (p + bytes) length) columns
      pure ({ data := p + bytes, length := length, type := type } :: cells, ok)

/-- The reads of `attachsql_packet_read_row`, and of the function `get` that takes the row at `p` apart later on. -/
def rowReading {β : Type} (p size : ℕ) (get : Reading UInt8 β) : Reading UInt8 (ResponseFields ⊕ β) := do
  let c ← .get p
  if c = 0xfe then do
    let fields ← responseReading p size
    pure (.inl fields)
  else do
    let row ← get
    pure (.inr row)

/-! ### The handshake -/

/-- What is taken from a handshake. -/
structure GreetingFields where
  serverVersion : List UInt8
  threadId : ℕ
  serverCapabilities : ℕ
  charset : UInt8
  serverStatus : ℕ
  scrambleBuffer : List UInt8

/-- The reads of a handshake of protocol 10 at `p`. -/
def greetingReading (p : ℕ) : Reading UInt8 GreetingFields := do
  let version ← .scan (fun c => decide (c = 0)) (p + 1) maxServerVersionLen
  let serverVersion := version.take (maxServerVersionLen - 1)
  let q := p + 1 + serverVersion.length + 1
  let threadId ← int4Reading q
  let scramble ← .block (q + 4) 8
  let serverCapabilities ← int2Reading (q + 4 + 9)
  let charset ← .get (q + 4 + 9 + 2)
  let serverStatus ← int2Reading (q + 4 + 9 + 3)
  let rest ← .block (q + 4 + 9 + 18) 12
  pure { serverVersion, threadId, serverCapabilities, charset, serverStatus, scrambleBuffer := scramble ++ rest }

/-- The reads of the check of the protocol version, and of what follows it; `none` is the error. -/
def protocolReading (p : ℕ) : Reading UInt8 (Option GreetingFields) := do
  let version ← .get p
  if version ≠ 10 then pure none
  else do
    let fields ← greetingReading p
    pure (some fields)

/-- The reads of `attachsql_packet_read_handshake`.  Behind an ERR packet it reads on at `next`, where that packet was
left. -/
def handshakeReading (p size next : ℕ) : Reading UInt8 (Option ResponseFields × Option GreetingFields) := do
  let c ← .get p
  if c = 0xff then do
    let rejection ← responseReading p size
    let fields ← protocolReading next
    pure (some rejection, fields)
  else do
    let fields ← protocolReading p
    pure (none, fields)

/-! ### What is read is what is stored -/

/-- The fields of an OK packet are in the connection. -/
def OkFields.Stored (f : OkFields) (con : Con) : Prop :=
  con.affectedRows = f.affectedRows ∧ con.insertId = f.insertId ∧ con.serverStatus = f.serverStatus ∧
    con.warningCount = f.warningCount ∧ con.serverMessage = f.serverMessage

/-- The fields of an ERR packet are. -/
def ErrFields.Stored (f : ErrFields) (con : Con) : Prop :=
  con.serverErrno = f.serverErrno ∧ con.sqlstate = f.sqlstate ∧ con.serverMessage = f.serverMessage

/-- The fields of a response are. -/
def ResponseFields.Stored (con : Con) : ResponseFields → Prop
  | ok fields => fields.Stored con
  | err fields => fields.Stored con
  | eof warningCount serverStatus => con.warningCount = warningCount ∧ con.serverStatus = serverStatus
  | header columnCount => con.result.columnCount = columnCount

/-- The fields of a PREPARE_OK packet are in the connection and its statement. -/
def PrepareOkFields.Stored (f : PrepareOkFields) (con : Con) : Prop :=
  con.warningCount = f.warningCount ∧
    ∃ s ∈ con.stmt, s.id = f.id ∧ s.columnCount = f.columnCount ∧ s.paramCount = f.paramCount

/-- The fields of a handshake are in the connection. -/
def GreetingFields.Stored (f : GreetingFields) (con : Con) : Prop :=
  con.serverVersion = f.serverVersion ∧ con.threadId = f.threadId ∧ con.serverCapabilities = f.serverCapabilities ∧
    con.charset = f.charset ∧ con.serverStatus = f.serverStatus ∧ con.scrambleBuffer = f.scrambleBuffer

section Stored

variable {m : Memory UInt8}

lemma run_okReading (p size : ℕ) : (okReading p size).run m =
    let a := unpackLength m (p + 1)
    let i := unpackLength m (p + 1 + a.bytes)
    let q := p + 1 + a.bytes + i.bytes
    { affectedRows := a.length, insertId := i.length, serverStatus := unpackInt2 m q, warningCount := unpackInt2 m (q + 2)
      serverMessage := printString m (q + 4) (size - (1 + a.bytes + i.bytes + 4 : ℕ)) maxMessageLen
      remaining := size - (1 + a.bytes + i.bytes + 4 : ℕ) } := by
  simp only [okReading, Reading.run_bind, run_lengthReading, run_int2Reading,
    run_textReading _ _ (show maxMessageLen ≤ 2 ^ 64 by decide), Reading.run_pure]

lemma run_errReading (p size : ℕ) : (errReading p size).run m =
    { serverErrno := unpackInt2 m (p + 1), sqlstate := m.slice (p + 1 + 3) 5
      serverMessage := printString m (p + 1 + 8) (size - 9) maxMessageLen, remaining := size - 9 } := by
  simp only [errReading, Reading.run_bind, Reading.run_block, run_int2Reading,
    run_textReading _ _ (show maxMessageLen ≤ 2 ^ 64 by decide), Reading.run_pure]

/-- What `attachsql_packet_get_column` fills in. -/
lemma run_columnReading (con : Con) (column : Column) :
    (columnReading column con.buf.bufferReadPtr).run con.buf.mem = packetGetColumn con column := by
  simp only [columnReading, Reading.run_bind, run_skipReading _ maxSchemaSize, run_fieldReading, run_int2Reading,
    run_int4Reading, Reading.run_get, Reading.run_pure]
  rfl

lemma run_stmtValueReading (p type : ℕ) : (stmtValueReading p type).run m = stmtValue m p type := by
  unfold stmtValueReading stmtValue
  split_ifs
  · rw [Reading.run_bind, run_lengthReading, Reading.run_pure]
  all_goals rfl

/-- The cells of a row of a statement. -/
lemma run_stmtCellsReading (bitmap : ℕ) (columns : List Column) (i p : ℕ) :
    (stmtCellsReading bitmap i p columns).run m = stmtCells m bitmap i p columns := by
  induction columns generalizing i p with
  | nil => rfl
  | cons column columns ih =>
    rw [stmtCellsReading, Reading.run_bind, Reading.run_get, Reading.run_bind, run_stmtValueReading, stmtCells]
    dsimp only
    generalize (if (m (bitmap + (i + 2) / 8)).toNat.testBit ((i + 2) % 8) = true then columnTypeNull
      else column.type.toNat) = type
    cases stmtValue m p type with
    | none => rfl
    | some value =>
      dsimp only
      rw [Reading.run_bind, ih]
      rfl

end Stored

variable (env : Env) (con : Con)

lemma packetReadOk_stored :
    ((okReading con.buf.bufferReadPtr con.packetSize).run con.buf.mem).Stored (packetReadOk con) := by
  rw [run_okReading]
  exact ⟨rfl, rfl, rfl, rfl, rfl⟩

lemma packetReadErr_stored :
    ((errReading con.buf.bufferReadPtr con.packetSize).run con.buf.mem).Stored (packetReadErr con) := by
  rw [run_errReading]
  exact ⟨rfl, rfl, rfl⟩

lemma packetQueuePush_counts (t : PacketType) : (packetQueuePush env con t).warningCount = con.warningCount ∧
    (packetQueuePush env con t).serverStatus = con.serverStatus ∧ (packetQueuePush env con t).result = con.result ∧
    (packetQueuePush env con t).stmt = con.stmt := by
  obtain ⟨queue, size, bytes, trace, hpush⟩ := packetQueuePush_frame env con t
  rw [hpush]
  exact ⟨rfl, rfl, rfl, rfl⟩

lemma packetReadEof_stored : (packetReadEof env con).warningCount = unpackInt2 con.buf.mem (con.buf.bufferReadPtr + 1) ∧
    (packetReadEof env con).serverStatus = unpackInt2 con.buf.mem (con.buf.bufferReadPtr + 1 + 2) := by
  unfold packetReadEof
  dsimp only
  split
  · obtain ⟨hw, hs, -⟩ := packetQueuePush_counts env _ .row
    exact ⟨hw, hs⟩
  · split
    · exact ⟨rfl, rfl⟩
    · split
      · obtain ⟨hw, hs, -⟩ := packetQueuePush_counts env _ .prepareColumn
        exact ⟨hw, hs⟩
      · exact ⟨rfl, rfl⟩
  · exact ⟨rfl, rfl⟩

lemma packetReadHeader_stored : (packetReadHeader env con).result.columnCount =
    uint16 (unpackLength con.buf.mem con.buf.bufferReadPtr).length := by
  unfold packetReadHeader
  exact congrArg Result.columnCount (packetQueuePush_counts env _ .column).2.2.1

/-- **What a response stores** is what its reads answer. -/
theorem packetReadResponse_stored :
    ((responseReading con.buf.bufferReadPtr con.packetSize).run con.buf.mem).Stored (packetReadResponse env con) := by
  unfold responseReading packetReadResponse
  rw [Reading.run_bind, Reading.run_get]
  have hpeek : con.peekByte 0 = con.buf.mem con.buf.bufferReadPtr := rfl
  rw [hpeek]
  split_ifs
  · rw [Reading.run_bind, Reading.run_pure]
    exact packetReadOk_stored con
  · rw [Reading.run_bind, Reading.run_pure]
    exact packetReadErr_stored con
  · simp only [Reading.run_bind, run_int2Reading, Reading.run_pure]
    exact packetReadEof_stored env con
  · simp only [Reading.run_bind, run_lengthReading, Reading.run_pure]
    exact packetReadHeader_stored env con

lemma prepareOkNext_stored (paramCount columnCount : ℕ) :
    (prepareOkNext env con paramCount columnCount).warningCount = con.warningCount ∧
      (prepareOkNext env con paramCount columnCount).stmt = con.stmt := by
  unfold prepareOkNext
  split
  · obtain ⟨hw, -, -, hs⟩ := packetQueuePush_counts env con .prepareParameter
    exact ⟨hw, hs⟩
  · split
    · obtain ⟨hw, -, -, hs⟩ := packetQueuePush_counts env con .prepareColumn
      exact ⟨hw, hs⟩
    · exact ⟨rfl, rfl⟩

/-- What a PREPARE_OK packet stores is what its reads answer. -/
lemma packetReadPrepareOk_stored (stmt : Stmt) :
    ((prepareOkReading con.buf.bufferReadPtr con.packetSize).run con.buf.mem).Stored (packetReadPrepareOk env con stmt) := by
  simp only [prepareOkReading, Reading.run_bind, run_int4Reading, run_int2Reading, Reading.run_pure]
  unfold packetReadPrepareOk
  dsimp only
  generalize hs : prepareOkStmt env con.buf.mem (con.buf.bufferReadPtr + 1) stmt = s
  obtain ⟨hw, hstmt⟩ := prepareOkNext_stored env
    { con with warningCount := unpackInt2 con.buf.mem (con.buf.bufferReadPtr + 1 + 9), stmt := some s } s.paramCount
    s.columnCount
  refine ⟨hw, s, hstmt, ?_⟩
  rw [← hs]
  exact ⟨rfl, rfl, rfl⟩

/-- What a handshake stores is what its reads answer. -/
lemma handshakeFields_stored :
    ((greetingReading con.buf.bufferReadPtr).run con.buf.mem).Stored (handshakeFields con) := by
  simp only [greetingReading, Reading.run_bind, Reading.run_scan, run_int4Reading, run_int2Reading, Reading.run_block,
    Reading.run_get, Reading.run_pure, stop_eq]
  exact ⟨rfl, rfl, rfl, rfl, rfl, rfl⟩

end LibAttachSql
