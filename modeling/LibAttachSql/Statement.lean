import LibAttachSql.Connect

/-!
# Prepared statements

`statement.cc` and the setters of `statement_getset.cc`: preparing, binding parameters, building the payload of an
execution, and the commands that carry a statement id.
-/

namespace LibAttachSql

open Lib

/-- `attachsql_statement_prepare`: connects first when it has to, else makes the statement object and sends the
command, or reports that there is no memory for the object. -/
def statementPrepare (env : Env) (w : World) (con : Con) (statement : List UInt8) (error : ErrorPtr) :
    Con × ErrorPtr × Bool :=
  if con.status = .notConnected then
    connect env w { con with
      queryBuffer := statement
      queryBufferLength := statement.length
      queryBufferAlloc := false
      queryBufferStatement := true
      own := con.own.dropQueryBuffer } error
  else if env.newArray 1 sizeofStmt then
    ((commandSend env { con with stmt := some Stmt.fresh } .stmtPrepare statement).1, error, true)
  else
    ({ con.fail .stmtAlloc with
        stmt := none
        localErrcode := .outOfMemoryError
        commandStatus := .sendFailed },
      errorClientCreate env error errorCodeAlloc "82100" "Allocation failure for statement object", false)

/-! ### Binding -/

/-- A setter on the parameters of the statement: refused without a statement or for a parameter it does not have. -/
def statementSet (env : Env) (con : Con) (param : ℕ) (error : ErrorPtr) (set : StmtParam → StmtParam) :
    Con × ErrorPtr × Bool :=
  match con.stmt with
  | none =>
    (con, errorClientCreate env error errorCodeParameter "22023" "Connection parameter not valid", false)
  | some stmt =>
    if stmt.paramCount ≤ param then
      (con, errorClientCreate env error errorCodeParameter "22023" s!"Param {param} does not exist", false)
    else
      match stmt.paramData with
      | none => (con.log .fault, error, true)
      | some params => ({ con with stmt := some { stmt with paramData := some (params.modify param set) } }, error, true)

/-- `attachsql_statement_set_param` on one parameter, by the member of the union its value goes to. -/
def setParam (type length : ℕ) (isUnsigned : Bool) (value : ParamData) (p : StmtParam) : StmtParam :=
  match value with
  | .int _ | .bigint _ => { p with data := value, isUnsigned := isUnsigned, type := type }
  | .float _ | .double _ => { p with data := value, isUnsigned := false, type := type }
  | .string _ => { p with data := value, length := length, type := type }
  | .none => { p with type := type }
  | _ => p

/-- `attachsql_statement_set_datetime` on one parameter. -/
def setDatetime (value : Datetime) (p : StmtParam) : StmtParam :=
  { p with data := .datetime value, datetimeAlloc := true, type := 0x0c }

/-- `attachsql_statement_set_time` on one parameter. -/
def setTime (value : Datetime) (p : StmtParam) : StmtParam :=
  { p with data := .datetime value, datetimeAlloc := false, type := 0x0b }

/-! ### The payload of an execution -/

/-- `attachsql_pack_datetime`: the bytes it writes. -/
def packDatetime (datetime : Datetime) (dateOnly : Bool) : List UInt8 :=
  let date := packInt2 datetime.year ++ [UInt8.ofNat datetime.month, UInt8.ofNat datetime.day]
  let time := [UInt8.ofNat datetime.hour, UInt8.ofNat datetime.minute, UInt8.ofNat datetime.second]
  if ¬ dateOnly ∧ 0 < datetime.microsecond then 11 :: (date ++ time ++ packInt4 datetime.microsecond)
  else if ¬ dateOnly ∧ (0 < datetime.hour ∨ 0 < datetime.minute ∨ 0 < datetime.second) then 7 :: (date ++ time)
  else if 0 < datetime.year ∨ 0 < datetime.month ∨ 0 < datetime.day then 4 :: date
  else [0]

/-- `attachsql_pack_time`: the bytes it writes. -/
def packTime (time : Datetime) : List UInt8 :=
  let body := (if time.isNegative then 1 else 0) :: packInt4 time.day ++
    [UInt8.ofNat time.hour, UInt8.ofNat time.minute, UInt8.ofNat time.second]
  if 0 < time.microsecond then 12 :: (body ++ packInt4 time.microsecond)
  else if 0 < time.day ∨ 0 < time.minute ∨ 0 < time.second then 8 :: body
  else [0]

/-- Where `attachsql_stmt_execute` stands: the place of the types, the place of the next value, and whether a store
has left the buffer. -/
structure Fill where
  stmt : Stmt
  typePos : ℕ
  pos : ℕ
  outside : Bool

/-- A store of bytes into the execution buffer. -/
def Fill.put (f : Fill) (p : ℕ) (bs : List UInt8) : Fill :=
  { f with
    stmt := { f.stmt with execBuffer := f.stmt.execBuffer.store p bs }
    outside := f.outside || decide (f.stmt.execBufferLength < p + bs.length) }

/-- A store at the place of the next value, which moves behind it. -/
def Fill.push (f : Fill) (bs : List UInt8) : Fill := { f.put f.pos bs with pos := f.pos + bs.length }

/-- `attachsql_stmt_check_buffer_size`; `none` when the buffer cannot be grown. -/
def stmtCheckBufferSize (env : Env) (stmt : Stmt) (required : ℕ) : Option Stmt :=
  if stmt.execBufferLength < required then
    let newSize := if stmt.execBufferLength = 0 then stmtExecDefaultSize else stmt.execBufferLength * 2
    if (env.malloc.get newSize).isSome then some { stmt with execBufferLength := newSize } else none
  else some stmt

/-- The NULL bitmap of the parameters, a byte at a time. -/
def nullBitmap (params : List StmtParam) : List UInt8 :=
  (List.range ((params.length + 7) / 8)).map fun byte =>
    UInt8.ofNat (((List.range 8).filter fun bit =>
      (params[byte * 8 + bit]?).any (·.type = columnTypeNull)).map (2 ^ ·)).sum

/-- What went wrong in `attachsql_stmt_execute` before the command is sent, with the statement as it is then. -/
inductive ExecFailure where
  | noMemory (stmt : Stmt)
  | badParameter (stmt : Stmt)
  | outside

/-- The value of a parameter in the binary protocol; `none` for a type the function does not know. -/
def paramBytes (p : StmtParam) : Option (List UInt8) :=
  match p.type, p.data with
  | 0x01, .tinyint v => some [UInt8.ofNat v]
  | 0x02, .smallint v => some (packInt2 v)
  | 0x03, .int v => some (packInt4 v)
  | 0x08, .bigint v => some (packInt8 v)
  | 0x04, .float bs => some (bs.take 4)
  | 0x05, .double bs => some (bs.take 8)
  | 0x0b, .datetime v => some (packTime v)
  | 0x0a, .datetime v => some (packDatetime v true)
  | 0x0c, .datetime v => some (packDatetime v false)
  | 0x07, .datetime v => some (packDatetime v false)
  | 0xfe, .string bs => some (packData (bs.take p.length))
  | 0xfc, .string bs => some (packData (bs.take p.length))
  | _, _ => none

/-- `sizeof(attachsql_datetime_st)`. -/
def sizeofDatetime : ℕ := 20

/-- Whether the value of a parameter is a string, which is checked for room once more. -/
def isStringType (type : ℕ) : Bool := type = 0xfe ∨ type = 0xfc

/-- One round of the loop of `attachsql_stmt_execute` over the parameters. -/
def fillParam (env : Env) (f : Fill) (i : ℕ) (p : StmtParam) : Except ExecFailure Fill :=
  if p.type = columnTypeNull then .ok f
  else
    let type := if p.isUnsigned then p.type ||| stmtParamUnsignedBit else p.type
    let f := f.put (f.typePos + i * 2) (packInt2 type)
    if p.isLongData then .ok f
    else
      match stmtCheckBufferSize env f.stmt sizeofDatetime with
      | none => .error (.noMemory f.stmt)
      | some stmt =>
        match if isStringType p.type then stmtCheckBufferSize env stmt p.length else some stmt with
        | none => .error (.noMemory stmt)
        | some stmt =>
          match paramBytes p with
          | none => .error (.badParameter stmt)
          | some bs => .ok ({ f with stmt := stmt }.push bs)

/-- The loop of `attachsql_stmt_execute` over the parameters from number `i` on. -/
def fillParams (env : Env) (f : Fill) (i : ℕ) : List StmtParam → Except ExecFailure Fill
  | [] => .ok f
  | p :: ps => (fillParam env f i p).bind fun f => fillParams env f (i + 1) ps

/-- The payload `attachsql_stmt_execute` builds, with the statement whose buffer it is built in. -/
def execPayload (env : Env) (stmt : Stmt) : Except ExecFailure (Stmt × List UInt8) :=
  match stmtCheckBufferSize env stmt 2060 with
  | none => .error (.noMemory stmt)
  | some stmt =>
    let params := (stmt.paramData.getD []).take stmt.paramCount
    if params.length ≠ stmt.paramCount then .error .outside
    else
      let head := packInt4 stmt.id ++ [0] ++ packInt4 1 ++ nullBitmap params ++ [if stmt.newBind then 1 else 0]
      let f := { stmt := stmt, typePos := 0, pos := 0, outside := false : Fill }.push head
      let types := (params.filter (·.type ≠ columnTypeNull)).length
      let f := { f with typePos := f.pos, pos := f.pos + types * 2 }
      (fillParams env f 0 params).bind fun f =>
        if f.outside ∨ f.stmt.execBufferLength < f.pos then .error .outside
        else .ok (f.stmt, f.stmt.execBuffer.slice 0 f.pos)

/-- `attachsql_stmt_execute`. -/
def stmtExecute (env : Env) (con : Con) (stmt : Stmt) : Con × Bool :=
  match execPayload env stmt with
  | .error (.noMemory stmt) => ({ con with stmt := some stmt }.sendFailed .execAlloc .outOfMemoryError, false)
  | .error (.badParameter stmt) =>
    ({ con with stmt := some stmt }.sendFailed .badStmtParameter .badStmtParameter, false)
  | .error .outside => (con.log .fault, false)
  | .ok (stmt, payload) =>
    let (con, ret) := commandSend env { con with stmt := some stmt } .stmtExecute payload
    (con, ret = .send)

/-- `attachsql_statement_execute`. -/
def statementExecute (env : Env) (con : Con) (error : ErrorPtr) : Con × ErrorPtr × Bool :=
  match con.stmt with
  | none => (con, errorClientCreate env error errorCodeParameter "22023" "No statement prepared", false)
  | some stmt =>
    match stmtExecute env (commandFree con) stmt with
    | (con, true) => (con, error, true)
    | (con, false) =>
      if con.localErrcode = .badStmtParameter then
        (con, errorClientCreate env error errorCodeParameter "22023" "Bad parameter bound to statement", false)
      else
        (con, errorClientCreate env error errorCodeAlloc "82100" "Allocation failure for statement object", false)

/-! ### Commands with a statement id -/

/-- The bytes behind the command byte in the write buffer. -/
def writeExtra (con : Con) (bytes : List UInt8) : Con :=
  { con with writeBuffer := con.writeBuffer.store 1 bytes, writeBufferExtra := bytes.length }

/-- `attachsql_statement_close`. -/
def statementClose (env : Env) (con : Con) : Con :=
  let con := { con with stmtRow := none, own := con.own.freeStmtRow }
  match con.stmt with
  | none => con
  | some stmt =>
    (commandSend env (writeExtra (commandFree { con with stmt := none }) (packInt4 stmt.id)) .stmtClose []).1

/-- A command about the prepared statement: refused without one, and an error when it cannot be sent. -/
def statementCommand (env : Env) (con : Con) (command : Command) (extra : Stmt → List UInt8) (data : List UInt8)
    (error : ErrorPtr) : Con × ErrorPtr × Bool :=
  match con.stmt with
  | none => (con, errorClientCreate env error errorCodeParameter "22023" "No statement prepared", false)
  | some stmt =>
    match commandSend env (writeExtra con (extra stmt)) command data with
    | (con, .sendFailed) => (con, errorClientCreate env error errorCodeServerGone "08006" con.errmsg, false)
    | (con, _) => (con, error, true)

/-- `attachsql_statement_reset`. -/
def statementReset (env : Env) (con : Con) (error : ErrorPtr) : Con × ErrorPtr × Bool :=
  statementCommand env con .stmtReset (fun stmt => packInt4 stmt.id) [] error

/-- `attachsql_statement_send_long_data`. -/
def statementSendLongData (env : Env) (con : Con) (param : ℕ) (data : List UInt8) (error : ErrorPtr) :
    Con × ErrorPtr × Bool :=
  statementCommand env con .stmtSendLongData (fun stmt => packInt4 stmt.id ++ packInt2 param) data error

/-! ### Rows of a statement -/

/-- The bytes that stand before the value of a column in a row, and the length of the value, by the type of the column;
`none` for a type the function does not know.  The length of a date or time is a `char`. -/
def stmtValue (m : Memory UInt8) (p type : ℕ) : Option (ℕ × ℕ) :=
  if type ∈ [0xfe, 0x0f, 0xfd, 0xf7, 0xf8, 0xfb, 0xfa, 0xf9, 0xfc, 0xff, 0x10, 0x00, 0xf6] then
    some ((unpackLength m p).bytes, (unpackLength m p).length)
  else if type ∈ [0x0a, 0x0c, 0x07, 0x0b] then some (1, sizeT (signedChar (m p)))
  else if type ∈ [0x08, 0x05] then some (0, 8)
  else if type ∈ [0x03, 0x09, 0x04] then some (0, 4)
  else if type ∈ [0x02, 0x0d] then some (0, 2)
  else if type = 0x01 then some (0, 1)
  else if type = columnTypeNull then some (0, 0)
  else none

/-- The loop of `attachsql_statement_row_get` over the columns from number `i` on, with the NULL bitmap at `bitmap`:
the cells before a type it does not know, and whether there was one. -/
def stmtCells (m : Memory UInt8) (bitmap : ℕ) : ℕ → ℕ → List Column → List StmtCell × Bool
  | _, _, [] => ([], true)
  | i, p, column :: columns =>
    let isNull := (m (bitmap + (i + 2) / 8)).toNat.testBit ((i + 2) % 8)
    let type := if isNull then columnTypeNull else column.type.toNat
    match stmtValue m p type with
    | none => ([], false)
    | some (bytes, length) =>
      let (cells, ok) := stmtCells m bitmap (i + 1) (ptrAdd (p + bytes) length) columns
      ({ data := p + bytes, length := length, type := type } :: cells, ok)

/-- The end of `attachsql_statement_row_get`: the cells of the row are written to `stmt_row`. -/
def writeStmtRow (env : Env) (con : Con) (row : List StmtCell) (error : ErrorPtr) : Con × ErrorPtr × Bool :=
  match con.result.rowData, con.result.columns with
  | some p, some columns =>
    if row.length < con.result.columnCount ∨ columns.length < con.result.columnCount then (con.log .fault, error, false)
    else
      let n := con.result.columnCount
      let (cells, ok) := stmtCells con.buf.mem (p + 1) 0 (p + 1 + (n + 9) / 8) (columns.take n)
      let con := { con with stmtRow := some (cells ++ row.drop cells.length), own := con.own.useStmtRow }
      if ok then (con, error, true)
      else (con, errorClientCreate env error errorCodeUnknown "60000" "Bad data in statement result", false)
  | _, _ => (con.log .fault, error, false)

/-- `attachsql_statement_row_get`. -/
def statementRowGet (env : Env) (con : Con) (error : ErrorPtr) : Con × ErrorPtr × Bool :=
  let ok := env.newArray con.result.columnCount sizeofStmtCell
  let con := { con with
    stmtRow := if con.stmtRow.isNone ∧ ok then some (List.replicate con.result.columnCount ⟨0, 0, columnTypeNull⟩)
      else con.stmtRow
    own := con.own.newStmtRow ok }
  match con.stmtRow with
  | none => (con, errorClientCreate env error errorCodeAlloc "82100" "Allocation failure for row", false)
  | some row => writeStmtRow env con row error

/-- What the functions `attachsql_statement_get_*` for a value do first: the cell of a column of the row. -/
def statementGet (env : Env) (con : Con) (column : ℕ) (error : ErrorPtr) : Con × ErrorPtr × Option StmtCell :=
  match con.stmtRow with
  | none =>
    (con, errorClientCreate env error errorCodeParameter "22023" "Statement row has not been processed", none)
  | some row =>
    if con.result.columnCount ≤ column then
      (con, errorClientCreate env error errorCodeParameter "22023" s!"Column {column} does not exist", none)
    else ({ con with own := con.own.readStmtRow }, error, row[column]?)

/-- `attachsql_statement_get_column_type`. -/
def statementGetColumnType (con : Con) (column : ℕ) : Con × Option UInt8 :=
  if con.result.columnCount ≤ column then (con, none)
  else
    match con.result.columns with
    | none => (con.log .fault, none)
    | some columns => ({ con with own := con.own.useResultColumns }, columns[column]?.map (·.type))

end LibAttachSql
