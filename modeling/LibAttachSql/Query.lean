import LibAttachSql.Statement

/-!
# Queries

`query.cc`: expanding the parameters of a query, sending it, and the calls that walk through its results.
-/

namespace LibAttachSql

open Lib

/-! ### Escaping -/

/-- The `'` of the source. -/
def quote : UInt8 := 0x27

/-- The `\` of the source. -/
def backslash : UInt8 := 0x5c

/-- `attachsql_query_no_backslash_escape_data`: what it writes. -/
def queryNoBackslashEscapeData (data : List UInt8) : List UInt8 :=
  data.flatMap fun c => if c = quote then [quote, c] else [c]

/-- The letter a byte is replaced by in `attachsql_query_escape_data`; bytes from 0x80 on are left alone. -/
def escapeLetter (c : UInt8) : Option UInt8 :=
  if c &&& 0x80 ≠ 0 then none
  else if c = 0x00 then some 0x30
  else if c = 0x0a then some 0x6e
  else if c = 0x0d then some 0x72
  else if c = 0x1a then some 0x5a
  else if c = backslash then some backslash
  else if c = quote then some quote
  else if c = 0x22 then some 0x22
  else none

/-- `attachsql_query_escape_data`: what it writes. -/
def queryEscapeData (data : List UInt8) : List UInt8 :=
  data.flatMap fun c => match escapeLetter c with
    | some letter => [backslash, letter]
    | none => [c]

/-! ### Parameters -/

/-- `attachsql_query_parameter_st`, by its type.  Numbers are given as the bits behind the data pointer, and a
floating-point number by the text `snprintf` makes of it. -/
inductive QueryParameter where
  | none (data : List UInt8)
  | char (data : List UInt8)
  | charLike (data : List UInt8)
  | int (bits : BitVec 32) (isUnsigned : Bool)
  | bigint (bits : BitVec 64) (isUnsigned : Bool)
  | float (text : List UInt8)
  | double (text : List UInt8)

/-- The bytes of a decimal number, as `sprintf` writes it. -/
def decimal (n : ℤ) : List UInt8 := (toString n).toList.map fun c => UInt8.ofNat c.toNat

/-- The escaping of a string parameter, in the mode the last known server status asks for. -/
def escapeParameter (con : Con) (data : List UInt8) : Con × List UInt8 :=
  let noBackslash := con.serverStatus.testBit serverStatusNoBackslashEscapes
  (con.log (.expanded noBackslash), if noBackslash then queryNoBackslashEscapeData data else queryEscapeData data)

/-- What `attachsql_query` writes in place of a question mark.  An unsigned BIGINT is written as a signed one, and a
signed one as an unsigned one. -/
def expandParameter (con : Con) : QueryParameter → Con × List UInt8
  | .none data => (con, data)
  | .char data => let (con, escaped) := escapeParameter con data; (con, quote :: escaped ++ [quote])
  | .charLike data => escapeParameter con data
  | .int bits isUnsigned => (con, decimal (if isUnsigned then bits.toNat else bits.toInt))
  | .bigint bits isUnsigned => (con, decimal (if isUnsigned then bits.toInt else bits.toNat))
  | .float text => (con, text)
  | .double text => (con, text)

/-- The loop of `attachsql_query` over the statement.  A question mark with no parameter left reads past the array. -/
def expandQuery (con : Con) : List UInt8 → List QueryParameter → Con × List UInt8
  | [], _ => (con, [])
  | c :: cs, params =>
    if c ≠ 0x3f then
      let (con, text) := expandQuery con cs params
      (con, c :: text)
    else
      match params with
      | [] => (con.log .fault, [])
      | p :: params =>
        let (con, value) := expandParameter con p
        let (con, text) := expandQuery con cs params
        (con, value ++ text)

/-- The room `attachsql_query` makes for a parameter. -/
def parameterRoom : QueryParameter → ℕ
  | .none data => data.length
  | .char data => data.length * 2 + 2
  | .charLike data => data.length * 2
  | .int _ _ => 10
  | .bigint _ _ => 20
  | .float _ => floatMaxLen
  | .double _ => doubleMaxLen

/-- The query buffer a query was expanded into. -/
def setQueryBuffer (con : Con) (text : List UInt8) (alloc : Bool) : Con :=
  { con with
    queryBuffer := text
    queryBufferLength := text.length
    queryBufferAlloc := alloc
    queryBufferStatement := false
    own := if alloc then con.own else con.own.dropQueryBuffer }

/-- The end of `attachsql_query`: the text is sent now, or kept until the connection is there. -/
def querySend (env : Env) (w : World) (con : Con) (text : List UInt8) (error : ErrorPtr) : Con × ErrorPtr × Bool :=
  if con.status = .notConnected then connect env w con error
  else
    match commandSend env con .query text with
    | (con, .sendFailed) => (con, errorClientCreate env error errorCodeServerGone "08006" con.errmsg, false)
    | (con, _) => (con, error, true)

/-- `attachsql_query`. -/
def query (env : Env) (w : World) (con : Con) (statement : List UInt8) (parameters : List QueryParameter)
    (error : ErrorPtr) : Con × ErrorPtr × Bool :=
  if con.inQuery then
    (con, errorClientCreate env error errorCodeOutOfSync "08002" "Connection already used for query", false)
  else
    let con := { con with inQuery := true }.log .queryBegun
    if parameters = [] then
      querySend env w (if con.status = .notConnected then setQueryBuffer con statement false else con) statement error
    else
      let outLen := statement.length + 1 + (parameters.map parameterRoom).sum
      if env.newArray outLen 1 ∨ statement = [] then
        let (con, text) := expandQuery { con with own := con.own.newQueryBuffer } statement parameters
        querySend env w (setQueryBuffer con text true) text error
      else (con.log .fault, error, false)

/-! ### Walking through results -/

/-- `attachsql_query_close`.  The array of buffered rows is released, but its pointer stays. -/
def queryClose (con : Con) : Con :=
  let ownsText := con.queryBufferAlloc && con.queryBufferLength != 0
  let con := con.log (.queryClosed (!con.bufferRows && con.own.rowShared))
  let con := commandFree { con with
    queryBufferAlloc := false
    queryBufferLength := 0
    columns := none
    row := none
    inQuery := con.inQuery && con.serverStatus.testBit serverStatusMoreResults
    own := con.own.closeQuery ownsText con.bufferRows }
  { con with
    own := con.own.closeRows (decide (0 < con.rowBufferAllocSize))
    rowBufferAllocSize := 0
    rowBufferPosition := 0
    rowBufferCount := 0
    allRowsBuffered := false }

/-- The copy `attachsql_query_column_get` makes of a column. -/
def queryColumn (column : Column) : QueryColumn where
  schema := column.schema
  table := column.table
  originTable := column.originTable
  charset := column.charset
  length := column.length
  type := column.type
  flags := column.flags
  decimals := column.decimals
  defaultValue := column.defaultValue
  defaultSize := column.defaultSize

/-- The array `attachsql_query_column_get` copies the columns into when it is asked for the first time. -/
def queryColumns (con : Con) : Con :=
  match con.columns, con.result.columns with
  | some _, _ => con
  | none, none => con.log .fault
  | none, some columns => { con with columns := some (columns.map queryColumn), own := con.own.getColumns }

/-- `attachsql_query_column_get`; columns are counted from 1. -/
def queryColumnGet (con : Con) (column : ℕ) : Con × Option QueryColumn :=
  if con.result.columnCount < column ∨ column < 1 then (con, none)
  else
    let con := queryColumns con
    (con, con.columns.bind (·[column - 1]?))

/-- The end of `attachsql_query_row_get`: the cells of the row are written to the array `row`. -/
def writeRow (con : Con) (row : List Cell) : Con × Option (List Cell) :=
  if con.result.rowData.isNone ∧ con.result.columnCount ≠ 0 ∨ row.length < con.result.columnCount then
    (con.log .fault, none)
  else
    let row := con.rowCells ++ row.drop con.result.columnCount
    ({ con with row := some row, own := con.own.useRow }, some row)

/-- `attachsql_query_row_get`. -/
def queryRowGet (env : Env) (con : Con) (error : ErrorPtr) : Con × ErrorPtr × Option (List Cell) :=
  if con.bufferRows then
    (con, errorClientCreate env error errorCodeBufferedMode "42000"
      "Cannot use function whilst buffering mode is enabled", none)
  else if con.commandStatus ≠ .rowInBuffer then
    (con, errorClientCreate env error errorCodeNoData "02000" "No more data to retreive", none)
  else
    let ok := env.newArray con.result.columnCount sizeofCell
    let con := { con with
      row := if con.row.isNone ∧ ok then some (List.replicate con.result.columnCount ⟨0, 0⟩) else con.row
      own := con.own.newRow ok }
    match con.row with
    | none => (con, errorClientCreate env error errorCodeAlloc "82100" "Allocation failure for row", none)
    | some row =>
      let (con, row) := writeRow con row
      (con, error, row)

/-- `attachsql_query_row_next`. -/
def queryRowNext (env : Env) (con : Con) : Con :=
  let con := { con with lastCallback := .none }.log .rowNext
  if con.bufferRows then con else getNextRow env con

/-- `attachsql_statement_row_next`. -/
def statementRowNext (env : Env) (con : Con) : Con := getNextRow env con

/-- `attachsql_query_next_result`. -/
def queryNextResult (env : Env) (con : Con) : Con × Return :=
  match commandNextResult env con with
  | (con, true) => (con, .processing)
  | (con, false) => (con, .eof)

/-- `attachsql_query_buffer_rows`. -/
def queryBufferRows (con : Con) (enable : Bool) : Con × Bool :=
  if con.inQuery then (con, false) else ({ con with bufferRows := enable }, true)

/-- `attachsql_query_row_count`. -/
def queryRowCount (con : Con) : ℕ :=
  if con.bufferRows = false then 0
  else if con.allRowsBuffered = false then 0
  else con.rowBufferCount

/-- `attachsql_query_row_get_offset`.  It checks the row that is asked for and answers with the one whose turn it is. -/
def queryRowGetOffset (con : Con) (rowNumber : ℕ) : Con × Option (List Cell) :=
  if con.rowBufferCount ≤ rowNumber then (con, none)
  else ({ con with own := con.own.useRowBuffer }, con.rowBuffer[con.rowBufferPosition]?)

/-- `attachsql_query_buffer_row_get`. -/
def queryBufferRowGet (con : Con) : Con × Option (List Cell) :=
  if con.rowBufferCount ≤ con.rowBufferPosition then (con, none)
  else
    let row := con.rowBuffer.getD con.rowBufferPosition []
    ({ con with
        row := some row
        rowBufferPosition := con.rowBufferPosition + 1
        own := con.own.shareRow con.rowBufferPosition }, some row)

/-- `attachsql_connect_destroy`, as far as the objects of a query are concerned. -/
def connectDestroy (con : Con) : Con :=
  let con := if con.inQuery then queryClose con else con
  { con with readBuffer := none, readBufferCompress := none }

end LibAttachSql
