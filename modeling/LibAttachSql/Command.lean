import LibAttachSql.Receive

/-!
# Commands and queries

`command.cc` and the parts of `query.cc` that send a query, read rows and buffer them.
-/

namespace LibAttachSql

open Lib

/-! ### Commands -/

/-- What a command and a further result reset. -/
def resetInternals (con : Con) : Con :=
  { con with
    result.currentColumn := 0, affectedRows := 0, insertId := 0, serverStatus := 0, warningCount := 0
    serverErrno := 0 }

/-- The end of a send: the command is on its way. -/
def commandSent (con : Con) : Con := { con.log (.sent con.status) with commandStatus := .send, status := .busy }

/-- `attachsql_command_send_compressed`. -/
def commandSendCompressed (env : Env) (con : Con) (command : Command) (data : List UInt8) : Con × CommandStatus :=
  let con := sendCompressedPacket env con data (some command)
  if con.status = .idle then
    let con := packetQueuePush env con (if command = .stmtPrepare then .prepareResponse else .response)
    (commandSent con, .send)
  else (con, con.commandStatus)

/-- The packet `attachsql_command_send` expects in answer to a command. -/
def expectedResponse (env : Env) (con : Con) (command : Command) : Con :=
  match command with
  | .stmtPrepare => packetQueuePush env con .prepareResponse
  | .stmtReset | .stmtClose => con
  | _ => packetQueuePush env con .response

/-- The write of `attachsql_command_send` without compression. -/
def commandWrite (env : Env) (con : Con) (command : Command) (data : List UInt8) : Con × Option String :=
  let con := { con with writeBuffer := con.writeBuffer.store 0 [command.code] }
  let head := con.writeBuffer.slice 0 (1 + con.writeBufferExtra)
  let con := { con with writeBufferExtra := 0 }
  netWrite env con (if 0 < data.length then [con.packetHeader, head, data] else [con.packetHeader, head])

/-- `attachsql_command_send` without compression. -/
def commandSendPlain (env : Env) (con : Con) (command : Command) (data : List UInt8) : Con × CommandStatus :=
  match commandWrite env con command data with
  | (con, some name) =>
    ({ con.sendFailed .commandSend .netWriteError with errmsg := "Query send failed: " ++ name }, .sendFailed)
  | (con, none) => (commandSent (expectedResponse env con command), .send)

/-- The start of `attachsql_command_send`. -/
def commandStart (con : Con) (command : Command) (length : ℕ) : Con :=
  let con := ((resetInternals con).log (.command command con.status)).log (.onStream con.stream con.ssl.handshakeDone)
  { con with
    localErrcode := .ok
    errmsg := ""
    packetNumber := 0
    packetHeader := packInt3 (length + 1 + con.writeBufferExtra) ++ [0] }

lemma commandStart_wantsCompress (con : Con) (command : Command) (length : ℕ) :
    (commandStart con command length).wantsCompress = con.wantsCompress := by
  simp only [Con.wantsCompress, commandStart, resetInternals, Con.log]

/-- `attachsql_command_send`. -/
def commandSend (env : Env) (con : Con) (command : Command) (data : List UInt8) : Con × CommandStatus :=
  let con := commandStart con command data.length
  if con.wantsCompress then commandSendCompressed env con command data else commandSendPlain env con command data

/-- `attachsql_get_next_row`: the packet before is ended and a row is expected. -/
def getNextRow (env : Env) (con : Con) : Con :=
  match con.readBuffer with
  | none => con.log .fault
  | some _ =>
    let con := packetQueuePush env ((packetReadEnd con).log .rowRequested) .row
    (processPackets env { con with commandStatus := .readRow }).1

/-- `attachsql_command_next_result`. -/
def commandNextResult (env : Env) (con : Con) : Con × Bool :=
  if con.serverStatus.testBit serverStatusMoreResults then
    let con := packetQueuePush env ((resetInternals con).log (.nextResult con.status)) .response
    ({ con with commandStatus := .readResponse, status := .busy }, true)
  else (con, false)

/-- `attachsql_command_free`. -/
def commandFree (con : Con) : Con := { con with result.columns := none, own := con.own.freeResultColumns }

/-! ### Rows -/

/-- The loop of `attachsql_query_row_get` and `attachsql_query_row_buffer` over the columns of a row at `p`. -/
def readCells (m : Memory UInt8) : ℕ → ℕ → List Cell
  | 0, _ => []
  | n + 1, p =>
    let len := unpackLength m p
    { data := p + len.bytes, length := len.length } :: readCells m n (ptrAdd (p + len.bytes) len.length)

lemma length_readCells (m : Memory UInt8) (n p : ℕ) : (readCells m n p).length = n := by
  induction n generalizing p with
  | zero => rfl
  | succ n ih => exact congrArg (· + 1) (ih _)

/-- The cells of the row in the read buffer.  A null row is read at address 0. -/
def Con.rowCells (con : Con) : List Cell :=
  readCells con.buf.mem con.result.columnCount (con.result.rowData.getD 0)

/-- The growth at the start of a round of `attachsql_query_row_buffer`, and whether it succeeds.  After a query was
closed the array is freed and asked to grow all the same. -/
def rowBufferGrow (env : Env) (con : Con) : Con × Bool :=
  if con.rowBufferAllocSize ≤ con.rowBufferCount then
    let ok := (env.malloc.get ((con.rowBufferAllocSize + bufferRowAllocSize) * 8)).isSome
    let stale := con.own.stale
    let con := { con with
      rowBufferAllocSize := con.rowBufferAllocSize + bufferRowAllocSize
      own := con.own.growRowBuffer ok }.log (.rowBufferGrown stale)
    if stale then (con.log .fault, false) else (con, ok)
  else (con, true)

/-- One round of `attachsql_query_row_buffer`: the row is kept and the next one is asked for.  The answer is the text of
an allocation failure. -/
def queryRowBufferRound (env : Env) (con : Con) : Con × Option String :=
  match rowBufferGrow env con with
  | (con, false) => (con, some "Allocation failure for row buffer")
  | (con, true) =>
    if env.newArray con.result.columnCount sizeofCell then
      if con.result.rowData.isNone ∧ con.result.columnCount ≠ 0 ∨ con.own.rowBuffer.isNone then (con.log .fault, none)
      else
        let con := { con with
          rowBuffer := con.rowBuffer.take con.rowBufferCount ++ [con.rowCells]
          rowBufferCount := con.rowBufferCount + 1
          own := con.own.newBufferedRow }.log .rowKept
        (getNextRow env con, none)
    else (con, some "Allocation failure for row")

/-- The loop of `attachsql_query_row_buffer`, with a bound on the number of rounds.  A round repeats the body only when
a row arrived without making the connection idle, which no reader does. -/
def queryRowBufferLoop (env : Env) : ℕ → Con → Con × Option String
  | 0, con => (con, none)
  | n + 1, con =>
    match queryRowBufferRound env con with
    | (con, some failure) => (con, some failure)
    | (con, none) =>
      let (con, more) := processPackets env con
      if more ∧ con.status ≠ .idle then queryRowBufferLoop env n con else (con, none)

end LibAttachSql
