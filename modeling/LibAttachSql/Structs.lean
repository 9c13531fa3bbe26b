import LibAttachSql.Buffer
import LibAttachSql.Own
import LibAttachSql.Pack

/-!
# The connection

The records of `structs.h`, as far as the modelled functions read or write them, and the environment a call runs in:
the allocator, libuv, zlib, OpenSSL and SHA-1, whose answers a run may choose freely.

A connection also carries a trace of what its functions did, newest action first.  The source has no such field; no
function reads it.  It is what the properties of runs are stated on.
-/

namespace LibAttachSql

open Lib

/-! ### The environment -/

/-- The answer of an OpenSSL call that returns a count, a wish for more input, or a failure with its reason. -/
inductive SslResult where
  | done (count : ℕ)
  | wantRead
  | failed (reason : String)

/-- What the code outside the library answers during one step.  OpenSSL is asked several times in one step, so its
answers also depend on how often it was asked. -/
structure Env where
  malloc : Malloc
  /-- `uv_write` of these bytes: `none` on success, else the name of the error. -/
  uvWrite : List UInt8 → Option String
  /-- `uv_getaddrinfo`: `none` on success, else the name of the error. -/
  uvGetaddrinfo : Option String
  /-- `uv_loop_init` succeeds. -/
  uvLoopInit : Bool
  compressBound : ℕ → ℕ
  /-- `compress` into a buffer of the given size; `none` when it does not answer `Z_OK`. -/
  compress : List UInt8 → ℕ → Option (List UInt8)
  /-- `uncompress` into a buffer of the given size; `none` when it does not answer `Z_OK`. -/
  uncompress : List UInt8 → ℕ → Option (List UInt8)
  sha1 : List UInt8 → List UInt8
  sslIsInitFinished : ℕ → Bool
  sslConnect : ℕ → SslResult
  sslRead : ℕ → SslResult
  sslWrite : ℕ → List UInt8 → SslResult
  /-- The chunks `BIO_read` hands out until it is empty. -/
  bioRead : ℕ → List (List UInt8)
  /-- `SSL_read` of at most so many bytes into a network buffer, and the bytes it wrote. -/
  sslReadInto : ℕ → ℕ → SslResult × List UInt8

/-- `new (std::nothrow) T[n]`, for elements of the given size. -/
def Env.newArray (env : Env) (n size : ℕ) : Bool := (env.malloc.get (n * size)).isSome

/-! ### Errors -/

/-- `attachsql_error_t`, made by the client with a number, an SQLSTATE and a text, or from what the server sent. -/
inductive Err where
  | client (code : ℕ) (sqlstate msg : String)
  | server (errno : ℕ) (sqlstate msg : List UInt8)
  deriving DecidableEq

/-- An argument `attachsql_error_t **error`: null, or the place of an error that may have been set. -/
inductive ErrorPtr where
  | null
  | at (err : Option Err)
  deriving DecidableEq

/-! ### Traces -/

/-- The places where a step records a failure or drops one silently. -/
inductive FailSite where
  | loopInit | dns | connectCallback
  | sslDataWrite | sslNetWrite | sslHandleError | sslRefused | sslBioAlloc
  | sendData | uncompressedAlloc | compressedAlloc | compress | sendCompressed | commandSend | writeCallback
  | readCallback | compressedSequence | uncompress | sequence
  | badProtocol | noOldAuth | badScramble
  | stmtAlloc | execAlloc | badStmtParameter | queueAlloc
  deriving DecidableEq, Repr

/-- What a packet can complete: a command or the login with an OK, an error with its number, the end of a result or of
a prepare, or a row that was asked for. -/
inductive Answer where
  | ok
  | err (serverErrno : ℕ)
  | eof
  | row
  deriving DecidableEq, Repr

/-- An error. -/
def Answer.isErr : Answer → Bool
  | .err _ => true
  | _ => false

/-- One thing a function of the library did. -/
inductive Action where
  /-- `attachsql_command_send` was entered, with the status on entry. -/
  | command (c : Command) (status : ConStatus)
  /-- The command is for a connection with a stream, or with a null one, and goes out through OpenSSL or in clear text. -/
  | onStream (stream tls : Bool)
  /-- A command was sent and the connection made busy, with the status before. -/
  | sent (status : ConStatus)
  /-- `attachsql_command_next_result` asked for a further result. -/
  | nextResult (status : ConStatus)
  /-- libuv accepted these bytes of a packet, in clear text. -/
  | write (bytes : List UInt8)
  /-- libuv accepted these bytes, which OpenSSL handed out. -/
  | encrypted (bytes : List UInt8)
  /-- These bytes were put into the buffer OpenSSL encrypts from. -/
  | sslBuffered (bytes : List UInt8)
  /-- A branch that reports a failure was taken, with the status and the server's error number on entry to it. -/
  | failed (site : FailSite) (status : ConStatus) (serverErrno : ℕ)
  /-- A packet passed the sequence check and is handed to the reader of its type, with the status at that moment. -/
  | packet (type : PacketType) (payload : List UInt8) (status : ConStatus)
  /-- A compressed packet passed the sequence check. -/
  | compressedPacket (payload : List UInt8)
  /-- The number in the header of a packet, compressed or not, was compared with the expected one, and the packet
  accepted or not. -/
  | checked (compressed : Bool) (expected byte : UInt8) (accepted : Bool)
  /-- These bytes were appended to the read buffer. -/
  | received (bytes : List UInt8)
  /-- A packet completed something, with the status and the command status before. -/
  | answered (answer : Answer) (status : ConStatus) (commandStatus : CommandStatus)
  /-- The server's status word was read from a packet. -/
  | reported (serverStatus : ℕ)
  /-- A string parameter was escaped, by doubling quotes or with backslashes. -/
  | expanded (noBackslash : Bool)
  /-- A write was completed while no packet was expected, with the status at that moment. -/
  | drained (status : ConStatus)
  /-- `attachsql_query` was called while the connection was not in a query. -/
  | queryBegun
  /-- `attachsql_query_row_next` was called. -/
  | rowNext
  /-- The next row was asked for. -/
  | rowRequested
  /-- A row was put into the row buffer. -/
  | rowKept
  /-- `attachsql_query_close` was called, while rows were not buffered and `row` was a buffered row, or not so. -/
  | queryClosed (shared : Bool)
  /-- `row_buffer` was reallocated, after it had been released, or not so. -/
  | rowBufferGrown (stale : Bool)
  /-- The pool's callback was told of an event. -/
  | callback (event : Event) (error : Option Err)
  /-- A poll that found the end of a result made the command status EOF once more, with the last event told by then. -/
  | eofReported (lastCallback : Event)
  /-- The `assert(0)` at the end of the IDLE case of a poll was reached. -/
  | assertZero
  /-- A null pointer was followed or an array left; what the source does from here on is undefined. -/
  | fault
  deriving DecidableEq

/-! ### Records -/

/-- `column_t`. -/
structure Column where
  schema : List UInt8
  table : List UInt8
  originTable : List UInt8
  column : List UInt8
  originColumn : List UInt8
  charset : ℕ
  length : ℕ
  type : UInt8
  flags : ℕ
  decimals : UInt8
  defaultValue : List UInt8
  defaultSize : ℕ
  deriving DecidableEq, Inhabited

/-- `sizeof(column_t)`. -/
def sizeofColumn : ℕ := 2400

/-- `result_t`.  `columns` is the array `new column_t[n]`, `rowData` an address of the read buffer. -/
structure Result where
  columnCount : ℕ
  columns : Option (List Column)
  currentColumn : ℕ
  rowData : Option ℕ
  rowLength : ℕ

/-- `attachsql_datetime_st`. -/
structure Datetime where
  year : ℕ
  month : ℕ
  day : ℕ
  hour : ℕ
  minute : ℕ
  second : ℕ
  microsecond : ℕ
  isNegative : Bool

/-- The union `attachsql_stmt_param_st::data_t`, with the member that was written last. -/
inductive ParamData where
  | none
  | tinyint (value : ℕ)
  | smallint (value : ℕ)
  | int (value : ℕ)
  | bigint (value : ℕ)
  | float (bytes : List UInt8)
  | double (bytes : List UInt8)
  | datetime (value : Datetime)
  | string (bytes : List UInt8)

/-- `attachsql_stmt_param_st`; `type` is the number of the column type. -/
structure StmtParam where
  type : ℕ
  length : ℕ
  isLongData : Bool
  isUnsigned : Bool
  datetimeAlloc : Bool
  data : ParamData

/-- `ATTACHSQL_COLUMN_TYPE_NULL`. -/
def columnTypeNull : ℕ := 0x06

/-- What the constructor of `attachsql_stmt_param_st` makes. -/
def StmtParam.fresh : StmtParam :=
  { type := columnTypeNull, length := 0, isLongData := false, isUnsigned := false, datetimeAlloc := false
    data := .none }

/-- `sizeof(attachsql_error_t)`. -/
def sizeofError : ℕ := 272

/-- `sizeof(attachsql_stmt_param_st)`. -/
def sizeofStmtParam : ℕ := 32

/-- `attachsql_stmt_st`. -/
structure Stmt where
  id : ℕ
  columnCount : ℕ
  currentColumn : ℕ
  paramCount : ℕ
  params : Option (List Column)
  currentParam : ℕ
  state : StmtState
  execBuffer : Memory UInt8
  execBufferLength : ℕ
  paramData : Option (List StmtParam)
  newBind : Bool

/-- What the constructor of `attachsql_stmt_st` makes. -/
def Stmt.fresh : Stmt :=
  { id := 0, columnCount := 0, currentColumn := 0, paramCount := 0, params := none, currentParam := 0
    state := .none, execBuffer := fun _ => 0, execBufferLength := 0, paramData := none, newBind := true }

/-- `sizeof(attachsql_stmt_st)`. -/
def sizeofStmt : ℕ := 72

/-- `attachsql_query_row_st`: one column of a row, as a pointer into the read buffer. -/
structure Cell where
  data : ℕ
  length : ℕ
  deriving DecidableEq

/-- `attachsql_query_column_st`, as far as `attachsql_query_column_get` fills it in; the names of the column are not. -/
structure QueryColumn where
  schema : List UInt8
  table : List UInt8
  originTable : List UInt8
  charset : ℕ
  length : ℕ
  type : UInt8
  flags : ℕ
  decimals : UInt8
  defaultValue : List UInt8
  defaultSize : ℕ

/-- `attachsql_stmt_row_st`: one column of a row of a statement, as a pointer into the read buffer. -/
structure StmtCell where
  data : ℕ
  length : ℕ
  type : ℕ

/-- `sizeof(attachsql_stmt_row_st)`. -/
def sizeofStmtCell : ℕ := 24

/-- `sizeof(attachsql_query_row_st)`. -/
def sizeofCell : ℕ := 16

/-- What libuv is doing for the connection: nothing yet, resolving the host, connecting, reading, or closed. -/
inductive UvPhase where
  | unused | resolving | connecting | reading | closed
  deriving DecidableEq, Repr

/-- `attachsql_connect_t::ssl_t`.  `ssl` says that `attachsql_connect_set_ssl` made an SSL object; `calls` counts the
calls into OpenSSL. -/
structure Ssl where
  ssl : Bool
  enabled : Bool
  handshakeDone : Bool
  writeBuffer : Option BufferSt
  bioBufferSize : ℕ
  calls : ℕ

/-- `attachsql_connect_t::options_t`. -/
structure Options where
  compression : Bool
  protocol : ConProtocol

/-- `attachsql_connect_t`.  The expected-packet queue is a list with the packet that is popped next first, and
`nextPacketQueueBytes` is the size of its allocation. -/
structure Con where
  port : ℕ
  user : List UInt8
  pass : Option (List UInt8)
  schema : List UInt8
  options : Options
  status : ConStatus
  errmsg : String
  localErrcode : Ret
  readBuffer : Option BufferSt
  readBufferCompress : Option BufferSt
  writeBuffer : Memory UInt8
  writeBufferExtra : ℕ
  packetNumber : UInt8
  threadId : ℕ
  serverVersion : List UInt8
  scrambleBuffer : List UInt8
  packetHeader : List UInt8
  serverCapabilities : ℕ
  clientCapabilities : ℕ
  packetSize : ℕ
  affectedRows : ℕ
  insertId : ℕ
  serverStatus : ℕ
  warningCount : ℕ
  serverErrno : ℕ
  serverMessage : List UInt8
  sqlstate : List UInt8
  charset : UInt8
  result : Result
  commandStatus : CommandStatus
  nextPacketQueue : List PacketType
  nextPacketQueueSize : ℕ
  nextPacketQueueBytes : ℕ
  uncompressedBufferLen : ℕ
  compressedBufferLen : ℕ
  compressedPacketHeader : List UInt8
  compressedPacketNumber : UInt8
  uv : UvPhase
  stream : Bool
  pendingWrites : ℕ
  ssl : Ssl
  stmt : Option Stmt
  pool : Bool
  callbackFn : Bool
  queryBuffer : List UInt8
  queryBufferLength : ℕ
  queryBufferAlloc : Bool
  queryBufferStatement : Bool
  inQuery : Bool
  bufferRows : Bool
  columns : Option (List QueryColumn)
  row : Option (List Cell)
  stmtRow : Option (List StmtCell)
  rowBuffer : List (List Cell)
  rowBufferAllocSize : ℕ
  rowBufferCount : ℕ
  rowBufferPosition : ℕ
  allRowsBuffered : Bool
  lastCallback : Event
  own : Own
  trace : List Action

namespace Con

/-- What the constructor of `attachsql_connect_t` makes, with the arguments of `attachsql_connect_create` in place. -/
def fresh (port : ℕ) (user : List UInt8) (pass : Option (List UInt8)) (schema : List UInt8) : Con where
  port := port
  user := user
  pass := pass
  schema := schema
  options := { compression := false, protocol := .unknown }
  status := .notConnected
  errmsg := ""
  localErrcode := .ok
  readBuffer := none
  readBufferCompress := none
  writeBuffer := fun _ => 0
  writeBufferExtra := 0
  packetNumber := 0
  threadId := 0
  serverVersion := []
  scrambleBuffer := []
  packetHeader := []
  serverCapabilities := 0
  clientCapabilities := 0
  packetSize := 0
  affectedRows := 0
  insertId := 0
  serverStatus := 0
  warningCount := 0
  serverErrno := 0
  serverMessage := []
  sqlstate := []
  charset := 0
  result := { columnCount := 0, columns := none, currentColumn := 0, rowData := none, rowLength := 0 }
  commandStatus := .eof
  nextPacketQueue := []
  nextPacketQueueSize := 0
  nextPacketQueueBytes := 0
  uncompressedBufferLen := 0
  compressedBufferLen := 0
  compressedPacketHeader := []
  compressedPacketNumber := 0
  uv := .unused
  stream := false
  pendingWrites := 0
  ssl := { ssl := false, enabled := false, handshakeDone := false, writeBuffer := none, bioBufferSize := 0, calls := 0 }
  stmt := none
  pool := false
  callbackFn := false
  queryBuffer := []
  queryBufferLength := 0
  queryBufferAlloc := false
  queryBufferStatement := false
  inQuery := false
  bufferRows := false
  columns := none
  row := none
  stmtRow := none
  rowBuffer := []
  rowBufferAllocSize := 0
  rowBufferCount := 0
  rowBufferPosition := 0
  allRowsBuffered := false
  lastCallback := .none
  own := .fresh
  trace := []

/-- Puts an action on the trace. -/
def log (con : Con) (a : Action) : Con := { con with trace := a :: con.trace }

/-- Records that a branch that reports a failure is taken. -/
def fail (con : Con) (site : FailSite) : Con := con.log (.failed site con.status con.serverErrno)

/-- The read buffer.  The packet readers run only once it is there. -/
def buf (con : Con) : BufferSt :=
  con.readBuffer.getD
    { buffer := 0, bufferSize := 0, bufferUsed := 0, bufferWritePtr := 0, bufferReadPtr := 0, packetEndPtr := none
      mem := fun _ => 0 }

/-- The byte `i` places behind the read pointer of the read buffer. -/
def peekByte (con : Con) (i : ℕ) : UInt8 := con.buf.mem (con.buf.bufferReadPtr + i)

/-- Whether a bit of the client's capabilities is set. -/
def wantsCompress (con : Con) : Bool := con.clientCapabilities.testBit capabilityCompress

end Con

end LibAttachSql
