import LibAttachSql.Command

/-!
# Connecting and the callbacks of libuv

The parts of `connect.cc`, `net.cc` and `error.cc` that open a connection, hand errors and events to the application,
and react to what libuv reports.

Two things run code that is not part of a function: `uv_run` runs the callbacks of what has happened on the network,
and the callback of a pool runs whatever the application does in it.  Both are taken as functions on the connection.
-/

namespace LibAttachSql

open Lib

/-- What runs inside a call: one turn of the event loop, and the pool's callback for an event. -/
structure World where
  uvRun : Con → Con
  callback : Event → Con → Con

/-! ### Errors and events -/

/-- `attachsql_error_client_create`. -/
def errorClientCreate (env : Env) (error : ErrorPtr) (code : ℕ) (sqlstate msg : String) : ErrorPtr :=
  match error with
  | .null => .null
  | .at old => if env.newArray 1 sizeofError then .at (some (.client code sqlstate msg)) else .at old

/-- `attachsql_error_server_create`. -/
def errorServerCreate (env : Env) (con : Con) (error : ErrorPtr) : ErrorPtr :=
  match error with
  | .null => .null
  | .at old =>
    if env.newArray 1 sizeofError then
      .at (some (.server con.serverErrno con.sqlstate (con.serverMessage.take (messageSize - 1))))
    else .at old

/-- `attachsql_send_callback`, called with `*error`. -/
def sendCallback (w : World) (con : Con) (event : Event) (error : ErrorPtr) : Con :=
  match error with
  | .null => con.log .fault
  | .at err =>
    if event = con.lastCallback then con
    else if con.pool ∧ con.callbackFn then
      w.callback event ({ con with lastCallback := event }.log (.callback event err))
    else con

/-- `attachsql_run_uv_loop`: the loop of a pool is not run here. -/
def runUvLoop (w : World) (con : Con) : Con := if con.pool then con else w.uvRun con

/-! ### Opening a connection -/

/-- A failure to connect. -/
def connectFailed (con : Con) (site : FailSite) (errcode : Ret) (errmsg : String) : Con :=
  { con.fail site with status := .connectFailed, localErrcode := errcode, errmsg := errmsg }

/-- The protocol `attachsql_do_connect` takes when none was chosen. -/
def chooseProtocol (con : Con) : ConProtocol :=
  match con.options.protocol with
  | .unknown => if con.port = 0 then .uds else .tcp
  | protocol => protocol

/-- `attachsql_do_connect`. -/
def doConnect (env : Env) (w : World) (con : Con) : Con :=
  if con.status ≠ .notConnected then con
  else if ¬ con.pool ∧ ¬ env.uvLoopInit then
    connectFailed con .loopInit .outOfMemoryError
      "Loop initialization failure, either out of memory or out of file descripitors (usually the latter)"
  else
    let con := { con with options.protocol := chooseProtocol con }
    if con.options.protocol = .tcp then
      match env.uvGetaddrinfo with
      | some name => connectFailed con .dns .dnsError ("DNS lookup failure: " ++ name)
      | none => runUvLoop w { con with status := .connecting, uv := .resolving }
    else runUvLoop w { con with status := .connecting, uv := .connecting }

/-- The error of a connection whose status is CONNECT_FAILED. -/
def connectError (env : Env) (con : Con) (error : ErrorPtr) : ErrorPtr :=
  if con.localErrcode = .dnsError then errorClientCreate env error errorCodeHostUnknown "08000" con.errmsg
  else if con.serverErrno ≠ 0 then errorServerCreate env con error
  else errorClientCreate env error errorCodeConnect "08000"
    (if con.errmsg ≠ "" then con.errmsg else "Unknown connection failure")

/-- What `attachsql_connect` and `attachsql_connect_poll` do for an error status: the error is made and the callback
told of it. -/
def reportError (env : Env) (w : World) (con : Con) (error : ErrorPtr) : Con × ErrorPtr :=
  let error := match con.status with
    | .parameterError => errorClientCreate env error errorCodeParameter "22023" "Bad parameter"
    | .connectFailed => connectError env con error
    | .sslError => errorClientCreate env error errorCodeSsl "08000" con.errmsg
    | .netError => errorClientCreate env error errorCodeServerLost "08006" con.errmsg
    | _ => error
  (sendCallback w con .error error, error)

/-- `attachsql_connect`. -/
def connect (env : Env) (w : World) (con : Con) (error : ErrorPtr) : Con × ErrorPtr × Bool :=
  let con := doConnect env w con
  match con.status with
  | .notConnected | .connecting => (con, error, true)
  | .busy => (con, error, false)
  | .idle => (if con.commandStatus = .connected then sendCallback w con .connected error else con, error, true)
  | .parameterError | .connectFailed | .sslError | .netError =>
    let (con, error) := reportError env w con error
    (con, error, false)

/-! ### The callbacks of libuv -/

/-- `on_resolved`; the argument is the name of the error of a failed lookup. -/
def onResolved (con : Con) (failure : Option String) : Con :=
  match failure with
  | some name => connectFailed { con with uv := .unused } .dns .dnsError ("DNS lookup failure: " ++ name)
  | none => { con with uv := .connecting }

/-- `on_connect`; the argument is the name of the error of a failed connect. -/
def onConnect (env : Env) (con : Con) (failure : Option String) : Con :=
  match failure with
  | some name =>
    connectFailed { con with uv := .unused } .connectCallback .connectError ("Connection failed: " ++ name)
  | none => { packetQueuePush env con .handshake with stream := true, uv := .reading }

/-- The part of `on_alloc` that makes room in the read buffer, or in the compressed one. -/
def allocBuffer (env : Env) (buffer : Option BufferSt) (suggestedSize : ℕ) : Option BufferSt :=
  let buffer := match buffer with
    | some b => some b
    | none => bufferCreate env.malloc
  if bufferGetAvailable buffer < suggestedSize then (bufferIncrease env.malloc buffer).2 else buffer

/-- The growth of the buffer for encrypted data in `on_alloc`. -/
def allocBio (env : Env) (con : Con) (suggestedSize : ℕ) : Con :=
  if con.ssl.handshakeDone ∧ con.ssl.bioBufferSize < suggestedSize then
    if (env.malloc.get suggestedSize).isSome then { con with ssl.bioBufferSize := suggestedSize }
    else con.sendFailed .sslBioAlloc .outOfMemoryError
  else con

/-- The end of `on_alloc`: the buffer libuv reads into, with its length; `none` is a null pointer followed. -/
def handOut (con : Con) (buffer : Option BufferSt) : Con × Option ℕ :=
  match buffer with
  | none => (con.log .fault, none)
  | some b => (con, some (if con.ssl.handshakeDone then con.ssl.bioBufferSize else b.available))

/-- `on_alloc`, with the length of the buffer it hands to libuv. -/
def onAlloc (env : Env) (con : Con) (suggestedSize : ℕ) : Con × Option ℕ :=
  let con := allocBio env con suggestedSize
  if con.options.compression then
    let buffer := allocBuffer env con.readBufferCompress suggestedSize
    handOut { con with readBufferCompress := buffer } buffer
  else
    let buffer := allocBuffer env con.readBuffer suggestedSize
    handOut { con with readBuffer := buffer } buffer

/-- The failure branch of the callbacks: the stream is closed. -/
def netError (con : Con) (errmsg : String) : Con :=
  { con with status := .netError, errmsg := errmsg, uv := .closed }

/-- The first part of `on_write`: with nothing expected, the command is over. -/
def writeDone (con : Con) : Con :=
  if packetQueuePeek con = none then { con with status := .idle, commandStatus := .eof } else con

/-- The body of `on_write`. -/
def writeEnd (con : Con) (failure : Option String) : Con :=
  match failure with
  | none => if packetQueuePeek con = none then (writeDone con).log (.drained con.status) else con
  | some name => netError ((writeDone con).sendFailed .writeCallback .netWriteError) ("Net write failure: " ++ name)

/-- `on_write`; the argument is the name of the error of a failed write. -/
def onWrite (con : Con) (failure : Option String) : Con :=
  writeEnd { con with pendingWrites := con.pendingWrites - 1 } failure

/-- `attachsql_read_data_cb` for a failed read. -/
def readErrorCb (con : Con) (name : String) : Con :=
  netError (con.readFailed .readCallback .netReadError) ("Net read failure: " ++ name)

/-- `SSL_read` into a network buffer, in `attachsql_read_data_cb`: what the buffer becomes, the result, and the bytes
that were read. -/
def sslReadBuffer (env : Env) (con : Con) (b : BufferSt) : BufferSt × SslResult × List UInt8 :=
  match env.sslReadInto con.ssl.calls b.available with
  | (.done n, bytes) => (if 0 < n then b.append (bytes.take n) else b, .done n, bytes.take n)
  | (r, _) => (b, r, [])

/-- The network buffer with the bytes of a read: the compressed one or the read buffer. -/
def storeRead (con : Con) (b : BufferSt) (bytes : List UInt8) : Con :=
  if con.options.compression then { con with readBufferCompress := some b }
  else { con with readBuffer := some b }.log (.received bytes)

/-- `attachsql_read_data_cb` for bytes libuv has written into the buffer `on_alloc` gave it. -/
def readDataCb (env : Env) (con : Con) (bytes : List UInt8) : Con :=
  match if con.options.compression then con.readBufferCompress else con.readBuffer with
  | none => con.log .fault
  | some b =>
    if con.ssl.handshakeDone then
      let (b, r, bytes) := sslReadBuffer env con b
      let con := { con with ssl.calls := con.ssl.calls + 1 }
      sslResult env (storeRead con b bytes) r
    else (processPackets env (storeRead con (b.append bytes) bytes)).1

/-- One read of libuv: it asks for a buffer, and reports what it read into it, which is never more than fits.  With no
room in the buffer it reports `ENOBUFS`. -/
def uvRead (env : Env) (con : Con) (suggestedSize : ℕ) (bytes : List UInt8) : Con :=
  match onAlloc env con suggestedSize with
  | (con, none) => con
  | (con, some 0) => readErrorCb con "ENOBUFS"
  | (con, some (n + 1)) => readDataCb env con (bytes.take (n + 1))

/-- `attachsql_check_for_data_cb`. -/
def checkForDataCb (env : Env) (con : Con) : Con := (processPackets env con).1

end LibAttachSql
