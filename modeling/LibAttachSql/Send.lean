import LibAttachSql.Structs

/-!
# Sending

The send side of `net.cc`: the queue of expected packets, the way through OpenSSL, and the packets that are written
in one piece or compressed.
-/

namespace LibAttachSql

open Lib

/-! ### The queue of expected packets -/

/-- The store at the end of `attachsql_packet_queue_push`, four bytes an entry. -/
def packetQueueStore (con : Con) (packetType : PacketType) : Con :=
  if 4 * (con.nextPacketQueue.length + 1) ≤ con.nextPacketQueueBytes then
    { con with nextPacketQueue := packetType :: con.nextPacketQueue }
  else con.log .fault

/-- `attachsql_packet_queue_push`.  Its answer is used by no caller.  A full queue is given twice its number of
entries in bytes, and a queue whose first allocation failed counts as one of the default size. -/
def packetQueuePush (env : Env) (con : Con) (packetType : PacketType) : Con :=
  if con.nextPacketQueueSize = 0 then
    match env.malloc.get (4 * defaultPacketQueueSize) with
    | none => { con with nextPacketQueueSize := defaultPacketQueueSize }.fail .queueAlloc
    | some _ =>
      packetQueueStore
        { con with
          nextPacketQueueSize := defaultPacketQueueSize
          nextPacketQueueBytes := 4 * defaultPacketQueueSize } packetType
  else if con.nextPacketQueueSize ≤ con.nextPacketQueue.length then
    match env.malloc.get (con.nextPacketQueueSize * 2) with
    | none => con.fail .queueAlloc
    | some _ =>
      packetQueueStore
        { con with
          nextPacketQueueSize := con.nextPacketQueueSize * 2
          nextPacketQueueBytes := con.nextPacketQueueSize * 2 } packetType
  else packetQueueStore con packetType

/-- Whether `attachsql_packet_queue_push` adds a packet to a queue of this length: the queue has room for it, or can be
given as much. -/
def queueHasRoom (env : Env) (con : Con) (used : ℕ) : Bool :=
  if con.nextPacketQueueSize = 0 then
    (env.malloc.get (4 * defaultPacketQueueSize)).isSome ∧ used < defaultPacketQueueSize
  else if con.nextPacketQueueSize ≤ used then
    (env.malloc.get (con.nextPacketQueueSize * 2)).isSome ∧ 4 * (used + 1) ≤ con.nextPacketQueueSize * 2
  else 4 * (used + 1) ≤ con.nextPacketQueueBytes

/-- `attachsql_packet_queue_peek`. -/
def packetQueuePeek (con : Con) : Option PacketType := con.nextPacketQueue.head?

/-- `attachsql_packet_queue_pop`, without the popped entry. -/
def packetQueuePop (con : Con) : Con := { con with nextPacketQueue := con.nextPacketQueue.tail }

/-! ### Failures -/

/-- What the send functions do when they fail: no packet is expected any more, and `status` stays. -/
def Con.sendFailed (con : Con) (site : FailSite) (errcode : Ret) : Con :=
  { con.fail site with localErrcode := errcode, commandStatus := .sendFailed, nextPacketQueue := [] }

/-- What the receive functions do when they fail. -/
def Con.readFailed (con : Con) (site : FailSite) (errcode : Ret) : Con :=
  { con.fail site with localErrcode := errcode, commandStatus := .readFailed, nextPacketQueue := [] }

/-! ### libuv -/

/-- `uv_write` on the stream of the connection, with the name of the error when it fails at once.  `written` is the action
it is recorded as. -/
def uvWrite (env : Env) (con : Con) (written : List UInt8 → Action) (bytes : List UInt8) : Con × Option String :=
  if con.stream then
    match env.uvWrite bytes with
    | none => ({ con with pendingWrites := con.pendingWrites + 1 }.log (written bytes), none)
    | some name => (con, some name)
  else (con.log .fault, none)

/-! ### OpenSSL -/

/-- One chunk of the loop at the end of `attachsql_ssl_data_check`. -/
def sslNetWrite (env : Env) (con : Con) (chunk : List UInt8) : Con :=
  match uvWrite env con .encrypted chunk with
  | (con, none) => con
  | (con, some _) => con.sendFailed .sslNetWrite .netWriteError

/-- The first half of `attachsql_ssl_data_check`: the unread part of the write buffer goes to `SSL_write`. -/
def sslDataWrite (env : Env) (con : Con) : Con :=
  match con.ssl.writeBuffer with
  | none => con
  | some b =>
    if 0 < b.unreadData then
      let n := con.ssl.calls
      let con := { con with ssl.calls := n + 1 }
      match env.sslWrite n (b.mem.slice b.bufferReadPtr b.unreadData) with
      | .done r => { con with ssl.writeBuffer := some (b.advance r) }
      | .wantRead => con
      | .failed reason =>
        { con.sendFailed .sslDataWrite .netSslError with
          status := .sslError, errmsg := "SSL write fail: " ++ reason }
    else con

/-- `attachsql_ssl_data_check`. -/
def sslDataCheck (env : Env) (con : Con) : Con :=
  let con := sslDataWrite env con
  (env.bioRead con.ssl.calls).foldl (sslNetWrite env) { con with ssl.calls := con.ssl.calls + 1 }

/-- `attachsql_ssl_handle_error`, for a negative result of an OpenSSL call. -/
def sslHandleError (env : Env) (con : Con) (reason : Option String) : Con :=
  match reason with
  | none => sslDataCheck env con
  | some reason =>
    { con.sendFailed .sslHandleError .netSslError with
      status := .sslError, errmsg := "SSL read/write fail: " ++ reason }

/-- What the callers of OpenSSL do with a result: a negative one goes to `attachsql_ssl_handle_error`. -/
def sslResult (env : Env) (con : Con) (r : SslResult) : Con :=
  match r with
  | .done _ => con
  | .wantRead => sslHandleError env con none
  | .failed reason => sslHandleError env con (some reason)

/-- `attachsql_ssl_run`.  What `SSL_read` reads here goes into a scratch buffer. -/
def sslRun (env : Env) (con : Con) : Con :=
  let n := con.ssl.calls
  let con := { con with ssl.calls := n + 1 }
  if env.sslIsInitFinished n then sslDataCheck env (sslResult env con (env.sslRead n))
  else sslDataCheck env (sslResult env con (env.sslConnect n))

/-- `attachsql_ssl_buffer_write`, which always answers 0. -/
def sslBufferWrite (env : Env) (con : Con) (parts : List (List UInt8)) : Con :=
  let requiredSize := parts.flatten.length
  let buffer := match con.ssl.writeBuffer with
    | some b => some b
    | none => bufferCreate env.malloc
  let buffer :=
    if bufferGetAvailable buffer < requiredSize then (bufferIncrease env.malloc buffer).2 else buffer
  match buffer with
  | none => con.log .fault
  | some b =>
    sslRun env ({ con with ssl.writeBuffer := some (parts.foldl BufferSt.append b) }.log (.sslBuffered parts.flatten))

/-- A write of the send functions: through OpenSSL once its handshake is done, else straight to libuv. -/
def netWrite (env : Env) (con : Con) (parts : List (List UInt8)) : Con × Option String :=
  if con.ssl.handshakeDone then (sslBufferWrite env con parts, none) else uvWrite env con .write parts.flatten

/-! ### Packets -/

/-- The next multiple of the write buffer's size, strictly above `n` when `n` is one. -/
def enlarge (n : ℕ) : ℕ := n + writeBufferSize - n % writeBufferSize

/-- The last part of `attachsql_send_compressed_packet`: the packet is handed on. -/
def sendCompressedBuffers (env : Env) (con : Con) (body : List UInt8) (uncompressed : ℕ) : Con :=
  let header := packInt3 body.length ++ [con.compressedPacketNumber] ++ packInt3 uncompressed
  let con := { con with compressedPacketHeader := header, commandStatus := .readResponse }
  match netWrite env con [header, body] with
  | (con, none) => con
  | (con, some _) => con.sendFailed .sendCompressed .netWriteError

/-- The size of a buffer that is enlarged when it has not the required room. -/
def enlarged (len required : ℕ) : ℕ := if len < required then enlarge required else len

/-- The part of `attachsql_send_compressed_packet` that compresses a long packet. -/
def compressPacket (env : Env) (con : Con) (body : List UInt8) : Con :=
  let requiredCompressed := env.compressBound body.length
  if con.compressedBufferLen < requiredCompressed ∧ (env.malloc.get (enlarge requiredCompressed)).isNone then
    con.sendFailed .compressedAlloc .outOfMemoryError
  else
    let con := { con with compressedBufferLen := enlarged con.compressedBufferLen requiredCompressed }
    match env.compress body con.compressedBufferLen with
    | none => con.sendFailed .compress .compressionFailure
    | some compressed =>
      if con.uncompressedBufferLen < compressed.length then con.sendFailed .compress .compressionFailure
      else sendCompressedBuffers env con compressed body.length

/-- What `attachsql_send_compressed_packet` gathers: the packet in one piece.  Behind the byte of a command come the
bytes kept for it in the write buffer. -/
def uncompressedBody (con : Con) (data : List UInt8) (command : Option Command) : List UInt8 :=
  con.packetHeader ++ match command with
    | none => data
    | some c => c.code :: con.writeBuffer.slice 1 con.writeBufferExtra ++ data

/-- `attachsql_send_compressed_packet`; no command is the command 0 of the source. -/
def sendCompressedPacket (env : Env) (con : Con) (data : List UInt8) (command : Option Command) : Con :=
  let requiredUncompressed := data.length + 4 + if command.isSome then 1 + con.writeBufferExtra else 0
  let body := uncompressedBody con data command
  let con := { con with compressedPacketNumber := if command.isSome then 0 else con.compressedPacketNumber }
  if con.uncompressedBufferLen < requiredUncompressed ∧ (env.malloc.get (enlarge requiredUncompressed)).isNone then
    con.sendFailed .uncompressedAlloc .outOfMemoryError
  else
    let con := { con with
      uncompressedBufferLen := enlarged con.uncompressedBufferLen requiredUncompressed
      writeBufferExtra := if command.isSome then 0 else con.writeBufferExtra }
    if minimumCompressSize < data.length then compressPacket env con body
    else sendCompressedBuffers env con body 0

/-- The TLS handshake at the start of `attachsql_send_data`. -/
def startTls (env : Env) (con : Con) : Con :=
  if con.ssl.enabled ∧ ¬ con.ssl.handshakeDone then
    let con := sslRun env { con with ssl.calls := con.ssl.calls + 1 }
    { con with ssl.handshakeDone := true }
  else con

/-- `attachsql_send_data`. -/
def sendData (env : Env) (con : Con) (data : List UInt8) : Con :=
  let con := startTls env con
  let con := { con with packetNumber := con.packetNumber + 1 }
  let con := { con with packetHeader := packInt3 data.length ++ [con.packetNumber] }
  if con.wantsCompress ∧ con.status ≠ .connecting then sendCompressedPacket env con data none
  else
    match netWrite env { con with commandStatus := .readResponse } [con.packetHeader, data] with
    | (con, none) => con
    | (con, some _) => con.sendFailed .sendData .netWriteError

end LibAttachSql
