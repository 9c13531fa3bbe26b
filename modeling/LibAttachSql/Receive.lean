import LibAttachSql.Send

/-!
# Receiving

The receive side of `net.cc` and the handshake of `connect.cc`: one reader for each type of packet, the loop that
checks packets and hands them to their readers, and the decompression of compressed packets.

Every reader but that of a row ends its packet, which sets the read pointer anew.  The moves of the read pointer that
this overwrites are left out; the addresses the readers read at are theirs.
-/

namespace LibAttachSql

open Lib

/-- Moves a pointer by a 64-bit amount. -/
def ptrAdd (p n : ℕ) : ℕ := sizeT (p + n : ℕ)

/-- `attachsql_packet_read_end`. -/
def packetReadEnd (con : Con) : Con := { con with readBuffer := con.readBuffer.map BufferSt.packetReadEnd }

/-! ### Responses -/

/-- What `snprintf` with `%.*s` and a target of `size` bytes stores: at most `precision` bytes when that is not
negative, and none from the first NUL on. -/
def printString (m : Memory UInt8) (p : ℕ) (precision : ℤ) (size : ℕ) : List UInt8 :=
  (m.slice p (if 0 ≤ precision then min precision.toNat (size - 1) else size - 1)).takeWhile (· ≠ 0)

/-- The OK branch of `attachsql_packet_read_response`. -/
def packetReadOk (con : Con) : Con :=
  let m := con.buf.mem
  let p := con.buf.bufferReadPtr + 1
  let affectedRows := unpackLength m p
  let p := p + affectedRows.bytes
  let insertId := unpackLength m p
  let p := p + insertId.bytes
  let dataRead := 1 + affectedRows.bytes + insertId.bytes + 4
  packetReadEnd (({ con with
    affectedRows := affectedRows.length
    insertId := insertId.length
    serverStatus := unpackInt2 m p
    warningCount := unpackInt2 m (p + 2)
    serverMessage := printString m (p + 4) (con.packetSize - dataRead) maxMessageLen
    commandStatus := if con.status = ConStatus.connecting then .connected else .eof
    options.compression := con.options.compression || decide (con.status = ConStatus.connecting) && con.wantsCompress
    status := .idle }.log (.reported (unpackInt2 m p))).log
    (.answered .ok con.status con.commandStatus))

/-- The ERR branch of `attachsql_packet_read_response`. -/
def packetReadErr (con : Con) : Con :=
  let m := con.buf.mem
  let p := con.buf.bufferReadPtr + 1
  packetReadEnd ({ con with
    serverErrno := unpackInt2 m p
    sqlstate := m.slice (p + 3) 5
    serverMessage := printString m (p + 8) (con.packetSize - 9) maxMessageLen
    status := if con.commandStatus = CommandStatus.readResponse then .connectFailed else .idle
    nextPacketQueue := []
    commandStatus := .eof }.log (.answered (.err (unpackInt2 m p)) con.status con.commandStatus))

/-- The end of a result or a command in `attachsql_packet_read_response`. -/
def commandEof (con : Con) : Con :=
  packetReadEnd ({ con with commandStatus := .eof, status := .idle }.log
    (.answered .eof con.status con.commandStatus))

/-- The EOF branch of `attachsql_packet_read_response`. -/
def packetReadEof (env : Env) (con : Con) : Con :=
  let m := con.buf.mem
  let p := con.buf.bufferReadPtr + 1
  let con := { con with
    warningCount := unpackInt2 m p
    serverStatus := unpackInt2 m (p + 2) }.log (.reported (unpackInt2 m (p + 2)))
  match con.commandStatus with
  | .readColumn => packetReadEnd (packetQueuePush env { con with commandStatus := .readRow } .row)
  | .readStmtParam =>
    match con.stmt with
    | none => con.log .fault
    | some stmt =>
      if 0 < stmt.columnCount then
        packetReadEnd (packetQueuePush env { con with commandStatus := .readStmtColumn } .prepareColumn)
      else commandEof con
  | _ => commandEof con

/-- The result branch of `attachsql_packet_read_response`. -/
def packetReadHeader (env : Env) (con : Con) : Con :=
  let columnCount := uint16 (unpackLength con.buf.mem con.buf.bufferReadPtr).length
  let columns :=
    if env.newArray columnCount sizeofColumn then some (List.replicate columnCount (default : Column)) else none
  let con := packetReadEnd { con with
    result.columnCount := columnCount
    result.columns := columns
    own := con.own.newResultColumns columns.isSome }
  { packetQueuePush env con .column with commandStatus := .readColumn }

/-- `attachsql_packet_read_response`. -/
def packetReadResponse (env : Env) (con : Con) : Con :=
  if con.peekByte 0 = 0x00 then packetReadOk con
  else if con.peekByte 0 = 0xff then packetReadErr con
  else if con.peekByte 0 = 0xfe then packetReadEof env con
  else packetReadHeader env con

/-! ### Column definitions -/

/-- A length-encoded string at `p` that is kept in a field of `size` bytes: what is kept, and the address behind. -/
def readField (m : Memory UInt8) (p size : ℕ) : List UInt8 × ℕ :=
  let len := unpackLength m p
  let strRead := if size ≤ len.length then size - 1 else len.length
  (m.slice (p + len.bytes) strRead, ptrAdd (p + len.bytes) len.length)

/-- `attachsql_packet_get_column`, without the end of the packet: the record it fills in. -/
def packetGetColumn (con : Con) (column : Column) : Column :=
  let m := con.buf.mem
  -- the catalog is skipped
  let p := (readField m con.buf.bufferReadPtr maxSchemaSize).2
  let (schema, p) := readField m p maxSchemaSize
  let (table, p) := readField m p maxTableSize
  let (originTable, p) := readField m p maxTableSize
  let (name, p) := readField m p maxColumnSize
  let (originColumn, p) := readField m p maxColumnSize
  let p := p + 1
  let (defaultValue, _) := readField m (p + 12) maxDefaultValueSize
  { schema, table, originTable, column := name, originColumn
    charset := unpackInt2 m p
    length := unpackInt4 m (p + 2)
    type := m (p + 6)
    flags := unpackInt2 m (p + 7)
    decimals := m (p + 9)
    defaultValue := if defaultValue = [] then column.defaultValue else defaultValue
    defaultSize := defaultValue.length }

/-- `attachsql_packet_read_column`. -/
def packetReadColumn (env : Env) (con : Con) : Con :=
  match con.result.columns.bind (·[con.result.currentColumn]?) with
  | none => con.log .fault
  | some column =>
    let column := packetGetColumn con column
    let con := packetReadEnd { con with
      result.columns := con.result.columns.map (·.set con.result.currentColumn column)
      own := con.own.useResultColumns }
    let con := { con with result.currentColumn := uint16 (con.result.currentColumn + 1 : ℕ) }
    packetQueuePush env con (if con.result.currentColumn = con.result.columnCount then .response else .column)

/-! ### Prepared statements -/

/-- What the PREPARE_OK branch of `attachsql_packet_read_prepare_response` makes of the statement, for the payload
at `p`. -/
def prepareOkStmt (env : Env) (m : Memory UInt8) (p : ℕ) (stmt : Stmt) : Stmt :=
  let paramCount := unpackInt2 m (p + 6)
  { stmt with
    id := unpackInt4 m p
    columnCount := unpackInt2 m (p + 4)
    paramCount := paramCount
    params :=
      if paramCount = 0 then stmt.params
      else if env.newArray paramCount sizeofColumn then some (List.replicate paramCount (default : Column))
      else none
    paramData :=
      if paramCount = 0 then stmt.paramData
      else if env.newArray paramCount sizeofStmtParam then some (List.replicate paramCount StmtParam.fresh)
      else none
    state := .prepared }

/-- What is expected after a PREPARE_OK packet. -/
def prepareOkNext (env : Env) (con : Con) (paramCount columnCount : ℕ) : Con :=
  if 0 < paramCount then { packetQueuePush env con .prepareParameter with commandStatus := .readStmtParam }
  else if 0 < columnCount then { packetQueuePush env con .prepareColumn with commandStatus := .readStmtColumn }
  else commandEof con

/-- The PREPARE_OK branch of `attachsql_packet_read_prepare_response`. -/
def packetReadPrepareOk (env : Env) (con : Con) (stmt : Stmt) : Con :=
  let m := con.buf.mem
  let p := con.buf.bufferReadPtr + 1
  let stmt := prepareOkStmt env m p stmt
  packetReadEnd (prepareOkNext env { con with warningCount := unpackInt2 m (p + 9), stmt := some stmt } stmt.paramCount
    stmt.columnCount)

/-- `attachsql_packet_read_prepare_response`. -/
def packetReadPrepareResponse (env : Env) (con : Con) : Con :=
  if con.peekByte 0 ≠ 0x00 then packetReadResponse env con
  else
    match con.stmt with
    | none => con.log .fault
    | some stmt => packetReadPrepareOk env con stmt

/-- `attachsql_packet_read_prepare_parameter`. -/
def packetReadPrepareParameter (env : Env) (con : Con) : Con :=
  match con.stmt with
  | none => con.log .fault
  | some stmt =>
    match stmt.params.bind (·[stmt.currentParam]?) with
    | none => con.log .fault
    | some column =>
      let stmt := { stmt with
        params := stmt.params.map (·.set stmt.currentParam (packetGetColumn con column))
        currentParam := uint16 (stmt.currentParam + 1 : ℕ) }
      packetQueuePush env (packetReadEnd { con with stmt := some stmt })
        (if stmt.currentParam = stmt.paramCount then .response else .prepareParameter)

/-- `attachsql_packet_read_prepare_column`: the definition is skipped. -/
def packetReadPrepareColumn (env : Env) (con : Con) : Con :=
  match con.stmt with
  | none => con.log .fault
  | some stmt =>
    let stmt := { stmt with currentColumn := uint16 (stmt.currentColumn + 1 : ℕ) }
    packetQueuePush env (packetReadEnd { con with stmt := some stmt })
      (if stmt.currentColumn = stmt.columnCount then .response else .prepareColumn)

/-! ### Rows -/

/-- `attachsql_packet_read_row`.  The packet of a row is not ended. -/
def packetReadRow (env : Env) (con : Con) : Con :=
  if con.peekByte 0 = 0xfe then
    packetReadResponse env { con with result.rowData := none, result.rowLength := 0 }
  else
    { con with
      result.rowData := some con.buf.bufferReadPtr
      result.rowLength := con.packetSize
      commandStatus := .rowInBuffer
      status := .idle }.log (.answered .row con.status con.commandStatus)

/-! ### The handshake -/

/-- `scramble_password`; `none` is `ATTACHSQL_RET_NO_SCRAMBLE`. -/
def scramblePassword (env : Env) (con : Con) (pass : List UInt8) : Option (List UInt8) :=
  if con.scrambleBuffer.headD 0 = 0 then none
  else
    let stage1 := env.sha1 pass
    let stage2 := env.sha1 stage1
    some (List.zipWith (· ^^^ ·) (env.sha1 (con.scrambleBuffer.take sha1DigestLength ++ stage2)) stage1)

/-- The start of every handshake response: capabilities, maximal packet size, charset and 23 bytes of padding. -/
def handshakeHead (con : Con) : List UInt8 :=
  let capabilities := ((con.serverCapabilities &&& capabilityClient) ||| 2 ^ capabilityMultiResults |||
    con.clientCapabilities) ||| if con.ssl.ssl then 2 ^ capabilitySsl else 0
  packInt4 capabilities ++ packInt4 defaultBufferSize ++ [0] ++ List.replicate 23 0

/-- Puts a payload at the start of the write buffer and sends it. -/
def sendWriteBuffer (env : Env) (con : Con) (payload : List UInt8) : Con :=
  sendData env { con with writeBuffer := con.writeBuffer.store 0 payload } payload

/-- The end of `attachsql_handshake_response`: user, password and schema. -/
def handshakeLogin (env : Env) (con : Con) : Con :=
  let head := handshakeHead con ++ con.user ++ [0]
  match con.pass with
  | none => con.log .fault
  | some [] =>
    packetQueuePush env (sendWriteBuffer env con (head ++ [0] ++ con.schema ++ [0])) .response
  | some (c :: pass) =>
    match scramblePassword env con (c :: pass) with
    | none => { con.fail .badScramble with localErrcode := .badScramble }
    | some token =>
      packetQueuePush env
        (sendWriteBuffer env con (head ++ [UInt8.ofNat sha1DigestLength] ++ token ++ con.schema ++ [0])) .response

/-- `attachsql_handshake_response`.  With TLS a short request is sent first and the function calls itself; when the
push in between fails, that goes on until a null queue is written to or the stack ends. -/
def handshakeResponse (env : Env) (con : Con) : Con :=
  if con.ssl.ssl then
    if ¬ con.serverCapabilities.testBit capabilitySsl then
      { con.sendFailed .sslRefused .netSslError with
        errmsg := "SSL auth not supported enabled on server", status := .connectFailed }
    else
      let con :=
        if packetQueuePeek con = some .handshakeSsl then con
        else packetQueuePush env (sendWriteBuffer env con (handshakeHead con)) .handshakeSsl
      if packetQueuePeek con = some .handshakeSsl then
        handshakeLogin env (packetQueuePop { con with ssl.enabled := true })
      else con.log .fault
  else handshakeLogin env con

/-- The fields `attachsql_packet_read_handshake` takes from a handshake of protocol 10. -/
def handshakeFields (con : Con) : Con :=
  let m := con.buf.mem
  let p := con.buf.bufferReadPtr + 1
  let serverVersion := ((m.slice p maxServerVersionLen).takeWhile (· ≠ 0)).take (maxServerVersionLen - 1)
  let p := p + serverVersion.length + 1
  let q := p + 4 + 9
  { con with
    serverVersion := serverVersion
    threadId := unpackInt4 m p
    serverCapabilities := unpackInt2 m q
    charset := m (q + 2)
    serverStatus := unpackInt2 m (q + 3)
    scrambleBuffer := m.slice (p + 4) 8 ++ m.slice (q + 18) 12 }.log (.reported (unpackInt2 m (q + 3)))

/-- The check of `attachsql_packet_read_handshake` for the authentication of MySQL 4.1. -/
def checkOldAuth (con : Con) : Con :=
  if con.serverCapabilities.testBit capabilityProtocol41 then con
  else { con.fail .noOldAuth with
    localErrcode := .noOldAuth, errmsg := "MySQL 4.1 protocol and higher required" }

/-- `attachsql_packet_read_handshake`.  After an ERR packet reading goes on. -/
def packetReadHandshake (env : Env) (con : Con) : Con :=
  let con := if con.peekByte 0 = 0xff then packetReadResponse env con else con
  if con.peekByte 0 ≠ 10 then
    { con.fail .badProtocol with localErrcode := .badProtocol, errmsg := "Incompatible protocol version" }
  else handshakeResponse env (packetReadEnd (checkOldAuth (handshakeFields con)))

/-! ### The packet loop -/

/-- What one round of the loop of `attachsql_con_process_packets` leads to. -/
inductive Round where
  | again (con : Con)
  | done (con : Con) (answer : Bool)

/-- The connection a round leads to. -/
def Round.con : Round → Con
  | .again con => con
  | .done con _ => con

/-- The packet at the read pointer is handed to the reader of its type.  The read pointer stands behind the header. -/
def packetDispatch (env : Env) (con : Con) (packetType : PacketType) : Round :=
  match packetType with
  | .handshake => .again (packetReadHandshake env con)
  | .handshakeSsl => .again (handshakeResponse env con)
  | .response => .again (packetReadResponse env con)
  | .prepareResponse => .again (packetReadPrepareResponse env con)
  | .prepareParameter => .again (packetReadPrepareParameter env con)
  | .prepareColumn => .again (packetReadPrepareColumn env con)
  | .column => .again (packetReadColumn env con)
  | .row => .done (packetReadRow env con) true
  | .stmtRow => .done (packetReadRow env con) true

/-- The connection with the packet of `packetLen` bytes behind the header opened, once its number is accepted. -/
def packetOpen (con : Con) (b : BufferSt) (packetType : PacketType) (packetLen : ℕ) : Con :=
  { con with readBuffer := some ((b.advance 4).setPacketEnd packetLen) }.log
    (.packet packetType (b.mem.slice (b.bufferReadPtr + 4) packetLen) con.status)

/-- The number a packet must bear: that of a handshake is not counted. -/
def countPacket (con : Con) (packetType : PacketType) : Con :=
  { con with packetNumber := if packetType = .handshake then con.packetNumber else con.packetNumber + 1 }

/-- The sequence check of `attachsql_con_process_packets`: the `uint8_t` number is compared with a `char`. -/
def checkSequence (env : Env) (con : Con) (b : BufferSt) (packetType : PacketType) (packetLen : ℕ) : Round :=
  let byte := b.mem (b.bufferReadPtr + 3)
  if (con.packetNumber.toNat : ℤ) ≠ signedChar byte then
    .done ((con.log (.checked false con.packetNumber byte false)).readFailed .sequence .packetOutOfSequence) true
  else packetDispatch env (packetOpen (con.log (.checked false con.packetNumber byte true)) b packetType packetLen)
    packetType

/-- One round of the loop of `attachsql_con_process_packets`. -/
def processPacket (env : Env) (con : Con) : Round :=
  match con.nextPacketQueue with
  | [] => .done con false
  | packetType :: _ =>
    match con.readBuffer with
    | none => .done (con.log .fault) false
    | some b =>
      if b.unreadData < 4 then .done con false
      else
        let packetLen := unpackInt3 b.mem b.bufferReadPtr
        let con := { con with packetSize := packetLen }
        if b.unreadData < packetLen + 4 then .done con false
        else checkSequence env (packetQueuePop (countPacket con packetType)) b packetType packetLen

/-- The loop of `attachsql_con_process_packets`, with a bound on the number of rounds. -/
def processPacketsLoop (env : Env) : ℕ → Con → Con × Bool
  | 0, con => (con, false)
  | n + 1, con =>
    match processPacket env con with
    | .again con => processPacketsLoop env n con
    | .done con answer => (con, answer)

/-! ### Compressed packets -/

/-- The end of `attachsql_con_decompress_read_buffer`: the payload of an accepted packet goes into the read buffer `b`.
The read pointer of the compressed buffer stands behind the header. -/
def decompressInto (env : Env) (con : Con) (b c : BufferSt) (compressedSize uncompressedSize : ℕ) : Con :=
  let body := c.mem.slice c.bufferReadPtr compressedSize
  let consumed := some (c.advance compressedSize)
  if uncompressedSize = 0 then
    { con with readBuffer := some (b.append body), readBufferCompress := consumed }.log (.received body)
  else
    match env.uncompress body b.available with
    | none => con.readFailed .uncompress .compressionFailure
    | some out => { con with readBuffer := some (b.append out), readBufferCompress := consumed }.log (.received out)

/-- The room `attachsql_con_decompress_read_buffer` makes for an accepted packet, which it opens. -/
def decompressPacket (env : Env) (con : Con) (c : BufferSt) (compressedSize uncompressedSize : ℕ) : Con :=
  let buffer := match con.readBuffer with
    | some b => some b
    | none => bufferCreate env.malloc
  let buffer :=
    if bufferGetAvailable buffer < uncompressedSize then (bufferIncrease env.malloc buffer).2 else buffer
  let c := c.setPacketEnd compressedSize
  let con := { con with readBuffer := buffer, readBufferCompress := some c }.log
    (.compressedPacket (c.mem.slice c.bufferReadPtr compressedSize))
  match buffer with
  | none => con.log .fault
  | some b => decompressInto env con b c compressedSize uncompressedSize

/-- The sequence check of `attachsql_con_decompress_read_buffer`. -/
def checkCompressedSequence (env : Env) (con : Con) (c : BufferSt) (compressedSize : ℕ) : Con :=
  let con := { con with compressedPacketNumber := con.compressedPacketNumber + 1 }
  let byte := c.mem (c.bufferReadPtr + 3)
  if (con.compressedPacketNumber.toNat : ℤ) ≠ signedChar byte then
    (con.log (.checked true con.compressedPacketNumber byte false)).readFailed .compressedSequence .packetOutOfSequence
  else
    decompressPacket env (con.log (.checked true con.compressedPacketNumber byte true)) (c.advance 7) compressedSize
      (unpackInt3 c.mem (c.bufferReadPtr + 4))

/-- `attachsql_con_decompress_read_buffer` on the compressed read buffer. -/
def decompressReadBuffer (env : Env) (con : Con) (c : BufferSt) : Con × Bool :=
  if c.unreadData < 7 then (con, false)
  else
    let compressedSize := unpackInt3 c.mem c.bufferReadPtr
    if c.unreadData < compressedSize + 7 then (con, false)
    else (checkCompressedSequence env con c compressedSize, true)

/-- `attachsql_con_process_packets`.  Every round reads the four bytes of a header at least. -/
def processPackets (env : Env) (con : Con) : Con × Bool :=
  let loop (con : Con) := processPacketsLoop env (con.buf.unreadData + 1) con
  if con.options.compression then
    match con.readBufferCompress with
    | none => (con, false)
    | some c =>
      let (con, answer) := decompressReadBuffer env con c
      if ¬ answer ∧ con.readBuffer.isNone then (con, false) else loop con
  else if con.readBuffer.isNone then (con, false)
  else loop con

end LibAttachSql
