import LibAttachSql.ColumnMetadata
import LibAttachSql.Footprints
import LibAttachSql.Lib.Simulation
import LibAttachSql.TextRows

/-!
# Reading a response

The response to a query or an execution is a chain of answers: an OK packet, an ERR packet, or a result, which is a number of
columns, their definitions, an EOF packet, rows and another EOF packet.  The application asks for the row behind the one it
has, closes a result that was read, and goes on to the next one as long as the server has more.

`ResponsePhase.Next` says which packets a server may send and which calls an application may make, and in what order.  It is
the specification; below, the readers, the request for a row and the calls are shown to follow it, whatever the order of
turns it allows.
-/

namespace LibAttachSql

open Lib

/-! ### The protocol -/

/-- A packet of a response. -/
inductive ResponsePacket where
  | ok (affectedRows insertId : ℕ) (status warnings : UInt16) (message : List UInt8)
  | err (errno : UInt16) (sqlstate message : List UInt8)
  | header (columns : ℕ)
  | definition (d : Definition)
  | eof (warnings status : UInt16) (more : List UInt8)
  | row (bytes : List UInt8)

/-- The bytes of a packet. -/
def ResponsePacket.payload : ResponsePacket → List UInt8
  | ok affectedRows insertId status warnings message =>
    0x00 :: (packLength affectedRows ++
      (packLength insertId ++ (packInt2 status.toNat ++ (packInt2 warnings.toNat ++ message))))
  | err errno sqlstate message => 0xff :: (packInt2 errno.toNat ++ (0x23 :: (sqlstate ++ message)))
  | header columns => packLength columns
  | definition d => d.payload
  | eof warnings status more => 0xfe :: (packInt2 warnings.toNat ++ (packInt2 status.toNat ++ more))
  | row bytes => bytes

/-- A row does not begin as an EOF packet does. -/
def RowBytes (bytes : List UInt8) : Prop := ∃ c rest, bytes = c :: rest ∧ c ≠ 0xfe

/-- Whether an answer is followed by another one. -/
def moreResults (status : UInt16) : Bool := status.toNat.testBit serverStatusMoreResults

/-- A packet arrives, or the application makes a call: `attachsql_query_row_next`, `attachsql_query_close` or
`attachsql_query_next_result`. -/
inductive Turn where
  | packet (p : ResponsePacket)
  | request
  | close
  | next

/-- How far a response was read. -/
inductive ResponsePhase where
  | answer (first : Bool)
  | columns (n : ℕ) (ds : List Definition)
  | rows (ds : List Definition)
  | row (ds : List Definition)
  | done (ds : List Definition) (more : Bool)
  | closed (more : Bool)

/-- What may come next.  Numbers have lengths that are read back, and an ERR packet is the first answer. -/
inductive ResponsePhase.Next : ResponsePhase → Turn → ResponsePhase → Prop
  | ok {first : Bool} {affectedRows insertId : ℕ} {status warnings : UInt16} {message : List UInt8}
      (ha : LengthKept affectedRows) (hi : LengthKept insertId) :
      Next (answer first) (.packet (.ok affectedRows insertId status warnings message)) (done [] (moreResults status))
  | err {errno : UInt16} {sqlstate message : List UInt8} (h : sqlstate.length = 5) :
      Next (answer true) (.packet (.err errno sqlstate message)) (done [] false)
  | header {first : Bool} {n : ℕ} (hpos : 0 < n) (hlt : n < 2 ^ 16) (hn : LengthKept n) :
      Next (answer first) (.packet (.header n)) (columns n [])
  | definition {n : ℕ} {ds : List Definition} {d : Definition} (h : ds.length < n) :
      Next (columns n ds) (.packet (.definition d)) (columns n (ds ++ [d]))
  | columnsEnd {n : ℕ} {ds : List Definition} {warnings status : UInt16} {more : List UInt8} (h : ds.length = n) :
      Next (columns n ds) (.packet (.eof warnings status more)) (rows ds)
  | row {ds : List Definition} {bytes : List UInt8} (h : RowBytes bytes) :
      Next (rows ds) (.packet (.row bytes)) (row ds)
  | request {ds : List Definition} : Next (row ds) .request (rows ds)
  | rowsEnd {ds : List Definition} {warnings status : UInt16} {more : List UInt8} :
      Next (rows ds) (.packet (.eof warnings status more)) (done ds (moreResults status))
  | close {ds : List Definition} {more : Bool} : Next (done ds more) .close (closed more)
  | next : Next (closed true) .next (answer false)

/-! ### The code -/

/-- A turn, and the connection it finds: that of the turn before, but that bytes may have arrived meanwhile. -/
abbrev TurnTaken := Turn × Arrival

/-- What a turn does.  A request processes packets at once; here these are turns of their own. -/
def TurnTaken.apply (con : Con) : TurnTaken → Con
  | (.packet _, a) => arrive con a
  | (.request, a) => requestRow a.env a.con
  | (.close, a) => queryClose a.con
  | (.next, a) => (commandNextResult a.env a.con).1

/-- Between two turns nothing changes but the buffers and what no reader of a response looks at. -/
structure Con.Stands (con con' : Con) : Prop extends con.Waits con' where
  result_eq : con'.result = con.result
  status_eq : con'.status = con.status
  serverStatus_eq : con'.serverStatus = con.serverStatus

lemma Con.Stands.refl (con : Con) : con.Stands con :=
  { Con.Waits.refl con with result_eq := rfl, status_eq := rfl, serverStatus_eq := rfl }

/-- There is memory for the columns a packet announces. -/
def ResponsePacket.Affordable (env : Env) : ResponsePacket → Prop
  | header n => env.newArray n sizeofColumn = true
  | _ => True

/-- The packet of a turn is there as a whole, and can be afforded. -/
def TurnTaken.Borne : TurnTaken → Prop
  | (.packet p, a) => a.Bears p.payload ∧ p.Affordable a.env
  | (.request, a) => a.con.readBuffer.isSome = true
  | _ => True

/-- The turn finds the connection as the turn before left it. -/
def TurnTaken.Legal (con : Con) (t : TurnTaken) : Prop := con.Stands t.2.con ∧ t.Borne

/-- The packet is taken as one that was expected, when its number is accepted. -/
def Arrival.Taken (a : Arrival) (after : Con) : Prop :=
  (a.Accepted → (processPacket a.env a.con).con = after) ∧ a.con.nextPacketQueue ≠ []

/-- A packet was consumed: the buffer goes on behind it. -/
def Arrival.Passed (a : Arrival) (after : Con) (n : ℕ) : Prop :=
  after.buf.Wf ∧ after.buf.unread = a.con.buf.unread.drop (4 + n)

/-- A message as it is kept: what fits, up to the first NUL. -/
def keptMessage (message : List UInt8) : List UInt8 := (message.take (maxMessageLen - 1)).takeWhile (· ≠ 0)

/-- What the application finds behind a packet. -/
def ResponsePacket.Found (after : Con) : ResponsePacket → Prop
  | ok affectedRows insertId status warnings message => after.affectedRows = affectedRows ∧ after.insertId = insertId ∧
    after.serverStatus = status.toNat ∧ after.warningCount = warnings.toNat ∧ after.serverMessage = keptMessage message
  | err errno sqlstate message => after.serverErrno = errno.toNat ∧ after.sqlstate = sqlstate ∧
    after.serverMessage = keptMessage message
  | header n => ∃ columns, after.result.columns = some columns ∧ columns.length = n
  | definition _ => True
  | eof warnings status _ => after.warningCount = warnings.toNat ∧ after.serverStatus = status.toNat
  | row bytes => ∃ p, after.result.rowData = some p ∧ after.result.rowLength = bytes.length ∧
    after.buf.mem.slice p bytes.length = bytes ∧ after.buf.packetEndPtr = some (p + bytes.length)

/-- What a turn shows: a packet is taken and consumed, but for a row, which stays until the next one is asked for. -/
def TurnTaken.Shown (con : Con) (t : TurnTaken) : Prop :=
  match t with
  | (.packet p, a) => a.Taken (apply con t) ∧ p.Found (apply con t) ∧
    match p with
    | .row _ => a.Passed (apply con t) 0
    | _ => a.Passed (apply con t) p.payload.length
  | (.request, a) => (apply con t).buf = a.con.buf.packetReadEnd
  | (.close, _) => (apply con t).result.columns = none
  | (.next, a) => (commandNextResult a.env a.con).2 = true

/-! ### The connection in a phase -/

/-- What is expected next, and for what. -/
structure Con.Awaiting (con : Con) (queue : List PacketType) (status : CommandStatus) : Prop where
  queue_eq : con.nextPacketQueue = queue
  commandStatus : con.commandStatus = status
  room : con.HasQueue

/-- There are records for `n` columns, and those of the first definitions are stored. -/
structure Con.HoldsColumns (con : Con) (n : ℕ) (ds : List Definition) : Prop where
  columns : ∃ columns, con.result.columns = some columns ∧ columns.length = n
  count : con.result.columnCount = n
  stored : ∀ i, ∀ d ∈ ds[i]?, d.Kept → con.StoresColumn i d

/-- The connection in a phase. -/
def Con.At (con : Con) : ResponsePhase → Prop
  | .answer first => con.Awaiting [.response] (if first then .send else .readResponse) ∧ con.status = .busy ∧
    con.result.currentColumn = 0 ∧ con.serverStatus = 0
  | .columns n ds => con.Awaiting [if ds.length = n then .response else .column] .readColumn ∧ con.HoldsColumns n ds ∧
    con.result.currentColumn = ds.length ∧ n < 2 ^ 16
  | .rows ds => con.Awaiting [.row] .readRow ∧ con.HoldsColumns ds.length ds
  | .row ds => con.Awaiting [] .rowInBuffer ∧ con.status = .idle ∧ con.HoldsColumns ds.length ds
  | .done ds more => con.Awaiting [] .eof ∧ con.status = .idle ∧ con.serverStatus.testBit serverStatusMoreResults = more ∧
    ∀ i, ∀ d ∈ ds[i]?, d.Kept → con.StoresColumn i d
  | .closed more => con.Awaiting [] .eof ∧ con.status = .idle ∧ con.serverStatus.testBit serverStatusMoreResults = more

/-! ### The readers -/

section Readers

variable {env : Env} {con : Con} {a : Arrival} {payload : List UInt8} {status : CommandStatus}

lemma Con.HasQueue.waits {con' : Con} (h : con.HasQueue) (hw : con.Waits con') : con'.HasQueue := by
  unfold Con.HasQueue
  rw [hw.queueSize_eq, hw.queueBytes_eq]
  exact h

lemma Con.Awaiting.stands {con' : Con} {queue : List PacketType} (h : con.Awaiting queue status) (hs : con.Stands con') :
    con'.Awaiting queue status :=
  ⟨hs.queue_eq.trans h.queue_eq, hs.commandStatus_eq.trans h.commandStatus, h.room.waits hs.toWaits⟩

lemma Con.Awaiting.push (h : con.Awaiting [] status) (t : PacketType) :
    packetQueuePush env con t = { con with nextPacketQueue := [t] } :=
  packetQueuePush_of_hasQueue env h.queue_eq h.room t

lemma opened_status (t : PacketType) : (a.opened t payload).status = a.con.status := by
  unfold Arrival.opened
  rw [packetReady_eq]

lemma opened_serverStatus (t : PacketType) : (a.opened t payload).serverStatus = a.con.serverStatus := by
  unfold Arrival.opened
  rw [packetReady_eq]

lemma opened_result (t : PacketType) : (a.opened t payload).result = a.con.result := by
  unfold Arrival.opened
  rw [packetReady_eq]

/-- The first byte of an opened packet. -/
lemma opened_peekByte {c : UInt8} {rest : List UInt8} (hb : a.con.Bears (c :: rest)) (t : PacketType) :
    (a.opened t (c :: rest)).peekByte 0 = c := by
  obtain ⟨hpayload, -⟩ := hb.opened t
  exact (List.cons.inj ((Memory.slice_succ _ _ _).symm.trans hpayload)).1

lemma Con.Awaiting.opened {t : PacketType} (h : con.Awaiting [t] status) (hw : con.Waits a.con) (payload : List UInt8) :
    (a.opened t payload).Awaiting [] status := by
  refine ⟨?_, ?_, h.room.opened hw⟩
  · rw [opened_nextPacketQueue, hw.queue_eq, h.queue_eq]
    rfl
  · rw [opened_commandStatus, hw.commandStatus_eq, h.commandStatus]

/-- What is printed of a message that goes up to the end of the packet. -/
lemma printString_of_slice {m : Memory UInt8} {p : ℕ} {message : List UInt8} (h : m.slice p message.length = message) :
    printString m p message.length maxMessageLen = keptMessage message := by
  unfold printString keptMessage
  have htake : m.slice p (min (message.length : ℤ).toNat (maxMessageLen - 1)) = message.take (maxMessageLen - 1) := by
    conv_rhs => rw [← h]
    rw [Memory.take_slice, Int.toNat_natCast, Nat.min_comm]
  rw [if_pos (Int.natCast_nonneg _), htake]

/-- An OK packet. -/
lemma packetReadOk_found {affectedRows insertId : ℕ} {status warnings : UInt16} {message : List UInt8}
    (ha : LengthKept affectedRows) (hi : LengthKept insertId)
    (h : con.buf.mem.slice con.buf.bufferReadPtr
        (ResponsePacket.ok affectedRows insertId status warnings message).payload.length =
      (ResponsePacket.ok affectedRows insertId status warnings message).payload)
    (hsize : con.packetSize = (ResponsePacket.ok affectedRows insertId status warnings message).payload.length) :
    (ResponsePacket.ok affectedRows insertId status warnings message).Found (packetReadOk con) := by
  obtain ⟨-, hrest⟩ := List.cons.inj ((Memory.slice_succ _ _ _).symm.trans h)
  obtain ⟨haffected, hrest⟩ := Memory.slice_eq_append hrest
  obtain ⟨hinsert, hrest⟩ := Memory.slice_eq_append hrest
  obtain ⟨hstatus, hrest⟩ := Memory.slice_eq_append hrest
  obtain ⟨hwarnings, hmessage⟩ := Memory.slice_eq_append hrest
  have haffected := unpackLength_of_slice haffected ha
  have hinsert := unpackLength_of_slice hinsert hi
  have hlength : (con.packetSize : ℤ) - ((1 + (packLength affectedRows).length + (packLength insertId).length + 4 : ℕ) : ℤ) =
      message.length := by
    rw [hsize]
    simp only [ResponsePacket.payload, packInt2, List.length_cons, List.length_append, List.length_nil]
    omega
  have hfound : (packetReadOk con).affectedRows = (unpackLength con.buf.mem (con.buf.bufferReadPtr + 1)).length ∧
      (packetReadOk con).insertId = (unpackLength con.buf.mem (con.buf.bufferReadPtr + 1 +
        (unpackLength con.buf.mem (con.buf.bufferReadPtr + 1)).bytes)).length := ⟨rfl, rfl⟩
  rw [haffected, hinsert] at hfound
  have hbehind : ∃ q, q = con.buf.bufferReadPtr + 1 + (unpackLength con.buf.mem (con.buf.bufferReadPtr + 1)).bytes +
      (unpackLength con.buf.mem (con.buf.bufferReadPtr + 1 +
        (unpackLength con.buf.mem (con.buf.bufferReadPtr + 1)).bytes)).bytes ∧
      (packetReadOk con).serverStatus = unpackInt2 con.buf.mem q ∧
      (packetReadOk con).warningCount = unpackInt2 con.buf.mem (q + 2) ∧
      (packetReadOk con).serverMessage = printString con.buf.mem (q + 4) (con.packetSize -
        ((1 + (unpackLength con.buf.mem (con.buf.bufferReadPtr + 1)).bytes + (unpackLength con.buf.mem
          (con.buf.bufferReadPtr + 1 + (unpackLength con.buf.mem (con.buf.bufferReadPtr + 1)).bytes)).bytes + 4 : ℕ) : ℤ))
        maxMessageLen := ⟨_, rfl, rfl, rfl, rfl⟩
  rw [haffected, hinsert, hlength] at hbehind
  obtain ⟨q, rfl, hserver, hcount, hprinted⟩ := hbehind
  refine ⟨hfound.1, hfound.2, ?_, ?_, ?_⟩
  · rw [hserver]
    exact unpackInt2_of_slice hstatus status.toNat_lt
  · rw [hcount]
    exact unpackInt2_of_slice hwarnings warnings.toNat_lt
  · rw [hprinted]
    exact printString_of_slice hmessage

/-- Where the status of an OK packet stands does not depend on what its numbers are read as. -/
lemma packetReadOk_status {affectedRows insertId : ℕ} {status warnings : UInt16} {message : List UInt8}
    (h : con.buf.mem.slice con.buf.bufferReadPtr
        (ResponsePacket.ok affectedRows insertId status warnings message).payload.length =
      (ResponsePacket.ok affectedRows insertId status warnings message).payload) :
    (packetReadOk con).serverStatus = status.toNat := by
  obtain ⟨-, hrest⟩ := List.cons.inj ((Memory.slice_succ _ _ _).symm.trans h)
  obtain ⟨haffected, hrest⟩ := Memory.slice_eq_append hrest
  obtain ⟨hinsert, hrest⟩ := Memory.slice_eq_append hrest
  obtain ⟨hstatus, -⟩ := Memory.slice_eq_append hrest
  have haffected := unpackLength_bytes_of_slice haffected
  have hinsert := unpackLength_bytes_of_slice hinsert
  have hserver : (packetReadOk con).serverStatus = unpackInt2 con.buf.mem (con.buf.bufferReadPtr + 1 +
      (unpackLength con.buf.mem (con.buf.bufferReadPtr + 1)).bytes +
        (unpackLength con.buf.mem (con.buf.bufferReadPtr + 1 +
          (unpackLength con.buf.mem (con.buf.bufferReadPtr + 1)).bytes)).bytes) := rfl
  rw [haffected, hinsert] at hserver
  exact hserver.trans (unpackInt2_of_slice hstatus status.toNat_lt)

/-- An ERR packet. -/
lemma packetReadErr_found {errno : UInt16} {sqlstate message : List UInt8} (hlength : sqlstate.length = 5)
    (h : con.buf.mem.slice con.buf.bufferReadPtr (ResponsePacket.err errno sqlstate message).payload.length =
      (ResponsePacket.err errno sqlstate message).payload)
    (hsize : con.packetSize = (ResponsePacket.err errno sqlstate message).payload.length) :
    (ResponsePacket.err errno sqlstate message).Found (packetReadErr con) := by
  obtain ⟨-, hrest⟩ := List.cons.inj ((Memory.slice_succ _ _ _).symm.trans h)
  obtain ⟨herrno, hrest⟩ := Memory.slice_eq_append hrest
  obtain ⟨-, hrest⟩ := List.cons.inj ((Memory.slice_succ _ _ _).symm.trans hrest)
  obtain ⟨hstate, hmessage⟩ := Memory.slice_eq_append hrest
  rw [hlength] at hstate hmessage
  have hprecision : (con.packetSize : ℤ) - 9 = message.length := by
    rw [hsize]
    simp only [ResponsePacket.payload, packInt2, List.length_cons, List.length_append, List.length_nil, hlength]
    omega
  have hprinted : (packetReadErr con).serverMessage =
      printString con.buf.mem (con.buf.bufferReadPtr + 1 + 8) (con.packetSize - 9) maxMessageLen := rfl
  rw [hprecision] at hprinted
  exact ⟨unpackInt2_of_slice herrno errno.toNat_lt, hstate, hprinted.trans (printString_of_slice hmessage)⟩

/-- The numbers of an EOF packet. -/
lemma packetReadEof_found (env : Env) {warnings status : UInt16} {more : List UInt8}
    (h : con.buf.mem.slice con.buf.bufferReadPtr (ResponsePacket.eof warnings status more).payload.length =
      (ResponsePacket.eof warnings status more).payload) :
    (ResponsePacket.eof warnings status more).Found (packetReadEof env con) := by
  obtain ⟨-, hrest⟩ := List.cons.inj ((Memory.slice_succ _ _ _).symm.trans h)
  obtain ⟨hwarnings, hrest⟩ := Memory.slice_eq_append hrest
  obtain ⟨hstatus, -⟩ := Memory.slice_eq_append hrest
  obtain ⟨hcount, hserver⟩ := packetReadEof_stored env con
  exact ⟨hcount.trans (unpackInt2_of_slice hwarnings warnings.toNat_lt),
    hserver.trans (unpackInt2_of_slice hstatus status.toNat_lt)⟩

/-- Behind the header the first column is expected. -/
lemma packetReadHeader_awaiting (env : Env) (h : con.Awaiting [] status) :
    (packetReadHeader env con).readBuffer = con.readBuffer.map BufferSt.packetReadEnd ∧
      (packetReadHeader env con).Awaiting [.column] .readColumn := by
  obtain ⟨con', he, hbuffer, hqueue, hroom⟩ : ∃ con' : Con,
      packetReadHeader env con = { packetQueuePush env con' .column with commandStatus := .readColumn } ∧
        con'.readBuffer = con.readBuffer.map BufferSt.packetReadEnd ∧ con'.nextPacketQueue = con.nextPacketQueue ∧
        (con.HasQueue → con'.HasQueue) := ⟨_, rfl, rfl, rfl, id⟩
  rw [packetQueuePush_of_hasQueue env (hqueue.trans h.queue_eq) (hroom h.room)] at he
  rw [he]
  exact ⟨hbuffer, rfl, rfl, hroom h.room⟩

/-- Behind a definition the next one is expected, or the EOF packet. -/
lemma packetReadColumn_awaiting (env : Env) {status : CommandStatus} (h : con.Awaiting [] status) {columns : List Column}
    (hc : con.result.columns = some columns) {column : Column} (hcolumn : columns[con.result.currentColumn]? = some column) :
    (packetReadColumn env con).Awaiting
      [if uint16 (con.result.currentColumn + 1 : ℕ) = con.result.columnCount then .response else .column] status := by
  have hbind : con.result.columns.bind (·[con.result.currentColumn]?) = some column := by
    rw [hc]
    exact hcolumn
  have hread : (columnRead con (packetGetColumn con column)).Awaiting [] status := ⟨h.queue_eq, h.commandStatus, h.room⟩
  rw [packetReadColumn_of_some env con hbind, hread.push]
  exact ⟨rfl, hread.commandStatus, hread.room⟩

/-- Behind the columns the first row is expected. -/
lemma packetReadEof_columns (env : Env) (h : con.Awaiting [] .readColumn) :
    (packetReadEof env con).readBuffer = con.readBuffer.map BufferSt.packetReadEnd ∧
      (packetReadEof env con).Awaiting [.row] .readRow ∧ (packetReadEof env con).result = con.result := by
  obtain ⟨con', he, hbuffer, hresult, hqueue, hstatus, hroom⟩ : ∃ con' : Con, packetReadEof env con = eofNext env con' ∧
      con'.readBuffer = con.readBuffer ∧ con'.result = con.result ∧ con'.nextPacketQueue = con.nextPacketQueue ∧
        con'.commandStatus = con.commandStatus ∧ (con.HasQueue → con'.HasQueue) := ⟨_, rfl, rfl, rfl, rfl, rfl, id⟩
  have hnext : ({ con' with commandStatus := .readRow } : Con).Awaiting [] .readRow :=
    ⟨hqueue.trans h.queue_eq, rfl, hroom h.room⟩
  unfold eofNext at he
  rw [hstatus, h.commandStatus] at he
  dsimp only at he
  rw [hnext.push] at he
  rw [he, ← hbuffer, ← hresult]
  exact ⟨rfl, ⟨rfl, rfl, hnext.room⟩, rfl⟩

/-- Behind the rows nothing is expected. -/
lemma packetReadEof_rows (env : Env) (h : con.Awaiting [] .readRow) :
    (packetReadEof env con).readBuffer = con.readBuffer.map BufferSt.packetReadEnd ∧
      (packetReadEof env con).Awaiting [] .eof ∧ (packetReadEof env con).status = .idle ∧
      (packetReadEof env con).result = con.result := by
  obtain ⟨con', he, hbuffer, hresult, hqueue, hstatus, hroom⟩ : ∃ con' : Con, packetReadEof env con = eofNext env con' ∧
      con'.readBuffer = con.readBuffer ∧ con'.result = con.result ∧ con'.nextPacketQueue = con.nextPacketQueue ∧
        con'.commandStatus = con.commandStatus ∧ (con.HasQueue → con'.HasQueue) := ⟨_, rfl, rfl, rfl, rfl, rfl, id⟩
  unfold eofNext at he
  rw [hstatus, h.commandStatus] at he
  dsimp only at he
  rw [he, ← hbuffer, ← hresult]
  exact ⟨rfl, ⟨hqueue.trans h.queue_eq, rfl, hroom h.room⟩, rfl, rfl⟩

/-- An EOF packet in place of a row. -/
lemma packetReadRow_eof (env : Env) (hfirst : con.peekByte 0 = 0xfe) :
    packetReadRow env con = packetReadEof env { con with result.rowData := none, result.rowLength := 0 } := by
  unfold packetReadRow
  rw [if_pos hfirst]
  exact packetReadResponse_of_eof env { con with result.rowData := none, result.rowLength := 0 } hfirst

/-- Anything else is a row, which is kept where it is. -/
lemma packetReadRow_row (env : Env) (h : con.Awaiting [] .readRow) (hfirst : con.peekByte 0 ≠ 0xfe) :
    (packetReadRow env con).buf = con.buf ∧ (packetReadRow env con).Awaiting [] .rowInBuffer ∧
      (packetReadRow env con).status = .idle ∧ (packetReadRow env con).result = { con.result with
        rowData := some con.buf.bufferReadPtr
        rowLength := con.packetSize } := by
  unfold packetReadRow
  rw [if_neg hfirst]
  exact ⟨rfl, ⟨h.queue_eq, rfl, h.room⟩, rfl, rfl⟩

end Readers

/-! ### The packets -/

section Packets

variable {con : Con} {a : Arrival} {payload : List UInt8} {first : Bool} {n : ℕ} {ds : List Definition}

lemma Arrival.Consumed.passed (h : a.Consumed con) (hb : a.con.Bears payload) :
    a.Taken (arrive con a) ∧ a.Passed (arrive con a) payload.length := by
  obtain ⟨htaken, hqueue, hwf, hunread⟩ := h
  rw [hb.holds.length_eq] at hunread
  exact ⟨⟨htaken, hqueue⟩, hwf, hunread⟩

/-- An OK packet is the whole answer, whatever its numbers. -/
lemma ok_ends {affectedRows insertId : ℕ} {status warnings : UInt16} {message : List UInt8} (h : con.At (.answer first))
    (hs : con.Stands a.con)
    (hb : a.con.Bears (ResponsePacket.ok affectedRows insertId status warnings message).payload) :
    arrive con a = packetReadOk (a.opened .response
        (ResponsePacket.ok affectedRows insertId status warnings message).payload) ∧
      a.Consumed con ∧ (arrive con a).At (.done [] (moreResults status)) := by
  obtain ⟨hexpects, hbusy, -, -⟩ := h
  obtain ⟨hpayload, -⟩ := hb.opened .response
  have hzero := opened_peekByte hb .response
  have hopened := hexpects.opened hs.toWaits (ResponsePacket.ok affectedRows insertId status warnings message).payload
  have hstatus : (a.opened .response (ResponsePacket.ok affectedRows insertId status warnings message).payload).status =
      .busy := (opened_status .response).trans (hs.status_eq.trans hbusy)
  have hread : (packetDispatch a.env (a.opened .response (ResponsePacket.ok affectedRows insertId status warnings
      message).payload) .response).con = packetReadOk (a.opened .response (ResponsePacket.ok affectedRows insertId status
        warnings message).payload) := if_pos hzero
  obtain ⟨hconsumed, he⟩ := Arrival.step hb (hs.queue_eq.trans hexpects.queue_eq) hread rfl
  refine ⟨he, hconsumed, ?_⟩
  rw [he]
  generalize a.opened .response (ResponsePacket.ok affectedRows insertId status warnings message).payload = con₁ at *
  refine ⟨⟨hopened.queue_eq, ?_, hopened.room⟩, rfl, ?_, nofun⟩
  · show (if con₁.status = .connecting then CommandStatus.connected else .eof) = .eof
    rw [hstatus, if_neg (by decide)]
  · rw [packetReadOk_status hpayload]
    rfl

/-- An OK packet whose numbers are kept is found as it was sent. -/
lemma ok_turn {affectedRows insertId : ℕ} {status warnings : UInt16} {message : List UInt8} (ha : LengthKept affectedRows)
    (hi : LengthKept insertId) (h : con.At (.answer first)) (hs : con.Stands a.con)
    (hb : a.con.Bears (ResponsePacket.ok affectedRows insertId status warnings message).payload) :
    a.Consumed con ∧ (ResponsePacket.ok affectedRows insertId status warnings message).Found (arrive con a) ∧
      (arrive con a).At (.done [] (moreResults status)) := by
  obtain ⟨he, hconsumed, hdone⟩ := ok_ends h hs hb
  obtain ⟨hpayload, -⟩ := hb.opened .response
  refine ⟨hconsumed, ?_, hdone⟩
  rw [he]
  exact packetReadOk_found ha hi hpayload rfl

/-- An ERR packet is the whole answer. -/
lemma err_turn {errno : UInt16} {sqlstate message : List UInt8} (hlength : sqlstate.length = 5)
    (h : con.At (.answer true)) (hs : con.Stands a.con)
    (hb : a.con.Bears (ResponsePacket.err errno sqlstate message).payload) :
    a.Consumed con ∧ (ResponsePacket.err errno sqlstate message).Found (arrive con a) ∧
      (arrive con a).At (.done [] false) := by
  obtain ⟨hexpects, hbusy, -, hzero⟩ := h
  obtain ⟨hpayload, -⟩ := hb.opened .response
  have hfirst := opened_peekByte hb .response
  have hopened := hexpects.opened hs.toWaits (ResponsePacket.err errno sqlstate message).payload
  have hserver : (a.opened .response (ResponsePacket.err errno sqlstate message).payload).serverStatus = 0 :=
    (opened_serverStatus .response).trans (hs.serverStatus_eq.trans hzero)
  have hsize : (a.opened .response (ResponsePacket.err errno sqlstate message).payload).packetSize =
      (ResponsePacket.err errno sqlstate message).payload.length := rfl
  have hread :
    (packetDispatch a.env (a.opened .response (ResponsePacket.err errno sqlstate message).payload) .response).con =
      packetReadErr (a.opened .response (ResponsePacket.err errno sqlstate message).payload) :=
    packetReadResponse_of_err a.env _ hfirst
  obtain ⟨hconsumed, he⟩ := Arrival.step hb (hs.queue_eq.trans hexpects.queue_eq) hread rfl
  rw [he]
  generalize a.opened .response (ResponsePacket.err errno sqlstate message).payload = con₁ at *
  have hidle : (packetReadErr con₁).status = .idle := by
    show (if con₁.commandStatus = .readResponse then ConStatus.connectFailed else .idle) = .idle
    rw [hopened.commandStatus, if_neg (by decide)]
  refine ⟨hconsumed, packetReadErr_found hlength hpayload hsize, ⟨rfl, rfl, hopened.room⟩, hidle, ?_, nofun⟩
  show con₁.serverStatus.testBit serverStatusMoreResults = false
  rw [hserver]
  rfl

/-- How a number of columns begins. -/
lemma packLength_head (hpos : 0 < n) (hlt : n < 2 ^ 16) (hn : LengthKept n) :
    ∃ c rest, packLength n = c :: rest ∧ c ≠ 0x00 ∧ c ≠ 0xff ∧ c ≠ 0xfe := by
  unfold packLength
  split_ifs with h₁ h₂ h₃
  · have hsmall : n < 0x80 := hn.resolve_right (by omega)
    have hbyte : (byteAt n 0).toNat = n := by
      rw [toNat_byteAt]
      omega
    have hne : ∀ c : UInt8, c.toNat ≠ n → byteAt n 0 ≠ c := by
      rintro c hc rfl
      exact hc hbyte
    exact ⟨_, _, rfl, hne 0x00 (by show 0 ≠ n; omega), hne 0xff (by show 255 ≠ n; omega), hne 0xfe (by show 254 ≠ n; omega)⟩
  · exact ⟨_, _, rfl, by decide, by decide, by decide⟩
  · omega
  · omega

/-- The header announces the columns. -/
lemma header_turn (hpos : 0 < n) (hlt : n < 2 ^ 16) (hn : LengthKept n) (h : con.At (.answer first))
    (hs : con.Stands a.con) (hb : a.con.Bears (ResponsePacket.header n).payload)
    (hmem : a.env.newArray n sizeofColumn = true) :
    a.Consumed con ∧ (ResponsePacket.header n).Found (arrive con a) ∧ (arrive con a).At (.columns n []) := by
  obtain ⟨hexpects, -, hcurrent, -⟩ := h
  obtain ⟨c, rest, hhead, hc₀, hc₁, hc₂⟩ := packLength_head hpos hlt hn
  obtain ⟨hpayload, -⟩ := hb.opened .response
  have hpeek : (a.opened .response (ResponsePacket.header n).payload).peekByte 0 = c := by
    have hb' : a.con.Bears (c :: rest) := hhead ▸ hb
    have hfirst := opened_peekByte hb' .response
    rwa [← hhead] at hfirst
  have hopened := hexpects.opened hs.toWaits (ResponsePacket.header n).payload
  have hresult : (a.opened .response (ResponsePacket.header n).payload).result.currentColumn = 0 :=
    (congrArg Result.currentColumn ((opened_result .response).trans hs.result_eq)).trans hcurrent
  have hread : (packetDispatch a.env (a.opened .response (ResponsePacket.header n).payload) .response).con =
      packetReadHeader a.env (a.opened .response (ResponsePacket.header n).payload) := by
    show packetReadResponse a.env _ = _
    unfold packetReadResponse
    rw [hpeek, if_neg hc₀, if_neg hc₁, if_neg hc₂]
  obtain ⟨hend, hpushed⟩ := packetReadHeader_awaiting a.env hopened
  obtain ⟨hconsumed, he⟩ := Arrival.step hb (hs.queue_eq.trans hexpects.queue_eq) hread hend
  rw [he]
  generalize a.opened .response (ResponsePacket.header n).payload = con₁ at *
  have hcount : uint16 (unpackLength con₁.buf.mem con₁.buf.bufferReadPtr).length = n := by
    rw [unpackLength_of_slice hpayload hn]
    exact Nat.mod_eq_of_lt hlt
  have hcolumns := packetReadHeader_awaitsColumns a.env hcount hmem hresult
  obtain ⟨columns, hsome, hlength⟩ := hcolumns.columns
  refine ⟨hconsumed, ⟨columns, hsome, hlength⟩, ?_, ⟨⟨columns, hsome, hlength⟩, hcolumns.count, nofun⟩, hcolumns.current,
    hlt⟩
  rw [List.length_nil, if_neg (by omega)]
  exact hpushed

/-- The definition of a column goes to its place. -/
lemma definition_turn {d : Definition} (hlt : ds.length < n) (h : con.At (.columns n ds)) (hs : con.Stands a.con)
    (hb : a.con.Bears (ResponsePacket.definition d).payload) :
    a.Consumed con ∧ (arrive con a).At (.columns n (ds ++ [d])) := by
  obtain ⟨hexpects, ⟨⟨columns, hcolumns, hlength⟩, hcount, hstored⟩, hcurrent, hn⟩ := h
  rw [if_neg (by omega)] at hexpects
  obtain ⟨hpayload, hspace⟩ := hb.opened .column
  have hopened := hexpects.opened hs.toWaits (ResponsePacket.definition d).payload
  have hresult : (a.opened .column (ResponsePacket.definition d).payload).result = con.result :=
    (opened_result .column).trans hs.result_eq
  have hcount₁ := (congrArg Result.columnCount hresult).trans hcount
  have hsome := (congrArg Result.columns hresult).trans hcolumns
  have hplace := (congrArg Result.currentColumn hresult).trans hcurrent
  obtain ⟨column, hget⟩ : ∃ column, columns[ds.length]? = some column := ⟨_, List.getElem?_eq_getElem (by omega)⟩
  have hcolumn : columns[(a.opened .column (ResponsePacket.definition d).payload).result.currentColumn]? = some column := by
    rw [hplace]
    exact hget
  obtain ⟨hend, -, hafter⟩ := packetReadColumn_result a.env hsome hcolumn
  have hnext := packetReadColumn_awaiting a.env hopened hsome hcolumn
  obtain ⟨hconsumed, he⟩ := Arrival.step hb (hs.queue_eq.trans hexpects.queue_eq) rfl hend
  have hdispatch : (packetDispatch a.env (a.opened .column (ResponsePacket.definition d).payload) .column).con =
      packetReadColumn a.env (a.opened .column (ResponsePacket.definition d).payload) := rfl
  rw [he, hdispatch]
  generalize a.opened .column (ResponsePacket.definition d).payload = con₁ at *
  have huint : uint16 (ds.length + 1 : ℕ) = ds.length + 1 := Nat.mod_eq_of_lt (by omega)
  rw [hplace, huint] at hafter hnext
  rw [hresult, hcount] at hnext
  refine ⟨hconsumed, ?_, ⟨⟨_, by rw [hafter], by rw [List.length_set, hlength]⟩, by rw [hafter]; exact hcount₁, ?_⟩, ?_, hn⟩
  · rwa [List.length_append, List.length_singleton]
  · intro i d' hd' hkept
    unfold Con.StoresColumn
    rw [hafter]
    by_cases hi : i < ds.length
    · rw [List.getElem?_append_left hi] at hd'
      obtain ⟨c, hmem, hholds⟩ := hstored i d' hd' hkept
      rw [hcolumns] at hmem
      exact ⟨c, (List.getElem?_set_ne (by omega)).trans hmem, hholds⟩
    · rw [List.getElem?_append_right (by omega)] at hd'
      have hlast : i - ds.length = 0 := by
        by_contra hne
        rw [List.getElem?_eq_none (by rw [List.length_singleton]; omega)] at hd'
        cases hd'
      have hd : d = d' := by
        rw [hlast] at hd'
        exact Option.some.inj hd'
      have hi : ds.length = i := by omega
      subst hd hi
      exact ⟨_, List.getElem?_set_self (by omega), packetGetColumn_holds column hpayload hkept hspace⟩
  · rw [hafter, List.length_append, List.length_singleton]

/-- The EOF packet behind the columns. -/
lemma columnsEnd_turn {warnings status : UInt16} {more : List UInt8} (hlength : ds.length = n) (h : con.At (.columns n ds))
    (hs : con.Stands a.con) (hb : a.con.Bears (ResponsePacket.eof warnings status more).payload) :
    a.Consumed con ∧ (ResponsePacket.eof warnings status more).Found (arrive con a) ∧ (arrive con a).At (.rows ds) := by
  obtain ⟨hexpects, ⟨hcolumns, hcount, hstored⟩, -, -⟩ := h
  subst hlength
  rw [if_pos rfl] at hexpects
  obtain ⟨hpayload, -⟩ := hb.opened .response
  have hopened := hexpects.opened hs.toWaits (ResponsePacket.eof warnings status more).payload
  have hresult : (a.opened .response (ResponsePacket.eof warnings status more).payload).result = con.result :=
    (opened_result .response).trans hs.result_eq
  obtain ⟨hend, hnext, hafter⟩ := packetReadEof_columns a.env hopened
  have hread : (packetDispatch a.env (a.opened .response (ResponsePacket.eof warnings status more).payload) .response).con =
      packetReadEof a.env (a.opened .response (ResponsePacket.eof warnings status more).payload) := opened_eof hb
  obtain ⟨hconsumed, he⟩ := Arrival.step hb (hs.queue_eq.trans hexpects.queue_eq) hread hend
  rw [he]
  refine ⟨hconsumed, packetReadEof_found a.env hpayload, hnext, ?_⟩
  unfold Con.StoresColumn at hstored
  rw [← hresult, ← hafter] at hcolumns hcount hstored
  exact ⟨hcolumns, hcount, hstored⟩

/-- A row stays in the buffer. -/
lemma row_turn {bytes : List UInt8} (hbytes : RowBytes bytes) (h : con.At (.rows ds)) (hs : con.Stands a.con)
    (hb : a.con.Bears (ResponsePacket.row bytes).payload) :
    a.Taken (arrive con a) ∧ (ResponsePacket.row bytes).Found (arrive con a) ∧ a.Passed (arrive con a) 0 ∧
      (arrive con a).At (.row ds) := by
  obtain ⟨hexpects, ⟨hcolumns, hcount, hstored⟩⟩ := h
  obtain ⟨c, rest, rfl, hc⟩ := hbytes
  change a.con.Bears (c :: rest) at hb
  obtain ⟨hpayload, -⟩ := hb.opened .row
  have hq := hs.queue_eq.trans hexpects.queue_eq
  have hpeek := opened_peekByte hb .row
  have hopened := hexpects.opened hs.toWaits (c :: rest)
  have hresult : (a.opened .row (c :: rest)).result = con.result :=
    (opened_result .row).trans hs.result_eq
  have hbuf : (a.opened .row (c :: rest)).buf = (a.con.buf.advance 4).setPacketEnd (c :: rest).length := opened_buf _
  have hsize : (a.opened .row (c :: rest)).packetSize = (c :: rest).length := rfl
  have harrive : arrive con a = (packetDispatch a.env (a.opened .row (c :: rest)) .row).con := deliver_of_bears hb hq
  have hdispatch : (packetDispatch a.env (a.opened .row (c :: rest)) .row).con =
      packetReadRow a.env (a.opened .row (c :: rest)) := rfl
  have hcomplete := hb.holds.complete
  have htaken : a.Taken (arrive con a) := by
    refine ⟨fun ha => processPacket_delivers hb hq (ha .row (by rw [hq]; rfl)), ?_⟩
    rw [hq]
    exact List.cons_ne_nil _ _
  rw [harrive, hdispatch] at htaken ⊢
  generalize a.opened .row (c :: rest) = con₁ at *
  obtain ⟨hbuf₂, hexpects₂, hidle, hrow⟩ := packetReadRow_row a.env hopened (by rwa [hpeek])
  generalize packetReadRow a.env con₁ = con₂ at *
  have hcolumns₂ : con₂.result.columns = con.result.columns := by rw [hrow, ← hresult]
  have hcount₂ : con₂.result.columnCount = con.result.columnCount := by rw [hrow, ← hresult]
  unfold Con.StoresColumn at hstored
  rw [← hcolumns₂] at hcolumns hstored
  refine ⟨htaken, ⟨con₁.buf.bufferReadPtr, by rw [hrow], by rw [hrow]; exact hsize, ?_, ?_⟩, ⟨?_, ?_⟩, hexpects₂, hidle,
    ⟨hcolumns, hcount₂.trans hcount, hstored⟩⟩
  · rw [hbuf₂]
    exact hpayload
  · rw [hbuf₂, hbuf]
    rfl
  · rw [hbuf₂, hbuf]
    exact (hb.wf.advance (by omega)).setPacketEnd _
  · rw [hbuf₂, hbuf, BufferSt.setPacketEnd_unread, BufferSt.unread_advance]

/-- The EOF packet behind the rows leaves the columns as they are. -/
lemma rowsEnd_ends {warnings status : UInt16} {more : List UInt8} (h : con.At (.rows ds)) (hs : con.Stands a.con)
    (hb : a.con.Bears (ResponsePacket.eof warnings status more).payload) :
    a.Consumed con ∧ (ResponsePacket.eof warnings status more).Found (arrive con a) ∧ (arrive con a).Awaiting [] .eof ∧
      (arrive con a).status = .idle ∧ (arrive con a).HoldsColumns ds.length ds := by
  obtain ⟨hexpects, ⟨hsome, hcount, hstored⟩⟩ := h
  obtain ⟨hpayload, -⟩ := hb.opened .row
  have hpeek := opened_peekByte hb .row
  have hopened := hexpects.opened hs.toWaits (ResponsePacket.eof warnings status more).payload
  have hresult : (a.opened .row (ResponsePacket.eof warnings status more).payload).result = con.result :=
    (opened_result .row).trans hs.result_eq
  have hread : (packetDispatch a.env (a.opened .row (ResponsePacket.eof warnings status more).payload) .row).con = _ :=
    packetReadRow_eof a.env hpeek
  obtain ⟨con₁, hcon₁⟩ : ∃ con₁, { a.opened .row (ResponsePacket.eof warnings status more).payload with
      result.rowData := none, result.rowLength := 0 } = con₁ := ⟨_, rfl⟩
  have hopened₁ : con₁.Awaiting [] .readRow := by
    rw [← hcon₁]
    exact ⟨hopened.queue_eq, hopened.commandStatus, hopened.room⟩
  have hpayload₁ : con₁.buf.mem.slice con₁.buf.bufferReadPtr (ResponsePacket.eof warnings status more).payload.length =
      (ResponsePacket.eof warnings status more).payload := by
    rw [← hcon₁]
    exact hpayload
  have hbuffer : con₁.readBuffer = (a.opened .row (ResponsePacket.eof warnings status more).payload).readBuffer := by
    rw [← hcon₁]
  have hcolumns : con₁.result.columns = con.result.columns ∧ con₁.result.columnCount = con.result.columnCount := by
    rw [← hcon₁, ← hresult]
    exact ⟨rfl, rfl⟩
  rw [hcon₁] at hread
  obtain ⟨hend, hnext, hidle, hafter⟩ := packetReadEof_rows a.env hopened₁
  obtain ⟨hconsumed, he⟩ := Arrival.step hb (hs.queue_eq.trans hexpects.queue_eq) hread (hend.trans (by rw [hbuffer]))
  rw [he]
  refine ⟨hconsumed, packetReadEof_found a.env hpayload₁, hnext, hidle, ?_⟩
  unfold Con.StoresColumn at hstored
  rw [← hcolumns.1, ← hafter] at hsome hstored
  rw [← hcolumns.2, ← hafter] at hcount
  exact ⟨hsome, hcount, hstored⟩

/-- The EOF packet behind the rows. -/
lemma rowsEnd_turn {warnings status : UInt16} {more : List UInt8} (h : con.At (.rows ds)) (hs : con.Stands a.con)
    (hb : a.con.Bears (ResponsePacket.eof warnings status more).payload) :
    a.Consumed con ∧ (ResponsePacket.eof warnings status more).Found (arrive con a) ∧
      (arrive con a).At (.done ds (moreResults status)) := by
  obtain ⟨hconsumed, hfound, hnext, hidle, hcolumns⟩ := rowsEnd_ends h hs hb
  refine ⟨hconsumed, hfound, hnext, hidle, ?_, hcolumns.stored⟩
  rw [hfound.2]
  rfl

end Packets

/-! ### The calls -/

section Calls

variable {con : Con} {a : Arrival} {ds : List Definition} {more : Bool}

/-- The next row is asked for: the row before is consumed. -/
lemma request_turn (h : con.At (.row ds)) (hs : con.Stands a.con) (hb : a.con.readBuffer.isSome = true) :
    (requestRow a.env a.con).buf = a.con.buf.packetReadEnd ∧ (requestRow a.env a.con).At (.rows ds) := by
  obtain ⟨hexpects, -, ⟨hcolumns, hcount, hstored⟩⟩ := h
  obtain ⟨b, hsome⟩ := Option.isSome_iff_exists.mp hb
  obtain ⟨hqueue, hstatus, hroom⟩ := hexpects.stands hs
  have hended : ((packetReadEnd a.con).log .rowRequested).Awaiting [] .rowInBuffer := ⟨hqueue, hstatus, hroom⟩
  have hbuf : ((packetReadEnd a.con).log .rowRequested).buf = a.con.buf.packetReadEnd := by
    show ((a.con.readBuffer.map BufferSt.packetReadEnd).getD _) = (a.con.readBuffer.getD _).packetReadEnd
    rw [hsome]
    rfl
  have hresult : ((packetReadEnd a.con).log .rowRequested).result = a.con.result := rfl
  rw [hs.result_eq] at hresult
  unfold requestRow
  rw [hended.push]
  unfold Con.StoresColumn at hstored
  rw [← hresult] at hcolumns hcount hstored
  exact ⟨hbuf, ⟨rfl, rfl, hended.room⟩, hcolumns, hcount, hstored⟩

lemma queryClose_awaiting {status : CommandStatus} (h : con.Awaiting [] status) :
    (queryClose con).Awaiting [] status ∧ (queryClose con).status = con.status ∧
      (queryClose con).serverStatus = con.serverStatus ∧ (queryClose con).result.columns = none := by
  unfold queryClose commandFree Con.log
  exact ⟨⟨h.queue_eq, h.commandStatus, h.room⟩, rfl, rfl, rfl⟩

/-- A result that was read is closed. -/
lemma close_turn (h : con.At (.done ds more)) (hs : con.Stands a.con) :
    (queryClose a.con).result.columns = none ∧ (queryClose a.con).At (.closed more) := by
  obtain ⟨hexpects, hidle, hmore, -⟩ := h
  obtain ⟨hclosed, hstatus, hserver, hcolumns⟩ := queryClose_awaiting (hexpects.stands hs)
  refine ⟨hcolumns, hclosed, ?_, ?_⟩
  · rw [hstatus, hs.status_eq, hidle]
  · rw [hserver, hs.serverStatus_eq, hmore]

/-- The next result is expected. -/
lemma next_turn (h : con.At (.closed true)) (hs : con.Stands a.con) :
    (commandNextResult a.env a.con).2 = true ∧ (commandNextResult a.env a.con).1.At (.answer false) := by
  obtain ⟨hexpects, -, hmore⟩ := h
  rw [← hs.serverStatus_eq] at hmore
  obtain ⟨hqueue, hstatus, hroom⟩ := hexpects.stands hs
  have hreset : ((resetInternals a.con).log (.nextResult a.con.status)).Awaiting [] .eof := ⟨hqueue, hstatus, hroom⟩
  unfold commandNextResult
  rw [if_pos hmore]
  dsimp only
  rw [hreset.push]
  exact ⟨rfl, ⟨rfl, rfl, hreset.room⟩, rfl, rfl, rfl⟩

end Calls

/-! ### Where a response begins -/

section Sent

variable (env : Env) {con : Con} {cmd : Command}

lemma Con.SendOnly.reset {con' : Con} (h : con.SendOnly con') :
    con'.result = con.result ∧ con'.serverStatus = con.serverStatus := by
  have hresult := congrArg Con.result h
  have hserver := congrArg Con.serverStatus h
  exact ⟨hresult, hserver⟩

/-- What a command leaves when its answer has just been expected. -/
lemma commandSent_answers (hq : con.nextPacketQueue = []) (hcurrent : con.result.currentColumn = 0)
    (hserver : con.serverStatus = 0)
    (hsent : (commandSent (packetQueuePush env con .response)).nextPacketQueue = [.response]) :
    (commandSent (packetQueuePush env con .response)).At (.answer true) := by
  have hroom : (packetQueuePush env con .response).HasQueue := by
    refine hasQueue_of_push env ?_
    rw [hq]
    intro hnil
    have hpushed : (packetQueuePush env con .response).nextPacketQueue = [.response] := hsent
    rw [hnil] at hpushed
    cases hpushed
  have hresult := packetQueuePush_result env con .response
  obtain ⟨queue, size, bytes, trace, hpush⟩ := packetQueuePush_frame env con .response
  have hstatus : (packetQueuePush env con .response).serverStatus = con.serverStatus := by rw [hpush]
  refine ⟨⟨hsent, rfl, hroom⟩, rfl, ?_, ?_⟩
  · show (packetQueuePush env con .response).result.currentColumn = 0
    rw [hresult, hcurrent]
  · show (packetQueuePush env con .response).serverStatus = 0
    rw [hstatus, hserver]

/-- **A query or an execution whose answer is expected** is where a response begins. -/
theorem commandSend_answers (hq : con.nextPacketQueue = []) (hcmd : cmd = .query ∨ cmd = .stmtExecute) (data : List UInt8)
    (hsent : (commandSend env con cmd data).1.nextPacketQueue = [.response]) :
    (commandSend env con cmd data).1.At (.answer true) := by
  have hstart := @commandStart_nextPacketQueue con cmd data.length
  have hempty : ∀ {con₁ : Con}, con₁.nextPacketQueue = con.nextPacketQueue ∨ con₁.nextPacketQueue = [] →
      con₁.nextPacketQueue = [] := fun h => h.elim (fun h => h.trans hq) id
  have hreset : (commandStart con cmd data.length).result.currentColumn = 0 ∧
      (commandStart con cmd data.length).serverStatus = 0 := ⟨rfl, rfl⟩
  unfold commandSend at hsent ⊢
  dsimp only at hsent ⊢
  generalize commandStart con cmd data.length = con₀ at hstart hreset hsent ⊢
  split_ifs at hsent ⊢
  · obtain ⟨hqueue, -⟩ := (sendCompressedPacket_writes env con₀ data (some cmd)).cases
    obtain ⟨hresult, hserver⟩ := (sendCompressedPacket_sendOnly env con₀ data (some cmd)).reset
    rw [hstart] at hqueue
    rw [← hresult, ← hserver] at hreset
    have hprepare : (if cmd = .stmtPrepare then PacketType.prepareResponse else .response) = .response :=
      if_neg (by rcases hcmd with rfl | rfl <;> decide)
    unfold commandSendCompressed at hsent ⊢
    rw [hprepare] at hsent ⊢
    dsimp only at hsent ⊢
    generalize sendCompressedPacket env con₀ data (some cmd) = con₁ at hqueue hreset hsent ⊢
    by_cases hidle : con₁.status = .idle
    · rw [if_pos hidle] at hsent ⊢
      exact commandSent_answers env (hempty hqueue) hreset.1 hreset.2 hsent
    · rw [if_neg hidle] at hsent
      have hnone : con₁.nextPacketQueue = [.response] := hsent
      rw [hempty hqueue] at hnone
      cases hnone
  · unfold commandSendPlain at hsent ⊢
    split at hsent
    · cases hsent
    · next con₁ hw =>
      have hrest := commandWrite_writes env con₀ hw
      have hqueue := hrest.queue_eq
      rw [hstart] at hqueue
      have hresult : con₁.result = con₀.result := congrArg Data.result hrest.data_eq
      have hwire := netWrite_wireOnly env _ hw
      have hwritten := congrArg Con.serverStatus hwire
      have hserver : con₁.serverStatus = con₀.serverStatus := hwritten
      rw [← hresult, ← hserver] at hreset
      have hexpected : expectedResponse env con₁ cmd = packetQueuePush env con₁ .response := by
        rcases hcmd with rfl | rfl
        · rfl
        · rfl
      rw [hexpected] at hsent ⊢
      exact commandSent_answers env (hempty hqueue) hreset.1 hreset.2 hsent

end Sent

/-! ### Turns and runs -/

section Runs

variable {con : Con} {φ φ' : ResponsePhase}

/-- **One turn follows the protocol.** -/
theorem response_turn {t : TurnTaken} (h : con.At φ) (hl : t.Legal con) (hn : φ.Next t.1 φ') :
    t.Shown con ∧ (t.apply con).At φ' := by
  obtain ⟨turn, a⟩ := t
  cases hn with
  | ok ha hi =>
    obtain ⟨hs, hb, -⟩ := hl
    obtain ⟨hconsumed, hfound, hnext⟩ := ok_turn ha hi h hs hb
    obtain ⟨htaken, hpassed⟩ := hconsumed.passed hb
    exact ⟨⟨htaken, hfound, hpassed⟩, hnext⟩
  | err hlength =>
    obtain ⟨hs, hb, -⟩ := hl
    obtain ⟨hconsumed, hfound, hnext⟩ := err_turn hlength h hs hb
    obtain ⟨htaken, hpassed⟩ := hconsumed.passed hb
    exact ⟨⟨htaken, hfound, hpassed⟩, hnext⟩
  | header hpos hlt hn =>
    obtain ⟨hs, hb, hmem⟩ := hl
    obtain ⟨hconsumed, hfound, hnext⟩ := header_turn hpos hlt hn h hs hb hmem
    obtain ⟨htaken, hpassed⟩ := hconsumed.passed hb
    exact ⟨⟨htaken, hfound, hpassed⟩, hnext⟩
  | definition hlt =>
    obtain ⟨hs, hb, -⟩ := hl
    obtain ⟨hconsumed, hnext⟩ := definition_turn hlt h hs hb
    obtain ⟨htaken, hpassed⟩ := hconsumed.passed hb
    exact ⟨⟨htaken, trivial, hpassed⟩, hnext⟩
  | columnsEnd hlength =>
    obtain ⟨hs, hb, -⟩ := hl
    obtain ⟨hconsumed, hfound, hnext⟩ := columnsEnd_turn hlength h hs hb
    obtain ⟨htaken, hpassed⟩ := hconsumed.passed hb
    exact ⟨⟨htaken, hfound, hpassed⟩, hnext⟩
  | row hbytes =>
    obtain ⟨hs, hb, -⟩ := hl
    obtain ⟨htaken, hfound, hpassed, hnext⟩ := row_turn hbytes h hs hb
    exact ⟨⟨htaken, hfound, hpassed⟩, hnext⟩
  | request => exact request_turn h hl.1 hl.2
  | rowsEnd =>
    obtain ⟨hs, hb, -⟩ := hl
    obtain ⟨hconsumed, hfound, hnext⟩ := rowsEnd_turn h hs hb
    obtain ⟨htaken, hpassed⟩ := hconsumed.passed hb
    exact ⟨⟨htaken, hfound, hpassed⟩, hnext⟩
  | close => exact close_turn h hl.1
  | next => exact next_turn h hl.1

/-- **A run of turns follows the protocol.** -/
theorem response_turns {ts : List TurnTaken} (h : con.At φ) (hl : Along TurnTaken.apply TurnTaken.Legal con ts)
    (hp : Leads ResponsePhase.Next φ (ts.map Prod.fst) φ') :
    Along TurnTaken.apply TurnTaken.Shown con ts ∧ (run TurnTaken.apply con ts).At φ' := by
  refine run_simulates ?_ h hl hp
  intro con φ t φ' h hl hn
  exact response_turn h hl hn

/-- **A response is read as it was sent.**  A query or an execution was sent, and nothing else is expected.  Whatever packets
the server sends and whatever calls the application makes, in any order the protocol allows and for any number of results in
the chain: each packet is taken as one that was expected and exactly its bytes are consumed, the application finds what the
packet says, each row stands in the buffer byte by byte until the next one is asked for, and behind the turns the connection
is in the phase the protocol is in. -/
theorem response_read {env : Env} {cmd : Command} {data : List UInt8} (hq : con.nextPacketQueue = [])
    (hcmd : cmd = .query ∨ cmd = .stmtExecute) (hsent : (commandSend env con cmd data).1.nextPacketQueue = [.response])
    {ts : List TurnTaken} (hl : Along TurnTaken.apply TurnTaken.Legal (commandSend env con cmd data).1 ts)
    (hp : Leads ResponsePhase.Next (.answer true) (ts.map Prod.fst) φ') :
    Along TurnTaken.apply TurnTaken.Shown (commandSend env con cmd data).1 ts ∧
      (run TurnTaken.apply (commandSend env con cmd data).1 ts).At φ' :=
  response_turns (commandSend_answers env hq hcmd data hsent) hl hp

end Runs

/-! ### A chain of two answers -/

/-- The turns find the connection as the turn before left it: all packets are in the buffer already. -/
def taken (env : Env) : Con → List Turn → List TurnTaken
  | _, [] => []
  | con, t :: ts => (t, ⟨env, con⟩) :: taken env (TurnTaken.apply con (t, ⟨env, con⟩)) ts

instance (t : TurnTaken) : Decidable t.Borne := by
  obtain ⟨turn, a⟩ := t
  rcases turn with p | _ | _ | _
  case packet =>
    rcases p with _ | _ | n | _ | _ | _
    all_goals
      dsimp only [TurnTaken.Borne, ResponsePacket.Affordable]
      infer_instance
  all_goals
    dsimp only [TurnTaken.Borne]
    infer_instance

lemma taken_fst (env : Env) (con : Con) (ts : List Turn) : (taken env con ts).map Prod.fst = ts := by
  induction ts generalizing con with
  | nil => rfl
  | cons t ts ih => exact congrArg _ (ih _)

lemma taken_legal {env : Env} {con con' : Con} (hs : con.Stands con') {ts : List Turn}
    (h : Along TurnTaken.apply (fun _ t => t.Borne) con (taken env con' ts)) :
    Along TurnTaken.apply TurnTaken.Legal con (taken env con' ts) := by
  induction ts generalizing con con' with
  | nil => exact trivial
  | cons t ts ih =>
    have happly : TurnTaken.apply con (t, ⟨env, con'⟩) = TurnTaken.apply con' (t, ⟨env, con'⟩) := by cases t <;> rfl
    obtain ⟨hfirst, hrest⟩ := h
    exact ⟨⟨hs, hfirst⟩, ih (happly ▸ .refl _) hrest⟩

/-- A result of one column and one row, after which the server has more, and an OK packet. -/
def twoAnswers : List Turn :=
  [.packet (.header 1), .packet (.definition ⟨[0x64], [], [], [], [0x61], [], 63, 0, 3, 0, 0⟩), .packet (.eof 0 10 []),
    .packet (.row [1, 0x37]), .request, .packet (.eof 0 10 []), .close, .next, .packet (.ok 1 0 2 0 [])]

/-- The connection a query is sent on. -/
def queryable : Con := { Con.calm 0 with stream := true, uv := .reading, status := .idle }

/-- A query was sent, and both answers were received at once. -/
def answeredTwice : Con :=
  readInto (onAlloc .calm (commandSend .calm queryable .query [0x53]).1 65536).1
    ((twoAnswers.filterMap fun t => match t with | .packet p => some p.payload | _ => none).zipIdx.flatMap fun p =>
      frame (UInt8.ofNat (p.2 + 1)) p.1)

theorem response_read_two :
    Along TurnTaken.apply TurnTaken.Shown (commandSend .calm queryable .query [0x53]).1
        (taken .calm answeredTwice twoAnswers) ∧
      (run TurnTaken.apply (commandSend .calm queryable .query [0x53]).1 (taken .calm answeredTwice twoAnswers)).At
        (.done [] false) := by
  have hstands : (commandSend .calm queryable .query [0x53]).1.Stands answeredTwice :=
    { stmt_eq := rfl, queue_eq := rfl, commandStatus_eq := rfl, queueSize_eq := rfl, queueBytes_eq := rfl
      result_eq := rfl, status_eq := rfl, serverStatus_eq := rfl }
  refine response_read rfl (.inl rfl) (by decide +kernel) (taken_legal hstands (by decide +kernel)) ?_
  rw [taken_fst]
  refine .cons (.header (by decide) (by decide) (.inl (by decide))) (.cons (.definition (by decide)) ?_)
  refine .cons (.columnsEnd rfl) (.cons (.row ⟨1, [0x37], rfl, by decide⟩) (.cons .request (.cons .rowsEnd ?_)))
  exact .cons .close (.cons .next (.cons (.ok (.inl (by decide)) (.inl (by decide))) (.nil _)))

end LibAttachSql
