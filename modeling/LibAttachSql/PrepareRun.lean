import LibAttachSql.ActFrames
import LibAttachSql.Definitions
import LibAttachSql.Lib.Run

/-!
# The answer to a prepare

A prepare is answered by a PREPARE_OK packet, then, if there are parameters, their definitions and an EOF packet, and then,
if there are columns, theirs and an EOF packet.  Four readers take these packets; they tell one another what comes next
through the queue of expected packets and `command_status`, and count on the statement.  This module follows a whole
answer through them.
-/

namespace LibAttachSql

open Lib

/-! ### Packets that arrive -/

/-- A complete packet stands at the read pointer of a read buffer that is well-formed and lies in the address space. -/
structure Con.Bears (con : Con) (payload : List UInt8) : Prop where
  holds : con.Holds con.buf (con.buf.mem (con.buf.bufferReadPtr + 3)) payload
  wf : con.buf.Wf
  space : con.buf.buffer + con.buf.bufferSize ≤ 2 ^ 64

lemma Con.bears_iff {con : Con} {payload : List UInt8} : con.Bears payload ↔
    con.readBuffer.isSome = true ∧ unpackInt3 con.buf.mem con.buf.bufferReadPtr = payload.length ∧
      payload.length + 4 ≤ con.buf.unreadData ∧ con.buf.mem.slice (con.buf.bufferReadPtr + 4) payload.length = payload ∧
      con.buf.Wf ∧ con.buf.buffer + con.buf.bufferSize ≤ 2 ^ 64 := by
  constructor
  · intro h
    exact ⟨by rw [h.holds.buffer]; rfl, h.holds.length_eq, h.holds.complete, h.holds.payload_eq, h.wf, h.space⟩
  · rintro ⟨hsome, hlength, hcomplete, hpayload, hwf, hspace⟩
    obtain ⟨b, hb⟩ := Option.isSome_iff_exists.mp hsome
    have hbuf : con.buf = b := by
      unfold Con.buf
      rw [hb]
      rfl
    rw [← hbuf] at hb
    exact ⟨⟨hb, rfl, hlength, hcomplete, hpayload⟩, hwf, hspace⟩

instance (con : Con) (payload : List UInt8) : Decidable (con.Bears payload) := decidable_of_iff _ Con.bears_iff.symm

/-- What a round of the packet loop does with a complete packet, once its number is accepted. -/
def deliver (env : Env) (con : Con) : Con :=
  let b := con.buf
  match con.nextPacketQueue with
  | [] => con
  | t :: _ =>
    (packetDispatch env (packetReady con b t (b.mem (b.bufferReadPtr + 3)) (unpackInt3 b.mem b.bufferReadPtr)) t).con

/-- A packet that has arrived, complete, and the connection it finds. -/
structure Arrival where
  env : Env
  con : Con

/-- The connection after a packet that has arrived was delivered. -/
def arrive (_ : Con) (a : Arrival) : Con := deliver a.env a.con

/-- While a packet is waited for, the statement stays and no other packet is expected; all else may change, as when bytes
arrive and the read buffer grows or moves. -/
structure Con.Waits (con con' : Con) : Prop where
  stmt_eq : con'.stmt = con.stmt
  queue_eq : con'.nextPacketQueue = con.nextPacketQueue
  commandStatus_eq : con'.commandStatus = con.commandStatus
  queueSize_eq : con'.nextPacketQueueSize = con.nextPacketQueueSize
  queueBytes_eq : con'.nextPacketQueueBytes = con.nextPacketQueueBytes

lemma Con.Waits.refl (con : Con) : con.Waits con := ⟨rfl, rfl, rfl, rfl, rfl⟩

/-- The packet has this payload. -/
def Arrival.Bears (a : Arrival) (payload : List UInt8) : Prop := a.con.Bears payload

instance (a : Arrival) (payload : List UInt8) : Decidable (a.Bears payload) :=
  inferInstanceAs (Decidable (a.con.Bears payload))

/-- The connection waits for the packet that arrives. -/
def Arrival.Awaited (con : Con) (a : Arrival) : Prop := con.Waits a.con

/-- The number of the packet that has arrived passes the check. -/
def Arrival.Accepted (a : Arrival) : Prop :=
  ∀ t ∈ a.con.nextPacketQueue.head?, a.con.Accepts t (a.con.buf.mem (a.con.buf.bufferReadPtr + 3))

instance (a : Arrival) : Decidable a.Accepted := by
  unfold Arrival.Accepted
  infer_instance

/-- The packet that has arrived is taken as one that was expected, by a round of the packet loop when its number is
accepted, and exactly its bytes are consumed. -/
def Arrival.Consumed (con : Con) (a : Arrival) : Prop :=
  (a.Accepted → (processPacket a.env a.con).con = arrive con a) ∧ a.con.nextPacketQueue ≠ [] ∧ (arrive con a).buf.Wf ∧
    (arrive con a).buf.unread = a.con.buf.unread.drop (4 + unpackInt3 a.con.buf.mem a.con.buf.bufferReadPtr)

section Deliver

variable {env : Env} {con : Con} {payload : List UInt8} {t : PacketType} {q : List PacketType}

lemma deliver_of_bears (h : con.Bears payload) (hq : con.nextPacketQueue = t :: q) :
    deliver env con = (packetDispatch env
      (packetReady con con.buf t (con.buf.mem (con.buf.bufferReadPtr + 3)) payload.length) t).con := by
  unfold deliver
  dsimp only
  rw [hq, h.holds.length_eq]

/-- **A round of the packet loop delivers** a complete packet whose number is accepted. -/
theorem processPacket_delivers (h : con.Bears payload) (hq : con.nextPacketQueue = t :: q)
    (ha : con.Accepts t (con.buf.mem (con.buf.bufferReadPtr + 3))) : (processPacket env con).con = deliver env con := by
  rw [deliver_of_bears h hq, processPacket_accepted h.holds hq ha]

/-- A reader that ends its packet consumes exactly its bytes. -/
lemma Con.Bears.ended (h : con.Bears payload) :
    let b := ((con.buf.advance 4).setPacketEnd payload.length).packetReadEnd
    b.Wf ∧ b.unread = con.buf.unread.drop (4 + payload.length) :=
  h.wf.opened_ended h.holds.complete

end Deliver

/-! ### What a server answers -/

/-- What a server answers to a prepare.  The definitions of columns and what follows the first byte of an EOF packet can be
anything, and newer servers add to the PREPARE_OK packet. -/
structure PrepareResponse where
  id : UInt32
  filler : UInt8
  warnings : UInt16
  more : List UInt8
  params : List Definition
  paramsEnd : List UInt8
  columns : List (List UInt8)
  columnsEnd : List UInt8
  params_lt : params.length < 2 ^ 16
  columns_lt : columns.length < 2 ^ 16

namespace PrepareResponse

/-- The PREPARE_OK packet. -/
def ok (r : PrepareResponse) : List UInt8 :=
  0x00 :: (packInt4 r.id.toNat ++ (packInt2 r.columns.length ++ (packInt2 r.params.length ++
    (r.filler :: (packInt2 r.warnings.toNat ++ r.more)))))

/-- Some definitions and the EOF packet behind them, or nothing. -/
def group (definitions : List (List UInt8)) (rest : List UInt8) : List (List UInt8) :=
  if definitions = [] then [] else definitions ++ [0xfe :: rest]

/-- The packets of the answer. -/
def packets (r : PrepareResponse) : List (List UInt8) :=
  r.ok :: (group (r.params.map Definition.payload) r.paramsEnd ++ group r.columns r.columnsEnd)

end PrepareResponse

variable {r : PrepareResponse}

/-- A statement after so many of its parameters and columns. -/
structure Stmt.Filled (s : Stmt) (r : PrepareResponse) (k j : ℕ) : Prop where
  id : s.id = r.id.toNat
  columnCount : s.columnCount = r.columns.length
  paramCount : s.paramCount = r.params.length
  currentParam : s.currentParam = k
  currentColumn : s.currentColumn = j
  state : s.state = .prepared
  params : r.params ≠ [] → ∃ columns, s.params = some columns ∧ columns.length = r.params.length ∧
    ∀ i < k, ∀ d ∈ r.params[i]?, ∃ c ∈ columns[i]?, c.Holds d

/-- The queue of expected packets has been allocated. -/
def Con.HasQueue (con : Con) : Prop := 0 < con.nextPacketQueueSize ∧ 4 ≤ con.nextPacketQueueBytes

/-- A connection that reads the answer to a prepare, after so many parameters and columns. -/
structure Con.Reading (con : Con) (r : PrepareResponse) (k j : ℕ) (queue : List PacketType) (status : CommandStatus) :
    Prop where
  stmt : ∃ s, con.stmt = some s ∧ s.Filled r k j
  queue_eq : con.nextPacketQueue = queue
  commandStatus : con.commandStatus = status
  room : con.HasQueue

/-- A connection that has read the answer to a prepare. -/
def Con.Prepared (con : Con) (r : PrepareResponse) : Prop :=
  con.Reading r r.params.length r.columns.length [] .eof ∧ con.status = .idle

/-- A connection that has read the parameters: the columns come next, if there are any. -/
def Con.AtColumns (con : Con) (r : PrepareResponse) : Prop :=
  if r.columns = [] then con.Prepared r else con.Reading r r.params.length 0 [.prepareColumn] .readStmtColumn

/-- What is expected after `k` parameters. -/
def PrepareResponse.afterParam (r : PrepareResponse) (k : ℕ) : PacketType :=
  if k = r.params.length then .response else .prepareParameter

/-- What is expected after `j` columns. -/
def PrepareResponse.afterColumn (r : PrepareResponse) (j : ℕ) : PacketType :=
  if j = r.columns.length then .response else .prepareColumn

/-! ### The readers -/

section Readers

variable (env : Env) {con : Con} {k j : ℕ} {payload : List UInt8}

lemma packetQueuePush_of_hasQueue (hq : con.nextPacketQueue = []) (h : con.HasQueue) (t : PacketType) :
    packetQueuePush env con t = { con with nextPacketQueue := [t] } := by
  obtain ⟨hsize, hbytes⟩ := h
  unfold packetQueuePush
  rw [if_neg (by omega), if_neg (by rw [hq, List.length_nil]; omega)]
  unfold packetQueueStore
  rw [hq, if_pos (by simpa using hbytes)]

/-- A reader that expects one packet more. -/
lemma Con.Reading.push {status : CommandStatus} (h : con.Reading r k j [] status) (t : PacketType) :
    (packetQueuePush env con t).readBuffer = con.readBuffer ∧ (packetQueuePush env con t).Reading r k j [t] status := by
  rw [packetQueuePush_of_hasQueue env h.queue_eq h.room]
  exact ⟨rfl, h.stmt, rfl, h.commandStatus, h.room⟩

/-- A reader that expects one packet more and says for what. -/
lemma Con.Reading.pushAs {status : CommandStatus} (h : con.Reading r k j [] status) (t : PacketType)
    (status' : CommandStatus) :
    { packetQueuePush env con t with commandStatus := status' }.readBuffer = con.readBuffer ∧
      { packetQueuePush env con t with commandStatus := status' }.Reading r k j [t] status' := by
  obtain ⟨hbuffer, hpushed⟩ := h.push env t
  exact ⟨hbuffer, hpushed.stmt, hpushed.queue_eq, rfl, hpushed.room⟩

/-- The end of a packet. -/
lemma Con.Reading.packetReadEnd {queue : List PacketType} {status : CommandStatus} (h : con.Reading r k j queue status) :
    (LibAttachSql.packetReadEnd con).Reading r k j queue status := ⟨h.stmt, h.queue_eq, h.commandStatus, h.room⟩

/-- The counts and the number of the statement, at their places. -/
lemma prepareOkStmt_of_slice {m : Memory UInt8} {p : ℕ} (h : m.slice p r.ok.length = r.ok) (s : Stmt) :
    prepareOkStmt env m (p + 1) s =
      { s with
        id := r.id.toNat
        columnCount := r.columns.length
        paramCount := r.params.length
        params :=
          if r.params.length = 0 then s.params
          else if env.newArray r.params.length sizeofColumn then
            some (List.replicate r.params.length (default : Column))
          else none
        paramData :=
          if r.params.length = 0 then s.paramData
          else if env.newArray r.params.length sizeofStmtParam then
            some (List.replicate r.params.length StmtParam.fresh)
          else none
        state := .prepared } := by
  obtain ⟨-, hrest⟩ := List.cons.inj ((Memory.slice_succ m p _).symm.trans h)
  obtain ⟨hid, hrest⟩ := Memory.slice_eq_append hrest
  obtain ⟨hcolumns, hrest⟩ := Memory.slice_eq_append hrest
  obtain ⟨hparams, -⟩ := Memory.slice_eq_append hrest
  have hcolumnCount : unpackInt2 m (p + 1 + 4) = _ := unpackInt2_of_slice hcolumns r.columns_lt
  have hparamCount : unpackInt2 m (p + 1 + 6) = _ := unpackInt2_of_slice hparams r.params_lt
  unfold prepareOkStmt
  dsimp only
  rw [unpackInt4_of_slice hid r.id.toNat_lt, hcolumnCount, hparamCount]

/-- A statement whose PREPARE_OK packet was read. -/
lemma filled_of_ok {s : Stmt} (hfresh : s.currentParam = 0 ∧ s.currentColumn = 0)
    (hmem : r.params ≠ [] → env.newArray r.params.length sizeofColumn = true) (paramData : Option (List StmtParam)) :
    Stmt.Filled
      { s with
        id := r.id.toNat
        columnCount := r.columns.length
        paramCount := r.params.length
        params :=
          if r.params.length = 0 then s.params
          else if env.newArray r.params.length sizeofColumn then
            some (List.replicate r.params.length (default : Column))
          else none
        paramData := paramData
        state := .prepared } r 0 0 := by
  refine ⟨rfl, rfl, rfl, hfresh.1, hfresh.2, rfl, fun hne => ?_⟩
  refine ⟨List.replicate r.params.length default, ?_, List.length_replicate, nofun⟩
  dsimp only
  rw [if_neg (by rwa [List.length_eq_zero_iff]), if_pos (hmem hne)]

/-- A packet that ends a command. -/
lemma Con.Reading.prepared {status : CommandStatus} (h : con.Reading r r.params.length r.columns.length [] status) :
    (commandEof con).Prepared r := ⟨⟨h.stmt, h.queue_eq, rfl, h.room⟩, rfl⟩

/-- What comes after a PREPARE_OK packet: parameters, columns, or nothing. -/
lemma prepareOkNext_step (h : con.Reading r 0 0 [] con.commandStatus) {b : Option BufferSt}
    (hb : con.readBuffer = b) {con' : Con}
    (he : con' = packetReadEnd (prepareOkNext env con r.params.length r.columns.length)) :
    con'.readBuffer = b.map BufferSt.packetReadEnd ∧
      if r.params = [] then con'.AtColumns r else con'.Reading r 0 0 [.prepareParameter] .readStmtParam := by
  subst hb
  unfold prepareOkNext at he
  by_cases hp : r.params = []
  · have hnone : r.params.length = 0 := List.length_eq_zero_iff.mpr hp
    rw [if_neg (by omega)] at he
    rw [if_pos hp]
    unfold Con.AtColumns
    by_cases hc : r.columns = []
    · have hnone' : r.columns.length = 0 := List.length_eq_zero_iff.mpr hc
      rw [if_neg (by omega)] at he
      have hprepared : (commandEof con).Prepared r := Con.Reading.prepared (by rw [hnone, hnone']; exact h)
      rw [if_pos hc, he]
      exact ⟨BufferSt.map_packetReadEnd_twice con.readBuffer, hprepared.1.packetReadEnd, hprepared.2⟩
    · obtain ⟨hbuffer, hpushed⟩ := h.pushAs env .prepareColumn .readStmtColumn
      rw [if_pos (List.length_pos_of_ne_nil hc)] at he
      rw [if_neg hc, he, hnone]
      exact ⟨congrArg (Option.map BufferSt.packetReadEnd) hbuffer, hpushed.packetReadEnd⟩
  · obtain ⟨hbuffer, hpushed⟩ := h.pushAs env .prepareParameter .readStmtParam
    rw [if_pos (List.length_pos_of_ne_nil hp)] at he
    rw [if_neg hp, he]
    exact ⟨congrArg (Option.map BufferSt.packetReadEnd) hbuffer, hpushed.packetReadEnd⟩

/-- A PREPARE_OK packet. -/
lemma packetReadPrepareResponse_step {s : Stmt} (h : con.buf.mem.slice con.buf.bufferReadPtr r.ok.length = r.ok)
    (hs : con.stmt = some s) (hfresh : s.currentParam = 0 ∧ s.currentColumn = 0) (hq : con.nextPacketQueue = [])
    (hroom : con.HasQueue) (hmem : r.params ≠ [] → env.newArray r.params.length sizeofColumn = true) :
    (packetReadPrepareResponse env con).readBuffer = con.readBuffer.map BufferSt.packetReadEnd ∧
      if r.params = [] then (packetReadPrepareResponse env con).AtColumns r
      else (packetReadPrepareResponse env con).Reading r 0 0 [.prepareParameter] .readStmtParam := by
  have hzero : con.peekByte 0 = 0x00 := (List.cons.inj ((Memory.slice_succ _ _ _).symm.trans h)).1
  have hstmt := prepareOkStmt_of_slice env h s
  have hfilled := filled_of_ok env hfresh hmem
  have hread : packetReadPrepareResponse env con = packetReadPrepareOk env con s := by
    unfold packetReadPrepareResponse
    rw [if_neg (not_not.mpr hzero), hs]
  unfold packetReadPrepareOk at hread
  dsimp only at hread
  rw [hstmt] at hread
  dsimp only at hread
  refine prepareOkNext_step env ?_ ?_ hread
  · exact ⟨⟨_, rfl, hfilled _⟩, hq, rfl, hroom⟩
  · rfl

/-- The definition of a parameter goes to its place. -/
lemma packetReadPrepareParameter_step {d : Definition}
    (h : con.buf.mem.slice con.buf.bufferReadPtr d.payload.length = d.payload) (hd : d ∈ r.params[k]?) (hkept : d.Kept)
    (hspace : con.buf.bufferReadPtr + d.payload.length ≤ 2 ^ 64) (hr : con.Reading r k 0 [] .readStmtParam) :
    (packetReadPrepareParameter env con).readBuffer = con.readBuffer.map BufferSt.packetReadEnd ∧
      (packetReadPrepareParameter env con).Reading r (k + 1) 0 [r.afterParam (k + 1)] .readStmtParam := by
  obtain ⟨s, hs, hf⟩ := hr.stmt
  obtain ⟨hk, -⟩ := List.getElem?_eq_some_iff.mp hd
  have hlt := r.params_lt
  obtain ⟨columns, hparams, hlength, hcolumns⟩ := hf.params (List.ne_nil_of_length_pos (by omega))
  have hcolumn : columns[k]? = some columns[k] := List.getElem?_eq_getElem (by omega)
  have hnext : uint16 (s.currentParam + 1 : ℕ) = k + 1 := by
    rw [hf.currentParam]
    unfold uint16
    omega
  have hread := packetGetColumn_holds columns[k] h hkept hspace
  have hstmt : Stmt.Filled { s with
      params := some (columns.set k (packetGetColumn con columns[k])), currentParam := k + 1 } r (k + 1) 0 := by
    refine ⟨hf.id, hf.columnCount, hf.paramCount, rfl, hf.currentColumn, hf.state, fun _ => ?_⟩
    refine ⟨_, rfl, by rw [List.length_set, hlength], fun i hi d' hd' => ?_⟩
    by_cases hik : i = k
    · subst hik
      rw [Option.mem_unique hd' hd]
      exact ⟨_, List.getElem?_set_self (by omega), hread⟩
    · obtain ⟨c, hc, hholds⟩ := hcolumns i (by omega) d' hd'
      exact ⟨c, by rw [List.getElem?_set_ne (Ne.symm hik)]; exact hc, hholds⟩
  generalize hs' : { s with
      params := some (columns.set k (packetGetColumn con columns[k])), currentParam := k + 1 } = s' at hstmt
  have hstored : { con with stmt := some s' }.Reading r (k + 1) 0 [] .readStmtParam :=
    ⟨⟨s', rfl, hstmt⟩, hr.queue_eq, hr.commandStatus, hr.room⟩
  have hstep : packetReadPrepareParameter env con =
      packetQueuePush env (packetReadEnd { con with stmt := some s' }) (r.afterParam (k + 1)) := by
    unfold packetReadPrepareParameter
    rw [hs]
    dsimp only
    rw [hparams, hnext, hf.currentParam, Option.bind_some, hcolumn, ← hs']
    unfold PrepareResponse.afterParam
    rw [← hf.paramCount]
    rfl
  rw [hstep]
  exact hstored.packetReadEnd.push env _

/-- What an EOF packet leads to, once the server's status is noted. -/
def eofNext (env : Env) (con : Con) : Con :=
  match con.commandStatus with
  | .readColumn => packetReadEnd (packetQueuePush env { con with commandStatus := .readRow } .row)
  | .readStmtParam =>
    match con.stmt with
    | none => con.log .fault
    | some stmt =>
      if 0 < stmt.columnCount then
        packetReadEnd (packetQueuePush env { con with commandStatus := .readStmtColumn } .prepareColumn)
      else commandEof con
  | _ => commandEof con

/-- An EOF packet while the answer to a prepare is read. -/
lemma Con.Reading.eof {status : CommandStatus} (hr : con.Reading r k j [] status) :
    ∃ con₁ : Con, packetReadEof env con = eofNext env con₁ ∧ con₁.readBuffer = con.readBuffer ∧
      con₁.Reading r k j [] status :=
  ⟨_, rfl, rfl, hr.stmt, hr.queue_eq, hr.commandStatus, hr.room⟩

/-- The EOF packet behind the parameters. -/
lemma packetReadEof_params_step (hr : con.Reading r r.params.length 0 [] .readStmtParam) :
    (packetReadEof env con).readBuffer = con.readBuffer.map BufferSt.packetReadEnd ∧
      (packetReadEof env con).AtColumns r := by
  obtain ⟨con₁, he, hb, h₁⟩ := hr.eof env
  obtain ⟨s, hs, hf⟩ := h₁.stmt
  unfold eofNext at he
  rw [h₁.commandStatus, hs] at he
  dsimp only at he
  rw [hf.columnCount] at he
  unfold Con.AtColumns
  rw [he, ← hb]
  by_cases hc : r.columns = []
  · have hnone := List.length_eq_zero_iff.mpr hc
    rw [if_pos hc, if_neg (by omega)]
    exact ⟨rfl, Con.Reading.prepared (by rw [hnone]; exact h₁)⟩
  · have hcolumns : { con₁ with commandStatus := .readStmtColumn, stmt := some s }.Reading r r.params.length 0 []
        .readStmtColumn := ⟨⟨s, rfl, hf⟩, h₁.queue_eq, rfl, h₁.room⟩
    obtain ⟨hbuffer, hpushed⟩ := hcolumns.push env .prepareColumn
    have hended := congrArg (Option.map BufferSt.packetReadEnd) hbuffer
    rw [if_neg hc, if_pos (List.length_pos_of_ne_nil hc)]
    exact ⟨hended, hpushed.packetReadEnd⟩

/-- The definition of a column is skipped. -/
lemma packetReadPrepareColumn_step (hj : j < r.columns.length)
    (hr : con.Reading r r.params.length j [] .readStmtColumn) :
    (packetReadPrepareColumn env con).readBuffer = con.readBuffer.map BufferSt.packetReadEnd ∧
      (packetReadPrepareColumn env con).Reading r r.params.length (j + 1) [r.afterColumn (j + 1)] .readStmtColumn := by
  obtain ⟨s, hs, hf⟩ := hr.stmt
  have hlt := r.columns_lt
  have hnext : uint16 (s.currentColumn + 1 : ℕ) = j + 1 := by
    rw [hf.currentColumn]
    unfold uint16
    omega
  have hstmt : Stmt.Filled { s with currentColumn := j + 1 } r r.params.length (j + 1) :=
    ⟨hf.id, hf.columnCount, hf.paramCount, hf.currentParam, rfl, hf.state, hf.params⟩
  have hskipped : { con with stmt := some { s with currentColumn := j + 1 } }.Reading r r.params.length (j + 1)
      [] .readStmtColumn := ⟨⟨_, rfl, hstmt⟩, hr.queue_eq, hr.commandStatus, hr.room⟩
  have hread : packetReadPrepareColumn env con =
      packetQueuePush env (packetReadEnd { con with stmt := some { s with currentColumn := j + 1 } })
        (if j + 1 = r.columns.length then .response else .prepareColumn) := by
    unfold packetReadPrepareColumn
    rw [hs]
    dsimp only
    rw [hnext, hf.columnCount]
  rw [hread]
  exact hskipped.packetReadEnd.push env _

/-- The EOF packet behind the columns. -/
lemma packetReadEof_columns_step (hr : con.Reading r r.params.length r.columns.length [] .readStmtColumn) :
    (packetReadEof env con).readBuffer = con.readBuffer.map BufferSt.packetReadEnd ∧ (packetReadEof env con).Prepared r := by
  obtain ⟨con₁, he, hb, h₁⟩ := hr.eof env
  unfold eofNext at he
  rw [h₁.commandStatus] at he
  rw [he, ← hb]
  exact ⟨rfl, h₁.prepared⟩

end Readers

/-! ### The packets of the answer -/

section Steps

variable {con : Con} {a : Arrival} {k j : ℕ} {t : PacketType} {status : CommandStatus} {payload : List UInt8}

/-- The connection the reader of a packet that has arrived starts from. -/
def Arrival.opened (a : Arrival) (t : PacketType) (payload : List UInt8) : Con :=
  packetReady a.con a.con.buf t (a.con.buf.mem (a.con.buf.bufferReadPtr + 3)) payload.length

lemma opened_nextPacketQueue : (a.opened t payload).nextPacketQueue = a.con.nextPacketQueue.tail := by
  unfold Arrival.opened
  rw [packetReady_eq]

lemma opened_queueSize : (a.opened t payload).nextPacketQueueSize = a.con.nextPacketQueueSize := by
  unfold Arrival.opened
  rw [packetReady_eq]

lemma opened_queueBytes : (a.opened t payload).nextPacketQueueBytes = a.con.nextPacketQueueBytes := by
  unfold Arrival.opened
  rw [packetReady_eq]

lemma opened_stmt : (a.opened t payload).stmt = a.con.stmt := by
  unfold Arrival.opened
  rw [packetReady_eq]

lemma opened_commandStatus : (a.opened t payload).commandStatus = a.con.commandStatus := by
  unfold Arrival.opened
  rw [packetReady_eq]

lemma Con.HasQueue.opened (h : con.HasQueue) (hw : con.Waits a.con) : (a.opened t payload).HasQueue := by
  unfold HasQueue
  rw [opened_queueSize, opened_queueBytes, hw.queueSize_eq, hw.queueBytes_eq]
  exact h

lemma Con.Reading.opened (h : con.Reading r k j [t] status) (hw : con.Waits a.con) (payload : List UInt8) :
    (a.opened t payload).Reading r k j [] status := by
  obtain ⟨s, hs, hf⟩ := h.stmt
  refine ⟨⟨s, opened_stmt.trans (hw.stmt_eq.trans hs), hf⟩, ?_,
    opened_commandStatus.trans (hw.commandStatus_eq.trans h.commandStatus), h.room.opened hw⟩
  rw [opened_nextPacketQueue, hw.queue_eq, h.queue_eq]
  rfl

lemma opened_buf (payload : List UInt8) :
    (a.opened t payload).buf = (a.con.buf.advance 4).setPacketEnd payload.length := rfl

/-- What stands at the read pointer of an opened packet. -/
lemma Con.Bears.opened (hb : a.con.Bears payload) (t : PacketType) :
    (a.opened t payload).buf.mem.slice (a.opened t payload).buf.bufferReadPtr payload.length = payload ∧
      (a.opened t payload).buf.bufferReadPtr + payload.length ≤ 2 ^ 64 := by
  have hcomplete := hb.holds.complete
  have hspace := hb.space
  have hend := hb.wf.write_le_end
  have hread := hb.wf.read_le_write
  rw [hb.wf.unreadData_eq] at hcomplete
  rw [opened_buf]
  refine ⟨hb.holds.payload_eq, ?_⟩
  show a.con.buf.bufferReadPtr + 4 + payload.length ≤ 2 ^ 64
  omega

/-- **One packet**, whose reader ends it. -/
lemma Arrival.step (hb : a.con.Bears payload) {q : List PacketType} (hq : a.con.nextPacketQueue = t :: q) {con' : Con}
    (hc : (packetDispatch a.env (a.opened t payload) t).con = con')
    (hend : con'.readBuffer = (a.opened t payload).readBuffer.map BufferSt.packetReadEnd) :
    a.Consumed con ∧ arrive con a = con' := by
  have hdeliver : arrive con a = con' := (deliver_of_bears hb hq).trans hc
  have hopened : (a.opened t payload).readBuffer = some ((a.con.buf.advance 4).setPacketEnd payload.length) := rfl
  obtain ⟨hwf, hunread⟩ := hb.ended
  have hbuf : (arrive con a).buf = ((a.con.buf.advance 4).setPacketEnd payload.length).packetReadEnd := by
    unfold Con.buf
    rw [hdeliver, hend, hopened]
    rfl
  refine ⟨⟨fun ha => ?_, by rw [hq]; exact List.cons_ne_nil _ _, by rw [hbuf]; exact hwf, ?_⟩, hdeliver⟩
  · exact processPacket_delivers hb hq (ha t (by rw [hq]; rfl))
  rw [hbuf, hunread, hb.holds.length_eq]

/-- The PREPARE_OK packet arrives. -/
lemma ok_arrives {s : Stmt} (hb : a.con.Bears r.ok) (hw : con.Waits a.con) (hq : con.nextPacketQueue = [.prepareResponse])
    (hs : con.stmt = some s) (hfresh : s.currentParam = 0 ∧ s.currentColumn = 0) (hroom : con.HasQueue)
    (hmem : r.params ≠ [] → a.env.newArray r.params.length sizeofColumn = true) :
    a.Consumed con ∧ if r.params = [] then (arrive con a).AtColumns r
      else (arrive con a).Reading r 0 0 [.prepareParameter] .readStmtParam := by
  have hq' := hw.queue_eq.trans hq
  have hempty : (a.opened .prepareResponse r.ok).nextPacketQueue = [] := by
    rw [opened_nextPacketQueue, hq']
    rfl
  obtain ⟨hpayload, -⟩ := hb.opened .prepareResponse
  have hs' : (a.opened .prepareResponse r.ok).stmt = some s := opened_stmt.trans (hw.stmt_eq.trans hs)
  obtain ⟨hend, hread⟩ :=
    packetReadPrepareResponse_step a.env hpayload hs' hfresh hempty (hroom.opened hw) hmem
  obtain ⟨hconsumed, he⟩ := Arrival.step hb hq' rfl hend
  rw [he]
  exact ⟨hconsumed, hread⟩

/-- The definition of a parameter arrives. -/
lemma param_arrives {d : Definition} (hb : a.con.Bears d.payload) (hw : con.Waits a.con) (hd : d ∈ r.params[k]?)
    (hkept : d.Kept) (hr : con.Reading r k 0 [.prepareParameter] .readStmtParam) :
    a.Consumed con ∧ (arrive con a).Reading r (k + 1) 0 [r.afterParam (k + 1)] .readStmtParam := by
  obtain ⟨hpayload, hspace⟩ := hb.opened .prepareParameter
  obtain ⟨hend, hread⟩ :=
    packetReadPrepareParameter_step a.env hpayload hd hkept hspace (hr.opened hw d.payload)
  obtain ⟨hconsumed, he⟩ := Arrival.step hb (hw.queue_eq.trans hr.queue_eq) rfl hend
  rw [he]
  exact ⟨hconsumed, hread⟩

/-- The definition of a column arrives. -/
lemma column_arrives (hb : a.con.Bears payload) (hw : con.Waits a.con) (hj : j < r.columns.length)
    (hr : con.Reading r r.params.length j [.prepareColumn] .readStmtColumn) :
    a.Consumed con ∧ (arrive con a).Reading r r.params.length (j + 1) [r.afterColumn (j + 1)] .readStmtColumn := by
  obtain ⟨hend, hread⟩ := packetReadPrepareColumn_step a.env hj (hr.opened hw payload)
  obtain ⟨hconsumed, he⟩ := Arrival.step hb (hw.queue_eq.trans hr.queue_eq) rfl hend
  rw [he]
  exact ⟨hconsumed, hread⟩

/-- An EOF packet that arrives where a response is expected. -/
lemma opened_eof {rest : List UInt8} (hb : a.con.Bears (0xfe :: rest)) :
    (packetDispatch a.env (a.opened .response (0xfe :: rest)) .response).con =
      packetReadEof a.env (a.opened .response (0xfe :: rest)) := by
  obtain ⟨hpayload, -⟩ := hb.opened .response
  exact packetReadResponse_of_eof a.env _ (List.cons.inj ((Memory.slice_succ _ _ _).symm.trans hpayload)).1

/-- The EOF packet behind the parameters arrives. -/
lemma paramsEnd_arrives {rest : List UInt8} (hb : a.con.Bears (0xfe :: rest)) (hw : con.Waits a.con)
    (hr : con.Reading r r.params.length 0 [.response] .readStmtParam) : a.Consumed con ∧ (arrive con a).AtColumns r := by
  obtain ⟨hend, hread⟩ := packetReadEof_params_step a.env (hr.opened hw (0xfe :: rest))
  obtain ⟨hconsumed, he⟩ := Arrival.step hb (hw.queue_eq.trans hr.queue_eq) (opened_eof hb) hend
  rw [he]
  exact ⟨hconsumed, hread⟩

/-- The EOF packet behind the columns arrives. -/
lemma columnsEnd_arrives {rest : List UInt8} (hb : a.con.Bears (0xfe :: rest)) (hw : con.Waits a.con)
    (hr : con.Reading r r.params.length r.columns.length [.response] .readStmtColumn) :
    a.Consumed con ∧ (arrive con a).Prepared r := by
  obtain ⟨hend, hread⟩ := packetReadEof_columns_step a.env (hr.opened hw (0xfe :: rest))
  obtain ⟨hconsumed, he⟩ := Arrival.step hb (hw.queue_eq.trans hr.queue_eq) (opened_eof hb) hend
  rw [he]
  exact ⟨hconsumed, hread⟩

end Steps

/-! ### Runs -/

section Runs

variable {con : Con} {as : List Arrival} {k j : ℕ}

/-- **The definitions of the parameters**, from the `k`-th on. -/
lemma params_arrive (hkept : ∀ d ∈ r.params, d.Kept) {ds : List Definition} (hds : r.params.drop k = ds) (hne : ds ≠ [])
    (hp : List.Forall₂ Arrival.Bears as (ds.map Definition.payload)) (hw : Along arrive Arrival.Awaited con as)
    (hr : con.Reading r k 0 [.prepareParameter] .readStmtParam) :
    Along arrive Arrival.Consumed con as ∧ (run arrive con as).Reading r r.params.length 0 [.response] .readStmtParam := by
  induction ds generalizing k con as with
  | nil => exact absurd rfl hne
  | cons d ds ih =>
    obtain ⟨a, as, hb, hbs, rfl⟩ := List.forall₂_cons_right_iff.mp hp
    have hk : k < r.params.length := by
      by_contra hk
      rw [List.drop_eq_nil_of_le (by omega)] at hds
      cases hds
    have hd : r.params[k]? = some d := by
      have hhead := congrArg List.head? hds
      rwa [List.head?_drop] at hhead
    have hrest : r.params.drop (k + 1) = ds := by
      have htail := congrArg List.tail hds
      rwa [List.tail_drop] at htail
    obtain ⟨hconsumed, hread⟩ := param_arrives hb hw.1 hd (hkept d (List.mem_of_getElem? hd)) hr
    unfold PrepareResponse.afterParam at hread
    by_cases hlast : k + 1 = r.params.length
    · rw [hlast, List.drop_length] at hrest
      subst hrest
      rw [List.map_nil, List.forall₂_nil_right_iff] at hbs
      subst hbs
      rw [if_pos hlast, hlast] at hread
      exact ⟨⟨hconsumed, trivial⟩, hread⟩
    · rw [if_neg hlast] at hread
      have hmore : ds ≠ [] := fun h => by
        rw [h, List.drop_eq_nil_iff] at hrest
        omega
      obtain ⟨hconsumed', hread'⟩ := ih hrest hmore hbs hw.2 hread
      exact ⟨⟨hconsumed, hconsumed'⟩, hread'⟩

/-- **The definitions of the columns**, from the `j`-th on. -/
lemma columns_arrive {ds : List (List UInt8)} (hds : r.columns.drop j = ds) (hne : ds ≠ [])
    (hp : List.Forall₂ Arrival.Bears as ds) (hw : Along arrive Arrival.Awaited con as)
    (hr : con.Reading r r.params.length j [.prepareColumn] .readStmtColumn) :
    Along arrive Arrival.Consumed con as ∧
      (run arrive con as).Reading r r.params.length r.columns.length [.response] .readStmtColumn := by
  induction ds generalizing j con as with
  | nil => exact absurd rfl hne
  | cons d ds ih =>
    obtain ⟨a, as, hb, hbs, rfl⟩ := List.forall₂_cons_right_iff.mp hp
    have hj : j < r.columns.length := by
      by_contra hj
      rw [List.drop_eq_nil_of_le (by omega)] at hds
      cases hds
    have hrest : r.columns.drop (j + 1) = ds := by
      have htail := congrArg List.tail hds
      rwa [List.tail_drop] at htail
    obtain ⟨hconsumed, hread⟩ := column_arrives hb hw.1 hj hr
    unfold PrepareResponse.afterColumn at hread
    by_cases hlast : j + 1 = r.columns.length
    · rw [hlast, List.drop_length] at hrest
      subst hrest
      rw [List.forall₂_nil_right_iff] at hbs
      subst hbs
      rw [if_pos hlast, hlast] at hread
      exact ⟨⟨hconsumed, trivial⟩, hread⟩
    · rw [if_neg hlast] at hread
      have hmore : ds ≠ [] := fun h => by
        rw [h, List.drop_eq_nil_iff] at hrest
        omega
      obtain ⟨hconsumed', hread'⟩ := ih hrest hmore hbs hw.2 hread
      exact ⟨⟨hconsumed, hconsumed'⟩, hread'⟩

/-- A run of arrivals in two parts. -/
lemma arrive_append {P : Con → Prop} (Q R : Con → Prop) {ps qs : List (List UInt8)}
    (hp : List.Forall₂ Arrival.Bears as (ps ++ qs))
    (hw : Along arrive Arrival.Awaited con as) (hP : P con)
    (hfirst : ∀ {con as}, P con → List.Forall₂ Arrival.Bears as ps → Along arrive Arrival.Awaited con as →
      Along arrive Arrival.Consumed con as ∧ Q (run arrive con as))
    (hsecond : ∀ {con as}, Q con → List.Forall₂ Arrival.Bears as qs →
      Along arrive Arrival.Awaited con as → Along arrive Arrival.Consumed con as ∧ R (run arrive con as)) :
    Along arrive Arrival.Consumed con as ∧ R (run arrive con as) := by
  have htake := List.forall₂_take_append as ps qs hp
  have hdrop := List.forall₂_drop_append as ps qs hp
  rw [← List.take_append_drop ps.length as] at hw ⊢
  rw [along_append] at hw ⊢
  obtain ⟨hconsumed, hQ⟩ := hfirst hP htake hw.1
  obtain ⟨hconsumed', hR⟩ := hsecond hQ hdrop hw.2
  rw [run_append]
  exact ⟨⟨hconsumed, hconsumed'⟩, hR⟩

/-- One packet. -/
lemma arrive_single {P : Con → Prop} (Q : Con → Prop) {payload : List UInt8} (hp : List.Forall₂ Arrival.Bears as [payload])
    (hw : Along arrive Arrival.Awaited con as) (hP : P con)
    (hstep : ∀ {con : Con} {a : Arrival}, P con → a.Bears payload → con.Waits a.con → a.Consumed con ∧ Q (arrive con a)) :
    Along arrive Arrival.Consumed con as ∧ Q (run arrive con as) := by
  obtain ⟨a, as, hb, hnil, rfl⟩ := List.forall₂_cons_right_iff.mp hp
  rw [List.forall₂_nil_right_iff] at hnil
  subst hnil
  obtain ⟨hconsumed, hQ⟩ := hstep hP hb hw.1
  exact ⟨⟨hconsumed, trivial⟩, hQ⟩

/-- The columns and the EOF packet behind them. -/
lemma columnGroup_arrives (hp : List.Forall₂ Arrival.Bears as (PrepareResponse.group r.columns r.columnsEnd))
    (hw : Along arrive Arrival.Awaited con as) (hr : con.AtColumns r) :
    Along arrive Arrival.Consumed con as ∧ (run arrive con as).Prepared r := by
  unfold PrepareResponse.group at hp
  unfold Con.AtColumns at hr
  by_cases hc : r.columns = []
  · rw [if_pos hc, List.forall₂_nil_right_iff] at hp
    rw [if_pos hc] at hr
    subst hp
    exact ⟨trivial, hr⟩
  · rw [if_neg hc] at hp hr
    refine arrive_append (fun con => con.Reading r r.params.length r.columns.length [.response] .readStmtColumn)
      (fun con => con.Prepared r) hp hw hr (fun h hp hw => columns_arrive List.drop_zero hc hp hw h) fun h hp hw => ?_
    exact arrive_single (fun con => con.Prepared r) hp hw h fun h hb hw => columnsEnd_arrives hb hw h

/-- The parameters and the EOF packet behind them. -/
lemma paramGroup_arrives (hkept : ∀ d ∈ r.params, d.Kept) (hne : r.params ≠ [])
    (hp : List.Forall₂ Arrival.Bears as (PrepareResponse.group (r.params.map Definition.payload) r.paramsEnd))
    (hw : Along arrive Arrival.Awaited con as) (hr : con.Reading r 0 0 [.prepareParameter] .readStmtParam) :
    Along arrive Arrival.Consumed con as ∧ (run arrive con as).AtColumns r := by
  unfold PrepareResponse.group at hp
  rw [if_neg (by simpa using hne)] at hp
  refine arrive_append (fun con => con.Reading r r.params.length 0 [.response] .readStmtParam)
    (fun con => con.AtColumns r) hp hw hr (fun h hp hw => params_arrive hkept List.drop_zero hne hp hw h) fun h hp hw => ?_
  exact arrive_single (fun con => con.AtColumns r) hp hw h fun h hb hw => paramsEnd_arrives hb hw h

end Runs

/-! ### Prepares that were sent -/

section Sent

variable (env : Env) {con : Con}

/-- A queue that a packet was added to has been allocated. -/
lemma hasQueue_of_push {t : PacketType} (h : (packetQueuePush env con t).nextPacketQueue ≠ con.nextPacketQueue) :
    (packetQueuePush env con t).HasQueue := by
  have hstore : ∀ {size bytes : ℕ}, 0 < size →
      (packetQueueStore { con with nextPacketQueueSize := size, nextPacketQueueBytes := bytes } t).nextPacketQueue ≠
        con.nextPacketQueue →
      (packetQueueStore { con with nextPacketQueueSize := size, nextPacketQueueBytes := bytes } t).HasQueue := by
    intro size bytes hsize hne
    unfold packetQueueStore at hne ⊢
    split_ifs at hne ⊢ with hroom
    · exact ⟨hsize, by show 4 ≤ bytes; simp only at hroom; omega⟩
    · exact absurd rfl hne
  unfold packetQueuePush at h ⊢
  split_ifs at h ⊢ with hzero hfull
  · cases hm : env.malloc.get (4 * defaultPacketQueueSize) with
    | none =>
      rw [hm] at h
      exact absurd rfl h
    | some _ =>
      rw [hm] at h
      exact hstore (by decide) h
  · cases hm : env.malloc.get (con.nextPacketQueueSize * 2) with
    | none =>
      rw [hm] at h
      exact absurd rfl h
    | some _ =>
      rw [hm] at h
      exact hstore (by omega) h
  · exact hstore (Nat.pos_of_ne_zero hzero) h

/-- A prepare whose answer is expected has allocated the queue. -/
lemma commandSend_hasQueue (hq : con.nextPacketQueue = []) (data : List UInt8)
    (hsent : (commandSend env con .stmtPrepare data).1.nextPacketQueue = [.prepareResponse]) :
    (commandSend env con .stmtPrepare data).1.HasQueue := by
  have hempty : ∀ {con' : Con}, con'.nextPacketQueue = con.nextPacketQueue ∨ con'.nextPacketQueue = [] →
      con'.nextPacketQueue = [] := fun h => h.elim (fun h => h.trans hq) id
  have hpushed : ∀ {con' : Con}, con'.nextPacketQueue = [] →
      (commandSent (packetQueuePush env con' .prepareResponse)).nextPacketQueue = [.prepareResponse] →
      (commandSent (packetQueuePush env con' .prepareResponse)).HasQueue := by
    intro con' h hp
    have hroom : (packetQueuePush env con' .prepareResponse).HasQueue :=
      hasQueue_of_push env (by rw [h]; exact ne_of_eq_of_ne hp (List.cons_ne_nil _ _))
    exact hroom
  have hstart := @commandStart_nextPacketQueue con .stmtPrepare data.length
  unfold commandSend at hsent ⊢
  dsimp only at hsent ⊢
  generalize commandStart con .stmtPrepare data.length = con₀ at hstart hsent ⊢
  split_ifs at hsent ⊢
  · obtain ⟨hqueue, -⟩ := (sendCompressedPacket_writes env con₀ data (some .stmtPrepare)).cases
    rw [hstart] at hqueue
    unfold commandSendCompressed at hsent ⊢
    dsimp only at hsent ⊢
    generalize sendCompressedPacket env con₀ data (some .stmtPrepare) = con₁ at hqueue hsent ⊢
    by_cases hidle : con₁.status = .idle
    · rw [if_pos hidle] at hsent ⊢
      exact hpushed (hempty hqueue) hsent
    · rw [if_neg hidle] at hsent ⊢
      have hnone : con₁.nextPacketQueue = [.prepareResponse] := hsent
      rw [hempty hqueue] at hnone
      cases hnone
  · unfold commandSendPlain at hsent ⊢
    split at hsent
    · cases hsent
    · next con' hw =>
      have hqueue := (commandWrite_writes env con₀ hw).queue_eq
      rw [hstart] at hqueue
      exact hpushed (hempty hqueue) hsent

/-- **A prepare whose answer is expected** has made a new statement. -/
lemma prepareNow_sent (hq : con.nextPacketQueue = []) (statement : List UInt8)
    (hsent : (prepareNow env con statement).nextPacketQueue = [.prepareResponse]) :
    (prepareNow env con statement).stmt = some Stmt.fresh ∧ (prepareNow env con statement).HasQueue := by
  unfold prepareNow at hsent ⊢
  split_ifs at hsent ⊢
  · have hcommanded := @commandSend_commanded env { con with stmt := some Stmt.fresh } .stmtPrepare statement
    have hstmt := congrArg (fun d : Data => d.objects.stmt) hcommanded.data_eq
    exact ⟨hstmt, @commandSend_hasQueue env { con with stmt := some Stmt.fresh } hq statement hsent⟩
  · have hnone : con.nextPacketQueue = [.prepareResponse] := hsent
    rw [hq] at hnone
    cases hnone

end Sent

/-- **The answer to a prepare**: a prepare was sent and nothing else is expected; the packets of the answer arrive, complete,
one after the other, while the statement stays; then each of them is consumed, and nothing else, each definition of a
parameter is stored in its place, and the statement is prepared. -/
theorem prepare_answered {env : Env} {con : Con} (hq : con.nextPacketQueue = []) {statement : List UInt8}
    (hsent : (prepareNow env con statement).nextPacketQueue = [.prepareResponse]) (r : PrepareResponse)
    {as : List Arrival} (hp : List.Forall₂ Arrival.Bears as r.packets)
    (hw : Along arrive Arrival.Awaited (prepareNow env con statement) as)
    (hmem : r.params ≠ [] → ∀ a ∈ as.head?, a.env.newArray r.params.length sizeofColumn = true)
    (hkept : ∀ d ∈ r.params, d.Kept) :
    Along arrive Arrival.Consumed (prepareNow env con statement) as ∧
      (run arrive (prepareNow env con statement) as).Prepared r := by
  obtain ⟨hstmt, hroom⟩ := prepareNow_sent env hq statement hsent
  generalize prepareNow env con statement = con₀ at hstmt hroom hsent hw ⊢
  unfold PrepareResponse.packets at hp
  obtain ⟨a, as, hb, hbs, rfl⟩ := List.forall₂_cons_right_iff.mp hp
  obtain ⟨hconsumed, hnext⟩ := ok_arrives hb hw.1 hsent hstmt ⟨rfl, rfl⟩ hroom fun hne => hmem hne a rfl
  by_cases hparams : r.params = []
  · have hgroup : PrepareResponse.group (r.params.map Definition.payload) r.paramsEnd = [] := by
      unfold PrepareResponse.group
      rw [if_pos (by rw [hparams, List.map_nil])]
    rw [hgroup, List.nil_append] at hbs
    rw [if_pos hparams] at hnext
    obtain ⟨hconsumed', hdone⟩ := columnGroup_arrives hbs hw.2 hnext
    exact ⟨⟨hconsumed, hconsumed'⟩, hdone⟩
  · rw [if_neg hparams] at hnext
    obtain ⟨hconsumed', hdone⟩ := arrive_append (fun con => con.AtColumns r) (fun con => con.Prepared r) hbs hw.2 hnext
      (fun h hp hw => paramGroup_arrives hkept hparams hp hw h) fun h hp hw => columnGroup_arrives hp hw h
    exact ⟨⟨hconsumed, hconsumed'⟩, hdone⟩

/-- The arrivals of so many packets that stand in the read buffer one behind the other. -/
def buffered (env : Env) : ℕ → Con → List Arrival
  | 0, _ => []
  | n + 1, con => { env := env, con := con } :: buffered env n (deliver env con)

lemma buffered_awaited (env : Env) {con con' : Con} (h : con.Waits con') (n : ℕ) :
    Along arrive Arrival.Awaited con (buffered env n con') := by
  induction n generalizing con con' with
  | zero => exact trivial
  | succ n ih => exact ⟨h, ih (.refl _)⟩

/-- A connection that has sent a prepare, and has read these packets in answer. -/
def preparing (env : Env) : Con :=
  prepareNow env { Con.calm 0 with stream := true, uv := .reading, status := .idle } [0x53]

/-- The arrivals of packets, read at once. -/
def replies (env : Env) (packets : List (List UInt8)) : List Arrival :=
  buffered env packets.length (readInto (onAlloc env (preparing env) 65536).1
    (packets.zipIdx.flatMap fun p => frame (UInt8.ofNat (p.2 + 1)) p.1))

/-- The answer for a statement of one parameter and one column, in which the parameter has this name. -/
def oneOfEach (name : List UInt8) : PrepareResponse where
  id := 7
  filler := 0
  warnings := 0
  more := []
  params := [⟨[0x64, 0x65, 0x66], [], [], [], name, [], 63, 0, 0xfd, 128, 0⟩]
  paramsEnd := [0, 0, 2, 0]
  columns := [[3, 0x64, 0x65, 0x66, 0, 0, 0, 1, 0x61, 0, 12, 63, 0, 1, 0, 0, 0, 3, 0, 0, 0, 0, 0]]
  columnsEnd := [0, 0, 2, 0]
  params_lt := Nat.one_lt_two_pow (by decide)
  columns_lt := Nat.one_lt_two_pow (by decide)

lemma replies_awaited (packets : List (List UInt8)) :
    Along arrive Arrival.Awaited (preparing .calm) (replies .calm packets) := by
  unfold replies
  refine buffered_awaited .calm ?_ _
  exact ⟨rfl, rfl, rfl, rfl, rfl⟩

/-- A parameter `?` and a column. -/
theorem prepare_answered_oneOfEach :
    Along arrive Arrival.Consumed (preparing .calm) (replies .calm (oneOfEach [0x3f]).packets) ∧
      (run arrive (preparing .calm) (replies .calm (oneOfEach [0x3f]).packets)).Prepared (oneOfEach [0x3f]) :=
  prepare_answered rfl (by decide +kernel) (oneOfEach [0x3f]) (by decide +kernel)
    (replies_awaited _) (fun _ a ha => by cases ha; decide +kernel) (by decide)

/-- The parameter has a name of 128 bytes: its length is taken for a negative number, and what is stored as its type is
no part of the definition's numbers. -/
theorem prepare_answered_longName :
    ∃ as, List.Forall₂ Arrival.Bears as (oneOfEach (List.replicate 128 0x61)).packets ∧ (∀ a ∈ as, a.Accepted) ∧
      Along arrive Arrival.Awaited (preparing .calm) as ∧
      ¬ (run arrive (preparing .calm) as).Prepared (oneOfEach (List.replicate 128 0x61)) := by
  refine ⟨replies .calm (oneOfEach (List.replicate 128 0x61)).packets, by decide +kernel, by decide +kernel,
    replies_awaited _, fun h => ?_⟩
  obtain ⟨s, hs, hf⟩ := h.1.stmt
  obtain ⟨columns, hparams, -, hcolumns⟩ := hf.params (List.cons_ne_nil _ _)
  obtain ⟨c, hc, hholds⟩ := hcolumns 0 Nat.one_pos _ rfl
  have htype : ((run arrive (preparing .calm) (replies .calm
      (oneOfEach (List.replicate 128 0x61)).packets)).stmt.bind fun s => s.params.bind fun p => p[0]?.map Column.type) ≠
        some 0xfd := by decide +kernel
  rw [hs, Option.bind_some, hparams, Option.bind_some, Option.mem_def.mp hc, Option.map_some, hholds.type] at htype
  exact htype rfl

end LibAttachSql
