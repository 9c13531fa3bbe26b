import LibAttachSql.System
import LibAttachSql.SendFrame
import LibAttachSql.SendPaths

/-!
# What happens to the data of a connection

A call, a poll or a report of libuv may run many functions of the library one after the other, and callbacks of the
application in between.  Here a run of any of them is cut into acts: one packet read, one growth of a network buffer, one
command sent, one array of rows made or written.  Everything else a function does leaves the data of the connection alone
(`Con.Rest`), so that a property of the data has to be looked at for one act at a time.
-/

namespace LibAttachSql

open Lib

/-! ### Data -/

/-- The network buffers, the statement, the result and the arrays made from it, and what decides about compression. -/
structure Data where
  compression : Bool
  clientCapabilities : ℕ
  readBuffer : Option BufferSt
  readBufferCompress : Option BufferSt
  result : Result
  stmt : Option Stmt
  columns : Option (List QueryColumn)
  row : Option (List Cell)
  stmtRow : Option (List StmtCell)
  rowBuffer : List (List Cell)
  rowBufferCount : ℕ
  rowBufferPosition : ℕ
  bufferRows : Bool

/-- The data of a connection. -/
def Con.data (con : Con) : Data where
  compression := con.options.compression
  clientCapabilities := con.clientCapabilities
  readBuffer := con.readBuffer
  readBufferCompress := con.readBufferCompress
  result := con.result
  stmt := con.stmt
  columns := con.columns
  row := con.row
  stmtRow := con.stmtRow
  rowBuffer := con.rowBuffer
  rowBufferCount := con.rowBufferCount
  rowBufferPosition := con.rowBufferPosition
  bufferRows := con.bufferRows

/-- Actions that hand nothing on, but for what OpenSSL hands out where TLS is in use, and belong to no command, no request
for a further result and no packet. -/
def Action.still (tls : Bool) : Action → Bool
  | .write _ | .sslBuffered _ | .command _ _ | .onStream _ _ | .nextResult _ | .packet _ _ _ | .reported _ => false
  | .encrypted _ => tls
  | _ => true

/-- TLS stays as it is, and all that is done is still. -/
structure Con.Still (con con' : Con) : Prop where
  tls_eq : con'.tls = con.tls
  trace_eq : ∃ x, con'.trace = x ++ con.trace ∧ ∀ a ∈ x, a.still con.ssl.handshakeDone = true

namespace Con.Still

variable {con con₁ con' : Con} {x : List Action}

lemma actions (htls : con'.tls = con.tls) (ht : con'.trace = x ++ con.trace)
    (hx : ∀ a ∈ x, a.still con.ssl.handshakeDone = true) : con.Still con' := ⟨htls, x, ht, hx⟩

/-- One action. -/
lemma action {a : Action} (htls : con'.tls = con.tls) (ht : con'.trace = a :: con.trace)
    (ha : a.still con.ssl.handshakeDone = true) : con.Still con' :=
  actions (x := [a]) htls ht (List.forall_mem_singleton.mpr ha)

lemma same (htls : con'.tls = con.tls) (ht : con'.trace = con.trace) : con.Still con' :=
  actions (x := []) htls ht fun _ ha => absurd ha List.not_mem_nil

lemma trans (h : con.Still con₁) (h' : con₁.Still con') : con.Still con' := by
  obtain ⟨x, hx, hstill⟩ := h.trace_eq
  obtain ⟨y, hy, hstill'⟩ := h'.trace_eq
  rw [show con₁.ssl.handshakeDone = con.ssl.handshakeDone from congrArg (fun t => t.2.2) h.tls_eq] at hstill'
  exact actions (h'.tls_eq.trans h.tls_eq) (by rw [hy, hx, List.append_assoc])
    fun a ha => (List.mem_append.mp ha).elim (hstill' a) (hstill a)

end Con.Still

/-- The command status at the end of a command, or after a failure of one. -/
def CommandStatus.Ended (s : CommandStatus) : Prop := s = .eof ∨ s = .sendFailed ∨ s = .readFailed

/-- The data stay as they are, the expected packets stay or are dropped, the command status stays or is that of the end of
a command or of a failure, and all that is done is still. -/
structure Con.Rest (con con' : Con) : Prop where
  data_eq : con'.data = con.data
  queue_eq : con'.nextPacketQueue = con.nextPacketQueue ∨ con'.nextPacketQueue = []
  commandStatus_eq : con'.commandStatus = con.commandStatus ∨ con'.commandStatus.Ended
  still : con.Still con'

namespace Con.Rest

variable {con con₁ con' : Con}

lemma same (hd : con'.data = con.data) (hq : con'.nextPacketQueue = con.nextPacketQueue)
    (hs : con'.commandStatus = con.commandStatus) (h : con.Still con') : con.Rest con' := ⟨hd, .inl hq, .inl hs, h⟩

lemma trans (h : con.Rest con₁) (h' : con₁.Rest con') : con.Rest con' := by
  refine ⟨h'.data_eq.trans h.data_eq, ?_, ?_, h.still.trans h'.still⟩
  · rcases h'.queue_eq with hq | hq
    · rw [hq]
      exact h.queue_eq
    · exact .inr hq
  · rcases h'.commandStatus_eq with hs | hs
    · rw [hs]
      exact h.commandStatus_eq
    · exact .inr hs

end Con.Rest

/-! ### Acts -/

/-- The store of `attachsql_query_row_buffer` behind its growth. -/
def storeRow (con : Con) : Con :=
  { con with
    rowBuffer := con.rowBuffer.take con.rowBufferCount ++ [con.rowCells]
    rowBufferCount := con.rowBufferCount + 1
    own := con.own.newBufferedRow }.log .rowKept

/-- A round of `attachsql_query_row_buffer` up to the request for the next row. -/
def keepRow (env : Env) (con : Con) : Con :=
  match rowBufferGrow env con with
  | (con, false) => con
  | (con, true) =>
    if env.newArray con.result.columnCount sizeofCell then
      if con.result.rowData.isNone ∧ con.result.columnCount ≠ 0 ∨ con.own.rowBuffer.isNone then con.log .fault
      else storeRow con
    else con

/-- The request of `attachsql_get_next_row`, before packets are processed. -/
def requestRow (env : Env) (con : Con) : Con :=
  { packetQueuePush env ((packetReadEnd con).log .rowRequested) .row with commandStatus := .readRow }

/-- `attachsql_statement_prepare` on a connection that has been opened. -/
def prepareNow (env : Env) (con : Con) (statement : List UInt8) : Con :=
  if env.newArray 1 sizeofStmt then (commandSend env { con with stmt := some Stmt.fresh } .stmtPrepare statement).1
  else { con.fail .stmtAlloc with
    stmt := none
    localErrcode := .outOfMemoryError
    commandStatus := .sendFailed }

/-- Bytes that libuv or OpenSSL wrote into the network buffer. -/
def readInto (con : Con) (bytes : List UInt8) : Con :=
  match if con.options.compression then con.readBufferCompress else con.readBuffer with
  | none => con
  | some b => storeRead con (b.append bytes) bytes

/-- What happens to the data of a connection at a time. -/
inductive Act where
  | rest (con' : Con)
  | setOption (capabilities : ℕ)
  | packet (env : Env)
  | alloc (env : Env) (suggestedSize : ℕ)
  | read (bytes : List UInt8)
  | decompress (env : Env)
  | greet (env : Env)
  | command (env : Env) (cmd : Command) (data : List UInt8)
  | requestRow (env : Env)
  | nextResult (env : Env)
  | prepare (env : Env) (statement : List UInt8)
  | closeStatement (env : Env)
  | editStmt (f : Stmt → Stmt)
  | commandFree
  | closeQuery
  | bufferRows (enable : Bool)
  | keepRow (env : Env)
  | rowGet (env : Env) (error : ErrorPtr)
  | bufferRowGet
  | columnGet (column : ℕ)
  | stmtRowGet (env : Env) (error : ErrorPtr)

namespace Act

/-- What an act does to the connection. -/
def apply (con : Con) : Act → Con
  | rest con' => con'
  | setOption capabilities => { con with clientCapabilities := con.clientCapabilities ||| capabilities }
  | packet env => (processPacket env con).con
  | alloc env suggestedSize => (onAlloc env con suggestedSize).1
  | read bytes => readInto con bytes
  | decompress env =>
    match con.readBufferCompress with
    | none => con
    | some c => (decompressReadBuffer env con c).1
  | greet env => packetQueuePush env con .handshake
  | command env cmd data => (commandSend env con cmd data).1
  | requestRow env => LibAttachSql.requestRow env con
  | nextResult env => (commandNextResult env con).1
  | prepare env statement => prepareNow env con statement
  | closeStatement env => statementClose env con
  | editStmt f => { con with stmt := con.stmt.map f }
  | commandFree => LibAttachSql.commandFree con
  | closeQuery => queryClose con
  | bufferRows enable => (queryBufferRows con enable).1
  | keepRow env => LibAttachSql.keepRow env con
  | rowGet env error => (queryRowGet env con error).1
  | bufferRowGet => (queryBufferRowGet con).1
  | columnGet column => (queryColumnGet con column).1
  | stmtRowGet env error => (statementRowGet env con error).1

/-- Whatever is not told apart leaves the data alone, and only `attachsql_statement_prepare` sends a prepare. -/
def Legal (con : Con) : Act → Prop
  | rest con' => con.Rest con'
  | command _ cmd _ => cmd ≠ .stmtPrepare
  | _ => True

end Act

/-- A run of acts leads from one connection to the other. -/
def Acts (con con' : Con) : Prop := ∃ as : List Act, Along Act.apply Act.Legal con as ∧ run Act.apply con as = con'

namespace Acts

variable {con con₁ con₂ con' : Con}

lemma refl : Acts con con := ⟨[], trivial, rfl⟩

lemma trans (h : Acts con con₁) (h' : Acts con₁ con') : Acts con con' := by
  obtain ⟨as, hl, rfl⟩ := h
  obtain ⟨as', hl', rfl⟩ := h'
  exact ⟨as ++ as', (along_append _ _ _).mpr ⟨hl, hl'⟩, run_append _ _ _⟩

/-- What comes before. -/
lemma after (h' : Acts con₁ con') (h : Acts con con₁) : Acts con con' := h.trans h'

lemma act (a : Act) (h : a.Legal con) : Acts con (Act.apply con a) := ⟨[a], ⟨h, trivial⟩, rfl⟩

lemma rest (h : con.Rest con') : Acts con con' := ⟨[.rest con'], ⟨h, trivial⟩, rfl⟩

/-- A change of fields that are no data. -/
lemma same (hd : con'.data = con.data) (hq : con'.nextPacketQueue = con.nextPacketQueue)
    (hs : con'.commandStatus = con.commandStatus) (h : con.Still con') : Acts con con' := rest (.same hd hq hs h)

lemma ite {p : Prop} [Decidable p] (ht : p → Acts con con₁) (hf : ¬ p → Acts con con₂) :
    Acts con (if p then con₁ else con₂) := by
  split_ifs with h
  · exact ht h
  · exact hf h

lemma foldl {β : Type} {f : Con → β → Con} (h : ∀ con b, Acts con (f con b)) (bs : List β) (con : Con) :
    Acts con (bs.foldl f con) := by
  induction bs generalizing con with
  | nil => exact refl
  | cons b bs ih => exact (h con b).trans (ih _)

end Acts

variable (env : Env) (con : Con)

/-! ### Receiving -/

lemma failed_rest {con' : Con} (hd : con'.data = con.data) (hq : con'.nextPacketQueue = [])
    (hs : con'.commandStatus.Ended) (h : con.Still con') : con.Rest con' :=
  ⟨hd, .inr hq, .inr hs, h⟩

/-- What a write leaves of the data, the expected packets and the command status: its failures drop the packets. -/
structure Con.Writes (con con' : Con) : Prop where
  data_eq : con'.data = con.data
  queue_eq : con'.nextPacketQueue = con.nextPacketQueue ∨ con'.nextPacketQueue = []
  commandStatus_eq : con'.commandStatus = con.commandStatus ∨ con'.commandStatus.Ended

lemma wire_writes {con' : Con} (h : con.WireOnly con') (hd : Does (Path Control.NetMove) con con') :
    con.Writes con' := by
  obtain ⟨x, -, hP⟩ := hd
  have hwritten := Control.written_of_path hP
  refine ⟨?_, ?_, ?_⟩
  · have hdata := congrArg Con.data h
    exact hdata
  · have hq : con'.nextPacketQueue = if x.any Action.fails then [] else con.nextPacketQueue := hwritten.queue
    rw [hq]
    split_ifs
    · exact .inr rfl
    · exact .inl rfl
  · have hs : con'.commandStatus = if x.any Action.fails then .sendFailed else con.commandStatus :=
      hwritten.commandStatus
    rw [hs]
    split_ifs
    · exact .inr (.inr (.inl rfl))
    · exact .inl rfl

/-- What OpenSSL does where TLS is in use is still. -/
lemma wire_still {c c' : Control} {x : List Action} (h : Path Control.WireMove c x c') :
    ∀ a ∈ x, a.still true = true := by
  induction h with
  | refl => exact fun _ ha => absurd ha List.not_mem_nil
  | snoc _ hm ih =>
    refine fun a ha => (List.mem_append.mp ha).elim (fun ha => ?_) (ih a)
    cases hm <;> cases List.mem_singleton.mp ha <;> rfl

/-- OpenSSL does not touch the data. -/
lemma wire_rest {con' : Con} (htls : con.ssl.handshakeDone = true) (h : con.WireOnly con') (hs : con'.tls = con.tls)
    (hd : Does (Path Control.WireMove) con con') : con.Rest con' := by
  have hw := wire_writes con h (hd.mono (Path.mono fun h => h.net))
  obtain ⟨x, hx, hP⟩ := hd
  exact ⟨hw.data_eq, hw.queue_eq, hw.commandStatus_eq, .actions hs hx (htls ▸ wire_still hP)⟩

lemma sslRun_rest (h : con.ssl.handshakeDone = true) : con.Rest (sslRun env con) :=
  wire_rest con h (sslRun_wireOnly env con) (sslRun_tls env con) (sslRun_does env con)

lemma sslResult_rest (h : con.ssl.handshakeDone = true) (r : SslResult) : con.Rest (sslResult env con r) :=
  wire_rest con h (sslResult_wireOnly env con r) (sslResult_tls env con r) (sslResult_does env con r)

lemma netWrite_writes {parts : List (List UInt8)} {con' : Con} {failure : Option String}
    (hw : netWrite env con parts = (con', failure)) : con.Writes con' :=
  wire_writes con (netWrite_wireOnly env con hw) (netWrite_does env con hw)

lemma processPacketsLoop_acts (n : ℕ) : Acts con (processPacketsLoop env n con).1 := by
  induction n generalizing con with
  | zero => exact .refl
  | succ n ih =>
    have hround : Acts con (processPacket env con).con := .act (.packet env) trivial
    unfold processPacketsLoop
    cases hp : processPacket env con with
    | again con' =>
      rw [hp] at hround
      exact hround.trans (ih con')
    | done con' answer =>
      rw [hp] at hround
      exact hround

lemma decompressReadBuffer_acts {c : BufferSt} (hc : con.readBufferCompress = some c) :
    Acts con (decompressReadBuffer env con c).1 := by
  have hact : Acts con (Act.apply con (.decompress env)) := .act (.decompress env) trivial
  unfold Act.apply at hact
  rw [hc] at hact
  exact hact

lemma processPackets_acts : Acts con (processPackets env con).1 := by
  have hloop := fun con : Con => processPacketsLoop_acts env con (con.buf.unreadData + 1)
  unfold processPackets
  dsimp only
  split_ifs
  · cases hc : con.readBufferCompress with
    | none => exact .refl
    | some c =>
      have hdecompress := decompressReadBuffer_acts env con hc
      dsimp only
      generalize decompressReadBuffer env con c = r at hdecompress ⊢
      split_ifs
      · exact hdecompress
      · exact hdecompress.trans (hloop r.1)
  · exact .refl
  · exact hloop con

lemma getNextRow_acts : Acts con (getNextRow env con) := by
  unfold getNextRow
  split
  · exact .same rfl rfl rfl (.action rfl rfl rfl)
  · exact (Acts.act (.requestRow env) trivial).trans (processPackets_acts env _)

/-! ### Rows -/

lemma queryRowBufferRound_acts : Acts con (queryRowBufferRound env con).1 := by
  have hkeep : Acts con (keepRow env con) := .act (.keepRow env) trivial
  unfold queryRowBufferRound
  unfold keepRow at hkeep
  generalize rowBufferGrow env con = r at hkeep ⊢
  obtain ⟨con', _ | _⟩ := r
  · exact hkeep
  · dsimp only at hkeep ⊢
    split_ifs at hkeep ⊢
    · exact hkeep
    · exact hkeep.trans (getNextRow_acts env _)
    · exact hkeep

lemma queryRowBufferLoop_acts (n : ℕ) : Acts con (queryRowBufferLoop env n con).1 := by
  induction n generalizing con with
  | zero => exact .refl
  | succ n ih =>
    have hround := queryRowBufferRound_acts env con
    unfold queryRowBufferLoop
    cases hr : queryRowBufferRound env con with
    | mk con' failure =>
      rw [hr] at hround
      cases failure with
      | some _ => exact hround
      | none =>
        have hpackets := hround.trans (processPackets_acts env con')
        dsimp only
        generalize processPackets env con' = r at hpackets ⊢
        split_ifs
        · exact hpackets.trans (ih r.1)
        · exact hpackets

lemma queryRowBuffer_acts (error : ErrorPtr) : Acts con (queryRowBuffer env con error).1 := by
  have h := queryRowBufferLoop_acts env con (con.buf.unreadData + 1)
  unfold queryRowBuffer
  split
  · next con' hx => rwa [hx] at h
  · next con' _ hx => rwa [hx] at h

/-! ### The callbacks of libuv -/

lemma onResolved_acts (failure : Option String) : Acts con (onResolved con failure) := by
  cases failure with
  | none => exact .same rfl rfl rfl (.same rfl rfl)
  | some name => exact .same rfl rfl rfl (.action rfl rfl rfl)

lemma onConnect_acts (failure : Option String) : Acts con (onConnect env con failure) := by
  cases failure with
  | none => exact (Acts.act (.greet env) trivial).trans (.same rfl rfl rfl (.same rfl rfl))
  | some name => exact .same rfl rfl rfl (.action rfl rfl rfl)

lemma writeEnd_rest (failure : Option String) : con.Rest (writeEnd con failure) := by
  by_cases hq : packetQueuePeek con = none
  · unfold writeEnd writeDone
    rw [if_pos hq, if_pos hq]
    cases failure with
    | none => exact ⟨rfl, .inl rfl, .inr (.inl rfl), .action rfl rfl rfl⟩
    | some name => exact failed_rest con rfl rfl (.inr (.inl rfl)) (.action rfl rfl rfl)
  · unfold writeEnd writeDone
    rw [if_neg hq, if_neg hq]
    cases failure with
    | none => exact .same rfl rfl rfl (.same rfl rfl)
    | some name => exact failed_rest con rfl rfl (.inr (.inl rfl)) (.action rfl rfl rfl)

lemma onWrite_acts (failure : Option String) : Acts con (onWrite con failure) :=
  (Acts.rest (writeEnd_rest _ failure)).after (.same rfl rfl rfl (.same rfl rfl))

lemma readErrorCb_acts (name : String) : Acts con (readErrorCb con name) :=
  .rest (failed_rest con rfl rfl (.inr (.inr rfl)) (.action rfl rfl rfl))

lemma storeRead_acts {b : BufferSt}
    (hb : (if con.options.compression then con.readBufferCompress else con.readBuffer) = some b) (bytes : List UInt8) :
    Acts con (storeRead con (b.append bytes) bytes) := by
  have hact : Acts con (Act.apply con (.read bytes)) := .act (.read bytes) trivial
  unfold Act.apply readInto at hact
  rw [hb] at hact
  exact hact

lemma storeRead_ssl (b : BufferSt) (bytes : List UInt8) : (storeRead con b bytes).ssl = con.ssl := by
  unfold storeRead
  split_ifs <;> rfl

/-- What `SSL_read` found is stored. -/
lemma storeSsl_acts {b : BufferSt}
    (hb : (if con.options.compression then con.readBufferCompress else con.readBuffer) = some b) :
    Acts con (storeRead con (sslReadBuffer env con b).1 (sslReadBuffer env con b).2.2) := by
  have hsame : ∀ bytes, Acts con (storeRead con b bytes) := fun bytes => by
    unfold storeRead
    split_ifs at hb ⊢ with hc
    · exact .same (congrArg (fun c => { con.data with readBufferCompress := c }) hb.symm) rfl rfl (.same rfl rfl)
    · exact .same (congrArg (fun c => { con.data with readBuffer := c }) hb.symm) rfl rfl (.action rfl rfl rfl)
  unfold sslReadBuffer
  split
  · next n bytes =>
    split_ifs
    · exact storeRead_acts con hb _
    · exact hsame _
  · exact hsame _

lemma readDataCb_acts (bytes : List UInt8) : Acts con (readDataCb env con bytes) := by
  unfold readDataCb
  cases hb : (if con.options.compression then con.readBufferCompress else con.readBuffer) with
  | none => exact .same rfl rfl rfl (.action rfl rfl rfl)
  | some b =>
    refine .ite (fun htls => ?_) fun _ => (storeRead_acts con hb bytes).trans (processPackets_acts env _)
    have hstore : Acts con (storeRead { con with ssl.calls := con.ssl.calls + 1 } (sslReadBuffer env con b).1
        (sslReadBuffer env con b).2.2) := by
      refine (storeSsl_acts env con hb).trans ?_
      unfold storeRead
      split_ifs
      · exact .same rfl rfl rfl (.same rfl rfl)
      · exact .same rfl rfl rfl (.same rfl rfl)
    refine hstore.trans (.rest (sslResult_rest env _ ?_ _))
    rw [storeRead_ssl]
    exact htls

lemma uvRead_acts (suggestedSize : ℕ) (bytes : List UInt8) : Acts con (uvRead env con suggestedSize bytes) := by
  have halloc : Acts con (onAlloc env con suggestedSize).1 := .act (.alloc env suggestedSize) trivial
  unfold uvRead
  split
  · next con' ha => rwa [ha] at halloc
  · next con' ha =>
    rw [ha] at halloc
    exact halloc.trans (readErrorCb_acts con' "ENOBUFS")
  · next con' n ha =>
    rw [ha] at halloc
    exact halloc.trans (readDataCb_acts env con' _)

lemma netStep_acts (e : Env × NetEvent) : Acts con (netStep con e) := by
  unfold netStep
  split
  · exact .ite (fun _ => onResolved_acts con _) fun _ => .refl
  · exact .ite (fun _ => onConnect_acts e.1 con _) fun _ => .refl
  · exact .ite (fun _ => uvRead_acts e.1 con _ _) fun _ => .refl
  · exact .ite (fun _ => readErrorCb_acts con _) fun _ => .refl
  · exact .ite (fun _ => onWrite_acts con _) fun _ => .refl
  · exact .ite (fun _ => processPackets_acts e.1 con) fun _ => .refl

/-! ### Statements and queries -/

lemma command_acts {cmd : Command} (h : cmd ≠ .stmtPrepare) (data : List UInt8) :
    Acts con (commandSend env con cmd data).1 := .act (.command env cmd data) h

lemma statementSet_acts (param : ℕ) (error : ErrorPtr) (set : StmtParam → StmtParam) :
    Acts con (statementSet env con param error set).1 := by
  unfold statementSet
  cases hs : con.stmt with
  | none => exact .refl
  | some stmt =>
    dsimp only
    split_ifs
    · exact .refl
    · cases hp : stmt.paramData with
      | none => exact .same rfl rfl rfl (.action rfl rfl rfl)
      | some params =>
        have hedit : Acts con (Act.apply con (.editStmt fun stmt =>
            { stmt with paramData := some (params.modify param set) })) := .act _ trivial
        unfold Act.apply at hedit
        rw [hs] at hedit
        exact hedit

/-- A statement put in the place of another. -/
lemma putStmt_acts {stmt stmt' : Stmt} (h : con.stmt = some stmt) : Acts con { con with stmt := some stmt' } := by
  have hedit : Acts con (Act.apply con (.editStmt fun _ => stmt')) := .act _ trivial
  unfold Act.apply at hedit
  rw [h] at hedit
  exact hedit

lemma stmtExecute_acts {stmt : Stmt} (h : con.stmt = some stmt) : Acts con (stmtExecute env con stmt).1 := by
  unfold stmtExecute
  split
  · exact (putStmt_acts con h).trans (.rest (failed_rest _ rfl rfl (.inr (.inl rfl)) (.action rfl rfl rfl)))
  · exact (putStmt_acts con h).trans (.rest (failed_rest _ rfl rfl (.inr (.inl rfl)) (.action rfl rfl rfl)))
  · exact .same rfl rfl rfl (.action rfl rfl rfl)
  · exact (putStmt_acts con h).trans (command_acts env _ (by decide) _)

lemma statementExecute_acts (error : ErrorPtr) : Acts con (statementExecute env con error).1 := by
  unfold statementExecute
  cases hs : con.stmt with
  | none => exact .refl
  | some stmt =>
    have hfree : Acts con (commandFree con) := .act .commandFree trivial
    have h := hfree.trans (stmtExecute_acts env (commandFree con) hs)
    dsimp only
    generalize stmtExecute env (commandFree con) stmt = r at h ⊢
    obtain ⟨con', _ | _⟩ := r
    · dsimp only
      split_ifs
      · exact h
      · exact h
    · exact h

lemma statementCommand_acts {cmd : Command} (hc : cmd ≠ .stmtPrepare) (extra : Stmt → List UInt8)
    (data : List UInt8) (error : ErrorPtr) : Acts con (statementCommand env con cmd extra data error).1 := by
  unfold statementCommand
  cases hs : con.stmt with
  | none => exact .refl
  | some stmt =>
    have hextra : Acts con (writeExtra con (extra stmt)) := .same rfl rfl rfl (.same rfl rfl)
    have h := hextra.trans (command_acts env _ hc data)
    dsimp only
    generalize commandSend env (writeExtra con (extra stmt)) cmd data = r at h ⊢
    split
    · exact h
    · exact h

lemma statementGet_acts (column : ℕ) (error : ErrorPtr) : Acts con (statementGet env con column error).1 := by
  unfold statementGet
  split
  · exact .refl
  · split_ifs
    · exact .refl
    · exact .same rfl rfl rfl (.same rfl rfl)

lemma statementGetColumnType_acts (column : ℕ) : Acts con (statementGetColumnType con column).1 := by
  unfold statementGetColumnType
  split_ifs
  · exact .refl
  · split
    · exact .same rfl rfl rfl (.action rfl rfl rfl)
    · exact .same rfl rfl rfl (.same rfl rfl)

lemma queryRowNext_acts : Acts con (queryRowNext env con) := by
  have hnext : Acts con ({ con with lastCallback := .none }.log .rowNext) := .same rfl rfl rfl (.action rfl rfl rfl)
  unfold queryRowNext
  exact hnext.trans (.ite (fun _ => .refl) fun _ => getNextRow_acts env _)

lemma queryNextResult_acts : Acts con (queryNextResult env con).1 := by
  have h : Acts con (commandNextResult env con).1 := .act (.nextResult env) trivial
  unfold queryNextResult
  generalize commandNextResult env con = r at h ⊢
  obtain ⟨con', _ | _⟩ := r
  · exact h
  · exact h

lemma queryRowGetOffset_acts (rowNumber : ℕ) : Acts con (queryRowGetOffset con rowNumber).1 := by
  unfold queryRowGetOffset
  split_ifs
  · exact .refl
  · exact .same rfl rfl rfl (.same rfl rfl)

lemma expandQuery_acts (statement : List UInt8) (params : List QueryParameter) :
    Acts con (expandQuery con statement params).1 := by
  have hparam : ∀ (con : Con) p, Acts con (expandParameter con p).1 := fun con p => by
    cases p with
    | char data => exact .same rfl rfl rfl (.action rfl rfl rfl)
    | charLike data => exact .same rfl rfl rfl (.action rfl rfl rfl)
    | none _ => exact .refl
    | int _ _ => exact .refl
    | bigint _ _ => exact .refl
    | float _ => exact .refl
    | double _ => exact .refl
  induction statement generalizing con params with
  | nil => exact .refl
  | cons c cs ih =>
    unfold expandQuery
    split_ifs
    · exact ih con params
    · cases params with
      | nil => exact .same rfl rfl rfl (.action rfl rfl rfl)
      | cons p params => exact (hparam con p).trans (ih _ params)

/-! ### What runs inside a call -/

/-- A turn of the event loop and the callback of the application are runs of acts. -/
structure World.Acts (w : World) : Prop where
  uvRun : ∀ con, LibAttachSql.Acts con (w.uvRun con)
  callback : ∀ event con, LibAttachSql.Acts con (w.callback event con)

section Calls

variable {w : World} (hw : w.Acts)

include hw

lemma sendCallback_acts (event : Event) (error : ErrorPtr) : Acts con (sendCallback w con event error) := by
  unfold sendCallback
  split
  · exact .same rfl rfl rfl (.action rfl rfl rfl)
  · split_ifs
    · exact .refl
    · exact (hw.callback event _).after (.same rfl rfl rfl (.action rfl rfl rfl))
    · exact .refl

lemma runUvLoop_acts : Acts con (runUvLoop w con) := .ite (fun _ => .refl) fun _ => hw.uvRun con

lemma doConnect_acts : Acts con (doConnect env w con) := by
  unfold doConnect
  refine .ite (fun _ => .refl) fun _ => .ite (fun _ => .same rfl rfl rfl (.action rfl rfl rfl)) fun _ => ?_
  dsimp only
  split_ifs
  · split
    · exact .same rfl rfl rfl (.action rfl rfl rfl)
    · exact (runUvLoop_acts _ hw).after (.same rfl rfl rfl (.same rfl rfl))
  · exact (runUvLoop_acts _ hw).after (.same rfl rfl rfl (.same rfl rfl))

lemma reportError_acts (error : ErrorPtr) : Acts con (reportError env w con error).1 := sendCallback_acts con hw _ _

lemma connect_acts (error : ErrorPtr) : Acts con (connect env w con error).1 := by
  have h := doConnect_acts env con hw
  unfold connect
  dsimp only
  generalize doConnect env w con = con₁ at h ⊢
  split
  · exact h
  · exact h
  · exact h
  · exact h.trans (.ite (fun _ => sendCallback_acts con₁ hw _ _) fun _ => .refl)
  · exact h.trans (reportError_acts env con₁ hw error)
  · exact h.trans (reportError_acts env con₁ hw error)
  · exact h.trans (reportError_acts env con₁ hw error)
  · exact h.trans (reportError_acts env con₁ hw error)

lemma statementPrepare_acts (statement : List UInt8) (error : ErrorPtr) :
    Acts con (statementPrepare env w con statement error).1 := by
  have hnow : Acts con (prepareNow env con statement) := .act (.prepare env statement) trivial
  unfold statementPrepare
  by_cases hs : con.status = .notConnected
  · rw [if_pos hs]
    exact (connect_acts env _ hw error).after (.same rfl rfl rfl (.same rfl rfl))
  · rw [if_neg hs]
    unfold prepareNow at hnow
    split_ifs at hnow ⊢
    · exact hnow
    · exact hnow

lemma querySend_acts (text : List UInt8) (error : ErrorPtr) : Acts con (querySend env w con text error).1 := by
  have h := command_acts env con (show Command.query ≠ .stmtPrepare by decide) text
  unfold querySend
  split_ifs
  · exact connect_acts env con hw error
  · generalize commandSend env con .query text = r at h ⊢
    split
    · exact h
    · exact h

lemma query_acts (statement : List UInt8) (parameters : List QueryParameter) (error : ErrorPtr) :
    Acts con (query env w con statement parameters error).1 := by
  unfold query
  by_cases hq : con.inQuery = true
  · rw [if_pos hq]
    exact .refl
  rw [if_neg hq]
  have hbegin : Acts con ({ con with inQuery := true }.log .queryBegun) := .same rfl rfl rfl (.action rfl rfl rfl)
  refine hbegin.trans ?_
  generalize { con with inQuery := true }.log .queryBegun = con₁
  dsimp only
  split_ifs
  · exact (querySend_acts env _ hw _ _).after (.same rfl rfl rfl (.same rfl rfl))
  · exact querySend_acts env con₁ hw _ _
  · have hnew : Acts con₁ { con₁ with own := con₁.own.newQueryBuffer } := .same rfl rfl rfl (.same rfl rfl)
    have hset : ∀ (con : Con) text, Acts con (setQueryBuffer con text true) := fun con text =>
      .same rfl rfl rfl (.same rfl rfl)
    exact hnew.trans ((expandQuery_acts _ statement parameters).trans ((hset _ _).trans (querySend_acts env _ hw _ _)))
  · exact .same rfl rfl rfl (.action rfl rfl rfl)

lemma callStep_acts (error : ErrorPtr) (c : Call) : Acts con (callStep env w error con c) := by
  cases c with
  | setOption capabilities => exact .act (.setOption capabilities) trivial
  | connect => exact connect_acts env con hw error
  | query statement parameters => exact query_acts env con hw statement parameters error
  | queryClose => exact .act .closeQuery trivial
  | queryRowNext => exact queryRowNext_acts env con
  | queryNextResult => exact queryNextResult_acts env con
  | queryBufferRows enable => exact .act (.bufferRows enable) trivial
  | queryBufferRowGet => exact .act .bufferRowGet trivial
  | queryColumnGet column => exact .act (.columnGet column) trivial
  | queryRowGet => exact .act (.rowGet env error) trivial
  | queryRowGetOffset rowNumber => exact queryRowGetOffset_acts con rowNumber
  | statementPrepare statement => exact statementPrepare_acts env con hw statement error
  | statementSet param set => exact statementSet_acts env con param error set
  | statementExecute => exact statementExecute_acts env con error
  | statementReset => exact statementCommand_acts env con (by decide) _ _ error
  | statementClose => exact .act (.closeStatement env) trivial
  | statementSendLongData param data => exact statementCommand_acts env con (by decide) _ _ error
  | statementRowGet => exact .act (.stmtRowGet env error) trivial
  | statementGet column => exact statementGet_acts env con column error
  | statementGetColumnType column => exact statementGetColumnType_acts con column
  | statementRowNext => exact getNextRow_acts env con

/-! ### Polling -/

lemma doPoll_acts : Acts con (doPoll env w con) := by
  have h : Acts con (if con.ssl.handshakeDone then sslRun env con else con) :=
    .ite (fun htls => .rest (sslRun_rest env con htls)) fun _ => .refl
  unfold doPoll
  split
  · exact .refl
  · exact .refl
  · exact .refl
  · exact .refl
  · exact h.trans (runUvLoop_acts _ hw)

lemma connectQuery_acts (error : ErrorPtr) : Acts con (connectQuery env w con error).1 := by
  have h : Acts con (connectSend env w con (con.queryBuffer.take con.queryBufferLength)).1 := by
    have huse : Acts con { con with own := con.own.useQueryBuffer } := .same rfl rfl rfl (.same rfl rfl)
    unfold connectSend
    dsimp only
    split_ifs
    · exact huse.trans (statementPrepare_acts env _ hw _ .null)
    · exact huse.trans (command_acts env _ (by decide) _)
  unfold connectQuery
  generalize connectSend env w con (con.queryBuffer.take con.queryBufferLength) = r at h ⊢
  split
  · exact h
  · exact h

lemma pollIdle_acts (error : ErrorPtr) : Acts con (pollIdle env w con error).1 := by
  have hcb := fun event error => sendCallback_acts con hw event error
  unfold pollIdle
  by_cases he : con.serverErrno ≠ 0
  · rw [if_pos he]
    exact hcb .error _
  · rw [if_neg he]
    split
    · exact (hcb .eof error).trans (.rest ⟨rfl, .inl rfl, .inr (.inl rfl), .action rfl rfl rfl⟩)
    · split_ifs
      · exact queryRowBuffer_acts env con error
      · exact hcb .rowReady _
    · dsimp only
      split_ifs
      · exact (hcb .connected error).trans (connectQuery_acts env _ hw error)
      · exact hcb .connected error
    · exact .same rfl rfl rfl (.action rfl rfl rfl)

lemma pollSwitch_acts (error : ErrorPtr) : Acts con (pollSwitch env w con error).1 := by
  unfold pollSwitch
  split
  · exact reportError_acts env con hw error
  · exact reportError_acts env con hw error
  · exact reportError_acts env con hw error
  · exact reportError_acts env con hw error
  · exact .refl
  · exact .refl
  · exact .refl
  · exact pollIdle_acts env con hw error

end Calls

lemma Setting.worldAt_acts (s : Setting) (n : ℕ) : (s.worldAt n).Acts := by
  have hnets : ∀ con, Acts con (s.nets.foldl netStep con) := Acts.foldl (fun con e => netStep_acts con e) s.nets
  induction n with
  | zero => exact ⟨hnets, fun _ _ => .refl⟩
  | succ n ih =>
    refine ⟨hnets, fun event con => ?_⟩
    exact Acts.foldl (fun con c => callStep_acts c.1 con ih c.2.1 c.2.2) (s.app event con) con

/-- **Every event of a run is a run of acts**, with all that happens inside calls and polls. -/
theorem sysStep_acts (e : SysEvent) : Acts con (sysStep con e) := by
  cases e with
  | net env e => exact .ite (fun _ => netStep_acts con (env, e)) fun _ => .refl
  | call s c => exact callStep_acts s.env con (s.worldAt_acts s.depth) s.error c
  | poll s =>
    have hpoll : Acts con (con.seen s) := .ite (fun _ => .refl) fun _ => doPoll_acts s.env con (s.worldAt_acts s.depth)
    exact hpoll.trans (pollSwitch_acts s.env _ (s.worldAt_acts s.depth) s.error)

/-- **Every run of a connection is a run of acts.** -/
theorem run_acts (es : List SysEvent) : Acts con (run sysStep con es) :=
  Acts.foldl (fun con e => sysStep_acts con e) es con

end LibAttachSql
