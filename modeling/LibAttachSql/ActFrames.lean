import LibAttachSql.Acts
import LibAttachSql.Packets

/-!
# What one act changes

For each act the part of the data that it changes, and what it does to the expected packets and to the command status.
The network buffers and the rows are left out here (`Con.objects`): every packet moves the pointers of a buffer.
-/

namespace LibAttachSql

open Lib

/-! ### Objects -/

/-- The statement, the columns of the result, and the arrays that the getters fill in. -/
structure Objects where
  stmt : Option Stmt
  columnCount : ℕ
  resultColumns : Option (List Column)
  currentColumn : ℕ
  columns : Option (List QueryColumn)
  row : Option (List Cell)
  stmtRow : Option (List StmtCell)

/-- The objects among the data. -/
def Data.objects (d : Data) : Objects where
  stmt := d.stmt
  columnCount := d.result.columnCount
  resultColumns := d.result.columns
  currentColumn := d.result.currentColumn
  columns := d.columns
  row := d.row
  stmtRow := d.stmtRow

/-- The objects of a connection. -/
def Con.objects (con : Con) : Objects := con.data.objects

/-- The packets of a prepare. -/
def PacketType.prepares (t : PacketType) : Bool :=
  t = .prepareResponse ∨ t = .prepareParameter ∨ t = .prepareColumn

/-- The packets whose reader fills in the statement or a column of the result. -/
def PacketType.defines (t : PacketType) : Bool := t.prepares ∨ t = .column

/-- The packets of this kind that are expected. -/
def Con.definitions (con : Con) : List PacketType := con.nextPacketQueue.filter PacketType.defines

/-- The objects stay as they are, and so do the expected definitions, or nothing is expected any more; the parameters of a
prepare are not being read all of a sudden. -/
structure Con.Passes (con con' : Con) : Prop where
  objects_eq : con'.objects = con.objects
  definitions_eq : con'.definitions = con.definitions ∨ con'.definitions = []
  commandStatus_of : con'.commandStatus = .readStmtParam → con.commandStatus = .readStmtParam

namespace Con.Passes

variable {con con₁ con' : Con}

lemma refl : con.Passes con := ⟨rfl, .inl rfl, id⟩

lemma trans (h : con.Passes con₁) (h' : con₁.Passes con') : con.Passes con' := by
  refine ⟨h'.objects_eq.trans h.objects_eq, ?_, fun hs => h.commandStatus_of (h'.commandStatus_of hs)⟩
  rcases h'.definitions_eq with hq | hq
  · rw [hq]
    exact h.definitions_eq
  · exact .inr hq

/-- What comes before. -/
lemma after (h' : con₁.Passes con') (h : con.Passes con₁) : con.Passes con' := h.trans h'

lemma same (hl : con'.objects = con.objects) (hq : con'.nextPacketQueue = con.nextPacketQueue)
    (hs : con'.commandStatus = .readStmtParam → con.commandStatus = .readStmtParam) : con.Passes con' :=
  ⟨hl, .inl (congrArg (List.filter PacketType.defines) hq), hs⟩

lemma dropped (hl : con'.objects = con.objects) (hq : con'.nextPacketQueue = [])
    (hs : con'.commandStatus ≠ .readStmtParam) : con.Passes con' :=
  ⟨hl, .inr (congrArg (List.filter PacketType.defines) hq), fun h => absurd h hs⟩

end Con.Passes

lemma objects_of_data {con con' : Con} (h : con'.data = con.data) : con'.objects = con.objects :=
  congrArg Data.objects h

lemma CommandStatus.Ended.ne_readStmtParam {s : CommandStatus} (h : s.Ended) : s ≠ .readStmtParam := by
  rcases h with rfl | rfl | rfl
  · decide
  · decide
  · decide

lemma Con.Rest.passes {con con' : Con} (h : con.Rest con') : con.Passes con' := by
  refine ⟨objects_of_data h.data_eq, ?_, fun hs => ?_⟩
  · rcases h.queue_eq with hq | hq
    · exact .inl (congrArg (List.filter PacketType.defines) hq)
    · exact .inr (congrArg (List.filter PacketType.defines) hq)
  · rcases h.commandStatus_eq with hc | hc
    · rwa [hc] at hs
    · exact absurd hs hc.ne_readStmtParam

variable (env : Env) (con : Con)

/-! ### Pushing and ending a packet -/

lemma packetQueuePush_data (t : PacketType) : (packetQueuePush env con t).data = con.data := by
  obtain ⟨queue, size, bytes, trace, hpush⟩ := packetQueuePush_frame env con t
  rw [hpush]
  rfl

lemma packetQueuePush_objects (t : PacketType) : (packetQueuePush env con t).objects = con.objects :=
  objects_of_data (packetQueuePush_data env con t)

lemma packetQueuePush_commandStatus (t : PacketType) :
    (packetQueuePush env con t).commandStatus = con.commandStatus := by
  obtain ⟨queue, size, bytes, trace, hpush⟩ := packetQueuePush_frame env con t
  rw [hpush]

/-- A push adds one packet at most. -/
lemma packetQueuePush_cases (t : PacketType) :
    (packetQueuePush env con t).nextPacketQueue = con.nextPacketQueue ∨
      (packetQueuePush env con t).nextPacketQueue = t :: con.nextPacketQueue := by
  rw [packetQueuePush_queue]
  split_ifs
  · exact .inr rfl
  · exact .inl rfl

lemma definitions_push {t : PacketType} (ht : t.defines = true) :
    (packetQueuePush env con t).definitions = con.definitions ∨
      (packetQueuePush env con t).definitions = t :: con.definitions := by
  unfold Con.definitions
  rcases packetQueuePush_cases env con t with hq | hq
  · exact .inl (congrArg _ hq)
  · rw [hq]
    exact .inr (List.filter_cons_of_pos ht)

lemma definitions_push_other {t : PacketType} (ht : t.defines = false) :
    (packetQueuePush env con t).definitions = con.definitions := by
  unfold Con.definitions
  rcases packetQueuePush_cases env con t with hq | hq
  · exact congrArg _ hq
  · rw [hq]
    exact List.filter_cons_of_neg (Bool.eq_false_iff.mp ht)

lemma push_passes {t : PacketType} (ht : t.defines = false) : con.Passes (packetQueuePush env con t) :=
  ⟨packetQueuePush_objects env con t, .inl (definitions_push_other env con ht),
    fun hs => (packetQueuePush_commandStatus env con t).symm.trans hs⟩

lemma packetReadEnd_passes : con.Passes (packetReadEnd con) := .same rfl rfl id

/-! ### Commands -/

/-- The packet that a command expects. -/
def Command.answer (command : Command) : PacketType :=
  if command = .stmtPrepare then .prepareResponse else .response

/-- What a command leaves of a connection: its data but for the current column, what was expected or nothing, with the
answer in front, and a command status that says how far it got. -/
structure Commanded (command : Command) (con con' : Con) : Prop where
  data_eq : con'.data = { con.data with result.currentColumn := 0 }
  queue_eq : ∃ q, (q = con.nextPacketQueue ∨ q = []) ∧
    (con'.nextPacketQueue = q ∨ con'.nextPacketQueue = command.answer :: q)
  commandStatus_eq : con'.commandStatus = .send ∨ con'.commandStatus = .sendFailed ∨ con'.commandStatus = .readResponse

section Commands

variable {cmd : Command}

lemma expectedResponse_data : (expectedResponse env con cmd).data = con.data := by
  have hpush := packetQueuePush_data env con
  cases cmd with
  | stmtPrepare => exact hpush .prepareResponse
  | stmtReset => rfl
  | stmtClose => rfl
  | _ => exact hpush .response

lemma expectedResponse_cases :
    (expectedResponse env con cmd).nextPacketQueue = con.nextPacketQueue ∨
      (expectedResponse env con cmd).nextPacketQueue = cmd.answer :: con.nextPacketQueue := by
  have hpush := packetQueuePush_cases env con
  cases cmd with
  | stmtPrepare => exact hpush .prepareResponse
  | stmtReset => exact .inl rfl
  | stmtClose => exact .inl rfl
  | _ => exact hpush .response

/-- What the packet of a command leaves: what was expected, or nothing after a failure. -/
lemma commandWrite_writes {data : List UInt8} {con' : Con} {failure : Option String}
    (hw : commandWrite env con cmd data = (con', failure)) : con.Writes con' := by
  have hwrite := netWrite_writes env _ hw
  exact ⟨hwrite.data_eq, hwrite.queue_eq, hwrite.commandStatus_eq⟩

variable {con₀ : Con}

lemma commandSendPlain_commanded (hd : con₀.data = { con.data with result.currentColumn := 0 })
    (hq : con₀.nextPacketQueue = con.nextPacketQueue) (data : List UInt8) :
    Commanded cmd con (commandSendPlain env con₀ cmd data).1 := by
  unfold commandSendPlain
  split
  · next con' name hw =>
    have hrest := commandWrite_writes env con₀ hw
    exact ⟨hrest.data_eq.trans hd, ⟨[], .inr rfl, .inl rfl⟩, .inr (.inl rfl)⟩
  · next con' hw =>
    have hrest := commandWrite_writes env con₀ hw
    refine ⟨?_, ⟨con'.nextPacketQueue, ?_, expectedResponse_cases env con'⟩, .inl rfl⟩
    · exact (expectedResponse_data env con').trans (hrest.data_eq.trans hd)
    · rw [← hq]
      exact hrest.queue_eq

lemma Con.SendOnly.data_eq {con con' : Con} (h : con.SendOnly con') : con'.data = con.data := by
  have hdata := congrArg Con.data h
  exact hdata

lemma Con.WireOnly.data_eq {con con' : Con} (h : con.WireOnly con') : con'.data = con.data := h.sendOnly.data_eq

/-- What a write leaves expected, and its command status. -/
lemma Writes.cases {cs : CommandStatus} {con con' : Con} (h : Writes cs con con') :
    (con'.nextPacketQueue = con.nextPacketQueue ∨ con'.nextPacketQueue = []) ∧
      (con'.commandStatus = cs ∨ con'.commandStatus = .sendFailed) := by
  obtain ⟨x, -, hW, -⟩ := h
  have hq : con'.nextPacketQueue = if x.any Action.fails then [] else con.nextPacketQueue := hW.queue
  have hs : con'.commandStatus = if x.any Action.fails then .sendFailed else cs := hW.commandStatus
  rw [hq, hs]
  split_ifs
  · exact ⟨.inr rfl, .inr rfl⟩
  · exact ⟨.inl rfl, .inl rfl⟩

lemma commandSendCompressed_commanded (hd : con₀.data = { con.data with result.currentColumn := 0 })
    (hq : con₀.nextPacketQueue = con.nextPacketQueue) (data : List UInt8) :
    Commanded cmd con (commandSendCompressed env con₀ cmd data).1 := by
  have hdata := (sendCompressedPacket_sendOnly env con₀ data (some cmd)).data_eq.trans hd
  obtain ⟨hqueue, hstatus⟩ := (sendCompressedPacket_writes env con₀ data (some cmd)).cases
  rw [hq] at hqueue
  unfold commandSendCompressed
  dsimp only
  generalize sendCompressedPacket env con₀ data (some cmd) = con₁ at hdata hqueue hstatus ⊢
  by_cases hs : con₁.status = .idle
  · rw [if_pos hs]
    exact ⟨(packetQueuePush_data env con₁ _).trans hdata,
      ⟨con₁.nextPacketQueue, hqueue, packetQueuePush_cases env con₁ cmd.answer⟩, .inl rfl⟩
  · rw [if_neg hs]
    exact ⟨hdata, ⟨con₁.nextPacketQueue, hqueue, .inl rfl⟩, .inr hstatus.symm⟩

lemma commandStart_data (n : ℕ) :
    (commandStart con cmd n).data = { con.data with result.currentColumn := 0 } := rfl

lemma commandStart_nextPacketQueue (n : ℕ) : (commandStart con cmd n).nextPacketQueue = con.nextPacketQueue := rfl

/-- **What a command changes.** -/
theorem commandSend_commanded (data : List UInt8) : Commanded cmd con (commandSend env con cmd data).1 := by
  unfold commandSend
  dsimp only
  have hd := @commandStart_data con cmd data.length
  have hq := @commandStart_nextPacketQueue con cmd data.length
  generalize commandStart con cmd data.length = con₀ at hd hq ⊢
  split_ifs
  · exact commandSendCompressed_commanded env con hd hq data
  · exact commandSendPlain_commanded env con hd hq data

end Commands

/-! ### Packets -/

/-- The number of columns that the header of a result announces, in the 16 bits it is kept in. -/
def headerCount (con : Con) : ℕ := uint16 (unpackLength con.buf.mem con.buf.bufferReadPtr).length

/-- The array for the columns of a result, if it can be had. -/
def newColumns (env : Env) (n : ℕ) : Option (List Column) :=
  if env.newArray n sizeofColumn then some (List.replicate n default) else none

/-- What reading a packet of a type may change, the read buffer and the row in it apart. -/
inductive Con.Reads (env : Env) (t : PacketType) (con : Con) : Con → Prop
  | passes {con' : Con} (h : con.Passes con') : Reads env t con con'
  /-- The definitions of the parameters end. -/
  | paramsEnd {con' : Con} (hs : con.commandStatus = .readStmtParam) (hl : con'.objects = con.objects)
    (hq : con'.definitions = con.definitions ∨ con'.definitions = .prepareColumn :: con.definitions) :
    Reads env t con con'
  /-- The header of a result. -/
  | header {con' : Con} (ht : t = .response ∨ t = .prepareResponse)
    (hb : con.peekByte 0 ∉ ([0x00, 0xff, 0xfe] : List UInt8))
    (hl : con'.objects = { con.objects with
      columnCount := headerCount con
      resultColumns := newColumns env (headerCount con) })
    (hq : con'.definitions = con.definitions ∨ con'.definitions = .column :: con.definitions)
    (hs : con'.commandStatus = .readColumn) : Reads env t con con'
  /-- The definition of a column of a result. -/
  | column {con' : Con} {columns : List Column} (c : Column) (ht : t = .column)
    (hc : con.result.columns = some columns) (hi : con.result.currentColumn < columns.length)
    (hl : con'.objects = { con.objects with
      resultColumns := some (columns.set con.result.currentColumn c)
      currentColumn := uint16 (con.result.currentColumn + 1 : ℕ) })
    (hq : con'.definitions = con.definitions ∨
      con'.definitions = .column :: con.definitions ∧ con'.result.currentColumn ≠ con.result.columnCount)
    (hs : con'.commandStatus = con.commandStatus) : Reads env t con con'
  /-- A packet of a prepare, which fills in the statement. -/
  | statement {con' : Con} {stmt : Stmt} (stmt' : Stmt) (ht : t.prepares = true) (hs : con.stmt = some stmt)
    (hl : con'.objects = { con.objects with stmt := some stmt' })
    (hq : con'.definitions = con.definitions ∨ ∃ t', t'.prepares = true ∧ con'.definitions = t' :: con.definitions) :
    Reads env t con con'

section Readers

lemma packetReadOk_passes : con.Passes (packetReadOk con) := by
  refine .same rfl rfl fun hs => absurd hs ?_
  show (if con.status = ConStatus.connecting then CommandStatus.connected else .eof) ≠ .readStmtParam
  split_ifs
  · decide
  · decide

lemma packetReadErr_passes : con.Passes (packetReadErr con) := .dropped rfl rfl (by exact CommandStatus.noConfusion)

lemma commandEof_passes : con.Passes (commandEof con) := .same rfl rfl fun hs => CommandStatus.noConfusion hs

/-- The end of the parameters of a prepare, behind the status word. -/
lemma paramsEnd_reads {t : PacketType} {con₁ : Con} (hs : con.commandStatus = .readStmtParam)
    (hl : con₁.objects = con.objects) (hq : con₁.nextPacketQueue = con.nextPacketQueue) :
    con.Reads env t (packetReadEnd (packetQueuePush env con₁ .prepareColumn)) := by
  have hpush := @definitions_push env con₁ .prepareColumn rfl
  have hsame : con₁.definitions = con.definitions := congrArg (List.filter PacketType.defines) hq
  rw [hsame] at hpush
  exact .paramsEnd hs ((packetQueuePush_objects env con₁ _).trans hl) hpush

lemma packetReadEof_reads (t : PacketType) : con.Reads env t (packetReadEof env con) := by
  unfold packetReadEof
  dsimp only
  split
  · refine .passes (.after (packetReadEnd_passes _) ((push_passes env _ rfl).after ?_))
    exact .same rfl rfl fun hs => CommandStatus.noConfusion hs
  · next hs =>
    split
    · exact .passes (.same rfl rfl id)
    · split_ifs
      · exact paramsEnd_reads env con hs rfl rfl
      · exact .passes ((commandEof_passes _).after (.same rfl rfl id))
  · exact .passes ((commandEof_passes _).after (.same rfl rfl id))

lemma packetReadHeader_reads {t : PacketType} (ht : t = .response ∨ t = .prepareResponse)
    (hb : con.peekByte 0 ∉ ([0x00, 0xff, 0xfe] : List UInt8)) :
    con.Reads env t (packetReadHeader env con) := by
  unfold packetReadHeader
  dsimp only
  generalize hc : packetReadEnd _ = con₁
  have hl : con₁.objects = { con.objects with
      columnCount := headerCount con
      resultColumns := newColumns env (headerCount con) } := by
    rw [← hc]
    rfl
  have hq : con₁.definitions = con.definitions := by
    rw [← hc]
    rfl
  have hpush := @definitions_push env con₁ .column rfl
  rw [hq] at hpush
  exact .header ht hb ((packetQueuePush_objects env con₁ _).trans hl) hpush rfl

lemma packetReadResponse_reads {t : PacketType} (ht : t = .response ∨ t = .prepareResponse) :
    con.Reads env t (packetReadResponse env con) := by
  unfold packetReadResponse
  split_ifs with h₀ h₁ h₂
  · exact .passes (packetReadOk_passes con)
  · exact .passes (packetReadErr_passes con)
  · exact packetReadEof_reads env con t
  · exact packetReadHeader_reads env con ht (by simp [h₀, h₁, h₂])

/-- The connection after the definition of a column, before the next packet is expected. -/
def columnRead (con : Con) (column : Column) : Con :=
  let con := packetReadEnd { con with
    result.columns := con.result.columns.map (·.set con.result.currentColumn column)
    own := con.own.useResultColumns }
  { con with result.currentColumn := uint16 (con.result.currentColumn + 1 : ℕ) }

lemma packetReadColumn_of_some {column : Column}
    (hc : con.result.columns.bind (·[con.result.currentColumn]?) = some column) :
    packetReadColumn env con = packetQueuePush env (columnRead con (packetGetColumn con column))
      (if (columnRead con (packetGetColumn con column)).result.currentColumn = con.result.columnCount then .response
        else .column) := by
  unfold packetReadColumn
  rw [hc]
  rfl

lemma columnRead_objects {columns : List Column} (hc : con.result.columns = some columns) (column : Column) :
    (columnRead con column).objects = { con.objects with
      resultColumns := some (columns.set con.result.currentColumn column)
      currentColumn := uint16 (con.result.currentColumn + 1 : ℕ) } := by
  have hset : (columnRead con column).objects = { con.objects with
      resultColumns := con.result.columns.map (·.set con.result.currentColumn column)
      currentColumn := uint16 (con.result.currentColumn + 1 : ℕ) } := rfl
  rw [hset, hc, Option.map_some]

lemma packetQueuePush_result (t : PacketType) : (packetQueuePush env con t).result = con.result := by
  have hdata := congrArg Data.result (packetQueuePush_data env con t)
  exact hdata

lemma packetReadColumn_reads : con.Reads env .column (packetReadColumn env con) := by
  cases hc : con.result.columns.bind (·[con.result.currentColumn]?) with
  | none =>
    unfold packetReadColumn
    rw [hc]
    exact .passes (.same rfl rfl id)
  | some column =>
    obtain ⟨columns, hcolumns, hget⟩ := Option.bind_eq_some_iff.mp hc
    obtain ⟨hi, -⟩ := List.getElem?_eq_some_iff.mp hget
    rw [packetReadColumn_of_some env con hc]
    have hl := columnRead_objects con hcolumns (packetGetColumn con column)
    have hq : (columnRead con (packetGetColumn con column)).definitions = con.definitions := rfl
    have hs : (columnRead con (packetGetColumn con column)).commandStatus = con.commandStatus := rfl
    generalize columnRead con (packetGetColumn con column) = con₁ at hl hq hs ⊢
    have hobjects := fun t => (packetQueuePush_objects env con₁ t).trans hl
    have hstatus := fun t => (packetQueuePush_commandStatus env con₁ t).trans hs
    split_ifs with hend
    · exact .column _ rfl hcolumns hi (hobjects _) (.inl ((definitions_push_other env con₁ rfl).trans hq)) (hstatus _)
    · refine .column _ rfl hcolumns hi (hobjects _) ?_ (hstatus _)
      rcases @definitions_push env con₁ .column rfl with hpush | hpush
      · exact .inl (hpush.trans hq)
      · refine .inr ⟨hpush.trans (congrArg _ hq), ?_⟩
        rwa [packetQueuePush_result]

/-! The packets of a prepare. -/

lemma prepareOkNext_data (paramCount columnCount : ℕ) :
    (prepareOkNext env con paramCount columnCount).objects = con.objects := by
  unfold prepareOkNext
  split_ifs
  · exact packetQueuePush_objects env con .prepareParameter
  · exact packetQueuePush_objects env con .prepareColumn
  · rfl

lemma prepareOkNext_definitions (paramCount columnCount : ℕ) :
    (prepareOkNext env con paramCount columnCount).definitions = con.definitions ∨
      ∃ t, t.prepares = true ∧ (prepareOkNext env con paramCount columnCount).definitions = t :: con.definitions := by
  unfold prepareOkNext
  split_ifs
  · exact (@definitions_push env con .prepareParameter rfl).imp_right fun hq => ⟨_, rfl, hq⟩
  · exact (@definitions_push env con .prepareColumn rfl).imp_right fun hq => ⟨_, rfl, hq⟩
  · exact .inl rfl

lemma packetReadPrepareOk_reads {stmt : Stmt} (hs : con.stmt = some stmt) :
    con.Reads env .prepareResponse (packetReadPrepareOk env con stmt) := by
  unfold packetReadPrepareOk
  dsimp only
  generalize prepareOkStmt env con.buf.mem (con.buf.bufferReadPtr + 1) stmt = stmt'
  generalize hc : ({ con with warningCount := _, stmt := _ } : Con) = con₁
  have hl : con₁.objects = { con.objects with stmt := some stmt' } := by
    rw [← hc]
    rfl
  have hq : con₁.definitions = con.definitions := by
    rw [← hc]
    rfl
  have hnext := prepareOkNext_definitions env con₁ stmt'.paramCount stmt'.columnCount
  rw [hq] at hnext
  exact .statement stmt' rfl hs ((prepareOkNext_data env con₁ _ _).trans hl) hnext

lemma packetReadPrepareResponse_reads : con.Reads env .prepareResponse (packetReadPrepareResponse env con) := by
  unfold packetReadPrepareResponse
  split_ifs
  · exact packetReadResponse_reads env con (.inr rfl)
  · split
    · exact .passes (.same rfl rfl id)
    · next stmt hs => exact packetReadPrepareOk_reads env con hs

/-- A packet of a prepare that is expected next after the statement was filled in, if it is no response. -/
lemma statement_reads {t : PacketType} (ht : t.prepares = true) {stmt stmt' : Stmt} (hs : con.stmt = some stmt)
    {p : Prop} [Decidable p] :
    con.Reads env t (packetQueuePush env (packetReadEnd { con with stmt := some stmt' }) (if p then .response else t)) := by
  have hd : t.defines = true := by
    unfold PacketType.defines
    simp only [ht, true_or, decide_true]
  have hl := fun u => packetQueuePush_objects env (packetReadEnd { con with stmt := some stmt' }) u
  split_ifs
  · exact .statement stmt' ht hs (hl _) (.inl (definitions_push_other env _ rfl))
  · exact .statement stmt' ht hs (hl _) ((definitions_push env _ hd).imp_right fun hq => ⟨t, ht, hq⟩)

lemma packetReadPrepareParameter_reads : con.Reads env .prepareParameter (packetReadPrepareParameter env con) := by
  unfold packetReadPrepareParameter
  split
  · exact .passes (.same rfl rfl id)
  · next stmt hs =>
    split
    · exact .passes (.same rfl rfl id)
    · exact statement_reads env con rfl hs

lemma packetReadPrepareColumn_reads : con.Reads env .prepareColumn (packetReadPrepareColumn env con) := by
  unfold packetReadPrepareColumn
  split
  · exact .passes (.same rfl rfl id)
  · next stmt hs => exact statement_reads env con rfl hs

/-! Rows and the handshake. -/

/-- Where the row stands is forgotten first. -/
lemma Con.Reads.of_row {t : PacketType} {con' : Con} {p : Option ℕ} {n : ℕ}
    (h : ({ con with result.rowData := p, result.rowLength := n } : Con).Reads env t con') : con.Reads env t con' := by
  cases h with
  | passes h => exact .passes (h.after (.same rfl rfl id))
  | paramsEnd hs hl hq => exact .paramsEnd hs hl hq
  | header ht hb hl hq hs => exact .header ht hb hl hq hs
  | column c ht hc hi hl hq hs => exact .column c ht hc hi hl hq hs
  | statement stmt' ht hs hl hq => exact .statement stmt' ht hs hl hq

lemma packetReadResponse_of_eof (h : con.peekByte 0 = 0xfe) : packetReadResponse env con = packetReadEof env con := by
  unfold packetReadResponse
  rw [h, if_neg (by decide), if_neg (by decide), if_pos rfl]

lemma packetReadRow_reads {t : PacketType} : con.Reads env t (packetReadRow env con) := by
  unfold packetReadRow
  split_ifs with h
  · have heof := packetReadResponse_of_eof env { con with result.rowData := none, result.rowLength := 0 } h
    rw [heof]
    exact .of_row env con (packetReadEof_reads env _ t)
  · exact .passes (.same rfl rfl fun hs => CommandStatus.noConfusion hs)

/-- A step of the send functions. -/
lemma Control.SendMove.cases {c c' : Control} {x : List Action} (h : Control.SendMove c x c') :
    (c'.queue = c.queue ∨ c'.queue = []) ∧
      (c'.commandStatus = .readStmtParam → c.commandStatus = .readStmtParam) := by
  cases h with
  | quiet h => exact ⟨.inl rfl, id⟩
  | fail site =>
    refine ⟨(ite_eq_or_eq (site.clears = true) [] c.queue).symm, ?_⟩
    cases site with
    | _ => first | exact id | exact fun hs => CommandStatus.noConfusion hs
  | await => exact ⟨.inl rfl, fun hs => CommandStatus.noConfusion hs⟩

lemma Control.send_of_path {c c' : Control} {x : List Action} (h : Path Control.SendMove c x c') :
    (c'.queue = c.queue ∨ c'.queue = []) ∧
      (c'.commandStatus = .readStmtParam → c.commandStatus = .readStmtParam) := by
  induction h with
  | refl => exact ⟨.inl rfl, id⟩
  | snoc _ hm ih =>
    obtain ⟨hq, hs⟩ := hm.cases
    refine ⟨?_, fun h => ih.2 (hs h)⟩
    rcases hq with hq | hq
    · rw [hq]
      exact ih.1
    · exact .inr hq

lemma startTls_sendOnly : con.SendOnly (startTls env con) := by
  have hrun : con.SendOnly (sslRun env { con with ssl.calls := con.ssl.calls + 1 }) :=
    (sslRun_wireOnly env _).sendOnly.after rfl
  have hdone : ∀ con₁ : Con, con₁.SendOnly { con₁ with ssl.handshakeDone := true } := fun _ => rfl
  unfold startTls
  split_ifs
  · exact hrun.trans (hdone _)
  · exact .refl

lemma sendData_data (data : List UInt8) : (sendData env con data).data = con.data := by
  have htls := (startTls_sendOnly env con).data_eq
  unfold sendData
  dsimp only
  generalize startTls env con = con₁ at htls ⊢
  split_ifs
  · exact (sendCompressedPacket_sendOnly env _ data none).data_eq.trans htls
  · split
    · next con' hw => exact (netWrite_wireOnly env _ hw).data_eq.trans htls
    · next con' name hw => exact (netWrite_wireOnly env _ hw).data_eq.trans htls

lemma sendWriteBuffer_passes (payload : List UInt8) : con.Passes (sendWriteBuffer env con payload) := by
  have hd := sendData_data env { con with writeBuffer := con.writeBuffer.store 0 payload } payload
  obtain ⟨x, -, hP⟩ := sendData_does env { con with writeBuffer := con.writeBuffer.store 0 payload } payload
  obtain ⟨hq, hs⟩ := Control.send_of_path hP
  refine ⟨objects_of_data hd, ?_, hs⟩
  rcases hq with hq | hq
  · exact .inl (congrArg (List.filter PacketType.defines) hq)
  · exact .inr (congrArg (List.filter PacketType.defines) hq)

lemma handshakeLogin_passes : con.Passes (handshakeLogin env con) := by
  have hsent := fun payload => (@push_passes env (sendWriteBuffer env con payload) .response rfl).after
    (sendWriteBuffer_passes env con payload)
  unfold handshakeLogin
  dsimp only
  split
  · exact .same rfl rfl id
  · exact hsent _
  · split
    · exact .same rfl rfl id
    · exact hsent _

lemma packetQueuePop_passes {t : PacketType} {q : List PacketType} (hq : con.nextPacketQueue = t :: q)
    (ht : t.defines = false) : con.Passes (packetQueuePop con) := by
  refine ⟨rfl, .inl ?_, id⟩
  unfold Con.definitions packetQueuePop
  rw [hq]
  exact (List.filter_cons_of_neg (Bool.eq_false_iff.mp ht)).symm

lemma popHandshakeSsl_passes (h : packetQueuePeek con = some .handshakeSsl) :
    con.Passes (packetQueuePop { con with ssl.enabled := true }) := by
  obtain ⟨q, hq⟩ : ∃ q, con.nextPacketQueue = .handshakeSsl :: q := List.head?_eq_some_iff.mp h
  have hpop := packetQueuePop_passes { con with ssl.enabled := true } hq rfl
  exact hpop.after (.same rfl rfl id)

lemma handshakeResponse_passes : con.Passes (handshakeResponse env con) := by
  have hpush : con.Passes (packetQueuePush env (sendWriteBuffer env con (handshakeHead con)) .handshakeSsl) :=
    (push_passes env _ rfl).after (sendWriteBuffer_passes env con _)
  unfold handshakeResponse
  by_cases hssl : con.ssl.ssl = true
  · rw [if_pos hssl]
    by_cases hcap : con.serverCapabilities.testBit capabilitySsl = true
    · rw [if_neg (not_not.mpr hcap)]
      dsimp only
      by_cases hpeek : packetQueuePeek con = some .handshakeSsl
      · rw [if_pos hpeek, if_pos hpeek]
        exact (popHandshakeSsl_passes con hpeek).trans (handshakeLogin_passes env _)
      · rw [if_neg hpeek]
        generalize packetQueuePush env (sendWriteBuffer env con (handshakeHead con)) .handshakeSsl = con₁ at hpush ⊢
        split_ifs with hpeek₁
        · exact hpush.trans ((popHandshakeSsl_passes con₁ hpeek₁).trans (handshakeLogin_passes env _))
        · exact hpush.trans (.same rfl rfl id)
    · rw [if_pos hcap]
      exact .dropped rfl rfl fun hs => CommandStatus.noConfusion hs
  · rw [if_neg hssl]
    exact handshakeLogin_passes env con

lemma checkOldAuth_passes : con.Passes (checkOldAuth con) := by
  unfold checkOldAuth
  split_ifs
  · exact .refl
  · exact .same rfl rfl id

/-- What is read from a handshake is kept in a few fields. -/
lemma handshakeFields_keeps {α : Type} (f : Con → α)
    (h : ∀ (version scramble : List UInt8) (thread capabilities s : ℕ) (charset : UInt8), f ({ con with
      serverVersion := version
      threadId := thread
      serverCapabilities := capabilities
      charset := charset
      serverStatus := s
      scrambleBuffer := scramble }.log (.reported s)) = f con) : f (handshakeFields con) = f con := by
  exact h _ _ _ _ _ _

lemma handshakeFields_passes : con.Passes (handshakeFields con) := by
  have hstatus := handshakeFields_keeps con Con.commandStatus fun _ _ _ _ _ _ => rfl
  exact .same (handshakeFields_keeps con Con.objects fun _ _ _ _ _ _ => rfl)
    (handshakeFields_keeps con Con.nextPacketQueue fun _ _ _ _ _ _ => rfl) fun hs => hstatus.symm.trans hs

lemma packetReadHandshake_passes : con.Passes (packetReadHandshake env con) := by
  have hfirst : con.Passes (if con.peekByte 0 = 0xff then packetReadResponse env con else con) := by
    split_ifs with h
    · rw [packetReadResponse_of_err env con h]
      exact packetReadErr_passes con
    · exact .refl
  unfold packetReadHandshake
  dsimp only
  generalize (if con.peekByte 0 = 0xff then packetReadResponse env con else con) = con₁ at hfirst ⊢
  split_ifs
  · exact hfirst.trans (.same rfl rfl id)
  · have hfields := handshakeFields_passes con₁
    have hauth := (checkOldAuth_passes (handshakeFields con₁)).trans (packetReadEnd_passes _)
    exact hfirst.trans (hfields.trans (hauth.trans (handshakeResponse_passes env _)))

/-- **What reading a packet may change.** -/
theorem packetDispatch_reads (t : PacketType) : con.Reads env t (packetDispatch env con t).con := by
  cases t with
  | handshake => exact .passes (packetReadHandshake_passes env con)
  | handshakeSsl => exact .passes (handshakeResponse_passes env con)
  | response => exact packetReadResponse_reads env con (.inl rfl)
  | prepareResponse => exact packetReadPrepareResponse_reads env con
  | prepareParameter => exact packetReadPrepareParameter_reads env con
  | prepareColumn => exact packetReadPrepareColumn_reads env con
  | column => exact packetReadColumn_reads env con
  | row => exact packetReadRow_reads env con
  | stmtRow => exact packetReadRow_reads env con

end Readers

/-- A packet that breaks the sequence. -/
lemma rejected_rest {con₁ : Con} (hd : con₁.data = con.data) (htls : con₁.tls = con.tls) (ht : con₁.trace = con.trace)
    (expected byte : UInt8) :
    con.Rest ((con₁.log (.checked false expected byte false)).readFailed .sequence .packetOutOfSequence) := by
  have htrace : ((con₁.log (.checked false expected byte false)).readFailed .sequence .packetOutOfSequence).trace =
      [.failed .sequence con₁.status con₁.serverErrno, .checked false expected byte false] ++ con.trace := by
    rw [← ht]
    rfl
  refine failed_rest con hd rfl (.inr (.inr rfl)) (.actions htls htrace ?_)
  exact List.forall_mem_cons.mpr ⟨rfl, List.forall_mem_singleton.mpr rfl⟩

/-- Until a packet is complete its length is noted at most. -/
lemma processPacket_waiting {b : BufferSt} (hb : con.readBuffer = some b)
    (h : ¬ (4 ≤ b.unreadData ∧ unpackInt3 b.mem b.bufferReadPtr + 4 ≤ b.unreadData)) :
    con.Rest (processPacket env con).con := by
  have hlen : ∀ n, con.Rest { con with packetSize := n } := fun n => .same rfl rfl rfl (.same rfl rfl)
  unfold processPacket
  split
  · exact .same rfl rfl rfl (.same rfl rfl)
  · split
    · exact .same rfl rfl rfl (.action rfl rfl rfl)
    · next b' hb' =>
      obtain rfl : b' = b := Option.some.inj (hb'.symm.trans hb)
      dsimp only
      split_ifs with h₁ h₂
      · exact .same rfl rfl rfl (.same rfl rfl)
      · exact hlen _
      · exact absurd ⟨by omega, by omega⟩ h

/-- **What a round of the packet loop does**: nothing, or it fails, or an accepted packet goes to its reader. -/
theorem processPacket_cases : con.Rest (processPacket env con).con ∨
    ∃ b seq payload t q, con.Holds b seq payload ∧ con.nextPacketQueue = t :: q ∧ con.Accepts t seq ∧
      (processPacket env con).con = (packetDispatch env (packetReady con b t seq payload.length) t).con := by
  cases hq : con.nextPacketQueue with
  | nil =>
    refine .inl ?_
    unfold processPacket
    rw [hq]
    exact .same rfl rfl rfl (.same rfl rfl)
  | cons t q =>
    cases hb : con.readBuffer with
    | none =>
      refine .inl ?_
      unfold processPacket
      rw [hq, hb]
      exact .same rfl rfl rfl (.action rfl rfl rfl)
    | some b =>
      by_cases hcomplete : 4 ≤ b.unreadData ∧ unpackInt3 b.mem b.bufferReadPtr + 4 ≤ b.unreadData
      · have hholds : con.Holds b (b.mem (b.bufferReadPtr + 3))
            (b.mem.slice (b.bufferReadPtr + 4) (unpackInt3 b.mem b.bufferReadPtr)) :=
          ⟨hb, rfl, (Memory.length_slice ..).symm, by rw [Memory.length_slice]; exact hcomplete.2,
            by rw [Memory.length_slice]⟩
        by_cases ha : con.Accepts t (b.mem (b.bufferReadPtr + 3))
        · exact .inr ⟨b, _, _, t, q, hholds, rfl, ha, congrArg Round.con (processPacket_accepted hholds hq ha)⟩
        · rw [processPacket_rejected hholds hq ha]
          refine .inl ?_
          exact @rejected_rest con (packetAwaited con t _) rfl rfl rfl _ _
      · exact .inl (processPacket_waiting env con hb hcomplete)

/-- The packet at the read pointer, if it is complete and bears the right number: the type it is read as, the address of
its payload, and the length of that. -/
def nextPacket (con : Con) : Option (PacketType × ℕ × ℕ) :=
  match con.nextPacketQueue, con.readBuffer with
  | t :: _, some b =>
    if 4 ≤ b.unreadData ∧ unpackInt3 b.mem b.bufferReadPtr + 4 ≤ b.unreadData ∧
        con.Accepts t (b.mem (b.bufferReadPtr + 3)) then
      some (t, b.bufferReadPtr + 4, unpackInt3 b.mem b.bufferReadPtr)
    else none
  | _, _ => none

lemma nextPacket_eq_some {t : PacketType} {p n : ℕ} (h : nextPacket con = some (t, p, n)) :
    ∃ b seq payload q, con.Holds b seq payload ∧ con.nextPacketQueue = t :: q ∧ con.Accepts t seq ∧
      p = b.bufferReadPtr + 4 ∧ n = payload.length := by
  unfold nextPacket at h
  split at h
  · next t' q b hq hb =>
    split_ifs at h with hc
    cases h
    obtain ⟨h₄, hcomplete, ha⟩ := hc
    refine ⟨b, _, b.mem.slice (b.bufferReadPtr + 4) (unpackInt3 b.mem b.bufferReadPtr), q, ⟨hb, rfl, ?_, ?_, ?_⟩, hq, ha,
      rfl, ?_⟩
    · rw [Memory.length_slice]
    · rw [Memory.length_slice]
      exact hcomplete
    · rw [Memory.length_slice]
    · rw [Memory.length_slice]
  · cases h

section Ready

variable {b : BufferSt} {t : PacketType} {seq : UInt8} {n : ℕ}

lemma packetReady_objects : (packetReady con b t seq n).objects = con.objects := by
  rw [packetReady_eq]
  rfl

lemma packetReady_nextPacketQueue : (packetReady con b t seq n).nextPacketQueue = con.nextPacketQueue.tail := by
  rw [packetReady_eq]

lemma packetReady_commandStatus : (packetReady con b t seq n).commandStatus = con.commandStatus := by
  rw [packetReady_eq]

lemma nextPacket_of_holds {payload : List UInt8} {q : List PacketType} (h : con.Holds b seq payload)
    (hq : con.nextPacketQueue = t :: q) (ha : con.Accepts t seq) :
    nextPacket con = some (t, b.bufferReadPtr + 4, payload.length) := by
  have hcomplete := h.complete
  unfold nextPacket
  rw [hq, h.buffer]
  dsimp only
  rw [h.seq_eq, h.length_eq]
  exact if_pos ⟨by omega, hcomplete, ha⟩

end Ready

/-! ### Network buffers -/

lemma allocBio_rest (suggestedSize : ℕ) : con.Rest (allocBio env con suggestedSize) := by
  unfold allocBio
  split_ifs
  · exact .same rfl rfl rfl (.same rfl rfl)
  · exact failed_rest con rfl rfl (.inr (.inl rfl)) (.action rfl rfl rfl)
  · exact .same rfl rfl rfl (.same rfl rfl)

lemma onAlloc_passes (suggestedSize : ℕ) : con.Passes (onAlloc env con suggestedSize).1 := by
  have hbio := (allocBio_rest env con suggestedSize).passes
  have hout : ∀ (con : Con) buffer, con.Passes (handOut con buffer).1 := fun con buffer => by
    cases buffer with
    | none => exact .same rfl rfl id
    | some b => exact .refl
  unfold onAlloc
  dsimp only
  generalize allocBio env con suggestedSize = con₁ at hbio ⊢
  split_ifs
  · exact hbio.trans ((hout _ _).after (.same rfl rfl id))
  · exact hbio.trans ((hout _ _).after (.same rfl rfl id))

lemma readInto_passes (bytes : List UInt8) : con.Passes (readInto con bytes) := by
  unfold readInto
  split
  · exact .refl
  · unfold storeRead
    split_ifs
    · exact .same rfl rfl id
    · exact .same rfl rfl id

lemma readFailed_passes (site : FailSite) (errcode : Ret) : con.Passes (con.readFailed site errcode) :=
  .dropped rfl rfl fun hs => CommandStatus.noConfusion hs

lemma decompressInto_passes (b c : BufferSt) (m n : ℕ) : con.Passes (decompressInto env con b c m n) := by
  unfold decompressInto
  dsimp only
  split_ifs
  · exact .same rfl rfl id
  · split
    · exact readFailed_passes con _ _
    · exact .same rfl rfl id

lemma decompressPacket_passes (c : BufferSt) (m n : ℕ) : con.Passes (decompressPacket env con c m n) := by
  unfold decompressPacket
  dsimp only
  split
  · exact .same rfl rfl id
  · exact (decompressInto_passes env _ _ _ _ _).after (.same rfl rfl id)

lemma checkCompressedSequence_passes (c : BufferSt) (n : ℕ) : con.Passes (checkCompressedSequence env con c n) := by
  unfold checkCompressedSequence
  dsimp only
  split_ifs
  · exact (readFailed_passes _ _ _).after (.same rfl rfl id)
  · exact (decompressPacket_passes env _ _ _ _).after (.same rfl rfl id)

lemma decompressReadBuffer_passes (c : BufferSt) : con.Passes (decompressReadBuffer env con c).1 := by
  unfold decompressReadBuffer
  dsimp only
  split_ifs
  · exact .refl
  · exact .refl
  · exact checkCompressedSequence_passes env con c _

lemma decompress_passes : con.Passes (Act.apply con (.decompress env)) := by
  unfold Act.apply
  dsimp only
  split
  · exact .refl
  · exact decompressReadBuffer_passes env con _

/-! ### Results -/

lemma requestRow_passes : con.Passes (requestRow env con) := by
  have hpush := @push_passes env ((packetReadEnd con).log .rowRequested) .row rfl
  have hstart : con.Passes ((packetReadEnd con).log .rowRequested) := .same rfl rfl id
  unfold requestRow
  generalize packetQueuePush env ((packetReadEnd con).log .rowRequested) .row = con₁ at hpush ⊢
  exact hstart.trans (hpush.trans (.same rfl rfl fun hs => CommandStatus.noConfusion hs))

/-- A further result starts from its first column. -/
lemma commandNextResult_cases : (commandNextResult env con).1 = con ∨
    ((commandNextResult env con).1.data = { con.data with result.currentColumn := 0 } ∧
      (commandNextResult env con).1.definitions = con.definitions ∧
      (commandNextResult env con).1.commandStatus = .readResponse) := by
  have hdata := packetQueuePush_data env ((resetInternals con).log (.nextResult con.status)) .response
  have hstart : ((resetInternals con).log (.nextResult con.status)).data =
      { con.data with result.currentColumn := 0 } := rfl
  have hdefinitions := @definitions_push_other env ((resetInternals con).log (.nextResult con.status)) .response rfl
  unfold commandNextResult
  split_ifs
  · exact .inr ⟨hdata.trans hstart, hdefinitions, rfl⟩
  · exact .inl rfl

lemma rowBufferGrow_passes : con.Passes (rowBufferGrow env con).1 := by
  unfold rowBufferGrow
  dsimp only
  split_ifs
  · exact .same rfl rfl id
  · exact .same rfl rfl id
  · exact .refl

lemma keepRow_passes : con.Passes (keepRow env con) := by
  have hgrow := rowBufferGrow_passes env con
  unfold keepRow
  generalize rowBufferGrow env con = r at hgrow ⊢
  obtain ⟨con₁, _ | _⟩ := r
  · exact hgrow
  · dsimp only
    split_ifs
    · exact hgrow.trans (.same rfl rfl id)
    · exact hgrow.trans (.same rfl rfl id)
    · exact hgrow

/-! ### Getters -/

/-- A getter fills in the arrays at most, or counts a buffered row as handed out. -/
structure Con.Fills (con con' : Con) : Prop where
  data_eq : con'.data = { con.data with
    columns := con'.columns, row := con'.row, stmtRow := con'.stmtRow, rowBufferPosition := con'.rowBufferPosition }
  queue_eq : con'.nextPacketQueue = con.nextPacketQueue
  commandStatus_eq : con'.commandStatus = con.commandStatus

namespace Con.Fills

variable {con con₁ con' : Con}

lemma trans (h : con.Fills con₁) (h' : con₁.Fills con') : con.Fills con' := by
  refine ⟨?_, h'.queue_eq.trans h.queue_eq, h'.commandStatus_eq.trans h.commandStatus_eq⟩
  rw [h'.data_eq, h.data_eq]

lemma objects_eq (h : con.Fills con') :
    con'.objects = { con.objects with columns := con'.columns, row := con'.row, stmtRow := con'.stmtRow } :=
  congrArg Data.objects h.data_eq

end Con.Fills

lemma writeRow_fills (row : List Cell) : con.Fills (writeRow con row).1 := by
  unfold writeRow
  split_ifs
  · exact ⟨rfl, rfl, rfl⟩
  · exact ⟨rfl, rfl, rfl⟩

/-- The array for a row, made when it is asked for the first time. -/
def newRow (env : Env) (con : Con) : Con :=
  { con with
    row := if con.row.isNone ∧ env.newArray con.result.columnCount sizeofCell then
        some (List.replicate con.result.columnCount ⟨0, 0⟩)
      else con.row
    own := con.own.newRow (env.newArray con.result.columnCount sizeofCell) }

lemma newRow_fills : con.Fills (newRow env con) := ⟨rfl, rfl, rfl⟩

lemma queryRowGet_eq (error : ErrorPtr) (hb : ¬ con.bufferRows = true) (hs : con.commandStatus = .rowInBuffer) :
    queryRowGet env con error =
      match (newRow env con).row with
      | none => (newRow env con, errorClientCreate env error errorCodeAlloc "82100" "Allocation failure for row", none)
      | some row => ((writeRow (newRow env con) row).1, error, (writeRow (newRow env con) row).2) := by
  unfold queryRowGet
  rw [if_neg hb, if_neg (not_not.mpr hs)]
  rfl

/-- Nothing is done without a row; else the array for it is made if there is none, and filled in. -/
lemma queryRowGet_cases (error : ErrorPtr) : (queryRowGet env con error).1 = con ∨
    (con.commandStatus = .rowInBuffer ∧ ((queryRowGet env con error).1 = newRow env con ∨
      ∃ row, (newRow env con).row = some row ∧ (queryRowGet env con error).1 = (writeRow (newRow env con) row).1)) := by
  by_cases hb : con.bufferRows = true
  · unfold queryRowGet
    rw [if_pos hb]
    exact .inl rfl
  by_cases hs : con.commandStatus = .rowInBuffer
  · rw [queryRowGet_eq env con error hb hs]
    refine .inr ⟨hs, ?_⟩
    cases hr : (newRow env con).row with
    | none => exact .inl rfl
    | some row => exact .inr ⟨row, rfl, rfl⟩
  · unfold queryRowGet
    rw [if_neg hb, if_pos hs]
    exact .inl rfl

lemma queryRowGet_fills (error : ErrorPtr) : con.Fills (queryRowGet env con error).1 := by
  rcases queryRowGet_cases env con error with h | ⟨-, h | ⟨row, -, h⟩⟩
  · rw [h]
    exact ⟨rfl, rfl, rfl⟩
  · rw [h]
    exact newRow_fills env con
  · rw [h]
    exact (newRow_fills env con).trans (writeRow_fills _ row)

lemma queryBufferRowGet_fills : con.Fills (queryBufferRowGet con).1 := by
  unfold queryBufferRowGet
  split_ifs
  · exact ⟨rfl, rfl, rfl⟩
  · exact ⟨rfl, rfl, rfl⟩

lemma queryColumnGet_fills (column : ℕ) : con.Fills (queryColumnGet con column).1 := by
  unfold queryColumnGet queryColumns
  split_ifs
  · exact ⟨rfl, rfl, rfl⟩
  · dsimp only
    split
    · exact ⟨rfl, rfl, rfl⟩
    · exact ⟨rfl, rfl, rfl⟩
    · exact ⟨rfl, rfl, rfl⟩

lemma writeStmtRow_fills (row : List StmtCell) (error : ErrorPtr) : con.Fills (writeStmtRow env con row error).1 := by
  unfold writeStmtRow
  split
  · dsimp only
    split_ifs
    · exact ⟨rfl, rfl, rfl⟩
    · exact ⟨rfl, rfl, rfl⟩
    · exact ⟨rfl, rfl, rfl⟩
  · exact ⟨rfl, rfl, rfl⟩

/-- The array for a row, made when it is asked for the first time. -/
def newStmtRow (env : Env) (con : Con) : Con :=
  { con with
    stmtRow := if con.stmtRow.isNone ∧ env.newArray con.result.columnCount sizeofStmtCell then
        some (List.replicate con.result.columnCount ⟨0, 0, columnTypeNull⟩)
      else con.stmtRow
    own := con.own.newStmtRow (env.newArray con.result.columnCount sizeofStmtCell) }

lemma statementRowGet_eq (error : ErrorPtr) : statementRowGet env con error =
    match (newStmtRow env con).stmtRow with
    | none => (newStmtRow env con, errorClientCreate env error errorCodeAlloc "82100" "Allocation failure for row", false)
    | some row => writeStmtRow env (newStmtRow env con) row error := rfl

lemma newStmtRow_fills : con.Fills (newStmtRow env con) := ⟨rfl, rfl, rfl⟩

lemma statementRowGet_fills (error : ErrorPtr) : con.Fills (statementRowGet env con error).1 := by
  rw [statementRowGet_eq]
  split
  · exact newStmtRow_fills env con
  · exact (newStmtRow_fills env con).trans (writeStmtRow_fills env _ _ error)

/-! ### Statements -/

/-- A new statement takes the place of the one there is, or there is none at all. -/
lemma prepareNow_cases (statement : List UInt8) :
    (env.newArray 1 sizeofStmt = true ∧
        Commanded .stmtPrepare { con with stmt := some Stmt.fresh } (prepareNow env con statement)) ∨
      (env.newArray 1 sizeofStmt = false ∧ (prepareNow env con statement).objects = { con.objects with stmt := none } ∧
        (prepareNow env con statement).nextPacketQueue = con.nextPacketQueue ∧
        (prepareNow env con statement).commandStatus = .sendFailed) := by
  unfold prepareNow
  split_ifs with h
  · exact .inl ⟨h, commandSend_commanded env _ statement⟩
  · exact .inr ⟨Bool.eq_false_iff.mpr h, rfl, rfl, rfl⟩

/-- The connection that `attachsql_statement_close` sends its command on. -/
def closingStatement (con : Con) (stmt : Stmt) : Con :=
  writeExtra (commandFree { con with stmtRow := none, own := con.own.freeStmtRow, stmt := none }) (packInt4 stmt.id)

lemma closingStatement_objects (stmt : Stmt) : (closingStatement con stmt).objects =
    { con.objects with stmt := none, stmtRow := none, resultColumns := none } := rfl

lemma closingStatement_nextPacketQueue (stmt : Stmt) :
    (closingStatement con stmt).nextPacketQueue = con.nextPacketQueue := rfl

lemma statementClose_of_some {stmt : Stmt} (hs : con.stmt = some stmt) :
    statementClose env con = (commandSend env (closingStatement con stmt) .stmtClose []).1 := by
  unfold statementClose
  dsimp only
  rw [hs]
  rfl

lemma statementClose_of_none (hs : con.stmt = none) :
    statementClose env con = { con with stmtRow := none, own := con.own.freeStmtRow } := by
  unfold statementClose
  dsimp only
  split
  · rfl
  · next stmt h =>
    rw [hs] at h
    cases h

/-- The statement is gone at once, and the command that closes it on the server is on its way. -/
lemma statementClose_cases :
    (con.stmt = none ∧ (statementClose env con).objects = { con.objects with stmtRow := none } ∧
        (statementClose env con).nextPacketQueue = con.nextPacketQueue ∧
        (statementClose env con).commandStatus = con.commandStatus) ∨
      (con.stmt.isSome = true ∧ ∃ con₁ : Con, con₁.objects = { con.objects with
          stmt := none, stmtRow := none, resultColumns := none } ∧
        con₁.nextPacketQueue = con.nextPacketQueue ∧ Commanded .stmtClose con₁ (statementClose env con)) := by
  cases hs : con.stmt with
  | none =>
    rw [statementClose_of_none env con hs]
    exact .inl ⟨rfl, rfl, rfl, rfl⟩
  | some stmt =>
    refine .inr ⟨rfl, closingStatement con stmt, closingStatement_objects con stmt,
      closingStatement_nextPacketQueue con stmt, ?_⟩
    rw [statementClose_of_some env con hs]
    exact commandSend_commanded env _ []

end LibAttachSql
