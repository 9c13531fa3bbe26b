import LibAttachSql.CompressedSend
import LibAttachSql.Acts
import LibAttachSql.BufferRuns

/-!
# Recorded capacities

A connection grows six kinds of arrays by hand: the queue of expected packets, the array of buffered rows, the buffer an
execution is built in, the two work buffers of the compressed send path, and the network buffers.  Each growth updates a
recorded size and a pointer in an order of its own.  Here the functions of the source run beside a record of what the
allocator really gave, and the steps are named after which a recorded size is still backed by memory.
-/

namespace LibAttachSql

open Lib

/-! ### Arrays -/

/-- A growable array: the capacity recorded for it and the elements in use, and the bytes that are allocated. -/
structure Extent where
  capacity : ℕ
  used : ℕ
  bytes : ℕ

/-- The recorded capacity is there, for elements of this size, and is not exceeded. -/
structure Extent.Backed (size : ℕ) (x : Extent) : Prop where
  real : x.capacity * size ≤ x.bytes
  used_le : x.used ≤ x.capacity

/-- A connection and one of its network buffers, with the bytes the allocator gave for the arrays and, where the source
counts no elements, the elements in use. -/
structure Arrays where
  con : Con
  rowBytes : ℕ
  execUsed : ℕ
  execBytes : ℕ
  uncompressedUsed : ℕ
  uncompressedBytes : ℕ
  compressedUsed : ℕ
  compressedBytes : ℕ
  buffer : BufferSt
  bufferBytes : ℕ

namespace Arrays

variable (s : Arrays)

/-- `next_packet_queue`. -/
def queue : Extent := ⟨s.con.nextPacketQueueSize, s.con.nextPacketQueue.length, s.con.nextPacketQueueBytes⟩

/-- `row_buffer`. -/
def rows : Extent := ⟨s.con.rowBufferAllocSize, s.con.rowBufferCount, s.rowBytes⟩

/-- The `exec_buffer` of the statement, if there is one. -/
def exec : Extent := ⟨(s.con.stmt.map (·.execBufferLength)).getD 0, s.execUsed, s.execBytes⟩

/-- `uncompressed_buffer`. -/
def uncompressed : Extent := ⟨s.con.uncompressedBufferLen, s.uncompressedUsed, s.uncompressedBytes⟩

/-- `compressed_buffer`. -/
def compressed : Extent := ⟨s.con.compressedBufferLen, s.compressedUsed, s.compressedBytes⟩

/-- A `buffer_st`. -/
def network : Extent := ⟨s.buffer.bufferSize, s.buffer.bufferUsed, s.bufferBytes⟩

/-- Every recorded capacity is real. -/
structure Backed : Prop where
  queue : s.queue.Backed 4
  rows : s.rows.Backed 8
  exec : s.exec.Backed 1
  uncompressed : s.uncompressed.Backed 1
  compressed : s.compressed.Backed 1
  network : s.network.Backed 1

end Arrays

/-! ### Operations -/

/-- What happens to the arrays. -/
inductive ArrayOp where
  | pushPacket (env : Env) (packetType : PacketType)
  | popPacket
  | dropPackets
  | bufferRow (env : Env)
  | closeQuery
  | newStatement
  | checkExec (env : Env) (required : ℕ)
  | storeExec (p : ℕ) (bs : List UInt8)
  | sendCompressed (env : Env) (header data : List UInt8) (command : Option Command)
  | network (op : BufferOp)

/-- `attachsql_stmt_check_buffer_size` on the statement of the connection. -/
def checkExec (env : Env) (con : Con) (required : ℕ) : Con :=
  match con.stmt.bind fun stmt => stmtCheckBufferSize env stmt required with
  | none => con
  | some stmt => { con with stmt := some stmt }

/-- What `realloc` leaves of the bytes of an array: those that are asked for, or those it had. -/
def regrown (malloc : Malloc) (bytes asked : ℕ) : ℕ := if (malloc.get asked).isSome then asked else bytes

/-- The bytes of a work buffer that is enlarged when it has not the required room. -/
def workBytes (env : Env) (len required bytes : ℕ) : ℕ :=
  if len < required then regrown env.malloc bytes (enlarge required) else bytes

/-- The bytes of the array of rows behind a row. -/
def rowBytesAfter (env : Env) (con : Con) (bytes : ℕ) : ℕ :=
  if con.rowBufferAllocSize ≤ con.rowBufferCount ∧ con.own.stale = false then
    regrown env.malloc bytes ((con.rowBufferAllocSize + bufferRowAllocSize) * 8)
  else bytes

/-- The bytes of the execution buffer behind a check of its size. -/
def execBytesAfter (env : Env) (con : Con) (required bytes : ℕ) : ℕ :=
  match con.stmt with
  | none => bytes
  | some stmt =>
    if stmt.execBufferLength < required then
      regrown env.malloc bytes
        (if stmt.execBufferLength = 0 then stmtExecDefaultSize else stmt.execBufferLength * 2)
    else bytes

/-- The bytes of a network buffer behind an operation on it. -/
def networkBytesAfter (b : BufferSt) (op : BufferOp) (bytes : ℕ) : ℕ :=
  match op with
  | .increase malloc => if b.shifts then bytes else regrown malloc bytes (sizeT (b.bufferSize * 2 : ℕ))
  | _ => bytes

namespace Arrays

/-- The arrays after a compressed packet. -/
def sendCompressed (s : Arrays) (env : Env) (header data : List UInt8) (command : Option Command) : Arrays :=
  let con := { s.con with packetHeader := header }
  let body := uncompressedBody con data command
  let compresses : Prop := RoomFor env con.uncompressedBufferLen body.length ∧ minimumCompressSize < data.length
  let len := enlarged con.compressedBufferLen (env.compressBound body.length)
  { s with
    con := sendCompressedPacket env con data command
    uncompressedUsed := if RoomFor env con.uncompressedBufferLen body.length then body.length else s.uncompressedUsed
    uncompressedBytes := workBytes env con.uncompressedBufferLen body.length s.uncompressedBytes
    compressedUsed :=
      if compresses ∧ RoomFor env con.compressedBufferLen (env.compressBound body.length) then
        ((env.compress body len).map (·.length)).getD s.compressedUsed
      else s.compressedUsed
    compressedBytes :=
      if compresses then workBytes env con.compressedBufferLen (env.compressBound body.length) s.compressedBytes
      else s.compressedBytes }

/-- What an operation does to the arrays. -/
def step (s : Arrays) : ArrayOp → Arrays
  | .pushPacket env packetType => { s with con := packetQueuePush env s.con packetType }
  | .popPacket => { s with con := packetQueuePop s.con }
  | .dropPackets => { s with con.nextPacketQueue := [] }
  | .bufferRow env =>
    { s with
      con := keepRow env s.con
      rowBytes := rowBytesAfter env s.con s.rowBytes }
  | .closeQuery =>
    { s with con := queryClose s.con, rowBytes := if 0 < s.con.rowBufferAllocSize then 0 else s.rowBytes }
  | .newStatement => { s with con.stmt := some .fresh, execUsed := 0, execBytes := 0 }
  | .checkExec env required =>
    { s with
      con := checkExec env s.con required
      execBytes := execBytesAfter env s.con required s.execBytes }
  | .storeExec p bs =>
    { s with
      con.stmt := s.con.stmt.map fun stmt => { stmt with execBuffer := stmt.execBuffer.store p bs }
      execUsed := max s.execUsed (p + bs.length) }
  | .sendCompressed env header data command => s.sendCompressed env header data command
  | .network op =>
    { s with
      buffer := op.apply s.buffer
      bufferBytes := networkBytesAfter s.buffer op s.bufferBytes }

end Arrays

/-- What is promised for an operation: the header of a packet has four bytes, and zlib stays in its buffer. -/
def ArrayOp.Legal : ArrayOp → Prop
  | .sendCompressed env header _ _ => header.length = 4 ∧ env.Zlib
  | _ => True

/-- The first queue is allocated, and a full one is not grown. -/
def QueueSound (env : Env) (con : Con) : Prop :=
  (con.nextPacketQueueSize = 0 → (env.malloc.get (4 * defaultPacketQueueSize)).isSome = true) ∧
    (con.nextPacketQueueSize ≠ 0 → con.nextPacketQueueSize ≤ con.nextPacketQueue.length →
      env.malloc.get (con.nextPacketQueueSize * 2) = none)

/-- The array of rows, when it is full, can be grown and was not released. -/
def RowsSound (env : Env) (con : Con) : Prop :=
  con.rowBufferAllocSize ≤ con.rowBufferCount →
    (env.malloc.get ((con.rowBufferAllocSize + bufferRowAllocSize) * 8)).isSome = true ∧ con.own.stale = false

/-- The condition for the recorded capacities to stay real: the one for the queue, the one for the array of rows, and
what is stored in the execution buffer or in a network buffer fits. -/
def ArrayOp.Sound (s : Arrays) : ArrayOp → Prop
  | .pushPacket env _ => QueueSound env s.con
  | .bufferRow env => RowsSound env s.con
  | .storeExec p bs => p + bs.length ≤ s.exec.capacity
  | .network (.append bs) => s.buffer.bufferUsed + bs.length ≤ s.buffer.bufferSize
  | _ => True

/-! ### The queue of expected packets -/

section Queue

variable (env : Env) (con : Con)

lemma packetQueueStore_extent (t : PacketType) {size bytes : ℕ} (hroom : 4 * (con.nextPacketQueue.length + 1) ≤ bytes) :
    packetQueueStore { con with nextPacketQueueSize := size, nextPacketQueueBytes := bytes } t =
      { con with
        nextPacketQueueSize := size, nextPacketQueueBytes := bytes, nextPacketQueue := t :: con.nextPacketQueue } :=
  if_pos hroom

/-- A queue whose first allocation succeeds and that is not grown when it is full stays real. -/
lemma queue_push {s : Arrays} (h : s.queue.Backed 4) {env : Env} (hs : QueueSound env s.con) (t : PacketType) :
    (Arrays.queue { s with con := packetQueuePush env s.con t }).Backed 4 := by
  have hreal : s.con.nextPacketQueueSize * 4 ≤ s.con.nextPacketQueueBytes := h.real
  have hused : s.con.nextPacketQueue.length ≤ s.con.nextPacketQueueSize := h.used_le
  unfold packetQueuePush
  split_ifs with hzero hfull
  · obtain ⟨block, hblock⟩ := Option.isSome_iff_exists.mp (hs.1 hzero)
    have hroom : 4 * (s.con.nextPacketQueue.length + 1) ≤ 4 * defaultPacketQueueSize := by
      unfold defaultPacketQueueSize
      omega
    simp only [hblock]
    rw [packetQueueStore_extent s.con t hroom]
    refine ⟨Nat.le_of_eq (Nat.mul_comm _ _), ?_⟩
    show s.con.nextPacketQueue.length + 1 ≤ defaultPacketQueueSize
    omega
  · simp only [hs.2 hzero hfull]
    exact h
  · have hroom : 4 * (s.con.nextPacketQueue.length + 1) ≤ s.con.nextPacketQueueBytes := by omega
    have hstore := @packetQueueStore_extent s.con t s.con.nextPacketQueueSize _ hroom
    rw [hstore]
    exact ⟨hreal, Nat.lt_of_not_le hfull⟩

end Queue

/-! ### Buffered rows -/

section Rows

variable (env : Env) (con : Con)

lemma rowBufferGrow_size :
    (rowBufferGrow env con).1.rowBufferAllocSize =
      if con.rowBufferAllocSize ≤ con.rowBufferCount then con.rowBufferAllocSize + bufferRowAllocSize
      else con.rowBufferAllocSize := by
  unfold rowBufferGrow
  dsimp only
  split_ifs <;> rfl

/-- A row touches the array of rows only. -/
lemma keepRow_frame :
    ∃ rowBuffer size count own trace, keepRow env con =
      { con with
        rowBuffer := rowBuffer, rowBufferAllocSize := size, rowBufferCount := count, own := own, trace := trace } ∧
      size = (rowBufferGrow env con).1.rowBufferAllocSize ∧ count ≤ con.rowBufferCount + 1 := by
  have hgrow : ∃ size own trace, (rowBufferGrow env con).1 =
      { con with rowBufferAllocSize := size, own := own, trace := trace } := by
    unfold rowBufferGrow
    dsimp only
    split_ifs
    · exact ⟨_, _, _, rfl⟩
    · exact ⟨_, _, _, rfl⟩
    · exact ⟨_, _, _, rfl⟩
  obtain ⟨size, own, trace, hgrow⟩ := hgrow
  unfold keepRow
  generalize rowBufferGrow env con = r at hgrow
  obtain ⟨con', ok⟩ := r
  obtain rfl : con' = _ := hgrow
  cases ok with
  | false => exact ⟨_, _, _, _, _, rfl, rfl, Nat.le_succ _⟩
  | true =>
    dsimp only
    split_ifs
    · exact ⟨_, _, _, _, _, rfl, rfl, Nat.le_succ _⟩
    · exact ⟨_, _, _, _, _, rfl, rfl, Nat.le_refl _⟩
    · exact ⟨_, _, _, _, _, rfl, rfl, Nat.le_succ _⟩

/-- The array of rows stays real when it is grown into memory. -/
lemma rows_bufferRow {s : Arrays} (h : s.rows.Backed 8) {env : Env} (hs : RowsSound env s.con) :
    (Arrays.rows { s with con := keepRow env s.con, rowBytes := rowBytesAfter env s.con s.rowBytes }).Backed 8 := by
  have hreal : s.con.rowBufferAllocSize * 8 ≤ s.rowBytes := h.real
  have hused : s.con.rowBufferCount ≤ s.con.rowBufferAllocSize := h.used_le
  obtain ⟨rowBuffer, size, count, own, trace, hkeep, hsize, hcount⟩ := keepRow_frame env s.con
  rw [rowBufferGrow_size] at hsize
  rw [hkeep]
  show (Extent.mk size count (rowBytesAfter env s.con s.rowBytes)).Backed 8
  unfold rowBytesAfter regrown
  by_cases hfull : s.con.rowBufferAllocSize ≤ s.con.rowBufferCount
  · obtain ⟨hmem, hlive⟩ := hs hfull
    rw [if_pos ⟨hfull, hlive⟩, if_pos hmem]
    rw [if_pos hfull] at hsize
    refine ⟨Nat.le_of_eq (by rw [hsize]), ?_⟩
    dsimp only
    unfold bufferRowAllocSize at hsize
    omega
  · rw [if_neg fun hn => hfull hn.1]
    rw [if_neg hfull] at hsize
    refine ⟨by rw [hsize]; exact hreal, ?_⟩
    dsimp only
    omega

end Rows

/-! ### The execution buffer -/

/-- A check of the size of the execution buffer keeps it real. -/
lemma exec_check {s : Arrays} (h : s.exec.Backed 1) (env : Env) (required : ℕ) :
    (Arrays.exec { s with
      con := checkExec env s.con required
      execBytes := execBytesAfter env s.con required s.execBytes }).Backed 1 := by
  unfold Arrays.exec checkExec execBytesAfter at *
  cases hstmt : s.con.stmt with
  | none =>
    rw [hstmt] at h
    simpa [hstmt] using h
  | some stmt =>
    rw [hstmt] at h
    have hreal : stmt.execBufferLength * 1 ≤ s.execBytes := h.real
    have hused : s.execUsed ≤ stmt.execBufferLength := h.used_le
    simp only [Option.bind_some, stmtCheckBufferSize]
    by_cases hlt : stmt.execBufferLength < required
    · rw [if_pos hlt, if_pos hlt]
      generalize hnew : (if stmt.execBufferLength = 0 then stmtExecDefaultSize else stmt.execBufferLength * 2) = newSize
      have hle : stmt.execBufferLength ≤ newSize := by
        rw [← hnew]
        split_ifs <;> omega
      unfold regrown
      split_ifs with hmem
      · exact ⟨Nat.le_of_eq (Nat.mul_one _), hused.trans hle⟩
      · simpa [hstmt] using h
    · rw [if_neg hlt, if_neg hlt]
      exact ⟨hreal, hused⟩

/-! ### Work buffers -/

lemma len_le_enlarged (len required : ℕ) : len ≤ enlarged len required := by
  have h := le_enlarged len required
  unfold enlarged at *
  split_ifs at * <;> omega

/-- A work buffer that has the required room, or is given it, is real. -/
lemma work_grown {env : Env} {len used used' required bytes : ℕ} (h : (Extent.mk len used bytes).Backed 1)
    (hroom : RoomFor env len required) (hused : used' ≤ enlarged len required) :
    (Extent.mk (enlarged len required) used' (workBytes env len required bytes)).Backed 1 := by
  refine ⟨?_, hused⟩
  have hreal : len * 1 ≤ bytes := h.real
  unfold RoomFor at hroom
  unfold workBytes regrown enlarged
  by_cases hlt : len < required
  · have hmem : (env.malloc.get (enlarge required)).isSome = true := by
      rw [Option.isSome_iff_ne_none]
      exact fun hnone => hroom ⟨hlt, by rw [hnone]; rfl⟩
    rw [if_pos hlt, if_pos hlt, if_pos hmem, Nat.mul_one]
  · rw [if_neg hlt, if_neg hlt]
    exact hreal

/-- A work buffer that cannot be given the required room keeps its bytes. -/
lemma work_kept {env : Env} {len required : ℕ} (hroom : ¬ RoomFor env len required) (bytes : ℕ) :
    workBytes env len required bytes = bytes := by
  obtain ⟨hlt, hnone⟩ := not_not.mp hroom
  unfold workBytes regrown
  rw [if_pos hlt, if_neg (by rw [Option.isSome_eq_false_iff.mpr hnone]; exact Bool.false_ne_true)]

lemma length_uncompressedBody {con : Con} (h : con.packetHeader.length = 4) (data : List UInt8)
    (command : Option Command) :
    (uncompressedBody con data command).length =
      data.length + 4 + if command.isSome then 1 + con.writeBufferExtra else 0 := by
  unfold uncompressedBody
  rw [List.length_append, h]
  cases command with
  | none => exact Nat.add_comm _ _
  | some c =>
    simp only [Option.isSome_some, if_true, List.cons_append, List.length_cons, List.length_append,
      Memory.length_slice]
    omega

/-- The recorded sizes of the work buffers behind a compressed packet. -/
lemma sendCompressedPacket_workSizes (env : Env) {con : Con} (h : con.packetHeader.length = 4) (data : List UInt8)
    (command : Option Command) :
    (sendCompressedPacket env con data command).workSizes =
      if RoomFor env con.uncompressedBufferLen (uncompressedBody con data command).length then
        (enlarged con.uncompressedBufferLen (uncompressedBody con data command).length,
          if minimumCompressSize < data.length ∧
              RoomFor env con.compressedBufferLen (env.compressBound (uncompressedBody con data command).length) then
            enlarged con.compressedBufferLen (env.compressBound (uncompressedBody con data command).length)
          else con.compressedBufferLen)
      else con.workSizes := by
  have hlength := length_uncompressedBody h data command
  unfold sendCompressedPacket
  dsimp only
  rw [← hlength]
  by_cases hroom : RoomFor env con.uncompressedBufferLen (uncompressedBody con data command).length
  · rw [if_neg hroom, if_pos hroom]
    by_cases hlong : minimumCompressSize < data.length
    · rw [if_pos hlong, compressPacket_workSizes]
      dsimp only
      by_cases hc : RoomFor env con.compressedBufferLen (env.compressBound (uncompressedBody con data command).length)
      · rw [if_neg hc, if_pos ⟨hlong, hc⟩]
      · have hno : ¬ (minimumCompressSize < data.length ∧ RoomFor env con.compressedBufferLen
            (env.compressBound (uncompressedBody con data command).length)) := fun hn => hc hn.2
        rw [if_pos (not_not.mp hc), if_neg hno]
        rfl
    · have hno : ¬ (minimumCompressSize < data.length ∧ RoomFor env con.compressedBufferLen
          (env.compressBound (uncompressedBody con data command).length)) := fun hn => hlong hn.1
      rw [if_neg hlong, if_neg hno, sendCompressedBuffers_workSizes]
      rfl
  · rw [if_pos (not_not.mp hroom), if_neg hroom]
    rfl

/-- **A compressed packet keeps the work buffers real.** -/
lemma work_sendCompressed {s : Arrays} (hu : s.uncompressed.Backed 1) (hc : s.compressed.Backed 1) {env : Env}
    (hz : env.Zlib) {header : List UInt8} (hh : header.length = 4) (data : List UInt8) (command : Option Command) :
    (s.sendCompressed env header data command).uncompressed.Backed 1 ∧
      (s.sendCompressed env header data command).compressed.Backed 1 := by
  have hsizes := @sendCompressedPacket_workSizes env { s.con with packetHeader := header } hh data command
  unfold Arrays.uncompressed Arrays.compressed Arrays.sendCompressed at *
  dsimp only at hsizes ⊢
  generalize uncompressedBody { s.con with packetHeader := header } data command = body at hsizes ⊢
  generalize sendCompressedPacket env { s.con with packetHeader := header } data command = con' at hsizes ⊢
  unfold Con.workSizes at hsizes
  by_cases hroom : RoomFor env s.con.uncompressedBufferLen body.length
  · rw [if_pos hroom, Prod.mk.injEq] at hsizes
    obtain ⟨hlen, hclen⟩ := hsizes
    rw [hlen, hclen, if_pos hroom]
    refine ⟨work_grown hu hroom (le_enlarged _ _), ?_⟩
    by_cases hlong : minimumCompressSize < data.length
    · have hboth : RoomFor env s.con.uncompressedBufferLen body.length ∧ minimumCompressSize < data.length :=
        ⟨hroom, hlong⟩
      simp only [hboth, true_and, and_self, if_true]
      by_cases hcroom : RoomFor env s.con.compressedBufferLen (env.compressBound body.length)
      · simp only [hcroom, if_true]
        refine work_grown hc hcroom ?_
        cases hdef : env.compress body (enlarged s.con.compressedBufferLen (env.compressBound body.length)) with
        | none => exact hc.used_le.trans (len_le_enlarged _ _)
        | some z => exact hz.fits hdef
      · simp only [hcroom, if_false]
        rw [work_kept hcroom]
        exact hc
    · simp only [hlong, false_and, and_false, if_false]
      exact hc
  · rw [if_neg hroom, Prod.mk.injEq] at hsizes
    obtain ⟨hlen, hclen⟩ := hsizes
    rw [hlen, hclen, if_neg hroom, work_kept hroom]
    simp only [hroom, false_and, if_false]
    exact ⟨hu, hc⟩

/-! ### Network buffers -/

lemma sizeT_natCast_le (n : ℕ) : sizeT n ≤ n := by
  unfold sizeT
  omega

/-- An operation keeps a network buffer real when what it appends fits. -/
lemma network_apply {s : Arrays} (h : s.network.Backed 1) (hmax : s.bufferBytes ≤ ptrdiffMax) {op : BufferOp}
    (hs : (ArrayOp.network op).Sound s) :
    (Arrays.network { s with
        buffer := op.apply s.buffer, bufferBytes := networkBytesAfter s.buffer op s.bufferBytes }).Backed 1 ∧
      networkBytesAfter s.buffer op s.bufferBytes ≤ ptrdiffMax := by
  have hreal : s.buffer.bufferSize * 1 ≤ s.bufferBytes := h.real
  have hused : s.buffer.bufferUsed ≤ s.buffer.bufferSize := h.used_le
  cases op with
  | append bs => exact ⟨⟨hreal, (sizeT_natCast_le _).trans hs⟩, hmax⟩
  | advance n => exact ⟨h, hmax⟩
  | setPacketEnd len => exact ⟨h, hmax⟩
  | packetReadEnd =>
    refine ⟨?_, hmax⟩
    unfold Arrays.network BufferOp.apply BufferSt.packetReadEnd
    dsimp only
    split_ifs
    · exact ⟨hreal, Nat.zero_le _⟩
    · exact h
  | increase malloc =>
    unfold Arrays.network BufferOp.apply BufferSt.increase networkBytesAfter
    dsimp only
    split_ifs with hshift
    · exact ⟨h, hmax⟩
    · unfold regrown
      cases hblock : malloc.get (sizeT (s.buffer.bufferSize * 2 : ℕ)) with
      | none => exact ⟨h, hmax⟩
      | some block =>
        have hdouble : sizeT (s.buffer.bufferSize * 2 : ℕ) = s.buffer.bufferSize * 2 :=
          sizeT_of_lt (by unfold ptrdiffMax at hmax; omega)
        refine ⟨⟨Nat.le_of_eq (Nat.mul_one _), ?_⟩, Malloc.get_le hblock⟩
        show s.buffer.bufferUsed ≤ sizeT (s.buffer.bufferSize * 2 : ℕ)
        omega

/-! ### Runs -/

/-- The capacities are real, and the allocator keeps to its largest object. -/
structure Arrays.Sane (s : Arrays) : Prop where
  backed : s.Backed
  bytes_le : s.bufferBytes ≤ ptrdiffMax

section Step

variable {s : Arrays}

lemma backed_pushPacket (h : s.Backed) {env : Env} {t : PacketType} (hs : (ArrayOp.pushPacket env t).Sound s) :
    (s.step (.pushPacket env t)).Backed := by
  obtain ⟨queue, size, bytes, trace, hpush⟩ := packetQueuePush_frame env s.con t
  have hqueue := queue_push h.queue hs t
  unfold Arrays.step
  dsimp only
  rw [hpush] at hqueue ⊢
  exact ⟨hqueue, h.rows, h.exec, h.uncompressed, h.compressed, h.network⟩

/-- Packets that are no longer expected make room. -/
lemma backed_fewerPackets (h : s.Backed) {queue : List PacketType} (hle : queue.length ≤ s.con.nextPacketQueue.length) :
    Arrays.Backed { s with con.nextPacketQueue := queue } :=
  ⟨⟨h.queue.real, hle.trans h.queue.used_le⟩, h.rows, h.exec, h.uncompressed, h.compressed, h.network⟩

lemma backed_bufferRow (h : s.Backed) {env : Env} (hs : (ArrayOp.bufferRow env).Sound s) :
    (s.step (.bufferRow env)).Backed := by
  obtain ⟨rowBuffer, size, count, own, trace, hkeep, -⟩ := keepRow_frame env s.con
  have hrows := rows_bufferRow h.rows hs
  unfold Arrays.step
  dsimp only
  rw [hkeep] at hrows ⊢
  exact ⟨h.queue, hrows, h.exec, h.uncompressed, h.compressed, h.network⟩

/-- The fields of a closed query that count the elements of an array. -/
lemma queryClose_frame (con : Con) :
    ∃ own result, queryClose con =
      { con with
        own := own, result := result, trace := .queryClosed (!con.bufferRows && con.own.rowShared) :: con.trace
        queryBufferAlloc := false, queryBufferLength := 0, columns := none, row := none
        inQuery := con.inQuery && con.serverStatus.testBit serverStatusMoreResults
        rowBufferAllocSize := 0, rowBufferPosition := 0, rowBufferCount := 0, allRowsBuffered := false } :=
  ⟨_, _, rfl⟩

lemma backed_closeQuery (h : s.Backed) : (s.step .closeQuery).Backed := by
  have hnone : ∀ bytes, (Extent.mk 0 0 bytes).Backed 8 := fun bytes => ⟨Nat.zero_le _, Nat.le_refl _⟩
  obtain ⟨own, result, hclose⟩ := queryClose_frame s.con
  unfold Arrays.step
  dsimp only
  rw [hclose]
  exact ⟨h.queue, hnone _, h.exec, h.uncompressed, h.compressed, h.network⟩

lemma backed_newStatement (h : s.Backed) : (s.step .newStatement).Backed := by
  have hnone : (Extent.mk 0 0 0).Backed 1 := ⟨Nat.le_refl _, Nat.le_refl _⟩
  exact ⟨h.queue, h.rows, hnone, h.uncompressed, h.compressed, h.network⟩

lemma backed_checkExec (h : s.Backed) (env : Env) (required : ℕ) : (s.step (.checkExec env required)).Backed := by
  have hexec := exec_check h.exec env required
  have hcon : ∃ stmt, checkExec env s.con required = { s.con with stmt := stmt } := by
    unfold checkExec
    split
    · exact ⟨s.con.stmt, rfl⟩
    · exact ⟨_, rfl⟩
  obtain ⟨stmt, hcon⟩ := hcon
  unfold Arrays.step
  dsimp only
  rw [hcon] at hexec ⊢
  exact ⟨h.queue, h.rows, hexec, h.uncompressed, h.compressed, h.network⟩

lemma backed_storeExec (h : s.Backed) {p : ℕ} {bs : List UInt8} (hs : (ArrayOp.storeExec p bs).Sound s) :
    (s.step (.storeExec p bs)).Backed := by
  refine ⟨h.queue, h.rows, ?_, h.uncompressed, h.compressed, h.network⟩
  have hreal := h.exec.real
  have hused := h.exec.used_le
  unfold ArrayOp.Sound at hs
  unfold Arrays.exec Arrays.step at *
  dsimp only at *
  cases hstmt : s.con.stmt with
  | none =>
    rw [hstmt] at hreal hused hs
    exact ⟨hreal, Nat.max_le.mpr ⟨hused, hs⟩⟩
  | some stmt =>
    rw [hstmt] at hreal hused hs
    exact ⟨hreal, Nat.max_le.mpr ⟨hused, hs⟩⟩

lemma backed_sendCompressed (h : s.Backed) {env : Env} {header data : List UInt8} {command : Option Command}
    (hl : (ArrayOp.sendCompressed env header data command).Legal) :
    (s.step (.sendCompressed env header data command)).Backed := by
  obtain ⟨huncompressed, hcompressed⟩ := work_sendCompressed h.uncompressed h.compressed hl.2 hl.1 data command
  have honly := sendCompressedPacket_sendOnly env { s.con with packetHeader := header } data command
  obtain ⟨x, -, hwritten, -⟩ := sendCompressedPacket_writes env { s.con with packetHeader := header } data command
  have hqueue : (sendCompressedPacket env { s.con with packetHeader := header } data command).nextPacketQueue =
      if x.any Action.fails then [] else s.con.nextPacketQueue := hwritten.queue
  refine ⟨⟨?_, ?_⟩, ?_, ?_, huncompressed, hcompressed, h.network⟩
  · have hsize := hwritten.queueSize
    have hbytes := hwritten.queueBytes
    have hreal := h.queue.real
    unfold Arrays.queue Arrays.step Arrays.sendCompressed at *
    exact (congrArg (· * 4) hsize).trans_le (hreal.trans_eq hbytes.symm)
  · have hused := h.queue.used_le
    have hle : (if x.any Action.fails then [] else s.con.nextPacketQueue).length ≤ s.con.nextPacketQueueSize := by
      split_ifs
      · exact Nat.zero_le _
      · exact hused
    rw [← hqueue] at hle
    exact hle.trans_eq hwritten.queueSize.symm
  · have halloc := congrArg Con.rowBufferAllocSize honly
    have hcount := congrArg Con.rowBufferCount honly
    have hrows := h.rows
    unfold Arrays.rows Arrays.step Arrays.sendCompressed at *
    dsimp only at *
    rw [halloc, hcount]
    exact hrows
  · have hstmt := congrArg Con.stmt honly
    have hexec := h.exec
    unfold Arrays.exec Arrays.step Arrays.sendCompressed at *
    dsimp only at *
    rw [hstmt]
    exact hexec

/-- **A sound operation keeps the recorded capacities real.** -/
lemma sane_step {op : ArrayOp} (h : s.Sane) (hl : op.Legal) (hs : op.Sound s) : (s.step op).Sane := by
  obtain ⟨h, hmax⟩ := h
  cases op with
  | pushPacket env t => exact ⟨backed_pushPacket h hs, hmax⟩
  | popPacket =>
    have hle : (s.con.nextPacketQueue.tail).length ≤ s.con.nextPacketQueue.length := by
      rw [List.length_tail]
      omega
    exact ⟨backed_fewerPackets h hle, hmax⟩
  | dropPackets => exact ⟨backed_fewerPackets h (Nat.zero_le _), hmax⟩
  | bufferRow env => exact ⟨backed_bufferRow h hs, hmax⟩
  | closeQuery => exact ⟨backed_closeQuery h, hmax⟩
  | newStatement => exact ⟨backed_newStatement h, hmax⟩
  | checkExec env required => exact ⟨backed_checkExec h env required, hmax⟩
  | storeExec p bs => exact ⟨backed_storeExec h hs, hmax⟩
  | sendCompressed env header data command => exact ⟨backed_sendCompressed h hl, hmax⟩
  | network op =>
    obtain ⟨hnetwork, hbytes⟩ := network_apply h.network hmax hs
    exact ⟨⟨h.queue, h.rows, h.exec, h.uncompressed, h.compressed, hnetwork⟩, hbytes⟩

end Step

/-! ### Building an execution

`attachsql_stmt_execute` is a run of checks and stores. -/

section Execution

variable {s : Arrays} {ops : List ArrayOp} {f : Fill}

@[simp] lemma Arrays.con_storeExec (p : ℕ) (bs : List UInt8) :
    (s.step (.storeExec p bs)).con =
      { s.con with stmt := s.con.stmt.map fun stmt => { stmt with execBuffer := stmt.execBuffer.store p bs } } := rfl

@[simp] lemma Arrays.con_checkExec (env : Env) (required : ℕ) :
    (s.step (.checkExec env required)).con = LibAttachSql.checkExec env s.con required := rfl

/-- The operations led to this stage of an execution, all of them sound unless a store has left the buffer. -/
structure Follows (s : Arrays) (ops : List ArrayOp) (f : Fill) : Prop where
  legal : ∀ op ∈ ops, op.Legal
  stmt_eq : (run Arrays.step s ops).con = { s.con with stmt := some f.stmt }
  sound : f.outside = false → Along Arrays.step (fun s op => op.Sound s) s ops

lemma Follows.exec_capacity (h : Follows s ops f) :
    (run Arrays.step s ops).exec.capacity = f.stmt.execBufferLength := by
  unfold Arrays.exec
  rw [h.stmt_eq]
  rfl

lemma Follows.put (h : Follows s ops f) (p : ℕ) (bs : List UInt8) :
    Follows s (ops ++ [.storeExec p bs]) (f.put p bs) := by
  refine ⟨?_, ?_, fun hout => ?_⟩
  · exact List.forall_mem_append.mpr ⟨h.legal, List.forall_mem_singleton.mpr trivial⟩
  · rw [run_append, run_cons, run_nil, Arrays.con_storeExec, h.stmt_eq]
    rfl
  · obtain ⟨hin, hfits⟩ := Bool.or_eq_false_iff.mp hout
    refine (along_append _ _ _).mpr ⟨h.sound hin, ?_, trivial⟩
    show p + bs.length ≤ (run Arrays.step s ops).exec.capacity
    rw [h.exec_capacity]
    exact not_lt.mp (decide_eq_false_iff_not.mp hfits)

lemma Follows.push (h : Follows s ops f) (bs : List UInt8) : ∃ ops, Follows s ops (f.push bs) :=
  ⟨_, (h.put f.pos bs).legal, (h.put f.pos bs).stmt_eq, (h.put f.pos bs).sound⟩

lemma Follows.check (h : Follows s ops f) {env : Env} {required : ℕ} {stmt : Stmt}
    (hc : stmtCheckBufferSize env f.stmt required = some stmt) :
    Follows s (ops ++ [.checkExec env required]) { f with stmt := stmt } := by
  refine ⟨?_, ?_, fun hout => (along_append _ _ _).mpr ⟨h.sound hout, trivial, trivial⟩⟩
  · exact List.forall_mem_append.mpr ⟨h.legal, List.forall_mem_singleton.mpr trivial⟩
  · rw [run_append, run_cons, run_nil, Arrays.con_checkExec, h.stmt_eq]
    unfold checkExec
    simp only [Option.bind_some, hc]

/-- A round of the loop over the parameters. -/
lemma Follows.fillParam (h : Follows s ops f) {env : Env} {i : ℕ} {p : StmtParam} {f' : Fill}
    (hf : fillParam env f i p = .ok f') : ∃ ops, Follows s ops f' := by
  unfold LibAttachSql.fillParam at hf
  by_cases hnull : p.type = columnTypeNull
  · rw [if_pos hnull] at hf
    cases hf
    exact ⟨ops, h⟩
  · rw [if_neg hnull] at hf
    dsimp only at hf
    generalize (if p.isUnsigned then p.type ||| stmtParamUnsignedBit else p.type) = type at hf
    have htype := h.put (f.typePos + i * 2) (packInt2 type)
    by_cases hlong : p.isLongData
    · rw [if_pos hlong] at hf
      cases hf
      exact ⟨_, htype⟩
    · rw [if_neg hlong] at hf
      cases hroom : stmtCheckBufferSize env (f.put (f.typePos + i * 2) (packInt2 type)).stmt sizeofDatetime with
      | none =>
        rw [hroom] at hf
        cases hf
      | some stmt =>
        rw [hroom] at hf
        have hchecked := htype.check hroom
        dsimp only at hf
        by_cases hstring : isStringType p.type
        · rw [if_pos hstring] at hf
          cases hlength : stmtCheckBufferSize env stmt p.length with
          | none =>
            rw [hlength] at hf
            cases hf
          | some stmt' =>
            rw [hlength] at hf
            cases hbytes : paramBytes p with
            | none =>
              rw [hbytes] at hf
              cases hf
            | some bs =>
              rw [hbytes] at hf
              cases hf
              exact (hchecked.check hlength).push bs
        · rw [if_neg hstring] at hf
          cases hbytes : paramBytes p with
          | none =>
            rw [hbytes] at hf
            cases hf
          | some bs =>
            rw [hbytes] at hf
            cases hf
            exact hchecked.push bs

/-- The loop over the parameters. -/
lemma Follows.fillParams {env : Env} {ps : List StmtParam} (h : Follows s ops f) {i : ℕ} {f' : Fill}
    (hf : fillParams env f i ps = .ok f') : ∃ ops, Follows s ops f' := by
  induction ps generalizing ops f i with
  | nil =>
    cases hf
    exact ⟨ops, h⟩
  | cons p ps ih =>
    unfold LibAttachSql.fillParams at hf
    cases hp : LibAttachSql.fillParam env f i p with
    | error e =>
      rw [hp] at hf
      cases hf
    | ok f₁ =>
      rw [hp] at hf
      obtain ⟨ops₁, h₁⟩ := h.fillParam hp
      exact ih h₁ hf

/-- **A payload that is built is built in the buffer**, by checks and stores that are all sound. -/
theorem execPayload_sound {env : Env} {stmt stmt' : Stmt} {payload : List UInt8} (hs : s.con.stmt = some stmt)
    (h : execPayload env stmt = .ok (stmt', payload)) :
    ∃ ops : List ArrayOp, (∀ op ∈ ops, op.Legal) ∧ Along Arrays.step (fun s op => op.Sound s) s ops ∧
      (run Arrays.step s ops).con = { s.con with stmt := some stmt' } := by
  have hstart : Follows s [] { stmt := stmt, typePos := 0, pos := 0, outside := false } := by
    refine ⟨fun _ hop => (List.not_mem_nil hop).elim, ?_, fun _ => trivial⟩
    rw [run_nil, ← hs]
  unfold execPayload at h
  cases hroom : stmtCheckBufferSize env stmt 2060 with
  | none =>
    rw [hroom] at h
    cases h
  | some grown =>
    rw [hroom] at h
    dsimp only at h
    by_cases hcount : ((grown.paramData.getD []).take grown.paramCount).length ≠ grown.paramCount
    · rw [if_pos hcount] at h
      cases h
    rw [if_neg hcount] at h
    obtain ⟨ops₁, hhead⟩ := (hstart.check hroom).push (packInt4 grown.id ++ [0] ++ packInt4 1 ++
      nullBitmap ((grown.paramData.getD []).take grown.paramCount) ++ [if grown.newBind then 1 else 0])
    generalize hloop : fillParams env _ 0 _ = r at h
    cases r with
    | error e => cases h
    | ok f =>
      obtain ⟨ops₂, hfilled⟩ := @Follows.fillParams s ops₁ _ env _
        (by exact ⟨hhead.legal, hhead.stmt_eq, hhead.sound⟩) _ _ hloop
      simp only [Except.bind] at h
      split_ifs at h with hin
      cases h
      refine ⟨ops₂, hfilled.legal, hfilled.sound ?_, hfilled.stmt_eq⟩
      exact Bool.eq_false_iff.mpr fun hout => hin (.inl hout)

end Execution

/-- A new connection, before any of its arrays is allocated, and a new network buffer. -/
def Arrays.fresh (con : Con) (buffer : BufferSt) : Arrays where
  con := con
  rowBytes := 0
  execUsed := 0
  execBytes := 0
  uncompressedUsed := 0
  uncompressedBytes := 0
  compressedUsed := 0
  compressedBytes := 0
  buffer := buffer
  bufferBytes := defaultBufferSize

lemma fresh_sane (port : ℕ) (user : List UInt8) (pass : Option (List UInt8)) (schema : List UInt8) {malloc : Malloc}
    {buffer : BufferSt} (hb : bufferCreate malloc = some buffer) :
    (Arrays.fresh (.fresh port user pass schema) buffer).Sane := by
  have hnone : ∀ size, (Extent.mk 0 0 0).Backed size := fun size => ⟨(Nat.zero_mul size).le, Nat.le_refl _⟩
  unfold bufferCreate at hb
  cases hm : malloc.get defaultBufferSize with
  | none =>
    rw [hm] at hb
    cases hb
  | some block =>
    rw [hm] at hb
    cases hb
    exact ⟨⟨hnone 4, hnone 8, hnone 1, hnone 1, hnone 1, ⟨Nat.le_of_eq (Nat.mul_one _), Nat.zero_le _⟩⟩, Malloc.get_le hm⟩

/-- **The recorded capacities stay real** in every run that grows no full queue of expected packets, grows a full array
of rows only into memory and only while it has not been released, is given the memory for the first queue, and stores
in the execution buffer and in the network buffer what fits. -/
theorem capacities_real (port : ℕ) (user : List UInt8) (pass : Option (List UInt8)) (schema : List UInt8)
    {malloc : Malloc} {buffer : BufferSt} (hb : bufferCreate malloc = some buffer) (ops : List ArrayOp)
    (hl : ∀ op ∈ ops, op.Legal)
    (hs : Along Arrays.step (fun s op => op.Sound s) (.fresh (.fresh port user pass schema) buffer) ops) :
    Throughout Arrays.step Arrays.Backed (.fresh (.fresh port user pass schema) buffer) ops := by
  have hstep : ∀ s op, Arrays.Sane s → op.Legal ∧ op.Sound s → Arrays.Sane (Arrays.step s op) :=
    fun s op h hop => sane_step h hop.1 hop.2
  exact throughout_of_invariant hstep (fun s h => h.backed) (fresh_sane port user pass schema hb)
    ((along_of_forall hl _).and hs)

/-- A new connection of user `t` with a buffer at address 4096. -/
def Arrays.low : Arrays := .fresh (.fresh 3306 [0x74] none []) lowBuffer

/-- An environment without memory. -/
def Env.starved : Env := { Env.calm with malloc := fun _ => none }

/-- A query that expects a packet, gets its row, buffers it and is closed, and a packet read into the network buffer. -/
def shortRun : List ArrayOp := [
  .pushPacket .calm .response,
  .popPacket,
  .bufferRow .calm,
  .network (.append [1, 2, 3]),
  .closeQuery,
  .newStatement,
  .checkExec .calm 2060,
  .storeExec 0 [1, 2]]

theorem capacities_real_short : Throughout Arrays.step Arrays.Backed .low shortRun := by
  have hl : ∀ op ∈ shortRun, op.Legal := by
    simp [shortRun, ArrayOp.Legal]
  have hs : Along Arrays.step (fun s op => op.Sound s) .low shortRun := by
    refine ⟨⟨fun _ => rfl, fun h => absurd rfl h⟩, trivial, fun _ => ⟨rfl, rfl⟩, ?_, trivial, trivial, trivial, ?_, trivial⟩
    · show (0 : ℕ) + 3 ≤ 1048576
      decide
    · show (0 : ℕ) + 2 ≤ 16384
      decide
  exact capacities_real 3306 [0x74] none [] bufferCreate_lowMalloc shortRun hl hs

/-- 65 packets are expected. -/
def fullQueue : List ArrayOp := List.replicate 65 (.pushPacket .calm .response)

/-- The 65th expectation doubles the size of the queue and leaves its memory as it was; a first queue or a first array of
rows that could not be allocated has its size all the same. -/
theorem capacities_not_real :
    (∀ op ∈ fullQueue, op.Legal) ∧
      ¬ Throughout Arrays.step Arrays.Backed .low fullQueue ∧
      ¬ Throughout Arrays.step Arrays.Backed .low [.pushPacket .starved .response] ∧
      ¬ Throughout Arrays.step Arrays.Backed .low [.bufferRow .starved] := by
  have hend : ∀ ops, Throughout Arrays.step Arrays.Backed .low ops → (run Arrays.step .low ops).Backed :=
    fun ops h => throughout_iff_run.mp h ops List.prefix_rfl
  refine ⟨fun op hop => ?_, fun h => absurd (hend _ h).queue.real ?_, fun h => absurd (hend _ h).queue.real ?_,
    fun h => absurd (hend _ h).rows.real ?_⟩
  · rw [List.eq_of_mem_replicate hop]
    trivial
  · decide +kernel
  · decide +kernel
  · decide +kernel

end LibAttachSql
