import LibAttachSql.ActFrames
import LibAttachSql.CompressedReceive

/-!
# The bytes of a row

A row is handed to the application as a pointer into the read buffer, and so are the columns taken from it.  The event
loop goes on reading into that buffer while the application holds the row.  Bytes that are appended do no harm; a
buffer that is shifted or moved to another block takes the bytes away from under the pointer.  Here a row is
followed from the packet that brings it to the call that gives it up.
-/

namespace LibAttachSql

open Lib

/-! ### Bytes at an address of a buffer -/

/-- The buffer is well formed and has these bytes at this address, in the part that is in use. -/
structure BufferSt.Shows (b : BufferSt) (p : ℕ) (bytes : List UInt8) : Prop where
  wf : b.Wf
  start_le : b.buffer ≤ p
  le_write : p + bytes.length ≤ b.bufferWritePtr
  slice_eq : b.mem.slice p bytes.length = bytes

/-- If the buffer is asked to grow, it grows where it is or not at all. -/
def BufferSt.StaysPut (b : BufferSt) (malloc : Malloc) : Prop :=
  b.shifts = false ∧ ∀ block ∈ malloc.get (sizeT (b.bufferSize * 2 : ℕ)), block.base = b.buffer

instance (b : BufferSt) (malloc : Malloc) : Decidable (b.StaysPut malloc) := by
  unfold BufferSt.StaysPut
  infer_instance

namespace BufferSt.Shows

variable {b : BufferSt} {p : ℕ} {bytes bs : List UInt8}

/-- What is appended comes behind. -/
lemma append (h : b.Shows p bytes) (hfit : bs.length ≤ b.freeTail) : (b.append bs).Shows p bytes := by
  have hstart := h.start_le
  have hwrite := h.le_write
  have hsize := h.wf.write_le_end
  unfold freeTail at hfit
  refine ⟨h.wf.append (by omega), hstart, ?_, ?_⟩
  · rw [append_writePtr]
    omega
  · rw [append_mem, Memory.slice_store_of_disjoint (.inl hwrite)]
    exact h.slice_eq

lemma regrow (h : b.Shows p bytes) {block : Block} (hbase : block.base = b.buffer)
    (hs : b.bufferSize * 2 ≤ ptrdiffMax) : (b.regrow block).Shows p bytes := by
  have hstart := h.start_le
  have hwrite := h.le_write
  have hsize := h.wf.write_le_end
  have hp : block.base + (p - b.buffer) = p := by omega
  refine ⟨(h.wf.regrow block hs).1, hbase.le.trans hstart, ?_, ?_⟩
  · rw [h.wf.regrow_writePtr]
    omega
  · have hslice := @regrow_slice b block p bytes.length hstart (by omega)
    rw [hp] at hslice
    exact hslice.trans h.slice_eq

lemma increase (h : b.Shows p bytes) {malloc : Malloc} (hput : b.StaysPut malloc) :
    (b.increase malloc).2.Shows p bytes := by
  have hsize := h.wf.size_le
  unfold BufferSt.increase
  rw [if_neg (Bool.eq_false_iff.mp hput.1)]
  cases hm : malloc.get (sizeT (b.bufferSize * 2 : ℕ)) with
  | none => exact h
  | some block =>
    have hle := Malloc.get_le hm
    rw [sizeT_of_lt (by unfold ptrdiffMax at hsize; omega)] at hle
    exact h.regrow (hput.2 block hm) hle

end BufferSt.Shows

/-- The buffer after room for so many bytes was asked for. -/
def BufferSt.withRoom (b : BufferSt) (env : Env) (n : ℕ) : BufferSt :=
  if b.available < n then (b.increase env.malloc).2 else b

/-- Asking for room leaves the bytes where they are. -/
lemma BufferSt.Shows.withRoom {b : BufferSt} {p : ℕ} {bytes : List UInt8} (h : b.Shows p bytes) {env : Env} {n : ℕ}
    (hput : b.available < n → b.StaysPut env.malloc) : (b.withRoom env n).Shows p bytes := by
  unfold BufferSt.withRoom
  split_ifs with hlt
  · exact h.increase (hput hlt)
  · exact h

/-! ### What arrives -/

section Arrivals

variable (env : Env) (con : Con) {b : BufferSt}

lemma allocBuffer_some (b : BufferSt) (n : ℕ) : allocBuffer env (some b) n = some (b.withRoom env n) := by
  show (if b.available < n then some (b.increase env.malloc).2 else some b) = some (b.withRoom env n)
  unfold BufferSt.withRoom
  split_ifs
  · rfl
  · rfl

lemma readRoom_of_some (hb : con.readBuffer = some b) (n : ℕ) : readRoom env con n = some (b.withRoom env n) := by
  unfold readRoom
  rw [hb]
  exact allocBuffer_some env b n

lemma onAlloc_view (n : ℕ) (hb : con.readBuffer = some b) :
    (onAlloc env con n).1.result = con.result ∧ ((onAlloc env con n).1.readBuffer = some b ∨
      con.options.compression = false ∧ (onAlloc env con n).1.readBuffer = some (b.withRoom env n)) := by
  have hdata := (allocBio_rest env con n).data_eq
  have hresult : (allocBio env con n).result = con.result := congrArg Data.result hdata
  have hbuffer : (allocBio env con n).readBuffer = con.readBuffer := congrArg Data.readBuffer hdata
  have hoptions : (allocBio env con n).options = con.options := by
    unfold allocBio
    split_ifs
    · rfl
    · rfl
    · rfl
  have hout : ∀ (con : Con) buffer, (handOut con buffer).1.result = con.result ∧
      (handOut con buffer).1.readBuffer = con.readBuffer := fun con buffer => by
    cases buffer with
    | none => exact ⟨rfl, rfl⟩
    | some b => exact ⟨rfl, rfl⟩
  unfold onAlloc
  dsimp only
  generalize allocBio env con n = con₁ at hresult hbuffer hoptions ⊢
  rw [hoptions]
  by_cases hc : con.options.compression = true
  · rw [if_pos hc]
    exact ⟨(hout _ _).1.trans hresult, .inl ((hout _ _).2.trans (hbuffer.trans hb))⟩
  · rw [if_neg hc, hbuffer, hb, allocBuffer_some]
    exact ⟨(hout _ _).1.trans hresult, .inr ⟨Bool.eq_false_iff.mpr hc, (hout _ _).2⟩⟩

lemma readInto_view (bytes : List UInt8) (hb : con.readBuffer = some b) :
    (readInto con bytes).result = con.result ∧ ((readInto con bytes).readBuffer = some b ∨
      con.options.compression = false ∧ (readInto con bytes).readBuffer = some (b.append bytes)) := by
  unfold readInto storeRead
  by_cases hc : con.options.compression = true
  · rw [if_pos hc]
    split
    · exact ⟨rfl, .inl hb⟩
    · rw [if_pos hc]
      exact ⟨rfl, .inl hb⟩
  · rw [if_neg hc, hb]
    dsimp only
    rw [if_neg hc]
    exact ⟨rfl, .inr ⟨Bool.eq_false_iff.mpr hc, rfl⟩⟩

/-- The length in the header of the compressed packet at the read pointer, and that of what it was before. -/
def compressedLength (c : BufferSt) : ℕ := unpackInt3 c.mem c.bufferReadPtr

def plainLength (c : BufferSt) : ℕ := unpackInt3 c.mem (c.bufferReadPtr + 4)

/-- What the compressed packet at the read pointer adds to the read buffer `b`. -/
def decompressed (env : Env) (b c : BufferSt) : List UInt8 :=
  let body := c.mem.slice (c.bufferReadPtr + 7) (compressedLength c)
  if plainLength c = 0 then body else (env.uncompress body b.available).getD []

lemma decompressInto_view (b c : BufferSt) (hb : con.readBuffer = some b) (m n : ℕ) :
    (decompressInto env con b c m n).result = con.result ∧
      ((decompressInto env con b c m n).readBuffer = some b ∨
        (decompressInto env con b c m n).readBuffer = some (b.append (if n = 0 then c.mem.slice c.bufferReadPtr m
          else (env.uncompress (c.mem.slice c.bufferReadPtr m) b.available).getD []))) := by
  unfold decompressInto
  dsimp only
  by_cases hn : n = 0
  · rw [if_pos hn, if_pos hn]
    exact ⟨rfl, .inr rfl⟩
  · rw [if_neg hn, if_neg hn]
    cases env.uncompress (c.mem.slice c.bufferReadPtr m) b.available with
    | none => exact ⟨rfl, .inl hb⟩
    | some out => exact ⟨rfl, .inr rfl⟩

lemma decompressReadBuffer_view (c : BufferSt) (hb : con.readBuffer = some b) :
    (decompressReadBuffer env con c).1.result = con.result ∧ ((decompressReadBuffer env con c).1.readBuffer = some b ∨
      7 ≤ c.unreadData ∧ ((decompressReadBuffer env con c).1.readBuffer = some (b.withRoom env (plainLength c)) ∨
        (decompressReadBuffer env con c).1.readBuffer = some ((b.withRoom env (plainLength c)).append
          (decompressed env (b.withRoom env (plainLength c)) c)))) := by
  unfold decompressReadBuffer
  dsimp only
  by_cases hheader : c.unreadData < 7
  · rw [if_pos hheader]
    exact ⟨rfl, .inl hb⟩
  by_cases hbody : c.unreadData < unpackInt3 c.mem c.bufferReadPtr + 7
  · rw [if_neg hheader, if_pos hbody]
    exact ⟨rfl, .inl hb⟩
  rw [if_neg hheader, if_neg hbody]
  unfold checkCompressedSequence
  dsimp only
  split_ifs
  · exact ⟨rfl, .inl hb⟩
  · generalize hcon : (Con.log _ _ : Con) = con₁
    have hresult : con₁.result = con.result := by
      rw [← hcon]
      rfl
    have hbuffer : con₁.readBuffer = some b := by
      rw [← hcon]
      exact hb
    have hroom := readRoom_of_some env con₁ hbuffer (unpackInt3 c.mem (c.bufferReadPtr + 4))
    obtain ⟨con₂, hresult₂, hbuffer₂, -, -, hinto⟩ :=
      @decompressPacket_of_room env con₁ (c.advance 7) _ (unpackInt3 c.mem c.bufferReadPtr) _ hroom
    rw [hinto]
    obtain ⟨hsame, hview⟩ := decompressInto_view env con₂ _ ((c.advance 7).setPacketEnd _) hbuffer₂
      (unpackInt3 c.mem c.bufferReadPtr) (unpackInt3 c.mem (c.bufferReadPtr + 4))
    exact ⟨hsame.trans (hresult₂.trans hresult), .inr ⟨by omega, hview⟩⟩

end Arrivals

/-! ### The packet of a row -/

/-- The address and the length of the row that is read next, if the packet to be read is a row. -/
def nextRow (con : Con) : Option (ℕ × ℕ) :=
  match nextPacket con with
  | some (t, p, n) => if (t = .row ∨ t = .stmtRow) ∧ con.buf.mem p ≠ 0xfe then some (p, n) else none
  | none => none

section Delivery

variable (env : Env) {con : Con}

/-- **The delivery of a row**: the row is where the packet is, and the packet is not ended. -/
theorem processPacket_row {p n : ℕ} (h : nextRow con = some (p, n)) :
    ∃ b, con.readBuffer = some b ∧ p = b.bufferReadPtr + 4 ∧ n + 4 ≤ b.unreadData ∧
      (processPacket env con).con.readBuffer = some ((b.advance 4).setPacketEnd n) ∧
      (processPacket env con).con.result = { con.result with rowData := some p, rowLength := n } ∧
      (processPacket env con).con.commandStatus = .rowInBuffer := by
  unfold nextRow at h
  cases hnext : nextPacket con with
  | none =>
    rw [hnext] at h
    cases h
  | some packet =>
    obtain ⟨t, p', n'⟩ := packet
    rw [hnext] at h
    dsimp only at h
    split_ifs at h with hrow
    cases h
    obtain ⟨b, seq, payload, q, hholds, hq, ha, rfl, rfl⟩ := nextPacket_eq_some con hnext
    have hbuf : con.buf = b := by
      unfold Con.buf
      rw [hholds.buffer]
      rfl
    have hread : (packetDispatch env (packetReady con b t seq payload.length) t).con =
        packetReadRow env (packetReady con b t seq payload.length) := by
      rcases hrow.1 with rfl | rfl
      · rfl
      · rfl
    have hbyte : (packetReady con b t seq payload.length).peekByte 0 ≠ 0xfe := by
      rw [hbuf] at hrow
      exact hrow.2
    refine ⟨b, hholds.buffer, rfl, hholds.complete, ?_⟩
    rw [processPacket_accepted hholds hq ha, hread]
    unfold packetReadRow
    rw [if_neg hbyte]
    exact ⟨rfl, rfl, rfl⟩

end Delivery

/-! ### Rows in the hands of the application -/

/-- A connection, and the row that the application holds: its address and its bytes. -/
structure Viewing where
  con : Con
  held : Option (ℕ × List UInt8)

namespace Viewing

/-- A row is held from its delivery on, until the next row is asked for, the query is closed or a command is sent. -/
def step (v : Viewing) (a : Act) : Viewing where
  con := a.apply v.con
  held :=
    match a with
    | .packet _ =>
      match nextRow v.con with
      | some (p, n) => some (p, v.con.buf.mem.slice p n)
      | none => v.held
    | .requestRow _ | .closeQuery | .command _ _ _ => none
    | .prepare env _ => if env.newArray 1 sizeofStmt then none else v.held
    | .closeStatement _ => if v.con.stmt.isSome then none else v.held
    | _ => v.held

/-- No row is held. -/
def start (con : Con) : Viewing := { con := con, held := none }

/-- The row that is held is still what the result points to, lies in the read buffer, and every part of it reads as it
did. -/
def Steady (v : Viewing) : Prop :=
  ∀ p bytes, v.held = some (p, bytes) → v.con.result.rowData = some p ∧
    ∃ b, v.con.readBuffer = some b ∧ b.buffer ≤ p ∧ p + bytes.length ≤ b.buffer + b.bufferSize ∧
      ∀ i n, i + n ≤ bytes.length → b.mem.slice (p + i) n = (bytes.drop i).take n

/-- A row comes in a buffer that is well formed; while it is held no packet is expected and rows are not buffered, the
read buffer grows where it is or not at all, and what arrives in it fits. -/
def Gentle (v : Viewing) : Act → Prop
  | .packet _ => (v.held.isSome = true → v.con.nextPacketQueue = []) ∧
    ((nextRow v.con).isSome = true → ∀ b ∈ v.con.readBuffer, b.Wf)
  | .alloc env n => v.held.isSome = true → v.con.options.compression = false →
    ∀ b ∈ v.con.readBuffer, b.available < n → b.StaysPut env.malloc
  | .read bytes => v.held.isSome = true → v.con.options.compression = false →
    ∀ b ∈ v.con.readBuffer, bytes.length ≤ b.freeTail
  | .decompress env => v.held.isSome = true → ∀ b ∈ v.con.readBuffer, ∀ c ∈ v.con.readBufferCompress,
    7 ≤ c.unreadData → (b.available < plainLength c → b.StaysPut env.malloc) ∧
      (decompressed env (b.withRoom env (plainLength c)) c).length ≤ (b.withRoom env (plainLength c)).freeTail
  | .keepRow _ => v.held = none
  | _ => True

/-- A step the library can take. -/
def Legal (v : Viewing) (a : Act) : Prop := a.Legal v.con

/-- The row that is held stands in the part of the read buffer that is in use. -/
def Shown (v : Viewing) : Prop :=
  ∀ p bytes, v.held = some (p, bytes) → v.con.result.rowData = some p ∧
    ∃ b, v.con.readBuffer = some b ∧ b.Shows p bytes

variable {v : Viewing}

lemma Shown.steady (h : v.Shown) : v.Steady := by
  intro p bytes hheld
  obtain ⟨hrow, b, hb, hshows⟩ := h p bytes hheld
  have hwrite := hshows.le_write
  have hsize := hshows.wf.write_le_end
  refine ⟨hrow, b, hb, hshows.start_le, by omega, fun i n hin => ?_⟩
  have hmin : min n (bytes.length - i) = n := by omega
  have hpart : ((b.mem.slice p bytes.length).drop i).take n = b.mem.slice (p + i) n := by
    rw [Memory.drop_slice, Memory.take_slice, hmin]
  rw [hshows.slice_eq] at hpart
  exact hpart.symm

lemma shown_start (con : Con) : (start con).Shown := nofun

/-- Nothing is held. -/
lemma shown_none {v : Viewing} (h : v.held = none) : v.Shown := fun p bytes hheld => by
  rw [h] at hheld
  cases hheld

/-- The read buffer and the pointer into it are left alone. -/
lemma Shown.same (h : v.Shown) {con' : Con} (hb : con'.readBuffer = v.con.readBuffer)
    (hr : con'.result.rowData = v.con.result.rowData) : Shown { v with con := con' } := by
  intro p bytes hheld
  obtain ⟨hrow, b, hbuffer, hshows⟩ := h p bytes hheld
  exact ⟨hr.trans hrow, b, hb.trans hbuffer, hshows⟩

/-- Whatever of the data changes, these stay. -/
lemma Shown.data (h : v.Shown) {con' : Con} {d : Data} (hd : con'.data = d) (hb : d.readBuffer = v.con.readBuffer)
    (hr : d.result.rowData = v.con.result.rowData) : Shown { v with con := con' } := by
  refine h.same ?_ ?_
  · rw [← hb, ← hd]
    rfl
  · rw [← hr, ← hd]
    rfl

/-! One act each. -/

/-- A packet that brings a row, or none is read. -/
lemma Shown.packet {env : Env} (h : v.Shown) (hg : v.Gentle (.packet env)) : (v.step (.packet env)).Shown := by
  cases hrow : nextRow v.con with
  | none =>
    have hstep : v.step (.packet env) = { v with con := (processPacket env v.con).con } := by
      unfold step
      rw [hrow]
      rfl
    rw [hstep]
    cases hheld : v.held with
    | none => exact shown_none rfl
    | some _ =>
      have hq := hg.1 (by rw [hheld]; rfl)
      have hsame : (processPacket env v.con).con = v.con := by
        unfold processPacket
        rw [hq]
        rfl
      rw [hsame, ← hheld]
      exact h
  | some r =>
    obtain ⟨p, n⟩ := r
    obtain ⟨b, hb, rfl, hcomplete, hbuffer, hresult, -⟩ := processPacket_row env hrow
    have hstep : v.step (.packet env) =
        ⟨(processPacket env v.con).con, some (b.bufferReadPtr + 4, b.mem.slice (b.bufferReadPtr + 4) n)⟩ := by
      have hbuf : v.con.buf = b := by
        unfold Con.buf
        rw [hb]
        rfl
      unfold step
      rw [hrow, hbuf]
      rfl
    have hwf := hg.2 (by rw [hrow]; rfl) b hb
    have hunread := hwf.unreadData_eq
    have hread := hwf.read_le_write
    have hstart := hwf.buffer_le_read
    rw [hstep]
    intro p bytes hheld
    cases hheld
    refine ⟨congrArg Result.rowData hresult, _, hbuffer, (hwf.advance (by omega)).setPacketEnd n, ?_, ?_, ?_⟩
    · show b.buffer ≤ b.bufferReadPtr + 4
      omega
    · rw [Memory.length_slice]
      show b.bufferReadPtr + 4 + n ≤ b.bufferWritePtr
      omega
    · rw [Memory.length_slice]
      rfl

lemma Shown.alloc {env : Env} {n : ℕ} (h : v.Shown) (hg : v.Gentle (.alloc env n)) : (v.step (.alloc env n)).Shown := by
  have hstep : v.step (.alloc env n) = { v with con := (onAlloc env v.con n).1 } := rfl
  rw [hstep]
  intro p bytes hheld
  obtain ⟨hrow, b, hb, hshows⟩ := h p bytes hheld
  obtain ⟨hresult, hview⟩ := onAlloc_view env v.con n hb
  refine ⟨(congrArg Result.rowData hresult).trans hrow, ?_⟩
  rcases hview with hsame | ⟨hc, hroom⟩
  · exact ⟨b, hsame, hshows⟩
  · exact ⟨_, hroom, hshows.withRoom (hg (Option.isSome_of_eq_some hheld) hc b hb)⟩

lemma Shown.read {bytes : List UInt8} (h : v.Shown) (hg : v.Gentle (.read bytes)) : (v.step (.read bytes)).Shown := by
  have hstep : v.step (.read bytes) = { v with con := readInto v.con bytes } := rfl
  rw [hstep]
  intro p row hheld
  obtain ⟨hrow, b, hb, hshows⟩ := h p row hheld
  obtain ⟨hresult, hview⟩ := readInto_view v.con bytes hb
  refine ⟨(congrArg Result.rowData hresult).trans hrow, ?_⟩
  rcases hview with hsame | ⟨hc, happend⟩
  · exact ⟨b, hsame, hshows⟩
  · exact ⟨_, happend, hshows.append (hg (Option.isSome_of_eq_some hheld) hc b hb)⟩

lemma Shown.decompress {env : Env} (h : v.Shown) (hg : v.Gentle (.decompress env)) :
    (v.step (.decompress env)).Shown := by
  have hstep : v.step (.decompress env) = { v with con := Act.apply v.con (.decompress env) } := rfl
  rw [hstep]
  unfold Act.apply
  cases hc : v.con.readBufferCompress with
  | none => exact h
  | some c =>
    intro p row hheld
    obtain ⟨hrow, b, hb, hshows⟩ := h p row hheld
    obtain ⟨hresult, hview⟩ := decompressReadBuffer_view env v.con c hb
    refine ⟨(congrArg Result.rowData hresult).trans hrow, ?_⟩
    rcases hview with hsame | ⟨hheader, hview⟩
    · exact ⟨b, hsame, hshows⟩
    · obtain ⟨hput, hfit⟩ := hg (Option.isSome_of_eq_some hheld) b hb c hc hheader
      rcases hview with hroom | happend
      · exact ⟨_, hroom, hshows.withRoom hput⟩
      · exact ⟨_, happend, (hshows.withRoom hput).append hfit⟩

lemma step_prepare (v : Viewing) (env : Env) (statement : List UInt8) : v.step (.prepare env statement) =
    ⟨prepareNow env v.con statement, if env.newArray 1 sizeofStmt then none else v.held⟩ := rfl

lemma Shown.prepare {env : Env} {statement : List UInt8} (h : v.Shown) : (v.step (.prepare env statement)).Shown := by
  rw [step_prepare]
  by_cases hnew : env.newArray 1 sizeofStmt = true
  · exact shown_none (if_pos hnew)
  · rw [if_neg hnew]
    unfold prepareNow
    rw [if_neg hnew]
    exact h.same rfl rfl

lemma Shown.closeStatement {env : Env} (h : v.Shown) : (v.step (.closeStatement env)).Shown := by
  cases hs : v.con.stmt with
  | none =>
    have hstep : v.step (.closeStatement env) = { v with con := statementClose env v.con } := by
      unfold step
      rw [hs]
      rfl
    rw [hstep, statementClose_of_none env v.con hs]
    exact h.same rfl rfl
  | some stmt =>
    refine shown_none ?_
    unfold step
    rw [hs]
    rfl

/-- **One act.** -/
theorem shown_step {a : Act} (h : v.Shown) (hl : v.Legal a) (hg : v.Gentle a) : (v.step a).Shown := by
  cases a with
  | rest con' => exact h.data hl.data_eq rfl rfl
  | setOption capabilities => exact h.same rfl rfl
  | packet env => exact h.packet hg
  | alloc env n => exact h.alloc hg
  | read bytes => exact h.read hg
  | decompress env => exact h.decompress hg
  | greet env => exact h.data (packetQueuePush_data env v.con .handshake) rfl rfl
  | command env cmd data => exact shown_none rfl
  | requestRow env => exact shown_none rfl
  | nextResult env =>
    rcases commandNextResult_cases env v.con with hsame | ⟨hd, -, -⟩
    · exact h.data (congrArg Con.data hsame) rfl rfl
    · exact h.data hd rfl rfl
  | prepare env statement => exact h.prepare
  | closeStatement env => exact h.closeStatement
  | editStmt f => exact h.same rfl rfl
  | commandFree => exact h.same rfl rfl
  | closeQuery => exact shown_none rfl
  | bufferRows enable =>
    have hstep : v.step (.bufferRows enable) = { v with con := (queryBufferRows v.con enable).1 } := rfl
    rw [hstep]
    unfold queryBufferRows
    split_ifs
    · exact h
    · exact h.same rfl rfl
  | keepRow env => exact shown_none hg
  | rowGet env error => exact h.data (queryRowGet_fills env v.con error).data_eq rfl rfl
  | bufferRowGet => exact h.data (queryBufferRowGet_fills v.con).data_eq rfl rfl
  | columnGet column => exact h.data (queryColumnGet_fills v.con column).data_eq rfl rfl
  | stmtRowGet env error => exact h.data (statementRowGet_fills env v.con error).data_eq rfl rfl

end Viewing

/-- **A row that is held reads as it was delivered**, in every run whose steps are gentle. -/
theorem row_view_steady {con : Con} (as : List Act) (hl : Along Viewing.step Viewing.Legal (.start con) as)
    (hg : Along Viewing.step Viewing.Gentle (.start con) as) : Throughout Viewing.step Viewing.Steady (.start con) as := by
  have hstep : ∀ (v : Viewing) a, v.Shown → v.Legal a ∧ v.Gentle a → (v.step a).Shown :=
    fun v a h ha => Viewing.shown_step h ha.1 ha.2
  exact throughout_of_invariant hstep (fun v h => h.steady) (Viewing.shown_start con) (hl.and hg)

/-! ### Runs -/

lemma Viewing.packets_legal (v : Viewing) (n : ℕ) :
    Along Viewing.step Viewing.Legal v (List.replicate n (.packet .calm)) := by
  induction n generalizing v with
  | zero => exact trivial
  | succ n ih => exact ⟨trivial, ih _⟩

/-- A connection that has been opened reads the first row of a result. -/
def firstRow (con : Con) (more : List Act) : List Act :=
  [.rest { con with stream := true, uv := .reading, status := .idle }, .command .calm .query [0x53], .alloc .calm 65536] ++
    more ++ List.replicate 4 (.packet .calm)

lemma firstRow_legal (con : Con) {more : List Act} (h : ∀ v, Along Viewing.step Viewing.Legal v more) :
    Along Viewing.step Viewing.Legal (.start con) (firstRow con more) :=
  (along_append _ _ _).mpr ⟨(along_append _ _ _).mpr
    ⟨⟨.same rfl rfl rfl (.same rfl rfl), Command.noConfusion, trivial, trivial⟩, h _⟩, Viewing.packets_legal _ 4⟩

/-- The first row is held while the event loop reads the next one. -/
def readBehind : List Act :=
  firstRow (.calm 0) [.read (resultHead ++ frame 4 [1, 0x61])] ++ [.alloc .calm 65536, .read (frame 5 [1, 0x62])]

instance (v : Viewing) (a : Act) : Decidable (v.Gentle a) := by
  rcases a with ⟨⟩ <;> dsimp only [Viewing.Gentle] <;> infer_instance

theorem row_view_steady_readBehind : Throughout Viewing.step Viewing.Steady (.start (.calm 0)) readBehind := by
  have hl : Along Viewing.step Viewing.Legal (.start (.calm 0)) readBehind :=
    (along_append _ _ _).mpr ⟨firstRow_legal _ fun _ => ⟨trivial, trivial⟩, trivial, trivial, trivial⟩
  have hg : Along Viewing.step Viewing.Gentle (.start (.calm 0)) readBehind := by decide +kernel
  exact row_view_steady readBehind hl hg

/-- An allocator that has no room to grow a block where it is, on a connection whose compressed data are damaged. -/
def Env.moving : Env := { Env.calm with
  malloc := fun _ => some { base := 2 ^ 32, bytes := fun _ => 0 }
  uncompress := fun _ _ => none }

/-- A connection that compresses. -/
def Con.deflating : Con :=
  { Con.calm (2 ^ capabilityCompress) with
    options := { (Con.calm (2 ^ capabilityCompress)).options with compression := true } }

/-- The first row is held while a compressed packet comes in that says it was 16 MiB before. -/
def decompressedBehind : List Act :=
  firstRow .deflating [.read (packInt3 47 ++ [1, 0, 0, 0] ++ (resultHead ++ frame 4 [1, 0x61])), .decompress .calm] ++
    [.read [1, 0, 0, 2, 0xff, 0xff, 0xff, 0], .decompress .moving]

/-- The packet makes room for itself first: the read buffer is moved to another block, and the row is left behind. -/
theorem row_view_moved : Along Viewing.step Viewing.Legal (.start .deflating) decompressedBehind ∧
    ¬ Throughout Viewing.step Viewing.Steady (.start .deflating) decompressedBehind := by
  refine ⟨(along_append _ _ _).mpr ⟨firstRow_legal _ fun _ => ⟨trivial, trivial, trivial⟩, trivial, trivial, trivial⟩,
    fun h => ?_⟩
  have hlast := throughout_iff_run.mp h _ (List.prefix_refl _)
  have hheld : ∃ r ∈ (run Viewing.step (.start .deflating) decompressedBehind).held,
      ∀ b ∈ (run Viewing.step (.start .deflating) decompressedBehind).con.readBuffer, ¬ b.buffer ≤ r.1 := by
    decide +kernel
  obtain ⟨⟨p, bytes⟩, hr, hbase⟩ := hheld
  obtain ⟨-, b, hb, hle, -⟩ := hlast p bytes hr
  exact hbase b hb hle

end LibAttachSql
