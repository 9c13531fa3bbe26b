import LibAttachSql.Reservation
import LibAttachSql.ResponseRun
import LibAttachSql.SequenceCheck

/-!
# Responses over the network

In `ResponseRun` packets arrive as a whole.  Over the network bytes arrive: a read may end in the middle of a packet or of
its header, or bring several packets at once.  `on_alloc` makes room for a read, `attachsql_read_data_cb` appends it
to the read buffer, and the loop of `attachsql_con_process_packets` takes the packets that are complete as long as one
is expected.  The check callback runs the loop again, and so does the application when it asks for the next row.

This module shows that the loop takes a response as `ResponseRun` says, however it is cut into reads and whenever the
application reacts: the rows it brings are the rows that were sent, and the connection is in the phase the protocol is in.
-/

namespace LibAttachSql

open Lib

/-! ### What happens -/

/-- Bytes arrive, the check callback runs, or the application reacts to what it finds. -/
inductive Occurrence where
  | read (env : Env) (suggestedSize : ℕ) (bytes : List UInt8)
  | check (env : Env)
  | react (env : Env)

/-- What the application does with a row, and with a result that was read; with anything else it waits. -/
def react (env : Env) (con : Con) : Con :=
  if con.commandStatus = .rowInBuffer then queryRowNext env con
  else if con.commandStatus = .eof then (queryNextResult env (queryClose con)).1
  else con

/-- What an occurrence does to the connection. -/
def occur (con : Con) : Occurrence → Con
  | .read env suggestedSize bytes => netStep con (env, .read suggestedSize bytes)
  | .check env => netStep con (env, .check)
  | .react env => react env con

/-- The bytes of a read. -/
def Occurrence.bytes : Occurrence → List UInt8
  | .read _ _ bytes => bytes
  | _ => []

/-- The bytes of the row in the read buffer. -/
def Con.rowBytes (con : Con) : List UInt8 := con.buf.mem.slice (con.result.rowData.getD 0) con.result.rowLength

/-- Whether an occurrence brings a row: one is there, and it was not there before, or the application is done with that. -/
def Occurrence.ShowsRow (con con' : Con) : Occurrence → Prop
  | .react _ => con'.commandStatus = .rowInBuffer
  | _ => con'.commandStatus = .rowInBuffer ∧ con.commandStatus ≠ .rowInBuffer

instance (con con' : Con) (o : Occurrence) : Decidable (o.ShowsRow con con') := by
  unfold Occurrence.ShowsRow
  split <;> infer_instance

/-- The row that an occurrence brings, if any. -/
def Occurrence.rows (con : Con) (o : Occurrence) : List (List UInt8) :=
  if o.ShowsRow con (occur con o) then [(occur con o).rowBytes] else []

/-- The rows that are brought, each when it is there. -/
def rowsBrought : Con → List Occurrence → List (List UInt8)
  | _, [] => []
  | con, o :: os => o.rows con ++ rowsBrought (occur con o) os

/-- There is memory for the columns of any result. -/
def Env.Grants (env : Env) : Prop := ∀ n < 2 ^ 16, env.newArray n sizeofColumn = true

/-- The read buffer has room for a read, and lies in the address space. -/
def BufferSt.HasRoom (b : BufferSt) (env : Env) (suggestedSize : ℕ) (bytes : List UInt8) : Prop :=
  Copy.Unwrapped b ∧ 0 < (b.withRoom env suggestedSize).available ∧
    bytes.length ≤ (b.withRoom env suggestedSize).available ∧
      (b.withRoom env suggestedSize).buffer + (b.withRoom env suggestedSize).bufferSize ≤ 2 ^ 64

/-- A read fits in the buffer that is there, or in a new one. -/
def Occurrence.Roomy (con : Con) : Occurrence → Prop
  | .read env suggestedSize bytes => ∃ b ∈ bufferOr env con.readBuffer, b.HasRoom env suggestedSize bytes
  | _ => True

/-- Memory is granted. -/
def Occurrence.Granted : Occurrence → Prop
  | .read env _ _ => env.Grants
  | .check env => env.Grants
  | .react env => env.Grants

/-- Memory is granted, and a read fits. -/
def Occurrence.Fits (con : Con) (o : Occurrence) : Prop := o.Granted ∧ o.Roomy con

/-! ### What is sent -/

/-- The turn is a packet. -/
def Turn.isPacket : Turn → Bool
  | .packet _ => true
  | _ => false

/-- The row of a turn. -/
def Turn.row : Turn → Option (List UInt8)
  | .packet (.row bytes) => some bytes
  | _ => none

/-- The number of packets of some turns. -/
def packetCount (ks : List Turn) : ℕ := ks.countP Turn.isPacket

/-- The rows of some turns. -/
def rowsOf (ks : List Turn) : List (List UInt8) := ks.filterMap Turn.row

/-- The bytes of the packets of some turns, numbered from behind `n` on. -/
def wire : ℕ → List Turn → List UInt8
  | _, [] => []
  | n, .packet p :: ks => frame (UInt8.ofNat (n + 1)) p.payload ++ wire (n + 1) ks
  | n, _ :: ks => wire n ks

/-! ### The state of a run -/

/-- A row is in the buffer. -/
def ResponsePhase.holdsRow : ResponsePhase → Bool
  | .row _ => true
  | _ => false

/-- The bytes that come next in a buffer, behind the row when there is one. -/
def BufferSt.Ahead (b : BufferSt) (held : Bool) (bytes : List UInt8) : Prop :=
  ∃ k ≤ b.unreadData, b.unread.drop k = bytes ∧ if held then b.packetEndPtr = some (b.bufferReadPtr + k) else k = 0

/-- The buffer is well-formed, lies in the address space, and has these bytes next. -/
structure BufferSt.Supplies (b : BufferSt) (held : Bool) (bytes : List UInt8) : Prop where
  wf : b.Wf
  space : b.buffer + b.bufferSize ≤ 2 ^ 64
  ahead : b.Ahead held bytes

/-- The bytes that come next on a connection, which may have no read buffer yet. -/
def Con.Supplies (con : Con) (held : Bool) (bytes : List UInt8) : Prop :=
  con.readBuffer = none ∧ held = false ∧ bytes = [] ∨ ∃ b, con.readBuffer = some b ∧ b.Supplies held bytes

/-- The connection reads plainly: nothing is compressed, encrypted or buffered; the last packet was number `n`. -/
structure Con.InClear (con : Con) (n : ℕ) : Prop where
  compression : con.options.compression = false
  handshakeDone : con.ssl.handshakeDone = false
  uv : con.uv = .reading
  bufferRows : con.bufferRows = false
  number : con.packetNumber.toNat = n

/-- A response is being read: the phase, the number of the last packet, the turns that are left, the bytes that are still to
arrive. -/
structure Con.Underway (con : Con) (φ : ResponsePhase) (n : ℕ) (ks : List Turn) (later : List UInt8) : Prop where
  phase : con.At φ
  plain : con.InClear n
  leads : Leads ResponsePhase.Next φ ks (.closed false)
  supply : ∃ bytes, con.Supplies φ.holdsRow bytes ∧ bytes ++ later = wire n ks
  small : ∀ p, .packet p ∈ ks → p.payload.length < 2 ^ 24
  few : n + packetCount ks < 128

/-! ### The buffer -/

section Buffers

variable {env : Env} {con : Con} {b : BufferSt} {held : Bool} {bytes more : List UInt8} {n : ℕ}

lemma Copy.Unwrapped.withRoom (h : b.Wf) (hu : Copy.Unwrapped b) : Copy.Unwrapped (b.withRoom env n) := by
  rcases h.withRoom_cases hu env n with ⟨-, he⟩ | ⟨-, ⟨-, he⟩ | ⟨block, -, he⟩⟩
  · rwa [he]
  · rwa [he]
  · have hread := h.regrow_readPtr block
    have hfree := h.regrow_freeTail block
    have hbuf : (b.regrow block).buffer = block.base := rfl
    unfold Copy.Unwrapped at hu ⊢
    rw [he, hread, hfree, hbuf]
    omega

/-- Room that is asked for leaves what comes next. -/
lemma BufferSt.Wf.withRoom_supplies (hwf : b.Wf) (h : b.Ahead held bytes) (hu : Copy.Unwrapped b)
    (hspace : (b.withRoom env n).buffer + (b.withRoom env n).bufferSize ≤ 2 ^ 64) :
    (b.withRoom env n).Supplies held bytes := by
  obtain ⟨k, hk, hdrop, hend⟩ := h
  rcases hwf.withRoom_cases hu env n with ⟨-, he⟩ | ⟨-, ⟨-, he⟩ | ⟨block, hblock, he⟩⟩
  · rw [he] at hspace ⊢
    exact ⟨hwf, hspace, k, hk, hdrop, hend⟩
  · rw [he] at hspace ⊢
    exact ⟨hwf, hspace, k, hk, hdrop, hend⟩
  · rw [he] at hspace ⊢
    obtain ⟨hwf', hunread⟩ := hwf.regrow block (Malloc.get_le hblock)
    have hdata : (b.regrow block).unreadData = b.unreadData := by rw [← hwf'.length_unread, hunread, hwf.length_unread]
    refine ⟨hwf', hspace, k, hdata ▸ hk, by rw [hunread, hdrop], ?_⟩
    cases held with
    | false => exact hend
    | true =>
      have hread := hwf.buffer_le_read
      rw [hwf.unreadData_eq] at hk
      have hmoved := hwf.regrow_packetEnd_some hend (by omega) (by have := hwf.read_le_write; omega) block
      rw [if_pos rfl, hmoved, hwf.regrow_readPtr]
      congr 1
      omega

/-- Bytes that arrive come behind what is there. -/
lemma BufferSt.Supplies.append (h : b.Supplies held bytes) (hfit : more.length ≤ b.freeTail) :
    (b.append more).Supplies held (bytes ++ more) := by
  obtain ⟨hwf, hspace, k, hk, hdrop, hend⟩ := h
  have hroom : b.bufferWritePtr + more.length ≤ b.buffer + b.bufferSize := by
    have hread := hwf.buffer_le_read
    have hwrite := hwf.read_le_write
    have hlast := hwf.write_le_end
    unfold BufferSt.freeTail at hfit
    omega
  have hunread := hwf.unread_append more
  have hlength := hwf.length_unread
  refine ⟨hwf.append hroom, hspace, k, ?_, ?_, hend⟩
  · rw [← (hwf.append hroom).length_unread, hunread, List.length_append]
    omega
  · rw [hunread, List.drop_append_of_le_length (by omega), hdrop]

/-- The end of a row leaves what comes behind it. -/
lemma BufferSt.Supplies.ended (h : b.Supplies true bytes) : b.packetReadEnd.Supplies false bytes := by
  obtain ⟨hwf, hspace, k, hk, hdrop, hend⟩ := h
  have hread := hwf.buffer_le_read
  have hwrite := hwf.read_le_write
  rw [hwf.unreadData_eq] at hk
  obtain ⟨hwf', hunread⟩ := hwf.packetReadEnd hend (by omega) (by omega)
  have hplace : b.packetReadEnd.buffer = b.buffer ∧ b.packetReadEnd.bufferSize = b.bufferSize := by
    unfold BufferSt.packetReadEnd
    split_ifs <;> exact ⟨rfl, rfl⟩
  refine ⟨hwf', by rw [hplace.1, hplace.2]; exact hspace, 0, Nat.zero_le _, ?_, rfl⟩
  rw [List.drop_zero, hunread, ← hdrop]
  unfold BufferSt.unread
  rw [Memory.drop_slice, Nat.sub_sub]

/-- A new buffer has nothing in it. -/
lemma ahead_bufferCreate (h : bufferCreate env.malloc = some b) : b.Wf ∧ b.Ahead false [] := by
  obtain ⟨hwf, hunread, -⟩ := BufferSt.wf_create h
  exact ⟨hwf, 0, Nat.zero_le _, hunread, rfl⟩

end Buffers

/-! ### The readers -/

section Readers

variable {env : Env} {con : Con} {φ φ' : ResponsePhase} {n : ℕ}

/-- What tells whether a connection reads in the clear, and the packets it has counted. -/
def Con.line (con : Con) : Bool × Ssl × UvPhase × Bool × UInt8 :=
  (con.options.compression, con.ssl, con.uv, con.bufferRows, con.packetNumber)

lemma Con.InClear.of_line {con' : Con} (h : con.InClear n) (hl : con'.line = con.line) : con'.InClear n := by
  unfold Con.line at hl
  simp only [Prod.mk.injEq] at hl
  obtain ⟨hcompression, hssl, huv, hrows, hnumber⟩ := hl
  exact ⟨hcompression.trans h.compression, (congrArg Ssl.handshakeDone hssl).trans h.handshakeDone, huv.trans h.uv,
    hrows.trans h.bufferRows, (congrArg UInt8.toNat hnumber).trans h.number⟩

/-- The line is as before, and the read buffer too, or its packet is ended. -/
structure Con.ReadOn (con con' : Con) : Prop where
  line_eq : con'.line = con.line
  buffer : con'.readBuffer = con.readBuffer ∨ con'.readBuffer = con.readBuffer.map BufferSt.packetReadEnd

lemma packetQueuePush_line (env : Env) (con : Con) (t : PacketType) :
    (packetQueuePush env con t).line = con.line ∧ (packetQueuePush env con t).readBuffer = con.readBuffer := by
  obtain ⟨queue, size, bytes, trace, h⟩ := packetQueuePush_frame env con t
  rw [h]
  exact ⟨rfl, rfl⟩

namespace Con.ReadOn

variable {con₁ : Con}

lemma push (h : con.ReadOn con₁) (t : PacketType) : con.ReadOn (packetQueuePush env con₁ t) := by
  obtain ⟨hline, hbuffer⟩ := packetQueuePush_line env con₁ t
  exact ⟨hline.trans h.line_eq, by rw [hbuffer]; exact h.buffer⟩

lemma ended (hline : con₁.line = con.line) (hbuffer : con₁.readBuffer = con.readBuffer) : con.ReadOn (packetReadEnd con₁) :=
  ⟨hline, .inr (congrArg (Option.map BufferSt.packetReadEnd) hbuffer)⟩

lemma pushEnded (hline : con₁.line = con.line) (hbuffer : con₁.readBuffer = con.readBuffer) (t : PacketType) :
    con.ReadOn (packetReadEnd (packetQueuePush env con₁ t)) := by
  obtain ⟨hline', hbuffer'⟩ := packetQueuePush_line env con₁ t
  exact ended (hline'.trans hline) (hbuffer'.trans hbuffer)

end Con.ReadOn

lemma packetReadEof_readOn (env : Env) (con : Con) : con.ReadOn (packetReadEof env con) := by
  unfold packetReadEof
  dsimp only
  split
  · exact .pushEnded (by rfl) (by rfl) .row
  · split
    · exact ⟨rfl, .inl rfl⟩
    · split_ifs
      · exact .pushEnded (by rfl) (by rfl) .prepareColumn
      · exact .ended (by rfl) (by rfl)
  · exact .ended (by rfl) (by rfl)

lemma packetReadHeader_readOn (env : Env) (con : Con) : con.ReadOn (packetReadHeader env con) := by
  obtain ⟨con₁, he, hline, hbuffer⟩ : ∃ con₁ : Con,
      packetReadHeader env con = { packetQueuePush env con₁ .column with commandStatus := .readColumn } ∧
        con₁.line = con.line ∧ con₁.readBuffer = con.readBuffer.map BufferSt.packetReadEnd := ⟨_, rfl, rfl, rfl⟩
  obtain ⟨hline', hbuffer'⟩ := packetQueuePush_line env con₁ .column
  rw [he]
  exact ⟨hline'.trans hline, .inr (hbuffer'.trans hbuffer)⟩

/-- Compression begins with the OK packet of a login alone. -/
lemma packetReadResponse_readOn (env : Env) (con : Con) (h : con.status ≠ .connecting ∨ con.peekByte 0 ≠ 0x00) :
    con.ReadOn (packetReadResponse env con) := by
  unfold packetReadResponse
  split_ifs with hok
  · have hstatus : con.status ≠ .connecting := h.resolve_right (not_not.mpr hok)
    refine ⟨?_, .inr rfl⟩
    show (con.options.compression || decide (con.status = ConStatus.connecting) && con.wantsCompress, _) = con.line
    rw [decide_eq_false hstatus, Bool.false_and, Bool.or_false]
    rfl
  · exact ⟨rfl, .inr rfl⟩
  · exact packetReadEof_readOn env con
  · exact packetReadHeader_readOn env con

lemma packetReadColumn_readOn (env : Env) (con : Con) : con.ReadOn (packetReadColumn env con) := by
  unfold packetReadColumn
  split
  · exact ⟨rfl, .inl rfl⟩
  · refine Con.ReadOn.push ?_ _
    exact ⟨rfl, .inr rfl⟩

lemma packetReadRow_readOn (env : Env) (con : Con) : con.ReadOn (packetReadRow env con) := by
  by_cases hfirst : con.peekByte 0 = 0xfe
  · rw [packetReadRow_eof env hfirst]
    obtain ⟨hline, hbuffer⟩ := packetReadEof_readOn env { con with result.rowData := none, result.rowLength := 0 }
    exact ⟨hline, hbuffer⟩
  · unfold packetReadRow
    rw [if_neg hfirst]
    exact ⟨rfl, .inl rfl⟩

end Readers

/-! ### A packet on the wire -/

section Wire

variable {con : Con} {b : BufferSt} {seq : UInt8} {payload bytes rest later : List UInt8}

lemma length_frame (seq : UInt8) (payload : List UInt8) : (frame seq payload).length = 4 + payload.length := by
  unfold frame packInt3
  simp only [List.length_append, List.length_cons, List.length_nil]

lemma BufferSt.Supplies.unread_eq (h : b.Supplies false bytes) : b.unread = bytes := by
  obtain ⟨-, -, k, -, hdrop, rfl⟩ := h
  exact hdrop

/-- The length of a packet is read as soon as its first three bytes are there. -/
lemma unpackInt3_of_wire (h : b.Supplies false bytes) (hwire : bytes ++ later = frame seq payload ++ rest)
    (hsmall : payload.length < 2 ^ 24) (hthree : 3 ≤ bytes.length) :
    unpackInt3 b.mem b.bufferReadPtr = payload.length := by
  refine unpackInt3_of_slice ?_ hsmall
  have htake : bytes.take 3 = packInt3 payload.length := by
    have hwider : (bytes ++ later).take 3 = bytes.take 3 := List.take_append_of_le_length hthree
    rw [← hwider, hwire]
    rfl
  rw [← htake, ← h.unread_eq]
  unfold BufferSt.unread
  rw [Memory.take_slice, Nat.min_eq_left]
  have hlength := h.wf.length_unread
  rw [h.unread_eq, h.wf.unreadData_eq] at hlength
  omega

/-- A packet of which all bytes are there. -/
lemma bears_of_wire (hcon : con.readBuffer = some b) (h : b.Supplies false bytes)
    (hwire : bytes ++ later = frame seq payload ++ rest) (hsmall : payload.length < 2 ^ 24)
    (hcomplete : payload.length + 4 ≤ bytes.length) :
    con.Bears payload ∧ con.buf.mem (con.buf.bufferReadPtr + 3) = seq ∧
      con.buf.unread.drop (4 + payload.length) ++ later = rest := by
  have hbuf : con.buf = b := by
    unfold Con.buf
    rw [hcon]
    rfl
  have hlength := h.wf.length_unread
  rw [h.unread_eq] at hlength
  have hframe := length_frame seq payload
  -- what is there begins with the packet
  have hsplit : bytes = frame seq payload ++ bytes.drop (4 + payload.length) := by
    have htake : bytes.take (4 + payload.length) = frame seq payload := by
      have hwider : (bytes ++ later).take (4 + payload.length) = bytes.take (4 + payload.length) :=
        List.take_append_of_le_length (by omega)
      rw [← hwider, hwire, List.take_left' hframe]
    rw [← htake, List.take_append_drop]
  have hrest : bytes.drop (4 + payload.length) ++ later = rest := by
    rw [← List.drop_append_of_le_length (by omega), hwire, List.drop_left' hframe]
  have hslices : b.mem.slice b.bufferReadPtr (b.bufferWritePtr - b.bufferReadPtr) =
      packInt3 payload.length ++ ([seq] ++ (payload ++ bytes.drop (4 + payload.length))) := by
    refine h.unread_eq.trans (hsplit.trans ?_)
    unfold frame
    rw [List.append_assoc, List.append_assoc]
  obtain ⟨-, hslices⟩ := Memory.slice_eq_append hslices
  obtain ⟨hseq, hslices⟩ := Memory.slice_eq_append hslices
  obtain ⟨hpayload, -⟩ := Memory.slice_eq_append hslices
  have hunpacked := unpackInt3_of_wire h hwire hsmall (by omega)
  refine ⟨Con.bears_iff.mpr ?_, ?_, ?_⟩
  · rw [hbuf, hcon]
    exact ⟨rfl, hunpacked, by omega, hpayload, h.wf, h.space⟩
  · rw [hbuf]
    exact (List.cons.inj hseq).1
  · rw [hbuf, h.unread_eq, hrest]

end Wire

/-! ### A packet in the buffer -/

section Packet

variable {env : Env} {con : Con} {φ φ' : ResponsePhase} {n : ℕ} {p : ResponsePacket}

/-- A packet of the protocol is of the type that is expected, and its reader reads on. -/
lemma next_readOn (env : Env) (h : con.At φ) (hb : con.Bears p.payload) (hn : φ.Next (.packet p) φ') :
    ∃ t, con.nextPacketQueue = [t] ∧ t ∈ [.response, .column, .row] ∧
      (Arrival.opened ⟨env, con⟩ t p.payload).ReadOn (arrive con ⟨env, con⟩) := by
  have hdeliver : ∀ {t : PacketType}, con.nextPacketQueue = [t] → arrive con ⟨env, con⟩ =
      (packetDispatch env (Arrival.opened ⟨env, con⟩ t p.payload) t).con := fun hq => deliver_of_bears hb hq
  have hanswer : con.nextPacketQueue = [.response] → con.status = .busy →
      (Arrival.opened ⟨env, con⟩ .response p.payload).ReadOn (arrive con ⟨env, con⟩) := fun hq hbusy => by
    rw [hdeliver hq]
    refine packetReadResponse_readOn env _ (.inl ?_)
    rw [opened_status, hbusy]
    decide
  cases hn with
  | ok _ _ => exact ⟨.response, h.1.queue_eq, by simp, hanswer h.1.queue_eq h.2.1⟩
  | err _ => exact ⟨.response, h.1.queue_eq, by simp, hanswer h.1.queue_eq h.2.1⟩
  | header _ _ _ => exact ⟨.response, h.1.queue_eq, by simp, hanswer h.1.queue_eq h.2.1⟩
  | definition hlt =>
    have hq := h.1.queue_eq
    rw [if_neg (by omega)] at hq
    refine ⟨.column, hq, by simp, ?_⟩
    rw [hdeliver hq]
    exact packetReadColumn_readOn env _
  | columnsEnd hlength =>
    have hq := h.1.queue_eq
    rw [if_pos hlength] at hq
    refine ⟨.response, hq, by simp, ?_⟩
    rw [hdeliver hq]
    have hfirst := opened_peekByte (a := ⟨env, con⟩) hb .response
    exact packetReadResponse_readOn env _ (.inr (hfirst ▸ by decide))
  | row _ =>
    refine ⟨.row, h.1.queue_eq, by simp, ?_⟩
    rw [hdeliver h.1.queue_eq]
    exact packetReadRow_readOn env _
  | rowsEnd =>
    refine ⟨.row, h.1.queue_eq, by simp, ?_⟩
    rw [hdeliver h.1.queue_eq]
    exact packetReadRow_readOn env _

/-- The bytes of a row are not consumed, those of any other packet are. -/
lemma arrive_supplies (h : con.At φ) (hb : con.Bears p.payload) (hn : φ.Next (.packet p) φ') (hg : env.Grants) :
    (arrive con ⟨env, con⟩).At φ' ∧ p.Found (arrive con ⟨env, con⟩) ∧
      ∃ b, (arrive con ⟨env, con⟩).readBuffer = some b ∧
        b.Supplies φ'.holdsRow (con.buf.unread.drop (4 + p.payload.length)) := by
  have haffordable : p.Affordable env := by
    cases hn with
    | header _ hlt _ => exact hg _ hlt
    | _ => trivial
  obtain ⟨⟨-, hfound, hpassed⟩, hnext⟩ :=
    response_turn (t := (.packet p, ⟨env, con⟩)) h ⟨.refl con, hb, haffordable⟩ hn
  refine ⟨hnext, hfound, ?_⟩
  obtain ⟨t, hq, -, -, hbuffer⟩ := next_readOn env h hb hn
  obtain ⟨b, hsome, hplace⟩ : ∃ b, (arrive con ⟨env, con⟩).readBuffer = some b ∧ b.buffer = con.buf.buffer ∧
      b.bufferSize = con.buf.bufferSize := by
    have hopened : (Arrival.opened ⟨env, con⟩ t p.payload).readBuffer =
        some ((con.buf.advance 4).setPacketEnd p.payload.length) := rfl
    rw [hopened] at hbuffer
    rcases hbuffer with he | he
    · exact ⟨_, he, rfl, rfl⟩
    · refine ⟨_, he, ?_⟩
      unfold BufferSt.packetReadEnd
      split_ifs <;> exact ⟨rfl, rfl⟩
  have hbuf : (arrive con ⟨env, con⟩).buf = b := by
    unfold Con.buf
    rw [hsome]
    rfl
  have hspace : b.buffer + b.bufferSize ≤ 2 ^ 64 := by
    rw [hplace.1, hplace.2]
    exact hb.space
  refine ⟨b, hsome, ?_⟩
  have hended : Arrival.Passed ⟨env, con⟩ (arrive con ⟨env, con⟩) p.payload.length →
      b.Supplies false (con.buf.unread.drop (4 + p.payload.length)) := fun ⟨hwf, hunread⟩ => by
    rw [hbuf] at hwf hunread
    exact ⟨hwf, hspace, 0, Nat.zero_le _, hunread, rfl⟩
  cases hn with
  | @row ds bytes hbytes =>
    obtain ⟨hwf, hunread⟩ : Arrival.Passed ⟨env, con⟩ (arrive con ⟨env, con⟩) 0 := hpassed
    obtain ⟨c, rest, hhead, hc⟩ := hbytes
    have hcomplete := hb.holds.complete
    -- the packet of a row is opened, and not ended
    have hfirst : (Arrival.opened ⟨env, con⟩ .row bytes).peekByte 0 ≠ 0xfe := by
      have hb' : con.Bears (c :: rest) := hhead ▸ hb
      have hpeek := opened_peekByte (a := ⟨env, con⟩) hb' .row
      rw [hhead, hpeek]
      exact hc
    have harrive : arrive con ⟨env, con⟩ = packetReadRow env (Arrival.opened ⟨env, con⟩ .row bytes) :=
      deliver_of_bears hb h.1.queue_eq
    have hopen : b = (con.buf.advance 4).setPacketEnd bytes.length := by
      rw [← hbuf, harrive]
      unfold packetReadRow
      rw [if_neg hfirst]
      rfl
    rw [hbuf] at hwf hunread
    refine ⟨hwf, hspace, bytes.length, ?_, ?_, ?_⟩
    · rw [← hwf.length_unread, hunread, List.length_drop, hb.wf.length_unread]
      exact Nat.le_sub_of_add_le hcomplete
    · rw [hunread, List.drop_drop]
      rfl
    · rw [hopen]
      rfl
  | ok _ _ => exact hended hpassed
  | err _ => exact hended hpassed
  | header _ _ _ => exact hended hpassed
  | definition _ => exact hended hpassed
  | columnsEnd _ => exact hended hpassed
  | rowsEnd => exact hended hpassed

lemma Con.InClear.number_succ (h : con.InClear n) (hlt : n + 1 < 128) : (con.packetNumber + 1).toNat = n + 1 := by
  have hone : (1 : UInt8).toNat = 1 := rfl
  rw [UInt8.toNat_add, h.number, hone]
  exact Nat.mod_eq_of_lt (by omega)

/-- The number of packets goes up by one. -/
lemma arrive_inClear (env : Env) (h : con.At φ) (hclear : con.InClear n) (hlt : n + 1 < 128) (hb : con.Bears p.payload)
    (hn : φ.Next (.packet p) φ') : (arrive con ⟨env, con⟩).InClear (n + 1) := by
  obtain ⟨t, -, ht, hline, -⟩ := next_readOn env h hb hn
  have hhandshake : t ≠ .handshake := by
    rintro rfl
    simp at ht
  have hopened : (Arrival.opened ⟨env, con⟩ t p.payload).line = { con with packetNumber := con.packetNumber + 1 }.line := by
    unfold Arrival.opened
    rw [packetReady_eq]
    unfold countPacket
    rw [if_neg hhandshake]
    rfl
  have hnext : { con with packetNumber := con.packetNumber + 1 }.InClear (n + 1) :=
    ⟨hclear.compression, hclear.handshakeDone, hclear.uv, hclear.bufferRows, hclear.number_succ hlt⟩
  exact hnext.of_line (hline.trans hopened)

/-- The number of a packet is accepted when it is the next one. -/
lemma accepts_next (hclear : con.InClear n) (hlt : n + 1 < 128) {t : PacketType} (ht : t ≠ .handshake) :
    con.Accepts t (UInt8.ofNat (n + 1)) := by
  have hnumber := hclear.number_succ hlt
  show (((if t = .handshake then con.packetNumber else con.packetNumber + 1).toNat : ℕ) : ℤ) = _
  rw [if_neg ht, eq_signedChar_iff, ← hnumber, UInt8.ofNat_toNat]
  exact ⟨rfl, by omega⟩

/-- A round of the loop with a packet of the protocol: the packet is taken, and the loop goes on, but for a row or the end of
the rows. -/
lemma processPacket_next (env : Env) (h : con.At φ) (hclear : con.InClear n) (hlt : n + 1 < 128) (hb : con.Bears p.payload)
    (hseq : con.buf.mem (con.buf.bufferReadPtr + 3) = UInt8.ofNat (n + 1)) (hn : φ.Next (.packet p) φ') :
    φ'.holdsRow = false ∧ processPacket env con = .again (arrive con ⟨env, con⟩) ∨
      (∃ ds, φ = .rows ds) ∧ processPacket env con = .done (arrive con ⟨env, con⟩) true := by
  obtain ⟨t, hq, ht, -⟩ := next_readOn env h hb hn
  have hhandshake : t ≠ .handshake := by
    rintro rfl
    simp at ht
  have hround : processPacket env con = _ := processPacket_accepted hb.holds hq (hseq ▸ accepts_next hclear hlt hhandshake)
  have harrive : arrive con ⟨env, con⟩ = _ := deliver_of_bears hb hq
  rw [hround, harrive]
  simp only [List.mem_cons, List.not_mem_nil, or_false] at ht
  have hrow : t ≠ .row → φ'.holdsRow = false := fun ht => by
    cases hn with
    | row _ => exact absurd (List.cons.inj (hq.symm.trans h.1.queue_eq)).1 ht
    | _ => rfl
  rcases ht with rfl | rfl | rfl
  · exact .inl ⟨hrow (by decide), rfl⟩
  · exact .inl ⟨hrow (by decide), rfl⟩
  · refine .inr ⟨?_, rfl⟩
    cases hn with
    | row _ => exact ⟨_, rfl⟩
    | rowsEnd => exact ⟨_, rfl⟩
    | ok _ _ => exact absurd (h.1.queue_eq.symm.trans hq) (by decide)
    | err _ => exact absurd (h.1.queue_eq.symm.trans hq) (by decide)
    | header _ _ _ => exact absurd (h.1.queue_eq.symm.trans hq) (by decide)
    | @definition m ds d hlt =>
      have hq' := h.1.queue_eq.symm.trans hq
      rw [if_neg (by omega)] at hq'
      cases hq'
    | columnsEnd hlength =>
      have hq' := h.1.queue_eq.symm.trans hq
      rw [if_pos hlength] at hq'
      cases hq'

/-- A round of the loop with a packet that is not there as a whole. -/
lemma processPacket_short {b : BufferSt} (env : Env) (hq : con.nextPacketQueue ≠ []) (hb : con.readBuffer = some b)
    (h : ¬ (4 ≤ b.unreadData ∧ unpackInt3 b.mem b.bufferReadPtr + 4 ≤ b.unreadData)) :
    ∃ con', processPacket env con = .done con' false ∧ con.Stands con' ∧ con'.line = con.line ∧
      con'.readBuffer = con.readBuffer := by
  unfold processPacket
  split
  · next hnil => exact absurd hnil hq
  · rw [hb]
    dsimp only
    split_ifs with h₁ h₂
    · exact ⟨con, rfl, .refl con, rfl, hb⟩
    · exact ⟨_, rfl, { Con.Stands.refl con with }, rfl, rfl⟩
    · exact absurd ⟨by omega, by omega⟩ h

end Packet

/-! ### The loop -/

section Loop

variable {env : Env} {con con₁ : Con} {φ φ₁ φ' : ResponsePhase} {n : ℕ} {ks us vs us' vs' : List Turn}
  {later later' : List UInt8} {rows rows' : List (List UInt8)}

/-- Some of the turns that were left are done, and these rows were brought. -/
structure Con.Advanced (con : Con) (φ : ResponsePhase) (n : ℕ) (ks : List Turn) (later : List UInt8)
    (rows : List (List UInt8)) (us vs : List Turn) (φ' : ResponsePhase) : Prop where
  split : ks = us ++ vs
  led : Leads ResponsePhase.Next φ us φ'
  underway : con.Underway φ' (n + packetCount us) vs later
  rows_eq : rows = rowsOf us

lemma Con.Underway.advanced (h : con.Underway φ n ks later) : con.Advanced φ n ks later [] [] ks φ := ⟨rfl, .nil _, h, rfl⟩

lemma Con.Advanced.trans (h : con.Advanced φ n ks later rows us vs φ₁)
    (h' : con₁.Advanced φ₁ (n + packetCount us) vs later' rows' us' vs' φ') :
    con₁.Advanced φ n ks later' (rows ++ rows') (us ++ us') vs' φ' := by
  obtain ⟨rfl, hled, -, rfl⟩ := h
  obtain ⟨rfl, hled', hunderway, rfl⟩ := h'
  have hcount : packetCount (us ++ us') = packetCount us + packetCount us' := List.countP_append
  refine ⟨(List.append_assoc ..).symm, hled.append hled', ?_, (List.filterMap_append ..).symm⟩
  rw [hcount, ← Nat.add_assoc]
  exact hunderway

/-- The row that the packet loop brings, if any. -/
def rowBrought (con con' : Con) : List (List UInt8) :=
  if con'.commandStatus = .rowInBuffer ∧ con.commandStatus ≠ .rowInBuffer then [con'.rowBytes] else []

/-- The phase goes with what a reader of responses leaves alone. -/
lemma Con.At.stands (h : con.At φ) (hs : con.Stands con₁) : con₁.At φ := by
  have hcolumns : ∀ {m : ℕ} {ds : List Definition}, con.HoldsColumns m ds → con₁.HoldsColumns m ds := fun ⟨h₁, h₂, h₃⟩ => by
    unfold Con.StoresColumn at h₃
    rw [← hs.result_eq] at h₁ h₂ h₃
    exact ⟨h₁, h₂, h₃⟩
  cases φ with
  | answer first =>
    obtain ⟨hawaits, hstatus, hcurrent, hserver⟩ := h
    exact ⟨hawaits.stands hs, hs.status_eq.trans hstatus, hs.result_eq ▸ hcurrent, hs.serverStatus_eq.trans hserver⟩
  | columns m ds =>
    obtain ⟨hawaits, hheld, hcurrent, hm⟩ := h
    exact ⟨hawaits.stands hs, hcolumns hheld, hs.result_eq ▸ hcurrent, hm⟩
  | rows ds => exact ⟨h.1.stands hs, hcolumns h.2⟩
  | row ds => exact ⟨h.1.stands hs, hs.status_eq.trans h.2.1, hcolumns h.2.2⟩
  | done ds more =>
    obtain ⟨hawaits, hstatus, hserver, hstored⟩ := h
    unfold Con.StoresColumn at hstored
    rw [← hs.result_eq] at hstored
    exact ⟨hawaits.stands hs, hs.status_eq.trans hstatus, hs.serverStatus_eq ▸ hserver, hstored⟩
  | closed more =>
    obtain ⟨hawaits, hstatus, hserver⟩ := h
    exact ⟨hawaits.stands hs, hs.status_eq.trans hstatus, hs.serverStatus_eq ▸ hserver⟩

/-- A row is in the buffer exactly in its phase. -/
lemma Con.At.commandStatus_iff (h : con.At φ) : con.commandStatus = .rowInBuffer ↔ φ.holdsRow = true := by
  cases φ with
  | answer first =>
    rw [h.1.commandStatus]
    cases first <;> decide
  | columns _ _ => exact iff_of_false (by rw [h.1.commandStatus]; decide) nofun
  | rows _ => exact iff_of_false (by rw [h.1.commandStatus]; decide) nofun
  | row _ => exact iff_of_true h.1.commandStatus rfl
  | done _ _ => exact iff_of_false (by rw [h.1.commandStatus]; decide) nofun
  | closed _ => exact iff_of_false (by rw [h.1.commandStatus]; decide) nofun

lemma Con.At.waiting (h : con.At φ) (hheld : φ.holdsRow = false) : con.commandStatus ≠ .rowInBuffer := fun hstatus => by
  rw [h.commandStatus_iff.mp hstatus] at hheld
  cases hheld

/-- While a packet is due no row is in the buffer. -/
lemma ResponsePhase.Next.listens {p : ResponsePacket} (h : φ.Next (.packet p) φ') : φ.holdsRow = false := by
  cases h <;> rfl

/-- When the next turn is not a packet, nothing is expected. -/
lemma Con.At.deaf (h : con.At φ) (hl : Leads ResponsePhase.Next φ ks (.closed false))
    (hk : ∀ p, ks.head? ≠ some (.packet p)) : con.nextPacketQueue = [] := by
  cases hl with
  | nil => exact h.1.queue_eq
  | cons hfirst _ =>
    cases hfirst with
    | request => exact h.1.queue_eq
    | close => exact h.1.queue_eq
    | next => exact h.1.queue_eq
    | _ => exact absurd rfl (hk _)

/-- A round that takes a packet. -/
lemma Con.Underway.taken {p : ResponsePacket} (h : con.Underway φ n (.packet p :: ks) later) (hb : con.Bears p.payload)
    (hrest : con.buf.unread.drop (4 + p.payload.length) ++ later = wire (n + 1) ks) (hn : φ.Next (.packet p) φ₁)
    (hl : Leads ResponsePhase.Next φ₁ ks (.closed false)) (hg : env.Grants) :
    (arrive con ⟨env, con⟩).Underway φ₁ (n + 1) ks later ∧ p.Found (arrive con ⟨env, con⟩) := by
  have hfew := h.few
  have hcount : packetCount (.packet p :: ks) = packetCount ks + 1 := List.countP_cons_of_pos rfl
  obtain ⟨hphase, hfound, hsupply⟩ := arrive_supplies h.phase hb hn hg
  refine ⟨⟨hphase, arrive_inClear env h.phase h.plain (by omega) hb hn, hl, ⟨_, .inr hsupply, hrest⟩, ?_, by omega⟩,
    hfound⟩
  exact fun q hq => h.small q (List.mem_cons_of_mem _ hq)

/-- What a packet brings. -/
lemma rowBrought_taken {p : ResponsePacket} (h : con.At φ) (h₁ : con₁.At φ₁) (hn : φ.Next (.packet p) φ₁)
    (hfound : p.Found con₁) : rowBrought con con₁ = rowsOf [.packet p] := by
  have hbefore : con.commandStatus ≠ .rowInBuffer := h.waiting hn.listens
  have hafter := h₁.commandStatus_iff
  unfold rowBrought
  cases hn with
  | row _ =>
    obtain ⟨q, hdata, hlength, hslice, -⟩ := hfound
    rw [if_pos ⟨hafter.mpr rfl, hbefore⟩]
    unfold Con.rowBytes
    rw [hdata, hlength]
    exact congrArg (· :: []) hslice
  | _ => exact if_neg fun hs => nomatch hafter.mp hs.1

/-- While a packet is due one is expected. -/
lemma Con.At.awaits {p : ResponsePacket} (h : con.At φ) (hn : φ.Next (.packet p) φ') : con.nextPacketQueue ≠ [] := by
  cases hn with
  | _ =>
    rw [h.1.queue_eq]
    exact List.cons_ne_nil _ _

/-- What no reader of a response looks at may change. -/
lemma Con.Underway.stands (h : con.Underway φ n ks later) (hs : con.Stands con₁) (hline : con₁.line = con.line)
    (hbuffer : con₁.readBuffer = con.readBuffer) : con₁.Underway φ n ks later := by
  refine ⟨h.phase.stands hs, h.plain.of_line hline, h.leads, ?_, h.small, h.few⟩
  unfold Con.Supplies
  rw [hbuffer]
  exact h.supply

lemma rowBrought_trans {con' : Con} (h : con.commandStatus ≠ .rowInBuffer) (h₁ : con₁.commandStatus ≠ .rowInBuffer) :
    rowBrought con con₁ ++ rowBrought con₁ con' = rowBrought con con' := by
  unfold rowBrought
  rw [if_neg fun hrow => h₁ hrow.1, List.nil_append]
  simp only [ne_eq, h, h₁, not_false_eq_true, and_true]

/-- While a packet is due, what comes next begins with it. -/
lemma Con.Underway.supplies_of_packet {p : ResponsePacket} {b : BufferSt} (h : con.Underway φ n (.packet p :: ks) later)
    (hb : con.readBuffer = some b) :
    ∃ bytes, b.Supplies false bytes ∧ bytes ++ later = frame (UInt8.ofNat (n + 1)) p.payload ++ wire (n + 1) ks := by
  obtain ⟨bytes, hsupply, hwire⟩ := h.supply
  have hheld : φ.holdsRow = false := by
    cases h.leads with
    | cons hfirst _ => exact hfirst.listens
  rw [hheld] at hsupply
  rcases hsupply with ⟨hnone, -⟩ | ⟨b', hb', hs⟩
  · rw [hb] at hnone
    cases hnone
  · obtain rfl := Option.some.inj (hb.symm.trans hb')
    exact ⟨bytes, hs, hwire⟩

/-- **The packet loop takes what is there**: it does turns of the protocol until the next one is not a packet, or one whose
bytes are not all there. -/
theorem processPacketsLoop_advances (hg : env.Grants) {fuel : ℕ} {b : BufferSt} (h : con.Underway φ n ks later)
    (hb : con.readBuffer = some b) (hfuel : b.unreadData < fuel) :
    ∃ us vs φ', (processPacketsLoop env fuel con).1.Advanced φ n ks later
        (rowBrought con (processPacketsLoop env fuel con).1) us vs φ' ∧
      (later = [] → ∀ p, vs.head? ≠ some (.packet p)) := by
  have hstay : ∀ con : Con, rowBrought con con = [] := fun con => if_neg fun hs => hs.2 hs.1
  induction fuel generalizing con φ n ks b with
  | zero => omega
  | succ fuel ih =>
    by_cases hk : ∀ p, ks.head? ≠ some (.packet p)
    · -- a call is due, or nothing
      rw [processPacketsLoop_deaf env (h.phase.deaf h.leads hk), hstay]
      exact ⟨[], ks, φ, h.advanced, fun _ => hk⟩
    · obtain ⟨p, hp⟩ := not_forall_not.mp hk
      obtain ⟨ks, rfl⟩ : ∃ ks', ks = .packet p :: ks' := by
        cases ks with
        | nil => cases hp
        | cons k ks =>
          obtain rfl := Option.some.inj hp
          exact ⟨ks, rfl⟩
      obtain ⟨φ₁, hn, hrest⟩ : ∃ φ₁, φ.Next (.packet p) φ₁ ∧ Leads ResponsePhase.Next φ₁ ks (.closed false) := by
        cases h.leads with
        | cons hfirst hrest => exact ⟨_, hfirst, hrest⟩
      have hsmall := h.small p (List.mem_cons_self ..)
      have hfew := h.few
      have hcount : packetCount (.packet p :: ks) = packetCount ks + 1 := List.countP_cons_of_pos rfl
      obtain ⟨bytes, hs, hwire⟩ := h.supplies_of_packet hb
      have hlength : bytes.length = b.unreadData := by rw [← hs.unread_eq, hs.wf.length_unread]
      by_cases hcomplete : p.payload.length + 4 ≤ bytes.length
      · obtain ⟨hbears, hseq, hbehind⟩ := bears_of_wire hb hs hwire hsmall hcomplete
        obtain ⟨hunder, hfound⟩ := h.taken hbears hbehind hn hrest hg
        obtain ⟨-, -, b₁, hb₁, hs₁⟩ := arrive_supplies h.phase hbears hn hg
        have hbrought := rowBrought_taken h.phase hunder.phase hn hfound
        have hfirst : (arrive con ⟨env, con⟩).Advanced φ n (.packet p :: ks) later
            (rowBrought con (arrive con ⟨env, con⟩)) [.packet p] ks φ₁ := ⟨rfl, .cons hn (.nil _), hunder, hbrought⟩
        rcases processPacket_next env h.phase h.plain (by omega) hbears hseq hn with ⟨hrow, hround⟩ | ⟨⟨ds, rfl⟩, hround⟩
        · have hloop : processPacketsLoop env (fuel + 1) con = processPacketsLoop env fuel (arrive con ⟨env, con⟩) := by
            rw [processPacketsLoop, hround]
          rw [hrow] at hs₁
          have hunread : b₁.unreadData = con.buf.unread.length - (4 + p.payload.length) := by
            rw [← hs₁.wf.length_unread, hs₁.unread_eq, List.length_drop]
          have hbuf : con.buf = b := by
            unfold Con.buf
            rw [hb]
            rfl
          rw [hbuf, hs.unread_eq] at hunread
          obtain ⟨us, vs, φ', hothers, hsettled⟩ := ih hunder hb₁ (by omega)
          have hrows : rowBrought con (arrive con ⟨env, con⟩) ++
              rowBrought (arrive con ⟨env, con⟩) (processPacketsLoop env fuel (arrive con ⟨env, con⟩)).1 =
                rowBrought con (processPacketsLoop env fuel (arrive con ⟨env, con⟩)).1 :=
            rowBrought_trans (h.phase.waiting hn.listens) (hunder.phase.waiting hrow)
          rw [hloop, ← hrows]
          exact ⟨_, vs, φ', hfirst.trans hothers, hsettled⟩
        · have hloop : processPacketsLoop env (fuel + 1) con = (arrive con ⟨env, con⟩, true) := by
            rw [processPacketsLoop, hround]
          rw [hloop]
          refine ⟨_, ks, φ₁, hfirst, fun _ q hq => ?_⟩
          -- a row, and the end of the rows, wait for a call
          cases hn <;> cases hrest with
          | cons hnext _ =>
            cases hnext
            cases hq
      · have hshort : ¬(4 ≤ b.unreadData ∧ unpackInt3 b.mem b.bufferReadPtr + 4 ≤ b.unreadData) := by
          rintro ⟨hfour, hlong⟩
          rw [unpackInt3_of_wire hs hwire hsmall (by omega)] at hlong
          omega
        obtain ⟨con₁, hround, hstands, hline, hbuffer⟩ := processPacket_short env (h.phase.awaits hn) hb hshort
        have hloop : processPacketsLoop env (fuel + 1) con = (con₁, false) := by
          rw [processPacketsLoop, hround]
        have hbrought : rowBrought con con₁ = [] := if_neg fun hrow => hrow.2 (hstands.commandStatus_eq ▸ hrow.1)
        rw [hloop, hbrought]
        refine ⟨[], _, φ, (h.stands hstands hline hbuffer).advanced, fun hlater q hq => ?_⟩
        rw [hlater, List.append_nil] at hwire
        rw [hwire, List.length_append, length_frame] at hcomplete
        omega

/-- **`attachsql_con_process_packets` takes what is there.** -/
theorem processPackets_advances (hg : env.Grants) (h : con.Underway φ n ks later) :
    ∃ us vs φ', (processPackets env con).1.Advanced φ n ks later (rowBrought con (processPackets env con).1) us vs φ' ∧
      (later = [] → ∀ p, vs.head? ≠ some (.packet p)) := by
  unfold processPackets
  dsimp only
  rw [if_neg (Bool.eq_false_iff.mp h.plain.compression)]
  cases hb : con.readBuffer with
  | none =>
    have hstay : rowBrought con con = [] := if_neg fun hs => hs.2 hs.1
    rw [Option.isNone_none, if_pos rfl, hstay]
    refine ⟨[], ks, φ, h.advanced, fun hlater p hp => ?_⟩
    -- nothing has arrived
    obtain ⟨bytes, hsupply, hwire⟩ := h.supply
    obtain rfl : bytes = [] := by
      rcases hsupply with ⟨-, -, hnil⟩ | ⟨b, hsome, -⟩
      · exact hnil
      · rw [hb] at hsome
        cases hsome
    rw [hlater] at hwire
    cases ks with
    | nil => cases hp
    | cons k ks =>
      obtain rfl := Option.some.inj hp
      have hlength := congrArg List.length hwire
      change 0 = (frame _ p.payload ++ wire (n + 1) ks).length at hlength
      rw [List.length_append, length_frame] at hlength
      omega
  | some b =>
    have hbuf : con.buf = b := by
      unfold Con.buf
      rw [hb]
      rfl
    rw [Option.isNone_some, if_neg Bool.false_ne_true, hbuf]
    exact processPacketsLoop_advances hg h hb (Nat.lt_succ_self _)

end Loop

/-! ### Occurrences -/

section Occurrences

variable {env : Env} {con : Con} {φ φ' : ResponsePhase} {n : ℕ} {ks : List Turn} {later bytes : List UInt8}

/-- Bytes are there before the loop runs. -/
lemma Con.Underway.received {b : BufferSt} {size : ℕ} (h : con.Underway φ n ks (bytes ++ later))
    (hb : bufferOr env con.readBuffer = some b) (hroom : b.HasRoom env size bytes) :
    ({ con with readBuffer := some ((b.withRoom env size).append bytes) }.log (.received bytes)).Underway φ n ks later := by
  obtain ⟨hu, -, hfit, hspace⟩ := hroom
  obtain ⟨before, hsupply, hwire⟩ := h.supply
  have hahead : b.Wf ∧ b.Ahead φ.holdsRow before := by
    rcases hsupply with ⟨hnone, hheld, rfl⟩ | ⟨b', hsome, hwf, -, hahead⟩
    · rw [hnone] at hb
      rw [hheld]
      exact ahead_bufferCreate hb
    · rw [hsome] at hb
      obtain rfl := Option.some.inj hb
      exact ⟨hwf, hahead⟩
  have hgrown := hahead.1.withRoom_supplies hahead.2 hu hspace
  have hwide := hgrown.wf.available_of_unwrapped (hu.withRoom hahead.1)
  have hsupplies := hgrown.append (hfit.trans hwide)
  refine ⟨h.phase.stands { Con.Stands.refl con with }, h.plain.of_line rfl, h.leads, ⟨before ++ bytes, ?_, ?_⟩, h.small,
    h.few⟩
  · exact .inr ⟨_, rfl, hsupplies⟩
  · rw [List.append_assoc, hwire]

/-- What a read of libuv does in the clear. -/
lemma uvRead_eq {b : BufferSt} {size : ℕ} (h : con.InClear n) (hb : bufferOr env con.readBuffer = some b)
    (hroom : b.HasRoom env size bytes) : uvRead env con size bytes = (processPackets env
      ({ con with readBuffer := some ((b.withRoom env size).append bytes) }.log (.received bytes))).1 := by
  obtain ⟨-, hpos, hfit, -⟩ := hroom
  have hhandshake := h.handshakeDone
  have hcompression := h.compression
  have halloc : onAlloc env con size =
      ({ con with readBuffer := some (b.withRoom env size) }, some (b.withRoom env size).available) := by
    have hbio : allocBio env con size = con := if_neg fun hs => Bool.eq_false_iff.mp hhandshake hs.1
    unfold onAlloc
    rw [hbio]
    dsimp only
    rw [if_neg (Bool.eq_false_iff.mp hcompression), allocBuffer_eq, hb]
    unfold handOut
    dsimp only [Option.map_some]
    rw [if_neg (Bool.eq_false_iff.mp hhandshake)]
  obtain ⟨m, hm⟩ := Nat.exists_eq_succ_of_ne_zero hpos.ne'
  unfold uvRead
  rw [halloc, hm]
  dsimp only
  rw [List.take_of_length_le (by omega)]
  unfold readDataCb storeRead
  dsimp only
  rw [if_neg (Bool.eq_false_iff.mp hcompression)]
  dsimp only
  rw [if_neg (Bool.eq_false_iff.mp hhandshake), if_neg (Bool.eq_false_iff.mp hcompression)]

/-- A call that is due, and leaves the line and the read buffer alone. -/
lemma Con.Underway.called {con₁ : Con} {φ₁ : ResponsePhase} {k : Turn} (h : con.Underway φ n (k :: ks) later)
    (hk : k.isPacket = false) (h₁ : con₁.At φ₁) (hline : con₁.line = con.line) (hbuffer : con₁.readBuffer = con.readBuffer)
    (hheld : φ.holdsRow = φ₁.holdsRow) (hl : Leads ResponsePhase.Next φ₁ ks (.closed false)) :
    con₁.Underway φ₁ n ks later := by
  have hwire : wire n (k :: ks) = wire n ks := by
    cases k with
    | packet p => cases hk
    | _ => rfl
  have hcount : packetCount (k :: ks) = packetCount ks := List.countP_cons_of_neg (Bool.eq_false_iff.mp hk)
  obtain ⟨before, hsupply, hbytes⟩ := h.supply
  have hfew := h.few
  have hsmall := fun p hp => h.small p (List.mem_cons_of_mem _ hp)
  refine ⟨h₁, h.plain.of_line hline, hl, ⟨before, ?_, hwire ▸ hbytes⟩, hsmall, by omega⟩
  unfold Con.Supplies at hsupply ⊢
  rw [hbuffer, ← hheld]
  exact hsupply

/-- `attachsql_get_next_row` consumes the row and takes what is there behind it. -/
lemma getNextRow_advances {ds : List Definition} (hg : env.Grants) (h : con.Underway (.row ds) n ks later) :
    ∃ us vs φ', (getNextRow env con).Advanced (.row ds) n ks later
      (if (getNextRow env con).commandStatus = .rowInBuffer then [(getNextRow env con).rowBytes] else [])
        (.request :: us) vs φ' := by
  obtain ⟨ks, rfl, hrest⟩ : ∃ ks', ks = .request :: ks' ∧ Leads ResponsePhase.Next (.rows ds) ks' (.closed false) := by
    cases h.leads with
    | cons hfirst hrest =>
      cases hfirst
      exact ⟨_, rfl, hrest⟩
  obtain ⟨before, hsupply, hbytes⟩ := h.supply
  obtain ⟨b, hb, hs⟩ : ∃ b, con.readBuffer = some b ∧ b.Supplies true before := by
    rcases hsupply with ⟨-, hheld, -⟩ | hsome
    · cases hheld
    · exact hsome
  have hnext : getNextRow env con = (processPackets env (requestRow env con)).1 := by
    unfold getNextRow
    rw [hb]
    rfl
  obtain ⟨-, hphase⟩ := request_turn (a := ⟨env, con⟩) h.phase (.refl con) (by rw [hb]; rfl)
  obtain ⟨hline, hbuffer⟩ := packetQueuePush_line env ((packetReadEnd con).log .rowRequested) .row
  have hended : (requestRow env con).readBuffer = some b.packetReadEnd :=
    hbuffer.trans (congrArg (Option.map BufferSt.packetReadEnd) hb)
  have hfew := h.few
  have hcount : ∀ ks, packetCount (.request :: ks) = packetCount ks := fun _ => List.countP_cons_of_neg Bool.false_ne_true
  rw [hcount] at hfew
  have hunder : (requestRow env con).Underway (.rows ds) n ks later :=
    ⟨hphase, h.plain.of_line hline, hrest, ⟨before, .inr ⟨_, hended, hs.ended⟩, hbytes⟩,
      fun p hp => h.small p (List.mem_cons_of_mem _ hp), hfew⟩
  obtain ⟨us, vs, φ', ⟨rfl, hled, hlast, hrows⟩, -⟩ := processPackets_advances hg hunder
  have hbefore : (requestRow env con).commandStatus ≠ .rowInBuffer := hphase.waiting rfl
  unfold rowBrought at hrows
  simp only [ne_eq, hbefore, not_false_eq_true, and_true] at hrows
  rw [hnext]
  exact ⟨us, vs, φ', rfl, .cons .request hled, by rw [hcount]; exact hlast, hrows⟩

/-- `attachsql_query_close` behind a result that was read. -/
lemma queryClose_advances (h : con.Underway φ n ks later) (hs : con.commandStatus = .eof) :
    ∃ us vs more, (queryClose con).Advanced φ n ks later [] us vs (.closed more) ∧ (us = [] → φ = .closed more) := by
  cases φ with
  | done ds more =>
    obtain ⟨ks, rfl, hrest⟩ : ∃ ks', ks = .close :: ks' ∧ Leads ResponsePhase.Next (.closed more) ks' (.closed false) := by
      cases h.leads with
      | cons hfirst hrest =>
        cases hfirst
        exact ⟨_, rfl, hrest⟩
    obtain ⟨-, hphase⟩ := close_turn (a := ⟨Env.calm, con⟩) h.phase (.refl con)
    exact ⟨[.close], ks, more, ⟨rfl, .cons .close (.nil _), h.called rfl hphase rfl rfl rfl hrest, rfl⟩, nofun⟩
  | closed more =>
    obtain ⟨hawaits, hidle, hmore⟩ := h.phase
    obtain ⟨hclosed, hstatus, hserver, -⟩ := queryClose_awaiting hawaits
    have hunder : (queryClose con).Underway (.closed more) n ks later :=
      ⟨⟨hclosed, hstatus.trans hidle, hserver ▸ hmore⟩, h.plain.of_line rfl, h.leads, h.supply, h.small, h.few⟩
    exact ⟨[], ks, more, ⟨rfl, .nil _, hunder, rfl⟩, fun _ => rfl⟩
  | answer first =>
    rw [h.phase.1.commandStatus] at hs
    cases first <;> cases hs
  | columns _ _ => exact absurd (h.phase.1.commandStatus.symm.trans hs) (by decide)
  | rows _ => exact absurd (h.phase.1.commandStatus.symm.trans hs) (by decide)
  | row _ => exact absurd (h.phase.1.commandStatus.symm.trans hs) (by decide)

/-- `attachsql_query_next_result` goes on when there is another result. -/
lemma queryNextResult_advances {more : Bool} (h : con.Underway (.closed more) n ks later) :
    ∃ us vs φ', (queryNextResult env con).1.Advanced (.closed more) n ks later [] us vs φ' ∧ φ'.holdsRow = false ∧
      (us = [] → more = false) := by
  have hnext : (queryNextResult env con).1 = (commandNextResult env con).1 := by
    unfold queryNextResult
    split
    · next he => rw [he]
    · next he => rw [he]
  have hmore := h.phase.2.2
  rw [hnext]
  cases hl : more with
  | false =>
    subst hl
    unfold commandNextResult
    rw [if_neg (Bool.eq_false_iff.mp hmore)]
    exact ⟨[], ks, _, h.advanced, rfl, fun _ => rfl⟩
  | true =>
    subst hl
    obtain ⟨ks, rfl, hrest⟩ : ∃ ks', ks = .next :: ks' ∧ Leads ResponsePhase.Next (.answer false) ks' (.closed false) := by
      cases h.leads with
      | cons hfirst hrest =>
        cases hfirst
        exact ⟨_, rfl, hrest⟩
    obtain ⟨-, hphase⟩ := next_turn (a := ⟨env, con⟩) h.phase (.refl con)
    have hkept : (commandNextResult env con).1.line = con.line ∧
        (commandNextResult env con).1.readBuffer = con.readBuffer := by
      unfold commandNextResult
      rw [if_pos hmore]
      exact packetQueuePush_line env ((resetInternals con).log (.nextResult con.status)) .response
    have hunder := h.called rfl hphase hkept.1 hkept.2 rfl hrest
    exact ⟨[.next], ks, .answer false, ⟨rfl, .cons .next (.nil _), hunder, rfl⟩, rfl, nofun⟩

/-- When a call is due, there is a row, or a result that was read. -/
lemma Con.At.calls {k : Turn} (h : con.At φ) (hn : φ.Next k φ') (hk : k.isPacket = false) :
    con.commandStatus = .rowInBuffer ∨ con.commandStatus = .eof := by
  cases hn with
  | request => exact .inl h.1.commandStatus
  | close => exact .inr h.1.commandStatus
  | next => exact .inr h.1.commandStatus
  | _ => cases hk

/-- A reaction is some turns of the protocol, and at least one when a call is due. -/
theorem react_advances (hg : env.Grants) (h : con.Underway φ n ks later) :
    ∃ us vs φ', (react env con).Advanced φ n ks later (Occurrence.rows con (.react env)) us vs φ' ∧
      (∀ k ∈ ks.head?, k.isPacket = false → us ≠ []) := by
  show ∃ us vs φ', (react env con).Advanced φ n ks later
    (if (react env con).commandStatus = .rowInBuffer then [(react env con).rowBytes] else []) us vs φ' ∧ _
  by_cases hrow : con.commandStatus = .rowInBuffer
  · obtain ⟨ds, rfl⟩ : ∃ ds, φ = .row ds := by
      have hheld := h.phase.commandStatus_iff.mp hrow
      cases φ with
      | row ds => exact ⟨ds, rfl⟩
      | _ => cases hheld
    have hreact : react env con = getNextRow env (({ con with lastCallback := .none }).log .rowNext) := by
      unfold react queryRowNext
      rw [if_pos hrow]
      exact if_neg (Bool.eq_false_iff.mp h.plain.bufferRows)
    have hunder : (({ con with lastCallback := .none }).log .rowNext).Underway (.row ds) n ks later :=
      h.stands { Con.Stands.refl con with } rfl rfl
    rw [hreact]
    obtain ⟨us, vs, φ', hnext⟩ := getNextRow_advances hg hunder
    exact ⟨_, vs, φ', hnext, fun _ _ _ => List.cons_ne_nil _ _⟩
  by_cases hend : con.commandStatus = .eof
  · have hreact : react env con = (queryNextResult env (queryClose con)).1 := by
      unfold react
      rw [if_neg hrow, if_pos hend]
    obtain ⟨us, vs, more, hclosed, hstill⟩ := queryClose_advances h hend
    obtain ⟨us', vs', φ', hnext, hheld, hlast⟩ := @queryNextResult_advances env _ _ _ _ _ hclosed.underway
    rw [hreact, if_neg (hnext.underway.phase.waiting hheld)]
    refine ⟨_, vs', φ', hclosed.trans hnext, fun k hk hcall hnone => ?_⟩
    -- where neither closes a result nor goes on to another one, no call is due
    obtain ⟨rfl, rfl⟩ := List.append_eq_nil_iff.mp hnone
    obtain rfl := hstill rfl
    obtain rfl := hlast rfl
    cases h.leads with
    | nil => cases hk
    | cons hfirst _ => cases hfirst
  · have hreact : react env con = con := by
      unfold react
      rw [if_neg hrow, if_neg hend]
    rw [hreact, if_neg hrow]
    refine ⟨[], ks, φ, h.advanced, fun k hk hcall => ?_⟩
    cases h.leads with
    | nil => cases hk
    | cons hfirst _ =>
      obtain rfl := Option.some.inj hk
      rcases h.phase.calls hfirst hcall with hs | hs
      · exact absurd hs hrow
      · exact absurd hs hend

/-- **Whatever occurs** is some turns of the protocol, and brings their rows. -/
theorem occur_advances {o : Occurrence} (h : con.Underway φ n ks (o.bytes ++ later)) (hf : o.Fits con) :
    ∃ us vs φ', (occur con o).Advanced φ n ks later (o.rows con) us vs φ' := by
  cases o with
  | read env size bytes =>
    obtain ⟨hg, b, hb, hroom⟩ := hf
    have hread : occur con (.read env size bytes) = uvRead env con size bytes := if_pos h.plain.uv
    obtain ⟨us, vs, φ', hadvanced, -⟩ := processPackets_advances hg (h.received hb hroom)
    unfold Occurrence.rows
    rw [hread, uvRead_eq h.plain hb hroom]
    exact ⟨us, vs, φ', hadvanced⟩
  | check env =>
    have hcheck : occur con (.check env) = (processPackets env con).1 := if_pos h.plain.uv
    obtain ⟨us, vs, φ', hadvanced, -⟩ := processPackets_advances hf.1 h
    unfold Occurrence.rows
    rw [hcheck]
    exact ⟨us, vs, φ', hadvanced⟩
  | react env =>
    obtain ⟨us, vs, φ', hadvanced, -⟩ := react_advances hf.1 h
    exact ⟨us, vs, φ', hadvanced⟩

/-- **Whatever occurs, in whatever order**, is some turns of the protocol, and brings their rows. -/
theorem run_advances {os : List Occurrence} (h : con.Underway φ n ks (os.flatMap Occurrence.bytes ++ later))
    (hf : Along occur (fun con o => o.Fits con) con os) :
    ∃ us vs φ', (run occur con os).Advanced φ n ks later (rowsBrought con os) us vs φ' := by
  induction os generalizing con φ n ks with
  | nil => exact ⟨[], ks, φ, h.advanced⟩
  | cons o os ih =>
    rw [List.flatMap_cons, List.append_assoc] at h
    obtain ⟨us, vs, φ₁, hfirst⟩ := occur_advances h hf.1
    obtain ⟨us', vs', φ', hrest⟩ := ih hfirst.underway hf.2
    exact ⟨_, vs', φ', hfirst.trans hrest⟩

/-! ### Everything is read -/

lemma rowsBrought_append (con : Con) (os os' : List Occurrence) :
    rowsBrought con (os ++ os') = rowsBrought con os ++ rowsBrought (run occur con os) os' := by
  induction os generalizing con with
  | nil => rfl
  | cons o os ih =>
    have hrest := ih (occur con o)
    show o.rows con ++ rowsBrought (occur con o) (os ++ os') = (o.rows con ++ rowsBrought (occur con o) os) ++ _
    rw [hrest, List.append_assoc]
    rfl

/-- The application reacts and the check callback runs, again and again. -/
def reactions (envs : List (Env × Env)) : List Occurrence := envs.flatMap fun e => [.react e.1, .check e.2]

/-- When everything has arrived, the check callback leaves no packet that is due. -/
lemma check_settles (hg : env.Grants) (h : con.Underway φ n ks []) :
    ∃ us vs φ', (occur con (.check env)).Advanced φ n ks [] (Occurrence.rows con (.check env)) us vs φ' ∧
      ∀ p, vs.head? ≠ some (.packet p) := by
  have hcheck : occur con (.check env) = (processPackets env con).1 := if_pos h.plain.uv
  obtain ⟨us, vs, φ', hadvanced, hsettled⟩ := processPackets_advances hg h
  unfold Occurrence.rows
  rw [hcheck]
  exact ⟨us, vs, φ', hadvanced, hsettled rfl⟩

/-- As many reactions as there are turns are enough. -/
theorem reactions_complete {envs : List (Env × Env)} (hg : ∀ e ∈ envs, e.1.Grants ∧ e.2.Grants) (h : con.Underway φ n ks [])
    (hk : ∀ p, ks.head? ≠ some (.packet p)) (hlength : ks.length ≤ envs.length) :
    ∃ φ', (run occur con (reactions envs)).Advanced φ n ks [] (rowsBrought con (reactions envs)) ks [] φ' := by
  induction envs generalizing con φ n ks with
  | nil =>
    obtain rfl := List.length_eq_zero_iff.mp (Nat.le_zero.mp hlength)
    exact ⟨φ, h.advanced⟩
  | cons e envs ih =>
    obtain ⟨⟨hreact, hcheck⟩, hg⟩ := List.forall_mem_cons.mp hg
    obtain ⟨us, vs, φ₁, hfirst, hprogress⟩ := react_advances hreact h
    obtain ⟨us', vs', φ₂, hsecond, hsettled⟩ := check_settles hcheck hfirst.underway
    have hboth := hfirst.trans hsecond
    have hshorter : vs'.length ≤ envs.length := by
      have hsplit := congrArg List.length hboth.split
      simp only [List.length_append, List.length_cons] at hsplit hlength
      cases ks with
      | nil =>
        simp only [List.length_nil] at hsplit
        omega
      | cons k ks =>
        have hcall : k.isPacket = false := by
          cases k with
          | packet p => exact absurd rfl (hk p)
          | _ => rfl
        have hsome := List.length_pos_iff.mpr (hprogress k rfl hcall)
        omega
    obtain ⟨φ', hrest⟩ := ih hg hboth.underway hsettled hshorter
    have hall := hboth.trans hrest
    rw [← hboth.split, List.append_assoc] at hall
    exact ⟨φ', hall⟩

/-! ### The query -/

/-- A command that is sent in the clear begins to count the packets, and leaves the read buffer alone. -/
lemma commandSend_inClear (env : Env) (cmd : Command) (data : List UInt8) (h : con.InClear n)
    (hc : con.wantsCompress = false) :
    (commandSend env con cmd data).1.InClear 0 ∧ (commandSend env con cmd data).1.readBuffer = con.readBuffer := by
  have hstart : (commandStart con cmd data.length).InClear 0 := by
    constructor <;> simp only [commandStart, resetInternals, Con.log, h.compression, h.handshakeDone, h.uv, h.bufferRows]
    rfl
  have hbuffer : (commandStart con cmd data.length).readBuffer = con.readBuffer := by
    simp only [commandStart, resetInternals, Con.log]
  have hcompress : ¬(commandStart con cmd data.length).wantsCompress = true := by
    rw [commandStart_wantsCompress, hc]
    exact Bool.false_ne_true
  unfold commandSend
  dsimp only
  rw [if_neg hcompress]
  generalize commandStart con cmd data.length = con₀ at hstart hbuffer ⊢
  have hwritten : (commandWrite env con₀ cmd data).1.line = con₀.line ∧
      (commandWrite env con₀ cmd data).1.readBuffer = con₀.readBuffer := by
    unfold commandWrite netWrite
    dsimp only
    rw [if_neg (Bool.eq_false_iff.mp hstart.handshakeDone)]
    unfold uvWrite
    split
    · split <;> exact ⟨rfl, rfl⟩
    · exact ⟨rfl, rfl⟩
  obtain ⟨hline, hread⟩ := hwritten
  unfold commandSendPlain
  split
  · next con₁ name hw =>
    rw [hw] at hline hread
    exact ⟨hstart.of_line hline, hread.trans hbuffer⟩
  · next con₁ hw =>
    rw [hw] at hline hread
    have hexpected : (expectedResponse env con₁ cmd).line = con₁.line ∧
        (expectedResponse env con₁ cmd).readBuffer = con₁.readBuffer := by
      unfold expectedResponse
      split
      · exact packetQueuePush_line env con₁ .prepareResponse
      · exact ⟨rfl, rfl⟩
      · exact ⟨rfl, rfl⟩
      · exact packetQueuePush_line env con₁ .response
    exact ⟨hstart.of_line (hexpected.1.trans hline), hexpected.2.trans (hread.trans hbuffer)⟩

/-- A query that was sent in the clear is underway. -/
lemma commandSend_underway {data : List UInt8} (hq : con.nextPacketQueue = []) (hclear : con.InClear n)
    (hc : con.wantsCompress = false) (hsupply : con.Supplies false [])
    (hsent : (commandSend env con .query data).1.nextPacketQueue = [.response])
    (hl : Leads ResponsePhase.Next (.answer true) ks (.closed false))
    (hsmall : ∀ p, .packet p ∈ ks → p.payload.length < 2 ^ 24) (hfew : packetCount ks < 128) :
    (commandSend env con .query data).1.Underway (.answer true) 0 ks (wire 0 ks) := by
  obtain ⟨hstart, hbuffer⟩ := commandSend_inClear env .query data hclear hc
  refine ⟨commandSend_answers env hq (.inl rfl) data hsent, hstart, hl, ⟨[], ?_, rfl⟩, hsmall, by omega⟩
  unfold Con.Supplies
  rw [hbuffer]
  exact hsupply

/-- **A response over the network.**  A query was sent in the clear, and nothing else is expected.  However the bytes of the
response are cut into reads, and whenever the check callback runs and the application reacts: the connection is in a phase
the protocol may be in, and the rows that were brought are those of the turns that led there. -/
theorem response_over_network {data : List UInt8} (hq : con.nextPacketQueue = []) (hclear : con.InClear n)
    (hc : con.wantsCompress = false) (hsupply : con.Supplies false [])
    (hsent : (commandSend env con .query data).1.nextPacketQueue = [.response])
    (hl : Leads ResponsePhase.Next (.answer true) ks (.closed false))
    (hsmall : ∀ p, .packet p ∈ ks → p.payload.length < 2 ^ 24) (hfew : packetCount ks < 128) {os : List Occurrence}
    (hf : Along occur (fun con o => o.Fits con) (commandSend env con .query data).1 os)
    (hbytes : os.flatMap Occurrence.bytes ++ later = wire 0 ks) :
    ∃ us vs φ', ks = us ++ vs ∧ Leads ResponsePhase.Next (.answer true) us φ' ∧
      (run occur (commandSend env con .query data).1 os).At φ' ∧
      rowsBrought (commandSend env con .query data).1 os = rowsOf us := by
  have hunder := commandSend_underway hq hclear hc hsupply hsent hl hsmall hfew
  rw [← hbytes] at hunder
  obtain ⟨us, vs, φ', hadvanced⟩ := run_advances hunder hf
  exact ⟨us, vs, φ', hadvanced.split, hadvanced.led, hadvanced.underway.phase, hadvanced.rows_eq⟩

/-- **A response is read to its end.**  When all its bytes have arrived, however they were cut and whatever occurred
meanwhile, then the check callback runs and the application reacts as often as there are turns left: all rows are brought,
in their order, and every result of the chain is closed. -/
theorem response_read_over_network {data : List UInt8} (hq : con.nextPacketQueue = []) (hclear : con.InClear n)
    (hc : con.wantsCompress = false) (hsupply : con.Supplies false [])
    (hsent : (commandSend env con .query data).1.nextPacketQueue = [.response])
    (hl : Leads ResponsePhase.Next (.answer true) ks (.closed false))
    (hsmall : ∀ p, .packet p ∈ ks → p.payload.length < 2 ^ 24) (hfew : packetCount ks < 128) {os : List Occurrence}
    (hf : Along occur (fun con o => o.Fits con) (commandSend env con .query data).1 os)
    (hbytes : os.flatMap Occurrence.bytes = wire 0 ks) {last : Env} (hlast : last.Grants) {envs : List (Env × Env)}
    (hg : ∀ e ∈ envs, e.1.Grants ∧ e.2.Grants) (hlength : ks.length ≤ envs.length) :
    rowsBrought (commandSend env con .query data).1 (os ++ .check last :: reactions envs) = rowsOf ks ∧
      (run occur (commandSend env con .query data).1 (os ++ .check last :: reactions envs)).At (.closed false) := by
  have hunder := commandSend_underway hq hclear hc hsupply hsent hl hsmall hfew
  rw [← hbytes, ← List.append_nil (os.flatMap _)] at hunder
  obtain ⟨us, vs, φ₁, hfirst⟩ := run_advances hunder hf
  obtain ⟨us', vs', φ₂, hsecond, hsettled⟩ := check_settles hlast hfirst.underway
  have hleft : vs'.length ≤ envs.length := by
    have hsplit := congrArg List.length (hfirst.trans hsecond).split
    rw [List.length_append] at hsplit
    omega
  obtain ⟨φ', hrest⟩ := reactions_complete hg hsecond.underway hsettled hleft
  obtain ⟨hsplit, -, hend, hrows⟩ := hfirst.trans (hsecond.trans hrest)
  rw [List.append_nil] at hsplit
  refine ⟨?_, ?_⟩
  · rw [rowsBrought_append, hsplit]
    exact hrows
  · have hphase := hend.phase
    cases hend.leads
    rw [run_append]
    exact hphase

end Occurrences

/-! ### Two answers in pieces -/

lemma grants_calm : Env.calm.Grants := fun n hn => by
  have hsize : n * sizeofColumn ≤ ptrdiffMax := by
    unfold sizeofColumn ptrdiffMax
    omega
  unfold Env.newArray Malloc.get
  rw [if_pos hsize]
  rfl

instance instDecidableRoomToRead (b : BufferSt) (env : Env) (size : ℕ) (bytes : List UInt8) :
    Decidable (b.HasRoom env size bytes) := by
  unfold BufferSt.HasRoom Copy.Unwrapped
  infer_instance

instance (con : Con) (o : Occurrence) : Decidable (o.Roomy con) :=
  match o with
  | .read env size bytes =>
    inferInstanceAs (Decidable (∃ b ∈ bufferOr env con.readBuffer, b.HasRoom env size bytes))
  | .check _ => isTrue trivial
  | .react _ => isTrue trivial

/-- The turns of both answers, and the end. -/
def twoAnswersClosed : List Turn := twoAnswers ++ [.close]

/-- Their packets arrive in three pieces, and the application reacts in between. -/
def inPieces : List Occurrence :=
  let bytes := wire 0 twoAnswersClosed
  [.read .calm 65536 (bytes.take 7), .react .calm, .check .calm, .read .calm 65536 ((bytes.drop 7).take 51), .react .calm,
    .read .calm 65536 (bytes.drop 58)]

lemma twoAnswersClosed_leads : Leads ResponsePhase.Next (.answer true) twoAnswersClosed (.closed false) := by
  refine .cons (.header (by decide) (by decide) (.inl (by decide))) (.cons (.definition (by decide)) ?_)
  refine .cons (.columnsEnd rfl) (.cons (.row ⟨1, [0x37], rfl, by decide⟩) (.cons .request (.cons .rowsEnd ?_)))
  exact .cons .close (.cons .next (.cons (.ok (.inl (by decide)) (.inl (by decide))) (.cons .close (.nil _))))

lemma twoAnswersClosed_small : ∀ p, .packet p ∈ twoAnswersClosed → p.payload.length < 2 ^ 24 := by
  have hall : (twoAnswersClosed.all fun | .packet p => decide (p.payload.length < 2 ^ 24) | _ => true) = true := by decide
  exact fun p hp => of_decide_eq_true (List.all_eq_true.mp hall _ hp)

lemma inPieces_fits (n : ℕ) (hroomy : Along occur (fun con o => o.Roomy con) (commandSend .calm queryable .query [0x53]).1
    (inPieces.take n)) :
    Along occur (fun con o => o.Fits con) (commandSend .calm queryable .query [0x53]).1 (inPieces.take n) := by
  have hgranted : ∀ o ∈ inPieces, o.Granted := by
    intro o ho
    unfold inPieces at ho
    simp only [List.mem_cons, List.not_mem_nil, or_false] at ho
    rcases ho with rfl | rfl | rfl | rfl | rfl | rfl <;> exact grants_calm
  exact (along_of_forall (fun o ho => hgranted o (List.mem_of_mem_take ho)) _).and hroomy

theorem response_over_network_pieces :
    ∃ us vs φ', twoAnswersClosed = us ++ vs ∧ Leads ResponsePhase.Next (.answer true) us φ' ∧
      (run occur (commandSend .calm queryable .query [0x53]).1 (inPieces.take 4)).At φ' ∧
      rowsBrought (commandSend .calm queryable .query [0x53]).1 (inPieces.take 4) = rowsOf us := by
  have harrived : (inPieces.take 4).flatMap Occurrence.bytes ++ (wire 0 twoAnswersClosed).drop 58 =
      wire 0 twoAnswersClosed := by decide +kernel
  exact response_over_network rfl ⟨rfl, rfl, rfl, rfl, rfl⟩ rfl (.inl ⟨rfl, rfl, rfl⟩) (by decide +kernel)
    twoAnswersClosed_leads twoAnswersClosed_small (by decide) (inPieces_fits 4 (by decide +kernel)) harrived

theorem response_read_over_network_pieces :
    rowsBrought (commandSend .calm queryable .query [0x53]).1
        (inPieces ++ .check .calm :: reactions (List.replicate 10 (.calm, .calm))) = [[1, 0x37]] ∧
      (run occur (commandSend .calm queryable .query [0x53]).1
        (inPieces ++ .check .calm :: reactions (List.replicate 10 (.calm, .calm)))).At (.closed false) :=
  response_read_over_network rfl ⟨rfl, rfl, rfl, rfl, rfl⟩ rfl (.inl ⟨rfl, rfl, rfl⟩) (by decide +kernel)
    twoAnswersClosed_leads twoAnswersClosed_small (by decide) (inPieces_fits 6 (by decide +kernel)) (by decide +kernel)
    grants_calm
    (fun e he => (List.eq_of_mem_replicate he) ▸ ⟨grants_calm, grants_calm⟩) (by decide)

end LibAttachSql
