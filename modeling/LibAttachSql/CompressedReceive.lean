import LibAttachSql.CompressedSend
import LibAttachSql.Lib.Reassembly
import LibAttachSql.Lib.Run
import LibAttachSql.BufferRuns

/-!
# The compressed receive stream

The server sends compressed packets, libuv reads their bytes in pieces of any size into `read_buffer_compress`, and
every call of `attachsql_con_decompress_read_buffer` moves the payload of one packet into `read_buffer`, or nothing.
Between the calls the packet loop, the application and the commands it sends do what they like with the rest of the
connection.  Both buffers are taken as streams without a bound: what is appended fits, and making room keeps what is
unread.
-/

namespace LibAttachSql

open Lib

/-! ### Compressed packets -/

/-- A packet of the compressed protocol with the number in its header: stored as it is, or as what zlib made of it. -/
inductive CompressedPacket where
  | stored (seq : UInt8) (payload : List UInt8)
  | deflated (seq : UInt8) (payload body : List UInt8)

namespace CompressedPacket

/-- What the packet is about. -/
def payload : CompressedPacket → List UInt8
  | stored _ payload => payload
  | deflated _ payload _ => payload

/-- The packet as a frame: a number, the length before compression or 0, and what is carried. -/
def frame : CompressedPacket → Frame
  | stored seq payload => ⟨seq :: packInt3 0, payload⟩
  | deflated seq payload body => ⟨seq :: packInt3 payload.length, body⟩

/-- The lengths fit in their three bytes, and what is deflated comes from zlib. -/
def Valid (zlib : Env) : CompressedPacket → Prop
  | stored _ payload => payload.length < 2 ^ 24
  | deflated _ payload body =>
    payload ≠ [] ∧ payload.length < 2 ^ 24 ∧ body.length < 2 ^ 24 ∧ ∃ n, zlib.compress payload n = some body

end CompressedPacket

/-- The bytes of a frame with a length of three bytes. -/
def frameBytes (f : Frame) : List UInt8 := packInt3 f.payload.length ++ (f.header ++ f.payload)

lemma length_frameBytes (f : Frame) : (frameBytes f).length = f.size 3 := by
  unfold frameBytes Frame.size packInt3
  simp only [List.length_append, List.length_cons, List.length_nil]
  omega

/-- A frame that has not arrived as a whole is not taken. -/
lemma takeFrame_short {k : ℕ} {f : Frame} (hk : f.header.length = k) (hlen : f.payload.length < 2 ^ 24)
    {xs : List UInt8} (hpre : xs <+: frameBytes f) (hne : xs ≠ frameBytes f) : takeFrame 3 k xs = none := by
  have hshort : xs.length < (frameBytes f).length :=
    lt_of_le_of_ne hpre.length_le fun heq => hne (hpre.eq_of_length heq)
  rw [length_frameBytes] at hshort
  refine Option.eq_none_iff_forall_ne_some.mpr fun r hr => ?_
  obtain ⟨hsize, hheader⟩ := size_takeFrame hr
  unfold Frame.size at hshort hsize
  have hthree : (packInt3 f.payload.length).length = 3 := rfl
  obtain ⟨ys, rfl⟩ : packInt3 f.payload.length <+: xs :=
    List.prefix_of_prefix_length_le (List.prefix_append _ _) hpre (by omega)
  have hpayload := payload_length_of_takeFrame hthree hr
  rw [(littleEndian_packInt3_eq_iff _).mpr hlen] at hpayload
  omega

/-- Frames with a header of `k` bytes behind their length. -/
def frameCodec (k : ℕ) : Codec UInt8 Frame where
  valid f := f.header.length = k ∧ f.payload.length < 2 ^ 24
  encode := frameBytes
  take := takeFrame 3 k
  take_nil := rfl
  take_append := fun {f rest} hf => by
    have hlen := (littleEndian_packInt3_eq_iff f.payload.length).mpr hf.2
    unfold frameBytes
    rw [List.append_assoc, List.append_assoc]
    exact takeFrame_append rfl hf.1 hlen.symm
  take_short := fun hf hpre hne => takeFrame_short hf.1 hf.2 hpre hne

lemma CompressedPacket.Valid.frame {zlib : Env} {p : CompressedPacket} (h : p.Valid zlib) :
    (frameCodec 4).valid p.frame := by
  cases p with
  | stored seq payload => exact ⟨rfl, h⟩
  | deflated seq payload body => exact ⟨rfl, h.2.2.1⟩

/-- The bytes of some compressed packets. -/
def compressedStream (ps : List CompressedPacket) : List UInt8 := (frameCodec 4).stream (ps.map CompressedPacket.frame)

/-! ### Runs -/

/-- The bytes to be read from the read buffer. -/
def Con.plain (con : Con) : List UInt8 := (con.readBuffer.map BufferSt.unread).getD []

/-- A connection with what was appended to its read buffer by decompression, and how many calls answered that they
found a packet. -/
structure Inflow where
  con : Con
  appended : List UInt8
  answered : ℕ

/-- What happens to a connection while it receives. -/
inductive InflowEvent where
  /-- libuv wrote bytes at the write pointer of the compressed buffer, and the read callback moves it. -/
  | arrive (bs : List UInt8)
  /-- `on_alloc` makes room in the compressed buffer. -/
  | grow (malloc : Malloc)
  /-- `attachsql_con_decompress_read_buffer` is called. -/
  | call (env : Env)
  /-- Anything else happens to the connection. -/
  | other (f : Con → Con)

namespace Inflow

/-- What an event does. -/
def step (s : Inflow) : InflowEvent → Inflow
  | .arrive bs => { s with con.readBufferCompress := s.con.readBufferCompress.map (·.append bs) }
  | .grow malloc => { s with con.readBufferCompress := s.con.readBufferCompress.map fun c => (c.increase malloc).2 }
  | .call env =>
    match s.con.readBufferCompress with
    | none => s
    | some c =>
      let (con, answer) := decompressReadBuffer env s.con c
      { con := con
        appended := s.appended ++ con.plain.drop s.con.plain.length
        answered := if answer then s.answered + 1 else s.answered }
  | .other f => { s with con := f s.con }

/-- The connection before any bytes arrive. -/
def start (con : Con) : Inflow := { con := con, appended := [], answered := 0 }

end Inflow

/-- The bytes that arrive in a run. -/
def arrivals (es : List InflowEvent) : List UInt8 :=
  (es.map fun e => match e with
    | .arrive bs => bs
    | _ => []).flatten

/-- The room `attachsql_con_decompress_read_buffer` makes in the read buffer. -/
def readRoom (env : Env) (con : Con) (uncompressedSize : ℕ) : Option BufferSt :=
  let buffer := match con.readBuffer with
    | some b => some b
    | none => bufferCreate env.malloc
  if bufferGetAvailable buffer < uncompressedSize then (bufferIncrease env.malloc buffer).2 else buffer

/-- The length of what a frame of the compressed protocol was before compression. -/
def uncompressedSize (f : Frame) : ℕ := littleEndian (f.header.drop 1)

/-- The read buffer takes the payload of the packet as a stream without a bound would: there is room, and making it keeps
what is unread. -/
def TakesIn (env : Env) (con : Con) (f : Frame) : Prop :=
  let n := if uncompressedSize f = 0 then f.payload.length else uncompressedSize f
  ∃ b, readRoom env con (uncompressedSize f) = some b ∧ b.Wf ∧ b.unread = con.plain ∧ n ≤ b.freeTail ∧ n ≤ b.available

/-- The number of the packet is the one that is expected, in the comparison of a `uint8_t` with a `char`. -/
def AcceptsFrame (con : Con) (f : Frame) : Prop :=
  ((con.compressedPacketNumber + 1).toNat : ℤ) = signedChar (f.header.headD 0)

/-- The buffers behave as streams without a bound, the numbers are accepted, zlib is the one the packets were made with,
and nothing else takes from the compressed buffer. -/
def Inflow.Ideal (zlib : Env) (s : Inflow) : InflowEvent → Prop
  | .arrive bs => ∀ c, s.con.readBufferCompress = some c → bs.length ≤ c.freeTail
  | .grow malloc => ∀ c, s.con.readBufferCompress = some c →
      (c.increase malloc).2.Wf ∧ (c.increase malloc).2.unread = c.unread
  | .call env =>
    env.uncompress = zlib.uncompress ∧
      ∀ c f rest, s.con.readBufferCompress = some c → takeFrame 3 4 c.unread = some (f, rest) →
        AcceptsFrame s.con f ∧ TakesIn env s.con f
  | .other f => (f s.con).readBufferCompress = s.con.readBufferCompress

/-! ### One call -/

section Call

variable {env : Env} {con : Con} {c : BufferSt} {f : Frame} {rest payload : List UInt8}

/-- The bytes at the read pointer that make up a frame. -/
lemma frame_of_unread (hc : c.Wf) (h : takeFrame 3 4 c.unread = some (f, rest)) :
    unpackInt3 c.mem c.bufferReadPtr + 7 ≤ c.unreadData ∧
      f = ⟨c.mem.slice (c.bufferReadPtr + 3) 4, c.mem.slice (c.bufferReadPtr + 7) (unpackInt3 c.mem c.bufferReadPtr)⟩ ∧
      rest = c.unread.drop (unpackInt3 c.mem c.bufferReadPtr + 7) := by
  obtain ⟨hlen, hf, hrest⟩ := takeFrame_unread_some hc h
  exact ⟨by omega, hf, by rw [hrest, Nat.add_comm]⟩

/-- **A call that finds no complete packet changes nothing.** -/
lemma decompress_incomplete (hc : c.Wf) (h : takeFrame 3 4 c.unread = none) (env : Env) (con : Con) :
    decompressReadBuffer env con c = (con, false) := by
  have hlen := takeFrame_unread_none hc h
  unfold decompressReadBuffer
  dsimp only
  split_ifs
  · rfl
  · rfl
  · omega

/-- What the payload of a frame is, under the given zlib. -/
def Stands (env : Env) (f : Frame) (payload : List UInt8) : Prop :=
  if uncompressedSize f = 0 then payload = f.payload
  else payload.length = uncompressedSize f ∧ ∀ m, payload.length ≤ m → env.uncompress f.payload m = some payload

/-- The compressed buffer behind a packet. -/
def passed (c : BufferSt) : BufferSt :=
  let n := unpackInt3 c.mem c.bufferReadPtr
  ((c.advance 7).setPacketEnd n).advance n

lemma passed_wf (hc : c.Wf) (h : unpackInt3 c.mem c.bufferReadPtr + 7 ≤ c.unreadData) :
    (passed c).Wf ∧ (passed c).unread = c.unread.drop (unpackInt3 c.mem c.bufferReadPtr + 7) := by
  have hhead : (c.advance 7).Wf := hc.advance (by omega)
  have hend := hhead.setPacketEnd (unpackInt3 c.mem c.bufferReadPtr)
  constructor
  · refine hend.advance ?_
    have hdata := hc.unreadData_eq
    rw [hend.unreadData_eq]
    show unpackInt3 c.mem c.bufferReadPtr ≤ c.bufferWritePtr - (c.bufferReadPtr + 7)
    omega
  · unfold passed
    dsimp only
    rw [BufferSt.unread_advance, BufferSt.setPacketEnd_unread, BufferSt.unread_advance, List.drop_drop, Nat.add_comm]

/-- The end of an accepted packet: its payload joins the read buffer. -/
lemma decompressInto_payload {b : BufferSt} {body : List UInt8} {n size : ℕ} (hb : b.Wf)
    (hbody : c.mem.slice c.bufferReadPtr n = body) (hfit : payload.length ≤ b.available)
    (hp : if size = 0 then payload = body
      else payload.length = size ∧ ∀ m, payload.length ≤ m → env.uncompress body m = some payload) :
    (decompressInto env con b c n size).readBufferCompress = some (c.advance n) ∧
      (decompressInto env con b c n size).plain = b.unread ++ payload := by
  unfold decompressInto
  dsimp only
  rw [hbody]
  by_cases hsize : size = 0
  · rw [if_pos hsize] at hp ⊢
    rw [hp]
    exact ⟨rfl, hb.unread_append body⟩
  · rw [if_neg hsize] at hp ⊢
    rw [hp.2 _ hfit]
    exact ⟨rfl, hb.unread_append payload⟩

/-- An accepted packet for which there is room. -/
lemma decompressPacket_of_room {b : BufferSt} {n size : ℕ} (hroom : readRoom env con size = some b) :
    ∃ con', con'.result = con.result ∧ con'.readBuffer = some b ∧ con'.control = con.control ∧
      con'.options = con.options ∧
      decompressPacket env con c n size = decompressInto env con' b (c.setPacketEnd n) n size := by
  have heq : decompressPacket env con c n size =
      match readRoom env con size with
      | none => ({ con with
          readBuffer := readRoom env con size
          readBufferCompress := some (c.setPacketEnd n) }.log
            (.compressedPacket ((c.setPacketEnd n).mem.slice (c.setPacketEnd n).bufferReadPtr n))).log .fault
      | some b => decompressInto env ({ con with
          readBuffer := readRoom env con size
          readBufferCompress := some (c.setPacketEnd n) }.log
            (.compressedPacket ((c.setPacketEnd n).mem.slice (c.setPacketEnd n).bufferReadPtr n)))
          b (c.setPacketEnd n) n size := rfl
  rw [heq, hroom]
  refine ⟨_, ?_, ?_, ?_, ?_, rfl⟩
  · rfl
  · rfl
  · rfl
  · rfl

/-- **A call that finds a complete packet takes it** off the compressed buffer and appends its payload to the other. -/
lemma decompress_packet (hc : c.Wf) (h : takeFrame 3 4 c.unread = some (f, rest)) (ha : AcceptsFrame con f)
    (ht : TakesIn env con f) (hp : Stands env f payload) :
    ∃ con' c', decompressReadBuffer env con c = (con', true) ∧ con'.readBufferCompress = some c' ∧ c'.Wf ∧
      c'.unread = rest ∧ con'.plain = con.plain ++ payload := by
  obtain ⟨hlen, rfl, rfl⟩ := frame_of_unread hc h
  obtain ⟨hwf, hunread⟩ := passed_wf hc hlen
  have hseq : (List.headD (c.mem.slice (c.bufferReadPtr + 3) 4) 0) = c.mem (c.bufferReadPtr + 3) := by
    simp only [Memory.slice_succ, List.headD_cons]
  have hsize : uncompressedSize ⟨c.mem.slice (c.bufferReadPtr + 3) 4,
      c.mem.slice (c.bufferReadPtr + 7) (unpackInt3 c.mem c.bufferReadPtr)⟩ =
      unpackInt3 c.mem (c.bufferReadPtr + 4) := by
    unfold uncompressedSize
    rw [Memory.slice_succ, List.drop_succ_cons, List.drop_zero, littleEndian_slice_three]
  unfold AcceptsFrame at ha
  unfold TakesIn at ht
  unfold Stands at hp
  dsimp only at ha ht hp
  rw [hseq] at ha
  rw [hsize] at ht hp
  obtain ⟨b, hroom, hb, hkept, -, hfit⟩ := ht
  have hpayload : payload.length ≤ b.available := by
    split_ifs at hp hfit with hstored
    · rw [hp]
      exact hfit
    · rw [hp.1]
      exact hfit
  obtain ⟨con', -, -, -, -, hpacket⟩ := @decompressPacket_of_room env
    ({ con with compressedPacketNumber := con.compressedPacketNumber + 1 }.log
      (.checked true (con.compressedPacketNumber + 1) (c.mem (c.bufferReadPtr + 3)) true))
    (c.advance 7) b (unpackInt3 c.mem c.bufferReadPtr) (unpackInt3 c.mem (c.bufferReadPtr + 4)) hroom
  have hcall : decompressReadBuffer env con c =
      (decompressInto env con' b ((c.advance 7).setPacketEnd (unpackInt3 c.mem c.bufferReadPtr))
        (unpackInt3 c.mem c.bufferReadPtr) (unpackInt3 c.mem (c.bufferReadPtr + 4)), true) := by
    unfold decompressReadBuffer checkCompressedSequence
    dsimp only
    rw [if_neg (by omega), if_neg (by omega), if_neg (not_not.mpr ha), hpacket]
  obtain ⟨hcompressed, hplain⟩ := @decompressInto_payload env con'
    ((c.advance 7).setPacketEnd (unpackInt3 c.mem c.bufferReadPtr)) payload b _ _ _ hb rfl hpayload hp
  refine ⟨_, _, hcall, hcompressed, hwf, hunread, ?_⟩
  rw [hplain, hkept]

end Call

/-! ### Runs of calls -/

section Stream

variable {zlib : Env} {ps : List CompressedPacket} {s : Inflow} {arrived : List UInt8}

/-- The frame of a valid packet stands for its payload. -/
lemma CompressedPacket.Valid.stands {env : Env} {p : CompressedPacket} (hz : zlib.Zlib)
    (henv : env.uncompress = zlib.uncompress) (h : p.Valid zlib) : Stands env p.frame p.payload := by
  unfold Stands uncompressedSize
  cases p with
  | stored seq payload =>
    have hzero : littleEndian (List.drop 1 (CompressedPacket.stored seq payload).frame.header) = 0 := rfl
    rw [if_pos hzero]
    rfl
  | deflated seq payload body =>
    obtain ⟨hne, hlen, -, n, hdef⟩ := h
    have hsize : littleEndian (List.drop 1 (CompressedPacket.deflated seq payload body).frame.header) = payload.length :=
      (littleEndian_packInt3_eq_iff _).mpr hlen
    have hpos : payload.length ≠ 0 := fun hzero => hne (List.length_eq_zero_iff.mp hzero)
    rw [hsize, if_neg hpos]
    refine ⟨rfl, fun m hm => ?_⟩
    rw [henv]
    exact hz.inverts hdef hm

/-- So many packets were taken of those the server sends, and what arrived beyond them waits in the compressed buffer. -/
structure Inflow.Reads (ps : List CompressedPacket) (arrived : List UInt8) (s : Inflow) : Prop where
  pending : ∃ c, s.con.readBufferCompress = some c ∧ c.Wf ∧
    compressedStream (ps.take s.answered) ++ c.unread = arrived
  answered_le : s.answered ≤ ps.length
  appended_eq : s.appended = ((ps.take s.answered).map CompressedPacket.payload).flatten

lemma compressedStream_append (ps qs : List CompressedPacket) :
    compressedStream (ps ++ qs) = compressedStream ps ++ compressedStream qs := by
  unfold compressedStream
  rw [List.map_append, Codec.stream_append]

lemma compressedStream_single (p : CompressedPacket) : compressedStream [p] = frameBytes p.frame :=
  List.append_nil _

/-- What waits in the compressed buffer is the start of the packets that were not taken. -/
lemma pending_initial {k : ℕ} {xs : List UInt8} (h : compressedStream (ps.take k) ++ xs <+: compressedStream ps) :
    xs <+: (frameCodec 4).stream ((ps.drop k).map CompressedPacket.frame) := by
  unfold compressedStream at h
  rw [List.map_take] at h
  rw [List.map_drop]
  exact (frameCodec 4).stream_drop h

/-- A call on what has arrived takes the next packet or changes nothing. -/
lemma Inflow.Reads.call (h : s.Reads ps arrived) (hz : zlib.Zlib) (hps : ∀ p ∈ ps, p.Valid zlib)
    (hpre : arrived <+: compressedStream ps) {env : Env} (hideal : Inflow.Ideal zlib s (.call env)) :
    (s.step (.call env)).Reads ps arrived := by
  obtain ⟨c, hc, hwf, rfl⟩ := h.pending
  obtain ⟨henv, hideal⟩ := hideal
  have hvalid : ∀ f ∈ (ps.drop s.answered).map CompressedPacket.frame, (frameCodec 4).valid f := by
    intro f hf
    obtain ⟨p, hp, rfl⟩ := List.mem_map.mp hf
    exact (hps p (List.mem_of_mem_drop hp)).frame
  unfold Inflow.step
  rw [hc]
  dsimp only
  rcases (frameCodec 4).take_of_initial hvalid (pending_initial hpre) with hnone | ⟨f, fs, rest, hfs, hunread, htake, -⟩
  · rw [decompress_incomplete hwf hnone]
    refine ⟨⟨c, hc, hwf, rfl⟩, h.answered_le, ?_⟩
    simpa using h.appended_eq
  · obtain ⟨p, qs, hdrop, rfl, -⟩ := List.map_eq_cons_iff.mp hfs
    have hlt : s.answered < ps.length := by
      have hlen := congrArg List.length hdrop
      rw [List.length_drop, List.length_cons] at hlen
      omega
    have hnext : ps.take (s.answered + 1) = ps.take s.answered ++ [p] := by
      have hget : ps[s.answered] = p := by
        rw [List.drop_eq_getElem_cons hlt, List.cons.injEq] at hdrop
        exact hdrop.1
      rw [← hget, List.take_succ_eq_append_getElem hlt]
    have hp : p ∈ ps := List.mem_of_mem_drop (hdrop ▸ List.mem_cons_self)
    obtain ⟨ha, ht⟩ := hideal c p.frame rest hc htake
    obtain ⟨con', c', hcall, hc', hwf', hrest, hplain⟩ :=
      decompress_packet hwf htake ha ht ((hps p hp).stands hz henv)
    rw [hcall]
    refine ⟨⟨c', hc', hwf', ?_⟩, hlt, ?_⟩
    · rw [hrest, hunread]
      simp only [if_true, hnext, compressedStream_append, compressedStream_single, List.append_assoc]
      rfl
    · simp only [if_true, hnext, hplain, List.drop_left, h.appended_eq, List.map_append, List.map_cons, List.map_nil,
        List.flatten_append, List.flatten_cons, List.flatten_nil, List.append_nil]

/-- **One event.** -/
lemma Inflow.Reads.step (h : s.Reads ps arrived) (hz : zlib.Zlib) (hps : ∀ p ∈ ps, p.Valid zlib) {e : InflowEvent}
    (hpre : arrived ++ arrivals [e] <+: compressedStream ps) (hideal : Inflow.Ideal zlib s e) :
    (s.step e).Reads ps (arrived ++ arrivals [e]) := by
  have hquiet : arrivals [e] = [] → arrived ++ arrivals [e] = arrived := fun hnone => by rw [hnone, List.append_nil]
  cases e with
  | arrive bs =>
    obtain ⟨c, hc, hwf, rfl⟩ := h.pending
    have hfit := hideal c hc
    have hroom : c.bufferWritePtr + bs.length ≤ c.buffer + c.bufferSize := by
      have h₁ := hwf.buffer_le_read
      have h₂ := hwf.read_le_write
      have h₃ := hwf.write_le_end
      unfold BufferSt.freeTail at hfit
      omega
    refine ⟨⟨c.append bs, ?_, hwf.append hroom, ?_⟩, h.answered_le, h.appended_eq⟩
    · unfold Inflow.step
      dsimp only
      rw [hc]
      rfl
    · rw [hwf.unread_append, ← List.append_assoc]
      simp [arrivals, Inflow.step]
  | grow malloc =>
    obtain ⟨c, hc, hwf, rfl⟩ := h.pending
    obtain ⟨hwf', hunread⟩ := hideal c hc
    rw [hquiet rfl]
    refine ⟨⟨(c.increase malloc).2, ?_, hwf', ?_⟩, h.answered_le, h.appended_eq⟩
    · unfold Inflow.step
      dsimp only
      rw [hc]
      rfl
    · rw [hunread]
      rfl
  | call env =>
    rw [hquiet rfl] at hpre ⊢
    exact h.call hz hps hpre hideal
  | other f =>
    obtain ⟨c, hc, hwf, rfl⟩ := h.pending
    rw [hquiet rfl]
    exact ⟨⟨c, hideal.trans hc, hwf, rfl⟩, h.answered_le, h.appended_eq⟩

/-- **A run of events.** -/
lemma Inflow.Reads.run (h : s.Reads ps arrived) (hz : zlib.Zlib) (hps : ∀ p ∈ ps, p.Valid zlib) {es : List InflowEvent}
    (hpre : arrived ++ arrivals es <+: compressedStream ps) (hideal : Along Inflow.step (Inflow.Ideal zlib) s es) :
    (Lib.run Inflow.step s es).Reads ps (arrived ++ arrivals es) := by
  induction es generalizing s arrived with
  | nil => simpa [arrivals] using h
  | cons e es ih =>
    have hcons : arrivals (e :: es) = arrivals [e] ++ arrivals es := by
      simp [arrivals]
    rw [hcons, ← List.append_assoc] at hpre ⊢
    exact ih (h.step hz hps ((List.prefix_append _ _).trans hpre) hideal.1) hpre hideal.2

/-- A call takes the next packet exactly when that has arrived as a whole. -/
lemma Inflow.Reads.answers (h : s.Reads ps arrived) (hz : zlib.Zlib) (hps : ∀ p ∈ ps, p.Valid zlib)
    (hpre : arrived <+: compressedStream ps) {env : Env} {c : BufferSt} (hc : s.con.readBufferCompress = some c)
    (hideal : Inflow.Ideal zlib s (.call env)) :
    (decompressReadBuffer env s.con c).2 = true ↔
      ∃ p qs, ps.drop s.answered = p :: qs ∧ frameBytes p.frame <+: c.unread := by
  obtain ⟨c', hc', hwf, rfl⟩ := h.pending
  obtain rfl : c' = c := Option.some.inj (hc'.symm.trans hc)
  have hpending := pending_initial hpre
  constructor
  · intro hanswer
    cases htake : takeFrame 3 4 c'.unread with
    | none =>
      rw [decompress_incomplete hwf htake] at hanswer
      cases hanswer
    | some r =>
      have hvalid : ∀ f ∈ (ps.drop s.answered).map CompressedPacket.frame, (frameCodec 4).valid f := by
        intro f hf
        obtain ⟨p, hp, rfl⟩ := List.mem_map.mp hf
        exact (hps p (List.mem_of_mem_drop hp)).frame
      rcases (frameCodec 4).take_of_initial hvalid hpending with hnone | ⟨f, fs, rest, hfs, hunread, -, -⟩
      · have hnone' : takeFrame 3 4 c'.unread = none := hnone
        rw [hnone'] at htake
        cases htake
      · obtain ⟨p, qs, hdrop, rfl, -⟩ := List.map_eq_cons_iff.mp hfs
        exact ⟨p, qs, hdrop, hunread ▸ List.prefix_append _ _⟩
  · rintro ⟨p, qs, hdrop, rest, hrest⟩
    have hp : p ∈ ps := List.mem_of_mem_drop (hdrop ▸ List.mem_cons_self)
    have htake : takeFrame 3 4 c'.unread = some (p.frame, rest) := by
      rw [← hrest]
      exact (frameCodec 4).take_append (hps p hp).frame
    obtain ⟨ha, ht⟩ := hideal.2 c' p.frame rest hc htake
    obtain ⟨con', c'', hcall, -⟩ := decompress_packet hwf htake ha ht ((hps p hp).stands hz hideal.1)
    rw [hcall]

/-- **The compressed receive stream.**  However the bytes of some compressed packets are cut into reads, and however
often `attachsql_con_decompress_read_buffer` is called in between, the calls that found a packet took the first packets,
one each and in order, appended their payloads to the read buffer, and left the bytes behind them.  A call takes a packet
exactly when the next one is complete, and changes nothing otherwise. -/
theorem compressed_receive_stream (hz : zlib.Zlib) (hps : ∀ p ∈ ps, p.Valid zlib) {con : Con} {c : BufferSt}
    (hc : con.readBufferCompress = some c) (hwf : c.Wf) (hempty : c.unread = []) (es : List InflowEvent)
    (hbytes : arrivals es <+: compressedStream ps)
    (hideal : Along Inflow.step (Inflow.Ideal zlib) (.start con) es) :
    let s := Lib.run Inflow.step (.start con) es
    s.Reads ps (arrivals es) ∧
      ∀ (env : Env) (c : BufferSt), s.con.readBufferCompress = some c →
        (takeFrame 3 4 c.unread = none → decompressReadBuffer env s.con c = (s.con, false)) ∧
        (Inflow.Ideal zlib s (.call env) → ((decompressReadBuffer env s.con c).2 = true ↔
          ∃ p qs, ps.drop s.answered = p :: qs ∧ frameBytes p.frame <+: c.unread)) := by
  have hstart : (Inflow.start con).Reads ps [] := ⟨⟨c, hc, hwf, hempty⟩, Nat.zero_le _, rfl⟩
  have hend := hstart.run hz hps hbytes hideal
  refine ⟨hend, fun env c' hc' => ⟨fun hnone => ?_, fun hcall => hend.answers hz hps hbytes hc' hcall⟩⟩
  obtain ⟨c'', hc'', hwf'', -⟩ := hend.pending
  obtain rfl : c'' = c' := Option.some.inj (hc''.symm.trans hc')
  exact decompress_incomplete hwf'' hnone env _

end Stream

/-! ### A run -/

/-- A connection with an empty compressed buffer and the read buffer a new connection gets. -/
def Con.decompressing : Con := { Con.calm 0 with readBufferCompress := some lowBuffer }

/-- A stored packet of two bytes, and a deflated one of a byte. -/
def twoPackets : List CompressedPacket := [.stored 1 [7, 8], .deflated 2 [9] (storedBlock [9])]

/-- The packets in three pieces, with a call behind each.  The second piece has the start of the second packet. -/
def threeReads : List InflowEvent :=
  [.arrive [2, 0, 0, 1, 0], .call .incompressible, .arrive [0, 0, 7, 8, 12, 0, 0], .call .incompressible,
    .arrive ([2, 1, 0, 0] ++ storedBlock [9]), .call .incompressible]

/-- The compressed buffer when two pieces have arrived. -/
def twoPieces : BufferSt := (lowBuffer.append [2, 0, 0, 1, 0]).append [0, 0, 7, 8, 12, 0, 0]

/-- The compressed buffer when the first packet was taken. -/
def firstTaken : BufferSt := ((twoPieces.advance 7).setPacketEnd 2).advance 2

/-- The compressed buffer when all pieces have arrived. -/
def threePieces : BufferSt := firstTaken.append ([2, 1, 0, 0] ++ storedBlock [9])

lemma lowBuffer_wf : lowBuffer.Wf := (BufferSt.wf_create bufferCreate_lowMalloc).1

/-- The state when the first packet was taken. -/
def firstRead : Inflow := Lib.run Inflow.step (.start .decompressing) (threeReads.take 4)

lemma firstRead_con : firstRead.con.readBufferCompress = some firstTaken ∧
    firstRead.con.readBuffer = some (lowBuffer.append [7, 8]) ∧ firstRead.con.compressedPacketNumber = 1 :=
  ⟨rfl, rfl, by decide⟩

/-- The read buffer a new connection gets takes in two bytes. -/
lemma takesIn_two (con : Con) (h : con.readBuffer = none) : TakesIn .incompressible con ⟨[1, 0, 0, 0], [7, 8]⟩ := by
  refine ⟨lowBuffer, ?_, lowBuffer_wf, ?_, by decide, by decide⟩
  · unfold readRoom
    rw [h]
    exact bufferCreate_lowMalloc
  · unfold Con.plain
    rw [h]
    rfl

/-- And a byte behind them. -/
lemma takesIn_one (con : Con) (h : con.readBuffer = some (lowBuffer.append [7, 8])) :
    TakesIn .incompressible con ⟨[2, 1, 0, 0], storedBlock [9]⟩ := by
  refine ⟨lowBuffer.append [7, 8], ?_, lowBuffer_wf.append (by decide), ?_, by decide, by decide⟩
  · unfold readRoom
    rw [h]
    rfl
  · unfold Con.plain
    rw [h]
    rfl

/-- The first packet is taken by the second call, the other one by the third. -/
theorem compressed_receive_stream_threeReads :
    let s := Lib.run Inflow.step (.start .decompressing) threeReads
    s.Reads twoPackets (arrivals threeReads) ∧
      ∀ (env : Env) (c : BufferSt), s.con.readBufferCompress = some c →
        (takeFrame 3 4 c.unread = none → decompressReadBuffer env s.con c = (s.con, false)) ∧
        (Inflow.Ideal .incompressible s (.call env) → ((decompressReadBuffer env s.con c).2 = true ↔
          ∃ p qs, twoPackets.drop s.answered = p :: qs ∧ frameBytes p.frame <+: c.unread)) := by
  obtain ⟨hbuffer, hread, hnumber⟩ := firstRead_con
  have hfirst : takeFrame 3 4 (lowBuffer.append [2, 0, 0, 1, 0]).unread = none := by decide
  have hsecond : takeFrame 3 4 twoPieces.unread = some (⟨[1, 0, 0, 0], [7, 8]⟩, [12, 0, 0]) := by decide
  have hthird : takeFrame 3 4 threePieces.unread = some (⟨[2, 1, 0, 0], storedBlock [9]⟩, []) := by decide
  have hideal : Along Inflow.step (Inflow.Ideal .incompressible) (.start .decompressing) threeReads := by
    refine ⟨fun c hc => ?_, ⟨rfl, fun c f rest hc htake => ?_⟩, fun c hc => ?_, ⟨rfl, fun c f rest hc htake => ?_⟩,
      fun c hc => ?_, ⟨rfl, fun c f rest hc htake => ?_⟩, trivial⟩
    · obtain rfl : lowBuffer = c := Option.some.inj hc
      decide
    · obtain rfl : lowBuffer.append [2, 0, 0, 1, 0] = c := Option.some.inj hc
      rw [hfirst] at htake
      cases htake
    · obtain rfl : lowBuffer.append [2, 0, 0, 1, 0] = c := Option.some.inj hc
      decide
    · obtain rfl : twoPieces = c := Option.some.inj hc
      rw [hsecond] at htake
      cases htake
      exact ⟨rfl, takesIn_two _ rfl⟩
    · obtain rfl : firstTaken = c := Option.some.inj (hbuffer.symm.trans hc)
      decide
    · have harrived : (firstRead.con.readBufferCompress.map fun b : BufferSt =>
          b.append ([2, 1, 0, 0] ++ storedBlock [9])) = some c := hc
      rw [hbuffer] at harrived
      obtain rfl : threePieces = c := Option.some.inj harrived
      rw [hthird] at htake
      cases htake
      refine ⟨?_, takesIn_one _ hread⟩
      show ((firstRead.con.compressedPacketNumber + 1).toNat : ℤ) = signedChar 2
      rw [hnumber]
      decide
  have hvalid : ∀ p ∈ twoPackets, p.Valid .incompressible := by
    refine List.forall_mem_cons.mpr ⟨show [7, 8].length < 2 ^ 24 by decide, List.forall_mem_singleton.mpr ?_⟩
    exact ⟨by decide, by decide, by decide, 64, rfl⟩
  have hbytes : arrivals threeReads <+: compressedStream twoPackets := by decide
  exact compressed_receive_stream Env.incompressible_zlib hvalid rfl lowBuffer_wf rfl threeReads hbytes hideal

end LibAttachSql
