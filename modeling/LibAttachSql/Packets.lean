import LibAttachSql.Receive
import LibAttachSql.Lib.Framing

/-!
# Packets in the read buffer

What a round of the packet loop does when a complete packet stands at the read pointer, told in terms of the packet's
number and payload.
-/

namespace LibAttachSql

open Lib

/-- A complete packet stands at the read pointer of the read buffer `b`. -/
structure Con.Holds (con : Con) (b : BufferSt) (seq : UInt8) (payload : List UInt8) : Prop where
  buffer : con.readBuffer = some b
  seq_eq : b.mem (b.bufferReadPtr + 3) = seq
  length_eq : unpackInt3 b.mem b.bufferReadPtr = payload.length
  complete : payload.length + 4 ≤ b.unreadData
  payload_eq : b.mem.slice (b.bufferReadPtr + 4) payload.length = payload

/-- The connection a packet is checked with: its length is known, it is counted and off the queue. -/
def packetAwaited (con : Con) (t : PacketType) (n : ℕ) : Con :=
  packetQueuePop (countPacket { con with packetSize := n } t)

/-- The header byte of a packet passes the check. -/
def Con.Accepts (con : Con) (t : PacketType) (seq : UInt8) : Prop :=
  ((countPacket con t).packetNumber.toNat : ℤ) = signedChar seq

instance (con : Con) (t : PacketType) (seq : UInt8) : Decidable (con.Accepts t seq) := by
  unfold Con.Accepts
  infer_instance

/-- The connection the reader of an accepted packet starts from. -/
def packetReady (con : Con) (b : BufferSt) (t : PacketType) (seq : UInt8) (n : ℕ) : Con :=
  packetOpen ((packetAwaited con t n).log (.checked false (countPacket con t).packetNumber seq true)) b t n

/-- All that is changed when a packet is opened. -/
lemma packetReady_eq (con : Con) (b : BufferSt) (t : PacketType) (seq : UInt8) (n : ℕ) :
    packetReady con b t seq n = { con with
      packetNumber := (countPacket con t).packetNumber
      packetSize := (packetReady con b t seq n).packetSize
      readBuffer := (packetReady con b t seq n).readBuffer
      nextPacketQueue := con.nextPacketQueue.tail
      trace := (packetReady con b t seq n).trace } := rfl

lemma packetReady_ssl (con : Con) (b : BufferSt) (t : PacketType) (seq : UInt8) (n : ℕ) :
    (packetReady con b t seq n).ssl = con.ssl := by
  rw [packetReady_eq]

lemma packetReady_trace (con : Con) (b : BufferSt) (t : PacketType) (seq : UInt8) (n : ℕ) :
    (packetReady con b t seq n).trace = [.packet t (b.mem.slice (b.bufferReadPtr + 4) n) con.status,
      .checked false (countPacket con t).packetNumber seq true] ++ con.trace := rfl

section Round

variable {env : Env} {con : Con} {b : BufferSt} {seq : UInt8} {payload : List UInt8} {t : PacketType}
  {q : List PacketType}

lemma processPacket_of_holds (h : con.Holds b seq payload) (hq : con.nextPacketQueue = t :: q) :
    processPacket env con = checkSequence env (packetAwaited con t payload.length) b t payload.length := by
  have hc := h.complete
  unfold processPacket
  split
  · next hq' =>
    rw [hq] at hq'
    cases hq'
  · next t' _ hq' =>
    rw [hq] at hq'
    cases hq'
    split
    · next hb =>
      rw [h.buffer] at hb
      cases hb
    · next b' hb =>
      rw [h.buffer] at hb
      cases hb
      dsimp only
      rw [h.length_eq, if_neg (by omega), if_neg (by omega)]
      rfl

/-- A packet whose number is accepted goes to the reader of its type. -/
lemma processPacket_accepted (h : con.Holds b seq payload) (hq : con.nextPacketQueue = t :: q)
    (ha : con.Accepts t seq) :
    processPacket env con = packetDispatch env (packetReady con b t seq payload.length) t := by
  rw [processPacket_of_holds h hq]
  unfold checkSequence
  dsimp only
  rw [h.seq_eq]
  exact if_neg (not_not.mpr ha)

/-- Any other packet breaks the sequence. -/
lemma processPacket_rejected (h : con.Holds b seq payload) (hq : con.nextPacketQueue = t :: q)
    (ha : ¬ con.Accepts t seq) :
    processPacket env con = .done (((packetAwaited con t payload.length).log
      (.checked false (countPacket con t).packetNumber seq false)).readFailed .sequence .packetOutOfSequence) true := by
  rw [processPacket_of_holds h hq]
  unfold checkSequence
  dsimp only
  rw [h.seq_eq]
  exact if_pos ha

/-- The bytes the readers of packets look at are those of the payload. -/
lemma Con.Holds.peekByte (h : con.Holds b seq payload) {i : ℕ} (hi : i < payload.length) :
    (packetReady con b t seq payload.length).peekByte i = payload[i] := by
  have hget : payload[i]? = (b.mem.slice (b.bufferReadPtr + 4) payload.length)[i]? := by rw [h.payload_eq]
  rw [List.getElem?_eq_getElem hi, List.getElem?_eq_getElem (by simpa using hi), Memory.getElem_slice,
    Option.some.injEq] at hget
  rw [hget]
  rfl

end Round

/-- With nothing expected no packet is read. -/
lemma processPacketsLoop_deaf (env : Env) {con : Con} (h : con.nextPacketQueue = []) (n : ℕ) :
    processPacketsLoop env n con = (con, false) := by
  cases n with
  | zero => rfl
  | succ n =>
    unfold processPacketsLoop processPacket
    rw [h]

/-! ### Packets as frames -/

section Frames

variable {m : Memory UInt8} {p n k : ℕ}

lemma littleEndian_slice_three (m : Memory UInt8) (p : ℕ) : littleEndian (m.slice p 3) = unpackInt3 m p := by
  simp only [Memory.slice_succ, Memory.slice_zero, littleEndian, unpackInt3, Nat.add_assoc, Nat.reduceAdd]
  omega

/-- The bytes at an address start with a frame when they are as many as the frame says. -/
lemma takeFrame_slice (h : 3 + k + unpackInt3 m p ≤ n) :
    takeFrame 3 k (m.slice p n) = some (⟨m.slice (p + 3) k, m.slice (p + 3 + k) (unpackInt3 m p)⟩,
      m.slice (p + 3 + k + unpackInt3 m p) (n - (3 + k + unpackInt3 m p))) := by
  obtain ⟨d, rfl⟩ := Nat.exists_eq_add_of_le h
  rw [Nat.add_sub_cancel_left, Nat.add_assoc, Nat.add_assoc, Memory.slice_add, Memory.slice_add, Memory.slice_add]
  exact takeFrame_append (Memory.length_slice ..) (Memory.length_slice ..)
    (by rw [Memory.length_slice, littleEndian_slice_three])

/-- Fewer bytes hold no frame. -/
lemma takeFrame_slice_eq_none (h : n < 3 + k + unpackInt3 m p) : takeFrame 3 k (m.slice p n) = none := by
  refine Option.eq_none_iff_forall_ne_some.mpr fun r hr => ?_
  have hsize := (size_takeFrame hr).1
  have hheader := (size_takeFrame hr).2
  have hthree : 3 ≤ n := by
    unfold Frame.size at hsize
    rw [Memory.length_slice] at hsize
    omega
  obtain ⟨d, rfl⟩ := Nat.exists_eq_add_of_le hthree
  rw [Memory.slice_add] at hr
  have hpayload := payload_length_of_takeFrame (Memory.length_slice ..) hr
  rw [littleEndian_slice_three] at hpayload
  unfold Frame.size at hsize
  rw [Memory.length_slice] at hsize
  omega

/-- What a buffer holds when its unread bytes start with no frame. -/
lemma takeFrame_unread_none {b : BufferSt} (hb : b.Wf) (h : takeFrame 3 k b.unread = none) :
    b.unreadData < 3 + k + unpackInt3 b.mem b.bufferReadPtr := by
  by_contra hlong
  rw [hb.unreadData_eq] at hlong
  have hframe : takeFrame 3 k (b.mem.slice b.bufferReadPtr (b.bufferWritePtr - b.bufferReadPtr)) = _ :=
    takeFrame_slice (Nat.not_lt.mp hlong)
  unfold BufferSt.unread at h
  rw [h] at hframe
  cases hframe

/-- The frame the unread bytes of a buffer start with. -/
lemma takeFrame_unread_some {b : BufferSt} {f : Frame} {rest : List UInt8} (hb : b.Wf)
    (h : takeFrame 3 k b.unread = some (f, rest)) :
    3 + k + unpackInt3 b.mem b.bufferReadPtr ≤ b.unreadData ∧
      f = ⟨b.mem.slice (b.bufferReadPtr + 3) k, b.mem.slice (b.bufferReadPtr + 3 + k) (unpackInt3 b.mem b.bufferReadPtr)⟩ ∧
      rest = b.unread.drop (3 + k + unpackInt3 b.mem b.bufferReadPtr) := by
  have hdata := hb.unreadData_eq
  unfold BufferSt.unread at h ⊢
  by_cases hlen : 3 + k + unpackInt3 b.mem b.bufferReadPtr ≤ b.bufferWritePtr - b.bufferReadPtr
  · rw [takeFrame_slice hlen, Option.some.injEq, Prod.mk.injEq] at h
    obtain ⟨rfl, rfl⟩ := h
    refine ⟨hdata ▸ hlen, rfl, ?_⟩
    rw [Memory.drop_slice]
    congr 1
    omega
  · rw [takeFrame_slice_eq_none (Nat.not_le.mp hlen)] at h
    cases h

/-- **A complete packet stands at the read pointer exactly when the unread bytes start with a frame.** -/
theorem holds_iff_takeFrame {con : Con} {b : BufferSt} {seq : UInt8} {payload : List UInt8} (hb : b.Wf)
    (hcon : con.readBuffer = some b) :
    con.Holds b seq payload ↔ ∃ rest, takeFrame 3 1 b.unread = some (⟨[seq], payload⟩, rest) := by
  have hone : ∀ p, b.mem.slice p 1 = [b.mem p] := fun p => by rw [Memory.slice_succ, Memory.slice_zero]
  unfold BufferSt.unread
  constructor
  · intro h
    have hcomplete := h.complete
    rw [hb.unreadData_eq] at hcomplete
    have hlength := h.length_eq
    have hframe : takeFrame 3 1 (b.mem.slice b.bufferReadPtr (b.bufferWritePtr - b.bufferReadPtr)) = _ :=
      takeFrame_slice (by omega)
    rw [hone, h.seq_eq, hlength, h.payload_eq] at hframe
    exact ⟨_, hframe⟩
  · rintro ⟨rest, h⟩
    obtain ⟨hlen, hframe, -⟩ := takeFrame_unread_some hb h
    rw [Frame.mk.injEq, hone, List.cons.injEq] at hframe
    obtain ⟨⟨hseq, -⟩, rfl⟩ := hframe
    refine ⟨hcon, hseq.symm, ?_, ?_, ?_⟩
    · rw [Memory.length_slice]
    · rw [Memory.length_slice]
      omega
    · rw [Memory.length_slice]

end Frames

end LibAttachSql
