import LibAttachSql.Buffer
import LibAttachSql.Lib.Fifo
import LibAttachSql.Lib.Run

/-!
# Runs of buffer operations

The operations the callers of `buffer.cc` perform on a buffer, one after the other: appending what libuv or zlib
wrote at the write pointer, moving the read pointer on, setting the end of a packet, ending a packet and growing.
Two properties of whole runs are settled here: that the pointers and the free space stay right, and that the buffer
behaves as a stream that is consumed from the front.
-/

namespace LibAttachSql

open Lib

/-- One operation on a buffer. -/
inductive BufferOp where
  | append (bs : List UInt8)
  | advance (n : ℕ)
  | setPacketEnd (len : ℕ)
  | packetReadEnd
  | increase (malloc : Malloc)

namespace BufferOp

/-- The operation on the buffer. -/
def apply (b : BufferSt) : BufferOp → BufferSt
  | append bs => b.append bs
  | advance n => b.advance n
  | setPacketEnd len => b.setPacketEnd len
  | packetReadEnd => b.packetReadEnd
  | increase malloc => (b.increase malloc).2

/-- What the callers see to: no more is appended than `attachsql_buffer_get_available` answers, reading and packet
ends stay within the unread data, and a packet is ended from inside it. -/
def Legal (b : BufferSt) : BufferOp → Prop
  | append bs => bs.length ≤ b.available
  | advance n => n ≤ b.unreadData
  | setPacketEnd len => len ≤ b.unreadData
  | packetReadEnd => ∃ p, b.packetEndPtr = some p ∧ b.bufferReadPtr ≤ p
  | increase _ => True

end BufferOp

/-! ## 1. Pointers and free space -/

/-- The pointers are in order inside the allocation, and `attachsql_buffer_get_available` answers the free tail. -/
structure BufferSt.Safe (b : BufferSt) : Prop where
  buffer_le_read : b.buffer ≤ b.bufferReadPtr
  read_le_write : b.bufferReadPtr ≤ b.bufferWritePtr
  write_le_end : b.bufferWritePtr ≤ b.buffer + b.bufferSize
  available_eq : b.available = b.bufferSize - (b.bufferWritePtr - b.buffer)

/-- The operation leaves the read pointer at the start of the buffer: nothing is read out of an undrained buffer. -/
def BufferOp.KeepsStart (b : BufferSt) : BufferOp → Prop
  | advance n => n = 0
  | packetReadEnd => b.packetEndPtr = some b.bufferWritePtr ∨ b.packetEndPtr = some b.buffer
  | _ => True

/-- The end of the packet lies in the written data. -/
def BufferSt.PacketEndIn (b : BufferSt) : Prop :=
  ∀ p, b.packetEndPtr = some p → b.buffer ≤ p ∧ p ≤ b.bufferWritePtr

section Safety

variable {b : BufferSt}

/-- **The free space is right exactly while nothing has been read out of the buffer.** -/
lemma BufferSt.Wf.safe_iff (h : b.Wf) : b.Safe ↔ b.bufferReadPtr = b.buffer := by
  have h₁ := h.size_le
  have h₂ := h.buffer_le_read
  have h₃ := h.read_le_write
  have h₄ := h.write_le_end
  have hav := h.available_eq
  constructor
  · intro hs
    have := hs.available_eq
    rw [hav] at this
    unfold BufferSt.freeTail ptrdiffMax at *
    split at this <;> omega
  · intro hr
    refine ⟨h₂, h₃, h₄, ?_⟩
    rw [hav, hr, if_pos (by omega)]
    unfold BufferSt.freeTail
    omega

lemma BufferSt.Wf.not_shifts (h : b.Wf) (hr : b.bufferReadPtr = b.buffer) : b.shifts = false := by
  rw [Bool.eq_false_iff, ne_eq, h.shifts_iff, hr]
  omega

/-- Growing without a shift keeps the invariants, whether or not the allocator grants the request. -/
lemma BufferSt.Wf.increase_of_not_shifts (h : b.Wf) (hp : b.PacketEndIn) (hs : b.shifts = false)
    (malloc : Malloc) :
    (b.increase malloc).2.Wf ∧ (b.increase malloc).2.PacketEndIn ∧ (b.increase malloc).2.unread = b.unread ∧
      (b.increase malloc).2.bufferReadPtr - (b.increase malloc).2.buffer = b.bufferReadPtr - b.buffer := by
  rcases h.increase_cases hs malloc with heq | ⟨block, hsize, heq⟩
  · rw [heq]
    exact ⟨h, hp, rfl, rfl⟩
  · rw [heq]
    obtain ⟨hw, hu⟩ := h.regrow block hsize
    have hbuf : (b.regrow block).buffer = block.base := rfl
    refine ⟨hw, fun q hq => ?_, hu, ?_⟩
    · rw [hbuf, h.regrow_writePtr]
      cases hpe : b.packetEndPtr with
      | none =>
        rw [BufferSt.regrow_packetEnd_none hpe, Option.some.injEq] at hq
        omega
      | some p =>
        obtain ⟨hpb, hpw⟩ := hp p hpe
        rw [h.regrow_packetEnd_some hpe hpb hpw, Option.some.injEq] at hq
        omega
    · rw [hbuf, h.regrow_readPtr]
      omega

/-- A legal operation that keeps the read pointer at the start keeps the invariants. -/
lemma BufferOp.keepsStart_apply (h : b.Wf) (hp : b.PacketEndIn) (hr : b.bufferReadPtr = b.buffer) {op : BufferOp}
    (hl : op.Legal b) :
    (op.apply b).Wf ∧ (op.apply b).PacketEndIn ∧
      ((op.apply b).bufferReadPtr = (op.apply b).buffer ↔ op.KeepsStart b) := by
  have h₃ := h.read_le_write
  cases op with
  | append bs =>
    have hav := (h.safe_iff.mpr hr).available_eq
    have hfit : b.bufferWritePtr + bs.length ≤ b.buffer + b.bufferSize := by
      have := h.write_le_end
      simp only [Legal, hav] at hl
      omega
    refine ⟨h.append hfit, fun p hp' => ?_, iff_of_true hr trivial⟩
    have := hp p hp'
    simp only [apply, BufferSt.append_buffer, BufferSt.append_writePtr]
    omega
  | advance n =>
    refine ⟨h.advance hl, hp, ?_⟩
    simp only [apply, BufferSt.advance, KeepsStart]
    omega
  | setPacketEnd len =>
    refine ⟨h.setPacketEnd len, fun p hp' => ?_, iff_of_true hr trivial⟩
    simp only [Legal, h.unreadData_eq] at hl
    simp only [apply, BufferSt.setPacketEnd, Option.some.injEq] at hp' ⊢
    omega
  | packetReadEnd =>
    obtain ⟨p, hp', -⟩ := hl
    obtain ⟨hpb, hpw⟩ := hp p hp'
    refine ⟨(h.packetReadEnd hp' hpb hpw).1, ?_, ?_⟩
    · by_cases hd : p = b.bufferWritePtr
      · rw [apply, BufferSt.packetReadEnd_of_drained (hd ▸ hp')]
        intro q hq
        simp only [Option.some.injEq] at hq
        exact ⟨hq.le, hq.ge⟩
      · rw [apply, BufferSt.packetReadEnd_of_undrained hp' hd]
        exact hp
    · simp only [KeepsStart, hp', Option.some.injEq]
      by_cases hd : p = b.bufferWritePtr
      · rw [apply, BufferSt.packetReadEnd_of_drained (hd ▸ hp')]
        exact iff_of_true rfl (Or.inl hd)
      · rw [apply, BufferSt.packetReadEnd_of_undrained hp' hd]
        simp [hd]
  | increase malloc =>
    obtain ⟨hw, hp', -, hoff⟩ := h.increase_of_not_shifts hp (h.not_shifts hr) malloc
    refine ⟨hw, hp', iff_of_true ?_ trivial⟩
    have := hw.buffer_le_read
    simp only [apply]
    omega

/-- **The pointers and the free space of a buffer stay right in a run exactly when every step leaves the read
pointer at the start of the buffer.** -/
theorem buffer_safe_iff {malloc : Malloc} {b₀ : BufferSt} (h₀ : bufferCreate malloc = some b₀)
    {ops : List BufferOp} (hl : Along BufferOp.apply BufferOp.Legal b₀ ops) :
    Throughout BufferOp.apply BufferSt.Safe b₀ ops ↔ Along BufferOp.apply BufferOp.KeepsStart b₀ ops := by
  obtain ⟨hw, -, hr, hp, -⟩ := BufferSt.wf_create h₀
  refine throughout_iff_along (I := fun b => b.Wf ∧ b.PacketEndIn) ?_ ?_ ⟨hw, ?_⟩ (hw.safe_iff.mpr hr) hl
  · rintro b op ⟨hw, hp⟩ hs hl -
    obtain ⟨hw', hp', -⟩ := BufferOp.keepsStart_apply hw hp (hw.safe_iff.mp hs) hl
    exact ⟨hw', hp'⟩
  · rintro b op ⟨hw, hp⟩ hs hl
    obtain ⟨hw', -, hiff⟩ := BufferOp.keepsStart_apply hw hp (hw.safe_iff.mp hs) hl
    rw [hw'.safe_iff, hiff]
  · intro p hp'
    rw [hp] at hp'
    cases hp'

end Safety

/-! ### A run in which the free space wraps -/

/-- An allocator that hands out the address 4096 for every request. -/
def lowMalloc : Malloc := fun _ => some { base := 4096, bytes := fun _ => 0 }

/-- A fresh buffer at the address 4096. -/
def lowBuffer : BufferSt :=
  { buffer := 4096, bufferSize := defaultBufferSize, bufferUsed := 0, bufferWritePtr := 4096, bufferReadPtr := 4096,
    packetEndPtr := none, mem := fun _ => 0 }

lemma bufferCreate_lowMalloc : bufferCreate lowMalloc = some lowBuffer := by
  have h : lowMalloc.get defaultBufferSize = some { base := 4096, bytes := fun _ => 0 } := by
    unfold Malloc.get
    rw [if_pos (by decide)]
    rfl
  unfold bufferCreate
  rw [h]
  rfl

/-- A packet of 599999 bytes is received together with the first byte of the next one, and ended. -/
def mostlyRead (bs : List UInt8) : List BufferOp := [.append bs, .setPacketEnd 599999, .packetReadEnd]

/-- The buffer after `mostlyRead`: one unread byte, behind 599999 stale ones. -/
def staleBuffer (bs : List UInt8) : BufferSt :=
  { lowBuffer with
    bufferUsed := 600000, bufferWritePtr := 604096, bufferReadPtr := 604095, packetEndPtr := some 604095
    mem := lowBuffer.mem.store 4096 bs }

section Stale

-- the bytes stay a variable, so that no proof computes with 600000 of them
variable {bs : List UInt8} (hbs : bs.length = 600000)

include hbs

lemma append_lowBuffer :
    (lowBuffer.append bs).setPacketEnd 599999 =
      { lowBuffer with
        bufferUsed := 600000, bufferWritePtr := 604096, packetEndPtr := some 604095
        mem := lowBuffer.mem.store 4096 bs } := by
  simp only [BufferSt.setPacketEnd, BufferSt.append, BufferSt.moveWritePtr, hbs]
  rfl

lemma mostlyRead_legal : Along BufferOp.apply BufferOp.Legal lowBuffer (mostlyRead bs) := by
  refine ⟨?_, ?_, ?_, trivial⟩
  · simp only [BufferOp.Legal, hbs]
    decide
  · simp only [BufferOp.Legal, BufferOp.apply, BufferSt.unreadData, BufferSt.append_writePtr,
      BufferSt.append_readPtr, hbs]
    decide
  · refine ⟨604095, ?_, ?_⟩
    · rw [BufferOp.apply, BufferOp.apply, append_lowBuffer hbs]
    · rw [BufferOp.apply, BufferOp.apply, append_lowBuffer hbs]
      show 4096 ≤ 604095
      decide

lemma run_mostlyRead : run BufferOp.apply lowBuffer (mostlyRead bs) = staleBuffer bs := by
  simp only [mostlyRead, run_cons, run_nil, BufferOp.apply]
  have hne : (604095 : ℕ) ≠ 604096 := by decide
  rw [append_lowBuffer hbs, BufferSt.packetReadEnd_of_undrained rfl hne]
  rfl

end Stale

/-- The claim about the free space fails: after `mostlyRead` 448576 bytes are free, and
`attachsql_buffer_get_available` answers more than the address space holds. -/
theorem buffer_free_space_wraps :
    bufferCreate lowMalloc = some lowBuffer ∧
      Along BufferOp.apply BufferOp.Legal lowBuffer (mostlyRead (List.replicate 600000 0)) ∧
      ¬ Throughout BufferOp.apply BufferSt.Safe lowBuffer (mostlyRead (List.replicate 600000 0)) ∧
      (run BufferOp.apply lowBuffer (mostlyRead (List.replicate 600000 0))).available = 18446744073709400193 ∧
      (run BufferOp.apply lowBuffer (mostlyRead (List.replicate 600000 0))).freeTail = 448576 := by
  have hlen : (List.replicate 600000 (0 : UInt8)).length = 600000 := List.length_replicate
  generalize List.replicate 600000 (0 : UInt8) = bs at hlen ⊢
  have hav : (staleBuffer bs).available = 18446744073709400193 := by
    show sizeT ((1048576 : ℕ) - (sizeT ((604095 : ℕ) - (4096 : ℕ)) + 600000 : ℕ)) = 18446744073709400193
    decide
  have htail : (staleBuffer bs).freeTail = 448576 := by
    show 1048576 - (604096 - 4096) = 448576
    decide
  refine ⟨bufferCreate_lowMalloc, mostlyRead_legal hlen, fun h => ?_, ?_, ?_⟩
  · have hs := (throughout_iff_run.mp h) (mostlyRead bs) (List.prefix_refl _)
    rw [run_mostlyRead hlen] at hs
    have heq := hs.available_eq
    rw [hav] at heq
    exact absurd (heq.trans htail) (by decide)
  · rw [run_mostlyRead hlen, hav]
  · rw [run_mostlyRead hlen, htail]

/-- The equivalence on a packet that drains the buffer: three bytes, all of them one packet. -/
theorem buffer_safe_iff_drained :
    Throughout BufferOp.apply BufferSt.Safe lowBuffer [.append [1, 2, 3], .setPacketEnd 3, .packetReadEnd] ↔
      Along BufferOp.apply BufferOp.KeepsStart lowBuffer [.append [1, 2, 3], .setPacketEnd 3, .packetReadEnd] := by
  have hl : Along BufferOp.apply BufferOp.Legal lowBuffer [.append [1, 2, 3], .setPacketEnd 3, .packetReadEnd] := by
    refine ⟨?_, ?_, ⟨4099, rfl, ?_⟩, trivial⟩
    · show 3 ≤ lowBuffer.available
      decide
    · show 3 ≤ (lowBuffer.append [1, 2, 3]).unreadData
      decide
    · decide
  exact buffer_safe_iff bufferCreate_lowMalloc hl

/-! ## 2. The buffer as a stream -/

namespace BufferOp

/-- The blocks of memory the operation reads or writes, as start and length.  `realloc` copies on its own. -/
def accesses (b : BufferSt) : BufferOp → List (ℕ × ℕ)
  | append bs => [(b.bufferWritePtr, bs.length)]
  | increase _ => if b.shifts then [(b.bufferReadPtr, b.bufferUsed), (b.buffer, b.bufferUsed)] else []
  | _ => []

/-- Every access of the operation lies inside the allocation. -/
def Inside (b : BufferSt) (op : BufferOp) : Prop :=
  ∀ a ∈ op.accesses b, a.2 = 0 ∨ b.buffer ≤ a.1 ∧ a.1 + a.2 ≤ b.buffer + b.bufferSize

/-- What the operation means for the stream. -/
def onFifo (f : Fifo UInt8) : BufferOp → Fifo UInt8
  | append bs => f.send bs
  | advance n => f.take n
  | setPacketEnd len => f.setMark len
  | packetReadEnd => f.takeToMark
  | increase _ => f

/-- The buffer takes the operation without leaving its allocation. -/
def Fits (b : BufferSt) : BufferOp → Prop
  | append bs => b.bufferWritePtr + bs.length ≤ b.buffer + b.bufferSize
  | increase _ => b.shifts = false
  | _ => True

end BufferOp

/-- A buffer, the stream it stands for, and whether every access so far lay inside the allocation. -/
structure Traced where
  buf : BufferSt
  fifo : Fifo UInt8
  inside : Prop

namespace Traced

def apply (t : Traced) (op : BufferOp) : Traced :=
  { buf := op.apply t.buf, fifo := op.onFifo t.fifo, inside := t.inside ∧ op.Inside t.buf }

/-- **The buffer is the stream**: its unread bytes are those sent and not taken, the end of the packet lies as far
ahead of the read pointer as the mark ahead of what was taken, and no access has left the allocation. -/
structure Represents (t : Traced) : Prop where
  unread_eq : t.buf.unread = t.fifo.unread
  mark_eq : ∀ p m, t.buf.packetEndPtr = some p → t.fifo.mark = some m →
    (p : ℤ) - t.buf.bufferReadPtr = (m : ℤ) - t.fifo.taken
  inside_eq : t.inside

/-- What else holds of a buffer that represents its stream. -/
structure Inv (t : Traced) : Prop where
  wf : t.buf.Wf
  packetEnd : t.buf.PacketEndIn
  taken_le : t.fifo.taken ≤ t.fifo.sent.length
  -- `attachsql_buffer_increase` turns a null end of packet into the start of the buffer
  unmarked : t.fifo.mark = none → ∀ p, t.buf.packetEndPtr = some p → p = t.buf.buffer
  marked : ∀ m, t.fifo.mark = some m → t.buf.packetEndPtr ≠ none

end Traced

section Stream

variable {t : Traced}

/-- Shifting always reads behind the end of the allocation: it moves as many bytes as are in use, stale ones
included, from the read pointer on. -/
lemma BufferSt.Wf.shift_outside {b : BufferSt} (h : b.Wf) (hs : b.shifts = true) (malloc : Malloc) :
    ¬ (BufferOp.increase malloc).Inside b := by
  have h₂ := h.buffer_le_read
  have h₃ := h.read_le_write
  have h₄ := h.write_le_end
  have h₅ := h.used_eq
  have hhalf := h.shifts_iff.mp hs
  intro hin
  have := hin (b.bufferReadPtr, b.bufferUsed) (by simp [BufferOp.accesses, hs])
  omega

/-- An operation stays inside the allocation exactly when it fits. -/
lemma BufferOp.inside_iff {b : BufferSt} (h : b.Wf) (op : BufferOp) : op.Inside b ↔ op.Fits b := by
  have h₂ := h.buffer_le_read
  have h₃ := h.read_le_write
  have h₄ := h.write_le_end
  cases op with
  | append bs =>
    simp only [Inside, accesses, List.mem_singleton, forall_eq, Fits]
    omega
  | increase malloc =>
    constructor
    · intro hin
      rw [Fits, ← Bool.not_eq_true]
      exact fun hs => h.shift_outside hs malloc hin
    · intro hs
      rw [Fits] at hs
      simp [Inside, accesses, hs]
  | _ => simp [Inside, accesses, Fits]

/-- Growing into a new block keeps the representation: reading, writing and the end of the packet keep their
offsets. -/
lemma Traced.Inv.step_regrow (hi : t.Inv) (hr : t.Represents) {block : Block}
    (hsize : t.buf.bufferSize * 2 ≤ ptrdiffMax) {inside : Prop} (hin : inside) :
    Traced.Inv { buf := t.buf.regrow block, fifo := t.fifo, inside := inside } ∧
      Traced.Represents { buf := t.buf.regrow block, fifo := t.fifo, inside := inside } := by
  obtain ⟨hwf, hunread⟩ := hi.wf.regrow block hsize
  have hread := hi.wf.regrow_readPtr block
  have hwrite := hi.wf.regrow_writePtr block
  have hbuf : (t.buf.regrow block).buffer = block.base := rfl
  have h₂ := hi.wf.buffer_le_read
  -- the new end of the packet, with where it comes from
  have hend : ∀ q, (t.buf.regrow block).packetEndPtr = some q →
      t.buf.packetEndPtr = none ∧ q = block.base ∨
        ∃ p, t.buf.packetEndPtr = some p ∧ t.buf.buffer ≤ p ∧ p ≤ t.buf.bufferWritePtr ∧
          q = block.base + (p - t.buf.buffer) := by
    intro q hq
    cases hpe : t.buf.packetEndPtr with
    | none =>
      rw [BufferSt.regrow_packetEnd_none hpe, Option.some.injEq] at hq
      exact Or.inl ⟨rfl, hq.symm⟩
    | some p =>
      obtain ⟨hpb, hpw⟩ := hi.packetEnd p hpe
      rw [hi.wf.regrow_packetEnd_some hpe hpb hpw, Option.some.injEq] at hq
      exact Or.inr ⟨p, rfl, hpb, hpw, hq.symm⟩
  refine ⟨⟨hwf, fun q hq => ?_, hi.taken_le, fun hm q hq => ?_, fun m _ => by simp [BufferSt.regrow]⟩,
    ⟨hunread.trans hr.unread_eq, fun q m hq hm => ?_, hin⟩⟩
  · rw [hbuf, hwrite]
    rcases hend q hq with ⟨-, rfl⟩ | ⟨p, -, hpb, hpw, rfl⟩ <;> omega
  · rcases hend q hq with ⟨-, rfl⟩ | ⟨p, hp, -, -, rfl⟩
    · exact hbuf.symm
    · rw [hi.unmarked hm p hp, Nat.sub_self]
      exact hbuf.symm
  · rcases hend q hq with ⟨hp, -⟩ | ⟨p, hp, hpb, -, rfl⟩
    · exact absurd hp (hi.marked m hm)
    · have := hr.mark_eq p m hp hm
      simp only [hread]
      omega

/-- One step: an operation that fits keeps the representation. -/
lemma Traced.step_of_fits (hi : t.Inv) (hr : t.Represents) {op : BufferOp} (hl : op.Legal t.buf)
    (hf : op.Fits t.buf) : (t.apply op).Inv ∧ (t.apply op).Represents := by
  have h₃ := hi.wf.read_le_write
  have hlen : t.fifo.sent.length - t.fifo.taken = t.buf.bufferWritePtr - t.buf.bufferReadPtr := by
    rw [← hi.wf.unreadData_eq, ← hi.wf.length_unread, hr.unread_eq, Fifo.unread, List.length_drop]
  have hin : t.inside ∧ op.Inside t.buf := ⟨hr.inside_eq, (BufferOp.inside_iff hi.wf op).mpr hf⟩
  cases op with
  | append bs =>
    refine ⟨⟨hi.wf.append hf, fun p hp => ?_, ?_, hi.unmarked, hi.marked⟩, ⟨?_, hr.mark_eq, hin⟩⟩
    · have := hi.packetEnd p hp
      simp only [apply, BufferOp.apply, BufferSt.append_buffer, BufferSt.append_writePtr]
      omega
    · have := hi.taken_le
      simp only [apply, BufferOp.onFifo, Fifo.send, List.length_append]
      omega
    · simp only [apply, BufferOp.apply, BufferOp.onFifo]
      rw [hi.wf.unread_append, hr.unread_eq, Fifo.unread_send _ _ hi.taken_le]
  | advance n =>
    have hn : n ≤ t.buf.bufferWritePtr - t.buf.bufferReadPtr := by
      rwa [BufferOp.Legal, hi.wf.unreadData_eq] at hl
    refine ⟨⟨hi.wf.advance hl, hi.packetEnd, ?_, hi.unmarked, hi.marked⟩, ⟨?_, fun p m hp hm => ?_, hin⟩⟩
    · have := hi.taken_le
      simp only [apply, BufferOp.onFifo, Fifo.take]
      omega
    · simp only [apply, BufferOp.apply, BufferOp.onFifo]
      rw [BufferSt.unread_advance, hr.unread_eq, Fifo.unread_take]
    · have := hr.mark_eq p m hp hm
      simp only [apply, BufferOp.apply, BufferSt.advance, BufferOp.onFifo, Fifo.take]
      omega
  | setPacketEnd len =>
    have hn : len ≤ t.buf.bufferWritePtr - t.buf.bufferReadPtr := by
      rwa [BufferOp.Legal, hi.wf.unreadData_eq] at hl
    have h₂ := hi.wf.buffer_le_read
    refine ⟨⟨hi.wf.setPacketEnd len, fun p hp => ?_, hi.taken_le, fun hm => ?_, fun m hm => ?_⟩,
      ⟨hr.unread_eq, fun p m hp hm => ?_, hin⟩⟩
    · simp only [apply, BufferOp.apply, BufferSt.setPacketEnd, Option.some.injEq] at hp ⊢
      omega
    · simp [apply, BufferOp.onFifo, Fifo.setMark] at hm
    · simp [apply, BufferOp.apply, BufferSt.setPacketEnd]
    · simp only [apply, BufferOp.apply, BufferSt.setPacketEnd, BufferOp.onFifo, Fifo.setMark,
        Option.some.injEq] at hp hm ⊢
      omega
  | packetReadEnd =>
    obtain ⟨p, hp, hread⟩ := hl
    obtain ⟨hpb, hpw⟩ := hi.packetEnd p hp
    obtain ⟨hwf, hunread⟩ := hi.wf.packetReadEnd hp hpb hpw
    obtain ⟨d, rfl⟩ := Nat.exists_eq_add_of_le hread
    -- the mark, or the place of reading where there is none, is `d` ahead
    have hmark : t.fifo.mark.getD t.fifo.taken = t.fifo.taken + d := by
      cases hm : t.fifo.mark with
      | none =>
        have := hi.unmarked hm _ hp
        have := hi.wf.buffer_le_read
        simp only [Option.getD_none]
        omega
      | some m =>
        have := hr.mark_eq _ m hp hm
        simp only [Option.getD_some]
        omega
    have hstream : t.buf.packetReadEnd.unread = t.fifo.takeToMark.unread := by
      rw [hunread, Fifo.takeToMark, Fifo.unread, hmark, ← List.drop_drop, ← Fifo.unread, ← hr.unread_eq,
        BufferSt.unread, Memory.drop_slice, Nat.sub_sub]
    have hend : t.buf.packetReadEnd.PacketEndIn ∧ t.buf.packetReadEnd.packetEndPtr ≠ none ∧
        (t.fifo.mark = none → ∀ q, t.buf.packetReadEnd.packetEndPtr = some q → q = t.buf.packetReadEnd.buffer) ∧
        t.buf.packetReadEnd.packetEndPtr = some t.buf.packetReadEnd.bufferReadPtr := by
      by_cases hd : t.buf.bufferReadPtr + d = t.buf.bufferWritePtr
      · rw [BufferSt.packetReadEnd_of_drained (hd ▸ hp)]
        simp [BufferSt.PacketEndIn]
      · rw [BufferSt.packetReadEnd_of_undrained hp hd]
        exact ⟨hi.packetEnd, by simp [hp], hi.unmarked, hp⟩
    refine ⟨⟨hwf, hend.1, ?_, hend.2.2.1, fun _ _ => hend.2.1⟩, ⟨hstream, fun q m hq hm => ?_, hin⟩⟩
    · have := hi.taken_le
      simp only [apply, BufferOp.onFifo, Fifo.takeToMark, hmark]
      omega
    · -- after the end of a packet both the pointer and the mark are where reading goes on
      simp only [apply, BufferOp.apply] at hq
      have hm' : t.fifo.mark = some m := hm
      rw [hend.2.2.2, Option.some.injEq] at hq
      simp only [apply, BufferOp.apply, BufferOp.onFifo, Fifo.takeToMark, ← hq, hm', Option.getD_some]
      omega
  | increase malloc =>
    have hs : t.buf.shifts = false := hf
    rcases hi.wf.increase_cases hs malloc with heq | ⟨block, hsize, heq⟩
    · rw [apply, BufferOp.apply, heq]
      exact ⟨⟨hi.wf, hi.packetEnd, hi.taken_le, hi.unmarked, hi.marked⟩, ⟨hr.unread_eq, hr.mark_eq, hin⟩⟩
    · rw [apply, BufferOp.apply, heq]
      exact hi.step_regrow hr hsize hin

/-- One step from a represented stream keeps it represented exactly when the operation fits. -/
lemma Traced.represents_apply_iff (hi : t.Inv) (hr : t.Represents) {op : BufferOp} (hl : op.Legal t.buf) :
    (t.apply op).Represents ↔ op.Fits t.buf := by
  constructor
  · intro h
    exact (BufferOp.inside_iff hi.wf op).mp h.inside_eq.2
  · intro hf
    exact (Traced.step_of_fits hi hr hl hf).2

/-- A buffer and the empty stream, before any operation. -/
def Traced.start (b : BufferSt) : Traced := { buf := b, fifo := Fifo.empty, inside := True }

/-- **A buffer behaves as a stream, with every access inside its allocation, in a run exactly when every appended
block fits behind the write pointer and no growth shifts.** -/
theorem buffer_represents_iff {malloc : Malloc} {b₀ : BufferSt} (h₀ : bufferCreate malloc = some b₀)
    {ops : List BufferOp} (hl : Along BufferOp.apply BufferOp.Legal b₀ ops) :
    Throughout Traced.apply Traced.Represents (Traced.start b₀) ops ↔ Along BufferOp.apply BufferOp.Fits b₀ ops := by
  have hbuf : ∀ t op, (Traced.apply t op).buf = BufferOp.apply t.buf op := fun _ _ => rfl
  have hl : Along Traced.apply (fun t op => op.Legal t.buf) (Traced.start b₀) ops := (along_map hbuf _ _).mpr hl
  rw [show b₀ = (Traced.start b₀).buf from rfl, ← along_map hbuf]
  obtain ⟨hw, hu, -, hp, -⟩ := BufferSt.wf_create h₀
  have hnone : ∀ p, b₀.packetEndPtr ≠ some p := fun p hp' => by
    rw [hp] at hp'
    cases hp'
  have hinv : (Traced.start b₀).Inv :=
    ⟨hw, fun p hp' => absurd hp' (hnone p), le_refl _, fun _ p hp' => absurd hp' (hnone p),
      fun m hm => by cases hm⟩
  have hrep : (Traced.start b₀).Represents := ⟨hu, fun p m hp' => absurd hp' (hnone p), trivial⟩
  refine throughout_iff_along (I := Traced.Inv) ?_ ?_ hinv hrep hl
  · intro t op hi hr hl hr'
    exact (Traced.step_of_fits hi hr hl ((Traced.represents_apply_iff hi hr hl).mp hr')).1
  · intro t op hi hr hl
    exact Traced.represents_apply_iff hi hr hl

end Stream

/-- The claim about the stream fails: growing after `mostlyRead` shifts, reading 600000 bytes from the offset 599999
on, past the 1048576 of the allocation, and the unread byte is not where reading goes on. -/
theorem buffer_shift_outside :
    bufferCreate lowMalloc = some lowBuffer ∧
      Along BufferOp.apply BufferOp.Legal lowBuffer
        (mostlyRead (List.replicate 600000 0) ++ [.increase lowMalloc]) ∧
      ¬ Throughout Traced.apply Traced.Represents (Traced.start lowBuffer)
        (mostlyRead (List.replicate 600000 0) ++ [.increase lowMalloc]) ∧
      (run BufferOp.apply lowBuffer (mostlyRead (List.replicate 600000 0))).shifts = true := by
  have hlen : (List.replicate 600000 (0 : UInt8)).length = 600000 := List.length_replicate
  generalize List.replicate 600000 (0 : UInt8) = bs at hlen ⊢
  have hs : (staleBuffer bs).shifts = true := by
    show decide (sizeT ((sizeT ((1048576 : ℕ) - (sizeT ((604095 : ℕ) - (4096 : ℕ)) + 600000 : ℕ)) + 600000 : ℕ))
      < 1048576 / 2) = true
    decide
  have hbuf : (run Traced.apply (Traced.start lowBuffer) (mostlyRead bs)).buf = staleBuffer bs := by
    have hstep : ∀ t op, (Traced.apply t op).buf = BufferOp.apply t.buf op := fun _ _ => rfl
    exact (run_map hstep _ _).trans (run_mostlyRead hlen)
  refine ⟨bufferCreate_lowMalloc, ?_, fun h => ?_, ?_⟩
  · exact (along_append _ _ _).mpr ⟨mostlyRead_legal hlen, trivial, trivial⟩
  · have hin := ((throughout_iff_run.mp h) _ (List.prefix_refl _)).inside_eq
    rw [run_append] at hin
    have hacc := hin.2 (604095, 600000)
    rw [hbuf] at hacc
    have hmem : (604095, 600000) ∈ BufferOp.accesses (staleBuffer bs) (.increase lowMalloc) := by
      rw [BufferOp.accesses, if_pos hs]
      exact List.mem_cons_self
    have hbad := hacc hmem
    have hend : (staleBuffer bs).buffer + (staleBuffer bs).bufferSize = 1052672 := rfl
    rw [hend] at hbad
    omega
  · rw [run_mostlyRead hlen, hs]

/-- The equivalence on a packet of two bytes of which the first is read on its own. -/
theorem buffer_represents_iff_two :
    Throughout Traced.apply Traced.Represents (Traced.start lowBuffer)
        [.append [1, 2, 3], .advance 1, .setPacketEnd 1, .packetReadEnd] ↔
      Along BufferOp.apply BufferOp.Fits lowBuffer [.append [1, 2, 3], .advance 1, .setPacketEnd 1, .packetReadEnd] := by
  have hl : Along BufferOp.apply BufferOp.Legal lowBuffer
      [.append [1, 2, 3], .advance 1, .setPacketEnd 1, .packetReadEnd] := by
    refine ⟨?_, ?_, ?_, ⟨4098, rfl, ?_⟩, trivial⟩
    · show 3 ≤ lowBuffer.available
      decide
    · show 1 ≤ (lowBuffer.append [1, 2, 3]).unreadData
      decide
    · show 1 ≤ ((lowBuffer.append [1, 2, 3]).advance 1).unreadData
      decide
    · decide
  exact buffer_represents_iff bufferCreate_lowMalloc hl

end LibAttachSql
