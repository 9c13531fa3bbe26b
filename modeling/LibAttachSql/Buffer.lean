import LibAttachSql.Constants
import LibAttachSql.Lib.Memory
import Mathlib.Data.Nat.Basic
import Mathlib.Tactic.Linarith

/-!
# The network buffer

`buffer.cc`: a growable byte buffer with a write pointer, a read pointer, the end of the packet being read and a
counter of the bytes in use.  Pointers are addresses of a flat memory, differences of pointers are taken in `size_t`.
The memory of a buffer is the part of the address space its allocations live in: a grown buffer is copied into a new
block, and what the old addresses then read is whatever the allocator left there.
-/

namespace LibAttachSql

open Lib

/-! ### The allocator -/

/-- A block handed out by `malloc` or `realloc`: its address, and what the address space reads before anything is
written to it. -/
structure Block where
  base : ℕ
  bytes : Memory UInt8

/-- What the allocator answers to a request of so many bytes; `none` is a null pointer. -/
abbrev Malloc := ℕ → Option Block

/-- The largest object the allocator hands out, `PTRDIFF_MAX`. -/
def ptrdiffMax : ℕ := 2 ^ 63 - 1

/-- A request of `n` bytes: refused above `PTRDIFF_MAX`, and else as the allocator decides. -/
def Malloc.get (malloc : Malloc) (n : ℕ) : Option Block :=
  if n ≤ ptrdiffMax then malloc n else none

lemma Malloc.get_le {malloc : Malloc} {n : ℕ} {block : Block} (h : malloc.get n = some block) :
    n ≤ ptrdiffMax := by
  unfold Malloc.get at h
  split at h
  · assumption
  · cases h

/-! ### The buffer and its operations -/

/-- `buffer_st`, with the memory its pointers point into. -/
structure BufferSt where
  buffer : ℕ
  bufferSize : ℕ
  bufferUsed : ℕ
  bufferWritePtr : ℕ
  bufferReadPtr : ℕ
  packetEndPtr : Option ℕ
  mem : Memory UInt8

/-- `attachsql_buffer_create`. -/
def bufferCreate (malloc : Malloc) : Option BufferSt :=
  match malloc.get defaultBufferSize with
  | none => none
  | some block => some {
      buffer := block.base
      bufferSize := defaultBufferSize
      bufferUsed := 0
      bufferWritePtr := block.base
      bufferReadPtr := block.base
      packetEndPtr := none
      mem := block.bytes }

namespace BufferSt

/-- The body of `attachsql_buffer_get_available`. -/
def available (b : BufferSt) : ℕ :=
  sizeT (b.bufferSize - (sizeT (b.bufferReadPtr - b.buffer) + b.bufferUsed : ℕ))

/-- `attachsql_buffer_unread_data`. -/
def unreadData (b : BufferSt) : ℕ := sizeT (b.bufferWritePtr - b.bufferReadPtr)

/-- `attachsql_buffer_move_write_ptr`. -/
def moveWritePtr (b : BufferSt) (len : ℕ) : BufferSt :=
  { b with
    bufferWritePtr := b.bufferWritePtr + len
    bufferUsed := sizeT (b.bufferUsed + len : ℕ) }

/-- A copy of `bs` to the write pointer, then `attachsql_buffer_move_write_ptr`: what libuv and the read callback,
or `memcpy` and the caller, do together. -/
def append (b : BufferSt) (bs : List UInt8) : BufferSt :=
  { b with mem := b.mem.store b.bufferWritePtr bs }.moveWritePtr bs.length

/-- Whether `attachsql_buffer_increase` shifts the unread bytes to the start instead of asking for more memory. -/
def shifts (b : BufferSt) : Bool := sizeT (b.available + b.bufferUsed : ℕ) < b.bufferSize / 2

/-- The shift branch of `attachsql_buffer_increase`. -/
def shift (b : BufferSt) : BufferSt :=
  { b with
    mem := b.mem.move b.bufferReadPtr b.buffer b.bufferUsed
    bufferWritePtr := b.buffer + b.bufferUsed }

/-- The realloc branch of `attachsql_buffer_increase`, once a block of the new size is there. -/
def regrow (b : BufferSt) (block : Block) : BufferSt :=
  let bufferWriteSize := sizeT (b.bufferWritePtr - b.buffer)
  let bufferReadSize := sizeT (b.bufferReadPtr - b.buffer)
  let packetEndSize := match b.packetEndPtr with
    | some p => sizeT (p - b.buffer)
    | none => 0
  { b with
    bufferSize := sizeT (b.bufferSize * 2 : ℕ)
    buffer := block.base
    mem := block.bytes.store block.base (b.mem.slice b.buffer b.bufferSize)
    bufferWritePtr := block.base + bufferWriteSize
    bufferReadPtr := block.base + bufferReadSize
    packetEndPtr := some (block.base + packetEndSize) }

/-- `attachsql_buffer_increase` on a buffer. -/
def increase (malloc : Malloc) (b : BufferSt) : Ret × BufferSt :=
  if b.shifts then (.ok, b.shift)
  else
    match malloc.get (sizeT (b.bufferSize * 2 : ℕ)) with
    | none => (.outOfMemoryError, b)
    | some block => (.ok, b.regrow block)

/-- `attachsql_buffer_packet_read_end`.  A null `packet_end_ptr` becomes the read pointer as any other would. -/
def packetReadEnd (b : BufferSt) : BufferSt :=
  if b.packetEndPtr = some b.bufferWritePtr then
    { b with
      bufferReadPtr := b.buffer
      bufferWritePtr := b.buffer
      bufferUsed := 0
      packetEndPtr := some b.buffer }
  else { b with bufferReadPtr := b.packetEndPtr.getD 0 }

end BufferSt

/-- `attachsql_buffer_get_available`: a null buffer has no space. -/
def bufferGetAvailable (buffer : Option BufferSt) : ℕ :=
  match buffer with
  | none => 0
  | some b => b.available

/-- `attachsql_buffer_increase`: a null buffer is a parameter error. -/
def bufferIncrease (malloc : Malloc) (buffer : Option BufferSt) : Ret × Option BufferSt :=
  match buffer with
  | none => (.parameterError, none)
  | some b => let (ret, b) := b.increase malloc; (ret, some b)

namespace BufferSt

/-! ### Well-formed buffers -/

/-- The pointers of the buffer are where its counters say: the bytes in use are those before the write pointer,
reading has not passed writing, and writing has not passed the end of the allocation. -/
structure Wf (b : BufferSt) : Prop where
  size_le : b.bufferSize ≤ ptrdiffMax
  buffer_le_read : b.buffer ≤ b.bufferReadPtr
  read_le_write : b.bufferReadPtr ≤ b.bufferWritePtr
  write_le_end : b.bufferWritePtr ≤ b.buffer + b.bufferSize
  used_eq : b.bufferUsed = b.bufferWritePtr - b.buffer

instance (b : BufferSt) : Decidable b.Wf :=
  decidable_of_iff (b.bufferSize ≤ ptrdiffMax ∧ b.buffer ≤ b.bufferReadPtr ∧ b.bufferReadPtr ≤ b.bufferWritePtr ∧
      b.bufferWritePtr ≤ b.buffer + b.bufferSize ∧ b.bufferUsed = b.bufferWritePtr - b.buffer)
    ⟨fun ⟨h₁, h₂, h₃, h₄, h₅⟩ => ⟨h₁, h₂, h₃, h₄, h₅⟩,
      fun h => ⟨h.size_le, h.buffer_le_read, h.read_le_write, h.write_le_end, h.used_eq⟩⟩

/-- The bytes between the read and the write pointer. -/
def unread (b : BufferSt) : List UInt8 := b.mem.slice b.bufferReadPtr (b.bufferWritePtr - b.bufferReadPtr)

/-- The free bytes behind the write pointer. -/
def freeTail (b : BufferSt) : ℕ := b.bufferSize - (b.bufferWritePtr - b.buffer)

variable {b : BufferSt}

lemma Wf.unreadData_eq (h : b.Wf) : b.unreadData = b.bufferWritePtr - b.bufferReadPtr := by
  have := h.size_le
  have := h.buffer_le_read
  have := h.write_le_end
  exact sizeT_sub h.read_le_write (by unfold ptrdiffMax at *; omega)

@[simp] lemma Wf.length_unread (h : b.Wf) : b.unread.length = b.unreadData := by
  rw [h.unreadData_eq, unread, Memory.length_slice]

/-- Free space is computed from the read offset and the bytes in use, and the bytes in use already contain the
offset: the answer is short of the free tail by the offset, and wraps when the tail is shorter than that. -/
lemma Wf.available_eq (h : b.Wf) :
    b.available = if b.bufferReadPtr - b.buffer ≤ b.freeTail then b.freeTail - (b.bufferReadPtr - b.buffer)
      else b.freeTail + 2 ^ 64 - (b.bufferReadPtr - b.buffer) := by
  have h₁ := h.size_le
  have h₂ := h.buffer_le_read
  have h₃ := h.read_le_write
  have h₄ := h.write_le_end
  unfold available freeTail
  rw [h.used_eq, sizeT_sub h₂ (by unfold ptrdiffMax at *; omega)]
  unfold sizeT ptrdiffMax at *
  split <;> omega

/-- The shift branch is taken exactly when more than half of the buffer is stale. -/
lemma Wf.shifts_iff (h : b.Wf) :
    b.shifts = true ↔ b.bufferSize - (b.bufferReadPtr - b.buffer) < b.bufferSize / 2 := by
  have h₁ := h.size_le
  have h₂ := h.buffer_le_read
  have h₃ := h.read_le_write
  have h₄ := h.write_le_end
  have h₅ := h.used_eq
  unfold shifts available
  rw [sizeT_sub h₂ (by unfold ptrdiffMax at *; omega), decide_eq_true_iff]
  unfold sizeT ptrdiffMax at *
  omega

/-! ### What the operations do to a well-formed buffer -/

@[simp] lemma append_readPtr (b : BufferSt) (bs : List UInt8) : (b.append bs).bufferReadPtr = b.bufferReadPtr := rfl
@[simp] lemma append_writePtr (b : BufferSt) (bs : List UInt8) :
    (b.append bs).bufferWritePtr = b.bufferWritePtr + bs.length := rfl
@[simp] lemma append_buffer (b : BufferSt) (bs : List UInt8) : (b.append bs).buffer = b.buffer := rfl
@[simp] lemma append_size (b : BufferSt) (bs : List UInt8) : (b.append bs).bufferSize = b.bufferSize := rfl
@[simp] lemma append_packetEnd (b : BufferSt) (bs : List UInt8) : (b.append bs).packetEndPtr = b.packetEndPtr := rfl
@[simp] lemma append_used (b : BufferSt) (bs : List UInt8) :
    (b.append bs).bufferUsed = sizeT (b.bufferUsed + bs.length : ℕ) := rfl
@[simp] lemma append_mem (b : BufferSt) (bs : List UInt8) :
    (b.append bs).mem = b.mem.store b.bufferWritePtr bs := rfl

lemma Wf.append (h : b.Wf) {bs : List UInt8} (hbs : b.bufferWritePtr + bs.length ≤ b.buffer + b.bufferSize) :
    (b.append bs).Wf := by
  have h₁ := h.size_le
  have h₂ := h.buffer_le_read
  have h₃ := h.read_le_write
  have h₅ := h.used_eq
  refine ⟨h₁, h₂, ?_, hbs, ?_⟩
  · simp only [append_readPtr, append_writePtr]
    omega
  · simp only [append_used, append_writePtr, append_buffer]
    rw [sizeT_of_lt (by unfold ptrdiffMax at *; omega)]
    omega

/-- Appended bytes join the unread ones. -/
lemma Wf.unread_append (h : b.Wf) (bs : List UInt8) : (b.append bs).unread = b.unread ++ bs := by
  have h₃ := h.read_le_write
  unfold unread
  simp only [append_readPtr, append_writePtr, append_mem]
  obtain ⟨d, hd⟩ := Nat.exists_eq_add_of_le h₃
  rw [hd, Nat.add_sub_cancel_left, show b.bufferReadPtr + d + bs.length - b.bufferReadPtr = d + bs.length by omega]
  exact Memory.slice_store_append _ _ _ _

/-- The buffer with the read pointer moved on by `n`. -/
def advance (b : BufferSt) (n : ℕ) : BufferSt := { b with bufferReadPtr := b.bufferReadPtr + n }

lemma Wf.advance (h : b.Wf) {n : ℕ} (hn : n ≤ b.unreadData) : (b.advance n).Wf := by
  rw [h.unreadData_eq] at hn
  have h₂ := h.buffer_le_read
  have h₃ := h.read_le_write
  exact ⟨h.size_le, by simp only [BufferSt.advance]; omega, by simp only [BufferSt.advance]; omega,
    h.write_le_end, h.used_eq⟩

lemma unread_advance (b : BufferSt) (n : ℕ) : (b.advance n).unread = b.unread.drop n := by
  unfold unread BufferSt.advance
  rw [Memory.drop_slice, Nat.sub_sub]

/-- The buffer with the end of the packet being read set to `len` bytes behind the read pointer. -/
def setPacketEnd (b : BufferSt) (len : ℕ) : BufferSt := { b with packetEndPtr := some (b.bufferReadPtr + len) }

@[simp] lemma setPacketEnd_unread (b : BufferSt) (len : ℕ) : (b.setPacketEnd len).unread = b.unread := rfl

lemma Wf.setPacketEnd (h : b.Wf) (len : ℕ) : (b.setPacketEnd len).Wf :=
  ⟨h.size_le, h.buffer_le_read, h.read_le_write, h.write_le_end, h.used_eq⟩

/-- A drained buffer starts again at its first byte; any other is read from the end of the packet on. -/
lemma packetReadEnd_of_drained (h : b.packetEndPtr = some b.bufferWritePtr) :
    b.packetReadEnd = { b with
      bufferReadPtr := b.buffer, bufferWritePtr := b.buffer, bufferUsed := 0, packetEndPtr := some b.buffer } :=
  if_pos h

lemma packetReadEnd_of_undrained {p : ℕ} (h : b.packetEndPtr = some p) (hp : p ≠ b.bufferWritePtr) :
    b.packetReadEnd = { b with bufferReadPtr := p } := by
  unfold packetReadEnd
  rw [if_neg (by rw [h]; simpa using hp), h, Option.getD_some]

/-- A packet that is ended twice is ended once. -/
lemma packetReadEnd_packetReadEnd (b : BufferSt) : b.packetReadEnd.packetReadEnd = b.packetReadEnd := by
  by_cases hd : b.packetEndPtr = some b.bufferWritePtr
  · rw [packetReadEnd_of_drained hd]
    exact packetReadEnd_of_drained rfl
  · unfold packetReadEnd
    rw [if_neg hd]
    exact if_neg hd

lemma map_packetReadEnd_twice (b : Option BufferSt) :
    (b.map packetReadEnd).map packetReadEnd = b.map packetReadEnd := by
  rw [Option.map_map]
  exact congrArg (Option.map · b) (funext packetReadEnd_packetReadEnd)

/-- The end of a packet leaves the unread bytes that follow the packet. -/
lemma Wf.packetReadEnd (h : b.Wf) {p : ℕ} (hp : b.packetEndPtr = some p) (hb : b.buffer ≤ p)
    (hw : p ≤ b.bufferWritePtr) :
    b.packetReadEnd.Wf ∧ b.packetReadEnd.unread = b.mem.slice p (b.bufferWritePtr - p) := by
  have h₁ := h.size_le
  have h₄ := h.write_le_end
  have h₅ := h.used_eq
  by_cases hd : p = b.bufferWritePtr
  · subst hd
    rw [packetReadEnd_of_drained hp]
    exact ⟨⟨h₁, le_refl _, le_refl _, by simp, by simp⟩, by simp [unread]⟩
  · rw [packetReadEnd_of_undrained hp hd]
    exact ⟨⟨h₁, hb, hw, h₄, h₅⟩, rfl⟩

/-- The read buffer behind the packet that was opened. -/
lemma Wf.opened_ended (h : b.Wf) {n : ℕ} (hn : n + 4 ≤ b.unreadData) :
    ((b.advance 4).setPacketEnd n).packetReadEnd.Wf ∧
      ((b.advance 4).setPacketEnd n).packetReadEnd.unread = b.unread.drop (4 + n) := by
  have hdata := h.unreadData_eq
  have hread := h.buffer_le_read
  have hopened : ((b.advance 4).setPacketEnd n).Wf := (h.advance (by omega)).setPacketEnd n
  have hend : ((b.advance 4).setPacketEnd n).packetReadEnd.Wf ∧
      ((b.advance 4).setPacketEnd n).packetReadEnd.unread =
        b.mem.slice (b.bufferReadPtr + 4 + n) (b.bufferWritePtr - (b.bufferReadPtr + 4 + n)) :=
    hopened.packetReadEnd rfl (show b.buffer ≤ b.bufferReadPtr + 4 + n by omega)
      (show b.bufferReadPtr + 4 + n ≤ b.bufferWritePtr by omega)
  refine ⟨hend.1, hend.2.trans ?_⟩
  unfold unread
  rw [Memory.drop_slice, Nat.add_assoc, Nat.sub_sub]

/-- The offset of an address of the allocation, as `attachsql_buffer_increase` saves it. -/
lemma Wf.offset_eq (h : b.Wf) {p : ℕ} (hp : b.buffer ≤ p) (hp' : p ≤ b.buffer + b.bufferSize) :
    sizeT ((p : ℤ) - b.buffer) = p - b.buffer := by
  have h₁ := h.size_le
  exact sizeT_sub hp (by unfold ptrdiffMax at *; omega)

lemma Wf.regrow_size (h : b.Wf) (block : Block) : (b.regrow block).bufferSize = b.bufferSize * 2 := by
  have h₁ := h.size_le
  exact sizeT_of_lt (by unfold ptrdiffMax at *; omega)

lemma Wf.regrow_readPtr (h : b.Wf) (block : Block) :
    (b.regrow block).bufferReadPtr = block.base + (b.bufferReadPtr - b.buffer) := by
  have h₃ := h.read_le_write
  have h₄ := h.write_le_end
  rw [← h.offset_eq h.buffer_le_read (by omega)]
  rfl

lemma Wf.regrow_writePtr (h : b.Wf) (block : Block) :
    (b.regrow block).bufferWritePtr = block.base + (b.bufferWritePtr - b.buffer) := by
  have h₂ := h.buffer_le_read
  have h₃ := h.read_le_write
  rw [← h.offset_eq (by omega) h.write_le_end]
  rfl

lemma regrow_packetEnd_none (h : b.packetEndPtr = none) (block : Block) :
    (b.regrow block).packetEndPtr = some block.base := by
  simp [BufferSt.regrow, h]

lemma Wf.regrow_packetEnd_some (h : b.Wf) {p : ℕ} (hp : b.packetEndPtr = some p) (hb : b.buffer ≤ p)
    (hw : p ≤ b.bufferWritePtr) (block : Block) :
    (b.regrow block).packetEndPtr = some (block.base + (p - b.buffer)) := by
  have h₄ := h.write_le_end
  rw [← h.offset_eq hb (by omega)]
  simp [BufferSt.regrow, hp]

/-- The block is copied whole, so what stood at an offset stands there again. -/
lemma regrow_slice (block : Block) {p n : ℕ} (hp : b.buffer ≤ p)
    (hn : p + n ≤ b.buffer + b.bufferSize) :
    (b.regrow block).mem.slice (block.base + (p - b.buffer)) n = b.mem.slice p n := by
  refine List.ext_getElem (by simp) fun i hi hi' => ?_
  simp only [Memory.getElem_slice, BufferSt.regrow]
  have hlt : p - b.buffer + i < (b.mem.slice b.buffer b.bufferSize).length := by
    simp only [Memory.length_slice] at hi' ⊢
    omega
  rw [Nat.add_assoc, Memory.store_of_mem hlt, Memory.getElem_slice]
  congr 1
  omega

/-- Growing keeps the unread bytes. -/
lemma Wf.regrow (h : b.Wf) (block : Block) (hs : b.bufferSize * 2 ≤ ptrdiffMax) :
    (b.regrow block).Wf ∧ (b.regrow block).unread = b.unread := by
  have h₂ := h.buffer_le_read
  have h₃ := h.read_le_write
  have h₄ := h.write_le_end
  have h₅ := h.used_eq
  have hr := h.regrow_readPtr block
  have hw := h.regrow_writePtr block
  have hsize := h.regrow_size block
  have hbuf : (b.regrow block).buffer = block.base := rfl
  have hused : (b.regrow block).bufferUsed = b.bufferUsed := rfl
  refine ⟨⟨?_, ?_, ?_, ?_, ?_⟩, ?_⟩
  · rw [hsize]
    exact hs
  · rw [hbuf, hr]
    omega
  · rw [hr, hw]
    omega
  · rw [hw, hbuf, hsize]
    omega
  · rw [hused, hw, hbuf]
    omega
  · unfold unread
    rw [hr, hw, show block.base + (b.bufferWritePtr - b.buffer) - (block.base + (b.bufferReadPtr - b.buffer)) =
      b.bufferWritePtr - b.bufferReadPtr by omega]
    exact regrow_slice block h₂ (by omega)

/-- Without a shift the buffer either grows into a new block or stays as it is. -/
lemma Wf.increase_cases (h : b.Wf) (hs : b.shifts = false) (malloc : Malloc) :
    (b.increase malloc).2 = b ∨
      ∃ block, b.bufferSize * 2 ≤ ptrdiffMax ∧ (b.increase malloc).2 = b.regrow block := by
  unfold increase
  rw [if_neg (by simp [hs])]
  split
  · exact Or.inl rfl
  · next block hb =>
    have h₁ := h.size_le
    have hle := Malloc.get_le hb
    rw [sizeT_of_lt (by unfold ptrdiffMax at *; omega)] at hle
    exact Or.inr ⟨block, hle, rfl⟩

/-- A fresh buffer is well formed and empty. -/
lemma wf_create {malloc : Malloc} (h : bufferCreate malloc = some b) :
    b.Wf ∧ b.unread = [] ∧ b.bufferReadPtr = b.buffer ∧ b.packetEndPtr = none ∧
      b.bufferWritePtr = b.buffer ∧ b.bufferSize = defaultBufferSize := by
  unfold bufferCreate at h
  split at h
  · cases h
  · cases h
    have hs : defaultBufferSize ≤ ptrdiffMax := by decide
    exact ⟨⟨hs, le_refl _, le_refl _, by simp, by simp⟩, by simp [unread], rfl, rfl, rfl, rfl⟩

end BufferSt

end LibAttachSql
