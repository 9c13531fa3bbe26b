import LibAttachSql.RowView

/-!
# Room before a copy

Before bytes are copied into a network buffer, the free space is compared with a size, and if it is less the buffer is asked
to grow, once.  This happens in `attachsql_ssl_buffer_write` for the bytes to be encrypted, and in
`attachsql_con_decompress_read_buffer` for the payload of a compressed packet, which is stored or deflated.  This module
says when there is room for what is copied then.
-/

namespace LibAttachSql

open Lib

/-! ### The copies -/

/-- A copy into a network buffer: of bytes to be encrypted, of the payload of a stored packet, or of what a deflated one is
announced to hold. -/
inductive Copy where
  | ssl (parts : List (List UInt8))
  | stored (c : BufferSt) (compressedSize : ℕ)
  | deflated (c : BufferSt) (compressedSize uncompressedSize : ℕ)

/-- The buffer that is there, or a new one. -/
def bufferOr (env : Env) : Option BufferSt → Option BufferSt
  | some b => some b
  | none => bufferCreate env.malloc

namespace Copy

/-- The function that makes the copy. -/
def run (env : Env) (con : Con) : Copy → Con
  | ssl parts => sslBufferWrite env con parts
  | stored c compressedSize => decompressPacket env con c compressedSize 0
  | deflated c compressedSize uncompressedSize => decompressPacket env con c compressedSize uncompressedSize

/-- The buffer that is copied into. -/
def target (con : Con) : Copy → Option BufferSt
  | ssl _ => con.ssl.writeBuffer
  | _ => con.readBuffer

/-- How many bytes are copied, or announced. -/
def size : Copy → ℕ
  | ssl parts => parts.flatten.length
  | stored _ compressedSize => compressedSize
  | deflated _ _ uncompressedSize => uncompressedSize

/-- The size the free space is compared with. -/
def requested : Copy → ℕ
  | stored _ _ => 0
  | copy => copy.size

/-- The function, from the copy on, once there is a buffer. -/
def into (env : Env) (con : Con) (buffer : Option BufferSt) : Copy → Con
  | ssl parts =>
    match buffer with
    | none => con.log .fault
    | some b =>
      sslRun env ({ con with ssl.writeBuffer := some (parts.foldl BufferSt.append b) }.log (.sslBuffered parts.flatten))
  | stored c compressedSize => unpack env con buffer (c.setPacketEnd compressedSize) compressedSize 0
  | deflated c compressedSize uncompressedSize =>
    unpack env con buffer (c.setPacketEnd compressedSize) compressedSize uncompressedSize
where
  /-- The payload of the open packet `c` goes into the buffer. -/
  unpack (env : Env) (con : Con) (buffer : Option BufferSt) (c : BufferSt) (compressedSize uncompressedSize : ℕ) : Con :=
    let con := { con with readBuffer := buffer, readBufferCompress := some c }.log
      (.compressedPacket (c.mem.slice c.bufferReadPtr compressedSize))
    match buffer with
    | none => con.log .fault
    | some b => decompressInto env con b c compressedSize uncompressedSize

/-- The copy into this buffer has room, or fails cleanly: `uncompress`, which is told of the free space, refuses to write
more. -/
def FitsIn (copy : Copy) (b : BufferSt) : Prop :=
  copy.size ≤ b.freeTail ∨ match copy with
    | deflated _ _ uncompressedSize => b.available < uncompressedSize
    | _ => False

/-- The buffer that was made room in is there, and the copy fits. -/
def Safe (env : Env) (con : Con) (copy : Copy) : Prop :=
  match allocBuffer env (copy.target con) copy.requested with
  | none => False
  | some b => copy.FitsIn b

/-- The offset that was read up to is not larger than the free tail, so that the free space does not come out negative. -/
def Unwrapped (b : BufferSt) : Prop := b.bufferReadPtr - b.buffer ≤ b.freeTail

/-- What must be so beforehand: the bytes fit behind the written ones; or, where the free space is compared with their
number and does not come out negative, the buffer can be doubled once and they fit then; what is inflated need not fit. -/
def Roomy (env : Env) (copy : Copy) (b : BufferSt) : Prop :=
  copy.size ≤ b.freeTail ∨ match copy with
    | ssl parts =>
      Unwrapped b ∧ (env.malloc.get (b.bufferSize * 2)).isSome ∧ parts.flatten.length ≤ b.freeTail + b.bufferSize
    | stored _ _ => False
    | deflated _ _ _ => Unwrapped b

instance (copy : Copy) (b : BufferSt) : Decidable (copy.FitsIn b) := by
  unfold FitsIn
  cases copy <;> infer_instance

instance (env : Env) (con : Con) (copy : Copy) : Decidable (copy.Safe env con) := by
  unfold Safe
  split <;> infer_instance

end Copy

/-! ### Asking for room -/

namespace BufferSt

variable {b : BufferSt}

lemma Wf.regrow_freeTail (h : b.Wf) (block : Block) : (b.regrow block).freeTail = b.freeTail + b.bufferSize := by
  have hend := h.write_le_end
  have hbuf : (b.regrow block).buffer = block.base := rfl
  unfold freeTail
  rw [h.regrow_size, h.regrow_writePtr, hbuf]
  omega

/-- **What asking for room does** to a buffer whose free space does not come out negative: nothing when there is enough,
and else it is doubled if the allocator agrees. -/
lemma Wf.withRoom_cases (h : b.Wf) (hu : Copy.Unwrapped b) (env : Env) (n : ℕ) :
    n ≤ b.available ∧ b.withRoom env n = b ∨
      b.available < n ∧ (env.malloc.get (b.bufferSize * 2) = none ∧ b.withRoom env n = b ∨
        ∃ block, env.malloc.get (b.bufferSize * 2) = some block ∧ b.withRoom env n = b.regrow block) := by
  have hsize := h.size_le
  have hread := h.buffer_le_read
  have hwrite := h.read_le_write
  have hend := h.write_le_end
  have hshifts : ¬ b.shifts = true := by
    rw [h.shifts_iff]
    unfold Copy.Unwrapped freeTail at hu
    omega
  unfold withRoom increase
  rw [if_neg hshifts, sizeT_of_lt (by unfold ptrdiffMax at hsize; omega)]
  rcases Nat.lt_or_ge b.available n with hlt | hge
  · refine .inr ⟨hlt, ?_⟩
    rw [if_pos hlt]
    cases env.malloc.get (b.bufferSize * 2) with
    | none => exact .inl ⟨rfl, rfl⟩
    | some block => exact .inr ⟨block, rfl, rfl⟩
  · exact .inl ⟨hge, if_neg (not_lt.mpr hge)⟩

/-- A free space that comes out negative is huge. -/
lemma Wf.available_of_wrapped (h : b.Wf) (hu : ¬ Copy.Unwrapped b) : 2 ^ 63 < b.available := by
  have hsize := h.size_le
  have hwrite := h.read_le_write
  have hend := h.write_le_end
  unfold Copy.Unwrapped at hu
  rw [h.available_eq, if_neg hu]
  unfold ptrdiffMax at hsize
  omega

lemma Wf.available_of_unwrapped (h : b.Wf) (hu : Copy.Unwrapped b) : b.available ≤ b.freeTail := by
  unfold Copy.Unwrapped at hu
  rw [h.available_eq, if_pos hu]
  exact Nat.sub_le _ _

/-- No free tail is longer than an object may be. -/
lemma Wf.withRoom_freeTail_le (h : b.Wf) (env : Env) (n : ℕ) : (b.withRoom env n).freeTail ≤ ptrdiffMax := by
  have hsize := h.size_le
  refine (Nat.sub_le _ _).trans ?_
  unfold withRoom increase
  split_ifs
  · exact hsize
  · split
    · exact hsize
    · next block hb => exact Malloc.get_le hb
  · exact hsize

end BufferSt

section Copies

variable {env : Env} {con : Con} {b : BufferSt}

/-- Bytes to be encrypted. -/
lemma ssl_fitsIn_iff (h : b.Wf) (parts : List (List UInt8)) :
    (Copy.ssl parts).FitsIn (b.withRoom env parts.flatten.length) ↔ (Copy.ssl parts).Roomy env b := by
  show parts.flatten.length ≤ _ ∨ False ↔ parts.flatten.length ≤ _ ∨ _ ∧ _ ∧ _
  generalize parts.flatten.length = n
  rw [or_false]
  by_cases hu : Copy.Unwrapped b
  · rcases h.withRoom_cases hu env n with ⟨hge, heq⟩ | ⟨-, ⟨hnone, heq⟩ | ⟨block, hsome, heq⟩⟩
    · have hfit := hge.trans (h.available_of_unwrapped hu)
      rw [heq]
      exact iff_of_true hfit (.inl hfit)
    · rw [heq, hnone]
      exact ⟨.inl, fun hor => hor.resolve_right fun hr => absurd hr.2.1 (by decide)⟩
    · rw [heq, hsome, h.regrow_freeTail]
      exact ⟨fun hfit => .inr ⟨hu, rfl, hfit⟩, fun hor => hor.elim (fun hfit => hfit.trans (Nat.le_add_right _ _)) (·.2.2)⟩
  · rcases Nat.lt_or_ge b.available n with hlt | hge
    · have hbig := (h.available_of_wrapped hu).trans hlt
      have hle := h.withRoom_freeTail_le env n
      have hfree : b.freeTail ≤ ptrdiffMax := (Nat.sub_le _ _).trans h.size_le
      unfold ptrdiffMax at hle hfree
      exact iff_of_false (by omega) fun hor => hor.elim (fun hfit => by omega) fun hr => hu hr.1
    · have heq : b.withRoom env n = b := if_neg (not_lt.mpr hge)
      rw [heq]
      exact ⟨.inl, fun hor => hor.resolve_right fun hr => hu hr.1⟩

/-- The payload of a stored packet: its size is not asked for. -/
lemma stored_fitsIn_iff (c : BufferSt) (compressedSize : ℕ) :
    (Copy.stored c compressedSize).FitsIn (b.withRoom env 0) ↔ (Copy.stored c compressedSize).Roomy env b := by
  have heq : b.withRoom env 0 = b := if_neg (Nat.not_lt_zero _)
  rw [heq]
  exact Iff.rfl

/-- What a deflated packet is announced to hold: `uncompress` keeps to the free space it is told of. -/
lemma deflated_fitsIn_iff (h : b.Wf) (c : BufferSt) (compressedSize : ℕ) {n : ℕ} (hn : n < 2 ^ 24) :
    (Copy.deflated c compressedSize n).FitsIn (b.withRoom env n) ↔ (Copy.deflated c compressedSize n).Roomy env b := by
  show n ≤ _ ∨ _ < n ↔ n ≤ _ ∨ _
  by_cases hu : Copy.Unwrapped b
  · refine iff_of_true ?_ (.inr hu)
    rcases h.withRoom_cases hu env n with ⟨hge, heq⟩ | ⟨hlt, ⟨-, heq⟩ | ⟨block, hsome, heq⟩⟩
    · rw [heq]
      exact .inl (hge.trans (h.available_of_unwrapped hu))
    · rw [heq]
      exact .inr hlt
    · have hle := Malloc.get_le hsome
      have hu' : Copy.Unwrapped (b.regrow block) := by
        have hbuf : (b.regrow block).buffer = block.base := rfl
        unfold Copy.Unwrapped at hu ⊢
        rw [h.regrow_freeTail, h.regrow_readPtr, hbuf]
        omega
      have havailable := (h.regrow block hle).1.available_of_unwrapped hu'
      rw [heq]
      omega
  · have hbig := h.available_of_wrapped hu
    have heq : b.withRoom env n = b := if_neg (by omega)
    rw [heq]
    exact ⟨fun hor => hor.imp_right fun hlt => absurd hlt (by omega), fun hor => hor.imp_right fun hu' => absurd hu' hu⟩

/-- Room is asked for in the buffer that is there, or in a new one. -/
lemma allocBuffer_eq (env : Env) (buffer : Option BufferSt) (n : ℕ) :
    allocBuffer env buffer n = (bufferOr env buffer).map fun b => b.withRoom env n := by
  cases buffer with
  | some b => exact allocBuffer_some env b n
  | none =>
    unfold bufferOr
    cases hb : bufferCreate env.malloc with
    | none =>
      unfold allocBuffer
      rw [hb]
      exact ite_self none
    | some b =>
      have hsome := allocBuffer_some env b n
      unfold allocBuffer at hsome ⊢
      rw [hb]
      exact hsome

/-- Every copy follows the comparison of the free space with the size it asks for. -/
lemma run_eq_into (env : Env) (con : Con) (copy : Copy) :
    copy.run env con = copy.into env con (allocBuffer env (copy.target con) copy.requested) := by
  cases copy <;> rfl

end Copies

/-- **When there is room for a copy**: every one of them goes into the buffer that was asked for room, and fits there, or
fails cleanly, exactly if there is a buffer or one can be made, and in it either the bytes fit behind the written ones, or
the free space does not come out negative and, for bytes to be encrypted, one doubling makes enough room; a stored packet
gets no more room. -/
theorem reservation {env : Env} {con : Con} {copy : Copy} (h : ∀ b ∈ copy.target con, b.Wf)
    (hsize : ∀ c compressedSize uncompressedSize, copy = .deflated c compressedSize uncompressedSize →
      uncompressedSize < 2 ^ 24) :
    copy.run env con = copy.into env con (allocBuffer env (copy.target con) copy.requested) ∧
      (copy.Safe env con ↔ ∃ b, bufferOr env (copy.target con) = some b ∧ copy.Roomy env b) := by
  refine ⟨run_eq_into env con copy, ?_⟩
  unfold Copy.Safe
  rw [allocBuffer_eq]
  have hwf : ∀ b, bufferOr env (copy.target con) = some b → b.Wf := by
    intro b hb
    cases ht : copy.target con with
    | some b' =>
      rw [ht] at hb
      exact h b (ht.trans hb)
    | none =>
      rw [ht] at hb
      exact (BufferSt.wf_create hb).1
  generalize bufferOr env (copy.target con) = buffer at hwf ⊢
  cases buffer with
  | none => exact iff_of_false id fun ⟨b, hb, _⟩ => nomatch hb
  | some b =>
    have hb := hwf b rfl
    have hfits : copy.FitsIn (b.withRoom env copy.requested) ↔ copy.Roomy env b := by
      cases copy with
      | ssl parts => exact ssl_fitsIn_iff hb parts
      | stored c compressedSize => exact stored_fitsIn_iff c compressedSize
      | deflated c compressedSize n => exact deflated_fitsIn_iff hb c compressedSize (hsize _ _ _ rfl)
    constructor
    · intro hf
      exact ⟨b, rfl, hfits.mp hf⟩
    · rintro ⟨b', heq, hr⟩
      cases heq
      exact hfits.mpr hr

/-- A buffer of which most is read, and which has six bytes left. -/
def mostlyReadBuffer : BufferSt where
  buffer := 4096
  bufferSize := defaultBufferSize
  bufferUsed := defaultBufferSize - 6
  bufferWritePtr := 4096 + defaultBufferSize - 6
  bufferReadPtr := 4096 + 1000000
  packetEndPtr := none
  mem := fun _ => 0

/-- A buffer of which three bytes are read, and which has six bytes left. -/
def partlyReadBuffer : BufferSt where
  buffer := 4096
  bufferSize := defaultBufferSize
  bufferUsed := defaultBufferSize - 6
  bufferWritePtr := 4096 + defaultBufferSize - 6
  bufferReadPtr := 4096 + 3
  packetEndPtr := none
  mem := fun _ => 0

/-- Ten bytes to be encrypted have the first buffer doubled, and fit then; ten bytes that a deflated packet announces do not
fit in the second, whose free space comes out negative. -/
theorem reservation_partlyRead :
    (Copy.ssl [List.replicate 10 0]).run .calm { Con.calm 0 with ssl.writeBuffer := some partlyReadBuffer } =
        (Copy.ssl [List.replicate 10 0]).into .calm { Con.calm 0 with ssl.writeBuffer := some partlyReadBuffer }
          (allocBuffer .calm (some partlyReadBuffer) 10) ∧
      (Copy.ssl [List.replicate 10 0]).Safe .calm { Con.calm 0 with ssl.writeBuffer := some partlyReadBuffer } ∧
      (Copy.deflated partlyReadBuffer 100 10).run .calm { Con.calm 0 with readBuffer := some mostlyReadBuffer } =
        (Copy.deflated partlyReadBuffer 100 10).into .calm { Con.calm 0 with readBuffer := some mostlyReadBuffer }
          (allocBuffer .calm (some mostlyReadBuffer) 10) ∧
      ¬ (Copy.deflated partlyReadBuffer 100 10).Safe .calm { Con.calm 0 with readBuffer := some mostlyReadBuffer } := by
  have hpartly : ∀ b ∈ some partlyReadBuffer, b.Wf := fun b hb => by
    obtain rfl := Option.some.inj hb
    decide +kernel
  have hmostly : ∀ b ∈ some mostlyReadBuffer, b.Wf := fun b hb => by
    obtain rfl := Option.some.inj hb
    decide +kernel
  obtain ⟨hssl, hsafe⟩ := @reservation .calm { Con.calm 0 with ssl.writeBuffer := some partlyReadBuffer }
    (.ssl [List.replicate 10 0]) hpartly nofun
  obtain ⟨hdeflated, hunsafe⟩ := @reservation .calm { Con.calm 0 with readBuffer := some mostlyReadBuffer }
    (.deflated partlyReadBuffer 100 10) hmostly fun c m n h => by
      cases h
      decide
  refine ⟨hssl, hsafe.mpr ⟨partlyReadBuffer, rfl, .inr ⟨?_, ?_, ?_⟩⟩, hdeflated, fun h => ?_⟩
  · show partlyReadBuffer.bufferReadPtr - partlyReadBuffer.buffer ≤ partlyReadBuffer.freeTail
    decide +kernel
  · decide +kernel
  · decide +kernel
  · obtain ⟨b, hb, hroomy⟩ := hunsafe.mp h
    obtain rfl : mostlyReadBuffer = b := Option.some.inj hb
    revert hroomy
    show ¬ (10 ≤ mostlyReadBuffer.freeTail ∨
      mostlyReadBuffer.bufferReadPtr - mostlyReadBuffer.buffer ≤ mostlyReadBuffer.freeTail)
    decide +kernel

/-- The first packet that comes compressed is stored, and one byte longer than a new buffer; and into a buffer with six bytes
left, of which most is read, ten bytes are written to be encrypted, or announced by a deflated packet. -/
theorem reservation_fails :
    ¬ (Copy.stored mostlyReadBuffer (2 ^ 20 + 1)).Safe .calm (Con.calm 0) ∧ mostlyReadBuffer.Wf ∧
      ¬ (Copy.ssl [List.replicate 10 0]).Safe .calm { Con.calm 0 with ssl.writeBuffer := some mostlyReadBuffer } ∧
      ¬ (Copy.deflated mostlyReadBuffer 100 10).Safe .calm { Con.calm 0 with readBuffer := some mostlyReadBuffer } :=
  ⟨by decide +kernel, by decide +kernel, by decide +kernel, by decide +kernel⟩

end LibAttachSql
