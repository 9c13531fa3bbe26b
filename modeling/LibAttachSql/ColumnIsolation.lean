import LibAttachSql.PacketBounds
import LibAttachSql.ColumnMetadata

/-!
# What a column record depends on

The server sends no default value in the definition of a column of a result.  `attachsql_packet_get_column` reads one all the
same: the length of it is the byte behind the packet, whatever that is, and so many bytes behind it go into the record.  This
module compares read buffers that agree up to the end of the packet, and says when the record depends on nothing else.
-/

namespace LibAttachSql

open Lib

/-- The connection with other bytes in its read buffer. -/
def Con.withMemory (con : Con) (m : Memory UInt8) : Con :=
  { con with readBuffer := con.readBuffer.map fun b => { b with mem := m } }

/-- **The record depends only on its packet**: with any bytes from the end of the packet on, the record is the same, and none
of these bytes is read. -/
structure Con.ColumnIsolated (con : Con) (column : Column) : Prop where
  same : ∀ m : Memory UInt8, (∀ a, a < con.buf.packetEndPtr.getD 0 → con.buf.mem a = m a) →
    packetGetColumn (con.withMemory m) column = packetGetColumn con column
  inside : ∀ a ∈ (columnReading column con.buf.bufferReadPtr).reads con.buf.mem, a < con.buf.packetEndPtr.getD 0

/-- What the lengths of a definition lead to, from the place `p` in the bytes in front of the end of its packet, the default
value included. -/
def StaysInFront (bytes : List UInt8) (p : ℕ) : Prop :=
  FieldsFit bytes (fun c => NumbersFit bytes (c + 1)) fieldSizes p

section Isolation

variable {m : Memory UInt8} {con : Con} {d : Definition} {payload : List UInt8} {p e : ℕ}

/-- Reads in front of an address. -/
lemma within_front {β : Type} (x : Reading UInt8 β) : x.Within m (Set.Ico 0 e) ↔ ∀ a ∈ x.reads m, a < e := by
  unfold Reading.Within
  simp

/-- The reads of a definition stay in front of the end exactly if its lengths lead nowhere else. -/
lemma column_front (column : Column) (hp : p < 2 ^ 64) (he : e ≤ 2 ^ 64) :
    (columnReading column p).Within m (Set.Ico 0 e) ↔ StaysInFront (m.slice 0 e) p := by
  have hlen : (m.slice 0 e).length = e := m.length_slice 0 e
  have hm : m.slice 0 (m.slice 0 e).length = m.slice 0 e := by rw [hlen]
  have hnumbers : ∀ c a, Points 0 c a → a < 2 ^ 64 →
      (NumbersWithin m (Set.Ico 0 (0 + (m.slice 0 e).length)) (a + 1) ↔ NumbersFit (m.slice 0 e) (c + 1)) := by
    intro c a h ha
    obtain rfl : a = c := by
      rcases h.address with hadd | ⟨hpos, -⟩
      · rw [hadd, Nat.zero_add]
      · exact absurd hpos (Nat.lt_irrefl 0)
    by_cases hnext : a + 1 < 2 ^ 64
    · have hpoints : Points 0 (a + 1) (0 + (a + 1)) := Points.start hnext
      rw [Nat.zero_add (a + 1)] at hpoints
      exact hpoints.numbers (by omega) hm
    · constructor
      · rintro ⟨hfirst, -⟩
        rw [within_int2Reading] at hfirst
        omega
      · intro hfits
        unfold NumbersFit at hfits
        dsimp only at hfits
        omega
  have hstart : Points 0 p (0 + p) := Points.start hp
  rw [Nat.zero_add] at hstart
  have hfields : FieldsWithin m (Set.Ico 0 (0 + (m.slice 0 e).length)) (fun a => NumbersWithin m
      (Set.Ico 0 (0 + (m.slice 0 e).length)) (a + 1)) fieldSizes p ↔ StaysInFront (m.slice 0 e) p :=
    fields_within (by omega) hm hnumbers (by decide) hstart hp
  rw [Nat.zero_add, hlen] at hfields
  rw [within_columnReading column _ ⟨_, _, rfl⟩]
  exact hfields

/-- A definition whose lengths are kept is read beyond its end. -/
lemma not_within_of_kept (column : Column) (h : m.slice p d.payload.length = d.payload) (hd : d.Kept)
    (hp : p + d.payload.length < 2 ^ 64) :
    ¬ (columnReading column p).Within m (Set.Ico 0 (p + d.payload.length)) := by
  obtain ⟨hcatalog, hschema, htable, horiginTable, hcolumn, horiginColumn⟩ :
      LengthKept d.catalog.length ∧ LengthKept d.schema.length ∧ LengthKept d.table.length ∧
        LengthKept d.originTable.length ∧ LengthKept d.column.length ∧ LengthKept d.originColumn.length := by
    simpa [Definition.Kept] using hd
  have hsize : d.numbers.length = 13 := rfl
  rw [within_columnReading column _ ⟨_, _, rfl⟩]
  generalize hend : p + d.payload.length = e at hp
  unfold Definition.payload at h hend
  simp only [List.length_append, hsize] at hend
  obtain ⟨h₀, h⟩ := readField_of_slice h hcatalog (by omega) 1 (by decide)
  obtain ⟨h₁, h⟩ := readField_of_slice h hschema (by omega) maxSchemaSize (by decide)
  obtain ⟨h₂, h⟩ := readField_of_slice h htable (by omega) maxTableSize (by decide)
  obtain ⟨h₃, h⟩ := readField_of_slice h horiginTable (by omega) maxTableSize (by decide)
  obtain ⟨h₄, h⟩ := readField_of_slice h hcolumn (by omega) maxColumnSize (by decide)
  obtain ⟨h₅, -⟩ := readField_of_slice h horiginColumn (by omega) maxColumnSize (by decide)
  -- the strings end 13 bytes before the packet, and the length of the default value is read 13 bytes further on
  rintro ⟨-, -, -, -, -, -, hnumbers⟩
  simp only [h₀, h₁, h₂, h₃, h₄, h₅] at hnumbers
  have hdefault := (within_fieldReading _ (show 0 < maxDefaultValueSize by decide)).mp hnumbers.2.2.2.2.2
  generalize hlen : unpackLength m _ = len at hdefault
  have hpos : 0 < len.bytes := hlen ▸ bytes_pos m _
  omega

/-- The record in another memory. -/
lemma packetGetColumn_withMemory (hb : con.readBuffer.isSome = true) (m : Memory UInt8) (column : Column) :
    packetGetColumn (con.withMemory m) column = (columnReading column con.buf.bufferReadPtr).run m := by
  obtain ⟨b, hb⟩ := Option.isSome_iff_exists.mp hb
  have hbuf : (con.withMemory m).buf = { con.buf with mem := m } := by
    unfold Con.withMemory Con.buf
    rw [hb]
    rfl
  rw [← run_columnReading, hbuf]

/-- **A record depends only on its packet** exactly if the lengths of the definition, as the code reads them, lead
nowhere but in front of the end of the packet.  So it never does when they are read as they were meant: then the
default value is looked for behind the end. -/
theorem column_isolated (column : Column) (h : con.Delimited d.payload)
    (hlt : con.buf.bufferReadPtr + d.payload.length < 2 ^ 64) :
    con.ColumnIsolated column ↔ ¬ d.Kept ∧
      StaysInFront (con.buf.mem.slice 0 (con.buf.bufferReadPtr + d.payload.length)) con.buf.bufferReadPtr := by
  have hend : con.buf.packetEndPtr.getD 0 = con.buf.bufferReadPtr + d.payload.length := by
    rw [h.packetEnd, Option.getD_some]
  have hfront := column_front (m := con.buf.mem) (p := con.buf.bufferReadPtr) column (by omega) (Nat.le_of_lt hlt)
  have hwithin := within_front (m := con.buf.mem) (e := con.buf.bufferReadPtr + d.payload.length)
    (columnReading column con.buf.bufferReadPtr)
  constructor
  · rintro ⟨-, hinside⟩
    rw [hend, ← hwithin] at hinside
    exact ⟨fun hd => not_within_of_kept column h.payload_eq hd hlt hinside, hfront.mp hinside⟩
  · rintro ⟨-, hstays⟩
    have hinside := hfront.mpr hstays
    refine ⟨fun m hm => ?_, by rw [hend, ← hwithin]; exact hinside⟩
    rw [packetGetColumn_withMemory h.buffer, ← run_columnReading]
    refine (Reading.run_congr hinside fun a ha => hm a ?_).1.symm
    rw [hend]
    exact (Set.mem_Ico.mp ha).2

end Isolation

/-! ### The bytes behind a packet -/

/-- The definition of a column `id`. -/
def idColumn : Definition :=
  ⟨[0x64, 0x65, 0x66], [0x64, 0x62], [0x74], [0x74], [0x69, 0x64], [0x69, 0x64], 63, 11, 3, 0x4003, 0⟩

/-- A connection that has received it as the only column of a result, and nothing behind it. -/
def receivingColumn : Con :=
  Arrival.opened { env := .calm, con := readInto (onAlloc .calm (awaitingColumns 1) 65536).1 (frame 2 idColumn.payload) }
    .column idColumn.payload

lemma receivingColumn_delimited : receivingColumn.Delimited idColumn.payload :=
  Arrival.opened_delimited (by decide +kernel) (by decide) .column

/-- Its record does not depend on its packet alone. -/
theorem column_isolated_id :
    receivingColumn.ColumnIsolated default ↔ ¬ idColumn.Kept ∧
      StaysInFront (receivingColumn.buf.mem.slice 0 (receivingColumn.buf.bufferReadPtr + idColumn.payload.length))
        receivingColumn.buf.bufferReadPtr :=
  column_isolated default receivingColumn_delimited (by decide +kernel)

/-- With two other bytes behind the packet, the record has a default value, the second of them. -/
theorem column_isolated_spills :
    idColumn.Kept ∧ receivingColumn.Delimited idColumn.payload ∧ (∃ m : Memory UInt8,
      (∀ a, a < receivingColumn.buf.packetEndPtr.getD 0 → receivingColumn.buf.mem a = m a) ∧
      (packetGetColumn receivingColumn default).defaultSize = 0 ∧
      (packetGetColumn (receivingColumn.withMemory m) default).defaultSize = 1 ∧
      (packetGetColumn (receivingColumn.withMemory m) default).defaultValue = [0x41]) ∧
      ¬ receivingColumn.ColumnIsolated default := by
  let m := receivingColumn.buf.mem.store (receivingColumn.buf.packetEndPtr.getD 0) [1, 0x41]
  have hagree : ∀ a, a < receivingColumn.buf.packetEndPtr.getD 0 → receivingColumn.buf.mem a = m a :=
    fun a ha => (Memory.store_of_lt ha).symm
  have hbefore : (packetGetColumn receivingColumn default).defaultSize = 0 := by decide +kernel
  have hafter : (packetGetColumn (receivingColumn.withMemory m) default).defaultSize = 1 := by decide +kernel
  refine ⟨by decide, receivingColumn_delimited, ⟨m, hagree, hbefore, hafter, by decide +kernel⟩, fun h => ?_⟩
  rw [h.same m hagree, hbefore] at hafter
  exact absurd hafter (by decide)

end LibAttachSql
