import LibAttachSql.Packets

/-!
# Column definitions

A column definition is a row of strings behind their lengths, and 13 bytes of numbers.  This module says what
`attachsql_packet_get_column` makes of one: the strings cut to the size of their fields, and the numbers.  A length of
one byte is read as a `char`, so a string of 128 to 250 bytes leads astray.
-/

namespace LibAttachSql

open Lib

/-! ### Strings behind their lengths -/

/-- A length that is read back as it was written: in one byte it must stay below 128. -/
def LengthKept (n : ℕ) : Prop := n < 0x80 ∨ 0xfa < n ∧ n < 2 ^ 64

instance : DecidablePred LengthKept := fun _ => inferInstanceAs (Decidable (_ ∨ _))

section Strings

variable {m : Memory UInt8} {p n : ℕ}

lemma unpackInt2_of_slice (h : m.slice p 2 = packInt2 n) (hn : n < 2 ^ 16) : unpackInt2 m p = n := by
  simp only [Memory.slice_succ, Memory.slice_zero, packInt2, List.cons.injEq, and_true] at h
  obtain ⟨h₀, h₁⟩ := h
  unfold unpackInt2
  rw [h₀, h₁, toNat_byteAt, toNat_byteAt]
  omega

lemma unpackInt4_of_slice (h : m.slice p 4 = packInt4 n) (hn : n < 2 ^ 32) : unpackInt4 m p = n := by
  simp only [Memory.slice_succ, Memory.slice_zero, packInt4, List.cons.injEq, and_true] at h
  obtain ⟨h₀, h₁, h₂, h₃⟩ := h
  unfold unpackInt4
  rw [h₀, h₁, h₂, h₃]
  simp only [toNat_byteAt]
  omega

lemma unpackInt8_of_slice (h : m.slice p 8 = packInt8 n) (hn : n < 2 ^ 64) : unpackInt8 m p = n := by
  simp only [Memory.slice_succ, Memory.slice_zero, packInt8, List.cons.injEq, and_true] at h
  obtain ⟨h₀, h₁, h₂, h₃, h₄, h₅, h₆, h₇⟩ := h
  unfold unpackInt8 unpackInt4
  rw [h₀, h₁, h₂, h₃, h₄, h₅, h₆, h₇]
  simp only [toNat_byteAt]
  omega

/-- **A length is read back** as it was written, unless it stands in one byte that is a negative `char`. -/
lemma unpackLength_of_slice (h : m.slice p (packLength n).length = packLength n) (hn : LengthKept n) :
    unpackLength m p = { length := n, bytes := (packLength n).length, null := false } := by
  unfold packLength at h ⊢
  split_ifs at h ⊢ with h₁ h₂ h₃
  · have hsmall : n < 0x80 := hn.resolve_right (by omega)
    simp only [List.length_singleton, Memory.slice_succ, Memory.slice_zero, List.cons.injEq, and_true] at h
    have hbyte : (m p).toNat = n := by
      rw [h, toNat_byteAt]
      omega
    unfold unpackLength
    rw [if_pos (by rw [UInt8.lt_iff_toNat_lt, hbyte]; exact hsmall.trans (by decide)), List.length_singleton]
    unfold signedChar
    rw [if_pos (by omega), hbyte, sizeT_of_lt (by omega)]
  · obtain ⟨hfirst, hrest⟩ := List.cons.inj ((Memory.slice_succ m p 2).symm.trans h)
    unfold unpackLength
    rw [hfirst, if_neg (by decide), if_neg (by decide), if_pos rfl, unpackInt2_of_slice hrest (by omega)]
    rfl
  · obtain ⟨hfirst, hrest⟩ := List.cons.inj ((Memory.slice_succ m p 3).symm.trans h)
    unfold unpackLength
    rw [hfirst, if_neg (by decide), if_neg (by decide), if_neg (by decide), if_pos rfl,
      unpackInt3_of_slice hrest (by omega)]
    rfl
  · obtain ⟨hfirst, hrest⟩ := List.cons.inj ((Memory.slice_succ m p 8).symm.trans h)
    have hlt : n < 2 ^ 64 := hn.elim (fun h => by omega) And.right
    unfold unpackLength
    rw [hfirst, if_neg (by decide), if_neg (by decide), if_neg (by decide), if_neg (by decide),
      unpackInt8_of_slice hrest hlt]
    rfl

/-- A length takes the bytes it was written with, whatever it is read as. -/
lemma unpackLength_bytes_of_slice (h : m.slice p (packLength n).length = packLength n) :
    (unpackLength m p).bytes = (packLength n).length := by
  unfold packLength at h ⊢
  split_ifs at h ⊢
  · obtain ⟨hfirst, -⟩ := List.cons.inj ((Memory.slice_succ m p 0).symm.trans h)
    have hsmall : m p < 0xfb := by
      rw [hfirst, UInt8.lt_iff_toNat_lt, toNat_byteAt]
      show n / 1 % 256 < 251
      omega
    unfold unpackLength
    rw [if_pos hsmall]
    rfl
  · obtain ⟨hfirst, -⟩ := List.cons.inj ((Memory.slice_succ m p 2).symm.trans h)
    unfold unpackLength
    rw [hfirst]
    rfl
  · obtain ⟨hfirst, -⟩ := List.cons.inj ((Memory.slice_succ m p 3).symm.trans h)
    unfold unpackLength
    rw [hfirst]
    rfl
  · obtain ⟨hfirst, -⟩ := List.cons.inj ((Memory.slice_succ m p 8).symm.trans h)
    unfold unpackLength
    rw [hfirst]
    rfl

/-- Reading a string behind its length, for a field of `size` bytes. -/
lemma readField_of_slice {s rest : List UInt8} (h : m.slice p (packData s ++ rest).length = packData s ++ rest)
    (hs : LengthKept s.length) (hp : p + (packData s).length < 2 ^ 64) (size : ℕ) (hsize : 0 < size) :
    readField m p size = (s.take (size - 1), p + (packData s).length) ∧
      m.slice (p + (packData s).length) rest.length = rest := by
  obtain ⟨hdata, hrest⟩ := Memory.slice_eq_append h
  obtain ⟨hlength, hbytes⟩ := Memory.slice_eq_append hdata
  have hp' : p + (packLength s.length).length + s.length < 2 ^ 64 := by
    unfold packData at hp
    rw [List.length_append] at hp
    omega
  refine ⟨?_, hrest⟩
  unfold readField
  rw [unpackLength_of_slice hlength hs]
  refine Prod.ext ?_ ?_
  · dsimp only
    rw [← hbytes, Memory.take_slice, hbytes]
    congr 1
    split_ifs <;> omega
  · dsimp only [ptrAdd]
    rw [sizeT_of_lt hp', packData, List.length_append, Nat.add_assoc]

end Strings

/-! ### Definitions -/

/-- A column definition of the protocol. -/
structure Definition where
  catalog : List UInt8
  schema : List UInt8
  table : List UInt8
  originTable : List UInt8
  column : List UInt8
  originColumn : List UInt8
  charset : UInt16
  length : UInt32
  type : UInt8
  flags : UInt16
  decimals : UInt8

namespace Definition

/-- The numbers of a definition, behind a byte with their size. -/
def numbers (d : Definition) : List UInt8 :=
  0x0c :: (packInt2 d.charset.toNat ++ (packInt4 d.length.toNat ++
    (d.type :: (packInt2 d.flags.toNat ++ [d.decimals, 0, 0]))))

/-- The payload of the packet of a definition. -/
def payload (d : Definition) : List UInt8 :=
  packData d.catalog ++ (packData d.schema ++ (packData d.table ++ (packData d.originTable ++
    (packData d.column ++ (packData d.originColumn ++ d.numbers)))))

/-- No string of the definition has a length that a `char` makes negative. -/
def Kept (d : Definition) : Prop :=
  ∀ s ∈ [d.catalog, d.schema, d.table, d.originTable, d.column, d.originColumn], LengthKept s.length

instance (d : Definition) : Decidable d.Kept := by
  unfold Kept
  infer_instance

end Definition

/-- A record holds a definition: its strings, as far as they fit in the fields, and its numbers. -/
structure Column.Holds (c : Column) (d : Definition) : Prop where
  schema : c.schema = d.schema.take (maxSchemaSize - 1)
  table : c.table = d.table.take (maxTableSize - 1)
  originTable : c.originTable = d.originTable.take (maxTableSize - 1)
  column : c.column = d.column.take (maxColumnSize - 1)
  originColumn : c.originColumn = d.originColumn.take (maxColumnSize - 1)
  charset : c.charset = d.charset.toNat
  length : c.length = d.length.toNat
  type : c.type = d.type
  flags : c.flags = d.flags.toNat
  decimals : c.decimals = d.decimals

/-- The numbers of a definition, at their places. -/
lemma numbers_of_slice {m : Memory UInt8} {p : ℕ} {d : Definition} (h : m.slice p d.numbers.length = d.numbers) :
    unpackInt2 m (p + 1) = d.charset.toNat ∧ unpackInt4 m (p + 1 + 2) = d.length.toNat ∧ m (p + 1 + 6) = d.type ∧
      unpackInt2 m (p + 1 + 7) = d.flags.toNat ∧ m (p + 1 + 9) = d.decimals := by
  obtain ⟨-, hrest⟩ := List.cons.inj ((Memory.slice_succ m p 12).symm.trans h)
  obtain ⟨hcharset, hrest⟩ := Memory.slice_eq_append (p := p + 1) (n := 12) hrest
  obtain ⟨hlength, hrest⟩ := Memory.slice_eq_append (p := p + 1 + 2) (n := 10) hrest
  obtain ⟨htype, hrest⟩ := List.cons.inj ((Memory.slice_succ m (p + 1 + 6) 5).symm.trans hrest)
  obtain ⟨hflags, hrest⟩ := Memory.slice_eq_append (p := p + 1 + 7) (n := 5) hrest
  obtain ⟨hdecimals, -⟩ := List.cons.inj ((Memory.slice_succ m (p + 1 + 9) 2).symm.trans hrest)
  exact ⟨unpackInt2_of_slice hcharset d.charset.toNat_lt, unpackInt4_of_slice hlength d.length.toNat_lt, htype,
    unpackInt2_of_slice hflags d.flags.toNat_lt, hdecimals⟩

/-- **What `attachsql_packet_get_column` makes of a definition** that stands at the read pointer. -/
theorem packetGetColumn_holds {con : Con} {d : Definition} (column : Column)
    (h : con.buf.mem.slice con.buf.bufferReadPtr d.payload.length = d.payload) (hd : d.Kept)
    (hp : con.buf.bufferReadPtr + d.payload.length ≤ 2 ^ 64) : (packetGetColumn con column).Holds d := by
  obtain ⟨hcatalog, hschema, htable, horiginTable, hcolumn, horiginColumn⟩ :
      LengthKept d.catalog.length ∧ LengthKept d.schema.length ∧ LengthKept d.table.length ∧
        LengthKept d.originTable.length ∧ LengthKept d.column.length ∧ LengthKept d.originColumn.length := by
    simpa [Definition.Kept] using hd
  have hsize : d.numbers.length = 13 := rfl
  unfold Definition.payload at h hp
  simp only [List.length_append, hsize] at hp
  -- the strings, one behind the other
  obtain ⟨h₀, h⟩ := readField_of_slice h hcatalog (by omega) maxSchemaSize (by decide)
  obtain ⟨h₁, h⟩ := readField_of_slice h hschema (by omega) maxSchemaSize (by decide)
  obtain ⟨h₂, h⟩ := readField_of_slice h htable (by omega) maxTableSize (by decide)
  obtain ⟨h₃, h⟩ := readField_of_slice h horiginTable (by omega) maxTableSize (by decide)
  obtain ⟨h₄, h⟩ := readField_of_slice h hcolumn (by omega) maxColumnSize (by decide)
  obtain ⟨h₅, h⟩ := readField_of_slice h horiginColumn (by omega) maxColumnSize (by decide)
  obtain ⟨hcharset, hlength, htype, hflags, hdecimals⟩ := numbers_of_slice h
  unfold packetGetColumn
  simp only [h₀, h₁, h₂, h₃, h₄, h₅]
  exact ⟨rfl, rfl, rfl, rfl, rfl, hcharset, hlength, htype, hflags, hdecimals⟩

end LibAttachSql
