import LibAttachSql.Acts
import LibAttachSql.Definitions

/-!
# Text rows

A row of a query holds its columns one behind the other: a NULL as one byte, anything else behind its length.  This module
says for which rows the columns are handed out as they were sent.
-/

namespace LibAttachSql

open Lib

/-- A column of a text row: NULL, or its bytes behind their length. -/
def packColumn : Option (List UInt8) → List UInt8
  | none => [0xfb]
  | some bytes => packData bytes

/-- A text row. -/
def packRow (values : List (Option (List UInt8))) : List UInt8 := values.flatMap packColumn

/-- Where `raw_row` points at the end of the loop over the columns of a row at `p`. -/
def rowEnd (m : Memory UInt8) : ℕ → ℕ → ℕ
  | 0, p => p
  | n + 1, p =>
    let len := unpackLength m p
    rowEnd m n (ptrAdd (p + len.bytes) len.length)

/-- A cell shows a value: its bytes and their number, or, for a NULL, anything but an empty string. -/
def Cell.Shows (m : Memory UInt8) (c : Cell) : Option (List UInt8) → Prop
  | none => ¬ (c.data ≠ 0 ∧ c.length = 0)
  | some bytes => c.data ≠ 0 ∧ c.length = bytes.length ∧ m.slice c.data bytes.length = bytes

instance (m : Memory UInt8) (c : Cell) (value : Option (List UInt8)) : Decidable (c.Shows m value) := by
  unfold Cell.Shows
  split <;> infer_instance

/-- The row at `p` is taken apart as it was put together. -/
structure RowShown (m : Memory UInt8) (p : ℕ) (values : List (Option (List UInt8))) : Prop where
  cells : List.Forall₂ (Cell.Shows m) (readCells m values.length p) values
  ends : rowEnd m values.length p = p + (packRow values).length

/-- A value whose cell shows it: one that is not NULL, and whose length does not stand in a negative `char`. -/
def ShownValue (value : Option (List UInt8)) : Prop :=
  ∃ bytes, value = some bytes ∧ (bytes.length < 0x80 ∨ 0xfa < bytes.length)

/-! ### One column -/

section Column

variable {m : Memory UInt8} {p : ℕ} {bytes : List UInt8} {values : List (Option (List UInt8))}

/-- A length of one byte from 128 on is read as a huge one. -/
lemma unpackLength_of_negative {n : ℕ} (h : m.slice p (packLength n).length = packLength n) (hlow : 0x80 ≤ n)
    (hhigh : n ≤ 0xfa) : (unpackLength m p).length = 2 ^ 64 - (256 - n) := by
  unfold packLength at h
  rw [if_pos hhigh] at h
  simp only [List.length_singleton, Memory.slice_succ, Memory.slice_zero, List.cons.injEq, and_true] at h
  have hbyte : (m p).toNat = n := by
    rw [h, toNat_byteAt]
    omega
  unfold unpackLength
  rw [if_pos (by rw [UInt8.lt_iff_toNat_lt, hbyte]; exact lt_of_le_of_lt hhigh (by decide))]
  unfold signedChar sizeT
  rw [if_neg (by omega), hbyte]
  dsimp only
  omega

/-- A value whose length is kept is shown, and the next column is read from behind it. -/
lemma rowShown_cons (h : m.slice p (packData bytes).length = packData bytes) (hp : p + (packData bytes).length < 2 ^ 64)
    (hkept : LengthKept bytes.length) :
    RowShown m p (some bytes :: values) ↔ RowShown m (p + (packData bytes).length) values := by
  obtain ⟨hlength, hbytes⟩ := Memory.slice_eq_append h
  have hlen := unpackLength_of_slice hlength hkept
  have hsize : (packData bytes).length = (packLength bytes.length).length + bytes.length := List.length_append ..
  have hnext : ptrAdd (p + (packLength bytes.length).length) bytes.length = p + (packData bytes).length := by
    unfold ptrAdd
    rw [sizeT_of_lt (by omega)]
    omega
  have hpos : 0 < (packLength bytes.length).length := by
    unfold packLength
    split_ifs <;> simp
  have hshown : (⟨p + (packLength bytes.length).length, bytes.length⟩ : Cell).Shows m (some bytes) :=
    ⟨by show p + _ ≠ 0; omega, rfl, hbytes⟩
  have hcells : readCells m (values.length + 1) p =
      ⟨p + (packLength bytes.length).length, bytes.length⟩ :: readCells m values.length (p + (packData bytes).length) := by
    rw [readCells, hlen]
    dsimp only
    rw [hnext]
  have hend : rowEnd m (values.length + 1) p = rowEnd m values.length (p + (packData bytes).length) := by
    rw [rowEnd, hlen]
    dsimp only
    rw [hnext]
  have htotal : (packRow (some bytes :: values)).length = (packData bytes).length + (packRow values).length := by
    unfold packRow
    rw [List.flatMap_cons, List.length_append]
    rfl
  constructor
  · rintro ⟨hc, he⟩
    rw [List.length_cons, hcells] at hc
    rw [List.length_cons, hend, htotal, ← Nat.add_assoc] at he
    exact ⟨(List.forall₂_cons.mp hc).2, he⟩
  · rintro ⟨hc, he⟩
    refine ⟨?_, ?_⟩
    · rw [List.length_cons, hcells]
      exact .cons hshown hc
    · rw [List.length_cons, hend, htotal, ← Nat.add_assoc]
      exact he

/-- A NULL is handed out as an empty string. -/
lemma not_rowShown_null (h : m p = 0xfb) : ¬ RowShown m p (none :: values) := by
  rintro ⟨hc, -⟩
  have hlen : unpackLength m p = { length := 0, bytes := 1, null := true } := by
    unfold unpackLength
    rw [h]
    rfl
  rw [List.length_cons, readCells, hlen] at hc
  exact (List.forall₂_cons.mp hc).1 ⟨Nat.succ_ne_zero p, rfl⟩

/-- A value of 128 to 250 bytes is handed out with another length. -/
lemma not_rowShown_negative (h : m.slice p (packData bytes).length = packData bytes) (hlow : 0x80 ≤ bytes.length)
    (hhigh : bytes.length ≤ 0xfa) : ¬ RowShown m p (some bytes :: values) := by
  rintro ⟨hc, -⟩
  have hlen := unpackLength_of_negative (Memory.slice_eq_append h).1 hlow hhigh
  rw [List.length_cons, readCells] at hc
  have hlength : (unpackLength m p).length = bytes.length := (List.forall₂_cons.mp hc).1.2.1
  omega

end Column

/-! ### The columns of a row -/

/-- **When a row is taken apart as it was put together.** -/
lemma rowShown_iff {m : Memory UInt8} {p : ℕ} {values : List (Option (List UInt8))}
    (h : m.slice p (packRow values).length = packRow values) (hp : p + (packRow values).length < 2 ^ 64) :
    RowShown m p values ↔ ∀ value ∈ values, ShownValue value := by
  induction values generalizing p with
  | nil => exact iff_of_true ⟨.nil, rfl⟩ (by simp)
  | cons value values ih =>
    have hrow : packRow (value :: values) = packColumn value ++ packRow values := List.flatMap_cons ..
    rw [hrow] at h hp
    rw [List.length_append] at hp
    obtain ⟨hcolumn, hrest⟩ := Memory.slice_eq_append h
    rw [List.forall_mem_cons]
    cases value with
    | none =>
      have hbyte : m p = 0xfb := (List.cons.inj ((Memory.slice_succ m p 0).symm.trans hcolumn)).1
      exact iff_of_false (not_rowShown_null hbyte) fun hall => nomatch hall.1.choose_spec.1
    | some bytes =>
      have hbytes : bytes.length ≤ (packData bytes).length := by
        unfold packData
        rw [List.length_append]
        exact Nat.le_add_left _ _
      change p + ((packData bytes).length + (packRow values).length) < 2 ^ 64 at hp
      have hvalue : ShownValue (some bytes) ↔ bytes.length < 0x80 ∨ 0xfa < bytes.length :=
        ⟨fun ⟨_, heq, hk⟩ => Option.some.inj heq ▸ hk, fun hk => ⟨bytes, rfl, hk⟩⟩
      by_cases hk : bytes.length < 0x80 ∨ 0xfa < bytes.length
      · have hkept : LengthKept bytes.length := hk.imp_right fun hbig => ⟨hbig, by omega⟩
        have htail : RowShown m (p + (packData bytes).length) values ↔ ∀ value ∈ values, ShownValue value :=
          ih hrest (by omega)
        rw [rowShown_cons hcolumn (by omega) hkept, htail]
        exact (and_iff_right (hvalue.mpr hk)).symm
      · exact iff_of_false (not_rowShown_negative hcolumn (by omega) (by omega)) fun hall => hk (hvalue.mp hall.1)

/-! ### Rows that are handed out -/

/-- A row with these values is in the read buffer, at `p`. -/
structure Con.HasRow (con : Con) (p : ℕ) (values : List (Option (List UInt8))) : Prop where
  rowData : con.result.rowData = some p
  columnCount : con.result.columnCount = values.length
  row_eq : con.buf.mem.slice p (packRow values).length = packRow values
  space : p + (packRow values).length < 2 ^ 64

/-- These are the cells that `attachsql_query_row_get` answers for the columns of the row, and that
`attachsql_query_row_buffer` keeps. -/
structure HandsOut (con : Con) (cells : List Cell) : Prop where
  get : ∀ env error row, (queryRowGet env con error).2.2 = some row → row.take con.result.columnCount = cells
  keep : ∀ env, (keepRow env con).rowBufferCount = con.rowBufferCount + 1 →
    queryRowBufferRound env con = (getNextRow env (keepRow env con), none) ∧
      (keepRow env con).rowBuffer = con.rowBuffer.take con.rowBufferCount ++ [cells]

section HandsOut

variable (env : Env) (con : Con)

lemma writeRow_take {con : Con} {old row : List Cell} (h : (writeRow con old).2 = some row) :
    row.take con.result.columnCount = con.rowCells := by
  unfold writeRow at h
  split_ifs at h
  rw [← Option.some.inj h]
  exact List.take_left' (length_readCells ..)

/-- A row that is got is written by the loop over its columns. -/
lemma queryRowGet_take (error : ErrorPtr) {row : List Cell} (h : (queryRowGet env con error).2.2 = some row) :
    row.take con.result.columnCount = con.rowCells := by
  unfold queryRowGet at h
  split_ifs at h
  dsimp only at h
  split at h
  · cases h
  · next old _ =>
    have hrow := writeRow_take h
    exact hrow

lemma rowBufferGrow_rows :
    (rowBufferGrow env con).1.rowBuffer = con.rowBuffer ∧ (rowBufferGrow env con).1.rowBufferCount = con.rowBufferCount ∧
      (rowBufferGrow env con).1.rowCells = con.rowCells := by
  unfold rowBufferGrow
  dsimp only
  split_ifs
  · exact ⟨rfl, rfl, rfl⟩
  · exact ⟨rfl, rfl, rfl⟩
  · exact ⟨rfl, rfl, rfl⟩

/-- A row that is kept is written by the loop over its columns, and the next one is asked for. -/
lemma keepRow_rows (h : (keepRow env con).rowBufferCount = con.rowBufferCount + 1) :
    queryRowBufferRound env con = (getNextRow env (keepRow env con), none) ∧
      (keepRow env con).rowBuffer = con.rowBuffer.take con.rowBufferCount ++ [con.rowCells] := by
  obtain ⟨hrows, hcount, hcells⟩ := rowBufferGrow_rows env con
  unfold queryRowBufferRound
  unfold keepRow at h ⊢
  generalize rowBufferGrow env con = grown at hrows hcount hcells h ⊢
  obtain ⟨con₁, ok⟩ := grown
  dsimp only at hrows hcount hcells
  rw [← hcount] at h
  cases ok with
  | false => exact absurd h (Nat.ne_of_lt (Nat.lt_succ_self _))
  | true =>
    dsimp only at h ⊢
    split_ifs at h ⊢ with hnew hfault
    · exact absurd h (Nat.ne_of_lt (Nat.lt_succ_self _))
    · refine ⟨rfl, ?_⟩
      rw [← hrows, ← hcount, ← hcells]
      rfl
    · exact absurd h (Nat.ne_of_lt (Nat.lt_succ_self _))

/-- **The same cells** are got and kept. -/
lemma handsOut_rowCells : HandsOut con con.rowCells :=
  ⟨fun env error _ => queryRowGet_take env con error, fun env => keepRow_rows env con⟩

end HandsOut

/-- **Which rows are handed out as they were sent**: the cells that are got and kept show the values of the row, and the
loop that makes them ends at its end, exactly if no value is NULL or has 128 to 250 bytes. -/
theorem text_row {con : Con} {p : ℕ} {values : List (Option (List UInt8))} (h : con.HasRow p values) :
    HandsOut con con.rowCells ∧
      (List.Forall₂ (Cell.Shows con.buf.mem) con.rowCells values ∧
          rowEnd con.buf.mem con.result.columnCount p = p + (packRow values).length ↔
        ∀ value ∈ values, ShownValue value) := by
  refine ⟨handsOut_rowCells con, ?_⟩
  rw [← rowShown_iff h.row_eq h.space]
  unfold Con.rowCells
  rw [h.rowData, Option.getD_some, h.columnCount]
  exact ⟨fun ⟨hc, he⟩ => ⟨hc, he⟩, fun hr => ⟨hr.cells, hr.ends⟩⟩

/-- A connection with this row in its read buffer. -/
def rowArrived (values : List (Option (List UInt8))) : Con :=
  { Con.calm 0 with
    status := .idle
    commandStatus := .rowInBuffer
    result.columnCount := values.length
    result.rowData := some 4096
    result.rowLength := (packRow values).length
    readBuffer := some
      { buffer := 4096, bufferSize := defaultBufferSize, bufferUsed := (packRow values).length,
        bufferWritePtr := 4096 + (packRow values).length, bufferReadPtr := 4096,
        packetEndPtr := some (4096 + (packRow values).length), mem := Memory.store (fun _ => 0) 4096 (packRow values) } }

lemma rowArrived_hasRow {values : List (Option (List UInt8))} (h : 4096 + (packRow values).length < 2 ^ 64) :
    (rowArrived values).HasRow 4096 values :=
  ⟨rfl, rfl, Memory.slice_store _ _ _, h⟩

/-- The values `a`, the empty string and 251 bytes. -/
def plainValues : List (Option (List UInt8)) := [some [0x61], some [], some (List.replicate 251 0x62)]

theorem text_row_plain :
    (rowArrived plainValues).HasRow 4096 plainValues ∧ HandsOut (rowArrived plainValues) (rowArrived plainValues).rowCells ∧
      (List.Forall₂ (Cell.Shows (rowArrived plainValues).buf.mem) (rowArrived plainValues).rowCells plainValues ∧
          rowEnd (rowArrived plainValues).buf.mem (rowArrived plainValues).result.columnCount 4096 =
            4096 + (packRow plainValues).length ↔
        ∀ value ∈ plainValues, ShownValue value) :=
  ⟨rowArrived_hasRow (by decide +kernel), text_row (rowArrived_hasRow (by decide +kernel))⟩

/-- A NULL is got as the empty string is, and a value of 200 bytes with a length of nearly 2⁶⁴. -/
theorem text_row_misread :
    (queryRowGet .calm (rowArrived [none]) (.at none)).2.2 = some [⟨4097, 0⟩] ∧
      (queryRowGet .calm (rowArrived [some []]) (.at none)).2.2 = some [⟨4097, 0⟩] ∧
      (queryRowGet .calm (rowArrived [some (List.replicate 200 0x61)]) (.at none)).2.2 = some [⟨4097, 2 ^ 64 - 56⟩] ∧
      ¬ List.Forall₂ (Cell.Shows (rowArrived [none]).buf.mem) (rowArrived [none]).rowCells [none] := by
  refine ⟨by decide +kernel, by decide +kernel, by decide +kernel, by decide +kernel⟩

end LibAttachSql
