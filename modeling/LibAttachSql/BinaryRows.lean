import LibAttachSql.ExecuteRoundTrip
import LibAttachSql.TextRows

/-!
# Binary rows

A row of a statement holds a header, a bitmap of the columns that are NULL, and the values of the others, each laid out by
the type of its column.  This module says for which rows `attachsql_statement_row_get` takes the columns apart as they were
put together.
-/

namespace LibAttachSql

open Lib

/-! ### The rows of the protocol -/

/-- How the values of a type stand in a row: in a fixed number of bytes, behind a byte with one of some lengths, behind a
length of the protocol, or not at all. -/
inductive Layout where
  | fixed (width : ℕ)
  | counted (lengths : List ℕ)
  | string
  | absent
  deriving DecidableEq

/-- The values of a layout. -/
def Layout.Admits : Layout → List UInt8 → Prop
  | .fixed width, bytes => bytes.length = width
  | .counted lengths, bytes => bytes.length ∈ lengths
  | .string, bytes => bytes.length < 2 ^ 64
  | .absent, _ => False

instance (l : Layout) (bytes : List UInt8) : Decidable (l.Admits bytes) := by
  unfold Layout.Admits
  split <;> infer_instance

/-- A value in a row. -/
def Layout.pack : Layout → List UInt8 → List UInt8
  | .fixed _, bytes => bytes
  | .counted _, bytes => UInt8.ofNat bytes.length :: bytes
  | .string, bytes => packData bytes
  | .absent, _ => []

/-- The layout of the values of a column type.  A date, a date and time or a timestamp has 0, 4, 7 or 11 bytes, a time 0, 8
or 12. -/
def layoutOf (type : ℕ) : Option Layout :=
  if type = columnTypeNull then some .absent
  else if type = 0x01 then some (.fixed 1)
  else if type = 0x02 ∨ type = 0x0d then some (.fixed 2)
  else if type = 0x03 ∨ type = 0x04 ∨ type = 0x09 then some (.fixed 4)
  else if type = 0x05 ∨ type = 0x08 then some (.fixed 8)
  else if type = 0x07 ∨ type = 0x0a ∨ type = 0x0c then some (.counted [0, 4, 7, 11])
  else if type = 0x0b then some (.counted [0, 8, 12])
  else if type = 0x00 ∨ type = 0x0f ∨ type = 0x10 ∨ 0xf6 ≤ type ∧ type ≤ 0xff then some .string
  else none

/-- A column of a binary row: its type, and its value unless it is NULL. -/
structure BinaryColumn where
  type : UInt8
  value : Option (List UInt8)

namespace BinaryColumn

/-- The value is one of the type. -/
def Typed (c : BinaryColumn) : Prop := ∃ l, layoutOf c.type.toNat = some l ∧ ∀ bytes ∈ c.value, l.Admits bytes

/-- What stands in a row for the column. -/
def pack (c : BinaryColumn) : List UInt8 :=
  match c.value, layoutOf c.type.toNat with
  | some bytes, some l => l.pack bytes
  | _, _ => []

/-- The length of a string does not stand in a negative `char`. -/
def LengthPositive (c : BinaryColumn) : Prop :=
  ∀ bytes ∈ c.value, layoutOf c.type.toNat = some .string → bytes.length < 0x80 ∨ 0xfa < bytes.length

end BinaryColumn

/-- The values of a row, one behind the other. -/
def packColumns (columns : List BinaryColumn) : List UInt8 := columns.flatMap BinaryColumn.pack

/-- A binary row: the header, the bitmap and the values. -/
def binaryRow (bitmap : List UInt8) (columns : List BinaryColumn) : List UInt8 := 0 :: (bitmap ++ packColumns columns)

/-- The bitmap of a row: two bits are spare, then there is one for every column. -/
structure NullMap (bitmap : List UInt8) (columns : List BinaryColumn) : Prop where
  length : bitmap.length = (columns.length + 9) / 8
  bit : ∀ i (h : i < columns.length), nullBit bitmap (i + 2) = columns[i].value.isNone

/-! ### What is read -/

/-- Where `raw_row` points at the end of the loop of `attachsql_statement_row_get` over the columns from number `i` on. -/
def stmtEnd (m : Memory UInt8) (bitmap : ℕ) : ℕ → ℕ → List Column → ℕ
  | _, p, [] => p
  | i, p, column :: columns =>
    let isNull := (m (bitmap + (i + 2) / 8)).toNat.testBit ((i + 2) % 8)
    match stmtValue m p (if isNull then columnTypeNull else column.type.toNat) with
    | none => p
    | some (bytes, length) => stmtEnd m bitmap (i + 1) (ptrAdd (p + bytes) length) columns

/-- A cell shows a column: the type, the bytes and their number, or a NULL without any. -/
def StmtCell.Shows (m : Memory UInt8) (cell : StmtCell) (c : BinaryColumn) : Prop :=
  match c.value with
  | none => cell.type = columnTypeNull ∧ cell.length = 0
  | some bytes => cell.type = c.type.toNat ∧ cell.length = bytes.length ∧ m.slice cell.data bytes.length = bytes

/-! ### One column -/

section Column

variable {m : Memory UInt8} {p : ℕ}

/-- The types of each layout, as the loop lists them. -/
lemma layoutOf_cases : ∀ type < 256,
    (type ∈ [0xfe, 0x0f, 0xfd, 0xf7, 0xf8, 0xfb, 0xfa, 0xf9, 0xfc, 0xff, 0x10, 0x00, 0xf6] ↔
        layoutOf type = some .string) ∧
      (type ∈ [0x0a, 0x0c, 0x07, 0x0b] ↔
        layoutOf type = some (.counted [0, 4, 7, 11]) ∨ layoutOf type = some (.counted [0, 8, 12])) ∧
      (type ∈ [0x08, 0x05] ↔ layoutOf type = some (.fixed 8)) ∧
      (type ∈ [0x03, 0x09, 0x04] ↔ layoutOf type = some (.fixed 4)) ∧
      (type ∈ [0x02, 0x0d] ↔ layoutOf type = some (.fixed 2)) ∧ (type = 0x01 ↔ layoutOf type = some (.fixed 1)) ∧
      (type = columnTypeNull ↔ layoutOf type = some .absent) := by
  decide +kernel

/-- The layouts there are. -/
lemma mem_of_layoutOf {type : ℕ} {l : Layout} (h : layoutOf type = some l) :
    l ∈ [.string, .counted [0, 4, 7, 11], .counted [0, 8, 12], .fixed 8, .fixed 4, .fixed 2, .fixed 1, .absent] := by
  unfold layoutOf at h
  split_ifs at h <;> cases h <;> decide

/-- The bytes before a value and its length, by its layout. -/
def Layout.read (m : Memory UInt8) (p : ℕ) : Layout → ℕ × ℕ
  | .fixed width => (0, width)
  | .counted _ => (1, sizeT (signedChar (m p)))
  | .string => ((unpackLength m p).bytes, (unpackLength m p).length)
  | .absent => (0, 0)

/-- The loop reads a value by the layout of its type. -/
lemma stmtValue_of_layout (m : Memory UInt8) (p : ℕ) {type : ℕ} {l : Layout} (ht : type < 256)
    (hl : layoutOf type = some l) : stmtValue m p type = some (l.read m p) := by
  obtain ⟨h₁, h₂, h₃, h₄, h₅, h₆, h₇⟩ := layoutOf_cases type ht
  have hmem := mem_of_layoutOf hl
  unfold stmtValue
  simp only [h₁, h₂, h₃, h₄, h₅, h₆, h₇, hl, Option.some.injEq]
  clear h₁ h₂ h₃ h₄ h₅ h₆ h₇ hl
  revert l
  simp only [List.forall_mem_cons]
  exact ⟨rfl, rfl, rfl, rfl, rfl, rfl, rfl, rfl, by simp⟩

variable {l : Layout} {bytes : List UInt8}

/-- **A value is read back** by its layout, unless its length stands in a negative `char`. -/
lemma Layout.read_of_slice (h : m.slice p (l.pack bytes).length = l.pack bytes) (hl : l.Admits bytes)
    (hmem : l ∈ [.string, .counted [0, 4, 7, 11], .counted [0, 8, 12], .fixed 8, .fixed 4, .fixed 2, .fixed 1, .absent])
    (hlen : l = .string → bytes.length < 0x80 ∨ 0xfa < bytes.length) :
    (l.read m p).2 = bytes.length ∧ (l.read m p).1 + bytes.length = (l.pack bytes).length ∧
      m.slice (p + (l.read m p).1) bytes.length = bytes := by
  cases l with
  | fixed width => exact ⟨hl.symm, Nat.zero_add _, h⟩
  | counted lengths =>
    have hshort : bytes.length ≤ 12 := by
      simp only [List.mem_cons, Layout.counted.injEq, reduceCtorEq, List.not_mem_nil, or_false, false_or] at hmem
      change bytes.length ∈ lengths at hl
      rcases hmem with rfl | rfl <;> simp only [List.mem_cons, List.not_mem_nil, or_false] at hl <;> omega
    obtain ⟨hbyte, hbytes⟩ := List.cons.inj ((Memory.slice_succ m p bytes.length).symm.trans h)
    refine ⟨?_, Nat.add_comm _ _, hbytes⟩
    show sizeT (signedChar (m p)) = bytes.length
    unfold signedChar
    rw [hbyte, toNat_ofNat_of_lt (by omega), if_pos (by omega), sizeT_of_lt (by omega)]
  | string =>
    obtain ⟨hlength, hbytes⟩ := Memory.slice_eq_append h
    have hread := unpackLength_of_slice hlength ((hlen rfl).imp_right fun hbig => ⟨hbig, hl⟩)
    unfold Layout.read
    rw [hread]
    exact ⟨rfl, (List.length_append ..).symm, hbytes⟩
  | absent => exact hl.elim

/-- A string of 128 to 250 bytes is read with another length. -/
lemma Layout.read_negative (h : m.slice p (packData bytes).length = packData bytes) (hlow : 0x80 ≤ bytes.length)
    (hhigh : bytes.length ≤ 0xfa) : (Layout.string.read m p).2 ≠ bytes.length := by
  have hlen := unpackLength_of_negative (Memory.slice_eq_append h).1 hlow hhigh
  show (unpackLength m p).length ≠ bytes.length
  omega

end Column

/-! ### The columns of a row -/

/-- The columns from number `i` on are taken apart as they were put together. -/
structure ColumnsShown (m : Memory UInt8) (bitmap i p : ℕ) (types : List Column) (columns : List BinaryColumn) : Prop where
  ok : (stmtCells m bitmap i p types).2 = true
  cells : List.Forall₂ (StmtCell.Shows m) (stmtCells m bitmap i p types).1 columns
  ends : stmtEnd m bitmap i p types = p + (packColumns columns).length

section Columns

variable {m : Memory UInt8} {bitmap i p k len : ℕ} {t : Column} {types : List Column} {c : BinaryColumn}
  {columns : List BinaryColumn}

/-- The type a column is read with. -/
def typeRead (m : Memory UInt8) (bitmap i : ℕ) (t : Column) : ℕ :=
  if (m (bitmap + (i + 2) / 8)).toNat.testBit ((i + 2) % 8) then columnTypeNull else t.type.toNat

/-- The first column and the others. -/
lemma columnsShown_cons (hread : stmtValue m p (typeRead m bitmap i t) = some (k, len)) :
    ColumnsShown m bitmap i p (t :: types) (c :: columns) ↔
      StmtCell.Shows m ⟨p + k, len, typeRead m bitmap i t⟩ c ∧
        (stmtCells m bitmap (i + 1) (ptrAdd (p + k) len) types).2 = true ∧
          List.Forall₂ (StmtCell.Shows m) (stmtCells m bitmap (i + 1) (ptrAdd (p + k) len) types).1 columns ∧
            stmtEnd m bitmap (i + 1) (ptrAdd (p + k) len) types = p + c.pack.length + (packColumns columns).length := by
  have hcells : stmtCells m bitmap i p (t :: types) =
      (⟨p + k, len, typeRead m bitmap i t⟩ :: (stmtCells m bitmap (i + 1) (ptrAdd (p + k) len) types).1,
        (stmtCells m bitmap (i + 1) (ptrAdd (p + k) len) types).2) := by
    unfold typeRead at hread ⊢
    rw [stmtCells]
    dsimp only
    rw [hread]
  have hend : stmtEnd m bitmap i p (t :: types) = stmtEnd m bitmap (i + 1) (ptrAdd (p + k) len) types := by
    unfold typeRead at hread
    rw [stmtEnd, hread]
  have htotal : (packColumns (c :: columns)).length = c.pack.length + (packColumns columns).length := by
    unfold packColumns
    rw [List.flatMap_cons, List.length_append]
  constructor
  · rintro ⟨hok, hc, he⟩
    rw [hcells] at hok hc
    rw [hend, htotal, ← Nat.add_assoc] at he
    obtain ⟨hfirst, hothers⟩ := List.forall₂_cons.mp hc
    exact ⟨hfirst, hok, hothers, he⟩
  · rintro ⟨hfirst, hok, hothers, he⟩
    refine ⟨?_, ?_, ?_⟩
    · rw [hcells]
      exact hok
    · rw [hcells]
      exact .cons hfirst hothers
    · rw [hend, htotal, ← Nat.add_assoc]
      exact he

/-- A column that is shown, and the others from behind it. -/
lemma columnsShown_cons_iff (hread : stmtValue m p (typeRead m bitmap i t) = some (k, len))
    (hsize : k + len = c.pack.length) (hp : p + c.pack.length < 2 ^ 64)
    (hshown : StmtCell.Shows m ⟨p + k, len, typeRead m bitmap i t⟩ c) :
    ColumnsShown m bitmap i p (t :: types) (c :: columns) ↔
      ColumnsShown m bitmap (i + 1) (p + c.pack.length) types columns := by
  have hnext : ptrAdd (p + k) len = p + c.pack.length := by
    unfold ptrAdd
    rw [sizeT_of_lt (by omega)]
    omega
  rw [columnsShown_cons hread, hnext]
  constructor
  · rintro ⟨-, hok, hc, he⟩
    exact ⟨hok, hc, he⟩
  · rintro ⟨hok, hc, he⟩
    exact ⟨hshown, hok, hc, he⟩

/-- The bits of the bitmap for the columns from number `i` on. -/
def NullBits (m : Memory UInt8) (bitmap i : ℕ) (columns : List BinaryColumn) : Prop :=
  ∀ j (h : j < columns.length),
    (m (bitmap + (i + j + 2) / 8)).toNat.testBit ((i + j + 2) % 8) = columns[j].value.isNone

lemma NullBits.head (h : NullBits m bitmap i (c :: columns)) :
    (m (bitmap + (i + 2) / 8)).toNat.testBit ((i + 2) % 8) = c.value.isNone := h 0 (Nat.succ_pos _)

lemma NullBits.tail (h : NullBits m bitmap i (c :: columns)) : NullBits m bitmap (i + 1) columns := by
  intro j hj
  have hbit := h (j + 1) (Nat.succ_lt_succ hj)
  rw [List.getElem_cons_succ, ← Nat.add_assoc, Nat.add_right_comm i j 1] at hbit
  exact hbit

/-- **When the columns are taken apart as they were put together.** -/
lemma columnsShown_iff (htypes : types.map Column.type = columns.map BinaryColumn.type)
    (hnull : NullBits m bitmap i columns) (htyped : ∀ c ∈ columns, c.Typed)
    (h : m.slice p (packColumns columns).length = packColumns columns) (hp : p + (packColumns columns).length < 2 ^ 64) :
    ColumnsShown m bitmap i p types columns ↔ ∀ c ∈ columns, c.LengthPositive := by
  induction columns generalizing types i p with
  | nil =>
    obtain rfl : types = [] := List.map_eq_nil_iff.mp htypes
    exact iff_of_true ⟨rfl, .nil, rfl⟩ (by simp)
  | cons c columns ih =>
    obtain ⟨t, types, rfl⟩ : ∃ t ts, types = t :: ts := by
      cases types with
      | nil => cases htypes
      | cons t ts => exact ⟨t, ts, rfl⟩
    obtain ⟨htype, htypes⟩ : t.type = c.type ∧ types.map Column.type = columns.map BinaryColumn.type :=
      List.cons.inj htypes
    obtain ⟨⟨l, hl, hadmits⟩, htyped⟩ := List.forall_mem_cons.mp htyped
    have hpack : packColumns (c :: columns) = c.pack ++ packColumns columns := List.flatMap_cons ..
    rw [hpack] at h hp
    rw [List.length_append] at hp
    obtain ⟨hcolumn, hrest⟩ := Memory.slice_eq_append h
    have htail := ih htypes hnull.tail htyped hrest (by omega)
    rw [List.forall_mem_cons, ← htail]
    have hbit := hnull.head
    cases hvalue : c.value with
    | none =>
      have hc : c.LengthPositive := fun bytes hb => by rw [hvalue] at hb; cases hb
      have hsize : c.pack = [] := by unfold BinaryColumn.pack; rw [hvalue]
      have hread : typeRead m bitmap i t = columnTypeNull := by
        unfold typeRead
        rw [hbit, hvalue]
        rfl
      have hcell : stmtValue m p (typeRead m bitmap i t) = some (0, 0) := by rw [hread]; rfl
      refine (columnsShown_cons_iff hcell (by rw [hsize]; rfl) (by omega) ?_).trans (and_iff_right hc).symm
      unfold StmtCell.Shows
      rw [hvalue]
      exact ⟨hread, rfl⟩
    | some bytes =>
      have hadmit : l.Admits bytes := hadmits bytes hvalue
      have hsize : c.pack = l.pack bytes := by unfold BinaryColumn.pack; rw [hvalue, hl]
      have hread : typeRead m bitmap i t = c.type.toNat := by
        unfold typeRead
        rw [hbit, hvalue, htype]
        rfl
      have hcell : stmtValue m p (typeRead m bitmap i t) = some ((l.read m p).1, (l.read m p).2) := by
        rw [hread]
        exact stmtValue_of_layout m p c.type.toNat_lt hl
      rw [hsize] at hcolumn
      by_cases hc : l = .string → bytes.length < 0x80 ∨ 0xfa < bytes.length
      · have hpos : c.LengthPositive := by
          rintro bytes' hb hs
          cases hvalue.symm.trans hb
          exact hc (Option.some.inj (hl.symm.trans hs))
        obtain ⟨hlen, htotal, hbytes⟩ := Layout.read_of_slice hcolumn hadmit (mem_of_layoutOf hl) hc
        have hnext : (l.read m p).1 + (l.read m p).2 = c.pack.length := by rw [hsize, hlen, htotal]
        refine (columnsShown_cons_iff hcell hnext (by omega) ?_).trans (and_iff_right hpos).symm
        unfold StmtCell.Shows
        rw [hvalue]
        exact ⟨hread, hlen, hbytes⟩
      · have hneg : ¬ c.LengthPositive := fun hpos => hc fun hs => hpos bytes hvalue (hs ▸ hl)
        refine iff_of_false (fun hshown => ?_) fun hand => hneg hand.1
        obtain ⟨rfl, hlow⟩ := Classical.not_imp.mp hc
        have hfirst := ((columnsShown_cons hcell).mp hshown).1
        unfold StmtCell.Shows at hfirst
        rw [hvalue] at hfirst
        exact Layout.read_negative hcolumn (by omega) (by omega) hfirst.2.1

end Columns

/-! ### Rows of a connection -/

/-- A binary row of the columns is in the read buffer, at `p`, and there is room for its cells. -/
structure Con.HasBinaryRow (env : Env) (con : Con) (p : ℕ) (bitmap : List UInt8) (columns : List BinaryColumn) :
    Prop where
  rowData : con.result.rowData = some p
  columnCount : con.result.columnCount = columns.length
  types : ∃ types, con.result.columns = some types ∧ types.map Column.type = columns.map BinaryColumn.type
  typed : ∀ c ∈ columns, c.Typed
  nullMap : NullMap bitmap columns
  row_eq : con.buf.mem.slice p (binaryRow bitmap columns).length = binaryRow bitmap columns
  space : p + (binaryRow bitmap columns).length < 2 ^ 64
  room : ∀ row, con.stmtRow = some row → columns.length ≤ row.length
  granted : con.stmtRow = none → env.newArray columns.length sizeofStmtCell = true

/-- `attachsql_statement_row_get` takes the row at `p` apart as it was put together: it succeeds, its cells show the
columns, and its loop ends at the end of the row. -/
structure RowGot (env : Env) (con : Con) (p : ℕ) (bitmap : List UInt8) (columns : List BinaryColumn) (error : ErrorPtr) :
    Prop where
  ok : (statementRowGet env con error).2 = (error, true)
  cells : ∃ row, (statementRowGet env con error).1.stmtRow = some row ∧
    List.Forall₂ (StmtCell.Shows con.buf.mem) (row.take columns.length) columns
  ends : ∃ types, con.result.columns = some types ∧
    stmtEnd con.buf.mem (p + 1) 0 (p + 1 + (columns.length + 9) / 8) (types.take columns.length) =
      p + (binaryRow bitmap columns).length

section RowGet

variable {env : Env} {con : Con} {p : ℕ} {bitmap : List UInt8} {columns : List BinaryColumn} {error : ErrorPtr}

/-- There is a cell for every column, unless the loop meets a type it does not know. -/
lemma length_stmtCells {m : Memory UInt8} {b i p : ℕ} {types : List Column} (h : (stmtCells m b i p types).2 = true) :
    (stmtCells m b i p types).1.length = types.length := by
  induction types generalizing i p with
  | nil => rfl
  | cons t types ih =>
    rw [stmtCells] at h ⊢
    dsimp only at h ⊢
    split at h
    · cases h
    · exact congrArg Nat.succ (ih h)

/-- The bits of the bitmap in the memory. -/
lemma nullBits_of_nullMap {m : Memory UInt8} {b : ℕ} (hmap : NullMap bitmap columns)
    (h : m.slice b bitmap.length = bitmap) : NullBits m b 0 columns := by
  intro j hj
  have hlt : (j + 2) / 8 < bitmap.length := by
    rw [hmap.length]
    omega
  have hbyte : m (b + (j + 2) / 8) = bitmap.getD ((j + 2) / 8) 0 := by
    rw [List.getD_eq_getElem _ _ hlt]
    have hget := Memory.getElem_slice m b bitmap.length ((j + 2) / 8) (by rw [Memory.length_slice]; exact hlt)
    rw [← hget]
    exact List.getElem_of_eq h _
  have hbit := hmap.bit j hj
  unfold nullBit at hbit
  rw [Nat.zero_add, hbyte]
  exact hbit

/-- The cells of a row are written to the front of `stmt_row`. -/
lemma writeStmtRow_eq (env : Env) (con : Con) (error : ErrorPtr) {types : List Column} {row cells : List StmtCell} {n : ℕ}
    {ok : Bool}
    (hdata : con.result.rowData = some p) (htypes : con.result.columns = some types)
    (hcount : con.result.columnCount = n) (hroom : n ≤ row.length) (hlen : types.length = n)
    (hgot : stmtCells con.buf.mem (p + 1) 0 (p + 1 + (n + 9) / 8) types = (cells, ok)) :
    (writeStmtRow env con row error).1.stmtRow = some (cells ++ row.drop cells.length) ∧
      (writeStmtRow env con row error).2 = if ok then (error, true) else
        (errorClientCreate env error errorCodeUnknown "60000" "Bad data in statement result", false) := by
  unfold writeStmtRow
  rw [hdata, htypes]
  dsimp only
  rw [hcount, if_neg (by omega), List.take_of_length_le hlen.le, hgot]
  cases ok with
  | true => exact ⟨rfl, rfl⟩
  | false => exact ⟨rfl, rfl⟩

/-- What `attachsql_statement_row_get` does with a row that is there. -/
lemma statementRowGet_of_row (error : ErrorPtr) (h : con.HasBinaryRow env p bitmap columns) {types : List Column}
    (htypes : con.result.columns = some types) (hlen : types.length = columns.length) {cells : List StmtCell} {ok : Bool}
    (hgot : stmtCells con.buf.mem (p + 1) 0 (p + 1 + (columns.length + 9) / 8) types = (cells, ok)) :
    (∃ row : List StmtCell, (statementRowGet env con error).1.stmtRow = some (cells ++ row.drop cells.length)) ∧
      (statementRowGet env con error).2 = if ok then (error, true) else
        (errorClientCreate env error errorCodeUnknown "60000" "Bad data in statement result", false) := by
  obtain ⟨row, hrow, hroom⟩ : ∃ row : List StmtCell,
      (if con.stmtRow.isNone ∧ env.newArray con.result.columnCount sizeofStmtCell then
        some (List.replicate con.result.columnCount (⟨0, 0, columnTypeNull⟩ : StmtCell)) else con.stmtRow) = some row ∧
      columns.length ≤ row.length := by
    cases hold : con.stmtRow with
    | none =>
      rw [if_pos ⟨rfl, by rw [h.columnCount]; exact h.granted hold⟩]
      exact ⟨_, rfl, by rw [List.length_replicate, h.columnCount]⟩
    | some row =>
      rw [if_neg (fun hnone => nomatch hnone.1)]
      exact ⟨row, rfl, h.room row hold⟩
  unfold statementRowGet
  dsimp only
  rw [hrow]
  have hwrite := writeStmtRow_eq env { con with
    stmtRow := some row
    own := con.own.newStmtRow (env.newArray con.result.columnCount sizeofStmtCell) } error
    h.rowData htypes h.columnCount hroom hlen hgot
  exact ⟨⟨row, hwrite.1⟩, hwrite.2⟩

end RowGet

/-- **Which rows are taken apart as they were put together**: exactly those without a string of 128 to 250 bytes. -/
theorem binary_row {env : Env} {con : Con} {p : ℕ} {bitmap : List UInt8} {columns : List BinaryColumn}
    (h : con.HasBinaryRow env p bitmap columns) (error : ErrorPtr) :
    RowGot env con p bitmap columns error ↔ ∀ c ∈ columns, c.LengthPositive := by
  obtain ⟨types, htypes, hsame⟩ := h.types
  have hlen : types.length = columns.length := by
    rw [← List.length_map (f := Column.type), hsame, List.length_map]
  have hsize : (binaryRow bitmap columns).length = 1 + (columns.length + 9) / 8 + (packColumns columns).length := by
    unfold binaryRow
    rw [List.length_cons, List.length_append, h.nullMap.length]
    omega
  have hspace := h.space
  -- the bitmap and the values, behind the header
  have hrow : con.buf.mem.slice (p + 1) (bitmap ++ packColumns columns).length = bitmap ++ packColumns columns :=
    (List.cons.inj ((Memory.slice_succ con.buf.mem p _).symm.trans h.row_eq)).2
  obtain ⟨hbitmap, hvalues⟩ := Memory.slice_eq_append hrow
  rw [h.nullMap.length] at hvalues
  have hshown := columnsShown_iff hsame (nullBits_of_nullMap h.nullMap hbitmap) h.typed hvalues (by omega)
  rw [← hshown]
  obtain ⟨cells, ok, hgot⟩ : ∃ cells ok,
      stmtCells con.buf.mem (p + 1) 0 (p + 1 + (columns.length + 9) / 8) types = (cells, ok) := ⟨_, _, rfl⟩
  obtain ⟨⟨row, hstmtRow⟩, hret⟩ := statementRowGet_of_row error h htypes hlen hgot
  have htake (hok : ok = true) : (cells ++ row.drop cells.length).take columns.length = cells := by
    have hcount := length_stmtCells (by rw [hgot]; exact hok)
    rw [hgot, hlen] at hcount
    exact List.take_left' hcount
  have htypesTake : types.take columns.length = types := List.take_of_length_le hlen.le
  constructor
  · rintro ⟨hok, ⟨row', hrow', hcells⟩, types', htypes', hend⟩
    cases htypes.symm.trans htypes'
    cases hstmtRow.symm.trans hrow'
    have hok' : ok = true := by
      cases ok with
      | true => rfl
      | false => exact absurd (congrArg Prod.snd (hret.symm.trans hok)) nofun
    rw [htake hok'] at hcells
    rw [htypesTake, hsize] at hend
    exact ⟨by rw [hgot]; exact hok', by rw [hgot]; exact hcells, by rw [hend]; omega⟩
  · rintro ⟨hok, hcells, hend⟩
    rw [hgot] at hok hcells
    have hok' : ok = true := hok
    refine ⟨by rw [hret, hok']; rfl, ⟨_, hstmtRow, by rw [htake hok']; exact hcells⟩, types, htypes, ?_⟩
    rw [htypesTake, hend, hsize]
    omega

/-- A connection with this row in its read buffer. -/
def binaryRowArrived (bitmap : List UInt8) (columns : List BinaryColumn) : Con :=
  { Con.calm 0 with
    status := .idle
    commandStatus := .rowInBuffer
    result.columnCount := columns.length
    result.columns := some (columns.map fun c => { (default : Column) with type := c.type })
    result.rowData := some 4096
    result.rowLength := (binaryRow bitmap columns).length
    readBuffer := some
      { buffer := 4096, bufferSize := defaultBufferSize, bufferUsed := (binaryRow bitmap columns).length,
        bufferWritePtr := 4096 + (binaryRow bitmap columns).length, bufferReadPtr := 4096,
        packetEndPtr := some (4096 + (binaryRow bitmap columns).length),
        mem := Memory.store (fun _ => 0) 4096 (binaryRow bitmap columns) } }

/-- The number 123456, a NULL, a date and time and the string `hi`. -/
def sampleColumns : List BinaryColumn :=
  [⟨0x03, some [0x40, 0xe2, 0x01, 0x00]⟩, ⟨0x01, none⟩, ⟨0x0c, some [0xd7, 0x07, 11, 30, 16, 30, 19]⟩,
    ⟨0xfd, some [0x68, 0x69]⟩]

lemma sampleColumns_arrived :
    (binaryRowArrived [0x08] sampleColumns).HasBinaryRow .calm 4096 [0x08] sampleColumns where
  rowData := rfl
  columnCount := rfl
  types := ⟨_, rfl, rfl⟩
  typed := by
    intro c hc
    simp only [sampleColumns, List.mem_cons, List.not_mem_nil, or_false] at hc
    rcases hc with rfl | rfl | rfl | rfl
    · exact ⟨.fixed 4, by decide, fun _ h => by cases h; rfl⟩
    · exact ⟨.fixed 1, by decide, nofun⟩
    · exact ⟨.counted [0, 4, 7, 11], by decide, fun _ h => by cases h; decide⟩
    · exact ⟨.string, by decide, fun _ h => by cases h; decide⟩
  nullMap := ⟨rfl, by decide⟩
  row_eq := Memory.slice_store _ _ _
  space := by decide
  room := nofun
  granted := fun _ => rfl

theorem binary_row_sample :
    (binaryRowArrived [0x08] sampleColumns).HasBinaryRow .calm 4096 [0x08] sampleColumns ∧
      (RowGot .calm (binaryRowArrived [0x08] sampleColumns) 4096 [0x08] sampleColumns (.at none) ↔
        ∀ c ∈ sampleColumns, c.LengthPositive) :=
  ⟨sampleColumns_arrived, binary_row sampleColumns_arrived (.at none)⟩

/-- A string of 200 bytes. -/
def stringOf200 : List BinaryColumn := [⟨0xfd, some (List.replicate 200 0x61)⟩]

/-- The string of 200 bytes is got with a length of nearly 2⁶⁴. -/
theorem binary_row_misread :
    ((statementRowGet .calm (binaryRowArrived [0] stringOf200) (.at none)).1.stmtRow.map fun row =>
        row.map StmtCell.length) = some [2 ^ 64 - 56] ∧
      ¬ RowGot .calm (binaryRowArrived [0] stringOf200) 4096 [0] stringOf200 (.at none) := by
  have hlength : ((statementRowGet .calm (binaryRowArrived [0] stringOf200) (.at none)).1.stmtRow.map fun row =>
      row.map StmtCell.length) = some [2 ^ 64 - 56] := by decide +kernel
  refine ⟨hlength, fun hgot => ?_⟩
  obtain ⟨row, hrow, hcells⟩ := hgot.cells
  rw [hrow] at hlength
  match row, hlength, hcells with
  | cell :: _, hlength, hcells =>
    have hshown : cell.length = 200 := (List.forall₂_cons.mp hcells).1.2.1
    have hcell : cell.length = 2 ^ 64 - 56 := (List.cons.inj (Option.some.inj hlength)).1
    omega

end LibAttachSql
