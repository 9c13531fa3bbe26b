import LibAttachSql.BinaryRows
import LibAttachSql.ResponseRun

/-!
# Results from end to end

A server sends a result: the number of its columns, their definitions, its rows.  The application gets each row while it is
in the buffer, and asks for the next one.  This module puts the readers of packets and the functions that get a row together:
the rows that are got, one after the other, are the rows the server has, for a query, whose rows are text, and for a
statement, whose rows are binary.
-/

namespace LibAttachSql

open Lib

/-! ### What is sent and what is got -/

/-- A result on the server: the columns, the rows, and the warnings and the status behind either. -/
structure ServedResult (ρ : Type) where
  definitions : List Definition
  columnsEnd : UInt16 × UInt16
  rows : List ρ
  rowsEnd : UInt16 × UInt16

/-- An EOF packet. -/
def eofTurn (e : UInt16 × UInt16) : Turn := .packet (.eof e.1 e.2 [])

/-- A row arrives, and the next one is asked for. -/
def rowTurns (bytes : List UInt8) : List Turn := [.packet (.row bytes), .request]

/-- What comes before the rows. -/
def columnTurns (ds : List Definition) (e : UInt16 × UInt16) : List Turn :=
  .packet (.header ds.length) :: (ds.map (fun d => .packet (.definition d)) ++ [eofTurn e])

/-- The turns of a result, with the rows packed. -/
def ServedResult.turns {ρ : Type} (pack : ρ → List UInt8) (r : ServedResult ρ) : List Turn :=
  columnTurns r.definitions r.columnsEnd ++ (r.rows.flatMap (fun row => rowTurns (pack row)) ++ [eofTurn r.rowsEnd])

/-- The turn is a row. -/
def Turn.isRow : Turn → Bool
  | .packet (.row _) => true
  | _ => false

/-- What is got in a run of turns: something at each row, once it has arrived. -/
def rowsGot {γ : Type} (get : Env → Con → γ) : Con → List TurnTaken → List γ
  | _, [] => []
  | con, t :: ts =>
    let rest := rowsGot get (t.apply con) ts
    if t.1.isRow then get t.2.env (t.apply con) :: rest else rest

/-- What holds at each row, once it has arrived. -/
def TurnTaken.AtRow (P : Env → Con → Prop) (con : Con) (t : TurnTaken) : Prop :=
  t.1.isRow = true → P t.2.env (t.apply con)

instance {P : Env → Con → Prop} [∀ env con, Decidable (P env con)] (con : Con) (t : TurnTaken) : Decidable (t.AtRow P con) :=
  inferInstanceAs (Decidable (t.1.isRow = true → P t.2.env (t.apply con)))

/-- A format of rows: how they are packed, how one is got that is in the buffer, and what that is to show; for rows that fit
the columns, a row in the buffer is got as it was packed, once the connection is ready. -/
structure RowFormat (ρ γ : Type) where
  pack : ρ → List UInt8
  get : Env → Con → γ
  shown : ρ → γ
  Fits : List Definition → ρ → Prop
  Ready : Env → Con → Prop
  rowBytes : ∀ {ds row}, 0 < ds.length → Fits ds row → (pack row).length < 2 ^ 24 → RowBytes (pack row)
  got : ∀ {env con ds row}, Fits ds row → con.At (.row ds) → (ResponsePacket.row (pack row)).Found con → Ready env con →
    get env con = shown row

/-! ### A result in the protocol -/

section Turns

variable {con : Con} {ts us : List TurnTaken} {ds : List Definition} {n : ℕ} {ρ γ : Type} {get : Env → Con → γ}

lemma rowsGot_append :
    rowsGot get con (ts ++ us) = rowsGot get con ts ++ rowsGot get (run TurnTaken.apply con ts) us := by
  induction ts generalizing con with
  | nil => rfl
  | cons t ts ih =>
    rw [List.cons_append, rowsGot, rowsGot, ih]
    split_ifs <;> rfl

lemma rowsGot_of_no_row (h : ∀ t ∈ ts.map Prod.fst, t.isRow = false) : rowsGot get con ts = [] := by
  induction ts generalizing con with
  | nil => rfl
  | cons t ts ih =>
    obtain ⟨ht, hts⟩ := List.forall_mem_cons.mp h
    rw [rowsGot, ht]
    exact ih hts

/-- The definitions are expected one after the other. -/
lemma definitions_lead {ds₀ : List Definition} (h : ds₀.length + ds.length ≤ n) :
    Leads ResponsePhase.Next (.columns n ds₀) (ds.map fun d => .packet (.definition d)) (.columns n (ds₀ ++ ds)) := by
  induction ds generalizing ds₀ with
  | nil =>
    rw [List.append_nil]
    exact .nil _
  | cons d ds ih =>
    rw [List.length_cons] at h
    have hroom : (ds₀ ++ [d]).length + ds.length ≤ n := by
      rw [List.length_append, List.length_singleton]
      omega
    have hrest := ih hroom
    rw [List.append_assoc] at hrest
    exact .cons (.definition (by omega)) hrest

/-- What comes before the rows is an answer of the protocol. -/
lemma columnTurns_lead {first : Bool} {e : UInt16 × UInt16} (hpos : 0 < ds.length) (hlt : ds.length < 2 ^ 16)
    (hn : LengthKept ds.length) : Leads ResponsePhase.Next (.answer first) (columnTurns ds e) (.rows ds) := by
  have hroom : ([] : List Definition).length + ds.length ≤ ds.length := (Nat.zero_add _).le
  have hdefinitions := definitions_lead hroom
  exact .cons (.header hpos hlt hn) (hdefinitions.append (.cons (.columnsEnd rfl) (.nil _)))

lemma columnTurns_no_row {e : UInt16 × UInt16} : ∀ t ∈ columnTurns ds e, t.isRow = false := by
  intro t ht
  rcases List.mem_cons.mp ht with rfl | ht
  · rfl
  rcases List.mem_append.mp ht with ht | ht
  · obtain ⟨d, -, rfl⟩ := List.mem_map.mp ht
    rfl
  · obtain rfl := List.mem_singleton.mp ht
    rfl

end Turns

/-! ### The rows -/

section Rows

variable {con : Con} {ts : List TurnTaken} {ds : List Definition} {ρ γ : Type} (F : RowFormat ρ γ)

/-- A packet has less than 16 MiB. -/
lemma Arrival.Bears.length_lt {a : Arrival} {payload : List UInt8} (h : a.Bears payload) : payload.length < 2 ^ 24 := by
  have hlength := h.holds.length_eq
  have h₀ := (a.con.buf.mem a.con.buf.bufferReadPtr).toNat_lt
  have h₁ := (a.con.buf.mem (a.con.buf.bufferReadPtr + 1)).toNat_lt
  have h₂ := (a.con.buf.mem (a.con.buf.bufferReadPtr + 2)).toNat_lt
  unfold unpackInt3 at hlength
  omega

/-- One row is got, and the next one is asked for. -/
lemma row_got {row : ρ} (hpos : 0 < ds.length) (hfits : F.Fits ds row) (h : con.At (.rows ds))
    (hl : Along TurnTaken.apply (fun con t => t.Legal con ∧ t.AtRow F.Ready con) con ts)
    (hts : ts.map Prod.fst = rowTurns (F.pack row)) :
    rowsGot F.get con ts = [F.shown row] ∧ (run TurnTaken.apply con ts).At (.rows ds) := by
  obtain ⟨⟨turn, a⟩, us, rfl, rfl, hus⟩ := List.map_eq_cons_iff.mp hts
  obtain ⟨⟨turn, b⟩, vs, rfl, rfl, hvs⟩ := List.map_eq_cons_iff.mp hus
  obtain rfl := List.map_eq_nil_iff.mp hvs
  obtain ⟨⟨hlegal, hready⟩, ⟨hlegal', -⟩, -⟩ := hl
  have hbytes := F.rowBytes hpos hfits hlegal.2.1.length_lt
  obtain ⟨⟨-, hfound, -⟩, hrow⟩ := response_turn h hlegal (.row hbytes)
  obtain ⟨-, hnext⟩ := response_turn hrow hlegal' .request
  refine ⟨?_, hnext⟩
  show [F.get a.env (TurnTaken.apply con (.packet (.row (F.pack row)), a))] = [F.shown row]
  rw [F.got hfits hrow hfound (hready rfl)]

/-- **All rows are got**, in their order. -/
lemma rows_got {rows : List ρ} (hpos : 0 < ds.length) (hfits : ∀ row ∈ rows, F.Fits ds row) (h : con.At (.rows ds))
    (hl : Along TurnTaken.apply (fun con t => t.Legal con ∧ t.AtRow F.Ready con) con ts)
    (hts : ts.map Prod.fst = rows.flatMap fun row => rowTurns (F.pack row)) :
    rowsGot F.get con ts = rows.map F.shown ∧ (run TurnTaken.apply con ts).At (.rows ds) := by
  induction rows generalizing con ts with
  | nil =>
    obtain rfl := List.map_eq_nil_iff.mp hts
    exact ⟨rfl, h⟩
  | cons row rows ih =>
    obtain ⟨hfirst, hrest⟩ := List.forall_mem_cons.mp hfits
    obtain ⟨us, vs, rfl, hus, hvs⟩ := List.map_eq_append_iff.mp hts
    obtain ⟨hlu, hlv⟩ := (along_append _ _ _).mp hl
    obtain ⟨hgot, hrows⟩ := row_got F hpos hfirst h hlu hus
    obtain ⟨hothers, hlast⟩ := ih hrest hrows hlv hvs
    rw [rowsGot_append, hgot, hothers, run_append]
    exact ⟨rfl, hlast⟩

/-- **A result comes through**: the rows got are the rows served, and the connection is where the answer ends. -/
theorem result_through {first : Bool} {r : ServedResult ρ} (hpos : 0 < r.definitions.length)
    (hlt : r.definitions.length < 2 ^ 16) (hn : LengthKept r.definitions.length)
    (hfits : ∀ row ∈ r.rows, F.Fits r.definitions row) (h : con.At (.answer first))
    (hl : Along TurnTaken.apply (fun con t => t.Legal con ∧ t.AtRow F.Ready con) con ts)
    (hts : ts.map Prod.fst = r.turns F.pack) :
    rowsGot F.get con ts = r.rows.map F.shown ∧
      (run TurnTaken.apply con ts).At (.done r.definitions (moreResults r.rowsEnd.2)) := by
  obtain ⟨us, vs, rfl, hus, hvs⟩ := List.map_eq_append_iff.mp hts
  obtain ⟨vs, ws, rfl, hvs, hws⟩ := List.map_eq_append_iff.mp hvs
  obtain ⟨hlu, hl⟩ := (along_append _ _ _).mp hl
  obtain ⟨hlv, hlw⟩ := (along_append _ _ _).mp hl
  have hcolumns : Leads ResponsePhase.Next (.answer first) (columnTurns r.definitions r.columnsEnd) (.rows r.definitions) :=
    columnTurns_lead hpos hlt hn
  rw [← hus] at hcolumns
  obtain ⟨-, hrows⟩ := response_turns h (hlu.imp fun _ _ => And.left) hcolumns
  obtain ⟨hgot, hlast⟩ := rows_got F hpos hfits hrows hlv hvs
  have hend : Leads ResponsePhase.Next (.rows r.definitions) (ws.map Prod.fst)
      (.done r.definitions (moreResults r.rowsEnd.2)) := by
    rw [hws]
    exact .cons .rowsEnd (.nil _)
  obtain ⟨-, hdone⟩ := response_turns hlast (hlw.imp fun _ _ => And.left) hend
  have hbefore : rowsGot F.get con us = [] := rowsGot_of_no_row (by rw [hus]; exact columnTurns_no_row)
  have hbehind : rowsGot F.get (run TurnTaken.apply (run TurnTaken.apply con us) vs) ws = [] :=
    rowsGot_of_no_row (by rw [hws]; exact List.forall_mem_singleton.mpr rfl)
  rw [rowsGot_append, rowsGot_append, hbefore, hgot, hbehind, run_append, run_append]
  exact ⟨List.append_nil _, hdone⟩

end Rows

/-! ### Text -/

/-- A length of less than 16 MiB does not begin as an EOF packet does. -/
lemma packLength_ne_eof {n : ℕ} (h : n < 2 ^ 24) (hn : LengthKept n) : ∃ c rest, packLength n = c :: rest ∧ c ≠ 0xfe := by
  unfold packLength
  split_ifs
  · refine ⟨_, _, rfl, fun he => ?_⟩
    have hbyte := congrArg UInt8.toNat he
    rw [toNat_byteAt] at hbyte
    have hsmall : n < 0x80 := hn.resolve_right (by omega)
    have hvalue : (0xfe : UInt8).toNat = 254 := rfl
    omega
  · exact ⟨_, _, rfl, by decide⟩
  · exact ⟨_, _, rfl, by decide⟩
  · omega

/-- The strings that `attachsql_query_row_get` answers for the columns of a row. -/
def queryRowGot (env : Env) (con : Con) : Option (List (List UInt8)) :=
  (queryRowGet env con (.at none)).2.2.map fun row =>
    (row.take con.result.columnCount).map fun cell => con.buf.mem.slice cell.data cell.length

/-- Rows are not buffered, there is room or memory for the cells of a row, and the row lies in the address space. -/
structure Con.RowReady (env : Env) (con : Con) : Prop where
  unbuffered : con.bufferRows = false
  room : ∀ row ∈ con.row, con.result.columnCount ≤ row.length
  granted : con.row = none → env.newArray con.result.columnCount sizeofCell = true
  address : ∀ p ∈ con.buf.packetEndPtr, p < 2 ^ 64

lemma Con.rowReady_iff {env : Env} {con : Con} : con.RowReady env ↔ con.bufferRows = false ∧
    (∀ row ∈ con.row, con.result.columnCount ≤ row.length) ∧
      (con.row = none → env.newArray con.result.columnCount sizeofCell = true) ∧ ∀ p ∈ con.buf.packetEndPtr, p < 2 ^ 64 :=
  ⟨fun ⟨h₁, h₂, h₃, h₄⟩ => ⟨h₁, h₂, h₃, h₄⟩, fun ⟨h₁, h₂, h₃, h₄⟩ => ⟨h₁, h₂, h₃, h₄⟩⟩

instance (env : Env) (con : Con) : Decidable (con.RowReady env) := decidable_of_iff _ Con.rowReady_iff.symm

section Text

variable {env : Env} {con : Con} {p : ℕ} {row : List (List UInt8)}

/-- A row that is there is got. -/
lemma queryRowGet_isSome (error : ErrorPtr) (hstatus : con.commandStatus = .rowInBuffer)
    (hdata : con.result.rowData = some p) (h : con.RowReady env) : ∃ row, (queryRowGet env con error).2.2 = some row := by
  obtain ⟨cells, hcells, hroom⟩ : ∃ cells : List Cell,
      (if con.row.isNone ∧ env.newArray con.result.columnCount sizeofCell then
        some (List.replicate con.result.columnCount (⟨0, 0⟩ : Cell)) else con.row) = some cells ∧
      con.result.columnCount ≤ cells.length := by
    cases hrow : con.row with
    | none =>
      rw [if_pos ⟨rfl, h.granted hrow⟩]
      exact ⟨_, rfl, (List.length_replicate ..).ge⟩
    | some cells =>
      rw [if_neg (fun hnone => nomatch hnone.1)]
      exact ⟨cells, rfl, h.room cells hrow⟩
  unfold queryRowGet
  rw [if_neg (by rw [h.unbuffered]; decide), if_neg (not_not.mpr hstatus)]
  dsimp only
  rw [hcells]
  dsimp only
  unfold writeRow
  rw [if_neg]
  · exact ⟨_, rfl⟩
  · rintro (⟨hnone, -⟩ | hshort)
    · dsimp only at hnone
      rw [hdata] at hnone
      cases hnone
    · dsimp only at hshort
      omega

/-- The bytes of cells that show strings. -/
lemma slices_of_shows {m : Memory UInt8} {cells : List Cell} (h : List.Forall₂ (Cell.Shows m) cells (row.map some)) :
    cells.map (fun cell => m.slice cell.data cell.length) = row := by
  induction row generalizing cells with
  | nil =>
    obtain rfl := List.forall₂_nil_right_iff.mp h
    rfl
  | cons bytes row ih =>
    obtain ⟨cell, cells, hshows, hrest, rfl⟩ := List.forall₂_cons_right_iff.mp h
    obtain ⟨-, hlength, hbytes⟩ := hshows
    rw [List.map_cons, ih hrest, hlength, hbytes]

/-- **A row of text is got** as it was packed. -/
lemma queryRowGot_eq (hcount : con.result.columnCount = row.length)
    (hrow : ∀ bytes ∈ row, bytes.length < 0x80 ∨ 0xfa < bytes.length) (hstatus : con.commandStatus = .rowInBuffer)
    (hfound : (ResponsePacket.row (packRow (row.map some))).Found con) (h : con.RowReady env) :
    queryRowGot env con = some row := by
  obtain ⟨p, hdata, -, hslice, hend⟩ := hfound
  obtain ⟨cells, hget⟩ := queryRowGet_isSome (.at none) hstatus hdata h
  have hcells := queryRowGet_take env con _ hget
  have hshown := (rowShown_iff hslice (h.address _ hend)).mpr
    (List.forall_mem_map.mpr fun bytes hb => ⟨bytes, rfl, hrow bytes hb⟩)
  have hread : con.rowCells = readCells con.buf.mem (row.map some).length p := by
    unfold Con.rowCells
    rw [hdata, hcount, List.length_map]
    rfl
  unfold queryRowGot
  rw [hget, Option.map_some, hcells, hread, slices_of_shows hshown.cells]

end Text

/-- Rows of a query without a NULL, and without a string whose length a `char` makes negative. -/
def textRows : RowFormat (List (List UInt8)) (Option (List (List UInt8))) where
  pack row := packRow (row.map some)
  get := queryRowGot
  shown := some
  Fits ds row := row.length = ds.length ∧ ∀ bytes ∈ row, bytes.length < 0x80 ∨ 0xfa < bytes.length
  Ready env con := con.RowReady env
  rowBytes := by
    rintro ds row hpos ⟨hlength, hrow⟩ hlt
    obtain ⟨bytes, row, rfl⟩ := List.exists_cons_of_length_pos (hpos.trans_eq hlength.symm)
    have hpack : packRow ((bytes :: row).map some) = packLength bytes.length ++ (bytes ++ packRow (row.map some)) :=
      List.append_assoc ..
    rw [hpack] at hlt ⊢
    simp only [List.length_append] at hlt
    have hkept : LengthKept bytes.length := (hrow _ (List.mem_cons_self ..)).imp_right fun hbig => ⟨hbig, by omega⟩
    obtain ⟨c, rest, hhead, hc⟩ := packLength_ne_eof (by omega) hkept
    exact ⟨c, _, by rw [hhead]; rfl, hc⟩
  got := by
    rintro env con ds row ⟨hlength, hrow⟩ ⟨hawaits, -, hcolumns⟩ hfound hready
    exact queryRowGot_eq (hcolumns.count.trans hlength.symm) hrow hawaits.commandStatus hfound hready

/-! ### Binary rows -/

/-- A row of a statement, with its bitmap, whose values are of the types of their columns. -/
structure StatementRow where
  bitmap : List UInt8
  columns : List BinaryColumn
  nullMap : NullMap bitmap columns
  typed : ∀ c ∈ columns, c.Typed

/-- What a cell shows: nothing for a NULL, else the type and the bytes. -/
def StmtCell.value (m : Memory UInt8) (cell : StmtCell) : Option (ℕ × List UInt8) :=
  if cell.type = columnTypeNull then none else some (cell.type, m.slice cell.data cell.length)

/-- What a column has. -/
def BinaryColumn.typedValue (c : BinaryColumn) : Option (ℕ × List UInt8) := c.value.map fun bytes => (c.type.toNat, bytes)

/-- The values of the cells that `attachsql_statement_row_get` makes of a row, when it succeeds. -/
def statementRowGot (env : Env) (con : Con) : Option (List (Option (ℕ × List UInt8))) :=
  let (con, _, ok) := statementRowGet env con (.at none)
  if ok then con.stmtRow.map fun row => (row.take con.result.columnCount).map (StmtCell.value con.buf.mem) else none

/-- There is room or memory for the cells of a row, and the row lies in the address space. -/
structure Con.StmtRowReady (env : Env) (con : Con) : Prop where
  room : ∀ row ∈ con.stmtRow, con.result.columnCount ≤ row.length
  granted : con.stmtRow = none → env.newArray con.result.columnCount sizeofStmtCell = true
  address : ∀ p ∈ con.buf.packetEndPtr, p < 2 ^ 64

lemma Con.stmtRowReady_iff {env : Env} {con : Con} : con.StmtRowReady env ↔
    (∀ row ∈ con.stmtRow, con.result.columnCount ≤ row.length) ∧
      (con.stmtRow = none → env.newArray con.result.columnCount sizeofStmtCell = true) ∧
        ∀ p ∈ con.buf.packetEndPtr, p < 2 ^ 64 :=
  ⟨fun ⟨h₁, h₂, h₃⟩ => ⟨h₁, h₂, h₃⟩, fun ⟨h₁, h₂, h₃⟩ => ⟨h₁, h₂, h₃⟩⟩

instance (env : Env) (con : Con) : Decidable (con.StmtRowReady env) := decidable_of_iff _ Con.stmtRowReady_iff.symm

section Binary

variable {env : Env} {con : Con} {ds : List Definition} {row : StatementRow}

lemma StmtCell.value_of_shows {m : Memory UInt8} {cell : StmtCell} {c : BinaryColumn} (ht : c.Typed) (h : cell.Shows m c) :
    cell.value m = c.typedValue := by
  unfold StmtCell.Shows at h
  unfold StmtCell.value BinaryColumn.typedValue
  cases hvalue : c.value with
  | none =>
    rw [hvalue] at h
    exact if_pos h.1
  | some bytes =>
    rw [hvalue] at h
    obtain ⟨htype, hlength, hbytes⟩ := h
    obtain ⟨l, hl, hadmits⟩ := ht
    -- a column of the type NULL has no value
    have hne : c.type.toNat ≠ columnTypeNull := by
      intro hnull
      have hlayout : layoutOf c.type.toNat = some .absent := by
        rw [hnull]
        rfl
      cases hlayout.symm.trans hl
      exact hadmits bytes hvalue
    rw [htype, if_neg hne, hlength, hbytes]
    rfl

lemma values_of_shows {m : Memory UInt8} {cells : List StmtCell} {columns : List BinaryColumn}
    (ht : ∀ c ∈ columns, c.Typed) (h : List.Forall₂ (StmtCell.Shows m) cells columns) :
    cells.map (StmtCell.value m) = columns.map BinaryColumn.typedValue := by
  induction h with
  | nil => rfl
  | cons hcell _ ih =>
    obtain ⟨hc, hcolumns⟩ := List.forall_mem_cons.mp ht
    rw [List.map_cons, List.map_cons, ih hcolumns, StmtCell.value_of_shows hc hcell]

/-- The types of the columns are those of the definitions. -/
lemma Con.HoldsColumns.types (h : con.HoldsColumns ds.length ds) (hkept : ∀ d ∈ ds, d.Kept) :
    ∃ types, con.result.columns = some types ∧ types.map Column.type = ds.map Definition.type := by
  obtain ⟨types, hcolumns, hlength⟩ := h.columns
  refine ⟨types, hcolumns, List.ext_getElem? fun i => ?_⟩
  rw [List.getElem?_map, List.getElem?_map]
  by_cases hi : i < ds.length
  · have hd : ds[i]? = some ds[i] := List.getElem?_eq_getElem hi
    obtain ⟨column, hmem, hholds⟩ := h.stored i _ hd (hkept _ (List.getElem_mem hi))
    rw [hcolumns] at hmem
    have hcolumn : types[i]? = some column := hmem
    rw [hcolumn, hd, Option.map_some, Option.map_some, hholds.type]
  · rw [List.getElem?_eq_none (by omega), List.getElem?_eq_none (by omega)]
    rfl

lemma statementRowGet_unread (error : ErrorPtr) :
    (statementRowGet env con error).1.result = con.result ∧ (statementRowGet env con error).1.buf = con.buf := by
  unfold statementRowGet
  dsimp only
  split
  · exact ⟨rfl, rfl⟩
  · unfold writeStmtRow
    split
    · dsimp only
      split_ifs <;> exact ⟨rfl, rfl⟩
    · split_ifs <;> exact ⟨rfl, rfl⟩

/-- **A binary row is got** as it was packed. -/
lemma statementRowGot_eq (hcolumns : con.HoldsColumns ds.length ds) (hkept : ∀ d ∈ ds, d.Kept)
    (htypes : row.columns.map BinaryColumn.type = ds.map Definition.type) (hlen : ∀ c ∈ row.columns, c.LengthPositive)
    (hfound : (ResponsePacket.row (binaryRow row.bitmap row.columns)).Found con) (h : con.StmtRowReady env) :
    statementRowGot env con = some (row.columns.map BinaryColumn.typedValue) := by
  obtain ⟨p, hdata, -, hslice, hend⟩ := hfound
  obtain ⟨types, hsome, hsame⟩ := hcolumns.types hkept
  have hlength : row.columns.length = ds.length := by
    rw [← List.length_map (f := BinaryColumn.type), htypes, List.length_map]
  have hcount := hcolumns.count.trans hlength.symm
  have hrow : con.HasBinaryRow env p row.bitmap row.columns :=
    { rowData := hdata, columnCount := hcount, types := ⟨types, hsome, hsame.trans htypes.symm⟩, typed := row.typed,
      nullMap := row.nullMap, row_eq := hslice, space := h.address _ hend,
      room := fun cells hcells => hcount ▸ h.room cells hcells, granted := fun hnone => hcount ▸ h.granted hnone }
  -- the bitmap and the values, behind the header
  have hvalues : con.buf.mem.slice (p + 1) (row.bitmap ++ packColumns row.columns).length =
      row.bitmap ++ packColumns row.columns := (List.cons.inj ((Memory.slice_succ con.buf.mem p _).symm.trans hslice)).2
  obtain ⟨hbitmap, hvalues⟩ := Memory.slice_eq_append hvalues
  rw [row.nullMap.length] at hvalues
  have hspace : p + 1 + (row.columns.length + 9) / 8 + (packColumns row.columns).length < 2 ^ 64 := by
    have hend := h.address _ hend
    unfold binaryRow at hend
    rw [List.length_cons, List.length_append, row.nullMap.length] at hend
    omega
  obtain ⟨hok, hcells, -⟩ := (columnsShown_iff (hsame.trans htypes.symm) (nullBits_of_nullMap row.nullMap hbitmap) row.typed
    hvalues hspace).mpr hlen
  have htypesLength : types.length = row.columns.length := by
    rw [← List.length_map (f := Column.type), hsame, List.length_map, hlength]
  obtain ⟨cells, ok, hgot⟩ : ∃ cells ok,
      stmtCells con.buf.mem (p + 1) 0 (p + 1 + (row.columns.length + 9) / 8) types = (cells, ok) := ⟨_, _, rfl⟩
  have hcount' := length_stmtCells hok
  rw [hgot] at hok hcells hcount'
  obtain rfl : ok = true := hok
  obtain ⟨⟨old, hstmtRow⟩, hret⟩ := statementRowGet_of_row (.at none) hrow hsome htypesLength hgot
  obtain ⟨hresult, hbuf⟩ := @statementRowGet_unread env con (.at none)
  unfold statementRowGot
  generalize statementRowGet env con (.at none) = got at *
  obtain ⟨con', e, ok⟩ := got
  obtain ⟨rfl, rfl⟩ := Prod.mk.inj hret
  dsimp only at hstmtRow hresult hbuf ⊢
  rw [if_pos rfl, hstmtRow, Option.map_some, hresult, hbuf, hcount, List.take_left' (hcount'.trans htypesLength),
    values_of_shows row.typed hcells]

end Binary

/-- Rows of a statement, for columns whose definitions are kept, without a string whose length a `char` makes negative. -/
def binaryRows : RowFormat StatementRow (Option (List (Option (ℕ × List UInt8)))) where
  pack row := binaryRow row.bitmap row.columns
  get := statementRowGot
  shown row := some (row.columns.map BinaryColumn.typedValue)
  Fits ds row := (∀ d ∈ ds, d.Kept) ∧ row.columns.map BinaryColumn.type = ds.map Definition.type ∧
    ∀ c ∈ row.columns, c.LengthPositive
  Ready env con := con.StmtRowReady env
  rowBytes _ _ _ := ⟨0, _, rfl, by decide⟩
  got := by
    rintro env con ds row ⟨hkept, htypes, hlen⟩ ⟨-, -, hcolumns⟩ hfound hready
    exact statementRowGot_eq hcolumns hkept htypes hlen hfound hready

/-! ### From the command to the end of the rows -/

lemma writeRow_stands (con : Con) (row : List Cell) : con.Stands (writeRow con row).1 := by
  unfold writeRow
  split_ifs
  · exact { Con.Stands.refl con with }
  · exact { Con.Stands.refl con with }

/-- **Getting a row** leaves the connection as the next turn may find it. -/
theorem queryRowGet_stands (env : Env) (con : Con) (error : ErrorPtr) : con.Stands (queryRowGet env con error).1 := by
  unfold queryRowGet
  split
  · exact .refl con
  split
  · exact .refl con
  dsimp only
  split
  · exact { Con.Stands.refl con with }
  · exact { writeRow_stands _ _ with }

lemma writeStmtRow_stands (env : Env) (con : Con) (row : List StmtCell) (error : ErrorPtr) :
    con.Stands (writeStmtRow env con row error).1 := by
  unfold writeStmtRow
  split
  · dsimp only
    split_ifs
    · exact { Con.Stands.refl con with }
    · exact { Con.Stands.refl con with }
    · exact { Con.Stands.refl con with }
  · exact { Con.Stands.refl con with }

theorem statementRowGet_stands (env : Env) (con : Con) (error : ErrorPtr) :
    con.Stands (statementRowGet env con error).1 := by
  unfold statementRowGet
  dsimp only
  split
  · exact { Con.Stands.refl con with }
  · exact { writeStmtRow_stands _ _ _ _ with }

section Results

variable {env : Env} {con : Con} {data : List UInt8} {ts : List TurnTaken}

/-- **The result of a query**: it was sent, and nothing else is expected.  However the packets of the result arrive, and
whatever else changes in between, the rows that are got, one after the other, are the rows of the server, and behind them
nothing is expected any more. -/
theorem query_result_got {r : ServedResult (List (List UInt8))} (hq : con.nextPacketQueue = [])
    (hsent : (commandSend env con .query data).1.nextPacketQueue = [.response]) (hpos : 0 < r.definitions.length)
    (hlt : r.definitions.length < 2 ^ 16) (hn : LengthKept r.definitions.length)
    (hfits : ∀ row ∈ r.rows, row.length = r.definitions.length ∧ ∀ bytes ∈ row, bytes.length < 0x80 ∨ 0xfa < bytes.length)
    (hl : Along TurnTaken.apply (fun con t => t.Legal con ∧ t.AtRow (fun env con => con.RowReady env) con)
      (commandSend env con .query data).1 ts)
    (hts : ts.map Prod.fst = r.turns fun row => packRow (row.map some)) :
    rowsGot queryRowGot (commandSend env con .query data).1 ts = r.rows.map some ∧
      (run TurnTaken.apply (commandSend env con .query data).1 ts).At (.done r.definitions (moreResults r.rowsEnd.2)) :=
  result_through textRows hpos hlt hn hfits (commandSend_answers env hq (.inl rfl) data hsent) hl hts

/-- **The result of a statement.** -/
theorem statement_result_got {r : ServedResult StatementRow} (hq : con.nextPacketQueue = [])
    (hsent : (commandSend env con .stmtExecute data).1.nextPacketQueue = [.response]) (hpos : 0 < r.definitions.length)
    (hlt : r.definitions.length < 2 ^ 16) (hn : LengthKept r.definitions.length) (hkept : ∀ d ∈ r.definitions, d.Kept)
    (hfits : ∀ row ∈ r.rows, row.columns.map BinaryColumn.type = r.definitions.map Definition.type ∧
      ∀ c ∈ row.columns, c.LengthPositive)
    (hl : Along TurnTaken.apply (fun con t => t.Legal con ∧ t.AtRow (fun env con => con.StmtRowReady env) con)
      (commandSend env con .stmtExecute data).1 ts)
    (hts : ts.map Prod.fst = r.turns fun row => binaryRow row.bitmap row.columns) :
    rowsGot statementRowGot (commandSend env con .stmtExecute data).1 ts =
        r.rows.map (fun row => some (row.columns.map BinaryColumn.typedValue)) ∧
      (run TurnTaken.apply (commandSend env con .stmtExecute data).1 ts).At
        (.done r.definitions (moreResults r.rowsEnd.2)) :=
  result_through binaryRows hpos hlt hn (fun row hrow => ⟨hkept, hfits row hrow⟩)
    (commandSend_answers env hq (.inr rfl) data hsent) hl hts

end Results

/-! ### Two results -/

/-- A connection on which a command was sent and the packets of some turns were received, all at once. -/
def turnsReceived (cmd : Command) (turns : List Turn) : Con :=
  readInto (onAlloc .calm (commandSend .calm queryable cmd [0x53]).1 65536).1
    ((turns.filterMap fun t => match t with | .packet p => some p.payload | _ => none).zipIdx.flatMap fun p =>
      frame (UInt8.ofNat (p.2 + 1)) p.1)

/-- A string and a number. -/
def stringAndNumber : List Definition :=
  [⟨[0x64], [], [], [], [0x61], [], 63, 0, 0xfd, 0, 0⟩, ⟨[0x64], [], [], [], [0x62], [], 63, 0, 0x03, 0, 0⟩]

/-- A result of a query, of two rows. -/
def textResult : ServedResult (List (List UInt8)) :=
  ⟨stringAndNumber, (0, 2), [[[0x68, 0x69], [0x37]], [[], [0x31, 0x32]]], (0, 2)⟩

/-- The turns of the result. -/
def textTurns : List Turn := textResult.turns fun row => packRow (row.map some)

theorem query_result_got_two :
    rowsGot queryRowGot (commandSend .calm queryable .query [0x53]).1
          (taken .calm (turnsReceived .query textTurns) textTurns) =
        textResult.rows.map some ∧
      (run TurnTaken.apply (commandSend .calm queryable .query [0x53]).1
        (taken .calm (turnsReceived .query textTurns) textTurns)).At (.done stringAndNumber false) := by
  have hstands : (commandSend .calm queryable .query [0x53]).1.Stands (turnsReceived .query textTurns) :=
    { stmt_eq := rfl, queue_eq := rfl, commandStatus_eq := rfl, queueSize_eq := rfl, queueBytes_eq := rfl
      result_eq := rfl, status_eq := rfl, serverStatus_eq := rfl }
  exact query_result_got (r := textResult) rfl (by decide +kernel) (by decide) (by decide) (.inl (by decide)) (by decide)
    ((taken_legal hstands (by decide +kernel)).and (by decide +kernel)) (taken_fst _ _ _)

/-- A row of a statement with a string and a NULL. -/
def stringAndNull : StatementRow where
  bitmap := [0x08]
  columns := [⟨0xfd, some [0x68, 0x69]⟩, ⟨0x03, none⟩]
  nullMap := ⟨rfl, by decide⟩
  typed := List.forall_mem_cons.mpr ⟨⟨.string, by decide, fun _ h => by cases h; decide⟩,
    List.forall_mem_singleton.mpr ⟨.fixed 4, by decide, nofun⟩⟩

/-- A result of a statement. -/
def statementResult : ServedResult StatementRow := ⟨stringAndNumber, (0, 2), [stringAndNull, stringAndNull], (0, 2)⟩

/-- The turns of the result. -/
def statementTurns : List Turn := statementResult.turns fun row => binaryRow row.bitmap row.columns

theorem statement_result_got_two :
    rowsGot statementRowGot (commandSend .calm queryable .stmtExecute [0x53]).1
          (taken .calm (turnsReceived .stmtExecute statementTurns) statementTurns) =
        statementResult.rows.map (fun row => some (row.columns.map BinaryColumn.typedValue)) ∧
      (run TurnTaken.apply (commandSend .calm queryable .stmtExecute [0x53]).1
        (taken .calm (turnsReceived .stmtExecute statementTurns) statementTurns)).At (.done stringAndNumber false) := by
  have hstands : (commandSend .calm queryable .stmtExecute [0x53]).1.Stands (turnsReceived .stmtExecute statementTurns) :=
    { stmt_eq := rfl, queue_eq := rfl, commandStatus_eq := rfl, queueSize_eq := rfl, queueBytes_eq := rfl
      result_eq := rfl, status_eq := rfl, serverStatus_eq := rfl }
  have hfits : ∀ row ∈ statementResult.rows,
      row.columns.map BinaryColumn.type = statementResult.definitions.map Definition.type ∧
        ∀ c ∈ row.columns, c.LengthPositive := by
    have hrow : stringAndNull.columns.map BinaryColumn.type = stringAndNumber.map Definition.type ∧
        ∀ c ∈ stringAndNull.columns, c.LengthPositive :=
      ⟨rfl, List.forall_mem_cons.mpr ⟨fun _ h _ => by cases h; exact .inl (by decide), List.forall_mem_singleton.mpr nofun⟩⟩
    exact List.forall_mem_cons.mpr ⟨hrow, List.forall_mem_singleton.mpr hrow⟩
  exact statement_result_got (r := statementResult) rfl (by decide +kernel) (by decide) (by decide) (.inl (by decide))
    (by decide +kernel) hfits ((taken_legal hstands (by decide +kernel)).and (by decide +kernel)) (taken_fst _ _ _)

end LibAttachSql
