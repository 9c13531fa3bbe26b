import LibAttachSql.ActFrames

/-!
# The arrays of a result

Four arrays are as long as the result has columns: the columns themselves, the copies `attachsql_query_column_get` makes of
them, and the rows of queries and of statements.  The first is made anew for each result; the others are kept until
the query or the statement is closed, and written to by the number of columns of the result at hand.  Here the writes of each
act are listed, and shown to stay inside in every run whose results have a column at least, and no more columns than the
rows that are kept.
-/

namespace LibAttachSql

open Lib

/-! ### Writes -/

/-- A place in an array of some length, if the array is there at all. -/
def Inside (i : ℕ) : Option ℕ → Prop
  | none => False
  | some n => i < n

instance (i : ℕ) (n : Option ℕ) : Decidable (Inside i n) := by
  unfold Inside
  split <;> infer_instance

lemma inside_iff {α : Type} {i : ℕ} {a : Option (List α)} :
    Inside i (a.map List.length) ↔ ∃ l, a = some l ∧ i < l.length := by
  cases a with
  | none => simp [Inside]
  | some l => simp [Inside]

/-- Each write of an act to `result.columns[current_column]`, `row[column]`, `stmt_row[column]` or `columns[column]` is
inside the array. -/
def Act.InBounds (con : Con) : Act → Prop
  | .packet _ => con.nextPacketQueue.head? = some .column →
    Inside con.result.currentColumn (con.result.columns.map List.length)
  | .rowGet env _ => con.bufferRows = false → con.commandStatus = .rowInBuffer → (newRow env con).row.isSome = true →
    ∀ column < con.result.columnCount, Inside column ((newRow env con).row.map List.length)
  | .stmtRowGet env _ => (newStmtRow env con).stmtRow.isSome = true →
    ∀ column < con.result.columnCount, Inside column ((newStmtRow env con).stmtRow.map List.length)
  | .columnGet _ => con.columns = none → (queryColumns con).columns.isSome = true →
    ∀ column < con.result.columnCount, Inside column ((queryColumns con).columns.map List.length)
  | _ => True

/-! ### What fits -/

/-- The number of columns that the packet to be read announces, if it is the header of a result. -/
def nextHeader (con : Con) : Option ℕ :=
  match nextPacket con with
  | some (t, p, _) =>
    if (t = .response ∨ t = .prepareResponse) ∧ con.buf.mem p ∉ ([0x00, 0xff, 0xfe] : List UInt8) then
      some (uint16 (unpackLength con.buf.mem p).length)
    else none
  | none => none

/-- An array that is kept has room for so many columns. -/
def HasRoom {α : Type} (n : ℕ) : Option (List α) → Prop
  | none => True
  | some l => n ≤ l.length

instance {α : Type} (n : ℕ) (a : Option (List α)) : Decidable (HasRoom n a) := by
  unfold HasRoom
  split <;> infer_instance

/-- A result with `n` columns fits: there are some, the array for them can be had and is written from its start, and the
rows that are kept are as long. -/
structure Con.HeaderFits (con : Con) (env : Env) (n : ℕ) : Prop where
  pos : 0 < n
  made : env.newArray n sizeofColumn = true
  first : con.result.currentColumn = 0
  alone : PacketType.column ∉ con.nextPacketQueue
  row : HasRoom n con.row
  stmtRow : HasRoom n con.stmtRow

instance (con : Con) (env : Env) (n : ℕ) : Decidable (con.HeaderFits env n) :=
  decidable_of_iff
    (0 < n ∧ env.newArray n sizeofColumn = true ∧ con.result.currentColumn = 0 ∧
      PacketType.column ∉ con.nextPacketQueue ∧ HasRoom n con.row ∧ HasRoom n con.stmtRow)
    ⟨fun ⟨hp, hm, hf, ha, hr, hs⟩ => ⟨hp, hm, hf, ha, hr, hs⟩,
      fun h => ⟨h.pos, h.made, h.first, h.alone, h.row, h.stmtRow⟩⟩

/-- The header of a result fits, the columns are not freed while the definition of one is expected, and a buffered row that
is handed out has as many cells as the result has columns. -/
def Act.Fits (con : Con) : Act → Prop
  | .packet env => ∀ n ∈ nextHeader con, con.HeaderFits env n
  | .commandFree | .closeQuery => PacketType.column ∉ con.nextPacketQueue
  | .closeStatement _ => con.stmt.isSome = true → PacketType.column ∉ con.nextPacketQueue
  | .bufferRowGet => con.rowBufferPosition < con.rowBufferCount →
    con.result.columnCount ≤ (con.rowBuffer.getD con.rowBufferPosition []).length
  | _ => True

instance (con : Con) (a : Act) : Decidable (a.Fits con) := by
  unfold Act.Fits
  split <;> infer_instance

instance (con : Con) (a : Act) : Decidable (a.InBounds con) := by
  unfold Act.InBounds
  split <;> infer_instance

/-! ### The invariant -/

/-- The number of column definitions that are expected. -/
def Con.columnsExpected (con : Con) : ℕ := con.definitions.count .column

/-- The columns are as many as announced, the one whose definition is expected is among them, and the rows have room for
all. -/
structure Objects.Bounded (o : Objects) (expected : ℕ) : Prop where
  columns_length : ∀ columns, o.resultColumns = some columns → columns.length = o.columnCount
  columnCount_lt : o.columnCount < 2 ^ 16
  expected_le : expected ≤ 1
  current : 0 < expected → Inside o.currentColumn (o.resultColumns.map List.length)
  row : HasRoom o.columnCount o.row
  stmtRow : HasRoom o.columnCount o.stmtRow

/-- The objects are bounded for what is expected. -/
def Con.Bounded (con : Con) : Prop := con.objects.Bounded con.columnsExpected

namespace Objects.Bounded

variable {o : Objects} {n m : ℕ}

/-- No more is expected. -/
lemma fewer (h : o.Bounded n) (hle : m ≤ n) : o.Bounded m :=
  ⟨h.columns_length, h.columnCount_lt, hle.trans h.expected_le, fun hm => h.current (hm.trans_le hle), h.row, h.stmtRow⟩

/-- Another statement changes nothing. -/
lemma withStmt (h : o.Bounded n) (stmt : Option Stmt) : Objects.Bounded { o with stmt := stmt } n :=
  ⟨h.columns_length, h.columnCount_lt, h.expected_le, h.current, h.row, h.stmtRow⟩

/-- A command starts from the first column. -/
lemma fromFirst (h : o.Bounded n) : Objects.Bounded { o with currentColumn := 0 } n := by
  refine ⟨h.columns_length, h.columnCount_lt, h.expected_le, fun hn => ?_, h.row, h.stmtRow⟩
  obtain ⟨columns, hcolumns, hi⟩ := inside_iff.mp (h.current hn)
  exact inside_iff.mpr ⟨columns, hcolumns, Nat.zero_lt_of_lt hi⟩

/-- The columns are freed while none is expected. -/
lemma freed (h : o.Bounded n) (hn : n = 0) : Objects.Bounded { o with resultColumns := none } n :=
  ⟨nofun, h.columnCount_lt, h.expected_le, fun hpos => absurd hpos (by omega), h.row, h.stmtRow⟩

/-- The arrays that are kept are replaced by others with as much room. -/
lemma refilled (h : o.Bounded n) {columns : Option (List QueryColumn)} {row : Option (List Cell)}
    {stmtRow : Option (List StmtCell)} (hr : HasRoom o.columnCount row) (hs : HasRoom o.columnCount stmtRow) :
    Objects.Bounded { o with columns := columns, row := row, stmtRow := stmtRow } n :=
  ⟨h.columns_length, h.columnCount_lt, h.expected_le, h.current, hr, hs⟩

/-- The header of a result that fits. -/
lemma header {con : Con} {env : Env} {k : ℕ} (ht : con.HeaderFits env k) (hk : k < 2 ^ 16) (hm : m ≤ 1) :
    Objects.Bounded { con.objects with columnCount := k, resultColumns := newColumns env k } m := by
  have hcolumns : newColumns env k = some (List.replicate k default) := if_pos ht.made
  refine ⟨fun columns hc => ?_, hk, hm, fun _ => inside_iff.mpr ⟨_, hcolumns, ?_⟩, ht.row, ht.stmtRow⟩
  · obtain rfl := Option.some.inj (hcolumns.symm.trans hc)
    exact List.length_replicate
  · rw [List.length_replicate]
    exact ht.first.trans_lt ht.pos

/-- The definition of a column: the next one is expected unless it was the last. -/
lemma column (h : o.Bounded n) {columns : List Column} (hc : o.resultColumns = some columns)
    (hi : o.currentColumn < columns.length) (c : Column) (hm : m ≤ 1)
    (hnext : 0 < m → uint16 (o.currentColumn + 1 : ℕ) ≠ o.columnCount) :
    Objects.Bounded { o with
      resultColumns := some (columns.set o.currentColumn c)
      currentColumn := uint16 (o.currentColumn + 1 : ℕ) } m := by
  have hlength := h.columns_length columns hc
  have hlt := h.columnCount_lt
  have hsucc : uint16 (o.currentColumn + 1 : ℕ) = o.currentColumn + 1 := uint16_of_lt (by omega)
  rw [hsucc] at hnext ⊢
  refine ⟨fun columns' hc' => ?_, hlt, hm, fun hpos => inside_iff.mpr ⟨_, rfl, ?_⟩, h.row, h.stmtRow⟩
  · obtain rfl := Option.some.inj hc'
    exact List.length_set.trans hlength
  · have hne := hnext hpos
    show o.currentColumn + 1 < (columns.set o.currentColumn c).length
    rw [List.length_set]
    omega

end Objects.Bounded

/-! ### Acts keep the arrays bounded -/

section Acts

variable {con con' : Con}

lemma columnsExpected_eq (con : Con) : con.columnsExpected = con.nextPacketQueue.count .column :=
  List.count_filter rfl

lemma Con.Passes.columnsExpected_le (h : con.Passes con') : con'.columnsExpected ≤ con.columnsExpected := by
  unfold Con.columnsExpected
  rcases h.definitions_eq with hq | hq
  · rw [hq]
  · rw [hq]
    exact Nat.zero_le _

lemma Con.Passes.bounded (h : con.Passes con') (hb : con.Bounded) : con'.Bounded := by
  unfold Con.Bounded
  rw [h.objects_eq]
  exact hb.fewer h.columnsExpected_le

lemma Con.Fills.bounded (h : con.Fills con') (hb : con.Bounded) (hr : HasRoom con.result.columnCount con'.row)
    (hs : HasRoom con.result.columnCount con'.stmtRow) : con'.Bounded := by
  have hn : con'.columnsExpected = con.columnsExpected := by
    rw [columnsExpected_eq, columnsExpected_eq, h.queue_eq]
  unfold Con.Bounded
  rw [h.objects_eq, hn]
  exact hb.refilled hr hs

/-- A command expects no definition of a column. -/
lemma Commanded.columnsExpected_le {cmd : Command} (h : Commanded cmd con con') :
    con'.columnsExpected ≤ con.columnsExpected := by
  obtain ⟨q, hq, hq'⟩ := h.queue_eq
  have hanswer : cmd.answer ≠ .column := by
    unfold Command.answer
    split_ifs
    · decide
    · decide
  have hcount : con'.nextPacketQueue.count .column = q.count .column := by
    rcases hq' with hq' | hq'
    · rw [hq']
    · rw [hq', List.count_cons_of_ne hanswer]
  rw [columnsExpected_eq, columnsExpected_eq, hcount]
  rcases hq with rfl | rfl
  · exact Nat.le_refl _
  · exact Nat.zero_le _

lemma Commanded.bounded {cmd : Command} (h : Commanded cmd con con') (hb : con.Bounded) : con'.Bounded := by
  have hobjects : con'.objects = { con.objects with currentColumn := 0 } := congrArg Data.objects h.data_eq
  unfold Con.Bounded
  rw [hobjects]
  exact hb.fromFirst.fewer h.columnsExpected_le

/-- The header that a reader of a packet found is the one that was to be read. -/
lemma nextHeader_of_holds {b : BufferSt} {seq : UInt8} {payload : List UInt8} {t : PacketType} {q : List PacketType}
    (h : con.Holds b seq payload) (hq : con.nextPacketQueue = t :: q) (ha : con.Accepts t seq)
    (ht : t = .response ∨ t = .prepareResponse)
    (hb : (packetReady con b t seq payload.length).peekByte 0 ∉ ([0x00, 0xff, 0xfe] : List UInt8)) :
    nextHeader con = some (headerCount (packetReady con b t seq payload.length)) := by
  have hbuf : con.buf = b := by
    unfold Con.buf
    rw [h.buffer]
    rfl
  unfold nextHeader
  rw [nextPacket_of_holds con h hq ha, hbuf]
  exact if_pos ⟨ht, hb⟩

lemma headerCount_lt (con : Con) : headerCount con < 2 ^ 16 := by
  unfold headerCount uint16
  omega

/-- **Reading a packet keeps the arrays bounded** when a header of a result that it is read as fits. -/
lemma Con.Reads.bounded {env : Env} {t : PacketType} (h : con.Reads env t con') (hb : con.Bounded)
    (hone : t = .column → con.columnsExpected = 0)
    (hfits : ∀ (_ : t = .response ∨ t = .prepareResponse) (_ : con.peekByte 0 ∉ ([0x00, 0xff, 0xfe] : List UInt8)),
      con.HeaderFits env (headerCount con)) : con'.Bounded := by
  unfold Con.Bounded
  cases h with
  | passes h => exact h.bounded hb
  | paramsEnd hs ho hq =>
    have hn : con'.columnsExpected = con.columnsExpected := by
      unfold Con.columnsExpected
      rcases hq with hq | hq
      · rw [hq]
      · rw [hq, List.count_cons_of_ne (by decide)]
    rw [ho, hn]
    exact hb
  | header ht hbyte ho hq hs =>
    have htakes := hfits ht hbyte
    rw [ho]
    refine .header htakes (headerCount_lt con) ?_
    have hnone : con.columnsExpected = 0 := by
      rw [columnsExpected_eq]
      exact List.count_eq_zero.mpr htakes.alone
    unfold Con.columnsExpected at hnone ⊢
    rcases hq with hq | hq
    · rw [hq, hnone]
      exact Nat.zero_le 1
    · rw [hq, List.count_cons_self, hnone]
  | column c ht hc hi ho hq hs =>
    have hnone := hone ht
    rw [ho]
    have hcurrent : con'.result.currentColumn = uint16 (con.result.currentColumn + 1 : ℕ) :=
      congrArg Objects.currentColumn ho
    unfold Con.columnsExpected at hnone ⊢
    rcases hq with hq | ⟨hq, hne⟩
    · rw [hq, hnone]
      exact hb.column hc hi c (Nat.zero_le 1) fun h => absurd h (Nat.lt_irrefl 0)
    · rw [hq, List.count_cons_self, hnone]
      refine hb.column hc hi c (Nat.le_refl 1) fun _ => ?_
      rwa [hcurrent] at hne
  | statement stmt' ht hs ho hq =>
    have hn : con'.columnsExpected = con.columnsExpected := by
      unfold Con.columnsExpected
      rcases hq with hq | ⟨u, hu, hq⟩
      · rw [hq]
      · have hne : u ≠ .column := by
          rintro rfl
          cases hu
        rw [hq, List.count_cons_of_ne hne]
    rw [ho, hn]
    exact hb.withStmt _

variable (env : Env)

lemma processPacket_bounded (hb : con.Bounded) (hf : Act.Fits con (.packet env)) : (processPacket env con).con.Bounded := by
  rcases processPacket_cases env con with h | ⟨b, seq, payload, t, q, hholds, hq, ha, hround⟩
  · exact h.passes.bounded hb
  · rw [hround]
    have hready : (packetReady con b t seq payload.length).nextPacketQueue = q :=
      (packetReady_nextPacketQueue con).trans (congrArg List.tail hq)
    have hcount : con.columnsExpected =
        (packetReady con b t seq payload.length).columnsExpected + if t = .column then 1 else 0 := by
      rw [columnsExpected_eq, columnsExpected_eq, hready, hq, List.count_cons]
      split_ifs with h₁ h₂ h₂
      · rfl
      · exact absurd (eq_of_beq h₁) h₂
      · exact absurd (beq_iff_eq.mpr h₂) h₁
      · rfl
    have hbounded : (packetReady con b t seq payload.length).Bounded := by
      unfold Con.Bounded
      rw [packetReady_objects]
      exact hb.fewer (by omega)
    refine (packetDispatch_reads env _ t).bounded hbounded (fun ht => ?_) fun ht hbyte => ?_
    · have hle := hb.expected_le
      rw [if_pos ht] at hcount
      omega
    · have htakes := hf _ (nextHeader_of_holds hholds hq ha ht hbyte)
      refine ⟨htakes.pos, htakes.made, htakes.first, fun hmem => htakes.alone ?_, htakes.row, htakes.stmtRow⟩
      rw [hready] at hmem
      rw [hq]
      exact List.mem_cons_of_mem t hmem

/-- A new row is as long as the result has columns. -/
lemma newRow_hasRoom (hb : con.Bounded) : HasRoom con.result.columnCount (newRow env con).row := by
  show HasRoom con.result.columnCount (if con.row.isNone ∧ env.newArray con.result.columnCount sizeofCell then
    some (List.replicate con.result.columnCount ⟨0, 0⟩) else con.row)
  split_ifs
  · exact (List.length_replicate).ge
  · exact hb.row

lemma newStmtRow_hasRoom (hb : con.Bounded) : HasRoom con.result.columnCount (newStmtRow env con).stmtRow := by
  show HasRoom con.result.columnCount (if con.stmtRow.isNone ∧ env.newArray con.result.columnCount sizeofStmtCell then
    some (List.replicate con.result.columnCount ⟨0, 0, columnTypeNull⟩) else con.stmtRow)
  split_ifs
  · exact (List.length_replicate).ge
  · exact hb.stmtRow

/-- A row that is filled in keeps its room. -/
lemma writeRow_hasRoom {row : List Cell} (h : con.result.columnCount ≤ row.length) (hr : con.row = some row) :
    HasRoom con.result.columnCount (writeRow con row).1.row := by
  unfold writeRow
  split_ifs
  · show HasRoom con.result.columnCount con.row
    rw [hr]
    exact h
  · show con.result.columnCount ≤ (con.rowCells ++ row.drop con.result.columnCount).length
    unfold Con.rowCells
    rw [List.length_append, length_readCells]
    exact Nat.le_add_right _ _

lemma writeRow_stmtRow (row : List Cell) : (writeRow con row).1.stmtRow = con.stmtRow := by
  unfold writeRow
  split_ifs
  · rfl
  · rfl

lemma queryRowGet_bounded (hb : con.Bounded) (error : ErrorPtr) : (queryRowGet env con error).1.Bounded := by
  have hnew := newRow_hasRoom env hb
  have hfills := queryRowGet_fills env con error
  rcases queryRowGet_cases env con error with h | ⟨-, h | ⟨row, hrow, h⟩⟩
  · rw [h]
    exact hb
  · rw [h] at hfills ⊢
    exact hfills.bounded hb hnew hb.stmtRow
  · rw [h] at hfills ⊢
    rw [hrow] at hnew
    refine hfills.bounded hb (writeRow_hasRoom hnew hrow) ?_
    rw [writeRow_stmtRow]
    exact hb.stmtRow

/-- A row of a statement that is filled in keeps its room. -/
lemma writeStmtRow_hasRoom {row : List StmtCell} (h : con.result.columnCount ≤ row.length)
    (hr : con.stmtRow = some row) (error : ErrorPtr) :
    HasRoom con.result.columnCount (writeStmtRow env con row error).1.stmtRow := by
  have hsame : HasRoom con.result.columnCount con.stmtRow := by
    rw [hr]
    exact h
  have hfilled : ∀ cells : List StmtCell, HasRoom con.result.columnCount (some (cells ++ row.drop cells.length)) :=
    fun cells => by
      show con.result.columnCount ≤ (cells ++ row.drop cells.length).length
      rw [List.length_append, List.length_drop]
      omega
  unfold writeStmtRow
  split
  · dsimp only
    split_ifs
    · exact hsame
    · exact hfilled _
    · exact hfilled _
  · exact hsame

lemma writeStmtRow_row (row : List StmtCell) (error : ErrorPtr) :
    (writeStmtRow env con row error).1.row = con.row := by
  unfold writeStmtRow
  split
  · dsimp only
    split_ifs
    · rfl
    · rfl
    · rfl
  · rfl

lemma statementRowGet_bounded (hb : con.Bounded) (error : ErrorPtr) : (statementRowGet env con error).1.Bounded := by
  have hnew := newStmtRow_hasRoom env hb
  have hfills := newStmtRow_fills env con
  have hbounded := hfills.bounded hb hb.row hnew
  rw [statementRowGet_eq]
  cases hs : (newStmtRow env con).stmtRow with
  | none => exact hbounded
  | some row =>
    rw [hs] at hnew
    refine (writeStmtRow_fills env _ row error).bounded hbounded ?_
      (@writeStmtRow_hasRoom (newStmtRow env con) env row hnew hs error)
    rw [writeStmtRow_row]
    exact hbounded.row

lemma queryBufferRowGet_bounded (hb : con.Bounded) (hf : Act.Fits con .bufferRowGet) :
    (queryBufferRowGet con).1.Bounded := by
  have hfills := queryBufferRowGet_fills con
  unfold queryBufferRowGet at hfills ⊢
  split_ifs at hfills ⊢ with h
  · exact hb
  · exact hfills.bounded hb (hf (by omega)) hb.stmtRow

lemma queryColumnGet_bounded (hb : con.Bounded) (column : ℕ) : (queryColumnGet con column).1.Bounded := by
  have hrow : (queryColumnGet con column).1.row = con.row ∧ (queryColumnGet con column).1.stmtRow = con.stmtRow := by
    unfold queryColumnGet queryColumns
    split_ifs
    · exact ⟨rfl, rfl⟩
    · dsimp only
      split
      · exact ⟨rfl, rfl⟩
      · exact ⟨rfl, rfl⟩
      · exact ⟨rfl, rfl⟩
  refine (queryColumnGet_fills con column).bounded hb ?_ ?_
  · rw [hrow.1]
    exact hb.row
  · rw [hrow.2]
    exact hb.stmtRow

/-- A statement that is prepared starts from the first column. -/
lemma prepareNow_bounded (hb : con.Bounded) (statement : List UInt8) : (prepareNow env con statement).Bounded := by
  rcases prepareNow_cases env con statement with ⟨-, hc⟩ | ⟨-, ho, hq, -⟩
  · have hnew : ({ con with stmt := some Stmt.fresh } : Con).Bounded := hb.withStmt (some Stmt.fresh)
    exact hc.bounded hnew
  · have hn : (prepareNow env con statement).columnsExpected = con.columnsExpected := by
      rw [columnsExpected_eq, columnsExpected_eq, hq]
    unfold Con.Bounded
    rw [ho, hn]
    exact hb.withStmt none

lemma statementClose_bounded (hb : con.Bounded) (hf : Act.Fits con (.closeStatement env)) :
    (statementClose env con).Bounded := by
  rcases statementClose_cases env con with ⟨-, ho, hq, -⟩ | ⟨hsome, con₁, ho, hq, hc⟩
  · have hn : (statementClose env con).columnsExpected = con.columnsExpected := by
      rw [columnsExpected_eq, columnsExpected_eq, hq]
    unfold Con.Bounded
    rw [ho, hn]
    exact hb.refilled hb.row trivial
  · have hnone : con.columnsExpected = 0 := by
      rw [columnsExpected_eq]
      exact List.count_eq_zero.mpr (hf hsome)
    have hn : con₁.columnsExpected = con.columnsExpected := by
      rw [columnsExpected_eq, columnsExpected_eq, hq]
    have hclosed : con₁.Bounded := by
      unfold Con.Bounded
      rw [ho, hn]
      have hbare := (@Objects.Bounded.refilled _ _ (hb.withStmt none) con.columns con.row none hb.row trivial).freed hnone
      exact hbare
    exact hc.bounded hclosed

lemma queryClose_objects (con : Con) :
    (queryClose con).objects = { con.objects with columns := none, row := none, resultColumns := none } := rfl

lemma queryClose_nextPacketQueue (con : Con) : (queryClose con).nextPacketQueue = con.nextPacketQueue := rfl

lemma queryClose_bounded (hb : con.Bounded) (hf : Act.Fits con .closeQuery) : (queryClose con).Bounded := by
  have hnone : con.columnsExpected = 0 := by
    rw [columnsExpected_eq]
    exact List.count_eq_zero.mpr hf
  have hn : (queryClose con).columnsExpected = con.columnsExpected := by
    rw [columnsExpected_eq, columnsExpected_eq, queryClose_nextPacketQueue]
  unfold Con.Bounded
  rw [queryClose_objects, hn]
  have hbare := (@Objects.Bounded.refilled _ _ hb none none con.stmtRow trivial hb.stmtRow).freed hnone
  exact hbare

end Acts

namespace Act

variable {con : Con} {a : Act}

/-- **One act.** -/
theorem bounded (hb : con.Bounded) (hl : a.Legal con) (hf : a.Fits con) : (a.apply con).Bounded := by
  cases a with
  | rest con' => exact hl.passes.bounded hb
  | setOption capabilities => exact hb
  | packet env => exact processPacket_bounded env hb hf
  | alloc env n => exact (onAlloc_passes env con n).bounded hb
  | read bytes => exact (readInto_passes con bytes).bounded hb
  | decompress env => exact (decompress_passes env con).bounded hb
  | greet env => exact (push_passes env con rfl).bounded hb
  | command env cmd data => exact (commandSend_commanded env con data).bounded hb
  | requestRow env => exact (requestRow_passes env con).bounded hb
  | nextResult env =>
    rcases commandNextResult_cases env con with h | ⟨hd, hq, -⟩
    · show (commandNextResult env con).1.Bounded
      rw [h]
      exact hb
    · have ho : (commandNextResult env con).1.objects = { con.objects with currentColumn := 0 } :=
        congrArg Data.objects hd
      show (commandNextResult env con).1.objects.Bounded (commandNextResult env con).1.columnsExpected
      unfold Con.columnsExpected
      rw [ho, hq]
      exact hb.fromFirst
  | prepare env statement => exact prepareNow_bounded env hb statement
  | closeStatement env => exact statementClose_bounded env hb hf
  | editStmt f => exact hb.withStmt (con.stmt.map f)
  | commandFree => exact hb.freed ((columnsExpected_eq con).trans (List.count_eq_zero.mpr hf))
  | closeQuery => exact queryClose_bounded hb hf
  | bufferRows enable =>
    show (queryBufferRows con enable).1.Bounded
    unfold queryBufferRows
    split_ifs
    · exact hb
    · exact hb
  | keepRow env => exact (keepRow_passes env con).bounded hb
  | rowGet env error => exact queryRowGet_bounded env hb error
  | bufferRowGet => exact queryBufferRowGet_bounded hb hf
  | columnGet column => exact queryColumnGet_bounded hb column
  | stmtRowGet env error => exact statementRowGet_bounded env hb error

/-- **Bounded arrays are written inside.** -/
theorem inBounds (hb : con.Bounded) : a.InBounds con := by
  have hroom : ∀ {α : Type} {arr : Option (List α)}, HasRoom con.result.columnCount arr → arr.isSome = true →
      ∀ column < con.result.columnCount, Inside column (arr.map List.length) := fun {α arr} hr hs column hlt => by
    obtain ⟨l, rfl⟩ := Option.isSome_iff_exists.mp hs
    exact lt_of_lt_of_le hlt hr
  cases a with
  | packet env =>
    intro hhead
    refine hb.current ?_
    rw [columnsExpected_eq]
    exact List.count_pos_iff.mpr (List.mem_of_head? hhead)
  | rowGet env error => exact fun _ _ => hroom (newRow_hasRoom env hb)
  | stmtRowGet env error => exact hroom (newStmtRow_hasRoom env hb)
  | columnGet column =>
    intro hnone
    refine hroom ?_
    unfold queryColumns
    rw [hnone]
    cases hc : con.result.columns with
    | none =>
      dsimp only
      show HasRoom _ con.columns
      rw [hnone]
      trivial
    | some columns =>
      have hlength := hb.columns_length columns hc
      show con.result.columnCount ≤ (columns.map queryColumn).length
      rw [List.length_map]
      exact hlength.ge
  | _ => exact trivial

end Act

lemma initial_bounded {con : Con} (h : Initial con) : con.Bounded := by
  cases h with
  | made => exact ⟨nofun, Nat.two_pow_pos 16, Nat.zero_le 1, fun h => absurd h (Nat.lt_irrefl 0), trivial, trivial⟩

/-- **Every write to an array of a result is inside it**, in every run whose steps fit. -/
theorem writes_in_bounds {con : Con} (h : Initial con) (as : List Act) (hl : Along Act.apply Act.Legal con as)
    (hf : Along Act.apply Act.Fits con as) : Along Act.apply Act.InBounds con as := by
  have hstep : ∀ con a, Con.Bounded con → Act.Legal con a ∧ Act.Fits con a → Con.Bounded (Act.apply con a) :=
    fun con a hb ha => Act.bounded hb ha.1 ha.2
  exact along_of_invariant hstep (fun con a hb _ => Act.inBounds hb) (initial_bounded h) (hl.and hf)

/-- A connection that has been opened sends a query and reads these bytes in answer, of so many packets. -/
def answered (bytes : List UInt8) (packets : ℕ) : List Act :=
  [.rest { Con.calm 0 with stream := true, uv := .reading, status := .idle }, .command .calm .query [0x53],
    .alloc .calm 65536, .read bytes] ++ List.replicate packets (.packet .calm)

lemma packets_legal (con : Con) (n : ℕ) : Along Act.apply Act.Legal con (List.replicate n (.packet .calm)) := by
  induction n generalizing con with
  | zero => exact trivial
  | succ n ih => exact ⟨trivial, ih _⟩

lemma answered_legal (bytes : List UInt8) (packets : ℕ) :
    Along Act.apply Act.Legal (Con.calm 0) (answered bytes packets) :=
  (along_append _ _ _).mpr
    ⟨⟨.same rfl rfl rfl (.same rfl rfl), Command.noConfusion, trivial, trivial, trivial⟩, packets_legal _ packets⟩

/-- A result of one column, the first row of it, the row as an array, and the column. -/
def oneColumn : List Act :=
  answered (resultHead ++ frame 4 [1, 0x61]) 4 ++ [.rowGet .calm (.at none), .columnGet 1]

theorem writes_in_bounds_oneColumn : Along Act.apply Act.InBounds (Con.calm 0) oneColumn := by
  have hl : Along Act.apply Act.Legal (Con.calm 0) oneColumn :=
    (along_append _ _ _).mpr ⟨answered_legal _ 4, trivial, trivial, trivial⟩
  have hf : Along Act.apply Act.Fits (Con.calm 0) oneColumn := by decide +kernel
  exact writes_in_bounds (Con.calm_initial 0) oneColumn hl hf

/-- The definition of a column. -/
def columnPacket (seq : UInt8) : List UInt8 :=
  frame seq ([3, 0x64, 0x65, 0x66, 0, 0, 0, 1, 0x61, 0, 12, 8, 0, 1] ++ List.replicate 9 0)

/-- The header of a result of 65536 columns, and the definition of one. -/
def tooManyColumns : List Act := answered (frame 1 [0xfd, 0, 0, 1] ++ columnPacket 2) 2

/-- A row of a result of one column is kept while a further result of two columns and its first row are read. -/
def keptRow : List Act :=
  answered (resultHead ++ frame 4 [1, 0x61]) 4 ++
    ([.rowGet .calm (.at none), .requestRow .calm, .read (eofPacket 5 8), .packet .calm, .nextResult .calm,
      .read (frame 6 [2] ++ columnPacket 7 ++ columnPacket 8 ++ eofPacket 9 2 ++ frame 10 [1, 0x61, 1, 0x62])] ++
      (List.replicate 5 (.packet .calm) ++ [.rowGet .calm (.at none)]))

/-- The definition of the first of 65536 columns is stored in an array of no columns, and the row of a further result with
more columns in the array for the row of the first. -/
theorem writes_out_of_bounds :
    (Along Act.apply Act.Legal (Con.calm 0) tooManyColumns ∧
        ¬ Along Act.apply Act.InBounds (Con.calm 0) tooManyColumns) ∧
      Along Act.apply Act.Legal (Con.calm 0) keptRow ∧ ¬ Along Act.apply Act.InBounds (Con.calm 0) keptRow := by
  have hkept : Along Act.apply Act.Legal (Con.calm 0) keptRow := by
    refine (along_append _ _ _).mpr ⟨answered_legal _ 4, (along_append _ _ _).mpr ⟨?_, (along_append _ _ _).mpr ⟨?_, ?_⟩⟩⟩
    · exact ⟨trivial, trivial, trivial, trivial, trivial, trivial, trivial⟩
    · exact packets_legal _ 5
    · exact ⟨trivial, trivial⟩
  refine ⟨⟨answered_legal _ 2, ?_⟩, hkept, ?_⟩
  · decide +kernel
  · decide +kernel

end LibAttachSql
