import LibAttachSql.PrepareRun
import LibAttachSql.Query

/-!
# The columns of a result

The definitions of the columns of a result arrive one after the other.  `attachsql_packet_read_column` stores each of them in
its place of `con->result.columns`, and `attachsql_query_column_get` copies the records, member by member, into an array for
the application.  This module follows the definitions through both steps.  The copy leaves out two members: the name of the
column and its original name.
-/

namespace LibAttachSql

open Lib

/-! ### What is to be shown -/

/-- `attachsql_query_column_st` with all its members.  The array is made by `new`, which sets none of them: `none` stands for
a pointer that was never set. -/
structure ReportedColumn extends QueryColumn where
  column : Option (List UInt8)
  originColumn : Option (List UInt8)

/-- What `attachsql_query_column_get` points to, columns being counted from 1. -/
def queryColumnReport (con : Con) (column : ℕ) : Option ReportedColumn :=
  (queryColumnGet con column).2.map fun c => { c with column := none, originColumn := none }

/-- The members that are copied report a definition. -/
structure QueryColumn.Shows (c : QueryColumn) (d : Definition) : Prop where
  schema : c.schema = d.schema.take (maxSchemaSize - 1)
  table : c.table = d.table.take (maxTableSize - 1)
  originTable : c.originTable = d.originTable.take (maxTableSize - 1)
  charset : c.charset = d.charset.toNat
  length : c.length = d.length.toNat
  type : c.type = d.type
  flags : c.flags = d.flags.toNat
  decimals : c.decimals = d.decimals

/-- All members report a definition. -/
structure ReportedColumn.Shows (c : ReportedColumn) (d : Definition) : Prop where
  copied : c.toQueryColumn.Shows d
  column : c.column = some (d.column.take (maxColumnSize - 1))
  originColumn : c.originColumn = some (d.originColumn.take (maxColumnSize - 1))

namespace Con

/-- The record of column `i` holds its definition. -/
def StoresColumn (con : Con) (i : ℕ) (d : Definition) : Prop :=
  ∃ c ∈ con.result.columns.bind (·[i]?), c.Holds d

/-- The definition of column `i`, from 0 on, is reported. -/
def ReportsColumn (con : Con) (i : ℕ) (d : Definition) : Prop :=
  ∃ c ∈ queryColumnReport con (i + 1), c.Shows d

/-- The header of a result of `n` columns was read: the array for them is there, whatever it contains, and the first of them
comes next. -/
structure AwaitsColumns (con : Con) (n : ℕ) : Prop where
  columns : ∃ columns, con.result.columns = some columns ∧ columns.length = n
  count : con.result.columnCount = n
  current : con.result.currentColumn = 0
  lt : n < 2 ^ 16

/-- Between two packets, and after the last, the columns stay; all else may change. -/
structure KeepsColumns (con con' : Con) : Prop where
  columns_eq : con'.result.columns = con.result.columns
  count_eq : con'.result.columnCount = con.result.columnCount
  current_eq : con'.result.currentColumn = con.result.currentColumn
  reported_eq : con'.columns = con.columns

end Con

/-- The packet that arrives finds the columns as they were left, and is expected to define one. -/
structure Arrival.DefinesNext (con : Con) (a : Arrival) : Prop where
  keeps : con.KeepsColumns a.con
  expected : a.con.nextPacketQueue.head? = some .column

/-- The packet that arrives is a definition. -/
def Arrival.Defines (a : Arrival) (d : Definition) : Prop := a.con.Bears d.payload

instance (a : Arrival) (d : Definition) : Decidable (a.Defines d) := inferInstanceAs (Decidable (a.con.Bears d.payload))

/-- **The metadata of a result end to end**: each of the packets is consumed up to its end, each definition is stored and
each is reported. -/
structure MetadataShown (con : Con) (as : List Arrival) (ds : List Definition) (last : Con) : Prop where
  consumed : Along arrive Arrival.Consumed con as
  stored : ∀ i, ∀ d ∈ ds[i]?, last.StoresColumn i d
  reported : ∀ i, ∀ d ∈ ds[i]?, last.ReportsColumn i d

/-! ### The header -/

/-- Where the columns start: `attachsql_packet_read_response` has read the number of columns. -/
lemma packetReadHeader_awaitsColumns (env : Env) {con : Con} {n : ℕ}
    (hn : uint16 (unpackLength con.buf.mem con.buf.bufferReadPtr).length = n) (hmem : env.newArray n sizeofColumn = true)
    (hcurrent : con.result.currentColumn = 0) : (packetReadHeader env con).AwaitsColumns n := by
  have hresult : (packetReadHeader env con).result =
      { con.result with columnCount := n, columns := some (List.replicate n (default : Column)) } := by
    unfold packetReadHeader
    dsimp only
    rw [hn, if_pos hmem]
    exact packetQueuePush_result env _ .column
  refine ⟨⟨_, by rw [hresult], List.length_replicate⟩, by rw [hresult], by rw [hresult]; exact hcurrent, ?_⟩
  rw [← hn]
  exact Nat.mod_lt _ (Nat.two_pow_pos 16)

/-! ### One definition -/

section Run

variable {con last : Con} {a : Arrival} {as : List Arrival} {d : Definition} {ds : List Definition} {k : ℕ}

/-- The first `k` definitions were read: those whose lengths are kept are stored. -/
structure Con.ReadsColumns (con : Con) (ds : List Definition) (k : ℕ) : Prop where
  columns : ∃ columns, con.result.columns = some columns ∧ columns.length = ds.length
  count : con.result.columnCount = ds.length
  current : con.result.currentColumn = k
  stored : ∀ i < k, ∀ d ∈ ds[i]?, d.Kept → con.StoresColumn i d

lemma Con.ReadsColumns.keeps (h : con.ReadsColumns ds k) (hk : con.KeepsColumns last) : last.ReadsColumns ds k := by
  refine ⟨?_, hk.count_eq.trans h.count, hk.current_eq.trans h.current, fun i hi d hd hkept => ?_⟩
  · rw [hk.columns_eq]
    exact h.columns
  · unfold StoresColumn
    rw [hk.columns_eq]
    exact h.stored i hi d hd hkept

/-- What the reader of a definition does to the columns. -/
lemma packetReadColumn_result (env : Env) {columns : List Column} (hc : con.result.columns = some columns) {column : Column}
    (hcolumn : columns[con.result.currentColumn]? = some column) :
    (packetReadColumn env con).readBuffer = con.readBuffer.map BufferSt.packetReadEnd ∧
      (packetReadColumn env con).columns = con.columns ∧
      (packetReadColumn env con).result = { con.result with
        columns := some (columns.set con.result.currentColumn (packetGetColumn con column))
        currentColumn := uint16 (con.result.currentColumn + 1 : ℕ) } := by
  have hbind : con.result.columns.bind (·[con.result.currentColumn]?) = some column := by
    rw [hc]
    exact hcolumn
  have hread : (columnRead con (packetGetColumn con column)).result = { con.result with
      columns := con.result.columns.map (·.set con.result.currentColumn (packetGetColumn con column))
      currentColumn := uint16 (con.result.currentColumn + 1 : ℕ) } := rfl
  rw [hc, Option.map_some] at hread
  obtain ⟨queue, size, bytes, trace, hpush⟩ := packetQueuePush_frame env (columnRead con (packetGetColumn con column))
    (if (columnRead con (packetGetColumn con column)).result.currentColumn = con.result.columnCount then .response
      else .column)
  rw [packetReadColumn_of_some env con hbind, hpush]
  exact ⟨rfl, rfl, hread⟩

/-- **One definition arrives**: its packet is consumed, and it is stored unless a length leads astray. -/
lemma definition_arrives (hr : con.ReadsColumns ds k) (hw : Arrival.DefinesNext con a) (hb : a.Defines d)
    (hd : d ∈ ds[k]?) (hlt : ds.length < 2 ^ 16) :
    a.Consumed con ∧ (arrive con a).ReadsColumns ds (k + 1) ∧ (arrive con a).columns = con.columns := by
  obtain ⟨columns, hcolumns, hlength⟩ := hr.columns
  obtain ⟨hk, -⟩ := List.getElem?_eq_some_iff.mp hd
  obtain ⟨q, hq⟩ : ∃ q, a.con.nextPacketQueue = .column :: q := by
    have hhead := hw.expected
    rw [List.head?_eq_some_iff] at hhead
    exact hhead
  obtain ⟨hpayload, hspace⟩ := Con.Bears.opened hb .column
  generalize ho : a.opened .column d.payload = con₁ at hpayload hspace
  have hresult : con₁.result = a.con.result := by rw [← ho]; rfl
  have hc : con₁.result.columns = some columns := by rw [hresult, hw.keeps.columns_eq, hcolumns]
  have hcurrent : con₁.result.currentColumn = k := by rw [hresult, hw.keeps.current_eq, hr.current]
  have hcolumn : columns[con₁.result.currentColumn]? = some columns[k] := by
    rw [hcurrent]
    exact List.getElem?_eq_getElem (by omega)
  obtain ⟨hbuffer, hreported, hafter⟩ := packetReadColumn_result a.env hc hcolumn
  have hnext : uint16 (k + 1 : ℕ) = k + 1 := Nat.mod_eq_of_lt (by omega)
  rw [hcurrent, hnext] at hafter
  obtain ⟨hconsumed, he⟩ : a.Consumed con ∧ arrive con a = (packetDispatch a.env (a.opened .column d.payload) .column).con :=
    Arrival.step hb hq rfl (by rw [ho]; exact hbuffer)
  rw [ho] at he
  have hdispatch : (packetDispatch a.env con₁ .column).con = packetReadColumn a.env con₁ := rfl
  rw [he, hdispatch]
  have hcount : con₁.result.columnCount = ds.length := by rw [hresult, hw.keeps.count_eq, hr.count]
  refine ⟨hconsumed, ⟨⟨_, by rw [hafter], by rw [List.length_set, hlength]⟩, by rw [hafter, hcount], by rw [hafter], ?_⟩, ?_⟩
  · intro i hi d' hd' hkept
    unfold Con.StoresColumn
    rw [hafter]
    by_cases hik : i = k
    · subst hik
      rw [Option.mem_unique hd' hd] at hkept ⊢
      exact ⟨_, List.getElem?_set_self (by omega), packetGetColumn_holds columns[i] hpayload hkept hspace⟩
    · obtain ⟨c, hmem, hholds⟩ := hr.stored i (by omega) d' hd' hkept
      rw [hcolumns] at hmem
      exact ⟨c, (List.getElem?_set_ne (Ne.symm hik)).trans hmem, hholds⟩
  · rw [hreported, ← ho]
    exact hw.keeps.reported_eq

/-- **All of them arrive.** -/
lemma definitions_arrive (hlt : ds.length < 2 ^ 16) {rest : List Definition} (hrest : ds.drop k = rest)
    (hr : con.ReadsColumns ds k) (hb : List.Forall₂ Arrival.Defines as rest) (hw : Along arrive Arrival.DefinesNext con as) :
    Along arrive Arrival.Consumed con as ∧ (run arrive con as).ReadsColumns ds (k + rest.length) ∧
      (run arrive con as).columns = con.columns := by
  induction hb generalizing con k with
  | nil => exact ⟨trivial, hr, rfl⟩
  | @cons a d as rest hd _ ih =>
    have hget : d ∈ ds[k]? := by
      have hhead := congrArg (·[0]?) hrest
      simpa using hhead
    have htail : ds.drop (k + 1) = rest := by
      rw [← List.tail_drop, hrest]
      rfl
    obtain ⟨hconsumed, hread, hreported⟩ := definition_arrives hr hw.1 hd hget hlt
    obtain ⟨hall, hlast, hkept⟩ := ih htail hread hw.2
    refine ⟨⟨hconsumed, hall⟩, ?_, hkept.trans hreported⟩
    rw [List.length_cons, Nat.add_comm rest.length 1, ← Nat.add_assoc]
    exact hlast

/-! ### The report -/

/-- The names of a column are never reported. -/
lemma not_reportsColumn (con : Con) (i : ℕ) (d : Definition) : ¬ con.ReportsColumn i d := by
  rintro ⟨c, hc, hshows⟩
  obtain ⟨q, -, rfl⟩ := Option.map_eq_some_iff.mp hc
  cases hshows.column

/-- The copied members of a record that holds a definition report it. -/
lemma queryColumn_shows {c : Column} (h : c.Holds d) : (queryColumn c).Shows d :=
  ⟨h.schema, h.table, h.originTable, h.charset, h.length, h.type, h.flags, h.decimals⟩

/-- What the first call of `attachsql_query_column_get` copies. -/
lemma queryColumnReport_of_stored {i : ℕ} (hnone : con.columns = none) (hi : i < con.result.columnCount)
    (h : con.StoresColumn i d) : ∃ c ∈ queryColumnReport con (i + 1), c.toQueryColumn.Shows d := by
  obtain ⟨c, hc, hholds⟩ := h
  obtain ⟨columns, hcolumns, hget⟩ := Option.bind_eq_some_iff.mp hc
  have hcopy : (queryColumns con).columns = some (columns.map queryColumn) := by
    unfold queryColumns
    rw [hnone, hcolumns]
  have hreport : (queryColumnGet con (i + 1)).2 = some (queryColumn c) := by
    unfold queryColumnGet
    rw [if_neg (by omega)]
    dsimp only
    rw [hcopy, Option.bind_some, Nat.add_sub_cancel, List.getElem?_map, hget, Option.map_some]
  exact ⟨_, by unfold queryColumnReport; rw [hreport]; rfl, queryColumn_shows hholds⟩

/-- **Column metadata.**  The definitions of the columns of a result arrive, one packet each; then each packet is consumed up
to its end, each definition whose lengths are kept is stored and reported but for its names, and none is reported with them:
the metadata is all there only for a result without columns. -/
theorem column_metadata (hstart : con.AwaitsColumns ds.length) (hb : List.Forall₂ Arrival.Defines as ds)
    (hw : Along arrive Arrival.DefinesNext con as) (hlast : (run arrive con as).KeepsColumns last) :
    Along arrive Arrival.Consumed con as ∧
      (∀ i, ∀ d ∈ ds[i]?, d.Kept → last.StoresColumn i d ∧
        (con.columns = none → ∃ c ∈ queryColumnReport last (i + 1), c.toQueryColumn.Shows d)) ∧
      (MetadataShown con as ds last ↔ ds = []) := by
  have hbegin : con.ReadsColumns ds 0 :=
    ⟨hstart.columns, hstart.count, hstart.current, fun i hi => absurd hi (Nat.not_lt_zero i)⟩
  obtain ⟨hconsumed, hread, hreported⟩ := definitions_arrive hstart.lt rfl hbegin hb hw
  rw [Nat.zero_add] at hread
  have hall := hread.keeps hlast
  refine ⟨hconsumed, fun i d hd hkept => ?_, fun h => ?_, ?_⟩
  · obtain ⟨hi, -⟩ := List.getElem?_eq_some_iff.mp hd
    have hstored := hall.stored i hi d hd hkept
    refine ⟨hstored, fun hnone => queryColumnReport_of_stored ?_ (by rw [hall.count]; exact hi) hstored⟩
    rw [hlast.reported_eq, hreported, hnone]
  · cases ds with
    | nil => rfl
    | cons d ds => exact absurd (h.reported 0 d rfl) (not_reportsColumn last 0 d)
  · rintro rfl
    refine ⟨hconsumed, fun i d hd => ?_, fun i d hd => ?_⟩
    · cases hd
    · cases hd

end Run

/-! ### A result of two columns -/

/-- `id`, and `name AS n`. -/
def twoColumns : List Definition :=
  [⟨[0x64, 0x65, 0x66], [0x64, 0x62], [0x74], [0x74], [0x69, 0x64], [0x69, 0x64], 63, 11, 3, 0x4003, 0⟩,
    ⟨[0x64, 0x65, 0x66], [0x64, 0x62], [0x74], [0x74], [0x6e], [0x6e, 0x61, 0x6d, 0x65], 33, 60, 0xfd, 0, 0⟩]

/-- A connection that has read the header of a result. -/
def awaitingColumns (n : ℕ) : Con :=
  { Con.calm 0 with
    status := .busy
    commandStatus := .readColumn
    result.columnCount := n
    result.columns := some (List.replicate n default)
    nextPacketQueue := [.column]
    nextPacketQueueSize := 1
    nextPacketQueueBytes := 4 }

/-- The arrivals of definitions, read at once. -/
def definitionArrivals (ds : List Definition) : List Arrival :=
  buffered .calm ds.length (readInto (onAlloc .calm (awaitingColumns ds.length) 65536).1
    (ds.zipIdx.flatMap fun p => frame (UInt8.ofNat (p.2 + 2)) p.1.payload))

lemma twoColumns_arrive : List.Forall₂ Arrival.Defines (definitionArrivals twoColumns) twoColumns ∧
    Along arrive Arrival.DefinesNext (awaitingColumns 2) (definitionArrivals twoColumns) :=
  ⟨by decide +kernel, ⟨⟨rfl, rfl, rfl, rfl⟩, rfl⟩, ⟨⟨rfl, rfl, rfl, rfl⟩, by decide +kernel⟩, trivial⟩

lemma awaitingColumns_awaits {n : ℕ} (hn : n < 2 ^ 16) : (awaitingColumns n).AwaitsColumns n :=
  ⟨⟨_, rfl, List.length_replicate⟩, rfl, rfl, hn⟩

/-- They are stored and reported, but for their names. -/
theorem column_metadata_two :
    Along arrive Arrival.Consumed (awaitingColumns 2) (definitionArrivals twoColumns) ∧
      (∀ i, ∀ d ∈ twoColumns[i]?, d.Kept →
        (run arrive (awaitingColumns 2) (definitionArrivals twoColumns)).StoresColumn i d ∧
          ((awaitingColumns 2).columns = none →
            ∃ c ∈ queryColumnReport (run arrive (awaitingColumns 2) (definitionArrivals twoColumns)) (i + 1),
              c.toQueryColumn.Shows d)) ∧
      (MetadataShown (awaitingColumns 2) (definitionArrivals twoColumns) twoColumns
        (run arrive (awaitingColumns 2) (definitionArrivals twoColumns)) ↔ twoColumns = []) :=
  column_metadata (awaitingColumns_awaits (by decide)) twoColumns_arrive.1 twoColumns_arrive.2 ⟨rfl, rfl, rfl, rfl⟩

/-- The name of the first column is not reported, though it was stored. -/
theorem column_metadata_names :
    (∀ d ∈ twoColumns, d.Kept) ∧ (awaitingColumns 2).AwaitsColumns 2 ∧
      List.Forall₂ Arrival.Defines (definitionArrivals twoColumns) twoColumns ∧
      Along arrive Arrival.DefinesNext (awaitingColumns 2) (definitionArrivals twoColumns) ∧
      (queryColumnReport (run arrive (awaitingColumns 2) (definitionArrivals twoColumns)) 1).map ReportedColumn.column =
        some none ∧
      ¬ MetadataShown (awaitingColumns 2) (definitionArrivals twoColumns) twoColumns
        (run arrive (awaitingColumns 2) (definitionArrivals twoColumns)) :=
  ⟨by decide, awaitingColumns_awaits (by decide), twoColumns_arrive.1, twoColumns_arrive.2, by decide +kernel,
    fun h => not_reportsColumn _ 0 _ (h.reported 0 _ rfl)⟩

end LibAttachSql
