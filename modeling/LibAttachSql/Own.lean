import LibAttachSql.Lib.Heap

/-!
# The heap objects of a connection

The pointers of a connection to what it allocates for a query: the expanded query, the column and row descriptions
handed to the application, the array of buffered rows with its rows, the columns of a result, and the row of a
statement.  A null pointer is `none`; a pointer that was released and not set to null keeps its number.  The contents of
the objects are in other fields of the connection.
-/

namespace LibAttachSql

open Lib

/-- The pointers of a connection.  `rows` are the entries of `row_buffer` up to `row_buffer_count`, and `queryBuffer` is
null also while `query_buffer` points to memory of the application. -/
structure Own where
  heap : Heap
  queryBuffer : Option ℕ
  columns : Option ℕ
  row : Option ℕ
  rowBuffer : Option ℕ
  rows : List ℕ
  resultColumns : Option ℕ
  stmtRow : Option ℕ
  deriving DecidableEq

namespace Own

/-- What the constructor of a connection makes: null pointers. -/
def fresh : Own :=
  { heap := .empty, queryBuffer := none, columns := none, row := none, rowBuffer := none, rows := []
    resultColumns := none, stmtRow := none }

variable (o : Own)

/-- Objects are read or written. -/
def use (ps : List ℕ) : Own := { o with heap := o.heap.useAll ps }

/-- Objects are released; a null pointer is no object. -/
def release (ps : List ℕ) : Own := { o with heap := o.heap.releaseAll ps }

/-- `row_buffer` was released and not set to null. -/
def stale : Bool := o.rowBuffer.any fun i => !o.heap.isLive i

/-- `row` is one of the buffered rows. -/
def rowShared : Bool := o.row.any fun i => i ∈ o.rows

/-! ### The query buffer -/

/-- `query_buffer= new char[n]`. -/
def newQueryBuffer : Own := { o with heap := o.heap.alloc, queryBuffer := some o.heap.next }

/-- `query_buffer` is set to memory of the application. -/
def dropQueryBuffer : Own := { o with queryBuffer := none }

/-- `query_buffer` is sent. -/
def useQueryBuffer : Own := o.use o.queryBuffer.toList

/-! ### Columns and rows -/

/-- `result.columns= new (std::nothrow) column_t[n]`. -/
def newResultColumns (ok : Bool) : Own :=
  if ok then { o with heap := o.heap.alloc, resultColumns := some o.heap.next } else { o with resultColumns := none }

/-- A column of `result.columns` is read or written. -/
def useResultColumns : Own := o.use o.resultColumns.toList

/-- `attachsql_command_free`. -/
def freeResultColumns : Own := { o.release o.resultColumns.toList with resultColumns := none }

/-- `columns` is made when it is null, from `result.columns`. -/
def getColumns : Own :=
  if o.columns.isNone then { o.useResultColumns with heap := o.useResultColumns.heap.alloc, columns := some o.heap.next }
  else o

/-- `row` is made when it is null. -/
def newRow (ok : Bool) : Own :=
  if o.row.isNone ∧ ok then { o with heap := o.heap.alloc, row := some o.heap.next } else o

/-- `row` is written. -/
def useRow : Own := o.use o.row.toList

/-- `stmt_row` is made when it is null. -/
def newStmtRow (ok : Bool) : Own :=
  if o.stmtRow.isNone ∧ ok then { o with heap := o.heap.alloc, stmtRow := some o.heap.next } else o

/-- `stmt_row` is written, by the columns of the result. -/
def useStmtRow : Own := o.use (o.resultColumns.toList ++ o.stmtRow.toList)

/-- `stmt_row` is read. -/
def readStmtRow : Own := o.use o.stmtRow.toList

/-- `stmt_row` is released. -/
def freeStmtRow : Own := { o.release o.stmtRow.toList with stmtRow := none }

/-! ### Buffered rows -/

/-- `realloc` of `row_buffer`: when it succeeds, the old array is gone. -/
def growRowBuffer (ok : Bool) : Own :=
  if ok then
    let o' := o.release o.rowBuffer.toList
    { o' with heap := o'.heap.alloc, rowBuffer := some o'.heap.next }
  else o.use o.rowBuffer.toList

/-- A row is made and stored in `row_buffer`. -/
def newBufferedRow : Own :=
  { o.use o.rowBuffer.toList with
    heap := (o.use o.rowBuffer.toList).heap.alloc, rows := o.rows ++ [o.heap.next] }

/-- An entry of `row_buffer` is read. -/
def useRowBuffer : Own := o.use o.rowBuffer.toList

/-- `row= row_buffer[i]`. -/
def shareRow (i : ℕ) : Own := { o.useRowBuffer with row := o.rows[i]? }

/-! ### The end of a query -/

/-- The first part of `attachsql_query_close`: the query buffer, when it is there and not empty, the columns, and the
row, unless rows are buffered. -/
def closeQuery (ownsText buffering : Bool) : Own :=
  let o := if ownsText then { o.release o.queryBuffer.toList with queryBuffer := none } else o
  let o := { o.release o.columns.toList with columns := none }
  { (if buffering then o else o.release o.row.toList) with row := none }

/-- The last part of `attachsql_query_close`: the buffered rows and their array. -/
def closeRows (allocated : Bool) : Own :=
  let o' := if allocated then ((o.use o.rowBuffer.toList).release o.rows).release o.rowBuffer.toList else o
  { o' with rows := [] }

/-! ### Steps -/

/-- Steps that leave the buffered rows and their array alone. -/
inductive Step : Own → Prop
  | newQueryBuffer : Step o.newQueryBuffer
  | dropQueryBuffer : Step o.dropQueryBuffer
  | useQueryBuffer : Step o.useQueryBuffer
  | newResultColumns (ok : Bool) : Step (o.newResultColumns ok)
  | useResultColumns : Step o.useResultColumns
  | freeResultColumns : Step o.freeResultColumns
  | getColumns : Step o.getColumns
  | newRow (ok : Bool) : Step (o.newRow ok)
  | useRow : Step o.useRow
  | newStmtRow (ok : Bool) : Step (o.newStmtRow ok)
  | useStmtRow : Step o.useStmtRow
  | readStmtRow : Step o.readStmtRow
  | freeStmtRow : Step o.freeStmtRow

end Own

end LibAttachSql
