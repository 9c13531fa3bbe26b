import LibAttachSql.System

/-!
# Rows by their number

The rows of a buffered result are got one after the other with `attachsql_query_buffer_row_get`, or by their number with
`attachsql_query_row_get_offset`.  Both go through one table and know of one position.  This module compares what they
answer in every order of calls.
-/

namespace LibAttachSql

open Lib

/-- The calls that get a row of a buffered result: the next one, or the one with this number. -/
inductive RowCall where
  | next
  | offset (n : ℕ)
  deriving DecidableEq

/-- The connection after such a call. -/
def RowCall.step (con : Con) : RowCall → Con
  | .next => (queryBufferRowGet con).1
  | .offset n => (queryRowGetOffset con n).1

/-- The rows of a result are buffered, and none of them was got so far. -/
structure Con.Buffered (con : Con) : Prop where
  count_eq : con.rowBufferCount = con.rowBuffer.length
  start : con.rowBufferPosition = 0

instance (con : Con) : Decidable con.Buffered :=
  decidable_of_iff (con.rowBufferCount = con.rowBuffer.length ∧ con.rowBufferPosition = 0)
    ⟨fun h => ⟨h.1, h.2⟩, fun h => ⟨h.count_eq, h.start⟩⟩

/-- What the call of `attachsql_query_buffer_row_get` answers that `n` of them come before. -/
def Con.sequential (con : Con) (n : ℕ) : Option (List Cell) :=
  (queryBufferRowGet (run RowCall.step con (List.replicate n .next))).2

/-- A row is got right by its number, for a result whose rows were all to be got at `start`: it is the one that comes at
this place, there is none for a number that is too large, and the position stays. -/
structure GotRight (start con : Con) (n : ℕ) : Prop where
  row : n < start.rowBufferCount → (queryRowGetOffset con n).2 = start.sequential n
  null : start.rowBufferCount ≤ n → (queryRowGetOffset con n).2 = none
  position : (queryRowGetOffset con n).1.rowBufferPosition = con.rowBufferPosition

/-- If the call asks for a row by its number, it is got right. -/
def RowCall.Right (start con : Con) : RowCall → Prop
  | .next => True
  | .offset n => GotRight start con n

/-! ### The table and the position -/

section Table

variable {start con : Con} {n : ℕ}

/-- The table of rows is the one there was at the start, and the position is within it. -/
structure Con.Shares (con start : Con) : Prop where
  rows : con.rowBuffer = start.rowBuffer
  count : con.rowBufferCount = start.rowBufferCount
  position_le : con.rowBufferPosition ≤ con.rowBufferCount

lemma Con.Buffered.shares (h : con.Buffered) : con.Shares con := ⟨rfl, rfl, h.start ▸ Nat.zero_le _⟩

lemma queryBufferRowGet_end (h : con.rowBufferCount ≤ con.rowBufferPosition) : queryBufferRowGet con = (con, none) :=
  if_pos h

/-- Before the end the row at the position is got, and the position moves on. -/
lemma queryBufferRowGet_row (h : con.rowBufferPosition < con.rowBufferCount) :
    (queryBufferRowGet con).1.rowBuffer = con.rowBuffer ∧ (queryBufferRowGet con).1.rowBufferCount = con.rowBufferCount ∧
      (queryBufferRowGet con).1.rowBufferPosition = con.rowBufferPosition + 1 ∧
      (queryBufferRowGet con).2 = some (con.rowBuffer.getD con.rowBufferPosition []) := by
  unfold queryBufferRowGet
  rw [if_neg (not_le.mpr h)]
  exact ⟨rfl, rfl, rfl, rfl⟩

/-- The row at the position is answered for every number that is not too large. -/
lemma queryRowGetOffset_cases (con : Con) (n : ℕ) :
    (queryRowGetOffset con n).1.rowBuffer = con.rowBuffer ∧ (queryRowGetOffset con n).1.rowBufferCount = con.rowBufferCount ∧
      (queryRowGetOffset con n).1.rowBufferPosition = con.rowBufferPosition ∧
      (queryRowGetOffset con n).2 = if con.rowBufferCount ≤ n then none else con.rowBuffer[con.rowBufferPosition]? := by
  unfold queryRowGetOffset
  split_ifs
  · exact ⟨rfl, rfl, rfl, rfl⟩
  · exact ⟨rfl, rfl, rfl, rfl⟩

/-- Where a call takes the position, for a table of `count` rows. -/
def RowCall.cursor (count pos : ℕ) : RowCall → ℕ
  | .next => min (pos + 1) count
  | .offset _ => pos

/-- **One call**: the table stays, and the position moves as the cursor does. -/
lemma Con.Shares.step (h : con.Shares start) (call : RowCall) :
    (call.step con).Shares start ∧
      (call.step con).rowBufferPosition = call.cursor start.rowBufferCount con.rowBufferPosition := by
  have hle := h.position_le
  cases call with
  | next =>
    rcases Nat.lt_or_ge con.rowBufferPosition con.rowBufferCount with hlt | hge
    · obtain ⟨hrows, hcount, hposition, -⟩ := queryBufferRowGet_row hlt
      refine ⟨⟨hrows.trans h.rows, hcount.trans h.count, ?_⟩, ?_⟩
      · show (queryBufferRowGet con).1.rowBufferPosition ≤ (queryBufferRowGet con).1.rowBufferCount
        rw [hposition, hcount]
        exact hlt
      · show (queryBufferRowGet con).1.rowBufferPosition = min (con.rowBufferPosition + 1) start.rowBufferCount
        rw [hposition, ← h.count, Nat.min_eq_left hlt]
    · have hsame : RowCall.next.step con = con := congrArg Prod.fst (queryBufferRowGet_end hge)
      rw [hsame]
      refine ⟨h, ?_⟩
      show con.rowBufferPosition = min (con.rowBufferPosition + 1) start.rowBufferCount
      rw [← h.count]
      omega
  | offset n =>
    obtain ⟨hrows, hcount, hposition, -⟩ := queryRowGetOffset_cases con n
    refine ⟨⟨hrows.trans h.rows, hcount.trans h.count, ?_⟩, hposition⟩
    show (queryRowGetOffset con n).1.rowBufferPosition ≤ (queryRowGetOffset con n).1.rowBufferCount
    rw [hposition, hcount]
    exact hle

/-- After `n` rows were got from the start, or all there are. -/
lemma Con.Buffered.run_next (h : con.Buffered) (n : ℕ) :
    (run RowCall.step con (List.replicate n .next)).Shares con ∧
      (run RowCall.step con (List.replicate n .next)).rowBufferPosition = min n con.rowBufferCount := by
  induction n with
  | zero => exact ⟨h.shares, h.start.trans (Nat.zero_min _).symm⟩
  | succ n ih =>
    obtain ⟨hshares, hposition⟩ := ih
    obtain ⟨hshares', hposition'⟩ := hshares.step .next
    rw [List.replicate_succ', run_append]
    refine ⟨hshares', hposition'.trans ?_⟩
    show min (_ + 1) con.rowBufferCount = _
    rw [hposition]
    omega

/-- **Sequential access** walks through the table. -/
lemma Con.Buffered.sequential_eq (h : con.Buffered) (n : ℕ) : con.sequential n = con.rowBuffer[n]? := by
  obtain ⟨hshares, hposition⟩ := h.run_next n
  have hcount := h.count_eq
  unfold Con.sequential
  generalize run RowCall.step con (List.replicate n .next) = con₁ at hshares hposition ⊢
  rcases Nat.lt_or_ge n con.rowBufferCount with hlt | hge
  · rw [Nat.min_eq_left hlt.le] at hposition
    obtain ⟨-, -, -, hrow⟩ := @queryBufferRowGet_row con₁ (by rw [hposition, hshares.count]; exact hlt)
    rw [hrow, hposition, hshares.rows, List.getElem?_eq_getElem (hcount ▸ hlt), List.getD_eq_getElem]
  · rw [Nat.min_eq_right hge] at hposition
    rw [queryBufferRowGet_end (by rw [hposition, hshares.count]), List.getElem?_eq_none (hcount ▸ hge)]

/-- The row a call asks for is the one at the position, or there is none. -/
def RowCall.Agrees (rows : List (List Cell)) (pos : ℕ) : RowCall → Prop
  | .next => True
  | .offset n => rows.length ≤ n ∨ rows[pos]? = rows[n]?

/-- **When one row is got right.** -/
lemma right_iff (hstart : start.Buffered) (h : con.Shares start) (call : RowCall) :
    call.Right start con ↔ call.Agrees start.rowBuffer con.rowBufferPosition := by
  cases call with
  | next => exact Iff.rfl
  | offset n =>
    obtain ⟨-, -, hposition, hrow⟩ := queryRowGetOffset_cases con n
    rw [h.count, h.rows] at hrow
    show GotRight start con n ↔ start.rowBuffer.length ≤ n ∨ _
    rw [← hstart.count_eq]
    constructor
    · intro hright
      rcases Nat.lt_or_ge n start.rowBufferCount with hlt | hge
      · have hanswer := hright.row hlt
        rw [hrow, if_neg (not_le.mpr hlt), hstart.sequential_eq] at hanswer
        exact .inr hanswer
      · exact .inl hge
    · intro hagrees
      refine ⟨fun hlt => ?_, fun hge => by rw [hrow, if_pos hge], hposition⟩
      rw [hrow, if_neg (not_le.mpr hlt), hstart.sequential_eq]
      exact hagrees.resolve_left (not_le.mpr hlt)

/-- Along a run the position is the cursor's. -/
lemma along_right_iff (hstart : start.Buffered) (h : con.Shares start) (calls : List RowCall) :
    Along RowCall.step (RowCall.Right start) con calls ↔
      Along (RowCall.cursor start.rowBufferCount) (RowCall.Agrees start.rowBuffer) con.rowBufferPosition calls := by
  induction calls generalizing con with
  | nil => exact Iff.rfl
  | cons call calls ih =>
    obtain ⟨hshares, hposition⟩ := h.step call
    rw [along_cons, along_cons, right_iff hstart h, ih hshares, hposition]

end Table

/-! ### Rows in turn -/

/-- A row is asked for by its number when it is its turn, or there is no row of that number. -/
def RowCall.InTurn (count pos : ℕ) : RowCall → Prop
  | .next => True
  | .offset n => count ≤ n ∨ n = pos

instance (count pos : ℕ) (call : RowCall) : Decidable (call.InTurn count pos) := by
  unfold RowCall.InTurn
  split <;> infer_instance

/-- A buffered result of so many different rows. -/
def numberedRows (count : ℕ) : Con :=
  { Con.calm 0 with rowBuffer := (List.range count).map fun i => [⟨i, 0⟩], rowBufferCount := count }

lemma numberedRows_buffered (count : ℕ) : (numberedRows count).Buffered :=
  ⟨by simp [numberedRows], rfl⟩

/-- Of different rows, only the one at the position is the one asked for. -/
lemma inTurn_of_agrees {count pos : ℕ} {call : RowCall} (h : call.Agrees (numberedRows count).rowBuffer pos) :
    call.InTurn count pos := by
  cases call with
  | next => trivial
  | offset n =>
    have hlength : (numberedRows count).rowBuffer.length = count := (numberedRows_buffered count).count_eq.symm
    rcases h with hge | heq
    · exact .inl (hlength ▸ hge)
    · rcases Nat.lt_or_ge n count with hlt | hge
      · have hnodup : (numberedRows count).rowBuffer.Nodup :=
          List.nodup_range.map fun i j hij => congrArg Cell.data (List.cons.inj hij).1
        exact .inr (((List.getElem?_inj (hlength.symm ▸ hlt) hnodup).mp heq.symm))
      · exact .inl hge

/-- **When rows are got right by their number**: for a schedule of calls on a result of `count` rows, whatever the rows are,
exactly if every row is asked for when just as many rows were got one after the other as come before it. -/
theorem row_access (count : ℕ) (calls : List RowCall) :
    (∀ start : Con, start.Buffered → start.rowBufferCount = count →
        Along RowCall.step (RowCall.Right start) start calls) ↔
      Along (RowCall.cursor count) (RowCall.InTurn count) 0 calls := by
  constructor
  · intro h
    have hb := numberedRows_buffered count
    have hright := (along_right_iff hb hb.shares calls).mp (h _ hb rfl)
    exact hright.imp fun pos call => inTurn_of_agrees
  · rintro h start hb rfl
    rw [along_right_iff hb hb.shares, hb.start]
    refine h.imp fun pos call hturn => ?_
    cases call with
    | next => trivial
    | offset n => exact hturn.imp (fun hge => hb.count_eq ▸ hge) fun heq => by rw [heq]

/-- A result of one column and the rows `x` and `y`, which is buffered. -/
def twoRows : List SysEvent :=
  .call (.calm []) (.queryBufferRows true) :: connectAndQuery 2 ++ [
    .poll (.calm [.wrote none, .read 65536 (resultHead ++ frame 4 [1, 0x78] ++ frame 5 [1, 0x79] ++ eofPacket 6 2)]),
    .poll (.calm []), .poll (.calm []), .poll (.calm [])]

/-- Of two buffered rows, the second one asked for first is answered with the first one, and after the last row was got no
row of the table is answered any more. -/
theorem row_access_first :
    ∃ con es, Initial con ∧ (run sysStep con es).Buffered ∧ (run sysStep con es).rowBufferCount = 2 ∧
      (queryRowGetOffset (run sysStep con es) 1).2 = (run sysStep con es).sequential 0 ∧
      (queryRowGetOffset (run sysStep con es) 1).2 ≠ (run sysStep con es).sequential 1 ∧
      (queryRowGetOffset (run RowCall.step (run sysStep con es) [.next, .next]) 0).2 = none :=
  ⟨Con.calm 0, twoRows, Con.calm_initial 0, by decide +kernel, by decide +kernel, by decide +kernel, by decide +kernel,
    by decide +kernel⟩

end LibAttachSql
