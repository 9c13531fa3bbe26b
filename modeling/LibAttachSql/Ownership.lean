import LibAttachSql.Outcomes
import LibAttachSql.System

/-!
# Single ownership

Every pointer of a connection that is not null owns an object of its own, but for two: `row` may be one of the buffered
rows, and `row_buffer` stays where it was when its array is released.  An object is then released once, and used only
before, as long as no row is buffered after a row buffer was released, and a row that is one of the buffered rows is not
left behind for `attachsql_query_close` while rows are not buffered.
-/

namespace LibAttachSql

open Lib

/-! ### What a connection owns -/

namespace Own

/-- The row, unless it is one of the buffered rows. -/
def ownedRow (row : Option ℕ) (rows : List ℕ) : Option ℕ := if row.any fun i => i ∈ rows then none else row

/-- The array of the row buffer, while it has a size. -/
def ownedArray (rowBuffer : Option ℕ) (allocated : Bool) : Option ℕ := if allocated then rowBuffer else none

/-- The objects the pointers of a connection own. -/
def objects (o : Own) (allocated : Bool) : List ℕ :=
  o.queryBuffer.toList ++ (o.columns.toList ++ ((ownedRow o.row o.rows).toList ++ (o.resultColumns.toList ++
    (o.stmtRow.toList ++ ((ownedArray o.rowBuffer allocated).toList ++ o.rows)))))

/-- **The discipline**: the objects are different and live, and nothing was misused so far; rows are kept only in a row
buffer that is there, and counted. -/
structure Sound (o : Own) (allocated : Bool) (count : ℕ) : Prop where
  owns : o.heap.Owns (o.objects allocated)
  count : count = o.rows.length
  kept : o.rows ≠ [] → allocated = true ∧ o.rowBuffer.isSome = true

variable {o o' : Own} {allocated : Bool} {count : ℕ}

lemma rowShared_iff {i : ℕ} (h : o.row = some i) : o.rowShared = true ↔ i ∈ o.rows := by
  unfold rowShared
  rw [h]
  simp

namespace Sound

/-! ### Objects that are used -/

/-- The use of what is owned changes nothing. -/
lemma use_eq (hs : o.Sound allocated count) {ps : List ℕ} (hps : ps ⊆ o.objects allocated) : o.use ps = o := by
  unfold use
  rw [hs.owns.useAll_eq hps]

lemma useQueryBuffer_eq (hs : o.Sound allocated count) : o.useQueryBuffer = o :=
  hs.use_eq fun i hi => by simp [objects, hi]

lemma useResultColumns_eq (hs : o.Sound allocated count) : o.useResultColumns = o :=
  hs.use_eq fun i hi => by simp [objects, hi]

lemma useStmtRow_eq (hs : o.Sound allocated count) : o.useStmtRow = o :=
  hs.use_eq fun i hi => by
    rcases List.mem_append.mp hi with hi | hi <;> simp [objects, hi]

lemma readStmtRow_eq (hs : o.Sound allocated count) : o.readStmtRow = o :=
  hs.use_eq fun i hi => by simp [objects, hi]

/-- The row is one of the buffered rows, or owned. -/
lemma useRow_eq (hs : o.Sound allocated count) : o.useRow = o := by
  refine hs.use_eq fun i hi => ?_
  have hrow : o.row = some i := Option.mem_toList.mp hi
  by_cases h : o.rowShared = true
  · have := (rowShared_iff hrow).mp h
    simp [objects, this]
  · have hown : ownedRow o.row o.rows = some i := (if_neg h).trans hrow
    simp [objects, hown]

lemma useRowBuffer_eq (hs : o.Sound allocated count) (ha : allocated = true) : o.useRowBuffer = o :=
  hs.use_eq fun i hi => by simp [objects, ownedArray, ha, hi]

/-! ### Objects that are made and released -/

/-- A step that leaves the buffered rows alone. -/
lemma with_owns (hs : o.Sound allocated count) (h : o'.heap.Owns (o'.objects allocated)) (hrows : o'.rows = o.rows)
    (hbuffer : o'.rowBuffer = o.rowBuffer) : o'.Sound allocated count where
  owns := h
  count := by rw [hrows, hs.count]
  kept := by rw [hrows, hbuffer]; exact hs.kept

lemma newQueryBuffer (hs : o.Sound allocated count) : o.newQueryBuffer.Sound allocated count := by
  refine hs.with_owns (hs.owns.alloc_of_count fun i => ?_) rfl rfl
  simp only [objects, Own.newQueryBuffer, List.count_append, List.count_cons, Option.toList_some, List.count_nil]
  omega

lemma dropQueryBuffer (hs : o.Sound allocated count) : o.dropQueryBuffer.Sound allocated count := by
  refine hs.with_owns (hs.owns.of_count fun i => ?_) rfl rfl
  simp only [objects, Own.dropQueryBuffer, List.count_append, Option.toList_none, List.count_nil]
  omega

lemma newResultColumns (hs : o.Sound allocated count) (ok : Bool) : (o.newResultColumns ok).Sound allocated count := by
  cases ok with
  | true =>
    refine hs.with_owns (hs.owns.alloc_of_count fun i => ?_) rfl rfl
    simp only [objects, Own.newResultColumns, List.count_append, List.count_cons, Option.toList_some, List.count_nil,
      if_true]
    omega
  | false =>
    refine hs.with_owns (hs.owns.of_count fun i => ?_) rfl rfl
    simp only [objects, Own.newResultColumns, List.count_append, Option.toList_none, List.count_nil, if_false,
      Bool.false_eq_true]
    omega

lemma freeResultColumns (hs : o.Sound allocated count) : o.freeResultColumns.Sound allocated count := by
  refine hs.with_owns (hs.owns.releaseAll_of_count fun i => ?_) rfl rfl
  simp only [objects, Own.freeResultColumns, Own.release, List.count_append, Option.toList_none, List.count_nil]
  omega

lemma getColumns (hs : o.Sound allocated count) : o.getColumns.Sound allocated count := by
  unfold Own.getColumns
  split_ifs
  · rw [hs.useResultColumns_eq]
    refine hs.with_owns (hs.owns.alloc_of_count fun i => ?_) rfl rfl
    simp only [objects, List.count_append, List.count_cons, Option.toList_some, List.count_nil]
    omega
  · exact hs

/-- A new row is none of the buffered rows, which were made before. -/
lemma newRow (hs : o.Sound allocated count) (ok : Bool) : (o.newRow ok).Sound allocated count := by
  unfold Own.newRow
  split_ifs with h
  · have hnot : o.heap.next ∉ o.rows := fun hmem => hs.owns.next_notMem (by simp [objects, hmem])
    have hown : ownedRow (some o.heap.next) o.rows = some o.heap.next := if_neg (by simpa using hnot)
    refine hs.with_owns (hs.owns.alloc_of_count fun i => ?_) rfl rfl
    simp only [objects, hown, List.count_append, List.count_cons, Option.toList_some, List.count_nil]
    omega
  · exact hs

lemma newStmtRow (hs : o.Sound allocated count) (ok : Bool) : (o.newStmtRow ok).Sound allocated count := by
  unfold Own.newStmtRow
  split_ifs
  · refine hs.with_owns (hs.owns.alloc_of_count fun i => ?_) rfl rfl
    simp only [objects, List.count_append, List.count_cons, Option.toList_some, List.count_nil]
    omega
  · exact hs

lemma freeStmtRow (hs : o.Sound allocated count) : o.freeStmtRow.Sound allocated count := by
  refine hs.with_owns (hs.owns.releaseAll_of_count fun i => ?_) rfl rfl
  simp only [objects, Own.freeStmtRow, Own.release, List.count_append, Option.toList_none, List.count_nil]
  omega

/-- **Every step that leaves the buffered rows alone keeps the discipline.** -/
theorem step (hs : o.Sound allocated count) (h : o.Step o') : o'.Sound allocated count := by
  cases h with
  | newQueryBuffer => exact hs.newQueryBuffer
  | dropQueryBuffer => exact hs.dropQueryBuffer
  | useQueryBuffer => rwa [hs.useQueryBuffer_eq]
  | newResultColumns ok => exact hs.newResultColumns ok
  | useResultColumns => rwa [hs.useResultColumns_eq]
  | freeResultColumns => exact hs.freeResultColumns
  | getColumns => exact hs.getColumns
  | newRow ok => exact hs.newRow ok
  | useRow => rwa [hs.useRow_eq]
  | newStmtRow ok => exact hs.newStmtRow ok
  | useStmtRow => rwa [hs.useStmtRow_eq]
  | readStmtRow => rwa [hs.readStmtRow_eq]
  | freeStmtRow => exact hs.freeStmtRow

lemma steps (hs : o.Sound allocated count) (h : Relation.ReflTransGen Step o o') : o'.Sound allocated count := by
  induction h with
  | refl => exact hs
  | tail _ h ih => exact ih.step h

/-! ### Buffered rows -/

/-- The row buffer is reallocated while it is null or has a size. -/
lemma growRowBuffer (hs : o.Sound allocated count) (h : allocated = false → o.rowBuffer = none) (ok : Bool) :
    (o.growRowBuffer ok).Sound true count := by
  have harray : ownedArray o.rowBuffer true = ownedArray o.rowBuffer allocated := by
    cases allocated with
    | true => rfl
    | false => rw [h rfl]; rfl
  have hobjects : o.objects true = o.objects allocated := by
    unfold objects
    rw [harray]
  have hs' : o.Sound true count :=
    ⟨by rw [hobjects]; exact hs.owns, hs.count, fun hne => ⟨rfl, (hs.kept hne).2⟩⟩
  cases ok with
  | true =>
    have hrelease : (o.release o.rowBuffer.toList).heap.Owns (o.queryBuffer.toList ++ (o.columns.toList ++
        ((ownedRow o.row o.rows).toList ++ (o.resultColumns.toList ++ (o.stmtRow.toList ++ o.rows))))) := by
      refine hs'.owns.releaseAll_of_count fun i => ?_
      simp only [objects, ownedArray, if_true, List.count_append]
      omega
    refine ⟨hrelease.alloc_of_count fun i => ?_, hs.count, fun _ => ⟨rfl, rfl⟩⟩
    simp only [objects, Own.growRowBuffer, Own.release, ownedArray, if_true, List.count_append, List.count_cons,
      Option.toList_some, List.count_nil]
    omega
  | false =>
    have huse : o.growRowBuffer false = o := hs'.useRowBuffer_eq rfl
    rwa [huse]

/-- A row is kept. -/
lemma newBufferedRow (hs : o.Sound allocated count) (ha : allocated = true) (hb : o.rowBuffer.isSome = true) :
    o.newBufferedRow.Sound allocated (count + 1) := by
  have huse : o.use o.rowBuffer.toList = o := hs.useRowBuffer_eq ha
  unfold Own.newBufferedRow
  rw [huse]
  -- the new row is not the one `row` points to, which was made before
  have hrow : ownedRow o.row (o.rows ++ [o.heap.next]) = ownedRow o.row o.rows := by
    cases hr : o.row with
    | none => rfl
    | some i =>
      have hne : i ≠ o.heap.next := by
        rintro rfl
        by_cases hmem : o.heap.next ∈ o.rows
        · exact hs.owns.next_notMem (by simp [objects, hmem])
        · have hown : ownedRow o.row o.rows = some o.heap.next := by
            rw [hr]
            exact if_neg (by simpa using hmem)
          exact hs.owns.next_notMem (by simp [objects, hown])
      simp [ownedRow, hne]
  refine ⟨hs.owns.alloc_of_count fun i => ?_, by simp [hs.count], fun _ => ⟨ha, hb⟩⟩
  simp only [objects, hrow, List.count_append, List.count_cons, List.count_nil]
  omega

lemma useRowBuffer (hs : o.Sound allocated count) (h : 0 < count) : o.useRowBuffer = o := by
  have hne : o.rows ≠ [] := by
    rintro hnil
    rw [hs.count, hnil] at h
    exact absurd h (Nat.lt_irrefl _)
  exact hs.useRowBuffer_eq (hs.kept hne).1

lemma shareRow (hs : o.Sound allocated count) {i : ℕ} (h : i < count) : (o.shareRow i).Sound allocated count := by
  unfold Own.shareRow
  rw [hs.useRowBuffer (Nat.zero_lt_of_lt h)]
  have hi : i < o.rows.length := hs.count ▸ h
  have hown : ownedRow o.rows[i]? o.rows = none := if_pos (by simp [hi])
  refine hs.with_owns (hs.owns.of_count fun j => ?_) rfl rfl
  simp only [objects, hown, List.count_append, Option.toList_none, List.count_nil]
  omega

/-! ### The end of a query -/

lemma freeQueryBuffer (hs : o.Sound allocated count) :
    { o.release o.queryBuffer.toList with queryBuffer := none : Own }.Sound allocated count := by
  refine hs.with_owns (hs.owns.releaseAll_of_count fun i => ?_) rfl rfl
  simp only [objects, Own.release, List.count_append, Option.toList_none, List.count_nil]
  omega

lemma freeColumns (hs : o.Sound allocated count) :
    { o.release o.columns.toList with columns := none : Own }.Sound allocated count := by
  refine hs.with_owns (hs.owns.releaseAll_of_count fun i => ?_) rfl rfl
  simp only [objects, Own.release, List.count_append, Option.toList_none, List.count_nil]
  omega

lemma dropRow (hs : o.Sound allocated count) : { o with row := none : Own }.Sound allocated count := by
  refine hs.with_owns (hs.owns.of_count fun i => ?_) rfl rfl
  simp only [objects, ownedRow, Option.any_none, List.count_append, Option.toList_none, List.count_nil, ite_self]
  omega

/-- The row is released only while it is none of the buffered rows. -/
lemma freeRow (hs : o.Sound allocated count) (h : o.rowShared = false) :
    { o.release o.row.toList with row := none : Own }.Sound allocated count := by
  have hown : ownedRow o.row o.rows = o.row := if_neg (Bool.eq_false_iff.mp h)
  have hnone : ownedRow none o.rows = none := rfl
  refine hs.with_owns (hs.owns.releaseAll_of_count fun i => ?_) rfl rfl
  simp only [objects, Own.release, hown, hnone, List.count_append, Option.toList_none, List.count_nil]
  omega

/-- **The first part of closing a query**, unless it releases one of the buffered rows. -/
lemma closeQuery (hs : o.Sound allocated count) {ownsText buffering : Bool}
    (h : (!buffering && o.rowShared) = false) : (o.closeQuery ownsText buffering).Sound allocated count := by
  have htext : (if ownsText then { o.release o.queryBuffer.toList with queryBuffer := none } else o).Sound allocated
      count := by
    split_ifs
    · exact hs.freeQueryBuffer
    · exact hs
  have hshared : (if ownsText then { o.release o.queryBuffer.toList with queryBuffer := none } else o).rowShared =
      o.rowShared := by
    split_ifs <;> rfl
  unfold Own.closeQuery
  dsimp only
  generalize (if ownsText then { o.release o.queryBuffer.toList with queryBuffer := none } else o) = o₁ at *
  have hcolumns := htext.freeColumns
  cases buffering with
  | true => exact hcolumns.dropRow
  | false =>
    rw [Bool.not_false, Bool.true_and] at h
    exact hcolumns.freeRow (hshared.trans h)

/-- **The last part of closing a query**: the buffered rows and their array are released. -/
lemma closeRows (hs : o.Sound allocated count) (hrow : o.row = none) : (o.closeRows allocated).Sound false 0 := by
  have hnone : ∀ rows, ownedRow none rows = none := fun _ => rfl
  cases allocated with
  | true =>
    have huse : o.use o.rowBuffer.toList = o := hs.useRowBuffer_eq rfl
    have hrows : (o.release o.rows).heap.Owns (o.rowBuffer.toList ++ (o.queryBuffer.toList ++ (o.columns.toList ++
        (o.resultColumns.toList ++ o.stmtRow.toList)))) := by
      refine hs.owns.releaseAll_of_count fun i => ?_
      simp only [objects, ownedArray, hrow, hnone, if_true, List.count_append, Option.toList_none, List.count_nil]
      omega
    unfold Own.closeRows
    rw [if_pos rfl, huse]
    refine ⟨hrows.releaseAll.of_count fun i => ?_, rfl, fun hne => absurd rfl hne⟩
    simp only [objects, Own.release, ownedArray, hrow, hnone, if_false, Bool.false_eq_true, List.count_append,
      Option.toList_none, List.count_nil]
    omega
  | false =>
    have hnil : o.rows = [] := by
      by_contra hne
      exact absurd (hs.kept hne).1 (by decide)
    unfold Own.closeRows
    refine ⟨hs.owns.of_count fun i => ?_, rfl, fun hne => absurd rfl hne⟩
    simp only [objects, hrow, hnone, hnil, if_false, Bool.false_eq_true, List.count_append, Option.toList_none,
      List.count_nil]
    omega

/-- **Closing a query keeps the discipline**, unless it releases one of the buffered rows. -/
theorem close (hs : o.Sound allocated count) {ownsText buffering : Bool} (h : (!buffering && o.rowShared) = false) :
    (((o.closeQuery ownsText buffering).freeResultColumns).closeRows allocated).Sound false 0 :=
  (hs.closeQuery h).freeResultColumns.closeRows rfl

end Sound

end Own

/-! ### Traces -/

/-- A row buffer was made. -/
def Action.grows : Action → Bool
  | .rowBufferGrown _ => true
  | _ => false

/-- A row buffer was made, and a query closed after it. -/
def RowsReleased : List Action → Prop
  | [] => False
  | .queryClosed _ :: x => x.any Action.grows = true ∨ RowsReleased x
  | _ :: x => RowsReleased x

/-- No row buffer is made or grown after one was released, and no query closed while rows are not buffered and `row` is
one of the buffered rows. -/
def RowsApart : List Action → Prop
  | [] => True
  | .rowBufferGrown _ :: x => ¬ RowsReleased x ∧ RowsApart x
  | .queryClosed shared :: x => shared = false ∧ RowsApart x
  | _ :: x => RowsApart x

instance : DecidablePred RowsReleased := fun x => by
  induction x with
  | nil => exact isFalse id
  | cons a x ih =>
    rcases a with ⟨⟩
    case queryClosed => exact inferInstanceAs (Decidable (x.any Action.grows = true ∨ RowsReleased x))
    all_goals exact ih

instance : DecidablePred RowsApart := fun x => by
  induction x with
  | nil => exact isTrue trivial
  | cons a x ih =>
    rcases a with ⟨⟩
    case rowBufferGrown => exact inferInstanceAs (Decidable (¬ RowsReleased x ∧ RowsApart x))
    case queryClosed shared => exact inferInstanceAs (Decidable (shared = false ∧ RowsApart x))
    all_goals exact ih

variable {x y : List Action}

lemma RowsApart.suffix (h : RowsApart (y ++ x)) : RowsApart x := by
  induction y with
  | nil => exact h
  | cons a y ih =>
    cases a with
    | rowBufferGrown _ => exact ih h.2
    | queryClosed _ => exact ih h.2
    | _ => exact ih h

lemma RowsReleased.append (h : RowsReleased x) (y : List Action) : RowsReleased (y ++ x) := by
  induction y with
  | nil => exact h
  | cons a y ih =>
    cases a with
    | queryClosed _ => exact .inr ih
    | _ => exact ih

lemma any_grows_append (h : x.any Action.grows = true) (y : List Action) : (y ++ x).any Action.grows = true := by
  rw [List.any_append, h, Bool.or_true]

/-! ### The invariant -/

lemma Own.Step.rowBuffer {o o' : Own} (h : o.Step o') : o'.rowBuffer = o.rowBuffer := by
  cases h with
  | newResultColumns ok => cases ok <;> rfl
  | getColumns =>
    unfold Own.getColumns
    split_ifs <;> rfl
  | newRow ok =>
    unfold Own.newRow
    split_ifs <;> rfl
  | newStmtRow ok =>
    unfold Own.newStmtRow
    split_ifs <;> rfl
  | _ => rfl

namespace Control

/-- The objects of the connection are under the discipline, and a row buffer without a size is null or was released. -/
structure Owned (c : Control) (x : List Action) : Prop where
  sound : c.aux.own.Sound c.aux.allocated c.aux.rowCount
  grown : c.aux.allocated = true → x.any Action.grows = true
  released : c.aux.allocated = false → c.aux.own.rowBuffer ≠ none → RowsReleased x

variable {c c' : Control} {t : PacketType} {k : ℕ}

namespace Owned

/-- Steps of the objects that leave the buffered rows alone. -/
lemma steps (ho : c.Owned x) (y : List Action) {o : Own} (hsteps : Relation.ReflTransGen Own.Step c.aux.own o)
    (hown : c'.aux.own = o) (ha : c'.aux.allocated = c.aux.allocated) (hc : c'.aux.rowCount = c.aux.rowCount) :
    c'.Owned (y ++ x) := by
  have hbuffer : o.rowBuffer = c.aux.own.rowBuffer := by
    clear hown
    induction hsteps with
    | refl => rfl
    | tail _ h ih => exact h.rowBuffer.trans ih
  refine ⟨?_, ?_, ?_⟩
  · rw [hown, ha, hc]
    exact ho.sound.steps hsteps
  · rw [ha]
    exact fun h => any_grows_append (ho.grown h) y
  · rw [ha, hown, hbuffer]
    exact fun h hne => (ho.released h hne).append y

/-- Moves that leave the objects alone. -/
lemma same (ho : c.Owned x) (y : List Action) (h : c'.aux.own = c.aux.own) (ha : c'.aux.allocated = c.aux.allocated)
    (hc : c'.aux.rowCount = c.aux.rowCount) : c'.Owned (y ++ x) := ho.steps y .refl h ha hc

lemma kept (ho : c.Owned x) (h : Kept k c y c') : c'.Owned (y ++ x) :=
  ho.steps y h.own rfl (by rw [h.aux]) (by rw [h.aux])

end Owned

lemma Reads.owned (h : Reads t c y c') (ho : c.Owned x) : c'.Owned (y ++ x) := by
  cases h with
  | answered _ h => cases h <;> exact ho.same _ rfl rfl rfl
  | waits h => exact ho.kept h
  | @rejected n y c' _ h =>
    rw [List.append_assoc]
    have herr : (c.afterErr n).Owned ([.answered (.err n) c.status c.commandStatus] ++ x) := ho.same _ rfl rfl rfl
    exact herr.kept h

/-- A row that is put into the row buffer. -/
lemma kept_owned (ho : c.Owned x) (ha : c.aux.allocated = true) (hb : c.aux.own.rowBuffer.isSome = true)
    (y : List Action) : Owned { c with aux := c.kept } (y ++ x) where
  sound := ho.sound.newBufferedRow ha hb
  grown h := any_grows_append (ho.grown h) y
  released h := absurd ha (Bool.eq_false_iff.mp h)

lemma AuxMove.owned {a : Aux} (h : AuxMove c y a) (ho : c.Owned x) (hr : RowsApart (y ++ x)) :
    Owned { c with aux := a } (y ++ x) := by
  cases h with
  | own h => exact ho.steps _ (.single h) rfl rfl rfl
  | close ownsText buffering =>
    refine ⟨ho.sound.close hr.1, nofun, fun _ hne => ?_⟩
    by_cases ha : c.aux.allocated = true
    · exact .inl (ho.grown ha)
    · have hbuffer : (c.closed ownsText buffering).own.rowBuffer = c.aux.own.rowBuffer := by
        unfold closed
        cases ownsText <;> cases buffering <;> cases c.aux.allocated <;> rfl
      rw [hbuffer] at hne
      exact .inr (ho.released (Bool.eq_false_iff.mpr ha) hne)
  | grow ok =>
    have hnull : c.aux.allocated = false → c.aux.own.rowBuffer = none := by
      intro ha
      by_contra hne
      exact hr.1 (ho.released ha hne)
    exact ⟨ho.sound.growRowBuffer hnull ok, fun _ => rfl, nofun⟩
  | keepFault ha hb => exact kept_owned ho ha hb _
  | useRows h =>
    have huse : c.aux.own.useRowBuffer = c.aux.own := ho.sound.useRowBuffer h
    exact ho.same _ huse rfl rfl
  | @shareRow i h => exact ⟨ho.sound.shareRow h, ho.grown, ho.released⟩
  | resolved _ => exact ho.same _ rfl rfl rfl
  | settled _ => exact ho.same _ rfl rfl rfl
  | callback _ _ _ _ _ => exact ho.same _ rfl rfl rfl
  | begin _ => exact ho.same _ rfl rfl rfl
  | rowNext => exact ho.same _ rfl rfl rfl

/-- **Every move keeps the discipline**, as long as the buffered rows are kept apart. -/
theorem Move.owned (h : Move c y c') (ho : c.Owned x) (hr : RowsApart (y ++ x)) : c'.Owned (y ++ x) := by
  cases h with
  | quiet h => exact ho.kept h.kept
  | fail site => exact ho.kept (.fail site _ _)
  | start _ _ => exact ho.same _ rfl rfl rfl
  | connected _ hp => exact (ho.kept hp.kept).same [] rfl rfl rfl
  | drained _ => exact ho.same _ rfl rfl rfl
  | lost _ => exact ho.kept (.fail .writeCallback _ _)
  | @packet _ _ t q payload _ h =>
    rw [List.append_assoc]
    have hpop : Owned { c with queue := q } ([.packet t payload c.status] ++ x) := ho.same _ rfl rfl rfl
    exact h.reads.owned hpop
  | command cmd _ h => exact ho.steps _ h.sends.own rfl (by rw [h.sends.aux]) (by rw [h.sends.aux])
  | request hp => exact ho.steps _ hp.kept.own rfl (by rw [hp.kept.aux]) (by rw [hp.kept.aux])
  | nextResult _ hp => exact ho.steps _ hp.kept.own rfl (by rw [hp.kept.aux]) (by rw [hp.kept.aux])
  | pollEof => exact ho.same _ rfl rfl rfl
  | keep ha hb hp =>
    have hkept : Owned { c with aux := c.kept } ([.rowRequested, .rowKept] ++ x) := kept_owned ho ha hb _
    rw [List.append_assoc]
    exact hkept.steps _ hp.kept.own rfl (by rw [hp.kept.aux]) (by rw [hp.kept.aux])
  | aux h => exact h.owned ho hr

/-! ### Growing the row buffer -/

/-- The array that is grown is null or live, as long as the buffered rows are kept apart. -/
lemma Owned.not_stale (ho : c.Owned x) (hr : ¬ RowsReleased x) : c.aux.own.stale = false := by
  unfold Own.stale
  cases hb : c.aux.own.rowBuffer with
  | none => rfl
  | some i =>
    have ha : c.aux.allocated = true := by
      by_contra ha
      exact hr (ho.released (Bool.eq_false_iff.mpr ha) (by simp [hb]))
    have hlive := ho.sound.owns.live i (by simp [Own.objects, Own.ownedArray, ha, hb])
    simp [hlive]

lemma not_grows_of_neutral {a : Action} (h : a.Neutral = true) : a.grows = false := by
  cases a <;> first | rfl | cases h

lemma Kept.not_grows (h : Kept k c y c') : ∀ a ∈ y, a.grows = false :=
  fun a ha => not_grows_of_neutral (h.neutral a ha)

lemma Reads.not_grows (h : Reads t c y c') : ∀ a ∈ y, a.grows = false := by
  intro a ha
  cases h with
  | answered hn _ =>
    rcases List.mem_cons.mp ha with rfl | ha
    · rfl
    · exact not_grows_of_neutral (hn a ha)
  | waits h => exact h.not_grows a ha
  | rejected _ h =>
    rcases List.mem_append.mp ha with ha | ha
    · exact h.not_grows a ha
    · rw [List.mem_singleton.mp ha]
      rfl

lemma Sends.not_grows (h : Sends c y c') : ∀ a ∈ y, a.grows = false := by
  intro a ha
  rcases h.neutral a ha with hn | ⟨s, rfl⟩
  · exact not_grows_of_neutral hn
  · rfl

lemma not_grows_append {z : List Action} (hy : ∀ a ∈ y, a.grows = false) (hz : ∀ a ∈ z, a.grows = false) :
    ∀ a ∈ y ++ z, a.grows = false := fun a ha => (List.mem_append.mp ha).elim (hy a) (hz a)

lemma AuxMove.grows {a : Aux} (h : AuxMove c y a) :
    y = [.rowBufferGrown c.aux.own.stale] ∨ ∀ b ∈ y, b.grows = false := by
  cases h with
  | grow ok => exact .inl rfl
  | _ => exact .inr (by simp [Action.grows])

/-- The row buffer grows in a move of its own. -/
lemma Move.grows (h : Move c y c') : y = [.rowBufferGrown c.aux.own.stale] ∨ ∀ a ∈ y, a.grows = false := by
  cases h with
  | quiet h => exact .inr h.kept.not_grows
  | aux h => exact h.grows
  | connected _ hp => exact .inr hp.kept.not_grows
  | packet _ _ h => exact .inr (not_grows_append h.reads.not_grows (by simp [Action.grows]))
  | command _ _ h => exact .inr (not_grows_append h.sends.not_grows (by simp [Action.grows]))
  | request hp => exact .inr (not_grows_append hp.kept.not_grows (by simp [Action.grows]))
  | nextResult _ hp => exact .inr (not_grows_append hp.kept.not_grows (by simp [Action.grows]))
  | keep _ _ hp => exact .inr (not_grows_append hp.kept.not_grows (by simp [Action.grows]))
  | _ => exact .inr (by simp [Action.grows])

/-- No released row buffer was grown. -/
def GrownLive (x : List Action) : Prop := .rowBufferGrown true ∉ x

lemma Move.grownLive (h : Move c y c') (ho : c.Owned x) (hl : GrownLive x) (hr : RowsApart (y ++ x)) :
    GrownLive (y ++ x) := by
  intro hmem
  rcases List.mem_append.mp hmem with hy | hx
  · rcases h.grows with rfl | hno
    · have hstale := List.mem_singleton.mp hy
      rw [ho.not_stale hr.1] at hstale
      cases hstale
    · exact absurd (hno _ hy) (by decide)
  · exact hl hx

end Control

/-! ### Runs -/

/-- No object was released twice, or used after its release, and no released row buffer was grown. -/
def Con.OwnsOnce (con : Con) : Prop := con.own.heap.misused = false ∧ Control.GrownLive con.trace

instance : DecidablePred Con.OwnsOnce := fun con => by
  unfold Con.OwnsOnce Control.GrownLive
  infer_instance

lemma connectDestroy_does (con : Con) : Does (Path Control.Move) con (connectDestroy con) := by
  unfold connectDestroy
  dsimp only
  split_ifs
  · exact (queryClose_does con).congr_right rfl rfl
  · exact .same rfl rfl

/-- The events of a buffered result with one row. -/
def bufferedResult : List SysEvent := [
  .poll (.calm [.wrote none, .read 65536 (resultHead ++ frame 4 [1, 0x78] ++ eofPacket 5 2)]),
  .poll (.calm [])]

end LibAttachSql
