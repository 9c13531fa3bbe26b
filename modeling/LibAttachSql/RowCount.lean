import LibAttachSql.Ownership

/-!
# The row count of a buffered result

`attachsql_query_row_count` answers by a flag that every poll of an idle connection at EOF sets, and that only
`attachsql_query_close` clears.  Whether the flag speaks of the current result depends on the whole history: on polls
behind a close, on results that follow each other without one, on commands sent in a callback.  Here the history is
summed up in a tally, action by action, and the runs are told apart in which the row count means a complete result.
-/

namespace LibAttachSql

open Lib

/-! ### The tally of a history -/

/-- What the server owes: nothing, a reply without rows (to the login, a prepare or a reset), or a result. -/
inductive Due where
  | nothing | reply | result
  deriving DecidableEq

/-- What a history comes to.  The current result is the one asked for last. -/
structure Tally where
  due : Due
  /-- The rows of the current result that were read. -/
  received : ℕ
  /-- The last of them was neither put into the row buffer nor given up. -/
  waiting : Bool
  /-- One of them was given up, or taken out of the row buffer. -/
  lost : Bool
  /-- The rows put into the row buffer since it was emptied. -/
  kept : ℕ
  /-- A poll reported the end of a result since then. -/
  ended : Bool

namespace Tally

/-- A connection owes the answer to its login. -/
def start : Tally := { due := .reply, received := 0, waiting := false, lost := false, kept := 0, ended := false }

/-- A result is asked for. -/
def begin (t : Tally) : Tally := { t with due := .result, received := 0, waiting := false, lost := false }

/-- The row that waits is given up. -/
def giveUp (t : Tally) : Tally := { t with waiting := false, lost := t.lost || t.waiting }

/-- One action more.  A closed statement and long data have no answer. -/
def step (t : Tally) : Action → Tally
  | .command .query _ | .command .stmtExecute _ | .nextResult _ => t.begin
  | .command .stmtPrepare _ | .command .stmtReset _ => { t with due := .reply }
  | .answered .row _ _ => { t.giveUp with received := t.received + 1, waiting := true }
  | .answered _ _ _ => { t.giveUp with due := .nothing }
  | .rowRequested => t.giveUp
  | .rowKept => { t with waiting := false, kept := t.kept + 1 }
  | .queryClosed _ => { t with kept := 0, ended := false, lost := t.lost || decide (t.kept ≠ 0) }
  | .eofReported _ => { t with ended := true }
  | _ => t

/-- All of the current result was read, and all its rows are in the row buffer. -/
def Complete (t : Tally) : Prop := t.due ≠ .result ∧ t.waiting = false ∧ t.lost = false

/-- A row count that is not 0 is that of a complete result. -/
def Right (t : Tally) : Prop := t.ended = true → t.kept ≠ 0 → t.Complete ∧ t.kept = t.received

/-- What an action has to find for the row count to stay right.  Nothing is asked for while something is owed, and no
result while there are rows in the row buffer.  A row comes while a result is owed.  It goes into the row buffer once,
if no other row of the result was lost and no end reported since the buffer was emptied, and it is given up only if
the buffer is empty.  No end is reported while a result is owed. -/
def Fair (t : Tally) : Action → Prop
  | .command .query _ | .command .stmtExecute _ | .nextResult _ => t.due = .nothing ∧ t.kept = 0
  | .command .stmtPrepare _ | .command .stmtReset _ => t.due = .nothing
  | .answered .row _ _ => t.due = .result ∧ (t.waiting = true → t.kept = 0)
  | .answered _ _ _ | .rowRequested => t.waiting = true → t.kept = 0
  | .rowKept => t.waiting = true ∧ t.lost = false ∧ t.ended = false
  | .eofReported _ => t.due ≠ .result
  | _ => True

instance (t : Tally) : Decidable t.Complete := by
  unfold Complete
  infer_instance

instance (t : Tally) : Decidable t.Right := by
  unfold Right
  infer_instance

instance (t : Tally) (a : Action) : Decidable (t.Fair a) := by
  rcases a with ⟨⟩
  case command c _ => rcases c with ⟨⟩ <;> dsimp only [Fair] <;> infer_instance
  case answered answer _ _ => rcases answer with ⟨⟩ <;> dsimp only [Fair] <;> infer_instance
  all_goals dsimp only [Fair]; infer_instance

/-! ### Fair histories -/

/-- Rows that are not lost are in the row buffer, but for the one that waits; there are rows in it only if none is lost,
and while a result is owed only if no end was reported; and a row waits only then. -/
structure Sound (t : Tally) : Prop where
  received : t.lost = false → t.received = t.kept + t.waiting.toNat
  lost : t.kept ≠ 0 → t.lost = false
  ended : t.due = .result → t.kept ≠ 0 → t.ended = false
  waiting : t.waiting = true → t.due = .result

variable {t : Tally}

lemma sound_start : start.Sound := ⟨fun _ => rfl, fun h => absurd rfl h, nofun, nofun⟩

lemma Sound.right (h : t.Sound) : t.Right := by
  intro hended hkept
  have hdue : t.due ≠ .result := fun hr => Bool.false_ne_true ((h.ended hr hkept).symm.trans hended)
  have hwaiting : t.waiting = false := Bool.eq_false_iff.mpr fun hw => hdue (h.waiting hw)
  have hlost := h.lost hkept
  have hcount := h.received hlost
  rw [hwaiting] at hcount
  exact ⟨⟨hdue, hwaiting, hlost⟩, hcount.symm⟩

/-- A result is asked for when nothing is owed, and the row buffer is empty. -/
lemma sound_begin (hk : t.kept = 0) : t.begin.Sound where
  received _ := hk.symm
  lost hne := absurd hk hne
  ended _ hne := absurd hk hne
  waiting := nofun

lemma Sound.giveUp (h : t.Sound) (hw : t.waiting = true → t.kept = 0) : t.giveUp.Sound where
  received hl := by
    obtain ⟨hlost, hwaiting⟩ := Bool.or_eq_false_iff.mp hl
    have hcount := h.received hlost
    rwa [hwaiting] at hcount
  lost hne := Bool.or_eq_false_iff.mpr ⟨h.lost hne, Bool.eq_false_iff.mpr fun hwaiting => hne (hw hwaiting)⟩
  ended := h.ended
  waiting := nofun

/-- **One action.** -/
theorem Sound.step (h : t.Sound) {a : Action} (hf : t.Fair a) : (t.step a).Sound := by
  have hreply : t.due = .nothing → Sound { t with due := .reply } := fun hdue =>
    { h with
      ended := nofun
      waiting := fun hw => by
        have hresult := h.waiting hw
        rw [hdue] at hresult
        cases hresult }
  cases a with
  | command c _ =>
    cases c with
    | query => exact sound_begin hf.2
    | stmtExecute => exact sound_begin hf.2
    | stmtPrepare => exact hreply hf
    | stmtReset => exact hreply hf
    | stmtSendLongData => exact h
    | stmtClose => exact h
  | nextResult _ => exact sound_begin hf.2
  | answered answer _ _ =>
    cases answer with
    | row =>
      have hup := h.giveUp hf.2
      have hcount := hup.received
      exact
        { received := fun hl => congrArg (· + 1) (hcount hl)
          lost := hup.lost
          ended := hup.ended
          waiting := fun _ => hf.1 }
    | ok => exact { h.giveUp hf with ended := nofun, waiting := nofun }
    | err _ => exact { h.giveUp hf with ended := nofun, waiting := nofun }
    | eof => exact { h.giveUp hf with ended := nofun, waiting := nofun }
  | rowRequested => exact h.giveUp hf
  | rowKept =>
    obtain ⟨hwaiting, hlost, hended⟩ := hf
    have hcount := h.received hlost
    rw [hwaiting] at hcount
    exact ⟨fun _ => hcount, fun _ => hlost, fun _ _ => hended, nofun⟩
  | queryClosed _ =>
    refine ⟨fun hl => ?_, fun hne => absurd rfl hne, fun _ hne => absurd rfl hne, h.waiting⟩
    obtain ⟨hlost, hkept⟩ := Bool.or_eq_false_iff.mp hl
    have hcount := h.received hlost
    rwa [not_not.mp (of_decide_eq_false hkept)] at hcount
  | eofReported _ => exact { h with ended := fun hdue => absurd hdue hf }
  | _ => exact h

end Tally

/-- The tally of a history, newest first. -/
def tally (x : List Action) : Tally := x.foldr (fun a t => t.step a) .start

/-- The action finds what it has to. -/
def Action.Counts (a : Action) (x : List Action) : Prop := (tally x).Fair a

instance (a : Action) (x : List Action) : Decidable (a.Counts x) := inferInstanceAs (Decidable ((tally x).Fair a))

lemma tally_sound {x : List Action} (h : Chronicle Action.Counts x) : (tally x).Sound := by
  induction x with
  | nil => exact Tally.sound_start
  | cons a x ih => exact (ih h.2).step h.1

/-! ### The tally and the connection -/

/-- Actions that neither fill nor empty the row buffer, nor report the end of a result. -/
def Action.Uncounted : Action → Bool
  | .rowKept | .queryClosed _ | .eofReported _ => false
  | _ => true

lemma Action.uncounted_of_neutral {a : Action} (h : a.Neutral = true) : a.Uncounted = true := by
  cases a <;> first | rfl | cases h

namespace Control

/-- The tally holds the number of buffered rows and the flag. -/
structure Tallied (c : Control) (x : List Action) : Prop where
  kept : (tally x).kept = c.aux.rowCount
  ended : (tally x).ended = c.aux.allRowsBuffered

variable {c c' : Control} {x y : List Action} {t : PacketType} {k : ℕ}

/-- What leaves the row buffer alone. -/
lemma Tallied.same (h : c.Tallied x) (hy : ∀ a ∈ y, a.Uncounted = true) (hc : c'.aux.rowCount = c.aux.rowCount)
    (ha : c'.aux.allRowsBuffered = c.aux.allRowsBuffered) : c'.Tallied (y ++ x) := by
  have htally : (tally (y ++ x)).kept = (tally x).kept ∧ (tally (y ++ x)).ended = (tally x).ended := by
    clear hc ha
    induction y with
    | nil => exact ⟨rfl, rfl⟩
    | cons a y ih =>
      obtain ⟨hstep, hrest⟩ := List.forall_mem_cons.mp hy
      have hone : ∀ t : Tally, (t.step a).kept = t.kept ∧ (t.step a).ended = t.ended := by
        intro t
        cases a with
        | command c _ => cases c <;> exact ⟨rfl, rfl⟩
        | answered answer _ _ => cases answer <;> exact ⟨rfl, rfl⟩
        | rowKept => cases hstep
        | queryClosed _ => cases hstep
        | eofReported _ => cases hstep
        | _ => exact ⟨rfl, rfl⟩
      exact ⟨(hone _).1.trans (ih hrest).1, (hone _).2.trans (ih hrest).2⟩
  exact ⟨htally.1.trans (h.kept.trans hc.symm), htally.2.trans (h.ended.trans ha.symm)⟩

lemma Kept.tallied (hk : Kept k c y c') (h : c.Tallied x) : c'.Tallied (y ++ x) :=
  h.same (fun a ha => Action.uncounted_of_neutral (hk.neutral a ha)) (by rw [hk.aux]) (by rw [hk.aux])

lemma Reads.tallied (hr : Reads t c y c') (h : c.Tallied x) : c'.Tallied (y ++ x) := by
  cases hr with
  | @answered a y c' hn ha =>
    have hy : ∀ b ∈ .answered a c.status c.commandStatus :: y, b.Uncounted = true :=
      List.forall_mem_cons.mpr ⟨rfl, fun b hb => Action.uncounted_of_neutral (hn b hb)⟩
    cases ha with
    | ok _ => exact h.same hy rfl rfl
    | err _ => exact h.same hy rfl rfl
    | eof _ => exact h.same hy rfl rfl
    | row => exact h.same hy rfl rfl
  | waits hk => exact hk.tallied h
  | @rejected n y c' _ hk =>
    rw [List.append_assoc]
    have herr : (c.afterErr n).Tallied ([.answered (.err n) c.status c.commandStatus] ++ x) :=
      h.same (List.forall_mem_singleton.mpr rfl) rfl rfl
    exact hk.tallied herr

/-- A row that is put into the row buffer. -/
lemma Tallied.keep (h : c.Tallied x) : Tallied { c with aux := c.kept } (.rowKept :: x) :=
  ⟨congrArg (· + 1) h.kept, h.ended⟩

lemma AuxMove.tallied {a : Aux} (hm : AuxMove c y a) (h : c.Tallied x) : Tallied { c with aux := a } (y ++ x) := by
  cases hm with
  | close ownsText buffering => exact ⟨rfl, rfl⟩
  | keepFault _ _ => exact h.keep.same (List.forall_mem_singleton.mpr rfl) rfl rfl
  | resolved _ => exact h.same (List.forall_mem_nil _) rfl rfl
  | settled _ => exact h.same (List.forall_mem_nil _) rfl rfl
  | callback _ _ _ _ _ => exact h.same (List.forall_mem_singleton.mpr rfl) rfl rfl
  | begin _ => exact h.same (List.forall_mem_singleton.mpr rfl) rfl rfl
  | rowNext => exact h.same (List.forall_mem_singleton.mpr rfl) rfl rfl
  | own _ => exact h.same (List.forall_mem_nil _) rfl rfl
  | grow _ => exact h.same (List.forall_mem_singleton.mpr rfl) rfl rfl
  | useRows _ => exact h.same (List.forall_mem_nil _) rfl rfl
  | shareRow _ => exact h.same (List.forall_mem_nil _) rfl rfl

/-- **Every move keeps the tally**, and none but those of the row buffer and the end of a result changes it. -/
theorem Move.tallied (hm : Move c y c') (h : c.Tallied x) : c'.Tallied (y ++ x) := by
  cases hm with
  | quiet hq => exact hq.kept.tallied h
  | fail site => exact (Kept.fail site _ _).tallied h
  | start _ _ => exact h.same (List.forall_mem_nil _) rfl rfl
  | connected _ hp => exact (hp.kept.tallied h).same (List.forall_mem_nil _) rfl rfl
  | drained _ => exact h.same (List.forall_mem_singleton.mpr rfl) rfl rfl
  | lost _ => exact (Kept.fail .writeCallback _ _).tallied h
  | @packet _ _ t q payload _ hd =>
    rw [List.append_assoc]
    have hpop : Tallied { c with queue := q } ([.packet t payload c.status] ++ x) :=
      h.same (List.forall_mem_singleton.mpr rfl) rfl rfl
    exact hd.reads.tallied hpop
  | @command _ y cmd tls hc =>
    have hy : ∀ a ∈ y, a.Uncounted = true := fun a ha => by
      rcases hc.sends.neutral a ha with hn | ⟨s, rfl⟩
      · exact Action.uncounted_of_neutral hn
      · rfl
    refine h.same ?_ (by rw [hc.sends.aux]) (by rw [hc.sends.aux])
    exact List.forall_mem_append.mpr ⟨hy, List.forall_mem_cons.mpr ⟨rfl, List.forall_mem_singleton.mpr rfl⟩⟩
  | request hp =>
    rw [List.append_assoc]
    have hasked : c.Tallied ([.rowRequested] ++ x) := h.same (List.forall_mem_singleton.mpr rfl) rfl rfl
    exact (hp.kept.tallied hasked).same (List.forall_mem_nil _) rfl rfl
  | nextResult _ hp =>
    rw [List.append_assoc]
    have hasked : Tallied { c with serverErrno := 0, serverStatus := 0 } ([.nextResult c.status] ++ x) :=
      h.same (List.forall_mem_singleton.mpr rfl) rfl rfl
    exact (hp.kept.tallied hasked).same (List.forall_mem_nil _) rfl rfl
  | pollEof => exact ⟨h.kept, rfl⟩
  | keep _ _ hp =>
    rw [List.append_assoc]
    have hkept : Tallied { c with aux := c.kept } ([.rowRequested] ++ .rowKept :: x) :=
      h.keep.same (List.forall_mem_singleton.mpr rfl) rfl rfl
    exact (hp.kept.tallied hkept).same (List.forall_mem_nil _) rfl rfl
  | aux ha => exact ha.tallied h

end Control

/-! ### Runs -/

/-- Where the row count is not 0, all of the current result was read, all its rows are in the row buffer, and it is
their number. -/
def RowCountRight (con : Con) : Prop :=
  queryRowCount con ≠ 0 → (tally con.trace).Complete ∧ queryRowCount con = (tally con.trace).received

instance (con : Con) : Decidable (RowCountRight con) := by
  unfold RowCountRight
  infer_instance

lemma rowCountRight_of_tallied {con : Con} (h : con.control.Tallied con.trace) (hr : (tally con.trace).Right) :
    RowCountRight con := by
  have hkept : (tally con.trace).kept = con.rowBufferCount := h.kept
  have hended : (tally con.trace).ended = con.allRowsBuffered := h.ended
  intro hne
  unfold queryRowCount at hne ⊢
  split_ifs at hne ⊢ with hrows hall
  · exact absurd rfl hne
  · exact absurd rfl hne
  · obtain ⟨hcomplete, hcount⟩ := hr (hended.trans (Bool.eq_true_of_not_eq_false hall)) (hkept ▸ hne)
    exact ⟨hcomplete, hkept.symm.trans hcount⟩

/-- **When the row count means complete**: in every run from a fresh connection whose actions find what they have to, in
every state reached, and at every moment in between, inside calls and callbacks. -/
theorem row_count {con : Con} (h : Initial con) (es : List SysEvent)
    (hf : Chronicle Action.Counts (run sysStep con es).trace) :
    Throughout sysStep RowCountRight con es ∧ ∀ x, x <:+ (run sysStep con es).trace → (tally x).Right := by
  have hright : ∀ x, x <:+ (run sysStep con es).trace → (tally x).Right := by
    rintro x ⟨y, hy⟩
    rw [← hy] at hf
    exact (tally_sound hf.suffix).right
  refine ⟨throughout_iff_run.mpr fun fs hfs => ?_, hright⟩
  obtain ⟨gs, rfl⟩ := hfs
  have htallied : (run sysStep con fs).control.Tallied (run sysStep con fs).trace := by
    refine run_invariant_moves (fun hc hm => hm.tallied hc) ?_ fs
    cases h
    exact ⟨rfl, rfl⟩
  have hsuffix := run_suffix (run sysStep con fs) gs
  rw [← run_append] at hsuffix
  exact rowCountRight_of_tallied htallied (hright _ hsuffix)

/-- A buffered result of one row, read to its end and closed. -/
theorem row_count_one :
    Throughout sysStep RowCountRight (.calm 0)
        (.call (.calm []) (.queryBufferRows true) :: connectAndQuery 2 ++ bufferedResult ++
          [.call (.calm []) .queryClose]) ∧
      ∀ x, x <:+ (run sysStep (.calm 0) (.call (.calm []) (.queryBufferRows true) :: connectAndQuery 2 ++
        bufferedResult ++ [.call (.calm []) .queryClose])).trace → (tally x).Right :=
  row_count (Con.calm_initial 0) _ (by decide +kernel)

/-- A query without rows, and a poll of the connection behind its close: of the next result, the first row is counted
before the end. -/
def pollBehindClose : List SysEvent :=
  .call (.calm []) (.queryBufferRows true) :: connectAndQuery 2 ++ [
    .poll (.calm [.wrote none, .read 65536 (okPacket 1 2)]),
    .call (.calm []) .queryClose,
    .poll (.calm []),
    .call (.calm []) (.query [0x53] []),
    .poll (.calm [.wrote none, .read 65536 (resultHead ++ frame 4 [1, 0x78])])]

/-- A further result is asked for while the rows of the one before are counted. -/
def chainedResult : List SysEvent :=
  .call (.calm []) (.queryBufferRows true) :: connectAndQuery 2 ++ [
    .poll (.calm [.wrote none, .read 65536 (resultHead ++ frame 4 [1, 0x78] ++ eofPacket 5 10)]),
    .poll (.calm []),
    .call (.calm []) .queryNextResult]

/-- The flag of an earlier result speaks of a later one: rows are counted before the end of the result, and before its
start. -/
theorem row_count_early :
    ∃ con es es', Initial con ∧
      (queryRowCount (run sysStep con es) = 1 ∧ (tally (run sysStep con es).trace).due = .result ∧
        ¬ RowCountRight (run sysStep con es)) ∧
      queryRowCount (run sysStep con es') = 1 ∧ (tally (run sysStep con es').trace).received = 0 ∧
        ¬ RowCountRight (run sysStep con es') :=
  ⟨.calm 0, pollBehindClose, chainedResult, Con.calm_initial 0, by decide +kernel, by decide +kernel⟩

end LibAttachSql
