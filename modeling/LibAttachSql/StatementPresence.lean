import LibAttachSql.ActFrames

/-!
# The statement behind the answer to a prepare

`attachsql_statement_prepare` makes a new object and `attachsql_statement_close` drops it, both at once; the answer of
the server comes later, over several packets, and is stored in whatever `con->stmt` points to by then.  Here the
statement objects are numbered as they are made.  As long as a statement is neither prepared nor closed while a packet of
a prepare is expected, the packets of a prepare meet the object that was made for it; a close or a second prepare in
between leaves them with a null pointer or with an object of another statement.
-/

namespace LibAttachSql

open Lib

/-! ### Prepares under way -/

namespace Con

/-- A packet of a prepare is expected. -/
def ExpectsPrepare (con : Con) : Prop := ∃ t ∈ con.nextPacketQueue, t.prepares = true

instance (con : Con) : Decidable con.ExpectsPrepare := by
  unfold ExpectsPrepare
  infer_instance

/-- A prepare is being answered: one of its packets is expected, or the end of its parameters, after which its columns
are expected. -/
def Preparing (con : Con) : Prop := con.ExpectsPrepare ∨ con.commandStatus = .readStmtParam

lemma expectsPrepare_iff (con : Con) : con.ExpectsPrepare ↔ ∃ t ∈ con.definitions, t.prepares = true := by
  have hdefines : ∀ t : PacketType, t.prepares = true → t.defines = true := fun t ht => by
    unfold PacketType.defines
    rw [ht]
    rfl
  unfold ExpectsPrepare definitions
  constructor
  · rintro ⟨t, ht, hp⟩
    exact ⟨t, List.mem_filter.mpr ⟨ht, hdefines t hp⟩, hp⟩
  · rintro ⟨t, ht, hp⟩
    exact ⟨t, (List.mem_filter.mp ht).1, hp⟩

/-- There is a statement as there was one before, and no prepare is being answered that was not before. -/
structure Keeps (con con' : Con) : Prop where
  stmt_isSome : con'.stmt.isSome = con.stmt.isSome
  preparing : con'.Preparing → con.Preparing

namespace Keeps

variable {con con₁ con' : Con}

lemma trans (h : con.Keeps con₁) (h' : con₁.Keeps con') : con.Keeps con' :=
  ⟨h'.stmt_isSome.trans h.stmt_isSome, fun hp => h.preparing (h'.preparing hp)⟩

lemma same (hs : con'.stmt.isSome = con.stmt.isSome) (hq : con'.nextPacketQueue = con.nextPacketQueue)
    (hc : con'.commandStatus = con.commandStatus) : con.Keeps con' := by
  refine ⟨hs, fun h => ?_⟩
  unfold Preparing ExpectsPrepare at h ⊢
  rwa [← hq, ← hc]

/-- No packet of a prepare is expected that was not expected before. -/
lemma of_definitions (hs : con'.stmt.isSome = con.stmt.isSome)
    (hq : ∀ t ∈ con'.definitions, t.prepares = true → t ∈ con.definitions)
    (hc : con'.commandStatus = .readStmtParam → con.commandStatus = .readStmtParam) : con.Keeps con' := by
  refine ⟨hs, fun h => h.imp (fun h => ?_) hc⟩
  obtain ⟨t, ht, hp⟩ := (expectsPrepare_iff _).mp h
  exact (expectsPrepare_iff _).mpr ⟨t, hq t ht hp, hp⟩

end Keeps

/-- The statement, among the objects. -/
lemma stmt_eq_of_objects {con' : Con} {o : Objects} (h : con'.objects = o) : con'.stmt = o.stmt :=
  congrArg Objects.stmt h

lemma Passes.keeps {con con' : Con} (h : con.Passes con') : con.Keeps con' := by
  refine .of_definitions (congrArg Option.isSome (stmt_eq_of_objects h.objects_eq)) (fun t ht _ => ?_)
    h.commandStatus_of
  rcases h.definitions_eq with hq | hq
  · rwa [hq] at ht
  · rw [hq] at ht
    cases ht

/-- **Reading a packet keeps the statement**, and only a packet of a prepare leads to further packets of a prepare. -/
lemma Reads.keeps {env : Env} {t : PacketType} {con₀ con con' : Con} {q : List PacketType}
    (h : con.Reads env t con') (ho : con.objects = con₀.objects) (hq : con₀.nextPacketQueue = t :: q)
    (hq' : con.nextPacketQueue = q) (hc : con.commandStatus = con₀.commandStatus) : con₀.Keeps con' := by
  have hstmt : con.stmt = con₀.stmt := stmt_eq_of_objects ho
  have hpop : con₀.Keeps con := by
    refine .of_definitions (congrArg Option.isSome hstmt) (fun u hu _ => ?_) fun h => hc.symm.trans h
    unfold definitions at hu ⊢
    rw [hq'] at hu
    rw [hq]
    exact List.mem_filter.mpr ⟨List.mem_cons_of_mem t (List.mem_filter.mp hu).1, (List.mem_filter.mp hu).2⟩
  cases h with
  | passes h => exact hpop.trans h.keeps
  | paramsEnd hs hl _ =>
    exact ⟨congrArg Option.isSome ((stmt_eq_of_objects hl).trans hstmt), fun _ => .inr (hc.symm.trans hs)⟩
  | header _ _ hl hq hs =>
    have hkeeps : con.Keeps con' := by
      refine .of_definitions (congrArg Option.isSome (stmt_eq_of_objects hl)) (fun u hu hp => ?_) fun h => ?_
      · rcases hq with hq | hq
        · rwa [hq] at hu
        · rw [hq] at hu
          rcases List.mem_cons.mp hu with rfl | hu
          · cases hp
          · exact hu
      · rw [hs] at h
        cases h
    exact hpop.trans hkeeps
  | column c _ _ _ hl hq hs =>
    have hkeeps : con.Keeps con' := by
      refine .of_definitions (congrArg Option.isSome (stmt_eq_of_objects hl)) (fun u hu hp => ?_) fun h => hs.symm.trans h
      rcases hq with hq | ⟨hq, -⟩
      · rwa [hq] at hu
      · rw [hq] at hu
        rcases List.mem_cons.mp hu with rfl | hu
        · cases hp
        · exact hu
    exact hpop.trans hkeeps
  | statement stmt' ht hs hl _ =>
    refine ⟨?_, fun _ => .inl ⟨t, ?_, ht⟩⟩
    · rw [stmt_eq_of_objects hl, ← hstmt, hs]
      rfl
    · rw [hq]
      exact List.mem_cons_self

end Con

/-! ### Acts that leave the statement alone -/

section Acts

variable (env : Env) (con : Con)

lemma processPacket_keeps : con.Keeps (processPacket env con).con := by
  rcases processPacket_cases env con with h | ⟨b, seq, payload, t, q, -, hq, -, hround⟩
  · exact h.passes.keeps
  · rw [hround]
    have hready : (packetReady con b t seq payload.length).nextPacketQueue = q :=
      (packetReady_nextPacketQueue con).trans (congrArg List.tail hq)
    exact (packetDispatch_reads env _ t).keeps (packetReady_objects con) hq hready (packetReady_commandStatus con)

/-- A command other than a prepare expects no packet of one. -/
lemma Commanded.expectsPrepare {cmd : Command} {con con' : Con} (h : Commanded cmd con con') (hc : cmd ≠ .stmtPrepare)
    (he : con'.ExpectsPrepare) : con.ExpectsPrepare := by
  obtain ⟨t, ht, hp⟩ := he
  obtain ⟨q, hq, hq'⟩ := h.queue_eq
  have hanswer : cmd.answer = .response := if_neg hc
  have hmem : t ∈ q := by
    rcases hq' with hq' | hq'
    · rwa [hq'] at ht
    · rw [hq', hanswer] at ht
      rcases List.mem_cons.mp ht with rfl | ht
      · cases hp
      · exact ht
  rcases hq with rfl | rfl
  · exact ⟨t, hmem, hp⟩
  · cases hmem

lemma Commanded.ne_readStmtParam {cmd : Command} {con con' : Con} (h : Commanded cmd con con') :
    con'.commandStatus ≠ .readStmtParam := by
  rcases h.commandStatus_eq with hs | hs | hs
  · rw [hs]
    decide
  · rw [hs]
    decide
  · rw [hs]
    decide

lemma Commanded.keeps {cmd : Command} {con con' : Con} (h : Commanded cmd con con') (hc : cmd ≠ .stmtPrepare) :
    con.Keeps con' := by
  refine ⟨congrArg (fun d : Data => d.stmt.isSome) h.data_eq, ?_⟩
  rintro (he | hs)
  · exact .inl (h.expectsPrepare hc he)
  · exact absurd hs h.ne_readStmtParam

lemma commandNextResult_keeps : con.Keeps (commandNextResult env con).1 := by
  rcases commandNextResult_cases env con with h | ⟨hdata, hq, hs⟩
  · rw [h]
    exact .same rfl rfl rfl
  · refine .of_definitions (congrArg (fun d : Data => d.stmt.isSome) hdata) (fun t ht _ => ?_) fun h => ?_
    · rwa [hq] at ht
    · rw [hs] at h
      cases h

lemma Con.Fills.keeps {con con' : Con} (h : con.Fills con') : con.Keeps con' :=
  .same (congrArg (fun o : Objects => o.stmt.isSome) h.objects_eq) h.queue_eq h.commandStatus_eq

/-- **Whatever neither prepares nor closes a statement keeps it.** -/
theorem Act.keeps {con : Con} {a : Act} (hl : a.Legal con) (hp : ∀ env statement, a ≠ .prepare env statement)
    (hc : ∀ env, a ≠ .closeStatement env) : con.Keeps (a.apply con) := by
  cases a with
  | rest con' => exact hl.passes.keeps
  | setOption capabilities => exact .same rfl rfl rfl
  | packet env => exact processPacket_keeps env con
  | alloc env n => exact (onAlloc_passes env con n).keeps
  | read bytes => exact (readInto_passes con bytes).keeps
  | decompress env => exact (decompress_passes env con).keeps
  | greet env => exact (push_passes env con rfl).keeps
  | command env cmd data => exact (commandSend_commanded env con data).keeps hl
  | requestRow env => exact (requestRow_passes env con).keeps
  | nextResult env => exact commandNextResult_keeps env con
  | prepare env statement => exact absurd rfl (hp env statement)
  | closeStatement env => exact absurd rfl (hc env)
  | editStmt f => exact .same (Option.isSome_map ..) rfl rfl
  | commandFree => exact .same rfl rfl rfl
  | closeQuery => exact .same rfl rfl rfl
  | bufferRows enable =>
    unfold Act.apply queryBufferRows
    split_ifs
    · exact .same rfl rfl rfl
    · exact .same rfl rfl rfl
  | keepRow env => exact (keepRow_passes env con).keeps
  | rowGet env error => exact (queryRowGet_fills env con error).keeps
  | bufferRowGet => exact (queryBufferRowGet_fills con).keeps
  | columnGet column => exact (queryColumnGet_fills con column).keeps
  | stmtRowGet env error => exact (statementRowGet_fills env con error).keeps

end Acts

/-! ### Statements by number -/

/-- A connection, the number of statements made so far, the one `con->stmt` points to, and the one whose prepare is
answered or was answered last. -/
structure Watched where
  con : Con
  made : ℕ
  current : Option ℕ
  answering : Option ℕ

namespace Watched

/-- A prepare makes the next statement, and its answer is what the server sends next unless it has yet to answer an
earlier prepare; a close drops the statement. -/
def step (w : Watched) (a : Act) : Watched :=
  match a with
  | .prepare env _ =>
    if env.newArray 1 sizeofStmt then
      { con := a.apply w.con
        made := w.made + 1
        current := some w.made
        answering := if w.con.ExpectsPrepare then w.answering else some w.made }
    else { w with con := a.apply w.con, current := none }
  | .closeStatement _ => { w with con := a.apply w.con, current := none }
  | _ => { w with con := a.apply w.con }

/-- A connection on which no statement was made. -/
def start (con : Con) : Watched := { con := con, made := 0, current := none, answering := none }

/-- While a packet of a prepare is expected there is a statement, and it is the one made by the prepare that is being
answered. -/
def Present (w : Watched) : Prop :=
  w.con.ExpectsPrepare → w.con.stmt.isSome = true ∧ ∃ n, w.answering = some n ∧ w.current = some n

/-- No statement is prepared or closed while a packet of a prepare is expected. -/
def Apart (w : Watched) : Act → Prop
  | .prepare _ _ | .closeStatement _ => ¬ w.con.ExpectsPrepare
  | _ => True

instance (w : Watched) (a : Act) : Decidable (w.Apart a) := by
  rcases a with ⟨⟩ <;> dsimp only [Apart] <;> infer_instance

/-- A step the library can take. -/
def Legal (w : Watched) (a : Act) : Prop := a.Legal w.con

/-- The statement that `con->stmt` points to is numbered, and while a prepare is being answered it is the one made for
that. -/
structure Tracked (w : Watched) : Prop where
  numbered : w.con.stmt.isSome = w.current.isSome
  answered : w.con.Preparing → ∃ n, w.answering = some n ∧ w.current = some n

variable {w : Watched}

lemma Tracked.present (h : w.Tracked) : w.Present := by
  intro he
  obtain ⟨n, ha, hc⟩ := h.answered (.inl he)
  refine ⟨?_, n, ha, hc⟩
  rw [h.numbered, hc]
  rfl

lemma tracked_start {con : Con} (h : Initial con) : (start con).Tracked := by
  cases h with
  | made =>
    refine ⟨rfl, ?_⟩
    rintro (⟨t, ht, -⟩ | hs)
    · cases ht
    · cases hs

/-- What keeps the statement keeps it numbered. -/
lemma Tracked.keeps (h : w.Tracked) {con' : Con} (hk : w.con.Keeps con') : Tracked { w with con := con' } :=
  ⟨hk.stmt_isSome.trans h.numbered, fun hp => h.answered (hk.preparing hp)⟩

lemma step_prepare (env : Env) (statement : List UInt8) : w.step (.prepare env statement) =
    if env.newArray 1 sizeofStmt then
      { con := prepareNow env w.con statement
        made := w.made + 1
        current := some w.made
        answering := if w.con.ExpectsPrepare then w.answering else some w.made }
    else { w with con := prepareNow env w.con statement, current := none } := rfl

/-- A statement that is made while no prepare is being answered is the one its answer is for. -/
lemma tracked_prepared {env : Env} {statement : List UInt8} (hg : ¬ w.con.ExpectsPrepare) :
    (w.step (.prepare env statement)).Tracked := by
  rcases prepareNow_cases env w.con statement with ⟨hnew, hc⟩ | ⟨hnew, hobjects, hq, hs⟩
  · rw [step_prepare, if_pos hnew, if_neg hg]
    exact ⟨congrArg (fun d : Data => d.stmt.isSome) hc.data_eq, fun _ => ⟨w.made, rfl, rfl⟩⟩
  · rw [step_prepare, if_neg (Bool.eq_false_iff.mp hnew)]
    refine ⟨congrArg (fun o : Objects => o.stmt.isSome) hobjects, ?_⟩
    rintro (he | hs')
    · unfold Con.ExpectsPrepare at he hg
      exact absurd (hq ▸ he) hg
    · exact absurd (hs.symm.trans hs') (by decide)

/-- A statement that is closed while no prepare is being answered leaves none being answered. -/
lemma Tracked.closed {env : Env} (h : w.Tracked) (hg : ¬ w.con.ExpectsPrepare) :
    (w.step (.closeStatement env)).Tracked := by
  have hstep : w.step (.closeStatement env) = { w with con := statementClose env w.con, current := none } := rfl
  rw [hstep]
  rcases statementClose_cases env w.con with ⟨hnone, hobjects, hq, hs⟩ | ⟨-, con₁, hobjects, hq, hc⟩
  · refine ⟨?_, fun hp => ?_⟩
    · rw [Con.stmt_eq_of_objects hobjects]
      exact congrArg Option.isSome hnone
    · unfold Con.Preparing Con.ExpectsPrepare at hp
      rw [hq, hs] at hp
      obtain ⟨n, -, hcurrent⟩ := h.answered hp
      have hsome := h.numbered
      rw [hnone, hcurrent] at hsome
      cases hsome
  · have hkeeps := hc.keeps (by decide)
    refine ⟨hkeeps.stmt_isSome.trans (congrArg (fun o : Objects => o.stmt.isSome) hobjects), ?_⟩
    rintro (he | hs)
    · obtain ⟨t, ht, hp⟩ := hc.expectsPrepare (by decide) he
      rw [hq] at ht
      exact absurd ⟨t, ht, hp⟩ hg
    · exact absurd hs hc.ne_readStmtParam

/-- **One act.** -/
theorem tracked_step {a : Act} (h : w.Tracked) (hl : w.Legal a) (hg : w.Apart a) : (w.step a).Tracked := by
  cases a with
  | prepare env statement => exact tracked_prepared hg
  | closeStatement env => exact h.closed hg
  | _ => exact h.keeps (Act.keeps hl (by intro _ _ h; cases h) (by intro _ h; cases h))

end Watched

/-- **The statement behind the answer to a prepare is there, and is the one that was made for it**, in every run in which
no statement is prepared or closed while a packet of a prepare is expected. -/
theorem statement_present {con : Con} (h : Initial con) (as : List Act)
    (hl : Along Watched.step Watched.Legal (.start con) as) (hg : Along Watched.step Watched.Apart (.start con) as) :
    Throughout Watched.step Watched.Present (.start con) as := by
  have hstep : ∀ w a, Watched.Tracked w → w.Legal a ∧ w.Apart a → Watched.Tracked (w.step a) :=
    fun w a h ha => Watched.tracked_step h ha.1 ha.2
  exact throughout_of_invariant hstep (fun w h => h.present) (Watched.tracked_start h) (hl.and hg)

/-- A connection that has been opened. -/
def Con.opened : Con := { Con.calm 0 with stream := true, uv := .reading, status := .idle }

/-- The answer to the prepare of a statement without parameters and columns, as the first packet behind a command. -/
def prepareOkPacket : List UInt8 := frame 1 ([0, 7, 0, 0, 0, 0, 0, 0, 0, 0, 0, 0])

/-- A statement is prepared, its answer read, and the statement closed. -/
def preparedRun : List Act := [
  .rest .opened,
  .prepare .calm [0x53],
  .alloc .calm 65536,
  .read prepareOkPacket,
  .packet .calm,
  .closeStatement .calm]

theorem statement_present_prepared : Throughout Watched.step Watched.Present (.start (Con.calm 0)) preparedRun := by
  have hl : Along Watched.step Watched.Legal (.start (Con.calm 0)) preparedRun :=
    ⟨.same rfl rfl rfl (.same rfl rfl), trivial, trivial, trivial, trivial, trivial, trivial⟩
  have hg : Along Watched.step Watched.Apart (.start (Con.calm 0)) preparedRun :=
    ⟨trivial, by decide +kernel, trivial, trivial, trivial, by decide +kernel, trivial⟩
  exact statement_present (Con.calm_initial 0) preparedRun hl hg

/-- A connection is opened, a statement prepared and closed at once. -/
def closedAtOnce : List SysEvent := [
  .call (.calm [.resolved none, .connected none]) .connect,
  .poll (.calm [.read 65536 (greetingPacket 2)]),
  .poll (.calm [.wrote none, .read 65536 (okPacket 2 2)]),
  .call (.calm []) (.statementPrepare [0x53]),
  .call (.calm []) .statementClose]

/-- A statement that is closed before its prepare is answered leaves the answer with a null pointer; one that is prepared
before another is answered takes the answer of the other. -/
theorem statement_absent :
    (run sysStep (Con.calm 0) closedAtOnce).ExpectsPrepare ∧ (run sysStep (Con.calm 0) closedAtOnce).stmt.isNone ∧
      ¬ Throughout Watched.step Watched.Present (.start (Con.calm 0))
        [.rest .opened, .prepare .calm [0x53], .closeStatement .calm] ∧
      ¬ Throughout Watched.step Watched.Present (.start (Con.calm 0))
        [.rest .opened, .prepare .calm [0x53], .prepare .calm [0x54]] := by
  have hend : ∀ as, Throughout Watched.step Watched.Present (.start (Con.calm 0)) as →
      (run Watched.step (.start (Con.calm 0)) as).Present := fun as h => throughout_iff_run.mp h as List.prefix_rfl
  refine ⟨by decide +kernel, by decide +kernel, fun h => ?_, fun h => ?_⟩
  · obtain ⟨hsome, -⟩ := hend _ h (by decide +kernel)
    exact absurd hsome (by decide +kernel)
  · obtain ⟨-, n, ha, hc⟩ := hend _ h (by decide +kernel)
    have hanswering : (run Watched.step (.start (Con.calm 0))
        [.rest .opened, .prepare .calm [0x53], .prepare .calm [0x54]]).answering = some 0 := by decide +kernel
    have hcurrent : (run Watched.step (.start (Con.calm 0))
        [.rest .opened, .prepare .calm [0x53], .prepare .calm [0x54]]).current = some 1 := by decide +kernel
    rw [hanswering] at ha
    rw [hcurrent, ← ha] at hc
    exact absurd hc (by decide)

end LibAttachSql
