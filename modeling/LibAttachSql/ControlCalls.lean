import LibAttachSql.Poll
import LibAttachSql.ControlReceive

/-!
# The calls of the interface follow the control relation

Commands, the callbacks of libuv, and the functions an application calls.  What runs inside a call, a turn of the event
loop or a callback of the application, is assumed to follow the relation too.
-/

namespace LibAttachSql

open Lib

section Moves

variable {con con' : Con}

/-- A move from the control state of a connection to that of another. -/
lemma move_does {c : Control} {x : List Action} (h : Control.Move con.control x c) (hc : con'.control = c)
    (ht : con'.trace = x ++ con.trace) : Does Control.Move con con' := ⟨x, ht, hc ▸ h⟩

/-- A step of the heap objects. -/
lemma own_does {o : Own} (h : con.own.Step o) (hc : con'.control = { con.control with aux.own := o })
    (ht : con'.trace = con.trace) : Does Control.Move con con' := move_does (.aux (.own h)) hc ht

end Moves

variable (env : Env) (con : Con)

/-! ### Commands -/

lemma commandWrite_does {command : Command} {data : List UInt8} {con' : Con} {failure : Option String}
    (hw : commandWrite env con command data = (con', failure)) : Does (Path Control.SendMove) con con' :=
  (sendWrite_does env _ hw).congr_left rfl rfl

section Commands

variable {c : Control} (hc : con.control = c.commandReset)

include hc

/-- The end of a command whose bytes are handed on. -/
lemma commandSent_does {con₁ con₂ : Con} {t : PacketType} (hP : Does (Path Control.SendMove) con con₁)
    (ht : t = .response ∨ t = .prepareResponse) (h : Does (Control.Pushed t) con₁ con₂) :
    Does (fun _ => Control.Commanded c) con (commandSent con₂) := by
  obtain ⟨x, hx, hP⟩ := hP
  obtain ⟨y, hy, hp⟩ := h
  refine ⟨.sent con₂.status :: (y ++ x), ?_, .sent (hc ▸ hP) ht hp⟩
  rw [List.cons_append, List.append_assoc, ← hx, ← hy]
  rfl

lemma commandSent_unanswered {con₁ : Con} (hP : Does (Path Control.SendMove) con con₁) :
    Does (fun _ => Control.Commanded c) con (commandSent con₁) := by
  obtain ⟨x, hx, hP⟩ := hP
  exact ⟨.sent con₁.status :: x, congrArg _ hx, .unanswered (hc ▸ hP)⟩

lemma commandSendPlain_does (command : Command) (data : List UInt8) :
    Does (fun _ => Control.Commanded c) con (commandSendPlain env con command data).1 := by
  unfold commandSendPlain
  split
  · next con' name hw =>
    obtain ⟨x, hx, hP⟩ := commandWrite_does env con hw
    exact ⟨.failed .commandSend con'.status con'.serverErrno :: x, congrArg _ hx, .failed (hc ▸ hP)⟩
  · next con' hw =>
    have hP := commandWrite_does env con hw
    unfold expectedResponse
    split
    · exact commandSent_does con hc hP (.inr rfl) (packetQueuePush_does env _ _)
    · exact commandSent_unanswered con hc hP
    · exact commandSent_unanswered con hc hP
    · exact commandSent_does con hc hP (.inl rfl) (packetQueuePush_does env _ _)

lemma commandSendCompressed_does (command : Command) (data : List UInt8) :
    Does (fun _ => Control.Commanded c) con (commandSendCompressed env con command data).1 := by
  have hP := sendCompressedPacket_does env con data (some command)
  unfold commandSendCompressed
  dsimp only
  split_ifs with hs
  · exact commandSent_does con hc hP (.inr rfl) (packetQueuePush_does env _ _)
  · exact commandSent_does con hc hP (.inl rfl) (packetQueuePush_does env _ _)
  · obtain ⟨x, hx, hP⟩ := hP
    exact ⟨x, hx, .compressed (hc ▸ hP) hs⟩

end Commands

lemma commandStart_control (command : Command) (n : ℕ) :
    (commandStart con command n).control = con.control.commandReset := by
  simp only [Con.control, Con.aux, Control.commandReset, commandStart, resetInternals, Con.log]
  rfl

/-- A command that has been started is sent, or fails. -/
lemma commandSend_follows (command : Command) (data : List UInt8) :
    Does (fun _ => Control.Commanded con.control) (commandStart con command data.length)
      (commandSend env con command data).1 := by
  unfold commandSend
  dsimp only
  split_ifs
  · exact commandSendCompressed_does env _ (commandStart_control con command _) command data
  · exact commandSendPlain_does env _ (commandStart_control con command _) command data

lemma commandSend_does (command : Command) (data : List UInt8) :
    Does Control.Move con (commandSend env con command data).1 :=
  (commandSend_follows env con command data).prepend
    [.onStream con.stream con.ssl.handshakeDone, .command command con.status] rfl fun h => .command command _ h

lemma getNextRow_does : Does (Path Control.Move) con (getNextRow env con) := by
  unfold getNextRow
  split
  · exact .single (fault_does (.quiet .fault))
  · refine (processPackets_does env _).after ?_
    obtain ⟨x, hx, hp⟩ := packetQueuePush_does env ((packetReadEnd con).log .rowRequested) .row
    have hm : Control.Move con.control _ _ := .request hp
    refine ⟨x ++ [.rowRequested], ?_, hm⟩
    rw [List.append_assoc]
    exact hx

lemma commandNextResult_does : Does (Path Control.Move) con (commandNextResult env con).1 := by
  unfold commandNextResult
  split_ifs with h
  · obtain ⟨x, hx, hp⟩ := packetQueuePush_does env ((resetInternals con).log (.nextResult con.status)) .response
    have hm : Control.Move con.control _ _ := .nextResult h hp
    refine .single ⟨x ++ [.nextResult con.status], ?_, hm⟩
    rw [List.append_assoc]
    exact hx
  · exact .refl

/-! ### Rows -/

lemma grown_control (size : ℕ) (ok : Bool) :
    ({ con with
      rowBufferAllocSize := size + bufferRowAllocSize
      own := con.own.growRowBuffer ok }.log (.rowBufferGrown con.own.stale)).control =
      { con.control with aux.own := con.own.growRowBuffer ok, aux.allocated := true } := by
  have hsize : decide (0 < size + bufferRowAllocSize) = true := decide_eq_true (Nat.add_pos_right _ (by decide))
  exact congrArg (fun b : Bool => { con.control with aux.own := con.own.growRowBuffer ok, aux.allocated := b }) hsize

lemma grow_does (size : ℕ) (ok : Bool) :
    Does Control.Move con
      ({ con with
        rowBufferAllocSize := size + bufferRowAllocSize
        own := con.own.growRowBuffer ok }.log (.rowBufferGrown con.own.stale)) := by
  refine ⟨[.rowBufferGrown con.own.stale], rfl, ?_⟩
  rw [grown_control]
  exact .aux (.grow ok)

lemma rowBufferGrow_does : Does (Path Control.Move) con (rowBufferGrow env con).1 := by
  unfold rowBufferGrow
  dsimp only
  split_ifs with hcount
  · exact (Does.single (fault_does (.quiet .fault))).after (grow_does con _ _)
  · exact .single (grow_does con _ _)
  · exact .refl

/-- A row buffer that had room, or was grown, has a size. -/
lemma rowBufferGrow_allocated {con' : Con} (h : rowBufferGrow env con = (con', true)) : 0 < con'.rowBufferAllocSize := by
  unfold rowBufferGrow at h
  dsimp only at h
  split_ifs at h with hcount hstale
  · cases h
  · obtain ⟨rfl, -⟩ := Prod.mk.inj h
    exact Nat.add_pos_right _ (by decide)
  · cases h
    omega

/-- A row that was put into the row buffer, and the request for the next one. -/
lemma getNextRow_kept {con₁ : Con} (ha : 0 < con.rowBufferAllocSize) (hs : con.own.rowBuffer.isSome = true)
    (hc : con₁.control = { con.control with aux := con.control.kept }) (ht : con₁.trace = .rowKept :: con.trace) :
    Does (Path Control.Move) con (getNextRow env con₁) := by
  have ha : con.control.aux.allocated = true := decide_eq_true ha
  unfold getNextRow
  split
  · refine .single ⟨[.fault, .rowKept], congrArg _ ht, ?_⟩
    rw [show (con₁.log .fault).control = con₁.control from rfl, hc]
    exact .aux (.keepFault ha hs)
  · refine (processPackets_does env _).after ?_
    obtain ⟨x, hx, hp⟩ := packetQueuePush_does env ((packetReadEnd con₁).log .rowRequested) .row
    rw [show ((packetReadEnd con₁).log .rowRequested).control = con₁.control from rfl, hc] at hp
    refine ⟨x ++ [.rowRequested, .rowKept], ?_, .keep ha hs hp⟩
    rw [List.append_assoc]
    refine hx.trans (congrArg (x ++ ·) ?_)
    exact congrArg (Action.rowRequested :: ·) ht

lemma queryRowBufferRound_does : Does (Path Control.Move) con (queryRowBufferRound env con).1 := by
  have h := rowBufferGrow_does env con
  unfold queryRowBufferRound
  split
  · next con' hg => rwa [hg] at h
  · next con' hg =>
    rw [hg] at h
    dsimp only
    split_ifs with hnew hnull
    · exact h.trans (.single (fault_does (.quiet .fault)))
    · have hs : con'.own.rowBuffer.isSome = true := by
        rw [Option.isSome_iff_ne_none]
        exact fun hnone => hnull (.inr (Option.isNone_iff_eq_none.mpr hnone))
      exact h.trans (getNextRow_kept env con' (rowBufferGrow_allocated env con hg) hs rfl rfl)
    · exact h

lemma queryRowBufferLoop_does (n : ℕ) : Does (Path Control.Move) con (queryRowBufferLoop env n con).1 := by
  induction n generalizing con with
  | zero => exact .refl
  | succ n ih =>
    have h := queryRowBufferRound_does env con
    unfold queryRowBufferLoop
    split
    · next con' failure hr => rwa [hr] at h
    · next con' hr =>
      rw [hr] at h
      have h' := h.trans (processPackets_does env con')
      generalize processPackets env con' = r at h' ⊢
      dsimp only
      split_ifs
      · exact h'.trans (ih r.1)
      · exact h'

/-! ### What runs inside a call -/

/-- A turn of the event loop and the callback of the application follow the relation. -/
structure World.Follows (w : World) : Prop where
  uvRun : ∀ con, Does (Path Control.Move) con (w.uvRun con)
  callback : ∀ event con, Does (Path Control.Move) con (w.callback event con)

section Calls

variable {w : World} (hw : w.Follows)

include hw

lemma sendCallback_does {event : Event} (ht : con.control.Tells event) (error : ErrorPtr) :
    Does (Path Control.Move) con (sendCallback w con event error) := by
  unfold sendCallback
  split
  · exact .single (fault_does (.quiet .fault))
  · next err =>
    split_ifs with hne hpool
    · exact .refl
    · exact (hw.callback event _).after ⟨[.callback event err], rfl, .aux (.callback err hne hpool.1 hpool.2 ht)⟩
    · exact .refl

lemma runUvLoop_does : Does (Path Control.Move) con (runUvLoop w con) :=
  .ite (fun _ => .refl) fun _ => hw.uvRun con

lemma doConnect_does : Does (Path Control.Move) con (doConnect env w con) := by
  unfold doConnect
  refine .ite (fun _ => .refl) fun hs => .ite (fun _ => ?_) fun _ => ?_
  · exact .single (fail_does (.fail .loopInit) rfl rfl)
  have hs : con.control.status = .notConnected := not_not.mp hs
  dsimp only
  split_ifs
  · split
    · exact .single (fail_does (.fail .dns) rfl rfl)
    · exact (runUvLoop_does _ hw).after ⟨[], rfl, .start hs (.inl rfl)⟩
  · exact (runUvLoop_does _ hw).after ⟨[], rfl, .start hs (.inr rfl)⟩

lemma reportError_does (hs : con.status = .parameterError ∨ con.status = .connectFailed ∨ con.status = .sslError ∨
    con.status = .netError) (error : ErrorPtr) : Does (Path Control.Move) con (reportError env w con error).1 :=
  sendCallback_does con hw (.failed hs) _

lemma connect_does (error : ErrorPtr) : Does (Path Control.Move) con (connect env w con error).1 := by
  have h := doConnect_does env con hw
  unfold connect
  dsimp only
  generalize doConnect env w con = con₁ at h ⊢
  split
  · exact h
  · exact h
  · exact h
  · next hs => exact h.trans (.ite (fun hc => sendCallback_does con₁ hw (.connected hs hc) _) fun _ => .refl)
  · next hs => exact h.trans (reportError_does env con₁ hw (.inl hs) error)
  · next hs => exact h.trans (reportError_does env con₁ hw (.inr (.inl hs)) error)
  · next hs => exact h.trans (reportError_does env con₁ hw (.inr (.inr (.inl hs))) error)
  · next hs => exact h.trans (reportError_does env con₁ hw (.inr (.inr (.inr hs))) error)

end Calls

/-! ### The callbacks of libuv -/

/-- A failure after which libuv is done with the connection. -/
lemma failSettled_does (site : FailSite) {u : UvPhase} (hu : u = .unused ∨ u = .closed) {con' : Con}
    (hc : con'.control = { con.control.afterFail site with aux.uv := u })
    (ht : con'.trace = .failed site con.status con.serverErrno :: con.trace) : Does (Path Control.Move) con con' := by
  refine ⟨[.failed site con.status con.serverErrno], ht, ?_⟩
  rw [hc]
  have hfail : Control.Move con.control _ _ := .fail site
  exact (Path.single hfail).snoc (.aux (.settled hu))

lemma onResolved_does (hu : con.uv = .resolving) (failure : Option String) :
    Does (Path Control.Move) con (onResolved con failure) := by
  cases failure with
  | none => exact .single ⟨[], rfl, .aux (.resolved hu)⟩
  | some name => exact failSettled_does con .dns (.inl rfl) rfl rfl

lemma onConnect_does (hu : con.uv = .connecting) (failure : Option String) :
    Does (Path Control.Move) con (onConnect env con failure) := by
  cases failure with
  | none =>
    obtain ⟨x, hx, hp⟩ := packetQueuePush_does env con .handshake
    exact .single ⟨x, hx, .connected hu hp⟩
  | some name => exact failSettled_does con .connectCallback (.inl rfl) rfl rfl

lemma allocBio_does (suggestedSize : ℕ) : Does (Path Control.Move) con (allocBio env con suggestedSize) := by
  refine .ite (fun _ => .ite (fun _ => .same rfl rfl) fun _ => ?_) fun _ => .refl
  exact .single (fail_does (.fail .sslBioAlloc) rfl rfl)

lemma handOut_does (buffer : Option BufferSt) : Does (Path Control.Move) con (handOut con buffer).1 := by
  cases buffer with
  | none => exact .single (fault_does (.quiet .fault))
  | some b => exact .refl

lemma onAlloc_does (suggestedSize : ℕ) : Does (Path Control.Move) con (onAlloc env con suggestedSize).1 := by
  unfold onAlloc
  refine (allocBio_does env con suggestedSize).trans ?_
  generalize allocBio env con suggestedSize = con₁
  dsimp only
  split_ifs
  · exact (handOut_does _ _).congr_left rfl rfl
  · exact (handOut_does _ _).congr_left rfl rfl

lemma writeEnd_does (failure : Option String) : Does (Path Control.Move) con (writeEnd con failure) := by
  by_cases h : packetQueuePeek con = none
  · have hq : con.control.queue = [] := List.head?_eq_none_iff.mp h
    unfold writeEnd writeDone
    rw [if_pos h, if_pos h]
    cases failure with
    | none => exact .single ⟨[.drained con.status], rfl, .drained hq⟩
    | some name =>
      have hlost : Control.Move con.control _ _ := .lost hq
      exact ⟨[.failed .writeCallback .idle con.serverErrno], rfl, (Path.single hlost).snoc (.aux (.settled (.inr rfl)))⟩
  · unfold writeEnd writeDone
    rw [if_neg h, if_neg h]
    cases failure with
    | none => exact .refl
    | some name => exact failSettled_does con .writeCallback (.inr rfl) rfl rfl

lemma onWrite_does (failure : Option String) : Does (Path Control.Move) con (onWrite con failure) :=
  (writeEnd_does _ failure).congr_left rfl rfl

lemma readErrorCb_does (name : String) : Does (Path Control.Move) con (readErrorCb con name) :=
  failSettled_does con .readCallback (.inr rfl) rfl rfl

lemma storeRead_does (b : BufferSt) (bytes : List UInt8) : Does (Path Control.Move) con (storeRead con b bytes) := by
  unfold storeRead
  split_ifs
  · exact .same rfl rfl
  · exact .single (quiet_does (.quiet (.received bytes)) rfl rfl)

lemma readDataCb_does (bytes : List UInt8) : Does (Path Control.Move) con (readDataCb env con bytes) := by
  unfold readDataCb
  generalize (if con.options.compression = true then con.readBufferCompress else con.readBuffer) = buffer
  cases buffer with
  | none => exact .single (fault_does (.quiet .fault))
  | some b =>
    refine .ite (fun _ => ?_) fun _ => (storeRead_does con _ _).trans (processPackets_does env _)
    generalize sslReadBuffer env con b = r
    exact ((storeRead_does { con with ssl.calls := con.ssl.calls + 1 } r.1 r.2.2).congr_left rfl rfl).trans
      ((sslResult_does env _ _).mono (Path.mono fun h => h.net.move))

lemma uvRead_does (suggestedSize : ℕ) (bytes : List UInt8) :
    Does (Path Control.Move) con (uvRead env con suggestedSize bytes) := by
  have h := onAlloc_does env con suggestedSize
  unfold uvRead
  split
  · next con' ha => rwa [ha] at h
  · next con' ha =>
    rw [ha] at h
    exact h.trans (readErrorCb_does con' "ENOBUFS")
  · next con' n ha =>
    rw [ha] at h
    exact h.trans (readDataCb_does env con' _)

lemma checkForDataCb_does : Does (Path Control.Move) con (checkForDataCb env con) := processPackets_does env con

/-! ### Statements -/

lemma statementSet_does (param : ℕ) (error : ErrorPtr) (set : StmtParam → StmtParam) :
    Does (Path Control.Move) con (statementSet env con param error set).1 := by
  unfold statementSet
  split
  · exact .refl
  · split_ifs
    · exact .refl
    · split
      · exact .single (fault_does (.quiet .fault))
      · exact .same rfl rfl

lemma stmtExecute_does (stmt : Stmt) : Does (Path Control.Move) con (stmtExecute env con stmt).1 := by
  unfold stmtExecute
  split
  · exact .single (fail_does (.fail .execAlloc) rfl rfl)
  · exact .single (fail_does (.fail .badStmtParameter) rfl rfl)
  · exact .single (fault_does (.quiet .fault))
  · exact .single ((commandSend_does env _ _ _).congr_left rfl rfl)

lemma commandFree_does : Does Control.Move con (commandFree con) := own_does .freeResultColumns rfl rfl

lemma statementExecute_does (error : ErrorPtr) :
    Does (Path Control.Move) con (statementExecute env con error).1 := by
  unfold statementExecute
  split
  · exact .refl
  · next stmt _ =>
    have h : Does (Path Control.Move) con (stmtExecute env (commandFree con) stmt).1 :=
      (stmtExecute_does env _ stmt).after (commandFree_does con)
    split
    · next con' hx => rwa [hx] at h
    · next con' hx =>
      rw [hx] at h
      split_ifs <;> exact h

lemma statementClose_does : Does (Path Control.Move) con (statementClose env con) := by
  have hfree : Does Control.Move con { con with stmtRow := none, own := con.own.freeStmtRow } :=
    own_does .freeStmtRow rfl rfl
  unfold statementClose
  dsimp only
  split
  · exact .single hfree
  · refine Does.after ?_ hfree
    have hcommand := commandFree_does { con with stmtRow := none, own := con.own.freeStmtRow, stmt := none }
    refine Does.after ?_ (hcommand.congr_left rfl rfl)
    exact .single ((commandSend_does env _ _ _).congr_left rfl rfl)

lemma statementCommand_does (command : Command) (extra : Stmt → List UInt8) (data : List UInt8) (error : ErrorPtr) :
    Does (Path Control.Move) con (statementCommand env con command extra data error).1 := by
  unfold statementCommand
  split
  · exact .refl
  · next stmt _ =>
    have h : Does (Path Control.Move) con (commandSend env (writeExtra con (extra stmt)) command data).1 :=
      .single ((commandSend_does env _ _ _).congr_left rfl rfl)
    split
    · next con' hx => rwa [hx] at h
    · next con' _ _ hx => rwa [hx] at h

lemma writeStmtRow_does (row : List StmtCell) (error : ErrorPtr) :
    Does (Path Control.Move) con (writeStmtRow env con row error).1 := by
  unfold writeStmtRow
  split
  · split_ifs
    · exact .single (fault_does (.quiet .fault))
    · dsimp only
      generalize stmtCells _ _ _ _ _ = cells
      refine .single ?_
      split_ifs
      · exact own_does .useStmtRow rfl rfl
      · exact own_does .useStmtRow rfl rfl
  · exact .single (fault_does (.quiet .fault))

lemma statementRowGet_does (error : ErrorPtr) : Does (Path Control.Move) con (statementRowGet env con error).1 := by
  unfold statementRowGet
  dsimp only
  generalize (if con.stmtRow.isNone = true ∧ env.newArray con.result.columnCount sizeofStmtCell = true then
    some (List.replicate con.result.columnCount (⟨0, 0, columnTypeNull⟩ : StmtCell)) else con.stmtRow) = row
  have hnew : Does Control.Move con
      { con with stmtRow := row, own := con.own.newStmtRow (env.newArray con.result.columnCount sizeofStmtCell) } :=
    own_does (.newStmtRow _) rfl rfl
  cases row with
  | none => exact .single hnew
  | some row => exact (writeStmtRow_does env _ row error).after hnew

lemma statementGet_does (column : ℕ) (error : ErrorPtr) :
    Does (Path Control.Move) con (statementGet env con column error).1 := by
  unfold statementGet
  split
  · exact .refl
  · split_ifs
    · exact .refl
    · exact .single (own_does .readStmtRow rfl rfl)

lemma statementGetColumnType_does (column : ℕ) :
    Does (Path Control.Move) con (statementGetColumnType con column).1 := by
  unfold statementGetColumnType
  split_ifs
  · exact .refl
  · split
    · exact .single (fault_does (.quiet .fault))
    · exact .single (own_does .useResultColumns rfl rfl)

/-! ### Queries -/

lemma expandParameter_does (p : QueryParameter) : Does (Path Control.Move) con (expandParameter con p).1 := by
  have h : ∀ data, Does (Path Control.Move) con (escapeParameter con data).1 := fun data =>
    .single (quiet_does (.quiet .expanded) rfl rfl)
  cases p with
  | char data => exact h data
  | charLike data => exact h data
  | none _ => exact .refl
  | int _ _ => exact .refl
  | bigint _ _ => exact .refl
  | float _ => exact .refl
  | double _ => exact .refl

lemma expandQuery_does (statement : List UInt8) (params : List QueryParameter) :
    Does (Path Control.Move) con (expandQuery con statement params).1 := by
  induction statement generalizing con params with
  | nil => exact .refl
  | cons c cs ih =>
    unfold expandQuery
    split_ifs
    · exact ih con params
    · cases params with
      | nil => exact .single (fault_does (.quiet .fault))
      | cons p params => exact (expandParameter_does con p).trans (ih _ params)

lemma queryClose_control :
    (queryClose con).control =
      { con.control with
        aux := con.control.closed (con.queryBufferAlloc && con.queryBufferLength != 0) con.bufferRows } := rfl

lemma queryClose_does : Does (Path Control.Move) con (queryClose con) :=
  .single (move_does (.aux (.close _ _)) (queryClose_control con) rfl)

lemma queryRowNext_does : Does (Path Control.Move) con (queryRowNext env con) := by
  have hnext : Does Control.Move con ({ con with lastCallback := .none }.log .rowNext) := move_does (.aux .rowNext) rfl rfl
  unfold queryRowNext
  dsimp only
  split_ifs
  · exact .single hnext
  · exact (getNextRow_does env _).after hnext

lemma statementRowNext_does : Does (Path Control.Move) con (statementRowNext env con) := getNextRow_does env con

lemma queryNextResult_does : Does (Path Control.Move) con (queryNextResult env con).1 := by
  have h := commandNextResult_does env con
  unfold queryNextResult
  split
  · next con' hn => rwa [hn] at h
  · next con' hn => rwa [hn] at h

lemma queryBufferRows_does (enable : Bool) : Does (Path Control.Move) con (queryBufferRows con enable).1 := by
  unfold queryBufferRows
  split_ifs
  · exact .refl
  · exact .same rfl rfl

lemma queryBufferRowGet_does : Does (Path Control.Move) con (queryBufferRowGet con).1 := by
  unfold queryBufferRowGet
  split_ifs with h
  · exact .refl
  · exact .single (move_does (.aux (.shareRow (Nat.lt_of_not_le h))) rfl rfl)

lemma queryRowGetOffset_does (rowNumber : ℕ) : Does (Path Control.Move) con (queryRowGetOffset con rowNumber).1 := by
  unfold queryRowGetOffset
  split_ifs with h
  · exact .refl
  · exact .single (move_does (.aux (.useRows (Nat.zero_lt_of_lt (Nat.lt_of_not_le h)))) rfl rfl)

lemma queryColumnGet_does (column : ℕ) : Does (Path Control.Move) con (queryColumnGet con column).1 := by
  unfold queryColumnGet
  split_ifs
  · exact .refl
  · show Does (Path Control.Move) con (queryColumns con)
    unfold queryColumns
    split
    · exact .refl
    · exact .single (fault_does (.quiet .fault))
    · exact .single (own_does .getColumns rfl rfl)

lemma writeRow_does (row : List Cell) : Does (Path Control.Move) con (writeRow con row).1 := by
  unfold writeRow
  split_ifs
  · exact .single (fault_does (.quiet .fault))
  · exact .single (own_does .useRow rfl rfl)

lemma queryRowGet_does (error : ErrorPtr) : Does (Path Control.Move) con (queryRowGet env con error).1 := by
  unfold queryRowGet
  split_ifs
  · exact .refl
  · exact .refl
  · dsimp only
    generalize (if con.row.isNone = true ∧ env.newArray con.result.columnCount sizeofCell = true then
      some (List.replicate con.result.columnCount (⟨0, 0⟩ : Cell)) else con.row) = row
    have hnew : Does Control.Move con
        { con with row := row, own := con.own.newRow (env.newArray con.result.columnCount sizeofCell) } :=
      own_does (.newRow _) rfl rfl
    cases row with
    | none => exact .single hnew
    | some row => exact (writeRow_does _ row).after hnew

lemma queryRowBuffer_does (error : ErrorPtr) : Does (Path Control.Move) con (queryRowBuffer env con error).1 := by
  have h := queryRowBufferLoop_does env con (con.buf.unreadData + 1)
  unfold queryRowBuffer
  split
  · next con' hx => rwa [hx] at h
  · next con' _ hx => rwa [hx] at h

section Polls

variable {w : World} (hw : w.Follows)

include hw

lemma statementPrepare_does (statement : List UInt8) (error : ErrorPtr) :
    Does (Path Control.Move) con (statementPrepare env w con statement error).1 := by
  unfold statementPrepare
  split_ifs
  · exact (connect_does env _ hw error).after (own_does .dropQueryBuffer rfl rfl)
  · exact .single ((commandSend_does env _ _ _).congr_left rfl rfl)
  · exact .single (fail_does (.fail .stmtAlloc) rfl rfl)

lemma querySend_does (text : List UInt8) (error : ErrorPtr) :
    Does (Path Control.Move) con (querySend env w con text error).1 := by
  have h : Does (Path Control.Move) con (commandSend env con .query text).1 := .single (commandSend_does env con _ _)
  unfold querySend
  split_ifs
  · exact connect_does env con hw error
  · split
    · next con' hx => rwa [hx] at h
    · next con' _ _ hx => rwa [hx] at h

lemma query_does (statement : List UInt8) (parameters : List QueryParameter) (error : ErrorPtr) :
    Does (Path Control.Move) con (query env w con statement parameters error).1 := by
  unfold query
  by_cases hq : con.inQuery = true
  · rw [if_pos hq]
    exact .refl
  rw [if_neg hq]
  have hbegin : Does Control.Move con ({ con with inQuery := true }.log .queryBegun) :=
    move_does (.aux (.begin (Bool.eq_false_iff.mpr hq))) rfl rfl
  generalize { con with inQuery := true }.log .queryBegun = con₁ at hbegin
  dsimp only
  refine Does.after ?_ hbegin
  split_ifs
  · exact (querySend_does env _ hw _ _).after (own_does .dropQueryBuffer rfl rfl)
  · exact querySend_does env con₁ hw _ _
  · have hnew : Does Control.Move con₁ { con₁ with own := con₁.own.newQueryBuffer } := own_does .newQueryBuffer rfl rfl
    refine Does.after ?_ hnew
    exact (expandQuery_does _ statement parameters).trans ((querySend_does env _ hw _ _).congr_left rfl rfl)
  · exact .single (fault_does (.quiet .fault))

/-! ### Polling -/

lemma doPoll_does : Does (Path Control.Move) con (doPoll env w con) := by
  have h : Does (Path Control.Move) con (if con.ssl.handshakeDone then sslRun env con else con) :=
    .ite (fun _ => (sslRun_does env con).mono (Path.mono fun h => h.net.move)) fun _ => .refl
  unfold doPoll
  split
  · exact .refl
  · exact .refl
  · exact .refl
  · exact .refl
  · exact h.trans (runUvLoop_does _ hw)

lemma connectSend_does (text : List UInt8) : Does (Path Control.Move) con (connectSend env w con text).1 := by
  have huse : Does Control.Move con { con with own := con.own.useQueryBuffer } := own_does .useQueryBuffer rfl rfl
  unfold connectSend
  dsimp only
  split_ifs
  · exact (statementPrepare_does env _ hw text .null).after huse
  · exact Does.after (.single (commandSend_does env _ _ _)) huse

lemma connectQuery_does (error : ErrorPtr) : Does (Path Control.Move) con (connectQuery env w con error).1 := by
  have h := connectSend_does env con hw (con.queryBuffer.take con.queryBufferLength)
  unfold connectQuery
  split
  · next con' hx => rwa [hx] at h
  · next con' _ _ hx => rwa [hx] at h

lemma pollIdle_does (hs : con.status = .idle) (error : ErrorPtr) :
    Does (Path Control.Move) con (pollIdle env w con error).1 := by
  have hcb := fun {event : Event} (ht : con.control.Tells event) error => sendCallback_does con hw ht error
  unfold pollIdle
  by_cases he : con.serverErrno ≠ 0
  · rw [if_pos he]
    exact hcb (.error hs he) _
  · have he₀ : con.control.serverErrno = 0 := not_not.mp he
    rw [if_neg he]
    split
    · next hc =>
      exact (hcb (.eof hs he₀ hc) error).trans (.single (move_does .pollEof rfl rfl))
    · next hc =>
      split_ifs
      · exact queryRowBuffer_does env con error
      · exact hcb (.rowReady hs he₀ hc) _
    · next hc =>
      dsimp only
      split_ifs
      · exact (hcb (.connected hs hc) _).trans (connectQuery_does env _ hw error)
      · exact hcb (.connected hs hc) _
    · exact .single (quiet_does (.quiet .assertZero) rfl rfl)

lemma pollSwitch_does (error : ErrorPtr) : Does (Path Control.Move) con (pollSwitch env w con error).1 := by
  unfold pollSwitch
  split
  · next hs => exact reportError_does env con hw (.inl hs) error
  · next hs => exact reportError_does env con hw (.inr (.inl hs)) error
  · next hs => exact reportError_does env con hw (.inr (.inr (.inl hs))) error
  · next hs => exact reportError_does env con hw (.inr (.inr (.inr hs))) error
  · exact .refl
  · exact .refl
  · exact .refl
  · next hs => exact pollIdle_does env con hw hs error

end Polls

end LibAttachSql
