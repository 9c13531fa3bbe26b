import LibAttachSql.Receive
import LibAttachSql.ControlSend

/-!
# The receive functions follow the control relation

Each reader of a packet does to the control state what `Dispatch` says for the type of the packet, and
`attachsql_con_process_packets` takes one move after the other.
-/

namespace LibAttachSql

open Lib

lemma Does.packetReadEnd {R : Control → List Action → Control → Prop} {con con' : Con} (h : Does R con con') :
    Does R con (packetReadEnd con') := h.congr_right rfl rfl

variable (env : Env) (con : Con)

/-! ### Responses -/

lemma packetReadOk_does : Does Control.Response con (packetReadOk con) :=
  ⟨[.answered .ok con.status con.commandStatus, .reported _], rfl, .ok _⟩

lemma packetReadErr_control :
    (packetReadErr con).control = con.control.afterErr (packetReadErr con).serverErrno := rfl

lemma packetReadErr_trace :
    (packetReadErr con).trace =
      .answered (.err (packetReadErr con).serverErrno) con.status con.commandStatus :: con.trace := rfl

lemma packetReadErr_does : Does Control.Response con (packetReadErr con) :=
  ⟨[.answered (.err (packetReadErr con).serverErrno) con.status con.commandStatus], packetReadErr_trace con,
    packetReadErr_control con ▸ .err _⟩

lemma packetReadEof_does : Does Control.Response con (packetReadEof env con) := by
  unfold packetReadEof
  dsimp only
  generalize unpackInt2 con.buf.mem (con.buf.bufferReadPtr + 1 + 2) = s
  split
  · next h =>
    exact .packetReadEnd ((packetQueuePush_does env _ _).prepend [.reported s] rfl fun hp => .columnsEnd s h hp)
  · next h =>
    split
    · exact ⟨[.fault, .reported s], rfl, .fault s⟩
    · split_ifs
      · exact .packetReadEnd ((packetQueuePush_does env _ _).prepend [.reported s] rfl fun hp => .paramsEnd s h hp)
      · exact ⟨[.answered .eof con.status con.commandStatus, .reported s], rfl,
          .finish s fun hc => CommandStatus.noConfusion (hc.symm.trans h)⟩
  · next h _ => exact ⟨[.answered .eof con.status con.commandStatus, .reported s], rfl, .finish s h⟩

/-- The first column definition is expected behind the header of a result. -/
lemma header_does (ok : Bool) {con₁ : Con}
    (hc : con₁.control = { con.control with aux.own := con.own.newResultColumns ok }) (ht : con₁.trace = con.trace) :
    Does Control.Response con { packetQueuePush env con₁ .column with commandStatus := .readColumn } := by
  obtain ⟨x, hx, hp⟩ := packetQueuePush_does env con₁ .column
  rw [hc] at hp
  exact ⟨x, by rw [← ht]; exact hx, .header ok hp⟩

lemma packetReadHeader_does : Does Control.Response con (packetReadHeader env con) := by
  unfold packetReadHeader
  dsimp only
  exact header_does env con _ rfl rfl

lemma packetReadResponse_does : Does Control.Response con (packetReadResponse env con) := by
  unfold packetReadResponse
  split_ifs
  · exact packetReadOk_does con
  · exact packetReadErr_does con
  · exact packetReadEof_does env con
  · exact packetReadHeader_does env con

/-! ### Definitions and rows -/

/-- Pushing the next of several definitions, or the response behind the last one. -/
lemma definition_does {t u v : PacketType} {p : Prop} [Decidable p] {con₁ : Con}
    (ht : t ∈ [PacketType.column, .prepareParameter, .prepareColumn])
    (hu : u ∈ [PacketType.response, .column, .prepareParameter, .prepareColumn])
    (hv : v ∈ [PacketType.response, .column, .prepareParameter, .prepareColumn]) {o : Own}
    (ho : o = con.own ∨ o = con.own.useResultColumns) (hc : con₁.control = { con.control with aux.own := o })
    (htr : con₁.trace = con.trace) :
    Does (Control.Dispatch t) con (packetQueuePush env con₁ (if p then u else v)) := by
  refine (packetQueuePush_does env con₁ _).prepend [] htr fun h => ?_
  rw [List.append_nil]
  rw [hc] at h
  refine .definition ht ho h ?_
  split_ifs
  · exact hu
  · exact hv

lemma dispatch_fault (t : PacketType) (ht : t ≠ .handshake) : Does (Control.Dispatch t) con (con.log .fault) :=
  ⟨[.fault], rfl, .fault ht⟩

lemma packetReadColumn_does : Does (Control.Dispatch .column) con (packetReadColumn env con) := by
  unfold packetReadColumn
  split
  · exact dispatch_fault con _ (by decide)
  · exact definition_does env con (by decide) (by decide) (by decide) (.inr rfl) rfl rfl

lemma packetReadPrepareParameter_does :
    Does (Control.Dispatch .prepareParameter) con (packetReadPrepareParameter env con) := by
  unfold packetReadPrepareParameter
  split
  · exact dispatch_fault con _ (by decide)
  · split
    · exact dispatch_fault con _ (by decide)
    · exact definition_does env con (by decide) (by decide) (by decide) (.inl rfl) rfl rfl

lemma packetReadPrepareColumn_does :
    Does (Control.Dispatch .prepareColumn) con (packetReadPrepareColumn env con) := by
  unfold packetReadPrepareColumn
  split
  · exact dispatch_fault con _ (by decide)
  · exact definition_does env con (by decide) (by decide) (by decide) (.inl rfl) rfl rfl

lemma prepareOkNext_does (paramCount columnCount : ℕ) :
    Does Control.PrepareOk con (prepareOkNext env con paramCount columnCount) := by
  refine .ite (fun _ => ?_) fun _ => .ite (fun _ => ?_) fun _ =>
    ⟨[.answered .eof con.status con.commandStatus], rfl, .finish⟩
  · obtain ⟨x, hx, hp⟩ := packetQueuePush_does env con .prepareParameter
    exact ⟨x, hx, .params hp⟩
  · obtain ⟨x, hx, hp⟩ := packetQueuePush_does env con .prepareColumn
    exact ⟨x, hx, .columns hp⟩

lemma packetReadPrepareOk_does (stmt : Stmt) : Does Control.PrepareOk con (packetReadPrepareOk env con stmt) :=
  .packetReadEnd ((prepareOkNext_does env _ _ _).congr_left rfl rfl)

lemma packetReadPrepareResponse_does :
    Does (Control.Dispatch .prepareResponse) con (packetReadPrepareResponse env con) := by
  unfold packetReadPrepareResponse
  split_ifs
  · exact (packetReadResponse_does env con).mono (.response (by decide))
  · split
    · exact dispatch_fault con _ (by decide)
    · exact (packetReadPrepareOk_does env con _).mono .prepareOk

lemma packetReadRow_does {t : PacketType} (ht : t = .row ∨ t = .stmtRow) :
    Does (Control.Dispatch t) con (packetReadRow env con) := by
  unfold packetReadRow
  split_ifs
  · refine ((packetReadResponse_does env _).congr_left rfl rfl).mono (.response ?_)
    rcases ht with rfl | rfl <;> decide
  · exact ⟨[.answered .row con.status con.commandStatus], rfl, .row ht⟩

/-! ### The handshake -/

lemma sendWriteBuffer_does (payload : List UInt8) :
    Does (Path Control.SendMove) con (sendWriteBuffer env con payload) :=
  (sendData_does env _ _).congr_left rfl rfl

lemma sendWriteBuffer_awaits (payload : List UInt8) : Awaits con (sendWriteBuffer env con payload) :=
  (sendData_awaits env _ _).after (x := []) rfl

/-- A response expected behind the login that is sent. -/
lemma login_sent {con₁ : Con} (h : Does (Path Control.LoginMove) con con₁) (payload : List UInt8) :
    Does Control.Login con (packetQueuePush env (sendWriteBuffer env con₁ payload) .response) := by
  obtain ⟨x, hx, hP⟩ := h
  obtain ⟨y, hy, hsend⟩ := sendWriteBuffer_does env con₁ payload
  obtain ⟨z, hz, hw⟩ := sendWriteBuffer_awaits env con₁ payload
  obtain rfl : y = z := List.append_cancel_right (hy.symm.trans hz)
  refine (packetQueuePush_does env _ .response).prepend (y ++ x) (by rw [hy, hx, List.append_assoc]) fun hp => ?_
  exact .sent (hP.trans (hsend.mono .send)) hp (hw.append x)

lemma handshakeLogin_does {con₁ : Con} (h : Does (Path Control.LoginMove) con con₁) :
    Does Control.Login con (handshakeLogin env con₁) := by
  have hsend := fun payload => login_sent env con h payload
  unfold handshakeLogin
  obtain ⟨x, hx, hP⟩ := h
  split
  · exact ⟨.fault :: x, congrArg _ hx, .fault hP⟩
  · exact hsend _
  · split
    · exact ⟨.failed .badScramble con₁.status con₁.serverErrno :: x, congrArg _ hx, .scramble hP⟩
    · exact hsend _

/-- The short request for TLS, and the packet type that is taken off the queue again. -/
lemma handshakeSsl_does {con₁ : Con}
    (h₁ : con₁ = packetQueuePush env (sendWriteBuffer env con (handshakeHead con)) .handshakeSsl) :
    (packetQueuePeek con₁ = some .handshakeSsl →
      Does (Path Control.LoginMove) con (packetQueuePop { con₁ with ssl.enabled := true })) ∧
    (packetQueuePeek con₁ ≠ some .handshakeSsl → Does (Path Control.LoginMove) con con₁) := by
  have hsend := (sendWriteBuffer_does env con (handshakeHead con)).mono
    (Path.mono (fun h => Control.LoginMove.send h))
  obtain ⟨x, hx, hp⟩ := packetQueuePush_does env (sendWriteBuffer env con (handshakeHead con)) .handshakeSsl
  rw [← h₁] at hx hp
  constructor
  · intro h
    obtain ⟨q, hq⟩ : ∃ q, con₁.nextPacketQueue = .handshakeSsl :: q := List.head?_eq_some_iff.mp h
    have hpop := hp.pop_login hq
    refine hsend.trans ⟨x, hx, ?_⟩
    have hcontrol : (packetQueuePop { con₁ with ssl.enabled := true }).control = { con₁.control with queue := q } :=
      congrArg (fun l : List PacketType => { con₁.control with queue := l.tail }) hq
    rw [hcontrol]
    exact hpop
  · intro h
    exact hsend.trans (.single ⟨x, hx, hp.refused_login h⟩)

lemma handshakeResponse_does : Does Control.Login con (handshakeResponse env con) := by
  unfold handshakeResponse
  refine .ite (fun _ => .ite (fun _ => ⟨_, rfl, .refused⟩) fun _ => ?_) fun _ => handshakeLogin_does env con .refl
  dsimp only
  by_cases hpeek : packetQueuePeek con = some .handshakeSsl
  · rw [if_pos hpeek, if_pos hpeek]
    obtain ⟨q, hq⟩ : ∃ q, con.nextPacketQueue = .handshakeSsl :: q := List.head?_eq_some_iff.mp hpeek
    have hcontrol : (packetQueuePop { con with ssl.enabled := true }).control = { con.control with queue := q } :=
      congrArg (fun l : List PacketType => { con.control with queue := l.tail }) hq
    refine handshakeLogin_does env con (.single ⟨[], rfl, ?_⟩)
    rw [hcontrol]
    exact .dequeue hq
  · rw [if_neg hpeek]
    obtain ⟨hpos, hneg⟩ := handshakeSsl_does env con rfl
    generalize packetQueuePush env (sendWriteBuffer env con (handshakeHead con)) .handshakeSsl = con₁ at hpos hneg ⊢
    refine .ite (fun h => handshakeLogin_does env con (hpos h)) fun h => ?_
    obtain ⟨x, hx, hP⟩ := hneg h
    exact ⟨.fault :: x, congrArg _ hx, .fault hP⟩

lemma serverStatus_control (version scramble : List UInt8) (thread capabilities s : ℕ) (charset : UInt8) :
    ({ con with
      serverVersion := version
      threadId := thread
      serverCapabilities := capabilities
      charset := charset
      serverStatus := s
      scrambleBuffer := scramble }.log (.reported s)).control = { con.control with serverStatus := s } := rfl

lemma handshakeFields_control :
    (handshakeFields con).control = { con.control with serverStatus := (handshakeFields con).serverStatus } := by
  exact serverStatus_control con _ _ _ _ _ _

lemma handshakeFields_trace :
    (handshakeFields con).trace = .reported (handshakeFields con).serverStatus :: con.trace := rfl

lemma checkOldAuth_login (s : ℕ) {c : Control} {g : List Action} {con₁ con' : Con}
    (hg : Control.Greeting con.control g c) (hc : con₁.control = { c with serverStatus := s })
    (ht : con₁.trace = .reported s :: g ++ con.trace) (hl : Does Control.Login (checkOldAuth con₁) con') :
    Does Control.Handshake con con' := by
  have hs : con₁.status = c.status := congrArg Control.status hc
  have hn : con₁.serverErrno = c.serverErrno := congrArg Control.serverErrno hc
  unfold checkOldAuth at hl
  split_ifs at hl
  · refine hl.prepend (.reported s :: g) ht fun h => .login s hg ?_
    rwa [hc] at h
  · refine hl.prepend (.failed .noOldAuth c.status c.serverErrno :: .reported s :: g) ?_ fun h => .oldAuth s hg ?_
    · rw [← hs, ← hn, List.cons_append, ← ht]
      rfl
    · rw [← hc]
      exact h

/-- The handshake behind an ERR packet that may have come first. -/
lemma handshakeLogin_of_fields {g : List Action} {con₁ : Con} (hg : Control.Greeting con.control g con₁.control)
    (ht : con₁.trace = g ++ con.trace) :
    Does Control.Handshake con (handshakeResponse env (packetReadEnd (checkOldAuth (handshakeFields con₁)))) := by
  refine checkOldAuth_login con _ hg (handshakeFields_control con₁) ?_
    ((handshakeResponse_does env _).congr_left rfl rfl)
  rw [handshakeFields_trace, ht]
  rfl

/-- An ERR packet in place of the handshake is read as one. -/
lemma packetReadResponse_of_err (h : con.peekByte 0 = 0xff) : packetReadResponse env con = packetReadErr con := by
  unfold packetReadResponse
  rw [if_neg (by rw [h]; decide), if_pos h]

lemma packetReadHandshake_does : Does Control.Handshake con (packetReadHandshake env con) := by
  unfold packetReadHandshake
  dsimp only
  have hg : Does Control.Greeting con (if con.peekByte 0 = 0xff then packetReadResponse env con else con) := by
    split_ifs with h
    · rw [packetReadResponse_of_err env con h]
      exact ⟨[.answered (.err (packetReadErr con).serverErrno) con.status con.commandStatus], packetReadErr_trace con,
        packetReadErr_control con ▸ .rejected _⟩
    · exact ⟨[], rfl, .plain⟩
  generalize (if con.peekByte 0 = 0xff then packetReadResponse env con else con) = con₁ at hg ⊢
  obtain ⟨g, ht, hg⟩ := hg
  refine .ite (fun _ => ?_) fun _ => handshakeLogin_of_fields env con hg ht
  exact ⟨.failed .badProtocol con₁.status con₁.serverErrno :: g, congrArg _ ht, .badProtocol hg⟩

/-! ### The packet loop -/

lemma packetDispatch_does (t : PacketType) : Does (Control.Dispatch t) con (packetDispatch env con t).con := by
  cases t with
  | handshake => exact (packetReadHandshake_does env con).mono .handshake
  | handshakeSsl => exact (handshakeResponse_does env con).mono .handshakeSsl
  | response => exact (packetReadResponse_does env con).mono (.response (by decide))
  | prepareResponse => exact packetReadPrepareResponse_does env con
  | prepareParameter => exact packetReadPrepareParameter_does env con
  | prepareColumn => exact packetReadPrepareColumn_does env con
  | column => exact packetReadColumn_does env con
  | row => exact packetReadRow_does env con (.inl rfl)
  | stmtRow => exact packetReadRow_does env con (.inr rfl)

lemma packetQueuePop_countPacket_control (t : PacketType) :
    (packetQueuePop (countPacket con t)).control = { con.control with queue := con.nextPacketQueue.tail } := rfl

/-- The comparison of a packet's number with the expected one is a move of its own. -/
lemma checked_does (con : Con) (compressed : Bool) {e b : UInt8} {accepted : Bool}
    (h : accepted = decide ((e.toNat : ℤ) = signedChar b)) :
    Does Control.Move con (con.log (.checked compressed e b accepted)) := by
  subst h
  exact quiet_does (.quiet (.checked compressed e b)) rfl rfl

/-- A packet that is accepted, or breaks the sequence; it is off the queue. -/
lemma checkSequence_does {con₁ : Con} {t : PacketType} {q : List PacketType} (hq : con.control.queue = t :: q)
    (hc : con₁.control = { con.control with queue := q }) (ht : con₁.trace = con.trace) (b : BufferSt) (n : ℕ) :
    Does (Path Control.Move) con (checkSequence env con₁ b t n).con := by
  have hs : con₁.status = con.status := congrArg Control.status hc
  have hn : con₁.serverErrno = con.serverErrno := congrArg Control.serverErrno hc
  unfold checkSequence
  dsimp only
  split_ifs with h
  · refine (Does.single (fail_does (.fail .sequence) ?_ ?_)).after (checked_does con false (decide_eq_false h).symm)
    · calc (con₁.readFailed .sequence .packetOutOfSequence).control
          = con₁.control.afterFail .sequence := rfl
        _ = con.control.afterFail .sequence := by rw [hc]; rfl
    · show Action.failed .sequence con₁.status con₁.serverErrno :: _ :: con₁.trace =
        .failed .sequence con.status con.serverErrno :: _ :: con.trace
      rw [ht, hs, hn]
  · refine Does.after (.single ?_) (checked_does con false (decide_eq_true (not_not.mp h)).symm)
    have hd := packetDispatch_does env (packetOpen (con₁.log
      (.checked false con₁.packetNumber (b.mem (b.bufferReadPtr + 3)) true)) b t n) t
    refine hd.prepend [.packet t (b.mem.slice (b.bufferReadPtr + 4) n) con.status] ?_ fun h => .packet _ hq ?_
    · show Action.packet t _ con₁.status :: _ :: con₁.trace = .packet t _ con.status :: _ :: con.trace
      rw [ht, hs]
    · rwa [show (packetOpen (con₁.log _) b t n).control = con₁.control from rfl, hc] at h

lemma processPacket_does : Does (Path Control.Move) con (processPacket env con).con := by
  unfold processPacket
  split
  · exact .refl
  · next t q hq =>
    split
    · exact .single (fault_does (.quiet .fault))
    · next b hb =>
      dsimp only
      split_ifs
      · exact .refl
      · exact .same rfl rfl
      · refine checkSequence_does env con hq ?_ ?_ b _
        · rw [packetQueuePop_countPacket_control]
          exact congrArg (fun l : List PacketType => { con.control with queue := l.tail }) hq
        · rfl

lemma processPacketsLoop_does (n : ℕ) : Does (Path Control.Move) con (processPacketsLoop env n con).1 := by
  induction n generalizing con with
  | zero => exact .refl
  | succ n ih =>
    have h := processPacket_does env con
    unfold processPacketsLoop
    split
    · next con' hp => exact .trans (by rwa [hp] at h) (ih con')
    · next con' answer hp => rwa [hp] at h

/-! ### Compressed packets -/

lemma decompressInto_does (b c : BufferSt) (m n : ℕ) :
    Does (Path Control.Move) con (decompressInto env con b c m n) := by
  unfold decompressInto
  dsimp only
  split_ifs
  · exact .single (quiet_does (.quiet (.received _)) rfl rfl)
  · split
    · exact .single (fail_does (.fail .uncompress) rfl rfl)
    · exact .single (quiet_does (.quiet (.received _)) rfl rfl)

lemma decompressPacket_does (c : BufferSt) (m n : ℕ) :
    Does (Path Control.Move) con (decompressPacket env con c m n) := by
  unfold decompressPacket
  dsimp only
  split
  · exact (Does.single (fault_does (.quiet .fault))).after (quiet_does (.quiet (.compressedPacket _)) rfl rfl)
  · exact (decompressInto_does env _ _ _ _ _).after (quiet_does (.quiet (.compressedPacket _)) rfl rfl)

lemma checkCompressedSequence_does (c : BufferSt) (n : ℕ) :
    Does (Path Control.Move) con (checkCompressedSequence env con c n) := by
  unfold checkCompressedSequence
  dsimp only
  split_ifs with h
  · exact (Does.single (fail_does (.fail .compressedSequence) rfl rfl)).after
      ((checked_does _ true (decide_eq_false h).symm).congr_left rfl rfl)
  · exact (decompressPacket_does env _ _ _ _).after
      ((checked_does _ true (decide_eq_true (not_not.mp h)).symm).congr_left rfl rfl)

lemma decompressReadBuffer_does (c : BufferSt) :
    Does (Path Control.Move) con (decompressReadBuffer env con c).1 := by
  unfold decompressReadBuffer
  dsimp only
  split_ifs
  · exact .refl
  · exact .refl
  · exact checkCompressedSequence_does env con c _

lemma processPackets_does : Does (Path Control.Move) con (processPackets env con).1 := by
  unfold processPackets
  dsimp only
  split_ifs
  · split
    · exact .refl
    · next c _ =>
      have h := decompressReadBuffer_does env con c
      generalize decompressReadBuffer env con c = r at h ⊢
      split_ifs
      · exact h
      · exact h.trans (processPacketsLoop_does env r.1 _)
  · exact .refl
  · exact processPacketsLoop_does env con _

end LibAttachSql
