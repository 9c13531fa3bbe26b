import LibAttachSql.System

/-!
# The plain and the compressed send path

`attachsql_command_send` has two bodies, one for connections with compression.  They are two copies of one protocol
step, and differ: the compressed one expects an answer to every command, goes on only on an idle connection, and goes on
after a failure.  This module says exactly when the two leave a connection in the same state.
-/

namespace LibAttachSql

open Lib

/-! ### Failures among actions -/

/-- The action records a failure; a push that fails records nothing. -/
def Action.fails : Action → Bool
  | .failed site _ _ => site ≠ .queueAlloc
  | _ => false

/-- The action records a failure that sets the status. -/
def Action.breaks : Action → Bool
  | .failed site _ _ => site.status.isSome
  | _ => false

@[simp] lemma sent_fails (s : ConStatus) : (Action.sent s).fails = false := rfl

@[simp] lemma sent_breaks (s : ConStatus) : (Action.sent s).breaks = false := rfl

@[simp] lemma command_fails (c : Command) (s : ConStatus) : (Action.command c s).fails = false := rfl

@[simp] lemma command_breaks (c : Command) (s : ConStatus) : (Action.command c s).breaks = false := rfl

@[simp] lemma onStream_fails (stream tls : Bool) : (Action.onStream stream tls).fails = false := rfl

@[simp] lemma onStream_breaks (stream tls : Bool) : (Action.onStream stream tls).breaks = false := rfl

/-! ### What a write leaves -/

namespace Control

/-- What a write leaves of a control state.  When no failure was recorded that is all of it, but for the command status
`cs`.  After a failure nothing is expected and the command status says so; the status is that of a broken TLS connection
or the one before. -/
structure Written (c : Control) (cs : CommandStatus) (x : List Action) (c' : Control) : Prop where
  queueSize : c'.queueSize = c.queueSize
  queueBytes : c'.queueBytes = c.queueBytes
  queue : c'.queue = if x.any Action.fails then [] else c.queue
  commandStatus : c'.commandStatus = if x.any Action.fails then .sendFailed else cs
  status : c'.status = if x.any Action.breaks then .sslError else c.status

variable {c c' : Control} {x : List Action}

lemma Written.refl : c.Written c.commandStatus [] c := ⟨rfl, rfl, rfl, rfl, rfl⟩

lemma Quiet.not_fails {a : Action} (h : Quiet c a) : a.fails = false := by
  cases h <;> rfl

lemma Quiet.not_breaks {a : Action} (h : Quiet c a) : a.breaks = false := by
  cases h <;> rfl

/-- One more step of a write. -/
lemma Written.snoc {cs : CommandStatus} {c₁ : Control} {y : List Action} (h : c.Written cs x c₁)
    (hm : NetMove c₁ y c') : c.Written cs (y ++ x) c' := by
  cases hm with
  | quiet hq =>
    have hf := hq.not_fails
    have hb := hq.not_breaks
    refine ⟨h.queueSize, h.queueBytes, ?_, ?_, ?_⟩
    · simpa [hf] using h.queue
    · simpa [hf] using h.commandStatus
    · simpa [hb] using h.status
  | fail site hs =>
    refine ⟨h.queueSize, h.queueBytes, ?_, ?_, ?_⟩ <;> rcases hs with rfl | rfl | rfl
    all_goals first | rfl | exact h.status

/-- A failure of a send function itself, which leaves the status alone. -/
lemma Written.fail {cs cs' : CommandStatus} {c₁ : Control} {site : FailSite} (h : c.Written cs x c₁)
    (hs : site.status = none) (hcs : site.commandStatus = some .sendFailed) (hq : site.clears = true) (s : ConStatus)
    (n : ℕ) : c.Written cs' (.failed site s n :: x) (c₁.afterFail site) := by
  have hf : (Action.failed site s n).fails = true := by
    cases site <;> first | rfl | cases hcs
  have hb : (Action.failed site s n).breaks = false := by
    simp [Action.breaks, hs]
  refine ⟨h.queueSize, h.queueBytes, ?_, ?_, ?_⟩
  · simp [hf, afterFail, hq]
  · simp [hf, afterFail, hcs]
  · simpa [hb, afterFail, hs] using h.status

/-- **What a write leaves.** -/
theorem written_of_path (h : Path NetMove c x c') : c.Written c.commandStatus x c' := by
  induction h with
  | refl => exact .refl
  | snoc _ hm ih => exact ih.snoc hm

end Control

/-- A function got the connection from `con` to `con'` by a write; without TLS it cannot have broken the connection. -/
def Writes (cs : CommandStatus) (con con' : Con) : Prop :=
  ∃ x, con'.trace = x ++ con.trace ∧ con.control.Written cs x con'.control ∧
    (con.ssl.handshakeDone = false → x.any Action.breaks = false)

lemma Writes.ite {cs : CommandStatus} {p : Prop} [Decidable p] {con con₁ con₂ : Con} (ht : Writes cs con con₁)
    (hf : Writes cs con con₂) : Writes cs con (if p then con₁ else con₂) := by
  split_ifs
  · exact ht
  · exact hf

variable (env : Env) (con : Con)

/-- A write through OpenSSL is never refused, and one straight to libuv fails only by being refused. -/
lemma netWrite_written {parts : List (List UInt8)} {con' : Con} {failure : Option String}
    (hw : netWrite env con parts = (con', failure)) :
    ∃ x, con'.trace = x ++ con.trace ∧ con.control.Written con.commandStatus x con'.control ∧
      (con.ssl.handshakeDone = true → failure = none) ∧
      (con.ssl.handshakeDone = false → x.any Action.fails = false ∧ x.any Action.breaks = false) := by
  cases h : con.ssl.handshakeDone with
  | true =>
    obtain ⟨x, hx, hP⟩ := netWrite_does env con hw
    refine ⟨x, hx, Control.written_of_path hP, fun _ => ?_, nofun⟩
    unfold netWrite at hw
    rw [if_pos h] at hw
    cases hw
    rfl
  | false =>
    have hrefl := Control.Written.refl (c := con.control)
    unfold netWrite uvWrite at hw
    rw [if_neg (by rw [h]; decide)] at hw
    split_ifs at hw
    · split at hw <;> cases hw
      · exact ⟨[.write parts.flatten], rfl, hrefl.snoc (.quiet (.write _)), nofun, fun _ => ⟨rfl, rfl⟩⟩
      · exact ⟨[], rfl, hrefl, nofun, fun _ => ⟨rfl, rfl⟩⟩
    · cases hw
      exact ⟨[.fault], rfl, hrefl.snoc (.quiet .fault), nofun, fun _ => ⟨rfl, rfl⟩⟩

lemma commandWrite_written {command : Command} {data : List UInt8} {con' : Con} {failure : Option String}
    (hw : commandWrite env con command data = (con', failure)) :
    ∃ x, con'.trace = x ++ con.trace ∧ con.control.Written con.commandStatus x con'.control ∧
      (con.ssl.handshakeDone = true → failure = none) ∧
      (con.ssl.handshakeDone = false → x.any Action.fails = false ∧ x.any Action.breaks = false) := by
  have h := netWrite_written env _ hw
  exact h

/-- A failure before the packet is handed on. -/
lemma writes_fail {site : FailSite} {con' : Con} (hs : site.status = none)
    (hcs : site.commandStatus = some .sendFailed) (hq : site.clears = true)
    (hc : con'.control = con.control.afterFail site)
    (ht : con'.trace = .failed site con.status con.serverErrno :: con.trace) : Writes .readResponse con con' := by
  refine ⟨[.failed site con.status con.serverErrno], ht, ?_, fun _ => ?_⟩
  · rw [hc]
    exact Control.Written.refl.fail hs hcs hq _ _
  · simp [Action.breaks, hs]

lemma sendCompressedBuffers_writes (body : List UInt8) (uncompressed : ℕ) :
    Writes .readResponse con (sendCompressedBuffers env con body uncompressed) := by
  unfold sendCompressedBuffers
  dsimp only
  split
  · next con' hw =>
    obtain ⟨x, hx, hW, -, hno⟩ := netWrite_written env _ hw
    exact ⟨x, hx, ⟨hW.queueSize, hW.queueBytes, hW.queue, hW.commandStatus, hW.status⟩, fun h => (hno h).2⟩
  · next con' name hw =>
    obtain ⟨x, hx, hW, -, hno⟩ := netWrite_written env _ hw
    have hW' : con.control.Written .readResponse x con'.control :=
      ⟨hW.queueSize, hW.queueBytes, hW.queue, hW.commandStatus, hW.status⟩
    exact ⟨.failed .sendCompressed con'.status con'.serverErrno :: x, congrArg _ hx, hW'.fail rfl rfl rfl _ _,
      fun h => (hno h).2⟩

lemma compressPacket_writes (body : List UInt8) : Writes .readResponse con (compressPacket env con body) := by
  unfold compressPacket
  dsimp only
  split_ifs
  · exact writes_fail con rfl rfl rfl rfl rfl
  · split
    · exact writes_fail con rfl rfl rfl rfl rfl
    · split_ifs
      · exact writes_fail con rfl rfl rfl rfl rfl
      · exact sendCompressedBuffers_writes env _ _ _

/-- **What the compressed path writes.** -/
lemma sendCompressedPacket_writes (data : List UInt8) (command : Option Command) :
    Writes .readResponse con (sendCompressedPacket env con data command) := by
  have hsend := fun con₁ body => sendCompressedBuffers_writes env con₁ body 0
  refine .ite (writes_fail con rfl rfl rfl rfl rfl) (.ite ?_ ?_)
  · exact compressPacket_writes env _ _
  · exact hsend _ _

/-! ### Expecting an answer -/

lemma packetQueueStore_queue (t : PacketType) :
    (packetQueueStore con t).nextPacketQueue =
      if 4 * (con.nextPacketQueue.length + 1) ≤ con.nextPacketQueueBytes then t :: con.nextPacketQueue
      else con.nextPacketQueue := by
  unfold packetQueueStore
  split_ifs <;> rfl

/-- A push adds the packet exactly when there is room for it. -/
lemma packetQueuePush_queue (t : PacketType) :
    (packetQueuePush env con t).nextPacketQueue =
      if queueHasRoom env con con.nextPacketQueue.length then t :: con.nextPacketQueue else con.nextPacketQueue := by
  unfold packetQueuePush queueHasRoom
  by_cases h₀ : con.nextPacketQueueSize = 0
  · rw [if_pos h₀, if_pos h₀]
    cases env.malloc.get (4 * defaultPacketQueueSize) with
    | none =>
      simp only [Option.isSome_none, Bool.false_eq_true, false_and, decide_false, if_false]
      rfl
    | some block =>
      simp only [packetQueueStore_queue, Option.isSome_some, true_and, decide_eq_true_eq]
      refine if_congr ?_ rfl rfl
      unfold defaultPacketQueueSize
      omega
  · rw [if_neg h₀, if_neg h₀]
    by_cases h₁ : con.nextPacketQueueSize ≤ con.nextPacketQueue.length
    · rw [if_pos h₁, if_pos h₁]
      cases env.malloc.get (con.nextPacketQueueSize * 2) with
      | none =>
        simp only [Option.isSome_none, Bool.false_eq_true, false_and, decide_false, if_false]
        rfl
      | some block => simp only [packetQueueStore_queue, Option.isSome_some, true_and, decide_eq_true_eq]
    · rw [if_neg h₁, if_neg h₁, packetQueueStore_queue]
      simp only [decide_eq_true_eq]

/-- The room for an answer depends on the queue's allocation only. -/
lemma queueHasRoom_congr {con con' : Con} (hs : con'.nextPacketQueueSize = con.nextPacketQueueSize)
    (hb : con'.nextPacketQueueBytes = con.nextPacketQueueBytes) : queueHasRoom env con' = queueHasRoom env con := by
  unfold queueHasRoom
  rw [hs, hb]

/-- The queue after a command that expects an answer. -/
def queueAfter (env : Env) (con : Con) (command : Command) (q : List PacketType) : List PacketType :=
  if queueHasRoom env con q.length then (if command = .stmtPrepare then .prepareResponse else .response) :: q else q

/-! ### The two paths -/

/-- The connection with the COMPRESS capability or without it. -/
def Con.setCompress (con : Con) (compress : Bool) : Con :=
  { con with
    clientCapabilities :=
      if con.wantsCompress = compress then con.clientCapabilities
      else con.clientCapabilities ^^^ 2 ^ capabilityCompress }

lemma wantsCompress_setCompress (compress : Bool) : (con.setCompress compress).wantsCompress = compress := by
  change Nat.testBit (if con.wantsCompress = compress then _ else _) _ = _
  split_ifs with h
  · exact h
  · rw [Nat.testBit_xor, Nat.testBit_two_pow_self, Bool.xor_true]
    exact Bool.not_eq_eq_eq_not.mpr (Bool.eq_not_of_ne h)

/-- `attachsql_command_send` without the COMPRESS capability. -/
def plainSend (env : Env) (con : Con) (command : Command) (data : List UInt8) : Con × CommandStatus :=
  commandSend env (con.setCompress false) command data

/-- `attachsql_command_send` with the COMPRESS capability. -/
def compressedSend (env : Env) (con : Con) (command : Command) (data : List UInt8) : Con × CommandStatus :=
  commandSend env (con.setCompress true) command data

/-- What a send leaves behind: the expected packets, the status, the command status, and what it returns. -/
structure Left where
  queue : List PacketType
  status : ConStatus
  commandStatus : CommandStatus
  answer : CommandStatus
  deriving DecidableEq

/-- What a send left behind. -/
def left (r : Con × CommandStatus) : Left := ⟨r.1.nextPacketQueue, r.1.status, r.1.commandStatus, r.2⟩

/-- What was done between two states of a connection. -/
def newActions (con con' : Con) : List Action := con'.trace.take (con'.trace.length - con.trace.length)

lemma newActions_eq {con con' : Con} {x : List Action} (h : con'.trace = x ++ con.trace) : newActions con con' = x := by
  unfold newActions
  rw [h, List.length_append, Nat.add_sub_cancel, List.take_left]

/-- A send recorded a failure. -/
def sendFails (con : Con) (r : Con × CommandStatus) : Bool := (newActions con r.1).any Action.fails

/-- A send recorded a failure of the TLS connection. -/
def sendBreaks (con : Con) (r : Con × CommandStatus) : Bool := (newActions con r.1).any Action.breaks

/-- What a send made of what was expected before. -/
def queueBefore (con : Con) (r : Con × CommandStatus) : List PacketType :=
  if sendFails con r then [] else con.nextPacketQueue

section Paths

/-- A command was started on the connection: it is on the trace, and nothing of what is compared has changed. -/
structure Starts (con : Con) (command : Command) (con₀ : Con) : Prop where
  trace : con₀.trace = .onStream con.stream con.ssl.handshakeDone :: .command command con.status :: con.trace
  status : con₀.status = con.status
  queue : con₀.nextPacketQueue = con.nextPacketQueue
  queueSize : con₀.nextPacketQueueSize = con.nextPacketQueueSize
  queueBytes : con₀.nextPacketQueueBytes = con.nextPacketQueueBytes
  handshakeDone : con₀.ssl.handshakeDone = con.ssl.handshakeDone

/-- What a command starts from, with the COMPRESS capability or without it. -/
def started (con : Con) (compress : Bool) (command : Command) (data : List UInt8) : Con :=
  commandStart (con.setCompress compress) command data.length

variable (command : Command) (data : List UInt8)

lemma started_starts (compress : Bool) : Starts con command (started con compress command data) := by
  constructor <;> simp only [started, commandStart, resetInternals, Con.log, Con.setCompress]

lemma started_wantsCompress (compress : Bool) : (started con compress command data).wantsCompress = compress := by
  unfold started
  rw [commandStart_wantsCompress, wantsCompress_setCompress]

lemma plainSend_eq :
    plainSend env con command data = commandSendPlain env (started con false command data) command data := by
  have h := started_wantsCompress con command data false
  unfold plainSend commandSend
  exact if_neg (Bool.eq_false_iff.mp h)

lemma compressedSend_eq :
    compressedSend env con command data = commandSendCompressed env (started con true command data) command data := by
  have h := started_wantsCompress con command data true
  unfold compressedSend commandSend
  exact if_pos h

/-- A push records no failure. -/
lemma pushed_not_fails {t : PacketType} {c c' : Control} {x : List Action} (h : Control.Pushed t c x c') :
    x.any Action.fails = false ∧ x.any Action.breaks = false := by
  cases h <;> exact ⟨rfl, rfl⟩

variable {command con} {con₀ con₁ : Con} {cs : CommandStatus} {x : List Action} (h₀ : Starts con command con₀)

include h₀

/-- The actions of a send that ends with an answer expected. -/
lemma newActions_commandSent (h₁ : con₁.trace = x ++ con₀.trace) (t : PacketType) :
    (newActions con (commandSent (packetQueuePush env con₁ t))).any Action.fails = x.any Action.fails ∧
      (newActions con (commandSent (packetQueuePush env con₁ t))).any Action.breaks = x.any Action.breaks := by
  obtain ⟨y, hy, hp⟩ := packetQueuePush_does env con₁ t
  have ht : (commandSent (packetQueuePush env con₁ t)).trace =
      (.sent (packetQueuePush env con₁ t).status ::
        (y ++ (x ++ [.onStream con.stream con.ssl.handshakeDone, .command command con.status]))) ++ con.trace := by
    rw [List.cons_append, List.append_assoc, List.append_assoc, List.cons_append, List.singleton_append, ← h₀.trace,
      ← h₁, ← hy]
    rfl
  have hno := pushed_not_fails hp
  rw [newActions_eq ht]
  simp [hno.1, hno.2]

/-- The end of a send behind a write that left `con₁`, with the answer pushed that is expected. -/
lemma left_commandSent (hW : con₀.control.Written cs x con₁.control) :
    left (commandSent (packetQueuePush env con₁ (if command = .stmtPrepare then .prepareResponse else .response)),
        .send) = ⟨queueAfter env con command con₁.nextPacketQueue, .busy, .send, .send⟩ := by
  have hs : con₁.nextPacketQueueSize = con.nextPacketQueueSize := hW.queueSize.trans h₀.queueSize
  have hb : con₁.nextPacketQueueBytes = con.nextPacketQueueBytes := hW.queueBytes.trans h₀.queueBytes
  unfold queueAfter
  rw [← queueHasRoom_congr env hs hb, ← packetQueuePush_queue]
  rfl

/-- The queue and the status behind a write. -/
lemma written_left (hW : con₀.control.Written cs x con₁.control) :
    con₁.nextPacketQueue = (if x.any Action.fails then [] else con.nextPacketQueue) ∧
      con₁.status = if x.any Action.breaks then .sslError else con.status := by
  have hq : con₁.nextPacketQueue = if x.any Action.fails then [] else con₀.nextPacketQueue := hW.queue
  have hs : con₁.status = if x.any Action.breaks then .sslError else con₀.status := hW.status
  exact ⟨by rw [hq, h₀.queue], by rw [hs, h₀.status]⟩

/-- What the compressed path writes, by the failures of the whole send. -/
lemma compressed_written (data : List UInt8) :
    ∃ x, con₀.control.Written .readResponse x (sendCompressedPacket env con₀ data (some command)).control ∧
      (con.ssl.handshakeDone = false → x.any Action.breaks = false) ∧
      sendFails con (commandSendCompressed env con₀ command data) = x.any Action.fails ∧
      sendBreaks con (commandSendCompressed env con₀ command data) = x.any Action.breaks := by
  obtain ⟨x, hx, hW, hno⟩ := sendCompressedPacket_writes env con₀ data (some command)
  rw [h₀.handshakeDone] at hno
  refine ⟨x, hW, hno, ?_⟩
  unfold sendFails sendBreaks commandSendCompressed
  generalize sendCompressedPacket env con₀ data (some command) = con₁ at hx
  dsimp only
  by_cases hi : con₁.status = .idle
  · rw [if_pos hi]
    exact newActions_commandSent env h₀ hx _
  · rw [if_neg hi]
    have ht : con₁.trace =
        (x ++ [.onStream con.stream con.ssl.handshakeDone, .command command con.status]) ++ con.trace := by
      rw [hx, h₀.trace, List.append_assoc, List.cons_append, List.singleton_append]
    rw [newActions_eq ht]
    simp

/-- **What the compressed path leaves.**  On an idle connection it goes on as if the packet were sent; else it stops. -/
lemma compressed_left (data : List UInt8) :
    left (commandSendCompressed env con₀ command data) =
      if sendBreaks con (commandSendCompressed env con₀ command data) = false ∧ con.status = .idle then
        ⟨queueAfter env con command (queueBefore con (commandSendCompressed env con₀ command data)), .busy, .send, .send⟩
      else
        ⟨queueBefore con (commandSendCompressed env con₀ command data),
          if sendBreaks con (commandSendCompressed env con₀ command data) then .sslError else con.status,
          if sendFails con (commandSendCompressed env con₀ command data) then .sendFailed else .readResponse,
          if sendFails con (commandSendCompressed env con₀ command data) then .sendFailed else .readResponse⟩ := by
  obtain ⟨x, hW, -, hf, hb⟩ := compressed_written env h₀ data
  unfold queueBefore
  rw [hf, hb]
  unfold commandSendCompressed
  generalize sendCompressedPacket env con₀ data (some command) = con₁ at hW
  obtain ⟨hq, hs⟩ := written_left h₀ hW
  have hc : con₁.commandStatus = if x.any Action.fails then .sendFailed else .readResponse := hW.commandStatus
  have hidle : con₁.status = .idle ↔ x.any Action.breaks = false ∧ con.status = .idle := by
    rw [hs]
    cases x.any Action.breaks <;> simp
  dsimp only
  by_cases hi : con₁.status = .idle
  · rw [if_pos hi, if_pos (hidle.mp hi), left_commandSent env h₀ hW, hq]
  · rw [if_neg hi, if_neg (mt hidle.mpr hi), ← hq, ← hs, ← hc]
    rfl

lemma compressed_breaks (data : List UInt8) (h : con.ssl.handshakeDone = false) :
    sendBreaks con (commandSendCompressed env con₀ command data) = false := by
  obtain ⟨x, -, hno, -, hb⟩ := compressed_written env h₀ data
  rw [hb, hno h]

omit h₀ in
lemma expectedResponse_eq (con : Con) :
    expectedResponse env con command =
      if command = .stmtReset ∨ command = .stmtClose then con
      else packetQueuePush env con (if command = .stmtPrepare then .prepareResponse else .response) := by
  cases command <;> rfl

/-- What the plain path writes, by the failures of the whole send. -/
lemma plain_written {data : List UInt8} {failure : Option String}
    (hw : commandWrite env con₀ command data = (con₁, failure)) :
    ∃ x, con₀.control.Written con₀.commandStatus x con₁.control ∧
      (con.ssl.handshakeDone = true → failure = none) ∧
      (con.ssl.handshakeDone = false → x.any Action.fails = false ∧ x.any Action.breaks = false) ∧
      sendFails con (commandSendPlain env con₀ command data) = (failure.isSome || x.any Action.fails) := by
  obtain ⟨x, hx, hW, hyes, hno⟩ := commandWrite_written env _ hw
  rw [h₀.handshakeDone] at hyes hno
  refine ⟨x, hW, hyes, hno, ?_⟩
  have ht : con₁.trace = (x ++ [.onStream con.stream con.ssl.handshakeDone, .command command con.status]) ++ con.trace := by
    rw [hx, h₀.trace, List.append_assoc, List.cons_append, List.singleton_append]
  unfold sendFails commandSendPlain
  rw [hw]
  cases failure with
  | none =>
    dsimp only
    rw [expectedResponse_eq]
    split_ifs
    · rw [newActions_eq (show (commandSent con₁).trace = (.sent con₁.status :: _) ++ con.trace from congrArg _ ht)]
      simp
    · exact (newActions_commandSent env h₀ hx _).1
    · exact (newActions_commandSent env h₀ hx _).1
  | some name =>
    dsimp only
    have hfail : Con.trace { con₁.sendFailed .commandSend .netWriteError with
          errmsg := "Query send failed: " ++ name } =
        (.failed .commandSend con₁.status con₁.serverErrno ::
          (x ++ [.onStream con.stream con.ssl.handshakeDone, .command command con.status])) ++ con.trace :=
      congrArg _ ht
    rw [newActions_eq hfail]
    rfl

/-- **What the plain path leaves.**  A write that is refused leaves nothing expected and the status as it was; else the
connection is busy, and an answer expected to all but two commands. -/
lemma plain_left (data : List UInt8) :
    left (commandSendPlain env con₀ command data) =
      if con.ssl.handshakeDone = false ∧ sendFails con (commandSendPlain env con₀ command data) then
        ⟨[], con.status, .sendFailed, .sendFailed⟩
      else
        ⟨if command = .stmtReset ∨ command = .stmtClose then queueBefore con (commandSendPlain env con₀ command data)
          else queueAfter env con command (queueBefore con (commandSendPlain env con₀ command data)),
          .busy, .send, .send⟩ := by
  generalize hw : commandWrite env con₀ command data = r
  obtain ⟨con₁, failure⟩ := r
  obtain ⟨x, hW, hyes, hno, hf⟩ := plain_written env h₀ hw
  obtain ⟨hq, hs⟩ := written_left h₀ hW
  cases failure with
  | none =>
    have hcond : ¬ (con.ssl.handshakeDone = false ∧ sendFails con (commandSendPlain env con₀ command data)) := by
      rintro ⟨h, hfails⟩
      rw [hf, (hno h).1] at hfails
      cases hfails
    rw [if_neg hcond]
    unfold queueBefore
    rw [hf, Option.isSome_none, Bool.false_or, ← hq]
    unfold commandSendPlain
    rw [hw]
    dsimp only
    rw [expectedResponse_eq]
    by_cases hc : command = .stmtReset ∨ command = .stmtClose
    · rw [if_pos hc, if_pos hc]
      rfl
    · rw [if_neg hc, if_neg hc, left_commandSent env h₀ hW]
  | some name =>
    have h : con.ssl.handshakeDone = false := Bool.eq_false_iff.mpr fun h => by cases hyes h
    rw [if_pos ⟨h, by rw [hf]; rfl⟩]
    rw [(hno h).2] at hs
    unfold commandSendPlain
    rw [hw]
    exact congrArg (Left.mk [] · .sendFailed .sendFailed) hs

end Paths

end LibAttachSql
