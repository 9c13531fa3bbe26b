import LibAttachSql.SendFailures

/-!
# Where the two send paths agree

The failures of a command on the plain path and on the compressed one are known beforehand.  From these, and from the status
and the expected packets on entry, it can be said when the two paths leave the same.
-/

namespace LibAttachSql

open Lib

variable (env : Env) (con : Con) (command : Command) (data : List UInt8)

/-! ### Commands -/

/-- What the plain path hands on for a command. -/
def plainParts : List (List UInt8) :=
  let head := (con.writeBuffer.store 0 [command.code]).slice 0 (1 + con.writeBufferExtra)
  if 0 < data.length then [con.packetHeader, head, data] else [con.packetHeader, head]

/-- The connection with the header of a command. -/
def Con.heading (con : Con) (data : List UInt8) : Con :=
  { con with packetHeader := packInt3 (data.length + 1 + con.writeBufferExtra) ++ [0] }

/-- The plain path fails for the command. -/
def plainFails : Bool := con.ssl.netFails env con.stream (plainParts (con.heading data) command data)

/-- The compressed path fails for the command. -/
def compressedFails : Bool := packetFails env (con.heading data) data (some command)

/-- The compressed path breaks the TLS connection for the command. -/
def compressedBreaks : Bool := packetBreaks env (con.heading data) data (some command)

/-! ### When a command fails -/

/-- A command that is on its way, with its answer pushed. -/
lemma commandSent_turns (t : PacketType) : con.Turns false false (commandSent (packetQueuePush env con t)) :=
  (packetQueuePush_turns t).trans (.action (a := .sent (packetQueuePush env con t).status) rfl rfl)

lemma started_wire (compress : Bool) : (started con compress command data).wire = (con.heading data).wire := by
  simp only [Con.wire, started, commandStart, resetInternals, Con.log, Con.setCompress, Con.heading]

lemma plainParts_congr {con con' : Con} (h : con'.wire = con.wire) :
    plainParts con' command data = plainParts con command data := by
  simp only [Con.wire, Prod.mk.injEq] at h
  obtain ⟨-, -, hheader, hbuffer, hextra, -⟩ := h
  unfold plainParts
  rw [hheader, hbuffer, hextra]

/-- What starts a command is no failure. -/
lemma started_turns (compress : Bool) : con.Turns false false (started con compress command data) :=
  ⟨congrArg (fun w => w.2.1) (started_wire con command data compress),
    [.onStream con.stream con.ssl.handshakeDone, .command command con.status],
    (started_starts con command data compress).trace, rfl, rfl⟩

/-- **When the plain path fails.** -/
theorem plainSend_fails : sendFails con (plainSend env con command data) = plainFails env con command data := by
  have hstart := started_turns con command data false
  have hwire := started_wire con command data false
  rw [plainSend_eq]
  unfold plainFails
  generalize started con false command data = con₀ at hstart hwire ⊢
  have hparts := plainParts_congr command data hwire
  have hssl : con₀.ssl = con.ssl := congrArg Prod.fst hwire
  have hwrite : ∀ {con₁ con' : Con} {failure : Option String}, commandWrite env con₀ command data = (con₁, failure) →
      (failure.isSome = true → con₁.Turns true false con') → (failure.isSome = false → con₁.Turns false false con') →
      ∃ breaks, con.Turns (con.ssl.netFails env con.stream (plainParts (con.heading data) command data)) breaks con' := by
    intro con₁ con' failure hw hsome hnone
    have h := netWrite_recorded hw hsome hnone
    refine ⟨_, (hstart.trans (h.after rfl rfl)).congr ?_ rfl⟩
    rw [Bool.false_or, ← hparts, ← hssl, ← hstart.stream_eq]
    rfl
  unfold commandSendPlain
  split
  · next con₁ name hw =>
    have hfail : con₁.Turns true false { con₁.sendFailed .commandSend .netWriteError with
        errmsg := "Query send failed: " ++ name } := .failed .commandSend rfl rfl rfl rfl
    obtain ⟨_, h⟩ := hwrite hw (fun _ => hfail) nofun
    exact (h.recorded _).1
  · next con₁ hw =>
    have hsent : con₁.Turns false false (commandSent (expectedResponse env con₁ command)) := by
      rw [expectedResponse_eq]
      split_ifs
      · exact .action (a := .sent con₁.status) rfl rfl
      · exact commandSent_turns env con₁ _
      · exact commandSent_turns env con₁ _
    obtain ⟨_, h⟩ := hwrite hw nofun fun _ => hsent
    exact (h.recorded _).1

/-- **When the compressed path fails, and breaks the connection.** -/
theorem compressedSend_fails :
    sendFails con (compressedSend env con command data) = compressedFails env con command data ∧
      sendBreaks con (compressedSend env con command data) = compressedBreaks env con command data := by
  have hstart := started_turns con command data true
  have hwire := started_wire con command data true
  rw [compressedSend_eq]
  unfold compressedFails compressedBreaks
  generalize started con true command data = con₀ at hstart hwire ⊢
  have hpacket := hstart.trans (@sendCompressedPacket_turns env con₀ data (some command))
  rw [Bool.false_or, Bool.false_or, packetFails_congr env data (some command) hwire,
    packetBreaks_congr env data (some command) hwire] at hpacket
  unfold commandSendCompressed
  dsimp only
  generalize sendCompressedPacket env con₀ data (some command) = con₁ at hpacket ⊢
  by_cases hi : con₁.status = .idle
  · rw [if_pos hi]
    exact ((hpacket.trans (commandSent_turns env con₁ _)).congr (Bool.or_false _) (Bool.or_false _)).recorded _
  · rw [if_neg hi]
    exact hpacket.recorded _

/-! ### Where the paths agree -/

/-- The command expects no answer on the plain path. -/
def Unanswered (command : Command) : Prop := command = .stmtReset ∨ command = .stmtClose

instance : DecidablePred Unanswered := fun command => by
  unfold Unanswered
  infer_instance

/-- The packet that is expected in answer to a command. -/
def answerTo (command : Command) : PacketType := if command = .stmtPrepare then .prepareResponse else .response

/-- The two paths go on and expect the same, `plain` and `compressed` saying whether they failed, which leaves nothing
expected.  From the same packets they come to the same when both expect an answer, or there is no room to expect one.  When
just one of them failed, what was expected before must be what the other comes to from nothing. -/
def ExpectSame (env : Env) (con : Con) (command : Command) (plain compressed : Bool) : Prop :=
  if plain = compressed ∨ con.nextPacketQueue = [] then
    ¬ Unanswered command ∨ queueHasRoom env con (if compressed then 0 else con.nextPacketQueue.length) = false
  else
    con.nextPacketQueue = [answerTo command] ∧ queueHasRoom env con 0 = true ∧
      if Unanswered command then plain = false else queueHasRoom env con 1 = false

/-- **The condition for the two paths to agree.**  A plain write that libuv refuses ends its path, and the compressed one
must fail as well and find the connection not idle, for on an idle one it goes on.  Else the plain path goes on, and the
compressed one must: the connection is idle, and the write does not break TLS. -/
def AgreeWhen (env : Env) (con : Con) (command : Command) (data : List UInt8) : Prop :=
  if con.ssl.handshakeDone = false ∧ plainFails env con command data = true then
    con.status ≠ .idle ∧ compressedFails env con command data = true
  else
    con.status = .idle ∧ compressedBreaks env con command data = false ∧
      ExpectSame env con command (plainFails env con command data) (compressedFails env con command data)

/-- What is left of the expected packets by a send that failed, or did not. -/
def queueBehind (con : Con) (fails : Bool) : List PacketType := if fails then [] else con.nextPacketQueue

lemma length_queueBehind (fails : Bool) :
    (queueBehind con fails).length = if fails then 0 else con.nextPacketQueue.length := by
  cases fails <;> rfl

lemma queueAfter_eq_ite (q : List PacketType) :
    queueAfter env con command q = if queueHasRoom env con q.length then answerTo command :: q else q := rfl

/-- An answer is added, or not. -/
lemma queueAfter_eq_self_iff (q : List PacketType) :
    q = queueAfter env con command q ↔ queueHasRoom env con q.length = false := by
  rw [queueAfter_eq_ite]
  cases h : queueHasRoom env con q.length with
  | true => simp
  | false => simp

/-- What was expected is what one comes to from nothing. -/
lemma queueAfter_nil_eq_iff {q : List PacketType} (hq : q ≠ []) :
    q = queueAfter env con command [] ↔ q = [answerTo command] ∧ queueHasRoom env con 0 = true := by
  rw [queueAfter_eq_ite, List.length_nil]
  cases h : queueHasRoom env con 0 with
  | true => simp
  | false => simp [hq]

/-- Two paths that both expect an answer, one of them from nothing. -/
lemma queueAfter_eq_nil_iff {q : List PacketType} (hq : q ≠ []) :
    queueAfter env con command q = queueAfter env con command [] ↔
      q = [answerTo command] ∧ queueHasRoom env con 0 = true ∧ queueHasRoom env con 1 = false := by
  rw [queueAfter_eq_ite env con command q]
  cases h : queueHasRoom env con q.length with
  | true =>
    rw [if_pos rfl]
    refine iff_of_false ?_ ?_
    · rw [queueAfter_nil_eq_iff env con command (List.cons_ne_nil _ _)]
      exact fun hn => hq (List.cons.inj hn.1).2
    · rintro ⟨rfl, -, hroom⟩
      rw [List.length_singleton] at h
      rw [h] at hroom
      cases hroom
  | false =>
    rw [if_neg nofun, queueAfter_nil_eq_iff env con command hq]
    refine and_congr_right fun hq₁ => (and_iff_left ?_).symm
    rw [hq₁, List.length_singleton] at h
    exact h

/-- What the two paths come to is the same. -/
lemma expectSame_iff (plain compressed : Bool) :
    (if Unanswered command then queueBehind con plain else queueAfter env con command (queueBehind con plain)) =
        queueAfter env con command (queueBehind con compressed) ↔
      ExpectSame env con command plain compressed := by
  unfold ExpectSame
  by_cases hsame : plain = compressed ∨ con.nextPacketQueue = []
  · have hbehind : queueBehind con plain = queueBehind con compressed := by
      rcases hsame with rfl | hnil
      · rfl
      · unfold queueBehind
        rw [hnil, ite_self, ite_self]
    rw [if_pos hsame, hbehind, ← length_queueBehind, ← queueAfter_eq_self_iff env con command]
    split_ifs with hc <;> simp [hc]
  · obtain ⟨hne, hq⟩ := not_or.mp hsame
    rw [if_neg hsame]
    cases plain with
    | true =>
      obtain rfl : compressed = false := by simpa using hne
      show (if Unanswered command then [] else queueAfter env con command []) =
        queueAfter env con command con.nextPacketQueue ↔ _
      split_ifs with hc
      · refine iff_of_false (fun hn => ?_) nofun
        rw [queueAfter_eq_ite] at hn
        split_ifs at hn
        exact hq hn.symm
      · exact eq_comm.trans (queueAfter_eq_nil_iff env con command hq)
    | false =>
      obtain rfl : compressed = true := by simpa using hne
      show (if Unanswered command then con.nextPacketQueue else queueAfter env con command con.nextPacketQueue) =
        queueAfter env con command [] ↔ _
      split_ifs with hc
      · rw [queueAfter_nil_eq_iff env con command hq]
        exact and_congr_right fun _ => (and_iff_left rfl).symm
      · exact queueAfter_eq_nil_iff env con command hq

/-- **Where the send paths agree**: they leave the same queue, status and command status and return the same exactly under
the condition. -/
theorem send_paths_agree_iff :
    left (plainSend env con command data) = left (compressedSend env con command data) ↔
      AgreeWhen env con command data := by
  have hp := plain_left env (started_starts con command data false) data
  have hz := compressed_left env (started_starts con command data true) data
  have hb := compressed_breaks env (started_starts con command data true) data
  obtain ⟨hfails, hbreaks⟩ := compressedSend_fails env con command data
  rw [← plainSend_eq] at hp
  rw [← compressedSend_eq] at hz hb
  unfold queueBefore at hp hz
  rw [plainSend_fails] at hp
  rw [hfails, hbreaks] at hz
  rw [hbreaks] at hb
  rw [hp, hz]
  unfold AgreeWhen
  rw [← expectSame_iff]
  unfold queueBehind Unanswered
  generalize plainFails env con command data = plain
  generalize compressedFails env con command data = compressed
  generalize compressedBreaks env con command data = breaks at hb
  by_cases hr : con.ssl.handshakeDone = false ∧ plain = true
  · rw [if_pos hr, if_pos hr, hb hr.1]
    by_cases hs : con.status = .idle
    · rw [if_pos ⟨rfl, hs⟩, Left.mk.injEq]
      exact iff_of_false (fun hn => by cases hn.2.2.1) fun hn => hn.1 hs
    · rw [if_neg fun hn => hs hn.2, Left.mk.injEq]
      cases compressed <;> simp [hs]
  · rw [if_neg hr, if_neg hr]
    by_cases hi : breaks = false ∧ con.status = .idle
    · rw [if_pos hi, Left.mk.injEq]
      simp [hi]
    · rw [if_neg hi, Left.mk.injEq]
      refine iff_of_false ?_ fun hn => hi ⟨hn.2.1, hn.1⟩
      rintro ⟨-, -, hn, -⟩
      cases compressed <;> cases hn

/-- Three ways for the paths to differ: a statement reset on an idle connection, a query on a busy one, and a query on
an idle connection whose write is refused. -/
theorem send_paths_differ :
    (∃ con, con.status = .idle ∧
      sendFails con (plainSend .calm con .stmtReset []) = false ∧
      sendFails con (compressedSend .calm con .stmtReset []) = false ∧
      left (plainSend .calm con .stmtReset []) ≠ left (compressedSend .calm con .stmtReset [])) ∧
    (∃ con, con.status = .busy ∧
      sendFails con (plainSend .calm con .query [0x53]) = false ∧
      sendFails con (compressedSend .calm con .query [0x53]) = false ∧
      left (plainSend .calm con .query [0x53]) ≠ left (compressedSend .calm con .query [0x53])) ∧
    ∃ con env, con.status = .idle ∧
      sendFails con (plainSend env con .query [0x53]) = true ∧
      sendFails con (compressedSend env con .query [0x53]) = true ∧
      left (plainSend env con .query [0x53]) ≠ left (compressedSend env con .query [0x53]) := by
  refine ⟨⟨run sysStep (.calm 0) (connectAndQuery 2 ++ [.poll (.calm [.wrote none, .read 65536 (okPacket 1 2)])]), ?_⟩,
    ⟨run sysStep (.calm 0) (connectAndQuery 2), ?_⟩,
    ⟨run sysStep (.calm 0) (connectAndQuery 2 ++ [.poll (.calm [.wrote none, .read 65536 (okPacket 1 2)])]),
      { Env.calm with uvWrite := fun _ => some "EPIPE" }, ?_⟩⟩
  · decide +kernel
  · decide +kernel
  · decide +kernel

end LibAttachSql
