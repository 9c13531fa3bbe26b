import LibAttachSql.TlsTurn

/-!
# When a send fails

Whether a packet can be handed on, plain or compressed, is decided by the environment and by the connection as it was before:
by what is allocated and compressed, and by what libuv and OpenSSL answer to the bytes.
-/

namespace LibAttachSql

open Lib

variable (env : Env) (con : Con) (data : List UInt8)

/-! ### What is handed on -/

/-- A body with the header of a compressed packet of this number. -/
def compressedPieces (number : UInt8) (body : List UInt8) (uncompressed : ℕ) : List (List UInt8) :=
  [packInt3 body.length ++ [number] ++ packInt3 uncompressed, body]

/-- What the compressed path makes of a packet that is gathered in a buffer of this size: there is nothing to hand on when
an allocation fails, or zlib does, or what it gives back is larger than the buffer. -/
def packedParts (number : UInt8) (body : List UInt8) (room : ℕ) : Option (List (List UInt8)) :=
  let bound := env.compressBound body.length
  if con.compressedBufferLen < bound ∧ (env.malloc.get (enlarge bound)).isNone then none
  else (env.compress body (enlarged con.compressedBufferLen bound)).bind fun compressed =>
    if room < compressed.length then none else some (compressedPieces number compressed body.length)

/-- What the compressed path hands on for a packet, if it comes to that. -/
def compressedParts (command : Option Command) : Option (List (List UInt8)) :=
  let required := data.length + 4 + if command.isSome then 1 + con.writeBufferExtra else 0
  let body := uncompressedBody con data command
  let number := if command.isSome then 0 else con.compressedPacketNumber
  if con.uncompressedBufferLen < required ∧ (env.malloc.get (enlarge required)).isNone then none
  else if minimumCompressSize < data.length then
    packedParts env con number body (enlarged con.uncompressedBufferLen required)
  else some (compressedPieces number body 0)

/-- Sending the packet by the compressed path fails. -/
def packetFails (command : Option Command) : Bool :=
  match compressedParts env con data command with
  | none => true
  | some parts => con.ssl.netFails env con.stream parts

/-- Sending the packet by the compressed path breaks the TLS connection. -/
def packetBreaks (command : Option Command) : Bool :=
  match compressedParts env con data command with
  | none => false
  | some parts => con.ssl.netBreaks env parts

/-! ### What comes of it -/

namespace Con.Turns

variable {con : Con} {fails breaks : Bool} {con' : Con}

/-- What was recorded between two connections. -/
lemma recorded (h : con.Turns fails breaks con') (cs : CommandStatus) :
    sendFails con (con', cs) = fails ∧ sendBreaks con (con', cs) = breaks := by
  obtain ⟨x, hx, hf, hb⟩ := h.trace_eq
  unfold sendFails sendBreaks
  rw [newActions_eq hx]
  exact ⟨hf, hb⟩

/-- A failure that leaves the status alone. -/
lemma failed (site : FailSite) (hsite : (Action.failed site con.status con.serverErrno).fails = true)
    (hstatus : site.status = none) (hs : con'.stream = con.stream)
    (ht : con'.trace = .failed site con.status con.serverErrno :: con.trace) : con.Turns true false con' := by
  have hbreaks : (Action.failed site con.status con.serverErrno).breaks = false := by
    show site.status.isSome = false
    rw [hstatus]
    rfl
  exact (action hs ht).congr hsite hbreaks

end Con.Turns

/-- The connection with a packet gathered that takes this many bytes. -/
def Con.gathered (con : Con) (required : ℕ) (command : Option Command) : Con :=
  { con with
    compressedPacketNumber := if command.isSome then 0 else con.compressedPacketNumber
    uncompressedBufferLen := enlarged con.uncompressedBufferLen required
    writeBufferExtra := if command.isSome then 0 else con.writeBufferExtra }

section Turns

variable {env con data}

lemma packetQueuePush_stream (t : PacketType) : (packetQueuePush env con t).stream = con.stream := by
  obtain ⟨_, _, _, _, h⟩ := packetQueuePush_frame env con t
  rw [h]

/-- A push records no failure of a send. -/
lemma packetQueuePush_turns (t : PacketType) : con.Turns false false (packetQueuePush env con t) := by
  obtain ⟨x, hx, hp⟩ := packetQueuePush_does env con t
  exact ⟨packetQueuePush_stream t, x, hx, pushed_not_fails hp⟩

/-- A write behind which a refusal is recorded. -/
lemma netWrite_recorded {parts : List (List UInt8)} {con₁ con' : Con} {failure : Option String}
    (hw : netWrite env con parts = (con₁, failure))
    (hsome : failure.isSome = true → con₁.Turns true false con')
    (hnone : failure.isSome = false → con₁.Turns false false con') :
    con.Turns (con.ssl.netFails env con.stream parts) (con.ssl.netBreaks env parts) con' := by
  obtain ⟨hturns, hfailure⟩ := netWrite_turns env con hw
  cases hf : failure.isSome with
  | true =>
    rw [hf] at hfailure
    obtain ⟨-, hfails⟩ := Bool.and_eq_true_iff.mp hfailure.symm
    exact (hturns.trans (hsome hf)).congr (by rw [Bool.or_true, hfails]) (Bool.or_false _)
  | false =>
    rw [hf] at hfailure
    refine (hturns.trans (hnone hf)).congr ?_ (Bool.or_false _)
    rw [Bool.or_false]
    cases hd : con.ssl.handshakeDone with
    | true => exact Bool.true_and _
    | false =>
      rw [hd, Bool.not_false, Bool.true_and] at hfailure
      rw [Bool.false_and, ← hfailure]

lemma sendCompressedBuffers_turns (body : List UInt8) (uncompressed : ℕ) :
    con.Turns (con.ssl.netFails env con.stream (compressedPieces con.compressedPacketNumber body uncompressed))
      (con.ssl.netBreaks env (compressedPieces con.compressedPacketNumber body uncompressed))
      (sendCompressedBuffers env con body uncompressed) := by
  unfold sendCompressedBuffers
  dsimp only
  split
  · next con' hw =>
    have h := netWrite_recorded hw nofun fun _ => Con.Turns.same rfl rfl
    exact h.after rfl rfl
  · next con' name hw =>
    have hfail : con'.Turns true false (con'.sendFailed .sendCompressed .netWriteError) :=
      .failed .sendCompressed rfl rfl rfl rfl
    have h := netWrite_recorded hw (fun _ => hfail) nofun
    exact h.after rfl rfl

/-- What comes of a packet that is compressed. -/
lemma compressPacket_turns (body : List UInt8) :
    con.Turns
      (match packedParts env con con.compressedPacketNumber body con.uncompressedBufferLen with
        | none => true
        | some parts => con.ssl.netFails env con.stream parts)
      (match packedParts env con con.compressedPacketNumber body con.uncompressedBufferLen with
        | none => false
        | some parts => con.ssl.netBreaks env parts)
      (compressPacket env con body) := by
  unfold compressPacket packedParts
  dsimp only
  by_cases halloc : con.compressedBufferLen < env.compressBound body.length ∧
      (env.malloc.get (enlarge (env.compressBound body.length))).isNone = true
  · rw [if_pos halloc, if_pos halloc]
    exact .failed .compressedAlloc rfl rfl rfl rfl
  rw [if_neg halloc, if_neg halloc]
  cases env.compress body (enlarged con.compressedBufferLen (env.compressBound body.length)) with
  | none => exact .failed .compress rfl rfl rfl rfl
  | some compressed =>
    rw [Option.bind_some]
    dsimp only
    by_cases hroom : con.uncompressedBufferLen < compressed.length
    · rw [if_pos hroom, if_pos hroom]
      exact .failed .compress rfl rfl rfl rfl
    · rw [if_neg hroom, if_neg hroom]
      have h := @sendCompressedBuffers_turns env { con with
        compressedBufferLen := enlarged con.compressedBufferLen (env.compressBound body.length) } compressed body.length
      exact h.after rfl rfl

/-- **What comes of a packet on the compressed path.** -/
theorem sendCompressedPacket_turns (command : Option Command) :
    con.Turns (packetFails env con data command) (packetBreaks env con data command)
      (sendCompressedPacket env con data command) := by
  unfold sendCompressedPacket packetFails packetBreaks compressedParts
  dsimp only
  generalize data.length + 4 + (if command.isSome = true then 1 + con.writeBufferExtra else 0) = required
  by_cases halloc : con.uncompressedBufferLen < required ∧ (env.malloc.get (enlarge required)).isNone = true
  · rw [if_pos halloc, if_pos halloc]
    exact .failed .uncompressedAlloc rfl rfl rfl rfl
  rw [if_neg halloc, if_neg halloc]
  by_cases hlong : minimumCompressSize < data.length
  · rw [if_pos hlong, if_pos hlong]
    have h := @compressPacket_turns env (con.gathered required command) (uncompressedBody con data command)
    exact h.after rfl rfl
  · rw [if_neg hlong, if_neg hlong]
    have h := @sendCompressedBuffers_turns env (con.gathered required command) (uncompressedBody con data command) 0
    exact h.after rfl rfl

end Turns

/-! ### What it depends on -/

/-- What decides how a packet goes out. -/
def Con.wire (con : Con) : Ssl × Bool × List UInt8 × Memory UInt8 × ℕ × ℕ × ℕ × UInt8 :=
  (con.ssl, con.stream, con.packetHeader, con.writeBuffer, con.writeBufferExtra, con.compressedBufferLen,
    con.uncompressedBufferLen, con.compressedPacketNumber)

section Congr

variable {con con' : Con} (command : Option Command) (h : con'.wire = con.wire)

include h

lemma compressedParts_congr : compressedParts env con' data command = compressedParts env con data command := by
  simp only [Con.wire, Prod.mk.injEq] at h
  obtain ⟨-, -, hheader, hbuffer, hextra, hlen, hlen', hnumber⟩ := h
  unfold compressedParts packedParts uncompressedBody
  rw [hheader, hbuffer, hextra, hlen, hlen', hnumber]

lemma packetFails_congr : packetFails env con' data command = packetFails env con data command := by
  have hssl : con'.ssl = con.ssl := congrArg Prod.fst h
  have hstream : con'.stream = con.stream := congrArg (fun w => w.2.1) h
  unfold packetFails
  rw [compressedParts_congr env data command h, hssl, hstream]

lemma packetBreaks_congr : packetBreaks env con' data command = packetBreaks env con data command := by
  have hssl : con'.ssl = con.ssl := congrArg Prod.fst h
  unfold packetBreaks
  rw [compressedParts_congr env data command h, hssl]

end Congr

/-! ### Packets behind the start of TLS -/

namespace Ssl

variable (env : Env) (ssl : Ssl)

/-- TLS is to begin with the next packet. -/
def begins : Bool := ssl.enabled && !ssl.handshakeDone

/-- The SSL part when its handshake begins. -/
def atStart : Ssl := { ssl with calls := ssl.calls + 1 }

/-- The beginning of TLS fails. -/
def startFails (stream : Bool) : Bool := ssl.begins && ssl.atStart.runFails env stream

/-- The beginning of TLS breaks the connection. -/
def startBreaks : Bool := ssl.begins && ssl.atStart.runBreaks env

/-- The SSL part behind the beginning of TLS. -/
def afterStart : Ssl := if ssl.begins then { ssl.atStart.afterRun env with handshakeDone := true } else ssl

end Ssl

/-- The connection when `attachsql_send_data` has set the header of a packet. -/
def headed (con : Con) (data : List UInt8) : Con :=
  { con with packetNumber := con.packetNumber + 1, packetHeader := packInt3 data.length ++ [con.packetNumber + 1] }

/-- What `attachsql_send_data` does behind that. -/
def sendHeaded (env : Env) (con : Con) (data : List UInt8) : Con :=
  if con.wantsCompress ∧ con.status ≠ .connecting then sendCompressedPacket env con data none
  else
    match netWrite env { con with commandStatus := .readResponse } [con.packetHeader, data] with
    | (con, none) => con
    | (con, some _) => con.sendFailed .sendData .netWriteError

lemma sendData_eq : sendData env con data = sendHeaded env (headed (startTls env con) data) data := rfl

/-- The connection on which `attachsql_send_data` hands a packet on. -/
def Con.ready (con : Con) (env : Env) (data : List UInt8) : Con :=
  { con with
    ssl := con.ssl.afterStart env
    status := if con.ssl.startBreaks env then .sslError else con.status
    packetHeader := packInt3 data.length ++ [con.packetNumber + 1] }

/-- `attachsql_send_data` fails: the beginning of TLS does, or the packet on its way. -/
def dataFails : Bool :=
  con.ssl.startFails env con.stream ||
    if (con.ready env data).wantsCompress ∧ (con.ready env data).status ≠ .connecting then
      packetFails env (con.ready env data) data none
    else (con.ready env data).ssl.netFails env con.stream [(con.ready env data).packetHeader, data]

section Data

variable {env con data}

/-- What a send leaves of the expected packets, by whether it fails. -/
lemma queue_of_turns {con con' : Con} {fails breaks : Bool} {cs : CommandStatus} (h : con.Turns fails breaks con')
    (hw : Writes cs con con') : con'.nextPacketQueue = if fails then [] else con.nextPacketQueue := by
  obtain ⟨x, hx, rfl, -⟩ := h.trace_eq
  obtain ⟨y, hy, hwritten, -⟩ := hw
  obtain rfl : x = y := List.append_cancel_right (hx.symm.trans hy)
  exact hwritten.queue

/-- **What comes of the beginning of TLS.** -/
lemma startTls_turns : con.Turns (con.ssl.startFails env con.stream) (con.ssl.startBreaks env) (startTls env con) ∧
    (startTls env con).ssl = con.ssl.afterStart env ∧ con.WireOnly (startTls env con) ∧
    (startTls env con).status = (if con.ssl.startBreaks env then .sslError else con.status) ∧
    (startTls env con).nextPacketQueue = if con.ssl.startFails env con.stream then [] else con.nextPacketQueue := by
  unfold startTls Ssl.startFails Ssl.startBreaks Ssl.afterStart Ssl.begins
  cases hb : con.ssl.enabled && !con.ssl.handshakeDone with
  | false =>
    have hneg : ¬ (con.ssl.enabled = true ∧ ¬ con.ssl.handshakeDone = true) := by
      rintro ⟨he, hd⟩
      rw [he, Bool.eq_false_iff.mpr hd] at hb
      cases hb
    rw [if_neg hneg]
    exact ⟨.same rfl rfl, rfl, rfl, rfl, rfl⟩
  | true =>
    obtain ⟨he, hd⟩ := Bool.and_eq_true_iff.mp hb
    have hpos : con.ssl.enabled = true ∧ ¬ con.ssl.handshakeDone = true := by
      refine ⟨he, fun hn => ?_⟩
      rw [hn] at hd
      cases hd
    rw [if_pos hpos, Bool.true_and, Bool.true_and, if_pos rfl]
    dsimp only
    generalize hstart : ({ con with ssl.calls := con.ssl.calls + 1 } : Con) = con₁
    have hssl₁ : con₁.ssl = con.ssl.atStart := by rw [← hstart]; rfl
    have hsame : con₁.stream = con.stream ∧ con₁.trace = con.trace ∧ con₁.status = con.status ∧
        con₁.nextPacketQueue = con.nextPacketQueue := by
      rw [← hstart]
      exact ⟨rfl, rfl, rfl, rfl⟩
    obtain ⟨hstream, htrace, hstatus₁, hqueue₁⟩ := hsame
    have hwire₁ : con.WireOnly con₁ := by rw [← hstart]; rfl
    obtain ⟨hturns, hssl⟩ := sslRun_turns env con₁
    have hwire := sslRun_wireOnly env con₁
    obtain ⟨x, hx, hP⟩ := sslRun_does env con₁
    have hwritten := Control.written_of_path (Path.mono (fun h => Control.WireMove.net h) hP)
    obtain ⟨y, hy, hfails, hbreaks⟩ := hturns.trace_eq
    obtain rfl : x = y := List.append_cancel_right (hx.symm.trans hy)
    have hqueue : (sslRun env con₁).nextPacketQueue = if x.any Action.fails then [] else con₁.nextPacketQueue :=
      hwritten.queue
    have hstatus : (sslRun env con₁).status = if x.any Action.breaks then .sslError else con₁.status := hwritten.status
    rw [hfails, hssl₁, hstream, hqueue₁] at hqueue
    rw [hbreaks, hssl₁, hstatus₁] at hstatus
    rw [hssl₁, hstream] at hturns
    rw [hssl₁] at hssl
    generalize sslRun env con₁ = con₂ at *
    refine ⟨?_, by rw [hssl], (hwire₁.trans hwire).trans rfl, hstatus, hqueue⟩
    have hend : con₂.Turns false false { con₂ with ssl.handshakeDone := true } := .same rfl rfl
    exact ((hturns.after hstream htrace).trans hend).congr (Bool.or_false _) (Bool.or_false _)

/-- A write of `attachsql_send_data`. -/
lemma dataWrite_writes {parts : List (List UInt8)} {con' : Con} {failure : Option String}
    (hw : netWrite env { con with commandStatus := .readResponse } parts = (con', failure)) :
    (failure.isSome = false → Writes .readResponse con con') ∧
      (failure.isSome = true → Writes .readResponse con (con'.sendFailed .sendData .netWriteError)) := by
  obtain ⟨x, hx, hW, -, hno⟩ := netWrite_written env _ hw
  have hW' : con.control.Written .readResponse x con'.control :=
    ⟨hW.queueSize, hW.queueBytes, hW.queue, hW.commandStatus, hW.status⟩
  refine ⟨fun _ => ⟨x, hx, hW', fun h => (hno h).2⟩, fun _ => ?_⟩
  exact ⟨.failed .sendData con'.status con'.serverErrno :: x, congrArg _ hx, hW'.fail rfl rfl rfl _ _,
    fun h => (hno h).2⟩

/-- What a packet with its header leaves of the expected ones. -/
lemma sendHeaded_queue :
    (sendHeaded env con data).nextPacketQueue =
      if (if con.wantsCompress ∧ con.status ≠ .connecting then packetFails env con data none
        else con.ssl.netFails env con.stream [con.packetHeader, data]) then [] else con.nextPacketQueue := by
  unfold sendHeaded
  by_cases hc : con.wantsCompress ∧ con.status ≠ .connecting
  · rw [if_pos hc, if_pos hc]
    exact queue_of_turns (sendCompressedPacket_turns none) (sendCompressedPacket_writes env con data none)
  · rw [if_neg hc, if_neg hc]
    split
    · next con' hw =>
      have h := netWrite_recorded hw nofun fun _ => Con.Turns.same rfl rfl
      have h' : con.Turns _ _ con' := h.after rfl rfl
      exact queue_of_turns h' ((dataWrite_writes hw).1 rfl)
    · next con' name hw =>
      have hfail : con'.Turns true false (con'.sendFailed .sendData .netWriteError) :=
        .failed .sendData rfl rfl rfl rfl
      have h := netWrite_recorded hw (fun _ => hfail) nofun
      have h' : con.Turns _ _ (con'.sendFailed .sendData .netWriteError) := h.after rfl rfl
      exact queue_of_turns h' ((dataWrite_writes hw).2 rfl)

/-- **What a packet leaves of the expected ones.** -/
theorem sendData_queue :
    (sendData env con data).nextPacketQueue = if dataFails env con data then [] else con.nextPacketQueue := by
  obtain ⟨-, hssl, hwire, hstatus, hqueue⟩ := @startTls_turns env con
  rw [sendData_eq, sendHeaded_queue]
  generalize startTls env con = con₁ at *
  have hsame : (headed con₁ data).wire = (con.ready env data).wire ∧
      (headed con₁ data).wantsCompress = (con.ready env data).wantsCompress ∧
      (headed con₁ data).status = (con.ready env data).status := by
    rw [hwire]
    unfold Con.wire Con.ready Con.wantsCompress headed
    dsimp only
    rw [hssl, hstatus]
    exact ⟨rfl, rfl, rfl⟩
  obtain ⟨hwired, hwants, hstatus'⟩ := hsame
  have hssl' : (headed con₁ data).ssl = (con.ready env data).ssl := congrArg Prod.fst hwired
  have hstream : (headed con₁ data).stream = con.stream := congrArg (fun w => w.2.1) hwired
  have hheader : (headed con₁ data).packetHeader = (con.ready env data).packetHeader :=
    congrArg (fun w => w.2.2.1) hwired
  have hqueue' : (headed con₁ data).nextPacketQueue = con₁.nextPacketQueue := rfl
  rw [hwants, hstatus', packetFails_congr env data none hwired, hssl', hstream, hheader, hqueue', hqueue]
  unfold dataFails
  cases con.ssl.startFails env con.stream with
  | true => rw [Bool.true_or, if_pos rfl, ite_self]
  | false => rw [Bool.false_or, if_neg Bool.false_ne_true]

end Data

end LibAttachSql
