import LibAttachSql.Packets
import LibAttachSql.System

/-!
# Errors in the middle of a result

A server may give up a result with an ERR packet in place of the next row or of the end of the rows.  The reader of rows
tells the end of the rows from a row, but not an ERR packet, and hands that over as a row.
-/

namespace LibAttachSql

open Lib

/-- The connection is inside a result: the next row is expected, and there is no error so far. -/
structure Con.AwaitsRow (con : Con) (t : PacketType) : Prop where
  row : t = .row ∨ t = .stmtRow
  expected : ∃ q, con.nextPacketQueue = t :: q
  status : con.status = .busy ∨ con.status = .idle
  noError : con.serverErrno = 0

/-- The error number of an ERR packet. -/
def errnoOf (payload : List UInt8) : ℕ := (payload.getD 1 0).toNat + (payload.getD 2 0).toNat * 2 ^ 8

/-- An ERR packet is reported as it should be: the poll that looks at the connection answers with an error, which is the
packet's own, no row is expected any more, and the packet is not offered as a row. -/
structure ErrorReported (env : Env) (w : World) (error : ErrorPtr) (con : Con) (payload : List UInt8) : Prop where
  answer : (pollSwitch env w con error).2.2 = .error
  errno : con.serverErrno = errnoOf payload
  sqlstate : con.sqlstate = (payload.drop 4).take 5
  message : con.serverMessage = ((payload.drop 9).take (maxMessageLen - 1)).takeWhile (· ≠ 0)
  queue : con.nextPacketQueue = []
  notRow : con.commandStatus ≠ .rowInBuffer

section Rows

variable {env : Env} {con : Con} {b : BufferSt} {seq : UInt8} {payload : List UInt8} {t : PacketType}

/-- The reader of rows leaves a packet that does not start with 0xfe where it is, as the row. -/
lemma packetReadRow_of_ne (env : Env) (h : con.peekByte 0 ≠ 0xfe) :
    (packetReadRow env con).commandStatus = .rowInBuffer ∧ (packetReadRow env con).status = .idle ∧
      (packetReadRow env con).result.rowData = some con.buf.bufferReadPtr ∧
      (packetReadRow env con).result.rowLength = con.packetSize := by
  unfold packetReadRow
  rw [if_neg h]
  exact ⟨rfl, rfl, rfl, rfl⟩

lemma packetDispatch_row (ht : t = .row ∨ t = .stmtRow) :
    packetDispatch env con t = .done (packetReadRow env con) true := by
  rcases ht with rfl | rfl <;> rfl

/-- An ERR packet whose number is accepted becomes a row. -/
lemma error_becomes_row (h : con.AwaitsRow t) (hp : con.Holds b seq payload) (herr : payload.head? = some 0xff)
    (ha : con.Accepts t seq) :
    (processPacket env con).con.commandStatus = .rowInBuffer ∧
      (processPacket env con).con.result.rowData = some (b.bufferReadPtr + 4) ∧
      (processPacket env con).con.result.rowLength = payload.length := by
  obtain ⟨q, hq⟩ := h.expected
  obtain ⟨rest, rfl⟩ : ∃ rest, payload = 0xff :: rest := by
    cases payload with
    | nil => cases herr
    | cons c rest => exact ⟨rest, by rw [List.head?_cons, Option.some.injEq] at herr; rw [herr]⟩
  have hpeek : (packetReady con b t seq (0xff :: rest : List UInt8).length).peekByte 0 ≠ 0xfe := by
    rw [hp.peekByte (by simp), List.getElem_cons_zero]
    decide
  rw [processPacket_accepted hp hq ha, packetDispatch_row h.row]
  obtain ⟨hc, -, hd, hl⟩ := packetReadRow_of_ne env hpeek
  exact ⟨hc, hd, hl⟩

lemma packetAwaited_fields (con : Con) (t : PacketType) (n : ℕ) :
    (packetAwaited con t n).status = con.status ∧ (packetAwaited con t n).serverErrno = con.serverErrno := ⟨rfl, rfl⟩

lemma readFailed_fields (con : Con) (a : Action) (site : FailSite) (errcode : Ret) :
    ((con.log a).readFailed site errcode).status = con.status ∧
      ((con.log a).readFailed site errcode).serverErrno = con.serverErrno ∧
      ((con.log a).readFailed site errcode).commandStatus = .readFailed := ⟨rfl, rfl, rfl⟩

/-- A packet out of sequence is an error no poll tells of. -/
lemma rejected_not_answered (h : con.AwaitsRow t) (hp : con.Holds b seq payload) (ha : ¬ con.Accepts t seq) (w : World)
    (error : ErrorPtr) : (pollSwitch env w (processPacket env con).con error).2.2 ≠ .error := by
  obtain ⟨q, hq⟩ := h.expected
  rw [processPacket_rejected hp hq ha]
  obtain ⟨hs₁, he₁⟩ := packetAwaited_fields con t payload.length
  obtain ⟨hstatus, herrno, hcommand⟩ := readFailed_fields (packetAwaited con t payload.length)
    (.checked false (countPacket con t).packetNumber seq false) .sequence .packetOutOfSequence
  rw [hs₁] at hstatus
  rw [he₁, h.noError] at herrno
  rw [Round.con]
  generalize Con.readFailed _ _ _ = con' at hstatus herrno hcommand ⊢
  unfold pollSwitch
  rw [hstatus]
  rcases h.status with hs | hs <;> rw [hs]
  · exact nofun
  · dsimp only [pollIdle]
    rw [if_neg (not_not.mpr herrno), hcommand]
    exact nofun

/-- **An ERR packet in place of a row is never reported**: whatever the connection read before, it either becomes a row
or is dropped as out of sequence, which no poll tells of. -/
theorem row_error_never_reported (h : con.AwaitsRow t) (hp : con.Holds b seq payload)
    (herr : payload.head? = some 0xff) (w : World) (error : ErrorPtr) :
    ¬ ErrorReported env w error (processPacket env con).con payload := by
  intro hr
  by_cases ha : con.Accepts t seq
  · exact hr.notRow (error_becomes_row h hp herr ha).1
  · exact rejected_not_answered h hp ha w error hr.answer

end Rows

/-- The payload of `errPacket`. -/
def syntaxError : List UInt8 := [0xff] ++ packInt2 1064 ++ [0x23, 0x34, 0x32, 0x30, 0x30, 0x30]

/-- A buffer that holds an ERR packet with the number 5. -/
def errorBuffer : BufferSt :=
  BufferSt.append
    { buffer := 4096, bufferSize := defaultBufferSize, bufferUsed := 0, bufferWritePtr := 4096, bufferReadPtr := 4096,
      packetEndPtr := none, mem := fun _ => 0 } (errPacket 5)

/-- A connection that has read four packets of a result and finds an ERR packet in its buffer. -/
def givenUp : Con :=
  { Con.calm 0 with
    status := .idle
    commandStatus := .readRow
    packetNumber := 4
    nextPacketQueue := [.row]
    readBuffer := some errorBuffer }

/-- The server gives up a result after its first row. -/
theorem row_error_never_reported_givenUp :
    ¬ ErrorReported .calm (Setting.calm []).world (.at none) (processPacket .calm givenUp).con syntaxError := by
  have hrow : givenUp.AwaitsRow .row := ⟨.inl rfl, ⟨[], rfl⟩, .inr rfl, rfl⟩
  have hholds : givenUp.Holds errorBuffer 5 syntaxError :=
    ⟨rfl, by decide, by decide, by decide, by decide⟩
  exact row_error_never_reported hrow hholds rfl (Setting.calm []).world (.at none)

/-- After its first row the server sends an ERR packet: the poll offers a row, whose bytes are those of the packet. -/
theorem error_offered_as_row :
    ∃ con es, Initial con ∧ (run sysStep con es).answer (.calm []) = .rowReady ∧
      (run sysStep con es).buf.mem.slice ((run sysStep con es).result.rowData.getD 0)
        (run sysStep con es).result.rowLength = syntaxError :=
  ⟨.calm 0, connectAndQuery 2 ++ [
      .poll (.calm [.wrote none, .read 65536 (resultHead ++ frame 4 [1, 0x78] ++ errPacket 5)]),
      .call (.calm []) .queryRowNext],
    Con.calm_initial 0, by decide +kernel, by decide +kernel⟩

end LibAttachSql
