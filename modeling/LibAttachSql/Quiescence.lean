import LibAttachSql.CompressedReceive
import LibAttachSql.ActFrames
import LibAttachSql.Negotiation

/-!
# What is left when the packet loop returns

`attachsql_con_process_packets` goes through the packets in the read buffer.  When it returns while a packet is expected,
the caller waits for the network, so what was received had better not hold that packet.  The loop itself leaves no
complete packet behind.  With compression, one call takes one packet off the compressed buffer at most, whatever else
stands there.
-/

namespace LibAttachSql

open Lib

/-! ### Expected packets -/

/-- A type the library expects while the command status is this one. -/
def PacketType.Fits (t : PacketType) (s : CommandStatus) : Prop :=
  t ≠ .handshakeSsl ∧ (t = .row ∨ t = .stmtRow → s ≠ .readColumn ∧ s ≠ .readStmtParam)

instance PacketType.decidableFits (t : PacketType) (s : CommandStatus) : Decidable (t.Fits s) := by
  unfold PacketType.Fits
  infer_instance

/-- The types behind which no row is expected fit every command status. -/
lemma PacketType.fits {t : PacketType} (ht : t ∈ [PacketType.response, .column, .prepareParameter, .prepareColumn])
    (s : CommandStatus) : t.Fits s := by
  simp only [List.mem_cons, List.not_mem_nil, or_false] at ht
  rcases ht with rfl | rfl | rfl | rfl
  · exact ⟨by decide, fun hrow => absurd hrow (by decide)⟩
  · exact ⟨by decide, fun hrow => absurd hrow (by decide)⟩
  · exact ⟨by decide, fun hrow => absurd hrow (by decide)⟩
  · exact ⟨by decide, fun hrow => absurd hrow (by decide)⟩

/-- One packet is expected at most, and it fits the command status. -/
def Control.Expects (c : Control) : Prop := c.queue = [] ∨ ∃ t, c.queue = [t] ∧ t.Fits c.commandStatus

namespace Control

variable {c c' : Control} {x : List Action} {t : PacketType}

lemma SendMove.queue_nil (hq : c.queue = []) (h : SendMove c x c') : c'.queue = [] := by
  cases h with
  | quiet _ => exact hq
  | await => exact hq
  | fail site =>
    unfold afterFail
    dsimp only
    split_ifs
    · rfl
    · exact hq

/-- The passage through the request for TLS leaves nothing expected. -/
lemma LoginMove.queue_nil (hq : c.queue = []) (h : LoginMove c x c') : c'.queue = [] := by
  cases h with
  | send h => exact h.queue_nil hq
  | tls _ _ => exact hq
  | dequeue h =>
    rw [hq] at h
    cases h
  | refused _ hsame => exact hsame.trans hq

lemma login_queue_nil (hq : c.queue = []) (h : Path LoginMove c x c') : c'.queue = [] := by
  induction h with
  | refl => exact hq
  | snoc _ hm ih => exact hm.queue_nil ih

/-- A push onto an empty queue. -/
lemma Pushed.queue_of_nil (h : Pushed t c x c') (hq : c.queue = []) : c'.queue = [] ∨ c'.queue = [t] := by
  cases h with
  | pushed size bytes => exact .inr (congrArg (t :: ·) hq)
  | refused size => exact .inl hq
  | fault size bytes => exact .inl hq

lemma Pushed.commandStatus_eq (h : Pushed t c x c') : c'.commandStatus = c.commandStatus := by
  cases h with
  | pushed _ _ => rfl
  | refused _ => rfl
  | fault _ _ => rfl

lemma Pushed.expects (h : Pushed t c x c') (hq : c.queue = []) (ht : t.Fits c.commandStatus) : c'.Expects :=
  (h.queue_of_nil hq).imp_right fun hpush => ⟨t, hpush, h.commandStatus_eq ▸ ht⟩

lemma afterFail_queue_nil (hq : c.queue = []) (site : FailSite) : (c.afterFail site).queue = [] := by
  unfold afterFail
  dsimp only
  split_ifs
  · rfl
  · exact hq

lemma Login.expects (h : Login c x c') (hq : c.queue = []) : c'.Expects := by
  cases h with
  | refused => exact .inl (afterFail_queue_nil hq _)
  | fault h => exact .inl (login_queue_nil hq h)
  | scramble h => exact .inl (afterFail_queue_nil (login_queue_nil hq h) _)
  | sent h hp _ => exact hp.expects (login_queue_nil hq h) (PacketType.fits (by decide) _)

lemma Handshake.expects (h : Handshake c x c') (hq : c.queue = []) : c'.Expects := by
  have hgreeting : ∀ {g c₁}, Greeting c g c₁ → c₁.queue = [] := fun hg => by
    cases hg with
    | plain => exact hq
    | rejected n => rfl
  cases h with
  | badProtocol hg => exact .inl (afterFail_queue_nil (hgreeting hg) _)
  | login s hg hl =>
    have hnil := hgreeting hg
    exact hl.expects hnil
  | oldAuth s hg hl =>
    have hnil := hgreeting hg
    exact hl.expects hnil

lemma Response.expects (h : Response c x c') (hq : c.queue = []) : c'.Expects := by
  cases h with
  | ok s => exact .inl hq
  | err n => exact .inl rfl
  | columnsEnd s _ hp =>
    have hfits : PacketType.row.Fits .readRow := by decide
    exact hp.expects hq hfits
  | paramsEnd s _ hp => exact hp.expects hq (PacketType.fits (by decide) _)
  | finish s _ => exact .inl hq
  | fault s => exact .inl hq
  | header ok hp =>
    exact (hp.queue_of_nil hq).imp_right fun hpush => ⟨_, hpush, PacketType.fits (by decide) _⟩

lemma PrepareOk.expects (h : PrepareOk c x c') (hq : c.queue = []) : c'.Expects := by
  cases h with
  | params hp => exact (hp.queue_of_nil hq).imp_right fun hpush => ⟨_, hpush, PacketType.fits (by decide) _⟩
  | columns hp => exact (hp.queue_of_nil hq).imp_right fun hpush => ⟨_, hpush, PacketType.fits (by decide) _⟩
  | finish => exact .inl hq

/-- **Reading a packet** that was the only one expected leaves one expected at most. -/
lemma Dispatch.expects (h : Dispatch t c x c') (hq : c.queue = []) (ht : t ≠ .row ∧ t ≠ .stmtRow) : c'.Expects := by
  cases h with
  | handshake h => exact h.expects hq
  | handshakeSsl h => exact h.expects hq
  | response _ h => exact h.expects hq
  | prepareOk h => exact h.expects hq
  | definition _ _ hp ht' => exact hp.expects hq (PacketType.fits ht' _)
  | fault _ => exact .inl hq
  | row hrow => exact (hrow.elim ht.1 ht.2).elim

end Control

/-- One packet is expected at most, and it fits the command status. -/
def Con.Expects (con : Con) : Prop := con.control.Expects

/-! ### The network buffers -/

/-- What packets are read from: the buffers, and whether they hold compressed packets. -/
structure Inbox where
  readBuffer : Option BufferSt
  readBufferCompress : Option BufferSt
  compression : Bool

def Data.inbox (d : Data) : Inbox := ⟨d.readBuffer, d.readBufferCompress, d.compression⟩

def Con.inbox (con : Con) : Inbox := con.data.inbox

/-- The packet being read is ended. -/
def Inbox.ended (i : Inbox) : Inbox := { i with readBuffer := i.readBuffer.map BufferSt.packetReadEnd }

lemma inbox_of_data {con con' : Con} (h : con'.data = con.data) : con'.inbox = con.inbox := congrArg Data.inbox h

lemma Inbox.ended_ended (i : Inbox) : i.ended.ended = i.ended := by
  unfold ended
  dsimp only
  rw [BufferSt.map_packetReadEnd_twice]

section Readers

variable (env : Env) (con : Con)

/-- Nothing is expected any more, or the packet was ended. -/
def Con.Closes (con con' : Con) : Prop := con'.nextPacketQueue = [] ∨ con'.inbox = con.inbox.ended

lemma packetQueuePush_inbox (t : PacketType) : (packetQueuePush env con t).inbox = con.inbox :=
  inbox_of_data (packetQueuePush_data env con t)

lemma checkOldAuth_inbox : (checkOldAuth con).inbox = con.inbox := by
  unfold checkOldAuth
  split_ifs
  · rfl
  · rfl

/-- The answer to a handshake leaves the network buffers alone. -/
lemma handshakeResponse_inbox : (handshakeResponse env con).inbox = con.inbox :=
  handshakeResponse_keeps env con Con.inbox (fun _ _ => inbox_of_data (sendData_data env _ _))
    (packetQueuePush_inbox env) (fun _ => rfl) (fun _ => rfl) (fun _ => rfl) (fun _ => rfl)

variable {con} (hq : con.nextPacketQueue = [])

include hq

lemma packetReadEof_closes : con.Closes (packetReadEof env con) := by
  unfold packetReadEof
  dsimp only
  split
  · exact .inr (congrArg Inbox.ended (packetQueuePush_inbox env _ _))
  · split
    · exact .inl hq
    · split_ifs
      · exact .inr (congrArg Inbox.ended (packetQueuePush_inbox env _ _))
      · exact .inl hq
  · exact .inl hq

lemma packetReadResponse_closes : con.Closes (packetReadResponse env con) := by
  unfold packetReadResponse
  split_ifs
  · exact .inl hq
  · exact .inl rfl
  · exact packetReadEof_closes env hq
  · unfold packetReadHeader
    dsimp only
    exact .inr (packetQueuePush_inbox env _ _)

lemma packetReadColumn_closes : con.Closes (packetReadColumn env con) := by
  unfold packetReadColumn
  split
  · exact .inl hq
  · dsimp only
    exact .inr (packetQueuePush_inbox env _ _)

lemma packetReadPrepareResponse_closes : con.Closes (packetReadPrepareResponse env con) := by
  unfold packetReadPrepareResponse
  split_ifs
  · exact packetReadResponse_closes env hq
  · split
    · exact .inl hq
    · unfold packetReadPrepareOk prepareOkNext
      dsimp only
      split_ifs
      · exact .inr (congrArg Inbox.ended (packetQueuePush_inbox env _ _))
      · exact .inr (congrArg Inbox.ended (packetQueuePush_inbox env _ _))
      · exact .inl hq

lemma packetReadPrepareParameter_closes : con.Closes (packetReadPrepareParameter env con) := by
  unfold packetReadPrepareParameter
  split
  · exact .inl hq
  · split
    · exact .inl hq
    · exact .inr (packetQueuePush_inbox env _ _)

lemma packetReadPrepareColumn_closes : con.Closes (packetReadPrepareColumn env con) := by
  unfold packetReadPrepareColumn
  split
  · exact .inl hq
  · exact .inr (packetQueuePush_inbox env _ _)

/-- A handshake is ended once more behind an ERR packet that came instead, which makes no difference. -/
lemma packetReadHandshake_closes : con.Closes (packetReadHandshake env con) := by
  have hfirst : (if con.peekByte 0 = 0xff then packetReadResponse env con else con).inbox.ended = con.inbox.ended ∧
      (if con.peekByte 0 = 0xff then packetReadResponse env con else con).nextPacketQueue = [] := by
    split_ifs with herr
    · rw [packetReadResponse_of_err env con herr]
      exact ⟨con.inbox.ended_ended, rfl⟩
    · exact ⟨rfl, hq⟩
  unfold packetReadHandshake
  dsimp only
  generalize (if con.peekByte 0 = 0xff then packetReadResponse env con else con) = con₁ at hfirst ⊢
  obtain ⟨hended, hnil⟩ := hfirst
  have hauth := (checkOldAuth_inbox (handshakeFields con₁)).trans
    (handshakeFields_keeps con₁ Con.inbox fun _ _ _ _ _ _ => rfl)
  split_ifs
  · exact .inl hnil
  · right
    have hanswer := handshakeResponse_inbox env (packetReadEnd (checkOldAuth (handshakeFields con₁)))
    rw [hanswer, ← hended, ← hauth]
    rfl

/-- **A reader ends its packet, or nothing is expected behind it.** -/
theorem packetDispatch_closes {t : PacketType} (ht : t ≠ .handshakeSsl ∧ t ≠ .row ∧ t ≠ .stmtRow) :
    con.Closes (packetDispatch env con t).con := by
  cases t with
  | handshake => exact packetReadHandshake_closes env hq
  | handshakeSsl => exact absurd rfl ht.1
  | response => exact packetReadResponse_closes env hq
  | prepareResponse => exact packetReadPrepareResponse_closes env hq
  | prepareParameter => exact packetReadPrepareParameter_closes env hq
  | prepareColumn => exact packetReadPrepareColumn_closes env hq
  | column => exact packetReadColumn_closes env hq
  | row => exact absurd rfl ht.2.1
  | stmtRow => exact absurd rfl ht.2.2

/-- Behind a row nothing is expected, unless it is read while column definitions are. -/
lemma packetReadRow_queue (hs : con.commandStatus ≠ .readColumn ∧ con.commandStatus ≠ .readStmtParam) :
    (packetReadRow env con).nextPacketQueue = [] := by
  unfold packetReadRow
  split_ifs with heof
  · rw [packetReadResponse_of_eof env { con with result.rowData := none, result.rowLength := 0 } heof]
    unfold packetReadEof
    dsimp only
    split
    · next h => exact absurd h hs.1
    · next h => exact absurd h hs.2
    · exact hq
  · exact hq

end Readers

/-! ### The loop -/

section Loop

variable (env : Env) {con : Con} {b : BufferSt}

lemma plain_of_buffer (hb : con.readBuffer = some b) : con.plain = b.unread := by
  unfold Con.plain
  rw [hb]
  rfl

/-- A round that finds no complete packet is the last one. -/
lemma processPacket_incomplete (hb : con.readBuffer = some b) (hwf : b.Wf) (h : takeFrame 3 1 b.unread = none) :
    ∃ con', processPacket env con = .done con' false ∧ con'.inbox = con.inbox := by
  have hlen := takeFrame_unread_none hwf h
  unfold processPacket
  split
  · exact ⟨_, rfl, rfl⟩
  · split
    · exact ⟨_, rfl, rfl⟩
    · next b' hb' =>
      obtain rfl : b' = b := Option.some.inj (hb'.symm.trans hb)
      dsimp only
      split_ifs
      · exact ⟨_, rfl, rfl⟩
      · exact ⟨_, rfl, rfl⟩
      · omega

/-- What a round of the loop leaves, when the buffer held `bs`: nothing is expected, or it was the last round and no
packet was complete, or it took the first packet. -/
def Round.Takes (con : Con) (bs : List UInt8) : Round → Prop
  | .done con' _ => con'.nextPacketQueue = [] ∨ con'.inbox = con.inbox ∧ takeFrame 3 1 bs = none
  | .again con' => con'.nextPacketQueue = [] ∨ con'.Expects ∧
      ∃ f b', takeFrame 3 1 bs = some (f, b'.unread) ∧ b'.Wf ∧ con'.inbox = { con.inbox with readBuffer := some b' }

/-- **A packet that is accepted.** -/
lemma packetDispatch_takes (hwf : b.Wf) {t : PacketType} (hq : con.nextPacketQueue = [t]) (ht : t.Fits con.commandStatus)
    {n : ℕ} (hn : n + 4 ≤ b.unreadData) {f : Frame} {bs : List UInt8}
    (hframe : takeFrame 3 1 bs = some (f, b.unread.drop (4 + n))) (seq : UInt8) :
    (packetDispatch env (packetReady con b t seq n) t).Takes con bs := by
  have hnil : (packetReady con b t seq n).nextPacketQueue = [] := congrArg List.tail hq
  have hstatus : (packetReady con b t seq n).commandStatus = con.commandStatus := packetReady_commandStatus con
  have hinbox : (packetReady con b t seq n).inbox =
      { con.inbox with readBuffer := some ((b.advance 4).setPacketEnd n) } := rfl
  generalize packetReady con b t seq n = con₁ at hnil hstatus hinbox ⊢
  by_cases hrow : t = .row ∨ t = .stmtRow
  · have hqueue := packetReadRow_queue env hnil (hstatus ▸ ht.2 hrow)
    rcases hrow with rfl | rfl
    · exact .inl hqueue
    · exact .inl hqueue
  · rw [not_or] at hrow
    have hagain : packetDispatch env con₁ t = .again (packetDispatch env con₁ t).con := by
      cases t with
      | row => exact absurd rfl hrow.1
      | stmtRow => exact absurd rfl hrow.2
      | handshake => rfl
      | handshakeSsl => rfl
      | response => rfl
      | prepareResponse => rfl
      | prepareParameter => rfl
      | prepareColumn => rfl
      | column => rfl
    obtain ⟨x, -, hdispatch⟩ := packetDispatch_does env con₁ t
    have hexpects := hdispatch.expects hnil hrow
    have hcloses := packetDispatch_closes env hnil ⟨ht.1, hrow⟩
    generalize packetDispatch env con₁ t = r at hagain hexpects hcloses ⊢
    rw [hagain]
    rcases hcloses with hempty | hended
    · exact .inl hempty
    · obtain ⟨hend, hunread⟩ := hwf.opened_ended hn
      refine .inr ⟨hexpects, f, _, ?_, hend, ?_⟩
      · rw [hunread, hframe]
      · rw [hended, hinbox]
        rfl

/-- **One round.** -/
lemma processPacket_takes (hb : con.readBuffer = some b) (hwf : b.Wf) {t : PacketType}
    (hq : con.nextPacketQueue = [t]) (ht : t.Fits con.commandStatus) : (processPacket env con).Takes con b.unread := by
  cases hframe : takeFrame 3 1 b.unread with
  | none =>
    obtain ⟨con', hround, hinbox⟩ := processPacket_incomplete env hb hwf hframe
    rw [hround]
    exact .inr ⟨hinbox, hframe⟩
  | some r =>
    obtain ⟨f, rest⟩ := r
    obtain ⟨hlen, rfl, rfl⟩ := takeFrame_unread_some hwf hframe
    have hseq : b.mem.slice (b.bufferReadPtr + 3) 1 = [b.mem (b.bufferReadPtr + 3)] := by
      rw [Memory.slice_succ, Memory.slice_zero]
    rw [hseq] at hframe
    have hholds := (holds_iff_takeFrame hwf hb).mpr ⟨_, hframe⟩
    by_cases haccept : con.Accepts t (b.mem (b.bufferReadPtr + 3))
    · rw [processPacket_accepted hholds hq haccept, Memory.length_slice]
      exact packetDispatch_takes env hwf hq ht (by omega) hframe _
    · rw [processPacket_rejected hholds hq haccept]
      exact .inl rfl

/-- **The loop takes every complete packet**, unless nothing is expected any more. -/
theorem processPacketsLoop_residue {n : ℕ} (hb : con.readBuffer = some b) (hwf : b.Wf) (hexp : con.Expects)
    (hn : b.unread.length < n) :
    (processPacketsLoop env n con).1.nextPacketQueue = [] ∨
      ∃ b', (processPacketsLoop env n con).1.inbox = { con.inbox with readBuffer := some b' } ∧
        b'.unread = residue 3 1 b.unread := by
  induction n generalizing con b with
  | zero => exact absurd hn (Nat.not_lt_zero _)
  | succ n ih =>
    rcases hexp with hnil | ⟨t, hq, ht⟩
    · rw [processPacketsLoop_deaf env hnil]
      exact .inl hnil
    have htakes := processPacket_takes env hb hwf hq ht
    unfold processPacketsLoop
    generalize processPacket env con = r at htakes ⊢
    cases r with
    | done con' answer =>
      rcases htakes with hnil | ⟨hinbox, hnone⟩
      · exact .inl hnil
      · refine .inr ⟨b, ?_, (residue_of_none hnone).symm⟩
        have hbuffer : con.inbox.readBuffer = some b := hb
        rw [← hbuffer]
        exact hinbox
    | again con' =>
      rcases htakes with hnil | ⟨hexp', f, b', hframe, hwf', hinbox⟩
      · dsimp only
        rw [processPacketsLoop_deaf env hnil]
        exact .inl hnil
      · have hsize := (size_takeFrame hframe).1
        unfold Frame.size at hsize
        dsimp only at hsize ⊢
        have hbuffer : con'.readBuffer = some b' := congrArg Inbox.readBuffer hinbox
        rcases ih hbuffer hwf' hexp' (by omega) with hnil | ⟨b'', hinbox'', hresidue⟩
        · exact .inl hnil
        · refine .inr ⟨b'', ?_, ?_⟩
          · rw [hinbox'', hinbox]
          · rw [hresidue, residue_of_some (by decide) hframe]

end Loop

/-! ### One call -/

/-- What a packet of the compressed protocol carries, when zlib makes this of deflated bytes. -/
def inflated (inflation : List UInt8 → Option (List UInt8)) (f : Frame) : List UInt8 :=
  if uncompressedSize f = 0 then f.payload else (inflation f.payload).getD []

/-- zlib's `uncompress`: what the bytes inflate to, if there is room for it. -/
def Env.Inflates (env : Env) (inflation : List UInt8 → Option (List UInt8)) : Prop :=
  ∀ body m, env.uncompress body m = (inflation body).filter fun out => decide (out.length ≤ m)

/-- A packet is expected, and no error is recorded. -/
def Con.AwaitsPacket (con : Con) : Prop := con.nextPacketQueue ≠ [] ∧ con.localErrcode = .ok ∧ con.serverErrno = 0

section Calls

variable (env : Env) (inflation : List UInt8 → Option (List UInt8)) (con : Con)

/-- What the complete packets in the compressed buffer carry. -/
def Con.pending : List UInt8 :=
  match con.options.compression, con.readBufferCompress with
  | true, some c => (leadingFrames 3 4 c.unread).flatMap (inflated inflation)
  | _, _ => []

/-- When the call returns with a packet expected and no error, what was received does not hold it. -/
def Quiescent : Prop :=
  (processPackets env con).1.AwaitsPacket →
    takeFrame 3 1 ((processPackets env con).1.plain ++ (processPackets env con).1.pending inflation) = none

/-- The compressed packets behind the first do not complete the packet that what comes before them leaves incomplete. -/
def FirstIsEnough : Prop :=
  match con.options.compression, con.readBufferCompress with
  | false, _ => True
  | true, none => takeFrame 3 1 con.plain = none
  | true, some c =>
    match takeFrame 3 4 c.unread with
    | none => True
    | some (f, rest) =>
      takeFrame 3 1 (residue 3 1 (con.plain ++ inflated inflation f) ++
        (leadingFrames 3 4 rest).flatMap (inflated inflation)) = none

/-- The read buffer takes what a compressed packet carries: there is room, and making it keeps what is unread. -/
def TakesFirst (f : Frame) : Prop :=
  ∃ b, readRoom env con (uncompressedSize f) = some b ∧ b.Wf ∧ b.unread = con.plain ∧
    (inflated inflation f).length ≤ b.freeTail

variable {env inflation con} {c : BufferSt} {f : Frame} {rest : List UInt8}

/-- The end of an accepted packet: it cannot be inflated, or what it carries joins the read buffer. -/
lemma decompressInto_inflated (hz : env.Inflates inflation) {b : BufferSt} {n size : ℕ} {body : List UInt8}
    (hbody : c.mem.slice c.bufferReadPtr n = body) {payload : List UInt8}
    (hp : payload = if size = 0 then body else (inflation body).getD []) :
    (decompressInto env con b c n size).nextPacketQueue = [] ∨
      (decompressInto env con b c n size).control = con.control ∧
        (decompressInto env con b c n size).inbox =
          ⟨some (b.append payload), some (c.advance n), con.options.compression⟩ := by
  unfold decompressInto
  dsimp only
  rw [hbody]
  by_cases hsize : size = 0
  · rw [if_pos hsize] at hp ⊢
    rw [hp]
    exact .inr ⟨rfl, rfl⟩
  · rw [if_neg hsize] at hp ⊢
    rw [hz]
    cases hout : inflation body with
    | none => exact .inl rfl
    | some out =>
      rw [hout, Option.getD_some] at hp
      subst hp
      by_cases hroom : payload.length ≤ b.available
      · rw [Option.filter_some, if_pos (decide_eq_true hroom)]
        exact .inr ⟨rfl, rfl⟩
      · rw [Option.filter_some, if_neg (by rwa [decide_eq_true_iff])]
        exact .inl rfl

/-- **The call that takes a compressed packet**: it fails, or what the packet carries joins the read buffer. -/
lemma decompress_inflated (hz : env.Inflates inflation) (hc : c.Wf) (h : takeFrame 3 4 c.unread = some (f, rest))
    (hroom : TakesFirst env inflation con f) :
    (decompressReadBuffer env con c).2 = true ∧ ((decompressReadBuffer env con c).1.nextPacketQueue = [] ∨
      ∃ b c', (decompressReadBuffer env con c).1.inbox = ⟨some b, some c', con.options.compression⟩ ∧ b.Wf ∧
        b.unread = con.plain ++ inflated inflation f ∧ c'.unread = rest ∧
        (decompressReadBuffer env con c).1.control = con.control) := by
  obtain ⟨hlen, rfl, rfl⟩ := frame_of_unread hc h
  obtain ⟨-, hunread⟩ := passed_wf hc hlen
  have hsize : uncompressedSize ⟨c.mem.slice (c.bufferReadPtr + 3) 4,
      c.mem.slice (c.bufferReadPtr + 7) (unpackInt3 c.mem c.bufferReadPtr)⟩ =
      unpackInt3 c.mem (c.bufferReadPtr + 4) := by
    unfold uncompressedSize
    rw [Memory.slice_succ, List.drop_succ_cons, List.drop_zero, littleEndian_slice_three]
  unfold TakesFirst at hroom
  have hpayload : inflated inflation ⟨c.mem.slice (c.bufferReadPtr + 3) 4,
      c.mem.slice (c.bufferReadPtr + 7) (unpackInt3 c.mem c.bufferReadPtr)⟩ =
      if unpackInt3 c.mem (c.bufferReadPtr + 4) = 0 then c.mem.slice (c.bufferReadPtr + 7) (unpackInt3 c.mem c.bufferReadPtr)
      else (inflation (c.mem.slice (c.bufferReadPtr + 7) (unpackInt3 c.mem c.bufferReadPtr))).getD [] := by
    unfold inflated
    rw [hsize]
  rw [hsize] at hroom
  generalize inflated inflation _ = payload at hpayload hroom ⊢
  obtain ⟨b, hb, hwf, hkept, hfit⟩ := hroom
  unfold decompressReadBuffer
  dsimp only
  rw [if_neg (by omega), if_neg (by omega)]
  refine ⟨rfl, ?_⟩
  unfold checkCompressedSequence
  dsimp only
  split_ifs
  · exact .inl rfl
  · generalize hcon : (Con.log _ _ : Con) = con₁
    have hcontrol : con₁.control = con.control := by
      rw [← hcon]
      rfl
    have hoptions : con₁.options = con.options := by
      rw [← hcon]
      rfl
    have hroom : readRoom env con₁ (unpackInt3 c.mem (c.bufferReadPtr + 4)) = some b := by
      rw [← hcon]
      exact hb
    obtain ⟨con₂, -, -, hcontrol₂, hoptions₂, hinto⟩ :=
      @decompressPacket_of_room env con₁ (c.advance 7) b (unpackInt3 c.mem c.bufferReadPtr) _ hroom
    rw [hinto]
    refine (decompressInto_inflated hz rfl hpayload).imp_right fun ⟨hsame, hinbox⟩ =>
      ⟨b.append payload, passed c, ?_, ?_, ?_, hunread, ?_⟩
    · rw [hinbox, hoptions₂, hoptions]
      rfl
    · have hwrite := hwf.buffer_le_read.trans hwf.read_le_write
      have hend := hwf.write_le_end
      unfold BufferSt.freeTail at hfit
      exact hwf.append (by omega)
    · rw [hwf.unread_append, hkept]
    · rw [hsame, hcontrol₂, hcontrol]

variable (env) in
/-- The loop on a read buffer with some bytes in it. -/
lemma loop_inbox {b : BufferSt} (hb : con.readBuffer = some b) (hwf : b.Wf) (hexp : con.Expects) :
    (processPacketsLoop env (con.buf.unreadData + 1) con).1.nextPacketQueue = [] ∨
      (processPacketsLoop env (con.buf.unreadData + 1) con).1.plain = residue 3 1 b.unread ∧
        (processPacketsLoop env (con.buf.unreadData + 1) con).1.pending inflation = con.pending inflation := by
  have hbuf : con.buf.unreadData = b.unread.length := by
    unfold Con.buf
    rw [hb, hwf.length_unread]
    rfl
  rw [hbuf]
  refine (processPacketsLoop_residue env hb hwf hexp (Nat.lt_succ_self _)).imp_right fun ⟨b', hinbox, hresidue⟩ => ?_
  generalize (processPacketsLoop env (b.unread.length + 1) con).1 = con' at hinbox ⊢
  have hbuffer : con'.readBuffer = some b' := congrArg Inbox.readBuffer hinbox
  have hcompressed : con'.readBufferCompress = con.readBufferCompress := congrArg Inbox.readBufferCompress hinbox
  have hcompression : con'.options.compression = con.options.compression := congrArg Inbox.compression hinbox
  constructor
  · rw [plain_of_buffer hbuffer, hresidue]
  · unfold Con.pending
    rw [hcompressed, hcompression]

/-- With nothing expected there is nothing to wait for. -/
lemma not_awaitsPacket {con' : Con} (h : con'.nextPacketQueue = []) : ¬ con'.AwaitsPacket := fun hw => hw.1 h

/-- The loop on a connection without complete compressed packets leaves no complete packet. -/
lemma loop_quiescent (hwf : ∀ b ∈ con.readBuffer, b.Wf) (hexp : con.Expects) (hpending : con.pending inflation = [])
    {con' : Con} (h : con' = if con.readBuffer.isNone then con
      else (processPacketsLoop env (con.buf.unreadData + 1) con).1) (hw : con'.AwaitsPacket) :
    takeFrame 3 1 (con'.plain ++ con'.pending inflation) = none := by
  cases hb : con.readBuffer with
  | none =>
    rw [hb, Option.isNone_none, if_pos rfl] at h
    subst h
    have hplain : con'.plain = [] := by
      unfold Con.plain
      rw [hb]
      rfl
    rw [hplain, hpending]
    rfl
  | some b =>
    rw [hb, Option.isNone_some, if_neg (by decide)] at h
    subst h
    rcases @loop_inbox env inflation con b hb (hwf b hb) hexp with hnil | ⟨hplain, hsame⟩
    · exact absurd hw (not_awaitsPacket hnil)
    · rw [hplain, hsame, hpending, List.append_nil]
      exact takeFrame_residue (by decide) _

/-- The call on a compressed buffer. -/
lemma processPackets_compressed (env : Env) (hcompression : con.options.compression = true)
    (hc : con.readBufferCompress = some c) : processPackets env con =
      if ¬ (decompressReadBuffer env con c).2 ∧ (decompressReadBuffer env con c).1.readBuffer.isNone then
        ((decompressReadBuffer env con c).1, false)
      else processPacketsLoop env ((decompressReadBuffer env con c).1.buf.unreadData + 1)
        (decompressReadBuffer env con c).1 := by
  unfold processPackets
  dsimp only
  rw [hcompression, if_pos rfl, hc]

/-- A call that finds no complete compressed packet. -/
lemma quiescent_of_incomplete (hwf : ∀ b ∈ con.readBuffer, b.Wf) (hexp : con.Expects)
    (hcompression : con.options.compression = true) (hc : con.readBufferCompress = some c) (hwfc : c.Wf)
    (hframe : takeFrame 3 4 c.unread = none) : Quiescent env inflation con := by
  have hpending : con.pending inflation = [] := by
    unfold Con.pending
    rw [hcompression, hc]
    dsimp only
    rw [leadingFrames_of_none hframe]
    rfl
  refine @loop_quiescent env inflation con hwf hexp hpending _ ?_
  rw [processPackets_compressed env hcompression hc, decompress_incomplete hwfc hframe]
  dsimp only
  by_cases hnone : con.readBuffer.isNone = true
  · rw [if_pos ⟨Bool.false_ne_true, hnone⟩, if_pos hnone]
  · rw [if_neg fun h => hnone h.2, if_neg hnone]

/-- A call that finds a complete compressed packet: what it carries is gone through, and what is behind it is not. -/
lemma quiescent_behind_first (hz : env.Inflates inflation) (hexp : con.Expects)
    (hcompression : con.options.compression = true) (hc : con.readBufferCompress = some c) (hwfc : c.Wf)
    (hframe : takeFrame 3 4 c.unread = some (f, rest)) (hroom : TakesFirst env inflation con f) :
    Quiescent env inflation con ↔ ((processPackets env con).1.AwaitsPacket →
      takeFrame 3 1 (residue 3 1 (con.plain ++ inflated inflation f) ++
        (leadingFrames 3 4 rest).flatMap (inflated inflation)) = none) := by
  obtain ⟨hanswer, htakes⟩ := decompress_inflated hz hwfc hframe hroom
  unfold Quiescent
  rw [processPackets_compressed env hcompression hc, hanswer, if_neg (fun h => h.1 rfl)]
  generalize (decompressReadBuffer env con c).1 = con₁ at htakes ⊢
  rcases htakes with hnil | ⟨b, c', hinbox, hb, hunread, hrest, hcontrol⟩
  · rw [processPacketsLoop_deaf env hnil]
    exact iff_of_true (fun hw => absurd hw (not_awaitsPacket hnil)) fun hw => absurd hw (not_awaitsPacket hnil)
  · have hbuffer : con₁.readBuffer = some b := congrArg Inbox.readBuffer hinbox
    have hcompressed : con₁.readBufferCompress = some c' := congrArg Inbox.readBufferCompress hinbox
    have hcompression₁ : con₁.options.compression = true := (congrArg Inbox.compression hinbox).trans hcompression
    have hexp₁ : con₁.Expects := by
      unfold Con.Expects
      rw [hcontrol]
      exact hexp
    have hpending : con₁.pending inflation = (leadingFrames 3 4 rest).flatMap (inflated inflation) := by
      unfold Con.pending
      rw [hcompressed, hcompression₁]
      dsimp only
      rw [hrest]
    rcases @loop_inbox env inflation con₁ b hbuffer hb hexp₁ with hnil | ⟨hplain, hsame⟩
    · exact iff_of_true (fun hw => absurd hw (not_awaitsPacket hnil)) fun hw => absurd hw (not_awaitsPacket hnil)
    · rw [hplain, hsame, hpending, hunread]

/-- **When what was received does not hold the packet that is waited for**: the packets behind the first one in the
compressed buffer are not looked at, so they must not complete it. -/
theorem quiescence (hz : env.Inflates inflation) (hwf : ∀ b ∈ con.readBuffer, b.Wf)
    (hwfc : ∀ c ∈ con.readBufferCompress, c.Wf) (hexp : con.Expects)
    (hroom : ∀ c ∈ con.readBufferCompress, ∀ f rest, con.options.compression = true →
      takeFrame 3 4 c.unread = some (f, rest) → TakesFirst env inflation con f) :
    Quiescent env inflation con ↔ ((processPackets env con).1.AwaitsPacket → FirstIsEnough inflation con) := by
  unfold FirstIsEnough
  cases hcompression : con.options.compression with
  | false =>
    have hpending : con.pending inflation = [] := by
      unfold Con.pending
      rw [hcompression]
    refine iff_of_true (@loop_quiescent env inflation con hwf hexp hpending _ ?_) fun _ => trivial
    unfold processPackets
    dsimp only
    rw [hcompression, if_neg (by decide)]
    split_ifs
    · rfl
    · rfl
  | true =>
    cases hc : con.readBufferCompress with
    | none =>
      have hcall : processPackets env con = (con, false) := by
        unfold processPackets
        dsimp only
        rw [hcompression, if_pos rfl, hc]
      have hpending : con.pending inflation = [] := by
        unfold Con.pending
        rw [hcompression, hc]
      unfold Quiescent
      rw [hcall, hpending, List.append_nil]
    | some c =>
      dsimp only
      cases hframe : takeFrame 3 4 c.unread with
      | none => exact iff_of_true (quiescent_of_incomplete hwf hexp hcompression hc (hwfc c hc) hframe) fun _ => trivial
      | some r =>
        obtain ⟨f, rest⟩ := r
        exact quiescent_behind_first hz hexp hcompression hc (hwfc c hc) hframe (hroom c hc f rest hcompression hframe)

/-- With at most one complete packet in the compressed buffer the first is enough. -/
theorem firstIsEnough_of_single (hc : con.readBufferCompress = some c) (h : takeFrame 3 4 c.unread = some (f, rest))
    (hrest : takeFrame 3 4 rest = none) : FirstIsEnough inflation con := by
  unfold FirstIsEnough
  cases con.options.compression with
  | false => trivial
  | true =>
    rw [hc]
    dsimp only
    rw [h]
    dsimp only
    rw [leadingFrames_of_none hrest, List.flatMap_nil, List.append_nil]
    exact takeFrame_residue (by decide) _

end Calls

/-! ### An answer in two packets -/

/-- What a stored block inflates to. -/
def storedContent (z : List UInt8) : Option (List UInt8) :=
  let bs := (z.drop 7).take (z.length - 11)
  if z = storedBlock bs then some bs else none

lemma Env.incompressible_inflates : Env.incompressible.Inflates storedContent := by
  intro body m
  unfold storedContent
  dsimp only [Env.incompressible]
  by_cases hstored : body = storedBlock ((body.drop 7).take (body.length - 11))
  · rw [if_pos hstored, Option.filter_some]
    simp only [decide_eq_true_eq]
    by_cases hroom : ((body.drop 7).take (body.length - 11)).length ≤ m
    · rw [if_pos ⟨hstored, hroom⟩, if_pos hroom]
    · rw [if_neg fun h => hroom h.2, if_neg hroom]
  · rw [if_neg fun h => hstored h.1, if_neg hstored]
    rfl

/-- An OK packet in two stored packets. -/
def splitBytes : List UInt8 := [6, 0, 0, 1, 0, 0, 0, 7, 0, 0, 1, 0, 0, 5, 0, 0, 2, 0, 0, 0, 0, 2, 0, 0, 0]

/-- A connection that waits for the answer to a command, which has arrived in two stored packets. -/
def Con.split : Con :=
  { Con.calm 0 with
    options.compression := true
    status := .busy
    commandStatus := .readResponse
    nextPacketQueue := [.response]
    readBufferCompress := some (lowBuffer.append splitBytes) }

/-- The call leaves the answer incomplete, and the second half is still to be inflated. -/
theorem quiescence_split :
    (Quiescent .incompressible storedContent Con.split ↔
      ((processPackets .incompressible Con.split).1.AwaitsPacket → FirstIsEnough storedContent Con.split)) ∧
      ¬ FirstIsEnough storedContent Con.split := by
  have hroom : TakesFirst .incompressible storedContent Con.split ⟨[1, 0, 0, 0], [7, 0, 0, 1, 0, 0]⟩ :=
    ⟨lowBuffer, bufferCreate_lowMalloc, lowBuffer_wf, rfl, by decide⟩
  have hframe : takeFrame 3 4 (lowBuffer.append splitBytes).unread =
      some (⟨[1, 0, 0, 0], [7, 0, 0, 1, 0, 0]⟩, [5, 0, 0, 2, 0, 0, 0, 0, 2, 0, 0, 0]) := by decide
  refine ⟨quiescence Env.incompressible_inflates nofun (fun c hc => ?_) (.inr ⟨.response, rfl, by decide⟩)
    fun c hc f rest _ h => ?_, ?_⟩
  · obtain rfl : lowBuffer.append splitBytes = c := Option.some.inj hc
    exact lowBuffer_wf.append (by decide)
  · obtain rfl : lowBuffer.append splitBytes = c := Option.some.inj hc
    rw [hframe] at h
    obtain ⟨rfl, -⟩ := Prod.mk.inj (Option.some.inj h)
    exact hroom
  · unfold FirstIsEnough
    dsimp only [Con.split]
    rw [hframe]
    decide

/-- After the call the whole OK packet is there, with half of it in the compressed buffer, and the caller waits.  Another
call without any new bytes completes the command. -/
theorem quiescence_fails :
    ¬ Quiescent .incompressible storedContent Con.split ∧
      (processPackets .incompressible Con.split).1.plain = [7, 0, 0, 1, 0, 0] ∧
      (processPackets .incompressible Con.split).1.nextPacketQueue = [.response] ∧
      (processPackets .incompressible (processPackets .incompressible Con.split).1).1.commandStatus = .eof := by
  refine ⟨fun h => ?_, by decide +kernel, by decide +kernel, by decide +kernel⟩
  have hnone := h ⟨by decide +kernel, by decide +kernel, by decide +kernel⟩
  revert hnone
  decide +kernel

end LibAttachSql
