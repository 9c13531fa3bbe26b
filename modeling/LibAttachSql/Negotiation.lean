import LibAttachSql.Outcomes
import LibAttachSql.RowErrors
import LibAttachSql.ServerWords
import LibAttachSql.TlsTurn

/-!
# Who compresses

Whether commands are compressed is decided by what the client may do, `client_capabilities`, and whether the bytes that
come in are taken for compressed packets by `options.compression`, which the OK packet that accepts the login sets.  Neither
looks at what the server offers.  This module follows a connection from its handshake on, with what was requested and
offered in it, and says when both sides use compression exactly if it was negotiated.
-/

namespace LibAttachSql

open Lib

/-! ### What decides about compression -/

/-- What decides about compression: whether incoming bytes are, and what the client may do. -/
structure Terms where
  compression : Bool
  clientCapabilities : ℕ

/-- What decides about compression, among the data. -/
def Data.terms (d : Data) : Terms := ⟨d.compression, d.clientCapabilities⟩

/-- What decides about compression on a connection. -/
def Con.terms (con : Con) : Terms := con.data.terms

lemma terms_of_data {con con' : Con} (h : con'.data = con.data) : con'.terms = con.terms := congrArg Data.terms h

variable (env : Env) (con : Con)

lemma packetQueuePush_terms (t : PacketType) : (packetQueuePush env con t).terms = con.terms :=
  terms_of_data (packetQueuePush_data env con t)

/-! ### Packets that are read -/

section Packets

/-- An OK packet that is read while the connection is being made switches compression on if the client may use it. -/
lemma packetReadOk_terms : (packetReadOk con).terms =
    { con.terms with
      compression := con.options.compression || decide (con.status = ConStatus.connecting) && con.wantsCompress } := rfl

lemma packetReadEof_terms : (packetReadEof env con).terms = con.terms := by
  unfold packetReadEof
  dsimp only
  split
  · exact packetQueuePush_terms env _ _
  · split
    · rfl
    · split_ifs
      · exact packetQueuePush_terms env _ _
      · rfl
  · rfl

lemma packetReadHeader_terms : (packetReadHeader env con).terms = con.terms := packetQueuePush_terms env _ _

lemma packetReadResponse_terms (h : con.peekByte 0 ≠ 0x00) : (packetReadResponse env con).terms = con.terms := by
  unfold packetReadResponse
  rw [if_neg h]
  split_ifs
  · rfl
  · exact packetReadEof_terms env con
  · exact packetReadHeader_terms env con

lemma packetReadColumn_terms : (packetReadColumn env con).terms = con.terms := by
  cases hc : con.result.columns.bind (·[con.result.currentColumn]?) with
  | none =>
    unfold packetReadColumn
    rw [hc]
    rfl
  | some column =>
    rw [packetReadColumn_of_some env con hc]
    exact packetQueuePush_terms env _ _

lemma prepareOkNext_terms (m n : ℕ) : (prepareOkNext env con m n).terms = con.terms := by
  unfold prepareOkNext
  split_ifs
  · exact packetQueuePush_terms env con _
  · exact packetQueuePush_terms env con _
  · rfl

lemma packetReadPrepareResponse_terms : (packetReadPrepareResponse env con).terms = con.terms := by
  unfold packetReadPrepareResponse
  split_ifs with h
  · exact packetReadResponse_terms env con h
  · split
    · rfl
    · exact prepareOkNext_terms env _ _ _

lemma packetReadPrepareParameter_terms : (packetReadPrepareParameter env con).terms = con.terms := by
  unfold packetReadPrepareParameter
  split
  · rfl
  · split
    · rfl
    · exact packetQueuePush_terms env _ _

lemma packetReadPrepareColumn_terms : (packetReadPrepareColumn env con).terms = con.terms := by
  unfold packetReadPrepareColumn
  split
  · rfl
  · exact packetQueuePush_terms env _ _

lemma packetReadRow_terms : (packetReadRow env con).terms = con.terms := by
  unfold packetReadRow
  split_ifs with h
  · have heof := packetReadResponse_of_eof env { con with result.rowData := none, result.rowLength := 0 } h
    rw [heof]
    exact packetReadEof_terms env { con with result.rowData := none, result.rowLength := 0 }
  · rfl

lemma sendWriteBuffer_terms (payload : List UInt8) : (sendWriteBuffer env con payload).terms = con.terms :=
  terms_of_data (sendData_data env _ payload)

/-- The login leaves alone what a send, a push and a failure leave alone. -/
lemma handshakeLogin_keeps {α : Type} (f : Con → α) (hsend : ∀ con payload, f (sendWriteBuffer env con payload) = f con)
    (hpush : ∀ con t, f (packetQueuePush env con t) = f con) (hfault : ∀ con : Con, f (con.log .fault) = f con)
    (hscramble : ∀ con : Con, f { con.fail .badScramble with localErrcode := .badScramble } = f con) :
    f (handshakeLogin env con) = f con := by
  have hsent := fun payload => (hpush (sendWriteBuffer env con payload) .response).trans (hsend con payload)
  unfold handshakeLogin
  dsimp only
  split
  · exact hfault con
  · exact hsent _
  · split
    · exact hscramble con
    · exact hsent _

/-- The answer to a handshake leaves alone what the login does, and what the passage through the request for TLS leaves
alone. -/
lemma handshakeResponse_keeps {α : Type} (f : Con → α) (hsend : ∀ con payload, f (sendWriteBuffer env con payload) = f con)
    (hpush : ∀ con t, f (packetQueuePush env con t) = f con) (hfault : ∀ con : Con, f (con.log .fault) = f con)
    (hscramble : ∀ con : Con, f { con.fail .badScramble with localErrcode := .badScramble } = f con)
    (hrefused : ∀ con : Con, f { con.sendFailed .sslRefused .netSslError with
      errmsg := "SSL auth not supported enabled on server", status := .connectFailed } = f con)
    (hpop : ∀ con : Con, f (packetQueuePop { con with ssl.enabled := true }) = f con) :
    f (handshakeResponse env con) = f con := by
  have hlogin := fun con => handshakeLogin_keeps env con f hsend hpush hfault hscramble
  have hopened := (hpush (sendWriteBuffer env con (handshakeHead con)) .handshakeSsl).trans (hsend con _)
  unfold handshakeResponse
  by_cases hssl : con.ssl.ssl = true
  · rw [if_pos hssl]
    by_cases hcap : con.serverCapabilities.testBit capabilitySsl = true
    · rw [if_neg (not_not.mpr hcap)]
      dsimp only
      by_cases hpeek : packetQueuePeek con = some .handshakeSsl
      · rw [if_pos hpeek, if_pos hpeek]
        exact (hlogin _).trans (hpop con)
      · rw [if_neg hpeek]
        generalize packetQueuePush env (sendWriteBuffer env con (handshakeHead con)) .handshakeSsl = con₁ at hopened ⊢
        split_ifs
        · exact ((hlogin _).trans (hpop con₁)).trans hopened
        · exact (hfault con₁).trans hopened
    · rw [if_pos hcap]
      exact hrefused con
  · rw [if_neg hssl]
    exact hlogin con

lemma handshakeResponse_terms : (handshakeResponse env con).terms = con.terms :=
  handshakeResponse_keeps env con Con.terms (sendWriteBuffer_terms env) (packetQueuePush_terms env) (fun _ => rfl)
    (fun _ => rfl) (fun _ => rfl) (fun _ => rfl)

lemma handshakeFields_terms : (handshakeFields con).terms = con.terms :=
  handshakeFields_keeps con Con.terms fun _ _ _ _ _ _ => rfl

lemma checkOldAuth_terms : (checkOldAuth con).terms = con.terms := by
  unfold checkOldAuth
  split_ifs <;> rfl

lemma packetReadHandshake_terms : (packetReadHandshake env con).terms = con.terms := by
  have hfirst : (if con.peekByte 0 = 0xff then packetReadResponse env con else con).terms = con.terms := by
    split_ifs with h
    · exact packetReadResponse_terms env con (by rw [h]; decide)
    · rfl
  unfold packetReadHandshake
  dsimp only
  generalize (if con.peekByte 0 = 0xff then packetReadResponse env con else con) = con₁ at hfirst ⊢
  split_ifs
  · exact hfirst
  · have hauth : (packetReadEnd (checkOldAuth (handshakeFields con₁))).terms = con₁.terms :=
      (checkOldAuth_terms _).trans (handshakeFields_terms con₁)
    exact (handshakeResponse_terms env _).trans (hauth.trans hfirst)

/-- **Only an OK packet that is read as a response decides about compression.** -/
theorem packetDispatch_terms {t : PacketType} (h : t = .response → con.peekByte 0 ≠ 0x00) :
    (packetDispatch env con t).con.terms = con.terms := by
  cases t with
  | handshake => exact packetReadHandshake_terms env con
  | handshakeSsl => exact handshakeResponse_terms env con
  | response => exact packetReadResponse_terms env con (h rfl)
  | prepareResponse => exact packetReadPrepareResponse_terms env con
  | prepareParameter => exact packetReadPrepareParameter_terms env con
  | prepareColumn => exact packetReadPrepareColumn_terms env con
  | column => exact packetReadColumn_terms env con
  | row => exact packetReadRow_terms env con
  | stmtRow => exact packetReadRow_terms env con

end Packets

/-! ### Acts -/

lemma decompressReadBuffer_terms (c : BufferSt) : (decompressReadBuffer env con c).1.terms = con.terms := by
  have hinto : ∀ (con : Con) b c m n, (decompressInto env con b c m n).terms = con.terms := fun con b c m n => by
    unfold decompressInto
    dsimp only
    split_ifs
    · rfl
    · split <;> rfl
  have hpacket : ∀ (con : Con) c m n, (decompressPacket env con c m n).terms = con.terms := fun con c m n => by
    unfold decompressPacket
    dsimp only
    split
    · rfl
    · exact hinto _ _ _ _ _
  have hcheck : ∀ n, (checkCompressedSequence env con c n).terms = con.terms := fun n => by
    have hfail : ∀ (con : Con) site errcode, (con.readFailed site errcode).terms = con.terms := fun _ _ _ => rfl
    unfold checkCompressedSequence
    dsimp only
    split_ifs
    · exact (hfail _ _ _).trans rfl
    · exact (hpacket _ _ _ _).trans rfl
  unfold decompressReadBuffer
  dsimp only
  split_ifs
  · rfl
  · rfl
  · exact hcheck _

lemma onAlloc_terms (n : ℕ) : (onAlloc env con n).1.terms = con.terms := by
  have hbio : (allocBio env con n).terms = con.terms := by
    unfold allocBio
    split_ifs <;> rfl
  have hout : ∀ (con : Con) buffer, (handOut con buffer).1.terms = con.terms := fun con buffer => by
    cases buffer <;> rfl
  unfold onAlloc
  dsimp only
  split_ifs
  · exact (hout _ _).trans hbio
  · exact (hout _ _).trans hbio

lemma readInto_terms (bytes : List UInt8) : (readInto con bytes).terms = con.terms := by
  unfold readInto
  split
  · rfl
  · unfold storeRead
    split_ifs <;> rfl

lemma keepRow_terms : (keepRow env con).terms = con.terms := by
  have hgrow : (rowBufferGrow env con).1.terms = con.terms := by
    unfold rowBufferGrow
    dsimp only
    split_ifs <;> rfl
  unfold keepRow
  generalize rowBufferGrow env con = r at hgrow ⊢
  obtain ⟨con₁, _ | _⟩ := r
  · exact hgrow
  · dsimp only
    split_ifs
    · exact hgrow
    · exact hgrow
    · exact hgrow

lemma Commanded.terms_eq {cmd : Command} {con con' : Con} (h : Commanded cmd con con') : con'.terms = con.terms := by
  have hterms := congrArg Data.terms h.data_eq
  exact hterms

lemma Con.Fills.terms_eq {con con' : Con} (h : con.Fills con') : con'.terms = con.terms := by
  have hterms := congrArg Data.terms h.data_eq
  exact hterms

lemma commandNextResult_terms : (commandNextResult env con).1.terms = con.terms := by
  rcases commandNextResult_cases env con with h | ⟨hdata, -, -⟩
  · rw [h]
  · have hterms := congrArg Data.terms hdata
    exact hterms

lemma prepareNow_terms (statement : List UInt8) : (prepareNow env con statement).terms = con.terms := by
  unfold prepareNow
  split_ifs
  · exact (@commandSend_commanded env { con with stmt := some Stmt.fresh } .stmtPrepare statement).terms_eq
  · rfl

lemma statementClose_terms : (statementClose env con).terms = con.terms := by
  cases hs : con.stmt with
  | none =>
    rw [statementClose_of_none env con hs]
    rfl
  | some stmt =>
    rw [statementClose_of_some env con hs]
    exact (@commandSend_commanded env (closingStatement con stmt) .stmtClose []).terms_eq

/-- **Only options and packets decide about compression.** -/
theorem Act.terms_eq {con : Con} {a : Act} (hl : a.Legal con) (ho : ∀ n, a ≠ .setOption n) (hp : ∀ env, a ≠ .packet env) :
    (a.apply con).terms = con.terms := by
  cases a with
  | rest con' => exact terms_of_data hl.data_eq
  | setOption n => exact absurd rfl (ho n)
  | packet env => exact absurd rfl (hp env)
  | alloc env n => exact onAlloc_terms env con n
  | read bytes => exact readInto_terms con bytes
  | decompress env =>
    unfold Act.apply
    dsimp only
    split
    · rfl
    · exact decompressReadBuffer_terms env con _
  | greet env => exact packetQueuePush_terms env con _
  | command env cmd data => exact (commandSend_commanded env con data).terms_eq
  | requestRow env => exact packetQueuePush_terms env _ _
  | nextResult env => exact commandNextResult_terms env con
  | prepare env statement => exact prepareNow_terms env con statement
  | closeStatement env => exact statementClose_terms env con
  | bufferRows enable =>
    unfold Act.apply queryBufferRows
    split_ifs <;> rfl
  | keepRow env => exact keepRow_terms env con
  | rowGet env error => exact (queryRowGet_fills env con error).terms_eq
  | bufferRowGet => exact (queryBufferRowGet_fills con).terms_eq
  | columnGet column => exact (queryColumnGet_fills con column).terms_eq
  | stmtRowGet env error => exact (statementRowGet_fills env con error).terms_eq
  | editStmt f => rfl
  | commandFree => rfl
  | closeQuery => rfl

lemma nextPacket_none (h : nextPacket con = none) : con.Rest (processPacket env con).con := by
  rcases processPacket_cases env con with hrest | ⟨b, seq, payload, t, q, hholds, hq, ha, -⟩
  · exact hrest
  · rw [nextPacket_of_holds con hholds hq ha] at h
    cases h

lemma packetReady_terms (b : BufferSt) (t : PacketType) (seq : UInt8) (n : ℕ) :
    (packetReady con b t seq n).terms = con.terms ∧
      (packetReady con b t seq n).options.compression = con.options.compression ∧
      (packetReady con b t seq n).status = con.status ∧
      (packetReady con b t seq n).wantsCompress = con.wantsCompress := by
  rw [packetReady_eq]
  unfold Con.terms Con.data Con.wantsCompress
  exact ⟨rfl, rfl, rfl, rfl⟩

/-- The next packet goes to its reader. -/
lemma processPacket_of_next {t : PacketType} {p n : ℕ} (h : nextPacket con = some (t, p, n)) :
    ∃ b seq, (packetReady con b t seq n).peekByte 0 = con.buf.mem p ∧
      (processPacket env con).con = (packetDispatch env (packetReady con b t seq n) t).con := by
  obtain ⟨b, seq, payload, q, hholds, hq, ha, rfl, rfl⟩ := nextPacket_eq_some con h
  refine ⟨b, seq, ?_, congrArg Round.con (processPacket_accepted hholds hq ha)⟩
  have hbuf : con.buf = b := by
    unfold Con.buf
    rw [hholds.buffer]
    rfl
  rw [hbuf]
  rfl

/-- **A packet that is no OK packet decides nothing about compression.** -/
theorem processPacket_terms (h : ∀ p n, nextPacket con = some (.response, p, n) → con.buf.mem p ≠ 0x00) :
    (processPacket env con).con.terms = con.terms := by
  cases hnext : nextPacket con with
  | none => exact terms_of_data (nextPacket_none env con hnext).data_eq
  | some r =>
    obtain ⟨t, p, n⟩ := r
    obtain ⟨b, seq, hpeek, he⟩ := processPacket_of_next env con hnext
    rw [he, packetDispatch_terms env _ fun ht => by rw [hpeek]; exact h p n (by rw [hnext, ht])]
    exact (packetReady_terms con b t seq n).1

/-- **What an OK packet decides about compression.** -/
theorem processPacket_ok_terms {p n : ℕ} (hnext : nextPacket con = some (.response, p, n)) (hzero : con.buf.mem p = 0x00) :
    (processPacket env con).con.terms = { con.terms with
      compression := con.options.compression || decide (con.status = ConStatus.connecting) && con.wantsCompress } := by
  obtain ⟨b, seq, hpeek, he⟩ := processPacket_of_next env con hnext
  obtain ⟨hterms, hcompression, hstatus, hwants⟩ := packetReady_terms con b .response seq n
  have hread :
      packetReadResponse env (packetReady con b .response seq n) = packetReadOk (packetReady con b .response seq n) :=
    if_pos (hpeek.trans hzero)
  rw [he]
  show (packetReadResponse env (packetReady con b .response seq n)).terms = _
  rw [hread, packetReadOk_terms, hterms, hcompression, hstatus, hwants]

/-! ### Dialogues -/

/-- How far the login has come. -/
inductive Phase where
  /-- No handshake was read yet. -/
  | greeting
  /-- The handshake was read, and answered. -/
  | login
  /-- The server has accepted the login. -/
  | established
  deriving DecidableEq

/-- A handshake offers compression. -/
def OffersCompress (payload : List UInt8) : Bool := (offeredCapabilities payload).any (·.testBit capabilityCompress)

/-- A connection, how far its login has come, and whether compression was requested when the handshake was answered, and
offered in its packet. -/
structure Dialogue where
  con : Con
  phase : Phase
  requested : Bool
  offered : Bool

namespace Dialogue

/-- A connection before its handshake. -/
def start (con : Con) : Dialogue := { con := con, phase := .greeting, requested := false, offered := false }

/-- The dialogue after a packet that leads to the connection `con`. -/
def packet (d : Dialogue) (con : Con) : Dialogue :=
  match nextPacket d.con with
  | some (.handshake, p, n) =>
    { con := con
      phase := .login
      requested := d.con.wantsCompress
      offered := OffersCompress (d.con.buf.mem.slice p n) }
  | some (.response, p, _) =>
    { d with con := con, phase := if d.con.buf.mem p = 0x00 ∧ d.phase = .login then .established else d.phase }
  | _ => { d with con := con }

/-- The dialogue after an act. -/
def step (d : Dialogue) (a : Act) : Dialogue :=
  match a with
  | .packet _ => d.packet (a.apply d.con)
  | _ => { d with con := a.apply d.con }

/-- Acts of the library. -/
def Legal (d : Dialogue) (a : Act) : Prop := a.Legal d.con

/-- Compression was negotiated: the login is accepted, and compression was requested and offered in it. -/
def Agreed (d : Dialogue) : Prop := d.phase = .established ∧ d.requested = true ∧ d.offered = true

/-- Incoming bytes are taken for compressed packets exactly when compression was negotiated. -/
def Receives (d : Dialogue) : Prop := d.con.options.compression = true ↔ d.Agreed

end Dialogue

/-! ### What is sent -/

/-- The bytes that an action hands on to libuv, or to OpenSSL. -/
def Action.carried : Action → Option (List UInt8)
  | .write bytes | .sslBuffered bytes => some bytes
  | _ => none

/-- The bytes are a packet with the header of a compressed one, or of a plain one: their first three say how many come behind
it. -/
def Framed (compressed : Bool) (bytes : List UInt8) : Prop :=
  (littleEndian (bytes.take 3) + if compressed then 7 else 4) % 2 ^ 24 = bytes.length % 2 ^ 24

/-- What an action hands on is framed so. -/
def Action.FramedAs (compressed : Bool) (a : Action) : Prop := ∀ bytes, a.carried = some bytes → Framed compressed bytes

instance (compressed : Bool) (bytes : List UInt8) : Decidable (Framed compressed bytes) := by
  unfold Framed
  infer_instance

instance (compressed : Bool) : DecidablePred (Action.FramedAs compressed) := fun a => by
  unfold Action.FramedAs
  cases a.carried with
  | none => exact isTrue nofun
  | some bytes =>
    exact decidable_of_iff (Framed compressed bytes) ⟨fun h _ hb => Option.some.inj hb ▸ h, fun h => h bytes rfl⟩

section Framing

lemma littleEndian_take_packInt3 (n : ℕ) (rest : List UInt8) :
    littleEndian ((packInt3 n ++ rest).take 3) = n % 2 ^ 24 := by
  show littleEndian [byteAt n 0, byteAt n 1, byteAt n 2] = n % 2 ^ 24
  simp only [littleEndian, toNat_byteAt]
  omega

/-- A packet that begins with its length. -/
lemma framed_of_length {compressed : Bool} {n : ℕ} {rest : List UInt8}
    (h : rest.length + 3 = n + if compressed then 7 else 4) : Framed compressed (packInt3 n ++ rest) := by
  unfold Framed
  rw [littleEndian_take_packInt3, List.length_append, show (packInt3 n).length = 3 from rfl, Nat.add_comm 3, h]
  omega

lemma framed_frame (number : UInt8) (payload : List UInt8) : Framed false (frame number payload) := by
  unfold frame
  rw [List.append_assoc]
  refine framed_of_length ?_
  rw [List.length_append, List.length_singleton, if_neg nofun]
  omega

lemma framed_compressedFrame (number : UInt8) (body : List UInt8) (uncompressed : ℕ) :
    Framed true (compressedFrame number body uncompressed) := by
  unfold compressedFrame
  rw [List.append_assoc, List.append_assoc]
  refine framed_of_length ?_
  rw [List.length_append, List.length_append, List.length_singleton, show (packInt3 uncompressed).length = 3 from rfl,
    if_pos rfl]
  omega

lemma framedAs_outgoing {compressed : Bool} {bytes : List UInt8} (h : Framed compressed bytes) :
    (con.outgoing bytes).FramedAs compressed := by
  intro bytes' hb
  have hsame : (con.outgoing bytes).carried = some bytes := by
    unfold Con.outgoing
    split_ifs <;> rfl
  rw [hsame] at hb
  exact Option.some.inj hb ▸ h

lemma framedAs_of_not_carried {compressed : Bool} {a : Action} (h : a.carried = none) : a.FramedAs compressed :=
  fun bytes hb => by
    rw [h] at hb
    cases hb

lemma framedAs_of_inward {compressed : Bool} {a : Action} (h : a.inward = true) : a.FramedAs compressed :=
  framedAs_of_not_carried (by cases a <;> first | rfl | cases h)

lemma framedAs_of_still {compressed tls : Bool} {a : Action} (h : a.still tls = true) : a.FramedAs compressed :=
  framedAs_of_not_carried (by cases a <;> first | rfl | cases h)

variable {con} {con' : Con} {compressed : Bool}

lemma Con.Emits.framed (h : con.Emits (Action.FramedAs compressed) con') :
    ∀ a ∈ newActions con con', a.FramedAs compressed :=
  fun a ha => (h.seen a ha).elim framedAs_of_inward id

lemma Con.Still.framed (h : con.Still con') : ∀ a ∈ newActions con con', a.FramedAs compressed := by
  obtain ⟨x, hx, hstill⟩ := h.trace_eq
  rw [newActions_eq hx]
  exact fun a ha => framedAs_of_still (hstill a ha)

lemma wants_of_terms (h : con'.terms = con.terms) : con'.wantsCompress = con.wantsCompress :=
  congrArg (fun t : Terms => t.clientCapabilities.testBit capabilityCompress) h

lemma compression_of_terms (h : con'.terms = con.terms) : con'.options.compression = con.options.compression :=
  congrArg Terms.compression h

/-- **A command is framed as the client may compress.** -/
lemma commandSend_framed (cmd : Command) (data : List UInt8) :
    con.Emits (Action.FramedAs con.wantsCompress) (commandSend env con cmd data).1 := by
  refine commandSend_emits env con (fun _ => framedAs_of_not_carried rfl) cmd data (framedAs_of_not_carried rfl)
    (framedAs_of_not_carried rfl) (fun hc head hhead => ?_) fun hc number uncompressed body => ?_
  · rw [hc]
    refine framedAs_outgoing con ?_
    rw [List.append_assoc, List.append_assoc]
    refine framed_of_length ?_
    rw [List.length_append, List.length_append, List.length_singleton, hhead, if_neg nofun]
    omega
  · rw [hc]
    exact framedAs_outgoing con (framed_compressedFrame _ _ _)

/-! ### What is sent before the connection is made -/

/-- The client may not compress, or is still connecting, also when TLS is started: OpenSSL does not break the connection
then. -/
def Con.Plain (env : Env) (con : Con) : Prop :=
  con.wantsCompress = true → con.status = .connecting ∧ (con.ssl.enabled = true → con.ssl.handshakeDone = false →
    { con.ssl with calls := con.ssl.calls + 1 }.runBreaks env = false)

/-- The connection is being made, TLS has not begun, and OpenSSL does not break the connection in the turn that it begins
with. -/
structure Con.Unsecured (env : Env) (con : Con) : Prop where
  status_eq : con.status = .connecting
  enabled_eq : con.ssl.enabled = false
  handshakeDone_eq : con.ssl.handshakeDone = false
  runBreaks_eq : con.ssl.ssl = true → { con.ssl with enabled := true, calls := con.ssl.calls + 1 }.runBreaks env = false

instance (env : Env) (con : Con) : Decidable (con.Unsecured env) :=
  decidable_of_iff (con.status = .connecting ∧ con.ssl.enabled = false ∧ con.ssl.handshakeDone = false ∧
      (con.ssl.ssl = true → { con.ssl with enabled := true, calls := con.ssl.calls + 1 }.runBreaks env = false))
    ⟨fun ⟨h₁, h₂, h₃, h₄⟩ => ⟨h₁, h₂, h₃, h₄⟩, fun h => ⟨h.status_eq, h.enabled_eq, h.handshakeDone_eq, h.runBreaks_eq⟩⟩

lemma startTls_status (h : con.Plain env) (hw : con.wantsCompress = true) : (startTls env con).status = .connecting := by
  obtain ⟨hs, htls⟩ := h hw
  unfold startTls
  split_ifs with hstart
  · have hrun := sslRun_status env { con with ssl.calls := con.ssl.calls + 1 }
      (htls hstart.1 (Bool.eq_false_iff.mpr hstart.2))
    exact hrun.trans hs
  · exact hs

/-- **Such a connection sends its packets uncompressed.** -/
lemma sendData_plain (h : con.Plain env) (data : List UInt8) :
    con.Emits (Action.FramedAs false) (sendData env con data) := by
  have hterms : (startTls env con).terms = con.terms := congrArg Data.terms (startTls_sendOnly env con).data_eq
  refine sendData_emits env con (fun _ => framedAs_of_not_carried rfl) data (fun _ number => ?_) fun hc => ?_
  · exact framedAs_outgoing _ (framed_frame number data)
  · exact absurd (startTls_status env h (wants_of_terms hterms ▸ hc.1)) hc.2

lemma handshakeLogin_plain (h : con.Plain env) : con.Emits (Action.FramedAs false) (handshakeLogin env con) :=
  handshakeLogin_emits env con fun payload => sendWriteBuffer_emits env con fun m =>
    @sendData_plain env { con with writeBuffer := m } h payload

/-- A write in clear text leaves the status and the SSL part alone. -/
lemma netWrite_clear (hdone : con.ssl.handshakeDone = false) {parts : List (List UInt8)} {failure : Option String}
    (hw : netWrite env con parts = (con', failure)) : con'.status = con.status ∧ con'.ssl = con.ssl := by
  unfold netWrite uvWrite at hw
  rw [if_neg (by rw [hdone]; decide)] at hw
  split_ifs at hw
  · split at hw <;> cases hw
    · exact ⟨rfl, rfl⟩
    · exact ⟨rfl, rfl⟩
  · cases hw
    exact ⟨rfl, rfl⟩

/-- So does a packet that is sent so. -/
lemma sendData_clear (henabled : con.ssl.enabled = false) (hdone : con.ssl.handshakeDone = false)
    (hc : ¬ (con.wantsCompress = true ∧ con.status ≠ .connecting)) (data : List UInt8) :
    (sendData env con data).status = con.status ∧ (sendData env con data).ssl = con.ssl := by
  have hstart : startTls env con = con := if_neg fun h => by
    rw [henabled] at h
    cases h.1
  unfold sendData
  rw [hstart]
  dsimp only
  split_ifs with hc'
  · exact absurd hc' hc
  · split
    · next con' hw =>
      have hsame := netWrite_clear env (by exact hdone) hw
      exact hsame
    · next con' name hw =>
      have hsame := netWrite_clear env (by exact hdone) hw
      exact hsame

/-- And so does the short request for TLS. -/
lemma tlsRequested_clear (henabled : con.ssl.enabled = false) (hdone : con.ssl.handshakeDone = false)
    (hc : ¬ (con.wantsCompress = true ∧ con.status ≠ .connecting)) :
    (tlsRequested env con).status = con.status ∧ (tlsRequested env con).ssl = con.ssl := by
  have hsend : (sendWriteBuffer env con (handshakeHead con)).status = con.status ∧
      (sendWriteBuffer env con (handshakeHead con)).ssl = con.ssl :=
    @sendData_clear env { con with writeBuffer := con.writeBuffer.store 0 (handshakeHead con) } henabled hdone hc _
  obtain ⟨_, _, _, _, hpush⟩ := packetQueuePush_frame env (sendWriteBuffer env con (handshakeHead con)) .handshakeSsl
  unfold tlsRequested
  rw [hpush]
  exact hsend

/-- **The answer to a handshake is sent uncompressed**, by a client that may not compress or is still connecting. -/
lemma handshakeResponse_plain (h : con.wantsCompress = true → con.Unsecured env) :
    con.Emits (Action.FramedAs false) (handshakeResponse env con) := by
  have hplain : con.Plain env := fun hw => ⟨(h hw).status_eq, fun henabled => by
    rw [(h hw).enabled_eq] at henabled
    cases henabled⟩
  refine handshakeResponse_emits env con (fun _ => handshakeLogin_plain env hplain) (fun hssl => ?_) (fun _ => ?_)
    fun hssl => ?_
  · have hpop : con.Emits (Action.FramedAs false) (tlsEnabled con) := .same rfl rfl
    refine hpop.trans (handshakeLogin_plain env fun hw => ⟨(h hw).status_eq, fun _ _ => ?_⟩)
    exact (h hw).runBreaks_eq hssl
  · exact sendWriteBuffer_emits env con fun m => @sendData_plain env { con with writeBuffer := m } hplain _
  · have hpop : (tlsRequested env con).Emits (Action.FramedAs false) (tlsEnabled (tlsRequested env con)) := .same rfl rfl
    refine hpop.trans (handshakeLogin_plain env fun hw => ?_)
    have hterms : (tlsRequested env con).terms = con.terms :=
      (packetQueuePush_terms env _ _).trans (sendWriteBuffer_terms env con _)
    have hclear := h ((wants_of_terms hterms).symm.trans hw)
    obtain ⟨hstatus, hsame⟩ := tlsRequested_clear env hclear.enabled_eq hclear.handshakeDone_eq
      fun hc => hc.2 hclear.status_eq
    refine ⟨hstatus.trans hclear.status_eq, fun _ _ => ?_⟩
    show { (tlsRequested env con).ssl with enabled := true, calls := (tlsRequested env con).ssl.calls + 1 }.runBreaks env =
      false
    rw [hsame]
    exact hclear.runBreaks_eq hssl

lemma checkOldAuth_status (con : Con) : (checkOldAuth con).status = con.status := by
  unfold checkOldAuth
  split_ifs <;> rfl

lemma handshakeRead_status (con : Con) : (handshakeRead con).status = con.status :=
  (checkOldAuth_status _).trans (handshakeFields_keeps con Con.status fun _ _ _ _ _ _ => rfl)

/-- A handshake that is read, and is no ERR packet, leaves the connection as unsecured as it was. -/
lemma handshakeRead_unsecured (h : con.Unsecured env) : (handshakeRead con).Unsecured env := by
  have hssl : (handshakeRead con).ssl = con.ssl := (handshakeRead_tells con).ssl_eq
  refine ⟨(handshakeRead_status con).trans h.status_eq, ?_, ?_, ?_⟩
  · rw [hssl]
    exact h.enabled_eq
  · rw [hssl]
    exact h.handshakeDone_eq
  · rw [hssl]
    exact h.runBreaks_eq

lemma handshakeRead_terms (con : Con) : (handshakeRead con).terms = con.terms :=
  (checkOldAuth_terms _).trans (handshakeFields_terms con)

lemma errRead_terms (con : Con) : (errRead con).terms = con.terms := by
  unfold errRead
  split_ifs <;> rfl

/-- **What is sent when a packet is read is sent uncompressed**, where the client may not compress, or has not logged in. -/
theorem processPacket_plain (con : Con)
    (h : ∀ t p n, nextPacket con = some (t, p, n) → t.greets = true → con.wantsCompress = true →
      con.Unsecured env ∧ (t = .handshake → con.buf.mem p ≠ 0xff)) :
    ∀ a ∈ newActions con (processPacket env con).con, a.FramedAs false := by
  cases hnext : nextPacket con with
  | none => exact (nextPacket_none env con hnext).still.framed
  | some r =>
    obtain ⟨t, p, n⟩ := r
    obtain ⟨b, seq, hpeek, he⟩ := processPacket_of_next env con hnext
    have hopen : con.Emits (Action.FramedAs false) (packetReady con b t seq n) :=
      packetReady_emits con b t seq n (framedAs_of_not_carried rfl)
    have hready : ∀ con₁ : Con, con₁ = packetReady con b t seq n → con.Unsecured env → con₁.Unsecured env := by
      rintro _ rfl hu
      rw [packetReady_eq]
      exact ⟨hu.status_eq, hu.enabled_eq, hu.handshakeDone_eq, hu.runBreaks_eq⟩
    have hwants := (packetReady_terms con b t seq n).2.2.2
    rw [he]
    refine Con.Emits.framed (hopen.trans ?_)
    by_cases ht : t = .handshake
    · subst ht
      refine packetReadHandshake_emits env _ (fun _ => framedAs_of_not_carried rfl)
        (handshakeResponse_plain env fun hw => ?_)
      have hw' : con.wantsCompress = true :=
        hwants ▸ wants_of_terms ((handshakeRead_terms _).trans (errRead_terms _)) ▸ hw
      obtain ⟨hu, hno⟩ := h _ p n hnext rfl hw'
      refine handshakeRead_unsecured env ?_
      unfold errRead
      rw [if_neg (by rw [hpeek]; exact hno rfl)]
      exact hready _ rfl hu
    · by_cases ht' : t = .handshakeSsl
      · subst ht'
        exact handshakeResponse_plain env fun hw => hready _ rfl (h _ p n hnext rfl (hwants ▸ hw)).1
      · exact (packetDispatch_tells env _ ⟨ht, ht'⟩).emits fun _ => framedAs_of_not_carried rfl

/-- A packet that is no handshake hands nothing on. -/
lemma processPacket_silent (con : Con) (compressed : Bool)
    (h : ∀ t p n, nextPacket con = some (t, p, n) → t.greets = false) :
    ∀ a ∈ newActions con (processPacket env con).con, a.FramedAs compressed := by
  cases hnext : nextPacket con with
  | none => exact (nextPacket_none env con hnext).still.framed
  | some r =>
    obtain ⟨t, p, n⟩ := r
    obtain ⟨b, seq, -, he⟩ := processPacket_of_next env con hnext
    have ht := PacketType.ne_of_greets (h t p n hnext)
    have hopen : con.Emits (Action.FramedAs compressed) (packetReady con b t seq n) :=
      packetReady_emits con b t seq n (framedAs_of_not_carried rfl)
    rw [he]
    exact (hopen.trans ((packetDispatch_tells env _ ht).emits fun _ => framedAs_of_not_carried rfl)).framed

end Framing

namespace Dialogue

instance (d : Dialogue) : Decidable d.Agreed := inferInstanceAs (Decidable (_ ∧ _ ∧ _))

/-- All that an act hands on is framed as compressed packets exactly when compression was negotiated. -/
def Sends (d : Dialogue) (a : Act) : Prop := ∀ x ∈ newActions d.con (a.apply d.con), x.FramedAs (decide d.Agreed)

/-- Compression is not requested once the handshake was read, unless it was before.  A client that requests it sends
commands only when the login is accepted, reads one handshake, which is no ERR packet, before TLS has begun, and the answer
to its login while it is connecting, and the server that accepts the login has offered it. -/
def InOrder (d : Dialogue) : Act → Prop
  | .setOption n => d.phase = .greeting ∨ (n.testBit capabilityCompress = true → d.con.wantsCompress = true)
  | .command _ _ _ | .prepare _ _ => d.con.wantsCompress = true → d.phase = .established
  | .closeStatement _ => d.con.stmt.isSome = true → d.con.wantsCompress = true → d.phase = .established
  | .packet env =>
    match nextPacket d.con with
    | some (.handshake, p, _) =>
      d.con.wantsCompress = true → d.phase = .greeting ∧ d.con.Unsecured env ∧ d.con.buf.mem p ≠ 0xff
    | some (.handshakeSsl, _, _) => d.con.wantsCompress = true → d.phase ≠ .established ∧ d.con.Unsecured env
    | some (.response, p, _) =>
      d.con.buf.mem p = 0x00 → d.con.wantsCompress = true →
        (d.phase = .greeting → d.con.status ≠ .connecting) ∧
          (d.phase = .login → d.con.status = .connecting ∧ d.offered = true)
    | _ => True
  | _ => True

instance (d : Dialogue) (a : Act) : Decidable (d.InOrder a) := by
  rcases a with ⟨⟩
  case packet =>
    dsimp only [InOrder]
    rcases nextPacket d.con with _ | ⟨t, p, n⟩
    · infer_instance
    · rcases t with ⟨⟩ <;> infer_instance
  all_goals dsimp only [InOrder]; infer_instance

/-! ### The invariant -/

/-- Both sides know of compression what was negotiated. -/
structure Settled (d : Dialogue) : Prop where
  receives : d.Receives
  requested : d.phase ≠ .greeting → (d.con.wantsCompress = true ↔ d.requested = true)
  offered : d.phase = .established → d.requested = true → d.offered = true

variable {d : Dialogue}

lemma not_agreed_of_phase (h : d.phase ≠ .established) : ¬ d.Agreed := fun ha => h ha.1

/-- Before the login is accepted, bytes are not taken for compressed packets. -/
lemma Settled.plain (h : d.Settled) (hp : d.phase ≠ .established) : d.con.options.compression = false :=
  Bool.eq_false_iff.mpr fun hc => not_agreed_of_phase hp (h.receives.mp hc)

/-- What decides about compression stays. -/
lemma Settled.same (h : d.Settled) {con : Con} (ht : con.terms = d.con.terms) :
    ({ d with con := con } : Dialogue).Settled where
  receives := by
    have hc := compression_of_terms ht
    have hr := h.receives
    unfold Receives at hr ⊢
    rw [hc]
    exact hr
  requested hp := by
    rw [wants_of_terms ht]
    exact h.requested hp
  offered := h.offered

lemma Settled.setOption (h : d.Settled) {n : ℕ} (hg : d.InOrder (.setOption n)) : (d.step (.setOption n)).Settled where
  receives := h.receives
  requested hp := by
    have hbit : (d.step (.setOption n)).con.wantsCompress =
        (d.con.wantsCompress || n.testBit capabilityCompress) := Nat.testBit_or ..
    have hn := hg.resolve_left hp
    rw [hbit, Bool.or_eq_true, or_iff_left_of_imp hn]
    exact h.requested hp
  offered := h.offered

/-- The packet a handshake is read from. -/
lemma Settled.handshake (h : d.Settled) {con : Con} {p n : ℕ} (hnext : nextPacket d.con = some (.handshake, p, n))
    (ht : con.terms = d.con.terms) (hp : d.con.wantsCompress = true → d.phase = .greeting) : (d.packet con).Settled := by
  have hpacket : d.packet con =
      { con := con
        phase := .login
        requested := d.con.wantsCompress
        offered := OffersCompress (d.con.buf.mem.slice p n) } := by
    unfold packet
    rw [hnext]
  have hplain : d.con.options.compression = false := by
    refine Bool.eq_false_iff.mpr fun hc => ?_
    obtain ⟨hphase, hr, -⟩ := h.receives.mp hc
    have hne : d.phase ≠ .greeting := by rw [hphase]; exact nofun
    exact hne (hp ((h.requested hne).mpr hr))
  rw [hpacket]
  refine ⟨?_, fun _ => ?_, nofun⟩
  · refine iff_of_false ?_ (not_agreed_of_phase nofun)
    rw [compression_of_terms ht, hplain]
    exact Bool.false_ne_true
  · dsimp only
    rw [wants_of_terms ht]

/-- An OK packet: when it accepts the login, both sides start to compress, or neither. -/
lemma Settled.ok (h : d.Settled) {con : Con} {p n : ℕ} (hnext : nextPacket d.con = some (.response, p, n))
    (hzero : d.con.buf.mem p = 0x00)
    (ht : con.terms = { d.con.terms with
      compression := d.con.options.compression || decide (d.con.status = .connecting) && d.con.wantsCompress })
    (hg : d.con.wantsCompress = true → (d.phase = .greeting → d.con.status ≠ .connecting) ∧
      (d.phase = .login → d.con.status = .connecting ∧ d.offered = true)) : (d.packet con).Settled := by
  have hpacket : d.packet con =
      { d with con := con, phase := if d.con.buf.mem p = 0x00 ∧ d.phase = .login then .established else d.phase } := by
    unfold packet
    rw [hnext]
  have hwants : con.wantsCompress = d.con.wantsCompress :=
    congrArg (fun t : Terms => t.clientCapabilities.testBit capabilityCompress) ht
  have hcompression : con.options.compression =
      (d.con.options.compression || decide (d.con.status = .connecting) && d.con.wantsCompress) :=
    congrArg Terms.compression ht
  rw [hpacket]
  cases hphase : d.phase with
  | greeting =>
    rw [if_neg fun hc => nomatch hc.2]
    refine ⟨iff_of_false ?_ (not_agreed_of_phase nofun), fun hp => absurd rfl hp, nofun⟩
    rw [hcompression, h.plain (by rw [hphase]; exact nofun), Bool.false_or, Bool.and_eq_true, decide_eq_true_iff]
    exact fun ⟨hs, hw⟩ => (hg hw).1 hphase hs
  | login =>
    have hrequested := h.requested (by rw [hphase]; exact nofun)
    rw [if_pos ⟨hzero, rfl⟩]
    refine ⟨?_, fun _ => by rw [← hrequested, hwants], fun _ hr => ((hg (hrequested.mpr hr)).2 hphase).2⟩
    show con.options.compression = true ↔ Phase.established = .established ∧ d.requested = true ∧ d.offered = true
    rw [hcompression, h.plain (by rw [hphase]; exact nofun), Bool.false_or, Bool.and_eq_true, decide_eq_true_iff,
      ← hrequested]
    constructor
    · rintro ⟨-, hw⟩
      exact ⟨rfl, hw, ((hg hw).2 hphase).2⟩
    · rintro ⟨-, hw, -⟩
      exact ⟨((hg hw).2 hphase).1, hw⟩
  | established =>
    have hrequested := h.requested (by rw [hphase]; exact nofun)
    rw [if_neg fun hc => nomatch hc.2]
    refine ⟨?_, fun _ => by rw [← hrequested, hwants], fun _ hr => h.offered hphase hr⟩
    have hreceives : d.con.options.compression = true ↔ d.Agreed := h.receives
    show con.options.compression = true ↔ Phase.established = .established ∧ d.requested = true ∧ d.offered = true
    rw [hcompression, Bool.or_eq_true, Bool.and_eq_true, hreceives, Agreed, hphase, ← hrequested]
    constructor
    · rintro (hagreed | ⟨-, hw⟩)
      · exact hagreed
      · exact ⟨rfl, hw, h.offered hphase (hrequested.mp hw)⟩
    · exact fun hagreed => .inl hagreed

/-- A packet that decides nothing about compression, and is no handshake. -/
lemma Settled.otherPacket (h : d.Settled) {con : Con} (ht : con.terms = d.con.terms)
    (hn : ∀ p n, nextPacket d.con ≠ some (.handshake, p, n))
    (hr : ∀ p n, nextPacket d.con = some (.response, p, n) → d.con.buf.mem p ≠ 0x00) : (d.packet con).Settled := by
  have hsame : d.packet con = { d with con := con } := by
    unfold packet
    split
    · next p n hnext => exact absurd hnext (hn p n)
    · next p n hnext => rw [if_neg fun hc => hr p n hnext hc.1]
    · rfl
  rw [hsame]
  exact h.same ht

lemma Settled.packet (h : d.Settled) {env : Env} (hg : d.InOrder (.packet env)) : (d.step (.packet env)).Settled := by
  show (d.packet (processPacket env d.con).con).Settled
  by_cases hok : ∃ p n, nextPacket d.con = some (.response, p, n) ∧ d.con.buf.mem p = 0x00
  · obtain ⟨p, n, hnext, hzero⟩ := hok
    unfold InOrder at hg
    rw [hnext] at hg
    exact h.ok hnext hzero (processPacket_ok_terms env d.con hnext hzero) (hg hzero)
  · have hr : ∀ p n, nextPacket d.con = some (.response, p, n) → d.con.buf.mem p ≠ 0x00 :=
      fun p n hnext hz => hok ⟨p, n, hnext, hz⟩
    have ht := processPacket_terms env d.con hr
    by_cases hhandshake : ∃ p n, nextPacket d.con = some (.handshake, p, n)
    · obtain ⟨p, n, hnext⟩ := hhandshake
      unfold InOrder at hg
      rw [hnext] at hg
      exact h.handshake hnext ht fun hw => (hg hw).1
    · exact h.otherPacket ht (fun p n hnext => hhandshake ⟨p, n, hnext⟩) hr

/-- **One act.** -/
theorem settled_step {a : Act} (h : d.Settled) (hl : d.Legal a) (hg : d.InOrder a) : (d.step a).Settled := by
  cases a with
  | packet env => exact h.packet hg
  | setOption n => exact h.setOption hg
  | _ => exact h.same (Act.terms_eq hl nofun nofun)

/-- Where a client that requests compression sends commands only once the login is accepted, it may compress exactly when
compression was negotiated. -/
lemma Settled.wants_eq (h : d.Settled) (hg : d.con.wantsCompress = true → d.phase = .established) :
    d.con.wantsCompress = decide d.Agreed := by
  rw [Bool.eq_iff_iff, decide_eq_true_iff]
  constructor
  · intro hw
    have hp := hg hw
    have hr := (h.requested (by rw [hp]; exact nofun)).mp hw
    exact ⟨hp, hr, h.offered hp hr⟩
  · rintro ⟨hp, hr, -⟩
    exact (h.requested (by rw [hp]; exact nofun)).mpr hr

/-- Before the login is accepted, a client that requests compression has not negotiated it, and one that does not never
does. -/
lemma Settled.not_agreed (h : d.Settled) (hg : d.con.wantsCompress = true → d.phase ≠ .established) : ¬ d.Agreed :=
  fun ⟨hp, hr, _⟩ => hg ((h.requested (by rw [hp]; exact nofun)).mpr hr) hp

lemma Settled.sends_command (h : d.Settled) (hg : d.con.wantsCompress = true → d.phase = .established) (env : Env)
    (cmd : Command) (data : List UInt8) :
    ∀ x ∈ newActions d.con (commandSend env d.con cmd data).1, x.FramedAs (decide d.Agreed) := by
  rw [← h.wants_eq hg]
  exact (commandSend_framed env cmd data).framed

lemma Settled.sends_prepare (h : d.Settled) (hg : d.con.wantsCompress = true → d.phase = .established) (env : Env)
    (statement : List UInt8) :
    ∀ x ∈ newActions d.con (prepareNow env d.con statement), x.FramedAs (decide d.Agreed) := by
  rw [← h.wants_eq hg]
  refine Con.Emits.framed ?_
  unfold prepareNow
  refine .ite (fun _ => ?_) fun _ => ?_
  · exact (@commandSend_framed env { d.con with stmt := some Stmt.fresh } .stmtPrepare statement).after (.same rfl rfl)
  · exact .action (a := .failed .stmtAlloc d.con.status d.con.serverErrno) rfl rfl (.inl rfl)

lemma Settled.sends_close (h : d.Settled)
    (hg : d.con.stmt.isSome = true → d.con.wantsCompress = true → d.phase = .established) (env : Env) :
    ∀ x ∈ newActions d.con (statementClose env d.con), x.FramedAs (decide d.Agreed) := by
  cases hs : d.con.stmt with
  | none =>
    rw [statementClose_of_none env _ hs]
    exact Con.Emits.framed (.same rfl rfl)
  | some stmt =>
    rw [← h.wants_eq (hg (by rw [hs]; rfl)), statementClose_of_some env _ hs]
    exact ((@commandSend_framed env (closingStatement d.con stmt) .stmtClose []).after (.same rfl rfl)).framed

lemma Settled.sends_packet (h : d.Settled) {env : Env} (hg : d.InOrder (.packet env)) :
    ∀ x ∈ newActions d.con (processPacket env d.con).con, x.FramedAs (decide d.Agreed) := by
  unfold InOrder at hg
  dsimp only at hg
  cases hnext : nextPacket d.con with
  | none => exact processPacket_silent env d.con _ fun t p n h => by rw [hnext] at h; cases h
  | some r =>
    obtain ⟨t, p, n⟩ := r
    rw [hnext] at hg
    have hsilent : t.greets = false →
        ∀ x ∈ newActions d.con (processPacket env d.con).con, x.FramedAs (decide d.Agreed) := fun ht =>
      processPacket_silent env d.con _ fun t' p' n' h' => by
        rw [hnext] at h'
        cases h'
        exact ht
    -- what is sent in answer to a handshake
    have hplain : (d.con.wantsCompress = true → d.phase ≠ .established ∧ d.con.Unsecured env ∧
        (t = .handshake → d.con.buf.mem p ≠ 0xff)) →
        ∀ x ∈ newActions d.con (processPacket env d.con).con, x.FramedAs (decide d.Agreed) := fun hw => by
      rw [decide_eq_false (h.not_agreed fun hc => (hw hc).1)]
      refine processPacket_plain env d.con fun t' p' n' h' _ hc => ?_
      rw [hnext] at h'
      cases h'
      exact (hw hc).2
    cases t with
    | handshake => exact hplain fun hc => ⟨by rw [(hg hc).1]; exact nofun, (hg hc).2.1, fun _ => (hg hc).2.2⟩
    | handshakeSsl => exact hplain fun hc => ⟨(hg hc).1, (hg hc).2, nofun⟩
    | response => exact hsilent rfl
    | prepareResponse => exact hsilent rfl
    | prepareParameter => exact hsilent rfl
    | prepareColumn => exact hsilent rfl
    | column => exact hsilent rfl
    | row => exact hsilent rfl
    | stmtRow => exact hsilent rfl

/-- **A connection on which both sides know of compression what was negotiated sends so**, in order. -/
theorem Settled.sends (h : d.Settled) {a : Act} (hl : d.Legal a) (hg : d.InOrder a) : d.Sends a := by
  cases hspeaks : a.speaks with
  | false => exact (apply_still d.con hl hspeaks).framed
  | true =>
    cases a with
    | packet env => exact h.sends_packet hg
    | command env cmd data => exact h.sends_command hg env cmd data
    | prepare env statement => exact h.sends_prepare hg env statement
    | closeStatement env => exact h.sends_close hg env
    | nextResult env => exact (commandNextResult_emits env d.con (framedAs_of_not_carried rfl)).framed
    | _ => cases hspeaks

end Dialogue

/-- **When compression is what was negotiated**: in a run that goes in order, bytes are taken for compressed packets at every
time, and everything that is handed on is framed as compressed packets, exactly if compression was requested, and offered
in the packet of the handshake, in a login that was accepted. -/
theorem compression_negotiated {con : Con} (h : Initial con) (as : List Act)
    (hl : Along Dialogue.step Dialogue.Legal (.start con) as)
    (hg : Along Dialogue.step Dialogue.InOrder (.start con) as) :
    Throughout Dialogue.step Dialogue.Receives (.start con) as ∧
      Along Dialogue.step Dialogue.Sends (.start con) as := by
  have hplain : con.options.compression = false := by
    cases h with
    | made => rfl
  have hstart : (Dialogue.start con).Settled := by
    refine ⟨iff_of_false ?_ nofun, fun hp => absurd rfl hp, nofun⟩
    rw [show (Dialogue.start con).con.options.compression = false from hplain]
    exact nofun
  have hstep : ∀ (d : Dialogue) (a : Act), d.Settled → d.Legal a ∧ d.InOrder a → (d.step a).Settled :=
    fun d a hd ha => Dialogue.settled_step hd ha.1 ha.2
  exact ⟨throughout_of_invariant hstep (fun d hd => hd.receives) hstart (hl.and hg),
    along_of_invariant hstep (fun d a hd ha => hd.sends ha.1 ha.2) hstart (hl.and hg)⟩

/-- The handshake of a server that offers compression. -/
def compressingGreeting : List UInt8 :=
  frame 0 ([10, 0x35, 0] ++ List.replicate 13 1 ++ [0x20, 2, 8] ++ packInt2 2 ++ List.replicate 13 0 ++
    List.replicate 13 1)

/-- A login on a connection that is being made, from the handshake on, and a query. -/
def login (capabilities : ℕ) (greeting : List UInt8) : List Act :=
  [.rest { Con.calm capabilities with stream := true, uv := .reading, status := .connecting }, .greet .calm,
    .alloc .calm 65536, .read greeting, .packet .calm, .read (okPacket 2 2), .packet .calm, .command .calm .query [0x53]]

theorem compression_negotiated_offered :
    Throughout Dialogue.step Dialogue.Receives (.start (Con.calm (2 ^ capabilityCompress)))
        (login (2 ^ capabilityCompress) compressingGreeting) ∧
      Along Dialogue.step Dialogue.Sends (.start (Con.calm (2 ^ capabilityCompress)))
        (login (2 ^ capabilityCompress) compressingGreeting) :=
  compression_negotiated (Con.calm_initial _) _
    ⟨.same rfl rfl rfl (.same rfl rfl), trivial, trivial, trivial, trivial, trivial, trivial, Command.noConfusion, trivial⟩
    (by decide +kernel)

/-- A connection that requests compression logs in at a server that does not offer it. -/
def connectCompressed : List SysEvent := [
  .call (.calm [.resolved none, .connected none]) .connect,
  .poll (.calm [.read 65536 (greetingPacket 2)]),
  .poll (.calm [.wrote none, .read 65536 (okPacket 2 2)])]

/-- Compression is not offered in the handshake that is read, and yet, once the login is accepted, commands are handed on as
compressed packets and bytes taken for compressed packets. -/
theorem compression_not_offered :
    ∃ con es, Initial con ∧ (run sysStep con es).commandStatus = .connected ∧
      (∃ payload, .packet .handshake payload .connecting ∈ (run sysStep con es).trace ∧ OffersCompress payload = false) ∧
      (∃ bytes, Action.write bytes ∈ newActions (run sysStep con es)
          (commandSend .calm (run sysStep con es) .query [0x53]).1 ∧ ¬ Framed false bytes) ∧
      (run sysStep con es).options.compression = true :=
  ⟨Con.calm (2 ^ capabilityCompress), connectCompressed, Con.calm_initial _, by decide +kernel,
    ⟨(greetingPacket 2).drop 4, by decide +kernel, by decide +kernel⟩,
    ⟨compressedFrame 0 (frame 0 [3, 0x53]) 0, by decide +kernel, by decide +kernel⟩, by decide +kernel⟩

end LibAttachSql
