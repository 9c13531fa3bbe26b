import LibAttachSql.Send

/-!
# What a write leaves alone

A write, plain or through OpenSSL, touches a handful of fields of a connection.  All others are as before.
-/

namespace LibAttachSql

open Lib

/-- A write leaves all but these fields of a connection alone. -/
def Con.WireOnly (con con' : Con) : Prop :=
  con' = { con with
    status := con'.status, errmsg := con'.errmsg, localErrcode := con'.localErrcode
    commandStatus := con'.commandStatus, nextPacketQueue := con'.nextPacketQueue
    pendingWrites := con'.pendingWrites, ssl := con'.ssl, trace := con'.trace }

namespace Con.WireOnly

variable {con con₁ con' : Con}

lemma refl : con.WireOnly con := rfl

lemma trans (h : con.WireOnly con₁) (h' : con₁.WireOnly con') : con.WireOnly con' := by
  unfold WireOnly at h h' ⊢
  rw [h] at h'
  exact h'

end Con.WireOnly
variable (env : Env) (con : Con)

lemma uvWrite_wireOnly {written : List UInt8 → Action} {bytes : List UInt8} {con' : Con} {failure : Option String}
    (hw : uvWrite env con written bytes = (con', failure)) : con.WireOnly con' := by
  unfold uvWrite at hw
  split_ifs at hw
  · split at hw <;> cases hw <;> rfl
  · cases hw
    rfl

lemma sslNetWrite_wireOnly (chunk : List UInt8) : con.WireOnly (sslNetWrite env con chunk) := by
  unfold sslNetWrite
  split
  · next con' hw => exact uvWrite_wireOnly env con hw
  · next con' name hw => exact (uvWrite_wireOnly env con hw).trans rfl

lemma sslDataWrite_wireOnly : con.WireOnly (sslDataWrite env con) := by
  unfold sslDataWrite
  cases con.ssl.writeBuffer with
  | none => exact .refl
  | some b =>
    dsimp only
    split_ifs
    · cases env.sslWrite con.ssl.calls (b.mem.slice b.bufferReadPtr b.unreadData) <;> rfl
    · exact .refl

lemma sslDataCheck_wireOnly : con.WireOnly (sslDataCheck env con) := by
  have hfold : ∀ (chunks : List (List UInt8)) (con : Con), con.WireOnly (chunks.foldl (sslNetWrite env) con) := by
    intro chunks
    induction chunks with
    | nil => exact fun con => .refl
    | cons chunk chunks ih => exact fun con => (sslNetWrite_wireOnly env con chunk).trans (ih _)
  have hmark : (sslDataWrite env con).WireOnly
      { sslDataWrite env con with ssl.calls := (sslDataWrite env con).ssl.calls + 1 } := rfl
  exact (sslDataWrite_wireOnly env con).trans (hmark.trans (hfold _ _))

lemma sslHandleError_wireOnly (reason : Option String) : con.WireOnly (sslHandleError env con reason) := by
  cases reason with
  | none => exact sslDataCheck_wireOnly env con
  | some reason => rfl

lemma sslResult_wireOnly (r : SslResult) : con.WireOnly (sslResult env con r) := by
  cases r with
  | done _ => exact .refl
  | wantRead => exact sslHandleError_wireOnly env con none
  | failed reason => exact sslHandleError_wireOnly env con (some reason)

lemma sslRun_wireOnly : con.WireOnly (sslRun env con) := by
  have hmark : con.WireOnly { con with ssl.calls := con.ssl.calls + 1 } := rfl
  unfold sslRun
  dsimp only
  split_ifs
  · exact hmark.trans ((sslResult_wireOnly env _ _).trans (sslDataCheck_wireOnly env _))
  · exact hmark.trans ((sslResult_wireOnly env _ _).trans (sslDataCheck_wireOnly env _))

lemma sslBufferWrite_wireOnly (parts : List (List UInt8)) : con.WireOnly (sslBufferWrite env con parts) := by
  unfold sslBufferWrite
  dsimp only
  split
  · rfl
  · next b _ =>
    have hfill : con.WireOnly
        ({ con with ssl.writeBuffer := some (parts.foldl BufferSt.append b) }.log (.sslBuffered parts.flatten)) := rfl
    exact hfill.trans (sslRun_wireOnly env _)

/-- **What a write leaves alone.** -/
lemma netWrite_wireOnly {parts : List (List UInt8)} {con' : Con} {failure : Option String}
    (hw : netWrite env con parts = (con', failure)) : con.WireOnly con' := by
  unfold netWrite at hw
  split_ifs at hw
  · cases hw
    exact sslBufferWrite_wireOnly env con parts
  · exact uvWrite_wireOnly env con hw

/-! ### TLS -/

/-- Whether TLS was asked for, whether it is enabled, and whether its handshake is done, so that what is sent goes through
OpenSSL. -/
def Con.tls (con : Con) : Bool × Bool × Bool := (con.ssl.ssl, con.ssl.enabled, con.ssl.handshakeDone)

lemma tls_of_ssl {con con' : Con} (h : con'.ssl = con.ssl) : con'.tls = con.tls :=
  congrArg (fun s : Ssl => (s.ssl, s.enabled, s.handshakeDone)) h

lemma uvWrite_ssl {written : List UInt8 → Action} {bytes : List UInt8} {con' : Con} {failure : Option String}
    (hw : uvWrite env con written bytes = (con', failure)) : con'.ssl = con.ssl := by
  unfold uvWrite at hw
  split_ifs at hw
  · split at hw <;> cases hw <;> rfl
  · cases hw
    rfl

lemma sslNetWrite_ssl (chunk : List UInt8) : (sslNetWrite env con chunk).ssl = con.ssl := by
  unfold sslNetWrite
  split
  · next con' hw => exact uvWrite_ssl env con hw
  · next con' name hw =>
    have hssl := uvWrite_ssl env con hw
    exact hssl

lemma sslDataWrite_tls : (sslDataWrite env con).tls = con.tls := by
  unfold sslDataWrite
  cases con.ssl.writeBuffer with
  | none => rfl
  | some b =>
    dsimp only
    split_ifs
    · cases env.sslWrite con.ssl.calls (b.mem.slice b.bufferReadPtr b.unreadData) <;> rfl
    · rfl

lemma sslDataCheck_tls : (sslDataCheck env con).tls = con.tls := by
  have hfold : ∀ (chunks : List (List UInt8)) (con : Con), (chunks.foldl (sslNetWrite env) con).tls = con.tls := by
    intro chunks
    induction chunks with
    | nil => exact fun con => rfl
    | cons chunk chunks ih =>
      exact fun con => (ih _).trans (tls_of_ssl (sslNetWrite_ssl env con chunk))
  exact (hfold _ _).trans (sslDataWrite_tls env con)

lemma sslResult_tls (r : SslResult) : (sslResult env con r).tls = con.tls := by
  cases r with
  | done _ => rfl
  | wantRead => exact sslDataCheck_tls env con
  | failed reason => rfl

/-- **TLS stays as it is while OpenSSL runs.** -/
lemma sslRun_tls : (sslRun env con).tls = con.tls := by
  unfold sslRun
  dsimp only
  split_ifs
  · exact (sslDataCheck_tls env _).trans (sslResult_tls env _ _)
  · exact (sslDataCheck_tls env _).trans (sslResult_tls env _ _)

/-- A write leaves TLS as it is. -/
lemma netWrite_tls {parts : List (List UInt8)} {con' : Con} {failure : Option String}
    (hw : netWrite env con parts = (con', failure)) : con'.tls = con.tls := by
  unfold netWrite at hw
  split_ifs at hw
  · cases hw
    unfold sslBufferWrite
    dsimp only
    split
    · rfl
    · exact sslRun_tls env _
  · exact tls_of_ssl (uvWrite_ssl env con hw)

lemma sendCompressedBuffers_tls (body : List UInt8) (uncompressed : ℕ) :
    (sendCompressedBuffers env con body uncompressed).tls = con.tls := by
  unfold sendCompressedBuffers
  dsimp only
  split
  · next con' hw =>
    have htls := netWrite_tls env _ hw
    exact htls
  · next con' name hw =>
    have htls := netWrite_tls env _ hw
    exact htls

lemma compressPacket_tls (body : List UInt8) : (compressPacket env con body).tls = con.tls := by
  unfold compressPacket
  dsimp only
  split_ifs
  · rfl
  · split
    · rfl
    · split_ifs
      · rfl
      · exact (sendCompressedBuffers_tls env _ _ _).trans rfl

lemma sendCompressedPacket_tls (data : List UInt8) (command : Option Command) :
    (sendCompressedPacket env con data command).tls = con.tls := by
  unfold sendCompressedPacket
  dsimp only
  by_cases h : con.uncompressedBufferLen < data.length + 4 + (if command.isSome then 1 + con.writeBufferExtra else 0) ∧
      (env.malloc.get (enlarge (data.length + 4 + if command.isSome then 1 + con.writeBufferExtra else 0))).isNone
  · rw [if_pos h]
    rfl
  · rw [if_neg h]
    by_cases hlong : minimumCompressSize < data.length
    · rw [if_pos hlong]
      exact compressPacket_tls env _ _
    · rw [if_neg hlong]
      exact sendCompressedBuffers_tls env _ _ _

/-! ### Compressed packets -/

/-- A compressed packet leaves all but these fields of a connection alone. -/
def Con.SendOnly (con con' : Con) : Prop :=
  con' = { con with
    status := con'.status, errmsg := con'.errmsg, localErrcode := con'.localErrcode
    commandStatus := con'.commandStatus, nextPacketQueue := con'.nextPacketQueue
    pendingWrites := con'.pendingWrites, ssl := con'.ssl, trace := con'.trace
    writeBufferExtra := con'.writeBufferExtra, uncompressedBufferLen := con'.uncompressedBufferLen
    compressedBufferLen := con'.compressedBufferLen, compressedPacketHeader := con'.compressedPacketHeader
    compressedPacketNumber := con'.compressedPacketNumber }

namespace Con.SendOnly

variable {con con₁ con' : Con}

lemma refl : con.SendOnly con := rfl

lemma trans (h : con.SendOnly con₁) (h' : con₁.SendOnly con') : con.SendOnly con' := by
  unfold SendOnly at h h' ⊢
  rw [h] at h'
  exact h'

/-- What comes before may touch these fields too. -/
lemma after (h' : con₁.SendOnly con') (h : con.SendOnly con₁) : con.SendOnly con' := h.trans h'

lemma ite {p : Prop} [Decidable p] {con₂ : Con} (ht : con.SendOnly con₁) (hf : con.SendOnly con₂) :
    con.SendOnly (if p then con₁ else con₂) := by
  split_ifs
  · exact ht
  · exact hf

end Con.SendOnly

lemma Con.WireOnly.sendOnly {con con' : Con} (h : con.WireOnly con') : con.SendOnly con' := by
  unfold WireOnly at h
  unfold SendOnly
  rw [h]

lemma sendCompressedBuffers_sendOnly (body : List UInt8) (uncompressed : ℕ) :
    con.SendOnly (sendCompressedBuffers env con body uncompressed) := by
  have hstart : con.SendOnly
      { con with
        compressedPacketHeader := packInt3 body.length ++ [con.compressedPacketNumber] ++ packInt3 uncompressed
        commandStatus := .readResponse } := rfl
  unfold sendCompressedBuffers
  dsimp only
  split
  · next con' hw => exact hstart.trans (netWrite_wireOnly env _ hw).sendOnly
  · next con' name hw => exact hstart.trans ((netWrite_wireOnly env _ hw).sendOnly.trans rfl)

lemma compressPacket_sendOnly (body : List UInt8) : con.SendOnly (compressPacket env con body) := by
  have hgrown : con.SendOnly
      { con with compressedBufferLen := enlarged con.compressedBufferLen (env.compressBound body.length) } := rfl
  unfold compressPacket
  dsimp only
  refine .ite rfl ?_
  split
  · rfl
  · exact .ite rfl (hgrown.trans (sendCompressedBuffers_sendOnly env _ _ _))

/-- **What a compressed packet leaves alone.** -/
lemma sendCompressedPacket_sendOnly (data : List UInt8) (command : Option Command) :
    con.SendOnly (sendCompressedPacket env con data command) := by
  unfold sendCompressedPacket
  dsimp only
  refine .ite rfl (.ite ?_ ?_)
  · exact (compressPacket_sendOnly env _ _).after rfl
  · exact (sendCompressedBuffers_sendOnly env _ _ _).after rfl

/-! ### Work buffers -/

/-- The recorded sizes of the two work buffers. -/
def Con.workSizes (con : Con) : ℕ × ℕ := (con.uncompressedBufferLen, con.compressedBufferLen)

lemma Con.WireOnly.workSizes {con con' : Con} (h : con.WireOnly con') : con'.workSizes = con.workSizes := by
  have hsizes := congrArg Con.workSizes h
  exact hsizes

lemma sendCompressedBuffers_workSizes (body : List UInt8) (uncompressed : ℕ) :
    (sendCompressedBuffers env con body uncompressed).workSizes = con.workSizes := by
  unfold sendCompressedBuffers
  dsimp only
  split
  · next con' hw => exact (netWrite_wireOnly env _ hw).workSizes
  · next con' name hw =>
    have h := (netWrite_wireOnly env _ hw).workSizes
    exact h

lemma compressPacket_workSizes (body : List UInt8) :
    (compressPacket env con body).workSizes =
      if con.compressedBufferLen < env.compressBound body.length ∧
          (env.malloc.get (enlarge (env.compressBound body.length))).isNone then con.workSizes
      else (con.uncompressedBufferLen, enlarged con.compressedBufferLen (env.compressBound body.length)) := by
  unfold compressPacket
  dsimp only
  split_ifs
  · rfl
  · split
    · rfl
    · split_ifs
      · rfl
      · rw [sendCompressedBuffers_workSizes]
        rfl

/-! ### The queue of expected packets -/

/-- A push touches the queue only. -/
lemma packetQueuePush_frame (t : PacketType) :
    ∃ queue size bytes trace, packetQueuePush env con t =
      { con with
        nextPacketQueue := queue, nextPacketQueueSize := size, nextPacketQueueBytes := bytes, trace := trace } := by
  have hstore : ∀ size bytes, ∃ queue trace,
      packetQueueStore { con with nextPacketQueueSize := size, nextPacketQueueBytes := bytes } t =
        { con with
          nextPacketQueue := queue, nextPacketQueueSize := size, nextPacketQueueBytes := bytes, trace := trace } :=
    fun size bytes => by
      unfold packetQueueStore
      split_ifs
      · exact ⟨_, _, rfl⟩
      · exact ⟨_, _, rfl⟩
  unfold packetQueuePush
  split_ifs
  · cases env.malloc.get (4 * defaultPacketQueueSize) with
    | none => exact ⟨_, _, _, _, rfl⟩
    | some _ =>
      obtain ⟨queue, trace, h⟩ := hstore defaultPacketQueueSize (4 * defaultPacketQueueSize)
      exact ⟨_, _, _, _, h⟩
  · cases env.malloc.get (con.nextPacketQueueSize * 2) with
    | none => exact ⟨_, _, _, _, rfl⟩
    | some _ =>
      obtain ⟨queue, trace, h⟩ := hstore (con.nextPacketQueueSize * 2) (con.nextPacketQueueSize * 2)
      exact ⟨_, _, _, _, h⟩
  · obtain ⟨queue, trace, h⟩ := hstore con.nextPacketQueueSize con.nextPacketQueueBytes
    exact ⟨_, _, _, _, h⟩

end LibAttachSql
