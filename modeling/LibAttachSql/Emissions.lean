import LibAttachSql.ActFrames
import LibAttachSql.CompressedSend
import LibAttachSql.SendFailures

/-!
# What goes out

Bytes are handed on, to libuv or to OpenSSL, while a handshake is answered or a command is sent, and at no other time.
This module follows the functions of the source: `Con.Emits P` says that all that is done from one connection to another,
as far as it is seen outside, has the property `P`.  What an act hands on is then read off the few functions that write.
-/

namespace LibAttachSql

open Lib

/-! ### What may be seen -/

/-- Actions that hand nothing on and escape no string, and belong to no command, no request for a further result and no
packet. -/
def Action.inward : Action → Bool
  | .expanded _ => false
  | a => a.still false

/-- Actions that hand bytes on: in clear text, to OpenSSL, or out of it. -/
def Action.outgoing : Action → Bool
  | .write _ | .sslBuffered _ | .encrypted _ => true
  | _ => false

/-- How a write hands bytes on. -/
def Con.outgoing (con : Con) (bytes : List UInt8) : Action :=
  if con.ssl.handshakeDone then .sslBuffered bytes else .write bytes

/-- All that is done from one connection to the other is inward or has the property, and the SSL object stays. -/
structure Con.Emits (P : Action → Prop) (con con' : Con) : Prop where
  ssl_eq : con'.ssl.ssl = con.ssl.ssl
  trace_eq : ∃ x, con'.trace = x ++ con.trace ∧ ∀ a ∈ x, a.inward = true ∨ P a

/-- Nothing of TLS changes, and all that is done is inward, but for the report of a status word, if there is one. -/
structure Con.Tells (s : Option ℕ) (con con' : Con) : Prop where
  ssl_eq : con'.ssl = con.ssl
  trace_eq : ∃ x y, con'.trace = x ++ ((s.map Action.reported).toList ++ (y ++ con.trace)) ∧
    (∀ a ∈ x, a.inward = true) ∧ ∀ a ∈ y, a.inward = true

namespace Con.Emits

variable {P Q : Action → Prop} {con con₁ con₂ con' : Con}

lemma trans (h : con.Emits P con₁) (h' : con₁.Emits P con') : con.Emits P con' := by
  obtain ⟨x, hx, hP⟩ := h.trace_eq
  obtain ⟨y, hy, hP'⟩ := h'.trace_eq
  refine ⟨h'.ssl_eq.trans h.ssl_eq, y ++ x, by rw [hy, hx, List.append_assoc], fun a ha => ?_⟩
  exact (List.mem_append.mp ha).elim (hP' a) (hP a)

/-- What comes before. -/
lemma after (h' : con₁.Emits P con') (h : con.Emits P con₁) : con.Emits P con' := h.trans h'

lemma same (hs : con'.ssl.ssl = con.ssl.ssl) (ht : con'.trace = con.trace) : con.Emits P con' :=
  ⟨hs, [], ht, fun _ ha => absurd ha List.not_mem_nil⟩

lemma refl : con.Emits P con := same rfl rfl

/-- One action. -/
lemma action {a : Action} (hs : con'.ssl.ssl = con.ssl.ssl) (ht : con'.trace = a :: con.trace)
    (ha : a.inward = true ∨ P a) : con.Emits P con' :=
  ⟨hs, [a], ht, List.forall_mem_singleton.mpr ha⟩

lemma sendFailed (site : FailSite) (errcode : Ret) : con.Emits P (con.sendFailed site errcode) :=
  action (a := .failed site con.status con.serverErrno) rfl rfl (.inl rfl)

lemma of_does {R : Control → List Action → Control → Prop} (h : Does R con con')
    (hR : ∀ {c x c'}, R c x c' → ∀ a ∈ x, a.inward = true ∨ P a) (hs : con'.ssl.ssl = con.ssl.ssl) :
    con.Emits P con' := by
  obtain ⟨x, hx, h⟩ := h
  exact ⟨hs, x, hx, hR h⟩

lemma ite {p : Prop} [Decidable p] (ht : p → con.Emits P con₁) (hf : ¬ p → con.Emits P con₂) :
    con.Emits P (if p then con₁ else con₂) := by
  split_ifs with h
  · exact ht h
  · exact hf h

lemma mono (h : con.Emits P con') (hPQ : ∀ a, P a → Q a) : con.Emits Q con' := by
  obtain ⟨x, hx, hP⟩ := h.trace_eq
  exact ⟨h.ssl_eq, x, hx, fun a ha => (hP a ha).imp_right (hPQ a)⟩

lemma seen (h : con.Emits P con') : ∀ a ∈ newActions con con', a.inward = true ∨ P a := by
  obtain ⟨x, hx, hP⟩ := h.trace_eq
  rwa [newActions_eq hx]

end Con.Emits

namespace Con.Tells

variable {P : Action → Prop} {s : Option ℕ} {con con₁ con₂ con' : Con}

lemma same (hs : con'.ssl = con.ssl) (ht : con'.trace = con.trace) : con.Tells none con' :=
  ⟨hs, [], [], ht, fun _ ha => absurd ha List.not_mem_nil, fun _ ha => absurd ha List.not_mem_nil⟩

lemma refl : con.Tells none con := same rfl rfl

/-- Inward actions. -/
lemma actions {x : List Action} (hs : con'.ssl = con.ssl) (ht : con'.trace = x ++ con.trace)
    (hx : ∀ a ∈ x, a.inward = true) : con.Tells none con' :=
  ⟨hs, x, [], ht, hx, fun _ ha => absurd ha List.not_mem_nil⟩

/-- One action. -/
lemma action {a : Action} (hs : con'.ssl = con.ssl) (ht : con'.trace = a :: con.trace) (ha : a.inward = true) :
    con.Tells none con' :=
  actions (x := [a]) hs ht (List.forall_mem_singleton.mpr ha)

/-- The report. -/
lemma reported {s : ℕ} (hs : con'.ssl = con.ssl) (ht : con'.trace = .reported s :: con.trace) : con.Tells (some s) con' :=
  ⟨hs, [], [], ht, fun _ ha => absurd ha List.not_mem_nil, fun _ ha => absurd ha List.not_mem_nil⟩

/-- Something inward before. -/
lemma after (h' : con₁.Tells s con') (h : con.Tells none con₁) : con.Tells s con' := by
  obtain ⟨x, y, ht, hx, hy⟩ := h.trace_eq
  obtain ⟨x', y', ht', hx', hy'⟩ := h'.trace_eq
  rw [Option.map_none, Option.toList_none, List.nil_append] at ht
  refine ⟨h'.ssl_eq.trans h.ssl_eq, x', y' ++ (x ++ y), by simp only [ht', ht, List.append_assoc], hx', fun a ha => ?_⟩
  rcases List.mem_append.mp ha with ha | ha
  · exact hy' a ha
  · exact (List.mem_append.mp ha).elim (hx a) (hy a)

/-- Something inward behind. -/
lemma trans (h : con.Tells s con₁) (h' : con₁.Tells none con') : con.Tells s con' := by
  obtain ⟨x, y, ht, hx, hy⟩ := h.trace_eq
  obtain ⟨x', y', ht', hx', hy'⟩ := h'.trace_eq
  rw [Option.map_none, Option.toList_none, List.nil_append] at ht'
  refine ⟨h'.ssl_eq.trans h.ssl_eq, x' ++ (y' ++ x), y, by simp only [ht', ht, List.append_assoc], fun a ha => ?_, hy⟩
  rcases List.mem_append.mp ha with ha | ha
  · exact hx' a ha
  · exact (List.mem_append.mp ha).elim (hy' a) (hx a)

lemma ite {p : Prop} [Decidable p] (ht : p → con.Tells s con₁) (hf : ¬ p → con.Tells s con₂) :
    con.Tells s (if p then con₁ else con₂) := by
  split_ifs with h
  · exact ht h
  · exact hf h

lemma emits (h : con.Tells s con') (hP : ∀ s, P (.reported s)) : con.Emits P con' := by
  obtain ⟨x, y, ht, hx, hy⟩ := h.trace_eq
  refine ⟨congrArg Ssl.ssl h.ssl_eq, x ++ ((s.map Action.reported).toList ++ y), by simp only [ht, List.append_assoc],
    fun a ha => ?_⟩
  rcases List.mem_append.mp ha with ha | ha
  · exact .inl (hx a ha)
  rcases List.mem_append.mp ha with ha | ha
  · obtain ⟨s, -, rfl⟩ := Option.map_eq_some_iff.mp (Option.mem_toList.mp ha)
    exact .inr (hP s)
  · exact .inl (hy a ha)

/-- Nothing is reported. -/
lemma emits_none (h : con.Tells none con') : con.Emits P con' := by
  obtain ⟨x, y, ht, hx, hy⟩ := h.trace_eq
  rw [Option.map_none, Option.toList_none, List.nil_append, ← List.append_assoc] at ht
  refine ⟨congrArg Ssl.ssl h.ssl_eq, x ++ y, ht, fun a ha => .inl ?_⟩
  exact (List.mem_append.mp ha).elim (hx a) (hy a)

end Con.Tells

variable {P : Action → Prop} (env : Env) (con : Con)

/-! ### Writes -/

section Writes

variable (hE : ∀ bytes, P (.encrypted bytes))

include hE

/-- OpenSSL hands out what it made of what it was given. -/
lemma sslRun_emits : con.Emits P (sslRun env con) := by
  refine .of_does (sslRun_does env con) (fun {c x c'} h => ?_) (congrArg Prod.fst (sslRun_tls env con))
  induction h with
  | refl => exact fun _ ha => absurd ha List.not_mem_nil
  | snoc _ hm ih =>
    refine fun a ha => (List.mem_append.mp ha).elim (fun ha => ?_) (ih a)
    cases hm with
    | encrypted bytes =>
      rw [List.mem_singleton.mp ha]
      exact .inr (hE bytes)
    | fault =>
      rw [List.mem_singleton.mp ha]
      exact .inl rfl
    | fail site _ =>
      rw [List.mem_singleton.mp ha]
      exact .inl rfl

/-- What a write emits: its parts in one piece. -/
lemma netWrite_emits {parts : List (List UInt8)} {con' : Con} {failure : Option String}
    (hw : netWrite env con parts = (con', failure)) (hP : P (con.outgoing parts.flatten)) : con.Emits P con' := by
  unfold netWrite at hw
  unfold Con.outgoing at hP
  split_ifs at hw hP with hdone
  · cases hw
    unfold sslBufferWrite
    dsimp only
    split
    · exact .action rfl rfl (.inl rfl)
    · exact (sslRun_emits env _ hE).after (.action (a := .sslBuffered parts.flatten) rfl rfl (.inr hP))
  · unfold uvWrite at hw
    split_ifs at hw
    · split at hw <;> cases hw
      · exact .action (a := .write parts.flatten) rfl rfl (.inr hP)
      · exact .refl
    · cases hw
      exact .action rfl rfl (.inl rfl)

lemma sendCompressedBuffers_emits (body : List UInt8) (uncompressed : ℕ)
    (hP : ∀ number, P (con.outgoing (compressedFrame number body uncompressed))) :
    con.Emits P (sendCompressedBuffers env con body uncompressed) := by
  have hplain : P (con.outgoing
      [packInt3 body.length ++ [con.compressedPacketNumber] ++ packInt3 uncompressed, body].flatten) := by
    rw [List.flatten_cons, List.flatten_singleton]
    exact hP _
  unfold sendCompressedBuffers
  dsimp only
  split
  · next con' hw => exact (netWrite_emits env _ hE hw hplain).after (.same rfl rfl)
  · next con' name hw => exact ((netWrite_emits env _ hE hw hplain).trans (.sendFailed _ _)).after (.same rfl rfl)

lemma compressPacket_emits (body : List UInt8)
    (hP : ∀ number uncompressed body, P (con.outgoing (compressedFrame number body uncompressed))) :
    con.Emits P (compressPacket env con body) := by
  have hfit : con.Emits P
      { con with compressedBufferLen := enlarged con.compressedBufferLen (env.compressBound body.length) } := .same rfl rfl
  unfold compressPacket
  dsimp only
  split_ifs
  · exact .sendFailed _ _
  · split
    · exact hfit.trans (.sendFailed _ _)
    · split_ifs
      · exact hfit.trans (.sendFailed _ _)
      · refine hfit.trans (sendCompressedBuffers_emits env _ hE _ _ fun number => ?_)
        exact hP number _ _

/-- What the compressed path emits: a stored packet, when there is little to send, or any packet. -/
lemma sendCompressedPacket_emits (data : List UInt8) (command : Option Command)
    (hshort : data.length ≤ minimumCompressSize → ∀ number,
      P (con.outgoing (compressedFrame number (uncompressedBody con data command) 0)))
    (hlong : minimumCompressSize < data.length → ∀ number uncompressed body,
      P (con.outgoing (compressedFrame number body uncompressed))) :
    con.Emits P (sendCompressedPacket env con data command) := by
  unfold sendCompressedPacket
  dsimp only
  refine .ite (fun _ => .action rfl rfl (.inl rfl)) fun _ => .ite (fun hl => ?_) fun hs => ?_
  · refine .after (compressPacket_emits env _ hE _ ?_) (.same rfl rfl)
    exact hlong hl
  · refine .after (sendCompressedBuffers_emits env _ hE _ _ ?_) (.same rfl rfl)
    exact hshort (Nat.not_lt.mp hs)

lemma startTls_emits : con.Emits P (startTls env con) := by
  have hmark : con.Emits P { con with ssl.calls := con.ssl.calls + 1 } := .same rfl rfl
  exact .ite (fun _ => (hmark.trans (sslRun_emits env _ hE)).trans (.same rfl rfl)) fun _ => .refl

/-- **What sending a packet emits**, behind the start of TLS: the packet, or it in a compressed one. -/
lemma sendData_emits (data : List UInt8)
    (hplain : ¬ ((startTls env con).wantsCompress = true ∧ (startTls env con).status ≠ .connecting) →
      ∀ number, P ((startTls env con).outgoing (frame number data)))
    (hcompressed : (startTls env con).wantsCompress = true ∧ (startTls env con).status ≠ .connecting →
      (data.length ≤ minimumCompressSize → ∀ outer number,
        P ((startTls env con).outgoing (compressedFrame outer (frame number data) 0))) ∧
      (minimumCompressSize < data.length → ∀ number uncompressed body,
        P ((startTls env con).outgoing (compressedFrame number body uncompressed)))) :
    con.Emits P (sendData env con data) := by
  refine (startTls_emits env con hE).trans ?_
  unfold sendData
  dsimp only
  generalize startTls env con = con₁ at hplain hcompressed ⊢
  refine .ite (fun hc => ?_) fun hc => ?_
  · obtain ⟨hshort, hlong⟩ := hcompressed hc
    refine .after (sendCompressedPacket_emits env (headed con₁ data) hE data none (fun hs number => ?_) ?_) (.same rfl rfl)
    · exact hshort hs number _
    · exact hlong
  · have hsend : P (con₁.outgoing [packInt3 data.length ++ [con₁.packetNumber + 1], data].flatten) := by
      rw [List.flatten_cons, List.flatten_singleton]
      exact hplain hc _
    split
    · next con' hw => exact (netWrite_emits env _ hE hw hsend).after (.same rfl rfl)
    · next con' name hw => exact ((netWrite_emits env _ hE hw hsend).trans (.sendFailed _ _)).after (.same rfl rfl)

omit hE in
/-- Sending a packet leaves alone what its number, its header and its way leave alone. -/
lemma sendData_keeps {α : Type} (f : Con → α) (hsend : ∀ {con con' : Con}, con.SendOnly con' → f con' = f con)
    (hhead : ∀ con data, f (headed con data) = f con) (data : List UInt8) : f (sendData env con data) = f con := by
  have hstart := hsend (startTls_sendOnly env con)
  have hawait : ∀ con₁ : Con, con₁.SendOnly { con₁ with commandStatus := .readResponse } := fun _ => rfl
  unfold sendData
  dsimp only
  generalize startTls env con = con₁ at hstart ⊢
  rw [← hstart, ← hhead con₁ data]
  split_ifs
  · exact hsend (sendCompressedPacket_sendOnly env (headed con₁ data) data none)
  · split
    · next con' hw =>
      exact hsend ((hawait (headed con₁ data)).trans (netWrite_wireOnly env _ hw).sendOnly)
    · next con' name hw =>
      exact hsend ((hawait (headed con₁ data)).trans ((netWrite_wireOnly env _ hw).sendOnly.trans rfl))

end Writes

/-! ### Packets that are read -/

section Readers

lemma Control.Pushed.inward {t : PacketType} {c c' : Control} {x : List Action} (h : Control.Pushed t c x c') :
    ∀ a ∈ x, a.inward = true := by
  cases h with
  | pushed _ _ => exact fun _ ha => absurd ha List.not_mem_nil
  | refused _ => exact List.forall_mem_singleton.mpr rfl
  | fault _ _ => exact List.forall_mem_singleton.mpr rfl

lemma packetQueuePush_ssl (t : PacketType) : (packetQueuePush env con t).ssl = con.ssl := by
  obtain ⟨_, _, _, _, h⟩ := packetQueuePush_frame env con t
  rw [h]

lemma packetQueuePush_tells (t : PacketType) : con.Tells none (packetQueuePush env con t) := by
  obtain ⟨x, hx, hp⟩ := packetQueuePush_does env con t
  exact .actions (packetQueuePush_ssl env con t) hx hp.inward

lemma packetReadEnd_tells : con.Tells none (packetReadEnd con) := .same rfl rfl

/-- The status word that is read from an OK packet. -/
def Con.okStatus (con : Con) : ℕ :=
  let p := con.buf.bufferReadPtr + 1
  let p := p + (unpackLength con.buf.mem p).bytes
  unpackInt2 con.buf.mem (p + (unpackLength con.buf.mem p).bytes)

/-- The status word that is read from an EOF packet. -/
def Con.eofStatus (con : Con) : ℕ := unpackInt2 con.buf.mem (con.buf.bufferReadPtr + 3)

/-- The status word that is read from a response, if there is one. -/
def Con.responseStatus (con : Con) : Option ℕ :=
  if con.peekByte 0 = 0x00 then some con.okStatus
  else if con.peekByte 0 = 0xff then none
  else if con.peekByte 0 = 0xfe then some con.eofStatus
  else none

lemma packetReadOk_tells : con.Tells (some con.okStatus) (packetReadOk con) := by
  obtain ⟨con₁, h₁⟩ : ∃ con₁ : Con, con₁ = con.log (.reported con.okStatus) := ⟨_, rfl⟩
  have hreport : con.Tells (some con.okStatus) con₁ := by
    rw [h₁]
    exact .reported rfl rfl
  refine hreport.trans (.action (a := .answered .ok con.status con.commandStatus) ?_ ?_ rfl)
  · rw [h₁]
    rfl
  · rw [h₁]
    rfl

lemma commandEof_tells : con.Tells none (commandEof con) :=
  .action (a := .answered .eof con.status con.commandStatus) rfl rfl rfl

lemma packetReadEof_tells : con.Tells (some con.eofStatus) (packetReadEof env con) := by
  have hend : ∀ (con₁ : Con) t, con₁.Tells none (packetReadEnd (packetQueuePush env con₁ t)) := fun con₁ t =>
    (packetQueuePush_tells env con₁ t).trans (packetReadEnd_tells _)
  unfold packetReadEof
  dsimp only
  generalize h₁ : Con.log _ (.reported (unpackInt2 con.buf.mem (con.buf.bufferReadPtr + 1 + 2))) = con₁
  have hreport : con.Tells (some con.eofStatus) con₁ := by
    rw [← h₁]
    exact .reported rfl rfl
  refine hreport.trans ?_
  split
  · exact (hend _ _).after (.same rfl rfl)
  · split
    · exact .action rfl rfl rfl
    · exact .ite (fun _ => (hend _ _).after (.same rfl rfl)) fun _ => commandEof_tells con₁
  · exact commandEof_tells con₁

lemma header_tells : con.Tells none { packetQueuePush env con .column with commandStatus := .readColumn } :=
  (packetQueuePush_tells env con .column).trans (.same rfl rfl)

/-- **What reading a response tells.** -/
lemma packetReadResponse_tells : con.Tells con.responseStatus (packetReadResponse env con) := by
  unfold packetReadResponse Con.responseStatus
  split_ifs
  · exact packetReadOk_tells con
  · exact .action (a := .answered (.err (packetReadErr con).serverErrno) con.status con.commandStatus) rfl rfl rfl
  · exact packetReadEof_tells env con
  · unfold packetReadHeader
    dsimp only
    exact (header_tells env _).after (.same rfl rfl)

lemma prepareOkNext_tells (m n : ℕ) : con.Tells none (prepareOkNext env con m n) :=
  .ite (fun _ => (packetQueuePush_tells env con _).trans (.same rfl rfl)) fun _ =>
    .ite (fun _ => (packetQueuePush_tells env con _).trans (.same rfl rfl)) fun _ => commandEof_tells con

/-- The status word that is read from the answer to a prepare. -/
def Con.prepareStatus (con : Con) : Option ℕ := if con.peekByte 0 ≠ 0x00 then con.responseStatus else none

lemma packetReadPrepareResponse_tells : con.Tells con.prepareStatus (packetReadPrepareResponse env con) := by
  unfold packetReadPrepareResponse Con.prepareStatus
  split_ifs
  · exact packetReadResponse_tells env con
  · split
    · exact .action rfl rfl rfl
    · exact ((prepareOkNext_tells env _ _ _).trans (packetReadEnd_tells _)).after (.same rfl rfl)

lemma packetReadPrepareParameter_tells : con.Tells none (packetReadPrepareParameter env con) := by
  unfold packetReadPrepareParameter
  split
  · exact .action rfl rfl rfl
  · split
    · exact .action rfl rfl rfl
    · exact (packetQueuePush_tells env _ _).after (.same rfl rfl)

lemma packetReadPrepareColumn_tells : con.Tells none (packetReadPrepareColumn env con) := by
  unfold packetReadPrepareColumn
  split
  · exact .action rfl rfl rfl
  · exact (packetQueuePush_tells env _ _).after (.same rfl rfl)

lemma packetReadColumn_tells : con.Tells none (packetReadColumn env con) := by
  unfold packetReadColumn
  split
  · exact .action rfl rfl rfl
  · exact (packetQueuePush_tells env _ _).after (.same rfl rfl)

/-- The status word that is read in place of a row. -/
def Con.rowStatus (con : Con) : Option ℕ := if con.peekByte 0 = 0xfe then con.responseStatus else none

lemma packetReadRow_tells : con.Tells con.rowStatus (packetReadRow env con) := by
  unfold packetReadRow Con.rowStatus
  split_ifs
  · exact (packetReadResponse_tells env { con with result.rowData := none, result.rowLength := 0 }).after (.same rfl rfl)
  · exact .action (a := .answered .row con.status con.commandStatus) rfl rfl rfl

/-- The status word that the reader of this type of packet takes from it. -/
def Con.readStatus (con : Con) : PacketType → Option ℕ
  | .response => con.responseStatus
  | .prepareResponse => con.prepareStatus
  | .row | .stmtRow => con.rowStatus
  | .handshake => some (handshakeFields con).serverStatus
  | .handshakeSsl | .prepareParameter | .prepareColumn | .column => none

/-- A packet at whose reading the client has not logged in yet. -/
def PacketType.greets (t : PacketType) : Bool := t = .handshake ∨ t = .handshakeSsl

lemma PacketType.ne_of_greets {t : PacketType} (h : t.greets = false) : t ≠ .handshake ∧ t ≠ .handshakeSsl :=
  not_or.mp (of_decide_eq_false h)

/-- **What reading a packet tells**, which is no handshake. -/
theorem packetDispatch_tells {t : PacketType} (ht : t ≠ .handshake ∧ t ≠ .handshakeSsl) :
    con.Tells (con.readStatus t) (packetDispatch env con t).con := by
  cases t with
  | handshake => exact absurd rfl ht.1
  | handshakeSsl => exact absurd rfl ht.2
  | response => exact packetReadResponse_tells env con
  | prepareResponse => exact packetReadPrepareResponse_tells env con
  | prepareParameter => exact packetReadPrepareParameter_tells env con
  | prepareColumn => exact packetReadPrepareColumn_tells env con
  | column => exact packetReadColumn_tells env con
  | row => exact packetReadRow_tells env con
  | stmtRow => exact packetReadRow_tells env con

/-- **What opening a packet emits**: that it is accepted. -/
lemma packetReady_emits (b : BufferSt) (t : PacketType) (seq : UInt8) (n : ℕ)
    (hP : P (.packet t (b.mem.slice (b.bufferReadPtr + 4) n) con.status)) : con.Emits P (packetReady con b t seq n) := by
  refine ⟨rfl, [.packet t (b.mem.slice (b.bufferReadPtr + 4) n) con.status,
    .checked false (countPacket con t).packetNumber seq true], rfl, ?_⟩
  exact List.forall_mem_cons.mpr ⟨.inr hP, List.forall_mem_singleton.mpr (.inl rfl)⟩

/-- A packet that was handed to its reader is recorded. -/
lemma packet_mem_dispatch (b : BufferSt) (t : PacketType) (seq : UInt8) (n : ℕ) :
    .packet t (b.mem.slice (b.bufferReadPtr + 4) n) con.status ∈
      (packetDispatch env (packetReady con b t seq n) t).con.trace := by
  obtain ⟨x, hx, -⟩ := packetDispatch_does env (packetReady con b t seq n) t
  rw [hx]
  exact List.mem_append_right x (List.mem_cons_self ..)

end Readers

/-! ### Handshakes -/

section Handshakes

lemma fields_ssl (version scramble : List UInt8) (thread capabilities s : ℕ) (charset : UInt8) :
    ({ con with
      serverVersion := version
      threadId := thread
      serverCapabilities := capabilities
      charset := charset
      serverStatus := s
      scrambleBuffer := scramble }.log (.reported s)).ssl = con.ssl := rfl

lemma handshakeFields_tells : con.Tells (some (handshakeFields con).serverStatus) (handshakeFields con) :=
  .reported (fields_ssl con _ _ _ _ _ _) (handshakeFields_trace con)

lemma checkOldAuth_tells : con.Tells none (checkOldAuth con) :=
  .ite (fun _ => .refl) fun _ => .action (a := .failed .noOldAuth con.status con.serverErrno) rfl rfl rfl

/-- The connection that a handshake of protocol 10 is answered on. -/
def handshakeRead (con : Con) : Con := packetReadEnd (checkOldAuth (handshakeFields con))

lemma handshakeRead_tells : con.Tells (some (handshakeFields con).serverStatus) (handshakeRead con) :=
  (handshakeFields_tells con).trans ((checkOldAuth_tells _).trans (packetReadEnd_tells _))

lemma packetReadHandshake_ten (h : con.peekByte 0 = 10) :
    packetReadHandshake env con = handshakeResponse env (handshakeRead con) := by
  have herr : con.peekByte 0 ≠ 0xff := by rw [h]; decide
  unfold packetReadHandshake
  dsimp only
  rw [if_neg herr, if_neg (not_not_intro h)]
  rfl

/-- Once TLS is asked for it is started before anything is sent. -/
lemma startTls_done (h : con.ssl.enabled = true) : (startTls env con).ssl.handshakeDone = true := by
  unfold startTls
  split_ifs with hcase
  · rfl
  · by_contra hdone
    exact hcase ⟨h, hdone⟩

lemma sendWriteBuffer_emits {payload : List UInt8}
    (h : ∀ m, { con with writeBuffer := m }.Emits P (sendData env { con with writeBuffer := m } payload)) :
    con.Emits P (sendWriteBuffer env con payload) := (h _).after (.same rfl rfl)

/-- The login is sent, and its answer expected; or there is none. -/
lemma handshakeLogin_emits (hsend : ∀ payload, con.Emits P (sendWriteBuffer env con payload)) :
    con.Emits P (handshakeLogin env con) := by
  have hlogin := fun payload => (hsend payload).trans (packetQueuePush_tells env _ .response).emits_none
  unfold handshakeLogin
  split
  · exact .action rfl rfl (.inl rfl)
  · exact hlogin _
  · split
    · exact .action rfl rfl (.inl rfl)
    · exact hlogin _

/-- The connection the login is sent on: TLS is enabled, and the marker is off the queue again. -/
def tlsEnabled (con : Con) : Con := packetQueuePop { con with ssl.enabled := true }

/-- The connection behind the short request for TLS, with the marker pushed. -/
def tlsRequested (env : Env) (con : Con) : Con :=
  packetQueuePush env (sendWriteBuffer env con (handshakeHead con)) .handshakeSsl

lemma handshakeResponse_eq : handshakeResponse env con =
    if con.ssl.ssl then
      if ¬ con.serverCapabilities.testBit capabilitySsl then
        { con.sendFailed .sslRefused .netSslError with
          errmsg := "SSL auth not supported enabled on server", status := .connectFailed }
      else if packetQueuePeek con = some .handshakeSsl then handshakeLogin env (tlsEnabled con)
      else if packetQueuePeek (tlsRequested env con) = some .handshakeSsl then
        handshakeLogin env (tlsEnabled (tlsRequested env con))
      else (tlsRequested env con).log .fault
    else handshakeLogin env con := by
  unfold handshakeResponse
  dsimp only
  by_cases hpeek : packetQueuePeek con = some .handshakeSsl
  · simp only [if_pos hpeek]
    rfl
  · simp only [if_neg hpeek]
    rfl

/-- **What answering a handshake emits**: the short request for TLS, and the login behind it, or the login alone. -/
theorem handshakeResponse_emits (hplain : con.ssl.ssl = false → con.Emits P (handshakeLogin env con))
    (hdirect : con.ssl.ssl = true → con.Emits P (handshakeLogin env (tlsEnabled con)))
    (hrequest : con.ssl.ssl = true → con.Emits P (sendWriteBuffer env con (handshakeHead con)))
    (hbehind : con.ssl.ssl = true →
      (tlsRequested env con).Emits P (handshakeLogin env (tlsEnabled (tlsRequested env con)))) :
    con.Emits P (handshakeResponse env con) := by
  have hrequested : con.ssl.ssl = true → con.Emits P (tlsRequested env con) := fun h =>
    (hrequest h).trans (packetQueuePush_tells env _ .handshakeSsl).emits_none
  rw [handshakeResponse_eq]
  refine .ite (fun hssl => ?_) fun hssl => hplain (Bool.eq_false_iff.mpr hssl)
  refine .ite (fun _ => .action (a := .failed .sslRefused con.status con.serverErrno) rfl rfl (.inl rfl)) fun _ => ?_
  refine .ite (fun _ => hdirect hssl) fun _ => (hrequested hssl).trans ?_
  exact .ite (fun _ => hbehind hssl) fun _ => .action rfl rfl (.inl rfl)

/-- The connection behind an ERR packet, if that came in place of the handshake. -/
def errRead (con : Con) : Con := if con.peekByte 0 = 0xff then packetReadErr con else con

lemma errRead_tells : con.Tells none (errRead con) :=
  .ite (fun _ => .action (a := .answered (.err (packetReadErr con).serverErrno) con.status con.commandStatus) rfl rfl rfl)
    fun _ => .refl

lemma packetReadHandshake_eq : packetReadHandshake env con =
    if (errRead con).peekByte 0 ≠ 10 then
      { (errRead con).fail .badProtocol with localErrcode := .badProtocol, errmsg := "Incompatible protocol version" }
    else handshakeResponse env (handshakeRead (errRead con)) := by
  have herr : (if con.peekByte 0 = 0xff then packetReadResponse env con else con) = errRead con := by
    unfold errRead
    by_cases h : con.peekByte 0 = 0xff
    · rw [if_pos h, if_pos h]
      exact (if_neg (by rw [h]; decide)).trans (if_pos h)
    · rw [if_neg h, if_neg h]
  unfold packetReadHandshake
  rw [herr]
  rfl

/-- **What reading a handshake emits**: it is answered, perhaps behind an ERR packet that is read first. -/
theorem packetReadHandshake_emits (hrep : ∀ s, P (.reported s))
    (hresponse : (handshakeRead (errRead con)).Emits P (handshakeResponse env (handshakeRead (errRead con)))) :
    con.Emits P (packetReadHandshake env con) := by
  rw [packetReadHandshake_eq]
  refine (errRead_tells con).emits_none.trans (.ite (fun _ => .action rfl rfl (.inl rfl)) fun _ => ?_)
  exact ((handshakeRead_tells _).emits hrep).trans hresponse

end Handshakes

/-! ### Commands -/

section Commands

variable (hE : ∀ bytes, P (.encrypted bytes))

include hE

/-- What the packet of a command emits: the header, the byte of the command with the bytes kept for it, and the data. -/
lemma commandWrite_emits (cmd : Command) (data : List UInt8) {con' : Con} {failure : Option String}
    (hw : commandWrite env con cmd data = (con', failure))
    (hP : P (con.outgoing (con.packetHeader ++
      ((con.writeBuffer.store 0 [cmd.code]).slice 0 (1 + con.writeBufferExtra) ++ data)))) : con.Emits P con' := by
  refine .after (netWrite_emits env _ hE hw ?_) (.same rfl rfl)
  split_ifs with hd
  · simp only [List.flatten_cons, List.flatten_nil, List.append_nil]
    exact hP
  · have hnil : data = [] := List.eq_nil_of_length_eq_zero (Nat.eq_zero_of_not_pos hd)
    rw [hnil, List.append_nil] at hP
    simp only [List.flatten_cons, List.flatten_nil, List.append_nil]
    exact hP

/-- What a command emits behind its start: its packet. -/
lemma commandStart_emits (cmd : Command) (data : List UInt8)
    (hplain : con.wantsCompress = false → ∀ head : List UInt8, head.length = 1 + con.writeBufferExtra →
      P (con.outgoing (packInt3 (data.length + 1 + con.writeBufferExtra) ++ [0] ++ head ++ data)))
    (hcompressed : con.wantsCompress = true → ∀ number uncompressed body,
      P (con.outgoing (compressedFrame number body uncompressed))) :
    (commandStart con cmd data.length).Emits P (commandSend env con cmd data).1 := by
  have hsend : ∀ con₁ : Con, con₁.Emits P (commandSent con₁) := fun con₁ =>
    .action (a := .sent con₁.status) rfl rfl (.inl rfl)
  have hpush : ∀ (con₁ : Con) t, con₁.Emits P (packetQueuePush env con₁ t) := fun con₁ t =>
    (packetQueuePush_tells env con₁ t).emits_none
  have hexpect : ∀ con₁ : Con, con₁.Emits P (expectedResponse env con₁ cmd) := fun con₁ => by
    rw [expectedResponse_eq]
    exact .ite (fun _ => .refl) fun _ => hpush con₁ _
  unfold commandSend
  dsimp only
  rw [commandStart_wantsCompress]
  split_ifs with hc
  · have hpacket := sendCompressedPacket_emits env (commandStart con cmd data.length) hE data (some cmd)
      (fun _ number => hcompressed hc number 0 _) fun _ => hcompressed hc
    unfold commandSendCompressed
    dsimp only
    generalize sendCompressedPacket env (commandStart con cmd data.length) data (some cmd) = con₁ at hpacket ⊢
    by_cases hi : con₁.status = .idle
    · rw [if_pos hi]
      exact hpacket.trans ((hpush con₁ _).trans (hsend _))
    · rw [if_neg hi]
      exact hpacket
  · have hpieces : P ((commandStart con cmd data.length).outgoing
        ((commandStart con cmd data.length).packetHeader ++
          (((commandStart con cmd data.length).writeBuffer.store 0 [cmd.code]).slice 0 (1 + con.writeBufferExtra) ++
            data))) := by
      have h := hplain (Bool.eq_false_iff.mpr hc)
        (((commandStart con cmd data.length).writeBuffer.store 0 [cmd.code]).slice 0 (1 + con.writeBufferExtra))
        (Memory.length_slice ..)
      rw [List.append_assoc] at h
      exact h
    unfold commandSendPlain
    split
    · next con' name hw =>
      exact (commandWrite_emits env _ hE cmd data hw hpieces).trans
        ((Con.Emits.sendFailed .commandSend .netWriteError).trans (.same rfl rfl))
    · next con' hw =>
      exact (commandWrite_emits env _ hE cmd data hw hpieces).trans ((hexpect con').trans (hsend _))

/-- **What a command emits**: that it is one, and its packet. -/
theorem commandSend_emits (cmd : Command) (data : List UInt8) (hcommand : P (.command cmd con.status))
    (hstream : P (.onStream con.stream con.ssl.handshakeDone))
    (hplain : con.wantsCompress = false → ∀ head : List UInt8, head.length = 1 + con.writeBufferExtra →
      P (con.outgoing (packInt3 (data.length + 1 + con.writeBufferExtra) ++ [0] ++ head ++ data)))
    (hcompressed : con.wantsCompress = true → ∀ number uncompressed body,
      P (con.outgoing (compressedFrame number body uncompressed))) :
    con.Emits P (commandSend env con cmd data).1 := by
  have hstart : con.Emits P (commandStart con cmd data.length) := by
    refine ⟨rfl, [.onStream con.stream con.ssl.handshakeDone, .command cmd con.status], rfl, ?_⟩
    exact List.forall_mem_cons.mpr ⟨.inr hstream, List.forall_mem_singleton.mpr (.inr hcommand)⟩
  exact hstart.trans (commandStart_emits env con hE cmd data hplain hcompressed)

omit hE in
/-- A command records whether TLS was running when it was entered. -/
lemma commandSend_onStream (cmd : Command) (data : List UInt8) :
    .onStream con.stream con.ssl.handshakeDone ∈ (commandSend env con cmd data).1.trace := by
  obtain ⟨x, hx, -⟩ := (commandStart_emits (P := fun _ => True) env con (fun _ => trivial) cmd data
    (fun _ _ _ => trivial) fun _ _ _ _ => trivial).trace_eq
  rw [hx]
  exact List.mem_append_right _ (List.mem_cons_self ..)

omit hE in
/-- What asking for a further result emits. -/
lemma commandNextResult_emits (hP : P (.nextResult con.status)) : con.Emits P (commandNextResult env con).1 := by
  have hpush := packetQueuePush_tells env ((resetInternals con).log (.nextResult con.status)) .response
  have hstart : con.Emits P ((resetInternals con).log (.nextResult con.status)) := .action rfl rfl (.inr hP)
  unfold commandNextResult
  split_ifs
  · exact (hstart.trans hpush.emits_none).trans (.same rfl rfl)
  · exact .refl

omit hE in
lemma commandNextResult_ssl : (commandNextResult env con).1.ssl = con.ssl := by
  unfold commandNextResult
  split_ifs
  · exact packetQueuePush_ssl env ((resetInternals con).log (.nextResult con.status)) .response
  · rfl

omit hE in
/-- A command leaves TLS as it is. -/
lemma commandSend_tls (cmd : Command) (data : List UInt8) : (commandSend env con cmd data).1.tls = con.tls := by
  have hpush : ∀ (con₁ : Con) t, (packetQueuePush env con₁ t).tls = con₁.tls := fun con₁ t =>
    tls_of_ssl (packetQueuePush_ssl env con₁ t)
  have hstart : (commandStart con cmd data.length).tls = con.tls := rfl
  unfold commandSend
  dsimp only
  rw [← hstart]
  generalize commandStart con cmd data.length = con₀
  split_ifs
  · have hpacket := sendCompressedPacket_tls env con₀ data (some cmd)
    unfold commandSendCompressed
    dsimp only
    generalize sendCompressedPacket env con₀ data (some cmd) = con₁ at hpacket ⊢
    by_cases hi : con₁.status = .idle
    · rw [if_pos hi]
      exact (hpush con₁ _).trans hpacket
    · rw [if_neg hi]
      exact hpacket
  · unfold commandSendPlain
    split
    · next con' name hw =>
      have htls := netWrite_tls env _ hw
      exact htls
    · next con' hw =>
      have htls := netWrite_tls env _ hw
      rw [expectedResponse_eq]
      split_ifs
      · exact htls
      · exact (hpush con' _).trans htls
      · exact (hpush con' _).trans htls

end Commands

/-! ### Acts that hand nothing on -/

lemma Action.still_of_inward {a : Action} (h : a.inward = true) (tls : Bool) : a.still tls = true := by
  cases a <;> first | rfl | cases h

lemma Con.Tells.still {con con' : Con} (h : con.Tells none con') : con.Still con' := by
  obtain ⟨x, y, ht, hx, hy⟩ := h.trace_eq
  rw [Option.map_none, Option.toList_none, List.nil_append, ← List.append_assoc] at ht
  refine .actions (tls_of_ssl h.ssl_eq) ht fun a ha => ?_
  exact Action.still_of_inward ((List.mem_append.mp ha).elim (hx a) (hy a)) _

/-- Acts that read a packet, send a command, or ask for a further result. -/
def Act.speaks : Act → Bool
  | .packet _ | .command _ _ _ | .nextResult _ | .prepare _ _ | .closeStatement _ => true
  | _ => false

section Still

lemma onAlloc_still (suggestedSize : ℕ) : con.Still (onAlloc env con suggestedSize).1 := by
  have hhand : ∀ (con₁ : Con) buffer, con₁.Tells none (handOut con₁ buffer).1 := fun con₁ buffer => by
    cases buffer with
    | none => exact .action rfl rfl rfl
    | some _ => exact .refl
  have hbio := (allocBio_rest env con suggestedSize).still
  unfold onAlloc
  dsimp only
  generalize allocBio env con suggestedSize = con₁ at hbio ⊢
  refine hbio.trans (Con.Tells.still ?_)
  split_ifs
  · exact (hhand _ _).after (.same rfl rfl)
  · exact (hhand _ _).after (.same rfl rfl)

lemma readInto_tells (bytes : List UInt8) : con.Tells none (readInto con bytes) := by
  unfold readInto storeRead
  split
  · exact .refl
  · exact .ite (fun _ => .same rfl rfl) fun _ => .action rfl rfl rfl

lemma readFailed_tells (site : FailSite) (errcode : Ret) : con.Tells none (con.readFailed site errcode) :=
  .action (a := .failed site con.status con.serverErrno) rfl rfl rfl

lemma decompressInto_tells (b c : BufferSt) (m n : ℕ) : con.Tells none (decompressInto env con b c m n) := by
  unfold decompressInto
  dsimp only
  refine .ite (fun _ => .action rfl rfl rfl) fun _ => ?_
  split
  · exact readFailed_tells con _ _
  · exact .action rfl rfl rfl

lemma decompressPacket_tells (c : BufferSt) (m n : ℕ) : con.Tells none (decompressPacket env con c m n) := by
  unfold decompressPacket
  dsimp only
  split
  · exact .actions (x := [.fault, .compressedPacket _]) rfl rfl (by simp [Action.inward, Action.still])
  · exact (decompressInto_tells env _ _ _ _ _).after (.action (a := .compressedPacket _) rfl rfl rfl)

lemma checkCompressedSequence_tells (c : BufferSt) (n : ℕ) :
    con.Tells none (checkCompressedSequence env con c n) := by
  unfold checkCompressedSequence
  dsimp only
  refine .ite (fun _ => ?_) fun _ => ?_
  · exact (readFailed_tells _ _ _).after (.action (a := .checked true _ _ false) rfl rfl rfl)
  · exact (decompressPacket_tells env _ _ _ _).after (.action (a := .checked true _ _ true) rfl rfl rfl)

lemma decompressReadBuffer_tells (c : BufferSt) : con.Tells none (decompressReadBuffer env con c).1 := by
  unfold decompressReadBuffer
  dsimp only
  split_ifs
  · exact .refl
  · exact .refl
  · exact checkCompressedSequence_tells env con c _

lemma requestRow_tells : con.Tells none (requestRow env con) := by
  have hpush := packetQueuePush_tells env ((packetReadEnd con).log .rowRequested) .row
  have hstart : con.Tells none ((packetReadEnd con).log .rowRequested) := .action (a := .rowRequested) rfl rfl rfl
  exact (hstart.trans hpush).trans (.same rfl rfl)

lemma rowBufferGrow_tells : con.Tells none (rowBufferGrow env con).1 := by
  unfold rowBufferGrow
  dsimp only
  split_ifs
  · exact .actions (x := [.fault, .rowBufferGrown con.own.stale]) rfl rfl (by simp [Action.inward, Action.still])
  · exact .action (a := .rowBufferGrown con.own.stale) rfl rfl rfl
  · exact .refl

lemma keepRow_tells : con.Tells none (keepRow env con) := by
  have hgrow := rowBufferGrow_tells env con
  unfold keepRow
  generalize rowBufferGrow env con = r at hgrow ⊢
  obtain ⟨con₁, _ | _⟩ := r
  · exact hgrow
  · dsimp only
    split_ifs
    · exact hgrow.trans (.action rfl rfl rfl)
    · exact hgrow.trans (.action (a := .rowKept) rfl rfl rfl)
    · exact hgrow

lemma queryBufferRows_tells (enable : Bool) : con.Tells none (queryBufferRows con enable).1 := by
  unfold queryBufferRows
  split_ifs
  · exact .refl
  · exact .same rfl rfl

lemma writeRow_tells (row : List Cell) : con.Tells none (writeRow con row).1 := by
  unfold writeRow
  split_ifs
  · exact .action rfl rfl rfl
  · exact .same rfl rfl

lemma queryRowGet_tells (error : ErrorPtr) : con.Tells none (queryRowGet env con error).1 := by
  rcases queryRowGet_cases env con error with h | ⟨-, h | ⟨row, -, h⟩⟩
  · rw [h]
    exact .refl
  · rw [h]
    exact .same rfl rfl
  · rw [h]
    exact (writeRow_tells _ row).after (.same rfl rfl)

lemma queryBufferRowGet_tells : con.Tells none (queryBufferRowGet con).1 := by
  unfold queryBufferRowGet
  split_ifs
  · exact .refl
  · exact .same rfl rfl

lemma queryColumnGet_tells (column : ℕ) : con.Tells none (queryColumnGet con column).1 := by
  unfold queryColumnGet queryColumns
  split_ifs
  · exact .refl
  · dsimp only
    split
    · exact .refl
    · exact .action rfl rfl rfl
    · exact .same rfl rfl

lemma statementRowGet_tells (error : ErrorPtr) : con.Tells none (statementRowGet env con error).1 := by
  rw [statementRowGet_eq]
  split
  · exact .same rfl rfl
  · unfold writeStmtRow
    split
    · dsimp only
      split_ifs
      · exact .action rfl rfl rfl
      · exact .same rfl rfl
      · exact .same rfl rfl
    · exact .action rfl rfl rfl

/-- **All other acts are still.** -/
theorem apply_still {a : Act} (hl : a.Legal con) (ha : a.speaks = false) : con.Still (a.apply con) := by
  cases a with
  | rest con' => exact hl.still
  | setOption _ => exact Con.Tells.still (.same rfl rfl)
  | alloc env suggestedSize => exact onAlloc_still env con suggestedSize
  | read bytes => exact (readInto_tells con bytes).still
  | decompress env =>
    unfold Act.apply
    dsimp only
    split
    · exact Con.Tells.refl.still
    · exact (decompressReadBuffer_tells env con _).still
  | greet env => exact (packetQueuePush_tells env con .handshake).still
  | requestRow env => exact (requestRow_tells env con).still
  | editStmt f => exact Con.Tells.still (.same rfl rfl)
  | commandFree => exact Con.Tells.still (.same rfl rfl)
  | closeQuery =>
    exact Con.Tells.still (.action (a := .queryClosed (!con.bufferRows && con.own.rowShared)) rfl rfl rfl)
  | bufferRows enable => exact (queryBufferRows_tells con enable).still
  | keepRow env => exact (keepRow_tells env con).still
  | rowGet env error => exact (queryRowGet_tells env con error).still
  | bufferRowGet => exact (queryBufferRowGet_tells con).still
  | columnGet column => exact (queryColumnGet_tells con column).still
  | stmtRowGet env error => exact (statementRowGet_tells env con error).still
  | packet _ => cases ha
  | command _ _ _ => cases ha
  | nextResult _ => cases ha
  | prepare _ _ => cases ha
  | closeStatement _ => cases ha

end Still

/-! ### Runs of acts -/

section Runs

variable {con}

/-- A connection that a command is sent on instead: all that is seen of it is the same. -/
structure Con.Alike (con con₁ : Con) : Prop where
  trace_eq : con₁.trace = con.trace
  ssl_eq : con₁.ssl = con.ssl
  stream_eq : con₁.stream = con.stream
  status_eq : con₁.status = con.status

lemma prepareNow_alike (env : Env) (con : Con) (statement : List UInt8) : con.Still (prepareNow env con statement) ∨
    ∃ con₁, con.Alike con₁ ∧ prepareNow env con statement = (commandSend env con₁ .stmtPrepare statement).1 := by
  have hfail : con.Tells none
      { con.fail .stmtAlloc with stmt := none, localErrcode := .outOfMemoryError, commandStatus := .sendFailed } :=
    .action (a := .failed .stmtAlloc con.status con.serverErrno) rfl rfl rfl
  unfold prepareNow
  split_ifs
  · exact .inr ⟨{ con with stmt := some Stmt.fresh }, ⟨rfl, rfl, rfl, rfl⟩, rfl⟩
  · exact .inl hfail.still

lemma statementClose_alike (env : Env) (con : Con) : con.Still (statementClose env con) ∨
    ∃ con₁, con.Alike con₁ ∧ statementClose env con = (commandSend env con₁ .stmtClose []).1 := by
  cases hs : con.stmt with
  | none =>
    rw [statementClose_of_none env con hs]
    exact .inl (Con.Tells.still (.same rfl rfl))
  | some stmt =>
    have halike : con.Alike (closingStatement con stmt) := ⟨rfl, rfl, rfl, rfl⟩
    exact .inr ⟨closingStatement con stmt, halike, statementClose_of_some env con hs⟩

/-- **What an act comes to**: it is still, an accepted packet goes to its reader, a further result is asked for, or a command
is sent. -/
theorem apply_cases {a : Act} (hl : a.Legal con) : con.Still (a.apply con) ∨
    (∃ env b seq payload t q, con.Holds b seq payload ∧ con.nextPacketQueue = t :: q ∧ con.Accepts t seq ∧
      a.apply con = (packetDispatch env (packetReady con b t seq payload.length) t).con) ∨
    (∃ env, a.apply con = (commandNextResult env con).1) ∨
    ∃ env con₁ cmd data, con.Alike con₁ ∧ a.apply con = (commandSend env con₁ cmd data).1 := by
  cases hspeaks : a.speaks with
  | false => exact .inl (apply_still con hl hspeaks)
  | true =>
    cases a with
    | packet env =>
      rcases processPacket_cases env con with hrest | ⟨b, seq, payload, t, q, hholds, hq, ha, he⟩
      · exact .inl hrest.still
      · exact .inr (.inl ⟨env, b, seq, payload, t, q, hholds, hq, ha, he⟩)
    | nextResult env => exact .inr (.inr (.inl ⟨env, rfl⟩))
    | command env cmd data => exact .inr (.inr (.inr ⟨env, con, cmd, data, ⟨rfl, rfl, rfl, rfl⟩, rfl⟩))
    | prepare env statement =>
      rcases prepareNow_alike env con statement with hstill | ⟨con₁, halike, he⟩
      · exact .inl hstill
      · exact .inr (.inr (.inr ⟨env, con₁, _, _, halike, he⟩))
    | closeStatement env =>
      rcases statementClose_alike env con with hstill | ⟨con₁, halike, he⟩
      · exact .inl hstill
      · exact .inr (.inr (.inr ⟨env, con₁, _, _, halike, he⟩))
    | _ => cases hspeaks

/-- Everything an act emits is added to the trace, and the SSL object stays. -/
lemma apply_emits {a : Act} (hl : a.Legal con) : con.Emits (fun _ => True) (a.apply con) := by
  have hlogin : ∀ env (con₁ : Con), con₁.Emits (fun _ => True) (handshakeLogin env con₁) := fun env con₁ =>
    handshakeLogin_emits env con₁ fun payload => sendWriteBuffer_emits env con₁ fun m =>
      sendData_emits env _ (fun _ => trivial) payload (fun _ _ => trivial)
        fun _ => ⟨fun _ _ _ => trivial, fun _ _ _ _ => trivial⟩
  have hresponse : ∀ env (con₁ : Con), con₁.Emits (fun _ => True) (handshakeResponse env con₁) := fun env con₁ =>
    handshakeResponse_emits env con₁ (fun _ => hlogin env con₁)
      (fun _ => (hlogin env (tlsEnabled con₁)).after (.same rfl rfl))
      (fun _ => sendWriteBuffer_emits env con₁ fun m =>
        sendData_emits env _ (fun _ => trivial) _ (fun _ _ => trivial)
          fun _ => ⟨fun _ _ _ => trivial, fun _ _ _ _ => trivial⟩)
      fun _ => (hlogin env _).after (.same rfl rfl)
  rcases apply_cases hl with hstill | ⟨env, b, seq, payload, t, q, hholds, hq, ha, he⟩ | ⟨env, he⟩ |
    ⟨env, con₁, cmd, data, halike, he⟩
  · obtain ⟨x, hx, -⟩ := hstill.trace_eq
    exact ⟨congrArg Prod.fst hstill.tls_eq, x, hx, fun _ _ => .inr trivial⟩
  · rw [he]
    refine (packetReady_emits con b t seq payload.length trivial).trans ?_
    by_cases ht : t = .handshake
    · subst ht
      exact packetReadHandshake_emits env _ (fun _ => trivial) (hresponse env _)
    · by_cases ht' : t = .handshakeSsl
      · subst ht'
        exact hresponse env _
      · exact (packetDispatch_tells env _ ⟨ht, ht'⟩).emits fun _ => trivial
  · rw [he]
    exact commandNextResult_emits env con trivial
  · rw [he]
    refine .after ?_ (Con.Emits.same (congrArg Ssl.ssl halike.ssl_eq) halike.trace_eq)
    exact commandSend_emits env con₁ (fun _ => trivial) cmd data trivial trivial (fun _ _ _ => trivial)
      fun _ _ _ _ => trivial

/-- **The invariant rule for acts**: what acts preserve, as long as the trace they lead to is allowed. -/
theorem Acts.invariant {I : Con → Prop} {ok : List Action → Prop} (hok : ∀ {x y}, ok (y ++ x) → ok x)
    (hstep : ∀ {con : Con} {a : Act}, I con → a.Legal con → ok (a.apply con).trace → I (a.apply con)) {con con' : Con}
    (h : Acts con con') (hI : I con) (hend : ok con'.trace) : I con' := by
  obtain ⟨as, hl, rfl⟩ := h
  have hsuffix : ∀ (as : List Act) (con : Con), Along Act.apply Act.Legal con as →
      ∃ x, (run Act.apply con as).trace = x ++ con.trace := fun as => by
    induction as with
    | nil => exact fun con _ => ⟨[], rfl⟩
    | cons a as ih =>
      intro con hl
      obtain ⟨x, hx, -⟩ := (apply_emits hl.1).trace_eq
      obtain ⟨y, hy⟩ := ih _ hl.2
      exact ⟨y ++ x, by rw [run_cons, hy, hx, List.append_assoc]⟩
  induction as generalizing con with
  | nil => exact hI
  | cons a as ih =>
    obtain ⟨y, hy⟩ := hsuffix as _ hl.2
    rw [run_cons] at hend
    refine ih (hstep hI hl.1 (hok (y := y) ?_)) hl.2 hend
    rwa [← hy]

end Runs

end LibAttachSql
