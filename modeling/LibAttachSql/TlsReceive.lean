import LibAttachSql.Lib.Records
import LibAttachSql.Lib.Run
import LibAttachSql.SendFrame
import LibAttachSql.System

/-!
# What OpenSSL has decrypted

Over TLS the bytes of the network go to OpenSSL, which decrypts them in records, and the connection reads those: one
`SSL_read` of the room in its network buffer when libuv reports bytes, and one more into a scratch buffer in every
`attachsql_ssl_run`, that is in every poll and in every send.  This module follows what has been decrypted, as a queue
of records of which one `SSL_read` returns at most one, and compares it with what is appended to the network buffer.
-/

namespace LibAttachSql

open Lib

/-! ### OpenSSL as a queue of records -/

/-- A `size_t` passed as an `int`. -/
def cInt (n : ℕ) : ℤ := (n : ℤ).bmod (2 ^ 32)

/-- `sizeof` of the buffer `attachsql_ssl_run` reads into. -/
def sslReadBufferSize : ℕ := 1024 * 16

/-- `SSL_read` of `num` bytes: the result, the bytes it writes, and the records that are left.  A negative `num` is an
error, and without a record more bytes from the network are wanted. -/
def sslReadRecords (num : ℤ) (records : List (List UInt8)) : SslResult × List UInt8 × List (List UInt8) :=
  if num < 0 then (.failed "bad length", [], records)
  else if records = [] then (.wantRead, [], [])
  else
    let (bytes, rest) := readRecord num.toNat records
    (.done bytes.length, bytes, rest)

/-- The environment with these records decrypted. -/
def Env.decrypted (env : Env) (records : List (List UInt8)) : Env :=
  { env with
    sslRead := fun _ => (sslReadRecords sslReadBufferSize records).1
    sslReadInto := fun _ available =>
      ((sslReadRecords (cInt available) records).1, (sslReadRecords (cInt available) records).2.1) }

/-- The buffer `attachsql_read_data_cb` appends to. -/
def Con.netBuffer (con : Con) : Option BufferSt := if con.options.compression then con.readBufferCompress else con.readBuffer

/-- The bytes between the write pointer of `b` and the one its buffer has by now. -/
def BufferSt.appendedTo (b : BufferSt) : Option BufferSt → List UInt8
  | none => []
  | some b' => b'.mem.slice b.bufferWritePtr (b'.bufferWritePtr - b.bufferWritePtr)

/-! ### Runs -/

/-- A connection over TLS, the records that are decrypted and not read, all application data decrypted so far, and all
bytes appended to the network buffer. -/
structure Tls where
  con : Con
  records : List (List UInt8)
  decrypted : List UInt8
  appended : List UInt8

/-- A connection over TLS before anything was decrypted. -/
def Tls.start (con : Con) : Tls := { con := con, records := [], decrypted := [], appended := [] }

/-- What happens to a connection over TLS. -/
inductive TlsEvent where
  /-- libuv reads bytes that complete these records. -/
  | read (env : Env) (suggestedSize : ℕ) (bytes : List UInt8) (records : List (List UInt8))
  /-- `attachsql_do_poll`, up to the turn of the event loop. -/
  | poll (env : Env)
  /-- A send function hands on these parts. -/
  | send (env : Env) (parts : List (List UInt8))
  /-- Whatever else happens to the connection: packets are taken out of its buffer, or the library is called. -/
  | other (con : Con)

/-- The buffer that is there for a read, once libuv gets room to read into. -/
def roomFor (env : Env) (con : Con) (suggestedSize : ℕ) : Option BufferSt :=
  match onAlloc env con suggestedSize with
  | (con, some (_ + 1)) => con.netBuffer
  | _ => none

/-- Whether a poll reads decrypted data. -/
def pollReads (env : Env) (con : Con) : Bool :=
  con.status ∉ [ConStatus.notConnected, .connectFailed, .idle, .sslError] ∧ con.ssl.handshakeDone ∧
    env.sslIsInitFinished con.ssl.calls

/-- Whether a send reads decrypted data.  Without memory for the write buffer a null pointer is followed. -/
def sendReads (env : Env) (con : Con) : Bool :=
  con.ssl.handshakeDone ∧ (con.ssl.writeBuffer.isSome ∨ (env.malloc.get defaultBufferSize).isSome) ∧
    env.sslIsInitFinished con.ssl.calls

/-- The records after a read into the scratch buffer. -/
def Tls.scratched (s : Tls) (reads : Bool) : List (List UInt8) :=
  if reads then (sslReadRecords sslReadBufferSize s.records).2.2 else s.records

/-- The event loop does not turn, and no callback is told. -/
def World.quiet : World := { uvRun := id, callback := fun _ con => con }

/-- A read of libuv that completes these records, of which `SSL_read` is asked for `num` bytes. -/
def Tls.received (s : Tls) (num : ℤ) (con : Con) (appended : List UInt8) (records : List (List UInt8)) : Tls where
  con := con
  records := (sslReadRecords num (s.records ++ records.filter (· ≠ []))).2.2
  decrypted := s.decrypted ++ records.flatten
  appended := s.appended ++ appended

/-- What an event does. -/
def tlsStep (s : Tls) : TlsEvent → Tls
  | .read env suggestedSize bytes records =>
    match roomFor env s.con suggestedSize with
    | none => { s with con := uvRead env s.con suggestedSize bytes }
    | some b =>
      let con := uvRead (env.decrypted (s.records ++ records.filter (· ≠ []))) s.con suggestedSize bytes
      s.received (cInt b.available) con (b.appendedTo con.netBuffer) records
  | .poll env =>
    { s with
      con := doPoll (env.decrypted s.records) .quiet s.con
      records := s.scratched (pollReads env s.con) }
  | .send env parts =>
    { s with
      con := (netWrite (env.decrypted s.records) s.con parts).1
      records := s.scratched (sendReads env s.con) }
  | .other con => { s with con := con }

/-- Bytes are read once the connection is over TLS. -/
def Secure (s : Tls) : TlsEvent → Prop
  | .read _ _ _ _ => s.con.ssl.handshakeDone = true
  | _ => True

/-- Nothing that was decrypted is lost. -/
def Tls.Lossless (s : Tls) : Prop := s.appended ++ s.records.flatten = s.decrypted

/-- What is appended to the network buffer is what was decrypted. -/
def Tls.Exact (s : Tls) : Prop := s.appended = s.decrypted

/-- Polls and sends find nothing decrypted that was not read. -/
def ScratchIdle (s : Tls) : TlsEvent → Prop
  | .poll env => pollReads env s.con = true → s.records = []
  | .send env _ => sendReads env s.con = true → s.records = []
  | _ => True

/-- The bytes of a read complete at most one record, not counting empty ones, and it fits into the room there is. -/
def SingleRecord (s : Tls) : TlsEvent → Prop
  | .read env suggestedSize _ records =>
    ∀ b ∈ roomFor env s.con suggestedSize,
      (records.filter (· ≠ [])).length ≤ 1 ∧ ∀ r ∈ records.filter (· ≠ []), (r.length : ℤ) ≤ cInt b.available
  | _ => True

instance (s : Tls) (e : TlsEvent) : Decidable (Secure s e) := by
  unfold Secure
  split <;> infer_instance

/-! ### What one `SSL_read` does -/

section Read

variable {num : ℤ} {records : List (List UInt8)}

lemma sslReadRecords_flatten (num : ℤ) (records : List (List UInt8)) :
    (sslReadRecords num records).2.1 ++ (sslReadRecords num records).2.2.flatten = records.flatten := by
  unfold sslReadRecords
  split_ifs with hneg hnil
  · rfl
  · rw [hnil]
    rfl
  · exact readRecord_flatten _ _

lemma sslReadRecords_ne_nil (h : ∀ r ∈ records, r ≠ []) : ∀ r ∈ (sslReadRecords num records).2.2, r ≠ [] := by
  unfold sslReadRecords
  split_ifs
  · exact h
  · exact nofun
  · exact readRecord_ne_nil h

lemma sslReadRecords_read_ne_nil (h : ∀ r ∈ records, r ≠ []) (hr : records ≠ []) (hn : 0 < num) :
    (sslReadRecords num records).2.1 ≠ [] := by
  unfold sslReadRecords
  rw [if_neg (by omega), if_neg hr]
  exact readRecord_read_ne_nil h hr (by omega)

lemma sslReadRecords_rest_nil_iff :
    (sslReadRecords num records).2.2 = [] ↔ records.length ≤ 1 ∧ ∀ r ∈ records, (r.length : ℤ) ≤ num := by
  unfold sslReadRecords
  split_ifs with hneg hnil
  · constructor
    · rintro rfl
      exact ⟨Nat.zero_le 1, nofun⟩
    · rintro ⟨-, h⟩
      cases records with
      | nil => rfl
      | cons r rs =>
        have hr := h r (List.mem_cons_self ..)
        omega
  · rw [hnil]
    exact iff_of_true rfl ⟨Nat.zero_le 1, nofun⟩
  · rw [readRecord_rest_nil_iff]
    refine and_congr_right fun _ => forall₂_congr fun r _ => ?_
    omega

/-- A read from an empty queue leaves it empty. -/
lemma sslReadRecords_nil : (sslReadRecords num []).2.2 = [] :=
  sslReadRecords_rest_nil_iff.mpr ⟨Nat.zero_le 1, nofun⟩

lemma decrypted_sslReadInto (env : Env) (records : List (List UInt8)) (calls n : ℕ) :
    (env.decrypted records).sslReadInto calls n =
      ((sslReadRecords (cInt n) records).1, (sslReadRecords (cInt n) records).2.1) := rfl

lemma appendedTo_self (b : BufferSt) : b.appendedTo (some b) = [] := by
  unfold BufferSt.appendedTo
  dsimp only
  rw [Nat.sub_self, Memory.slice_zero]

lemma appendedTo_append (b : BufferSt) (bytes : List UInt8) : b.appendedTo (some (b.append bytes)) = bytes := by
  unfold BufferSt.appendedTo
  dsimp only
  rw [BufferSt.append_writePtr, Nat.add_sub_cancel_left, BufferSt.append_mem, Memory.slice_store]

/-- The network buffer after an `SSL_read` into it. -/
def afterSslRead (b : BufferSt) : SslResult → List UInt8 → BufferSt
  | .done n, bytes => if 0 < n then b.append (bytes.take n) else b
  | _, _ => b

lemma sslReadBuffer_of_result {env : Env} {con : Con} {b : BufferSt} {r : SslResult} {bytes : List UInt8}
    (h : env.sslReadInto con.ssl.calls b.available = (r, bytes)) :
    (sslReadBuffer env con b).1 = afterSslRead b r bytes := by
  unfold sslReadBuffer
  rw [h]
  cases r <;> rfl

lemma sslReadBuffer_decrypted (env : Env) (con : Con) (b : BufferSt) (records : List (List UInt8)) :
    (sslReadBuffer (env.decrypted records) con b).1 =
      afterSslRead b (sslReadRecords (cInt b.available) records).1 (sslReadRecords (cInt b.available) records).2.1 :=
  sslReadBuffer_of_result (decrypted_sslReadInto env records con.ssl.calls b.available)

/-- **What a read appends to the network buffer** is what `SSL_read` returns. -/
lemma appendedTo_afterSslRead (b : BufferSt) (num : ℤ) (records : List (List UInt8)) :
    b.appendedTo (some (afterSslRead b (sslReadRecords num records).1 (sslReadRecords num records).2.1)) =
      (sslReadRecords num records).2.1 := by
  unfold sslReadRecords
  split_ifs with hneg hnil
  · exact appendedTo_self b
  · exact appendedTo_self b
  · unfold afterSslRead
    dsimp only
    split_ifs with hpos
    · rw [appendedTo_append, List.take_length]
    · rw [appendedTo_self]
      exact (List.length_eq_zero_iff.mp (by omega)).symm

end Read

/-! ### Polls and sends that read nothing -/

section Scratch

variable {env : Env} {con : Con}

end Scratch

/-! ### The read callback -/

section Callback

variable {env : Env} {con : Con} {n : ℕ}

lemma onAlloc_handshakeDone (env : Env) (con : Con) (n : ℕ) :
    (onAlloc env con n).1.ssl.handshakeDone = con.ssl.handshakeDone := by
  have hbio : (allocBio env con n).ssl.handshakeDone = con.ssl.handshakeDone := by
    unfold allocBio
    split_ifs <;> rfl
  have hout : ∀ (con : Con) buffer, (handOut con buffer).1.ssl.handshakeDone = con.ssl.handshakeDone := by
    intro con buffer
    cases buffer <;> rfl
  unfold onAlloc
  dsimp only
  split_ifs
  · exact (hout _ _).trans hbio
  · exact (hout _ _).trans hbio

/-- A write leaves the network buffer alone. -/
lemma Con.WireOnly.netBuffer {con' : Con} (h : con.WireOnly con') : con'.netBuffer = con.netBuffer := by
  unfold Con.WireOnly at h
  rw [h]
  rfl

lemma storeRead_netBuffer (con : Con) (b : BufferSt) (bytes : List UInt8) :
    (storeRead con b bytes).netBuffer = some b := by
  unfold storeRead
  split_ifs with hc
  · exact if_pos hc
  · exact if_neg hc

/-- What the read callback makes of the network buffer over TLS. -/
lemma readDataCb_netBuffer {b : BufferSt} (hb : con.netBuffer = some b) (hs : con.ssl.handshakeDone = true)
    (bytes : List UInt8) : (readDataCb env con bytes).netBuffer = some (sslReadBuffer env con b).1 := by
  unfold readDataCb
  unfold Con.netBuffer at hb
  rw [hb]
  dsimp only
  rw [if_pos hs]
  exact (sslResult_wireOnly env _ _).netBuffer.trans (storeRead_netBuffer _ _ _)

/-- **What a read of libuv makes of the network buffer over TLS.** -/
lemma uvRead_netBuffer {b : BufferSt} (hb : roomFor env con n = some b) (hs : con.ssl.handshakeDone = true)
    (records : List (List UInt8)) (bytes : List UInt8) :
    (uvRead (env.decrypted records) con n bytes).netBuffer =
      some (sslReadBuffer (env.decrypted records) (onAlloc env con n).1 b).1 := by
  have hdone := onAlloc_handshakeDone env con n
  have halloc : onAlloc (env.decrypted records) con n = onAlloc env con n := rfl
  unfold uvRead
  rw [halloc]
  unfold roomFor at hb
  generalize onAlloc env con n = r at hb hdone ⊢
  obtain ⟨con₁, _ | _ | k⟩ := r
  · cases hb
  · cases hb
  · exact readDataCb_netBuffer hb (hdone.trans hs) _

end Callback

/-! ### What a step loses -/

namespace Tls

/-- Nothing is lost, and no record is empty. -/
structure Held (s : Tls) : Prop where
  lossless : s.Lossless
  records : ∀ r ∈ s.records, r ≠ []

variable {s : Tls}

lemma Held.exact_iff (h : s.Held) : s.Exact ↔ s.records = [] := by
  have hl : s.appended ++ s.records.flatten = s.decrypted := h.lossless
  unfold Exact
  rw [← hl, ← flatten_eq_nil_iff_of_ne_nil h.records]
  exact List.self_eq_append_right

section Received

variable (s : Tls) (num : ℤ) (con : Con) (appended : List UInt8) (records : List (List UInt8))

lemma received_records :
    (s.received num con appended records).records =
      (sslReadRecords num (s.records ++ records.filter (· ≠ []))).2.2 := rfl

/-- A read leaves no empty records. -/
lemma received_ne_nil (h : ∀ r ∈ s.records, r ≠ []) : ∀ r ∈ (s.received num con appended records).records, r ≠ [] := by
  rw [received_records]
  refine sslReadRecords_ne_nil fun r hr => ?_
  rcases List.mem_append.mp hr with hr | hr
  · exact h r hr
  · simpa using (List.mem_filter.mp hr).2

/-- A read of which everything that `SSL_read` returns is appended. -/
lemma received_lossless (h : s.Lossless)
    (ha : appended = (sslReadRecords num (s.records ++ records.filter (· ≠ []))).2.1) :
    (s.received num con appended records).Lossless := by
  have hl : s.appended ++ s.records.flatten = s.decrypted := h
  unfold Lossless received
  dsimp only
  rw [ha, List.append_assoc, sslReadRecords_flatten, List.flatten_append, flatten_filter_ne_nil, ← List.append_assoc, hl]

end Received

lemma scratched_ne_nil (h : ∀ r ∈ s.records, r ≠ []) (reads : Bool) : ∀ r ∈ s.scratched reads, r ≠ [] := by
  unfold scratched
  split_ifs
  · exact sslReadRecords_ne_nil h
  · exact h

/-- No step leaves empty records. -/
lemma step_ne_nil (h : ∀ r ∈ s.records, r ≠ []) (e : TlsEvent) : ∀ r ∈ (tlsStep s e).records, r ≠ [] := by
  cases e with
  | read env n bytes records =>
    unfold tlsStep
    dsimp only
    split
    · exact h
    · exact received_ne_nil s _ _ _ _ h
  | poll env => exact scratched_ne_nil h _
  | send env parts => exact scratched_ne_nil h _
  | other con => exact h

/-- **A read of libuv loses nothing.** -/
lemma Lossless.read (h : s.Lossless) (hs : s.con.ssl.handshakeDone = true) (env : Env) (n : ℕ) (bytes : List UInt8)
    (records : List (List UInt8)) : (tlsStep s (.read env n bytes records)).Lossless := by
  unfold tlsStep
  dsimp only
  split
  · exact h
  · next b hb =>
    refine received_lossless s _ _ _ _ h ?_
    rw [uvRead_netBuffer hb hs, sslReadBuffer_decrypted, appendedTo_afterSslRead]

/-- **A read into the scratch buffer loses what it reads.** -/
lemma Held.scratched_iff (h : s.Held) (reads : Bool) :
    s.appended ++ (s.scratched reads).flatten = s.decrypted ↔ (reads = true → s.records = []) := by
  have hl : s.appended ++ s.records.flatten = s.decrypted := h.lossless
  unfold scratched
  split_ifs with hreads
  · rw [← hl, ← sslReadRecords_flatten sslReadBufferSize s.records, List.append_cancel_left_eq]
    refine ⟨fun he _ => ?_, fun hr => ?_⟩
    · by_contra hne
      exact sslReadRecords_read_ne_nil h.records hne (by decide) (List.self_eq_append_left.mp he)
    · rw [hr hreads]
      rfl
  · exact iff_of_true hl fun hr => absurd hr hreads

/-- **Nothing is lost exactly when no read into the scratch buffer finds anything.** -/
theorem Held.lossless_iff (h : s.Held) {e : TlsEvent} (hs : Secure s e) : (tlsStep s e).Lossless ↔ ScratchIdle s e := by
  cases e with
  | read env n bytes records => exact iff_of_true (h.lossless.read hs env n bytes records) trivial
  | poll env => exact h.scratched_iff _
  | send env parts => exact h.scratched_iff _
  | other con => exact iff_of_true h.lossless trivial

/-- While all that was decrypted was read, reads into the scratch buffer find nothing. -/
lemma Held.step (h : s.Held) (he : s.Exact) {e : TlsEvent} (hs : Secure s e) : (tlsStep s e).Held := by
  refine ⟨(h.lossless_iff hs).mpr ?_, step_ne_nil h.records e⟩
  have hnil := h.exact_iff.mp he
  cases e with
  | poll env => exact fun _ => hnil
  | send env parts => exact fun _ => hnil
  | read env n bytes records => trivial
  | other con => trivial

/-- **All that was decrypted is read exactly when a read of libuv brings at most one record, which fits.** -/
theorem Held.exact_step_iff (h : s.Held) (he : s.Exact) {e : TlsEvent} (hs : Secure s e) :
    (tlsStep s e).Exact ↔ SingleRecord s e := by
  have hnil := h.exact_iff.mp he
  rw [(h.step he hs).exact_iff]
  cases e with
  | read env n bytes records =>
    unfold tlsStep SingleRecord
    dsimp only
    split
    · next hroom =>
      rw [hroom]
      exact iff_of_true hnil fun b hb => absurd hb (Option.not_mem_none b)
    · next b hroom =>
      rw [hroom, received_records, hnil, List.nil_append, sslReadRecords_rest_nil_iff]
      simp only [Option.mem_def, Option.some.injEq, forall_eq']
  | poll env =>
    refine iff_of_true ?_ trivial
    show s.scratched _ = []
    unfold scratched
    rw [hnil, sslReadRecords_nil, ite_self]
  | send env parts =>
    refine iff_of_true ?_ trivial
    show s.scratched _ = []
    unfold scratched
    rw [hnil, sslReadRecords_nil, ite_self]
  | other con => exact iff_of_true hnil trivial

end Tls

/-- **When nothing is lost over TLS**: in every run, nothing that OpenSSL has decrypted is lost exactly as long as no poll
and no send finds something decrypted that was not read; and what is appended to the network buffer is at every time
exactly what was decrypted, in order, exactly as long as the bytes of each read of libuv complete at most one record,
which fits into the room there is. -/
theorem tls_receives_iff (con : Con) (es : List TlsEvent) (hs : Along tlsStep Secure (.start con) es) :
    (Throughout tlsStep Tls.Lossless (.start con) es ↔ Along tlsStep ScratchIdle (.start con) es) ∧
      (Throughout tlsStep Tls.Exact (.start con) es ↔ Along tlsStep SingleRecord (.start con) es) := by
  have hstart : (Tls.start con).Held := ⟨rfl, nofun⟩
  constructor
  · exact throughout_iff_along (I := fun s => ∀ r ∈ s.records, r ≠ []) (fun s e hI _ _ _ => Tls.step_ne_nil hI e)
      (fun s e hI hP hl => Tls.Held.lossless_iff ⟨hP, hI⟩ hl) hstart.records hstart.lossless hs
  · exact throughout_iff_along (I := Tls.Held) (fun s e hI hP hl _ => hI.step hP hl)
      (fun s e hI hP hl => hI.exact_step_iff hP hl) hstart rfl hs

/-- An environment in which the handshake of OpenSSL is over. -/
def Env.overTls : Env := { Env.calm with sslIsInitFinished := fun _ => true }

/-- A connection over TLS that waits for the answer to a command. -/
def Con.overTls : Con :=
  { Con.calm 0 with
    ssl.ssl := true, ssl.handshakeDone := true, stream := true, uv := .reading, status := .busy
    commandStatus := .send, nextPacketQueue := [.response] }

/-- A read of libuv that completes one record, then a poll. -/
theorem tls_receives_single :
    (Throughout tlsStep Tls.Lossless (.start .overTls) [.read .overTls 65536 [] [[7, 0, 0]], .poll .overTls] ↔
        Along tlsStep ScratchIdle (.start .overTls) [.read .overTls 65536 [] [[7, 0, 0]], .poll .overTls]) ∧
      (Throughout tlsStep Tls.Exact (.start .overTls) [.read .overTls 65536 [] [[7, 0, 0]], .poll .overTls] ↔
        Along tlsStep SingleRecord (.start .overTls) [.read .overTls 65536 [] [[7, 0, 0]], .poll .overTls]) :=
  tls_receives_iff .overTls _ (by decide +kernel)

/-- A read of libuv that completes two records: the second one is not appended, and the next poll drops it. -/
theorem tls_receives_dropped :
    ∃ con es, Along tlsStep Secure (.start con) es ∧ ¬ Throughout tlsStep Tls.Lossless (.start con) es ∧
      ¬ Throughout tlsStep Tls.Exact (.start con) es ∧
      (run tlsStep (.start con) es).decrypted = [7, 0, 0, 1, 0, 0, 0, 2, 0, 0, 0] ∧
      (run tlsStep (.start con) es).appended = [7, 0, 0, 1] ∧ (run tlsStep (.start con) es).records = [] := by
  refine ⟨.overTls, [.read .overTls 65536 [] [[7, 0, 0, 1], [0, 0, 0, 2, 0, 0, 0]], .poll .overTls],
    by decide +kernel, fun h => ?_, fun h => ?_, by decide +kernel, by decide +kernel, by decide +kernel⟩
  · exact absurd (show Tls.Lossless _ from h.2.2) (by unfold Tls.Lossless; decide +kernel)
  · exact absurd (show Tls.Exact _ from h.2.2) (by unfold Tls.Exact; decide +kernel)

end LibAttachSql
