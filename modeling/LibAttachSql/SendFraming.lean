import LibAttachSql.SendPaths
import LibAttachSql.Packets

/-!
# The framing of commands

Without compression a command goes out as one packet: a header with the length of the payload in three bytes, the byte
of the command, the bytes kept for it in the write buffer, and the data.  The length is packed without a look at its
size, and no payload is split.  Read back with the library's own rule for packets, a command is what was sent exactly
when its payload is shorter than `2 ^ 24` bytes.
-/

namespace LibAttachSql

open Lib

/-! ### What is handed on -/

/-- The bytes an action hands on: to libuv, or to OpenSSL where the TLS handshake is done. -/
def Action.handed (tls : Bool) : Action → Option (List UInt8)
  | .write bytes => if tls then none else some bytes
  | .sslBuffered bytes => if tls then some bytes else none
  | _ => none

/-- The pieces that were handed on between two states of a connection, oldest first. -/
def handedOn (con con' : Con) : List (List UInt8) :=
  ((newActions con con').filterMap (Action.handed con.ssl.handshakeDone)).reverse

/-- From `con` to `con'` one piece was handed on, or none, but not none where it is taken for sure. -/
def Hands (tls : Bool) (taken : Prop) (bytes : List UInt8) (con con' : Con) : Prop :=
  ∃ x, con'.trace = x ++ con.trace ∧
    (x.filterMap (Action.handed tls) = [bytes] ∨ ¬ taken ∧ x.filterMap (Action.handed tls) = [])

/-- Without TLS libuv takes these bytes. -/
def Con.Takes (env : Env) (con : Con) (bytes : List UInt8) : Prop :=
  con.ssl.handshakeDone = false ∧ con.stream = true ∧ env.uvWrite bytes = none

section Hands

variable {tls : Bool} {taken : Prop} {bytes : List UInt8} {con con₁ con' : Con} {x : List Action}

lemma Hands.handedOn (h : Hands con.ssl.handshakeDone taken bytes con con') :
    handedOn con con' = [bytes] ∨ ¬ taken ∧ handedOn con con' = [] := by
  obtain ⟨x, hx, h⟩ := h
  unfold LibAttachSql.handedOn
  rw [newActions_eq hx]
  rcases h with h | ⟨ht, h⟩ <;> rw [h]
  · exact .inl rfl
  · exact .inr ⟨ht, rfl⟩

/-- Nothing was handed on before. -/
lemma Hands.before (h : Hands tls taken bytes con₁ con') (ht : con₁.trace = x ++ con.trace)
    (hx : x.filterMap (Action.handed tls) = []) : Hands tls taken bytes con con' := by
  obtain ⟨y, hy, h⟩ := h
  refine ⟨y ++ x, by rw [hy, ht, List.append_assoc], ?_⟩
  rwa [List.filterMap_append, hx, List.append_nil]

/-- Nothing is handed on after. -/
lemma Hands.after (h : Hands tls taken bytes con con₁) (ht : con'.trace = x ++ con₁.trace)
    (hx : x.filterMap (Action.handed tls) = []) : Hands tls taken bytes con con' := by
  obtain ⟨y, hy, h⟩ := h
  refine ⟨x ++ y, by rw [ht, hy, List.append_assoc], ?_⟩
  rwa [List.filterMap_append, hx, List.nil_append]

/-- Once its bytes are in OpenSSL a write hands nothing on that was not handed to OpenSSL before. -/
lemma wire_handed {c c' : Control} (h : Path Control.WireMove c x c') : x.filterMap (Action.handed true) = [] := by
  induction h with
  | refl => rfl
  | snoc _ hm ih =>
    rw [List.filterMap_append, ih, List.append_nil]
    cases hm <;> rfl

lemma pushed_handed {t : PacketType} {c c' : Control} (h : Control.Pushed t c x c') :
    x.filterMap (Action.handed tls) = [] := by
  cases h <;> rfl

end Hands

variable (env : Env) (con : Con)

/-- A write hands on its parts in one piece. -/
lemma netWrite_hands {parts : List (List UInt8)} {con' : Con} {failure : Option String}
    (hw : netWrite env con parts = (con', failure)) :
    Hands con.ssl.handshakeDone (con.Takes env parts.flatten) parts.flatten con con' := by
  unfold netWrite at hw
  split_ifs at hw with h
  · have hno : ¬ con.Takes env parts.flatten := fun ht => by
      rw [ht.1] at h
      cases h
    cases hw
    rw [h]
    unfold sslBufferWrite
    dsimp only
    split
    · exact ⟨[.fault], rfl, .inr ⟨hno, rfl⟩⟩
    · next b _ =>
      obtain ⟨x, hx, hP⟩ := sslRun_does env
        ({ con with ssl.writeBuffer := some (parts.foldl BufferSt.append b) }.log (.sslBuffered parts.flatten))
      refine ⟨x ++ [.sslBuffered parts.flatten], by rw [hx, List.append_assoc]; rfl, .inl ?_⟩
      rw [List.filterMap_append, wire_handed hP]
      rfl
  · rw [Bool.eq_false_iff.mpr h]
    unfold uvWrite at hw
    split_ifs at hw with hs
    · split at hw
      · cases hw
        exact ⟨[.write parts.flatten], rfl, .inl rfl⟩
      · next name hu =>
        cases hw
        have hno : ¬ con.Takes env parts.flatten := fun ht => by
          rw [ht.2.2] at hu
          cases hu
        exact ⟨[], rfl, .inr ⟨hno, rfl⟩⟩
    · cases hw
      exact ⟨[.fault], rfl, .inr ⟨fun ht => hs ht.2.1, rfl⟩⟩

/-! ### Commands -/

/-- The payload of a command: its byte, the bytes kept for it behind that byte, and its data. -/
def commandPayload (con : Con) (command : Command) (data : List UInt8) : List UInt8 :=
  command.code :: con.writeBuffer.slice 1 con.writeBufferExtra ++ data

lemma length_commandPayload (command : Command) (data : List UInt8) :
    (commandPayload con command data).length = data.length + 1 + con.writeBufferExtra := by
  unfold commandPayload
  simp only [List.cons_append, List.length_cons, List.length_append, Memory.length_slice]
  omega

/-- The bytes of the write buffer with the byte of the command in front. -/
lemma slice_store_code (m : Memory UInt8) (command : Command) (n : ℕ) :
    (m.store 0 [command.code]).slice 0 (1 + n) = command.code :: m.slice 1 n := by
  have hcode : (m.store 0 [command.code]).slice 0 1 = [command.code] := Memory.slice_store m 0 [command.code]
  rw [Memory.slice_add, hcode, Memory.slice_store_of_disjoint (.inr (by simp)), List.singleton_append]

variable {con} (command : Command) (data : List UInt8)

lemma commandWrite_hands {con' : Con} {failure : Option String}
    (hw : commandWrite env con command data = (con', failure)) :
    Hands con.ssl.handshakeDone (con.Takes env (con.packetHeader ++ commandPayload con command data))
      (con.packetHeader ++ commandPayload con command data) con con' := by
  have h := netWrite_hands env _ hw
  have hparts : (if 0 < data.length then
      [con.packetHeader, (con.writeBuffer.store 0 [command.code]).slice 0 (1 + con.writeBufferExtra), data]
      else [con.packetHeader, (con.writeBuffer.store 0 [command.code]).slice 0 (1 + con.writeBufferExtra)]).flatten =
      con.packetHeader ++ commandPayload con command data := by
    rw [slice_store_code]
    unfold commandPayload
    split_ifs with hd
    · simp
    · rw [List.length_eq_zero_iff.mp (Nat.eq_zero_of_not_pos hd)]
      simp
  rw [← hparts]
  exact h

lemma commandSendPlain_hands :
    Hands con.ssl.handshakeDone (con.Takes env (con.packetHeader ++ commandPayload con command data))
      (con.packetHeader ++ commandPayload con command data) con (commandSendPlain env con command data).1 := by
  unfold commandSendPlain
  split
  · next con' name hw =>
    exact (commandWrite_hands env command data hw).after (x := [.failed .commandSend con'.status con'.serverErrno]) rfl rfl
  · next con' hw =>
    have hsent : (commandSent (expectedResponse env con' command)).trace =
        [.sent (expectedResponse env con' command).status] ++ (expectedResponse env con' command).trace := rfl
    refine Hands.after ?_ hsent rfl
    rw [expectedResponse_eq]
    split_ifs
    · exact commandWrite_hands env command data hw
    all_goals
      obtain ⟨x, hx, hp⟩ := packetQueuePush_does env con' _
      exact (commandWrite_hands env command data hw).after hx (pushed_handed hp)

/-- The packet of a command. -/
def commandPacket (con : Con) (command : Command) (data : List UInt8) : List UInt8 :=
  packInt3 (data.length + 1 + con.writeBufferExtra) ++ [0] ++ commandPayload con command data

/-- **What a command hands on without compression**: its packet. -/
theorem commandSend_hands (h : con.wantsCompress = false) :
    Hands con.ssl.handshakeDone (con.Takes env (commandPacket con command data)) (commandPacket con command data) con
      (commandSend env con command data).1 := by
  have hplain : commandSend env con command data =
      commandSendPlain env (commandStart con command data.length) command data :=
    if_neg (Bool.eq_false_iff.mp h)
  have hstart : (commandStart con command data.length).trace =
      [.onStream con.stream con.ssl.handshakeDone, .command command con.status] ++ con.trace := rfl
  rw [hplain]
  exact (@commandSendPlain_hands env (commandStart con command data.length) command data).before hstart rfl

/-! ### Reading a command back -/

/-- The payloads of the packets of a stream, read with the library's rule for packets and joined. -/
def readPayload (bs : List UInt8) : Option (List UInt8) :=
  (readFrames 3 1 bs).map fun packets => (packets.map Frame.payload).flatten

lemma littleEndian_packInt3_eq_iff (n : ℕ) : littleEndian (packInt3 n) = n ↔ n < 2 ^ 24 := by
  simp only [packInt3, littleEndian, toNat_byteAt]
  omega

/-- A packet of a command is read back exactly when the length of its payload fits into three bytes. -/
lemma readPayload_commandPacket_iff :
    readPayload (commandPacket con command data) = some (commandPayload con command data) ↔
      1 + con.writeBufferExtra + data.length < 2 ^ 24 := by
  have hlength := @length_commandPayload con command data
  unfold readPayload commandPacket
  rw [List.append_assoc]
  refine (readFrames_eq_payload_iff (n := 3) (k := 1) rfl rfl (by decide)).trans ?_
  rw [hlength, littleEndian_packInt3_eq_iff]
  omega

/-- **Where the framing of commands is right**: what a command hands on without compression is read back as its payload
exactly when the payload is shorter than `2 ^ 24` bytes. -/
theorem command_framed_iff (h : con.wantsCompress = false)
    (hand : handedOn con (commandSend env con command data).1 ≠ []) :
    readPayload (handedOn con (commandSend env con command data).1).flatten = some (commandPayload con command data) ↔
      1 + con.writeBufferExtra + data.length < 2 ^ 24 := by
  have hone := (commandSend_hands env command data h).handedOn.resolve_right fun hn => hand hn.2
  rw [hone, List.flatten_singleton]
  exact readPayload_commandPacket_iff command data

/-- A query of one byte on a connection that is there. -/
theorem command_framed_iff_query :
    readPayload (handedOn { Con.calm 0 with stream := true }
        (commandSend .calm { Con.calm 0 with stream := true } .query [0x53]).1).flatten =
        some (commandPayload { Con.calm 0 with stream := true } .query [0x53]) ↔
      1 + 0 + 1 < 2 ^ 24 :=
  @command_framed_iff .calm { Con.calm 0 with stream := true } .query [0x53] (by decide) (by decide +kernel)

/-- A query of `2 ^ 24 - 1` bytes is handed on, and not read back. -/
theorem long_query_not_framed :
    handedOn { Con.calm 0 with stream := true }
        (commandSend .calm { Con.calm 0 with stream := true } .query (List.replicate (2 ^ 24 - 1) 0x20)).1 ≠ [] ∧
      readPayload (handedOn { Con.calm 0 with stream := true }
        (commandSend .calm { Con.calm 0 with stream := true } .query (List.replicate (2 ^ 24 - 1) 0x20)).1).flatten ≠
        some (commandPayload { Con.calm 0 with stream := true } .query (List.replicate (2 ^ 24 - 1) 0x20)) := by
  generalize hdata : List.replicate (2 ^ 24 - 1) (0x20 : UInt8) = data
  have hlength : data.length = 2 ^ 24 - 1 := by rw [← hdata, List.length_replicate]
  have hhands := @commandSend_hands .calm { Con.calm 0 with stream := true } .query data (by decide)
  have hone := hhands.handedOn.resolve_right fun hn => hn.1 ⟨rfl, rfl, rfl⟩
  rw [hone, List.flatten_singleton]
  refine ⟨List.cons_ne_nil _ _, fun hread => ?_⟩
  have hlt := (readPayload_commandPacket_iff .query data).mp hread
  rw [hlength] at hlt
  omega

end LibAttachSql
