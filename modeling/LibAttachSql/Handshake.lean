import LibAttachSql.Definitions
import LibAttachSql.Negotiation
import Mathlib.Data.List.TakeWhile

/-!
# The first packet

The first packet of a server is a handshake, or an ERR packet by which it turns the client away.  This module says what
`attachsql_packet_read_handshake` makes of either: how far the fields of a handshake are read right, which stand behind
a version of any length, and what becomes of a connection that was turned away.
-/

namespace LibAttachSql

open Lib

/-! ### Handshakes -/

/-- A handshake of protocol 10.  `skipped` are the upper capabilities, the length of the scramble and the reserved
bytes, `plugin` is what comes behind the scramble. -/
structure Greeting where
  version : List UInt8
  threadId : UInt32
  scramble : List UInt8
  capabilities : UInt16
  charset : UInt8
  status : UInt16
  skipped : List UInt8
  plugin : List UInt8
  version_ends : 0 ∉ version
  scramble_length : scramble.length = 20
  skipped_length : skipped.length = 13

/-- What a connection knows from a handshake. -/
structure Greeted where
  serverVersion : List UInt8
  threadId : ℕ
  scramble : List UInt8
  serverCapabilities : ℕ
  charset : UInt8
  serverStatus : ℕ
  deriving DecidableEq

/-- What the connection knows from a handshake. -/
def Con.greeted (con : Con) : Greeted where
  serverVersion := con.serverVersion
  threadId := con.threadId
  scramble := con.scrambleBuffer
  serverCapabilities := con.serverCapabilities
  charset := con.charset
  serverStatus := con.serverStatus

namespace Greeting

variable (g : Greeting)

/-- The numbers of a handshake, behind its version. -/
def numbers : List UInt8 :=
  packInt4 g.threadId.toNat ++ (g.scramble.take 8 ++ (0 :: (packInt2 g.capabilities.toNat ++ (g.charset ::
    (packInt2 g.status.toNat ++ (g.skipped ++ (g.scramble.drop 8 ++ (0 :: g.plugin))))))))

/-- The payload of the packet. -/
def payload : List UInt8 := 10 :: (g.version ++ (0 :: g.numbers))

/-- What there is to know from the handshake: the version as far as it fits, and the numbers as they are. -/
def greeted : Greeted where
  serverVersion := g.version.take (maxServerVersionLen - 1)
  threadId := g.threadId.toNat
  scramble := g.scramble
  serverCapabilities := g.capabilities.toNat
  charset := g.charset
  serverStatus := g.status.toNat

lemma length_numbers : 44 ≤ g.numbers.length := by
  have hscramble := g.scramble_length
  have hskipped := g.skipped_length
  unfold numbers packInt4 packInt2
  simp only [List.length_append, List.length_cons, List.length_nil, List.length_take, List.length_drop, hscramble, hskipped]
  omega

end Greeting

/-! ### What is left alone on the way to the answer -/

section Frame

variable (env : Env) (con : Con)

lemma Con.SendOnly.greeted {con con' : Con} (h : con.SendOnly con') : con'.greeted = con.greeted := by
  unfold SendOnly at h
  rw [h]
  rfl

lemma packetQueuePush_greeted (t : PacketType) : (packetQueuePush env con t).greeted = con.greeted := by
  obtain ⟨queue, size, bytes, trace, h⟩ := packetQueuePush_frame env con t
  rw [h]
  rfl

lemma sendData_greeted (data : List UInt8) : (sendData env con data).greeted = con.greeted :=
  sendData_keeps env con Con.greeted Con.SendOnly.greeted (fun _ _ => rfl) data

lemma sendWriteBuffer_greeted (payload : List UInt8) : (sendWriteBuffer env con payload).greeted = con.greeted :=
  sendData_greeted env _ payload

/-- The answer to a handshake leaves what is known from it alone. -/
lemma handshakeResponse_greeted : (handshakeResponse env con).greeted = con.greeted :=
  handshakeResponse_keeps env con Con.greeted (sendWriteBuffer_greeted env) (packetQueuePush_greeted env)
    (fun _ => rfl) (fun _ => rfl) (fun _ => rfl) (fun _ => rfl)

lemma checkOldAuth_greeted : (checkOldAuth con).greeted = con.greeted := by
  unfold checkOldAuth
  split_ifs <;> rfl

end Frame

/-! ### Handshakes that are read -/

section Read

variable {con : Con} {g : Greeting}

/-- The numbers of a handshake, read at their places. -/
lemma numbers_read {m : Memory UInt8} {p : ℕ} (h : m.slice p g.numbers.length = g.numbers) :
    unpackInt4 m p = g.threadId.toNat ∧ m.slice (p + 4) 8 ++ m.slice (p + 4 + 9 + 18) 12 = g.scramble ∧
      unpackInt2 m (p + 4 + 9) = g.capabilities.toNat ∧ m (p + 4 + 9 + 2) = g.charset ∧
      unpackInt2 m (p + 4 + 9 + 3) = g.status.toNat := by
  have hfirst : (g.scramble.take 8).length = 8 := by
    rw [List.length_take, g.scramble_length]
    rfl
  have hsecond : (g.scramble.drop 8).length = 12 := by rw [List.length_drop, g.scramble_length]
  -- the numbers, one behind the other
  obtain ⟨hthread, h⟩ := Memory.slice_eq_append h
  obtain ⟨hscramble, h⟩ := Memory.slice_eq_append h
  obtain ⟨-, h⟩ := List.cons.inj ((Memory.slice_succ m _ _).symm.trans h)
  obtain ⟨hcapabilities, h⟩ := Memory.slice_eq_append h
  obtain ⟨hcharset, h⟩ := List.cons.inj ((Memory.slice_succ m _ _).symm.trans h)
  obtain ⟨hstatus, h⟩ := Memory.slice_eq_append h
  obtain ⟨-, h⟩ := Memory.slice_eq_append h
  obtain ⟨hrest, -⟩ := Memory.slice_eq_append h
  simp only [packInt4, packInt2, List.length_cons, List.length_nil, hfirst, hsecond, g.skipped_length, Nat.zero_add,
    Nat.add_assoc, Nat.reduceAdd] at hthread hscramble hcapabilities hcharset hstatus hrest ⊢
  refine ⟨unpackInt4_of_slice hthread g.threadId.toNat_lt, ?_, unpackInt2_of_slice hcapabilities g.capabilities.toNat_lt,
    hcharset, unpackInt2_of_slice hstatus g.status.toNat_lt⟩
  rw [hscramble, hrest, List.take_append_drop]

/-- What is kept of a string that ends with a NUL, when `n` bytes are copied. -/
lemma takeWhile_take {s rest : List UInt8} (hs : 0 ∉ s) {n : ℕ} (hn : 0 < n) :
    (((s ++ 0 :: rest).take n).takeWhile (· ≠ 0)).take (n - 1) = s.take (n - 1) := by
  have hall : ∀ b ∈ s, decide (b ≠ 0) = true := fun b hb => decide_eq_true (ne_of_mem_of_not_mem hb hs)
  rcases Nat.lt_or_ge s.length n with h | h
  · obtain ⟨d, rfl⟩ := Nat.exists_eq_add_of_lt h
    rw [Nat.add_assoc, List.take_length_add_append, List.take_succ_cons,
      List.takeWhile_append_of_pos hall, List.takeWhile_cons_of_neg (by simp), List.append_nil]
  · rw [List.take_append_of_le_length h, List.takeWhile_eq_self_iff.mpr fun b hb => hall b (List.mem_of_mem_take hb),
      List.take_take, Nat.min_eq_left (Nat.sub_le n 1)]

/-- The version that is kept is the version as far as it fits. -/
lemma handshakeFields_version (h : con.Opened g.payload) :
    (handshakeFields con).serverVersion = g.version.take (maxServerVersionLen - 1) := by
  obtain ⟨-, hversion⟩ := List.cons.inj ((Memory.slice_succ con.buf.mem _ _).symm.trans h.payload_eq)
  have hlength := g.length_numbers
  have hslice : con.buf.mem.slice (con.buf.bufferReadPtr + 1) maxServerVersionLen =
      (g.version ++ 0 :: g.numbers).take maxServerVersionLen := by
    rw [← hversion, Memory.take_slice, Nat.min_eq_left]
    rw [List.length_append, List.length_cons]
    exact Nat.le_add_left_of_le (le_trans (by decide) (Nat.le_succ_of_le hlength))
  show ((con.buf.mem.slice (con.buf.bufferReadPtr + 1) maxServerVersionLen).takeWhile (· ≠ 0)).take
    (maxServerVersionLen - 1) = _
  rw [hslice, takeWhile_take g.version_ends (by decide)]

/-- What `attachsql_packet_read_handshake` knows, in terms of where it takes the version to end. -/
lemma handshakeFields_greeted :
    (handshakeFields con).greeted =
      { serverVersion := (handshakeFields con).serverVersion
        threadId := unpackInt4 con.buf.mem con.behindVersion
        scramble := con.buf.mem.slice (con.behindVersion + 4) 8 ++ con.buf.mem.slice (con.behindVersion + 4 + 9 + 18) 12
        serverCapabilities := unpackInt2 con.buf.mem (con.behindVersion + 4 + 9)
        charset := con.buf.mem (con.behindVersion + 4 + 9 + 2)
        serverStatus := unpackInt2 con.buf.mem (con.behindVersion + 4 + 9 + 3) } := rfl

/-- The reader of handshakes knows what the fields say. -/
lemma packetReadHandshake_greeted (env : Env) (h : con.Opened g.payload) :
    (packetReadHandshake env con).greeted = (handshakeFields con).greeted := by
  have hten : con.peekByte 0 = 10 := (List.cons.inj ((Memory.slice_succ con.buf.mem _ _).symm.trans h.payload_eq)).1
  rw [packetReadHandshake_ten env con hten, handshakeResponse_greeted]
  exact checkOldAuth_greeted _

/-- **A handshake is read right** when its version fits. -/
theorem handshakeFields_of_short (h : con.Opened g.payload) (hg : g.version.length < maxServerVersionLen) :
    (handshakeFields con).greeted = g.greeted := by
  have hversion := handshakeFields_version h
  rw [List.take_of_length_le (Nat.le_sub_one_of_lt hg)] at hversion
  obtain ⟨-, hrest⟩ := List.cons.inj ((Memory.slice_succ con.buf.mem _ _).symm.trans h.payload_eq)
  obtain ⟨-, hrest⟩ := Memory.slice_eq_append hrest
  obtain ⟨-, hnumbers⟩ := List.cons.inj ((Memory.slice_succ con.buf.mem _ _).symm.trans hrest)
  have hbehind : con.behindVersion = con.buf.bufferReadPtr + 1 + g.version.length + 1 := by
    unfold Con.behindVersion
    rw [hversion]
  obtain ⟨hthread, hscramble, hcapabilities, hcharset, hstatus⟩ := numbers_read (hbehind ▸ hnumbers)
  rw [handshakeFields_greeted, hversion, hthread, hscramble, hcapabilities, hcharset, hstatus]
  unfold Greeting.greeted
  rw [List.take_of_length_le (Nat.le_sub_one_of_lt hg)]

/-- Of a longer version one byte is taken for the lowest one of the thread id. -/
lemma threadId_of_long (h : con.Opened g.payload) (hg : maxServerVersionLen ≤ g.version.length) :
    (handshakeFields con).threadId % 256 = ((g.version ++ [0]).getD maxServerVersionLen 0).toNat := by
  have hbehind : con.behindVersion = con.buf.bufferReadPtr + 1 + maxServerVersionLen := by
    unfold Con.behindVersion
    rw [handshakeFields_version h, List.length_take, Nat.min_eq_left ((Nat.sub_le _ 1).trans hg)]
    rfl
  obtain ⟨-, hrest⟩ := List.cons.inj ((Memory.slice_succ con.buf.mem _ _).symm.trans h.payload_eq)
  have hbyte : (g.version ++ [0]).getD maxServerVersionLen 0 = con.buf.mem con.behindVersion := by
    have hat : maxServerVersionLen < (g.version ++ [0]).length := by
      rw [List.length_append]
      exact Nat.lt_succ_of_le hg
    have hsplit : g.version ++ 0 :: g.numbers = (g.version ++ [0]) ++ g.numbers := by
      rw [List.append_assoc]
      rfl
    rw [hsplit] at hrest
    obtain ⟨hrest, -⟩ := Memory.slice_eq_append hrest
    rw [List.getD_eq_getElem _ _ hat, hbehind]
    rw [← Memory.getElem_slice con.buf.mem (con.buf.bufferReadPtr + 1) (g.version ++ [0]).length maxServerVersionLen
      (by rw [Memory.length_slice]; exact hat)]
    simp only [hrest]
  rw [hbyte]
  show unpackInt4 con.buf.mem con.behindVersion % 256 = _
  have hlt := (con.buf.mem con.behindVersion).toNat_lt
  unfold unpackInt4
  omega

end Read

/-- A handshake with this version and thread id. -/
def greetingOf (version : List UInt8) (h : 0 ∉ version) (threadId : UInt32) : Greeting where
  version := version
  threadId := threadId
  scramble := List.replicate 20 1
  capabilities := 512
  charset := 8
  status := 2
  skipped := List.replicate 13 0
  plugin := []
  version_ends := h
  scramble_length := rfl
  skipped_length := rfl

/-- A connection whose read buffer holds these bytes from its start on, as an open packet. -/
def Con.holding (con : Con) (payload : List UInt8) : Con :=
  { con with
    packetSize := payload.length
    readBuffer := some
      { buffer := 4096, bufferSize := defaultBufferSize, bufferUsed := payload.length,
        bufferWritePtr := 4096 + payload.length, bufferReadPtr := 4096, packetEndPtr := some (4096 + payload.length),
        mem := Memory.store (fun _ => 0) 4096 payload } }

lemma Con.opened_holding (con : Con) (payload : List UInt8) : (con.holding payload).Opened payload :=
  ⟨rfl, rfl, Memory.slice_store _ _ _⟩

/-- **When handshakes are read right**: those with a version of at most 31 bytes are, whatever the rest of them is and
whatever the connection did before, and with a longer version not all are. -/
theorem handshake_read (version : List UInt8) (h : 0 ∉ version) :
    (∀ (g : Greeting), g.version = version → ∀ (env : Env) (con : Con), con.Opened g.payload →
        (packetReadHandshake env con).greeted = g.greeted) ↔ version.length < maxServerVersionLen := by
  constructor
  · intro hread
    by_contra hlong
    -- the thread id repeats a byte that is not the one behind the kept part of the version
    let c : UInt8 := (version ++ [0]).getD maxServerVersionLen 0 + 1
    let g := greetingOf version h (UInt32.ofNat c.toNat)
    have hopened := Con.opened_holding (Con.calm 0) g.payload
    have hid := congrArg Greeted.threadId (hread g rfl .calm _ hopened)
    rw [packetReadHandshake_greeted _ hopened] at hid
    have hlow := threadId_of_long hopened (not_lt.mp hlong)
    have hid' : (handshakeFields ((Con.calm 0).holding g.payload)).threadId = c.toNat := by
      refine hid.trans ?_
      show (UInt32.ofNat c.toNat).toNat = c.toNat
      rw [UInt32.toNat_ofNat']
      exact Nat.mod_eq_of_lt (c.toNat_lt.trans (by decide))
    rw [hid', Nat.mod_eq_of_lt c.toNat_lt] at hlow
    have hnext : (((version ++ [0]).getD maxServerVersionLen 0).toNat + 1) % 256 =
        ((version ++ [0]).getD maxServerVersionLen 0).toNat := hlow
    have hlt := ((version ++ [0]).getD maxServerVersionLen 0).toNat_lt
    omega
  · rintro hshort g rfl env con hopened
    rw [packetReadHandshake_greeted env hopened, handshakeFields_of_short hopened hshort]

theorem handshake_read_five :
    0 ∉ ([0x35, 0x2e, 0x35] : List UInt8) ∧ ((∀ (g : Greeting), g.version = [0x35, 0x2e, 0x35] →
        ∀ (env : Env) (con : Con), con.Opened g.payload → (packetReadHandshake env con).greeted = g.greeted) ↔
      ([0x35, 0x2e, 0x35] : List UInt8).length < maxServerVersionLen) :=
  ⟨by decide, handshake_read [0x35, 0x2e, 0x35] (by decide)⟩

/-- The version of a MariaDB server, of 36 bytes: `5.5.5-10.0.38-MariaDB-1~xenial-wsrep`. -/
def mariadbVersion : List UInt8 :=
  [0x35, 0x2e, 0x35, 0x2e, 0x35, 0x2d, 0x31, 0x30, 0x2e, 0x30, 0x2e, 0x33, 0x38, 0x2d, 0x4d, 0x61, 0x72, 0x69, 0x61, 0x64,
    0x42, 0x2d, 0x31, 0x7e, 0x78, 0x65, 0x6e, 0x69, 0x61, 0x6c, 0x2d, 0x77, 0x73, 0x72, 0x65, 0x70]

/-- A handshake whose version has 36 bytes is misread. -/
theorem handshake_misread :
    ∃ (g : Greeting) (con : Con), con.Opened g.payload ∧ (packetReadHandshake .calm con).greeted ≠ g.greeted :=
  ⟨greetingOf mariadbVersion (by decide) 7, (Con.calm 0).holding (greetingOf mariadbVersion (by decide) 7).payload,
    by decide +kernel, by decide +kernel⟩

/-! ### Clients that are turned away -/

/-- An ERR packet with its SQLSTATE. -/
structure ErrorPacket where
  errno : UInt16
  sqlstate : List UInt8
  message : List UInt8
  sqlstate_length : sqlstate.length = 5

/-- The payload of the packet. -/
def ErrorPacket.payload (e : ErrorPacket) : List UInt8 :=
  0xff :: (packInt2 e.errno.toNat ++ (0x23 :: (e.sqlstate ++ e.message)))

/-- The actions between two states of a connection, newest first. -/
def Con.since (con con' : Con) : List Action := con'.trace.take (con'.trace.length - con.trace.length)

/-- A client is turned away as it should be: it knows why, has sent nothing and taken nothing for a handshake, and the
connection is not going on. -/
structure Con.TurnedAway (con con' : Con) (e : ErrorPacket) : Prop where
  errno : con'.serverErrno = e.errno.toNat
  message : con'.serverMessage = (e.message.take (maxMessageLen - 1)).takeWhile (· ≠ 0)
  silent : ∀ bytes, .write bytes ∉ con.since con' ∧ .sslBuffered bytes ∉ con.since con' ∧
    .encrypted bytes ∉ con.since con'
  unparsed : ∀ s, .reported s ∉ con.since con'
  status : con'.status = .connectFailed
  queue : con'.nextPacketQueue = []

section Away

variable {env : Env} {con : Con} {e : ErrorPacket}

lemma Con.since_of_append {con' : Con} {x : List Action} (h : con'.trace = x ++ con.trace) : con.since con' = x := by
  unfold Con.since
  rw [h, List.length_append, Nat.add_sub_cancel, List.take_left]

/-- What is read of an ERR packet. -/
lemma packetReadErr_known (h : con.Opened e.payload) :
    (packetReadErr con).serverErrno = e.errno.toNat ∧
      (packetReadErr con).serverMessage = (e.message.take (maxMessageLen - 1)).takeWhile (· ≠ 0) := by
  have hsize : e.payload.length = 9 + e.message.length := by
    unfold ErrorPacket.payload packInt2
    simp only [List.length_cons, List.length_append, List.length_nil, e.sqlstate_length]
    omega
  obtain ⟨-, hrest⟩ := List.cons.inj ((Memory.slice_succ con.buf.mem _ _).symm.trans h.payload_eq)
  obtain ⟨herrno, hrest⟩ := Memory.slice_eq_append hrest
  obtain ⟨-, hrest⟩ := List.cons.inj ((Memory.slice_succ con.buf.mem _ _).symm.trans hrest)
  obtain ⟨-, hmessage⟩ := Memory.slice_eq_append hrest
  simp only [packInt2, List.length_cons, List.length_nil, e.sqlstate_length, Nat.add_assoc, Nat.reduceAdd]
    at herrno hmessage
  refine ⟨unpackInt2_of_slice herrno e.errno.toNat_lt, ?_⟩
  show printString con.buf.mem (con.buf.bufferReadPtr + 1 + 8) (con.packetSize - 9) maxMessageLen = _
  unfold printString
  rw [if_pos (by rw [h.size_eq, hsize]; omega), h.size_eq, hsize]
  rw [show (((9 + e.message.length : ℕ) : ℤ) - 9).toNat = e.message.length by omega, Nat.min_comm, ← Memory.take_slice,
    Nat.add_assoc, hmessage]

/-- Reading goes on behind the ERR packet: the byte there is taken for the version of a protocol. -/
lemma packetReadHandshake_err (h : con.Opened e.payload) :
    packetReadHandshake env con =
      if (packetReadEnd con).peekByte 0 ≠ 10 then
        { (packetReadErr con).fail .badProtocol with
          localErrcode := .badProtocol, errmsg := "Incompatible protocol version" }
      else handshakeResponse env (packetReadEnd (checkOldAuth (handshakeFields (packetReadErr con)))) := by
  have herr : con.peekByte 0 = 0xff := (List.cons.inj ((Memory.slice_succ con.buf.mem _ _).symm.trans h.payload_eq)).1
  unfold packetReadHandshake
  dsimp only
  rw [if_pos herr, packetReadResponse_of_err env con herr]
  rfl

lemma packetReadErr_status : (packetReadErr con).status =
    if con.commandStatus = .readResponse then .connectFailed else .idle := rfl

/-- What is parsed leaves its mark, whatever is done with it. -/
lemma parsed_reported (con : Con) :
    ∃ s x, (handshakeResponse env (packetReadEnd (checkOldAuth (handshakeFields con)))).trace =
      x ++ .reported s :: con.trace := by
  obtain ⟨x, hx, -⟩ := handshakeResponse_does env (packetReadEnd (checkOldAuth (handshakeFields con)))
  have hcheck : ∃ y, (packetReadEnd (checkOldAuth (handshakeFields con))).trace = y ++ (handshakeFields con).trace := by
    show ∃ y, (checkOldAuth (handshakeFields con)).trace = y ++ (handshakeFields con).trace
    generalize handshakeFields con = con₁
    unfold checkOldAuth
    split_ifs
    · exact ⟨[], rfl⟩
    · exact ⟨[_], rfl⟩
  obtain ⟨y, hy⟩ := hcheck
  refine ⟨(handshakeFields con).serverStatus, x ++ y, ?_⟩
  rw [hx, hy, handshakeFields_trace, List.append_assoc]

end Away

/-- **When a client is turned away as it should be**: the command status must be that of a connection that waits for a
response, which only a connection that has sent something has, and the byte at which reading goes on must not be the
number of the protocol. -/
theorem turned_away {env : Env} {con : Con} {e : ErrorPacket} (h : con.Opened e.payload) :
    con.TurnedAway (packetReadHandshake env con) e ↔
      con.commandStatus = .readResponse ∧ (packetReadEnd con).peekByte 0 ≠ 10 := by
  obtain ⟨herrno, hmessage⟩ := packetReadErr_known h
  rw [packetReadHandshake_err h]
  constructor
  · intro ht
    by_cases hten : (packetReadEnd con).peekByte 0 = 10
    · rw [if_neg (not_not.mpr hten)] at ht
      obtain ⟨s, x, hx⟩ := parsed_reported (packetReadErr con)
      have hsince : con.since (handshakeResponse env (packetReadEnd (checkOldAuth (handshakeFields (packetReadErr con))))) =
          x ++ [.reported s, .answered (.err (packetReadErr con).serverErrno) con.status con.commandStatus] :=
        Con.since_of_append (by rw [hx, List.append_assoc]; rfl)
      refine absurd ?_ (ht.unparsed s)
      rw [hsince]
      simp
    · rw [if_pos hten] at ht
      refine ⟨?_, hten⟩
      by_contra hs
      have hstatus : (packetReadErr con).status = .connectFailed := ht.status
      rw [packetReadErr_status, if_neg hs] at hstatus
      cases hstatus
  · rintro ⟨hs, hten⟩
    rw [if_pos hten]
    have hsince : con.since { (packetReadErr con).fail .badProtocol with
          localErrcode := .badProtocol, errmsg := "Incompatible protocol version" } =
        [.failed .badProtocol (packetReadErr con).status (packetReadErr con).serverErrno,
          .answered (.err (packetReadErr con).serverErrno) con.status con.commandStatus] := Con.since_of_append rfl
    refine ⟨herrno, hmessage, ?_, ?_, ?_, rfl⟩
    · rw [hsince]
      simp
    · rw [hsince]
      simp
    · show (packetReadErr con).status = .connectFailed
      rw [packetReadErr_status, if_pos hs]

/-- The error 1040, too many connections. -/
def tooMany : ErrorPacket where
  errno := 1040
  sqlstate := [0x30, 0x38, 0x30, 0x30, 0x34]
  message := [0x54, 0x6f, 0x6f, 0x20, 0x6d, 0x61, 0x6e, 0x79, 0x20, 0x63, 0x6f, 0x6e, 0x6e, 0x65, 0x63, 0x74, 0x69, 0x6f,
    0x6e, 0x73]
  sqlstate_length := rfl

/-- A connection that is being made, with this packet open in place of the handshake. -/
def beingMade (e : ErrorPacket) : Con :=
  { Con.calm 0 with status := .connecting, uv := .reading, stream := true }.holding e.payload

theorem turned_away_tooMany :
    (beingMade tooMany).Opened tooMany.payload ∧
      ((beingMade tooMany).TurnedAway (packetReadHandshake .calm (beingMade tooMany)) tooMany ↔
        (beingMade tooMany).commandStatus = .readResponse ∧ (packetReadEnd (beingMade tooMany)).peekByte 0 ≠ 10) :=
  ⟨Con.opened_holding _ _, turned_away (Con.opened_holding _ _)⟩

/-- A server that has too many connections turns the client away: the connection becomes idle, in a run from its creation
on. -/
theorem turned_away_idle :
    ¬ (beingMade tooMany).TurnedAway (packetReadHandshake .calm (beingMade tooMany)) tooMany ∧
      ∃ con es, Initial con ∧ (run sysStep con es).serverErrno = 1040 ∧ (run sysStep con es).status = .idle ∧
        (run sysStep con es).localErrcode = .badProtocol :=
  ⟨fun h => absurd h.status (by decide +kernel), Con.calm 0,
    [.call (.calm [.resolved none, .connected none]) .connect, .poll (.calm [.read 65536 (frame 0 tooMany.payload)])],
    Con.calm_initial 0, by decide +kernel, by decide +kernel, by decide +kernel⟩

end LibAttachSql
