import LibAttachSql.Handshake
import LibAttachSql.ResponseRun
import LibAttachSql.ScrambleHash
import LibAttachSql.SendFraming

/-!
# A login from the greeting to the verdict

The server greets a connection, the connection answers with a login, and the server lets it in or turns it away.  The server
below has an account: a user, and the double hash of a password.  Both parties are followed through the three packets: what
the library writes is what the server reads, and the connection ends up as the server decides.

The TLS handshake and compression come later or not at all here: a login is never compressed, and the connection has no
SSL object.
-/

namespace LibAttachSql

open Lib

/-! ### The server -/

/-- What a server knows of an account: the user, and the double hash of the password unless that is empty. -/
structure Account where
  user : List UInt8
  doubleHash : Option (List UInt8)

/-- The account of a user with a password. -/
def Account.of (user password : List UInt8) : Account where
  user := user
  doubleHash := if password = [] then none else some (sha1Hash (sha1Hash password))

/-- The login in a stream of one packet with the number 1. -/
def readLogin (bytes : List UInt8) : Option LoginRequest :=
  match readFrames 3 1 bytes with
  | some [f] => if f.header = [1] then decodeLogin f.payload else none
  | _ => none

namespace Account

/-- The login is one of the user, and its token is right for the scramble. -/
def Accepts (account : Account) (scramble : List UInt8) (request : LoginRequest) : Prop :=
  request.user = account.user ∧
    match account.doubleHash with
    | none => request.token = []
    | some doubleHash => NativeAccepts sha1Hash scramble doubleHash request.token

/-- The server reads a login out of the bytes, and accepts it. -/
def Admits (account : Account) (scramble bytes : List UInt8) : Prop :=
  match readLogin bytes with
  | none => False
  | some request => account.Accepts scramble request

instance (account : Account) (scramble : List UInt8) (request : LoginRequest) :
    Decidable (account.Accepts scramble request) := by
  rcases account with ⟨user, doubleHash⟩
  rcases doubleHash with ⟨⟩
  all_goals
    dsimp only [Accepts, NativeAccepts]
    infer_instance

lemma admits_iff {account : Account} {scramble bytes : List UInt8} :
    account.Admits scramble bytes ↔ ∃ request ∈ (readLogin bytes).toList, account.Accepts scramble request := by
  unfold Admits
  cases readLogin bytes with
  | none => simp
  | some request => simp

instance (account : Account) (scramble bytes : List UInt8) : Decidable (account.Admits scramble bytes) :=
  decidable_of_iff _ admits_iff.symm

/-- `Access denied`. -/
def denied : List UInt8 := [0x41, 0x63, 0x63, 0x65, 0x73, 0x73, 0x20, 0x64, 0x65, 0x6e, 0x69, 0x65, 0x64]

/-- The packet the server answers with: OK in autocommit mode, or the error 1045 with the SQLSTATE 28000. -/
def verdict (account : Account) (scramble bytes : List UInt8) : ResponsePacket :=
  if account.Admits scramble bytes then .ok 0 0 2 0 [] else .err 1045 [0x32, 0x38, 0x30, 0x30, 0x30] denied

end Account

/-! ### The connection -/

/-- A packet with this number and payload has arrived. -/
def Arrival.Brings (a : Arrival) (seq : UInt8) (payload : List UInt8) : Prop :=
  a.con.Bears payload ∧ a.con.buf.mem (a.con.buf.bufferReadPtr + 3) = seq

instance (a : Arrival) (seq : UInt8) (payload : List UInt8) : Decidable (a.Brings seq payload) :=
  inferInstanceAs (Decidable (_ ∧ _))

/-- A connection that was made, without TLS, and waits for the greeting. -/
structure Con.AwaitsGreeting (con : Con) : Prop where
  accepted : con.Accepted
  queue_eq : con.nextPacketQueue = [.handshake]
  room : con.HasQueue
  status_eq : con.status = .connecting
  number_eq : con.packetNumber = 0
  stream_eq : con.stream = true
  ssl_eq : con.ssl.ssl = false
  enabled_eq : con.ssl.enabled = false
  done_eq : con.ssl.handshakeDone = false

/-- A connection that has sent its login and waits for the verdict. -/
structure Con.AwaitsVerdict (con : Con) : Prop where
  queue_eq : con.nextPacketQueue = [.response]
  status_eq : con.status = .connecting
  commandStatus_eq : con.commandStatus = .readResponse
  number_eq : con.packetNumber = 1

/-- The greeting of a server of protocol 4.1, with a scramble that does not begin with a NUL and a version that fits. -/
structure Greeting.Plain (g : Greeting) : Prop where
  version : g.version.length < maxServerVersionLen
  protocol : g.capabilities.toNat.testBit capabilityProtocol41 = true
  scramble : g.scramble.headD 0 ≠ 0

/-- The library hashes with SHA-1, and libuv takes what is written. -/
structure Env.Serves (env : Env) : Prop where
  sha1_eq : env.sha1 = sha1Hash
  takes : ∀ bytes, env.uvWrite bytes = none

section Parts

variable {env : Env} {con : Con}

/-- `on_connect` leads to a connection that waits for the greeting. -/
lemma onConnect_awaitsGreeting (ha : con.Accepted) (hs : con.status = .connecting) (hq : con.nextPacketQueue = [])
    (hroom : con.HasQueue) (hn : con.packetNumber = 0) (hssl : con.ssl.ssl = false) (henabled : con.ssl.enabled = false)
    (hdone : con.ssl.handshakeDone = false) : (onConnect env con none).AwaitsGreeting := by
  unfold onConnect
  dsimp only
  rw [packetQueuePush_of_hasQueue env hq hroom]
  exact ⟨⟨ha.user_le, ha.user_nul, ha.schema_le, ha.schema_nul⟩, rfl, hroom, hs, hn, rfl, hssl, henabled, hdone⟩

/-- The login of a connection with a password: a token behind its length, which the server accepts. -/
lemma loginPayload_token {pass : List UInt8} (hsha : env.sha1 = sha1Hash) (hpass : con.pass = some pass)
    (hlength : con.scrambleBuffer.length = sha1DigestLength) (hscramble : con.scrambleBuffer.headD 0 ≠ 0) :
    ∃ n token, token.length = UInt8.toNat n ∧
      loginPayload env con = some (handshakeHead con ++ con.user ++ [0] ++ [n] ++ token ++ con.schema ++ [0]) ∧
      ∀ request : LoginRequest, request.user = con.user → request.token = token →
        (Account.of con.user pass).Accepts con.scrambleBuffer request := by
  unfold loginPayload Account.of Account.Accepts
  rw [hpass]
  cases pass with
  | nil => exact ⟨0, [], rfl, by simp, fun request huser htoken => ⟨huser, htoken⟩⟩
  | cons c pass =>
    have htoken : scramblePassword env con (c :: pass) = some (nativeToken sha1Hash con.scrambleBuffer (c :: pass)) := by
      unfold scramblePassword nativeToken xorBytes
      rw [if_neg hscramble, List.take_of_length_le hlength.le, hsha]
    refine ⟨UInt8.ofNat sha1DigestLength, nativeToken sha1Hash con.scrambleBuffer (c :: pass),
      length_nativeToken sha1Hash length_sha1Hash _ _, ?_, fun request huser htoken => ⟨huser, ?_⟩⟩
    · dsimp only
      rw [htoken]
      rfl
    · rw [if_neg (List.cons_ne_nil c pass), htoken]
      exact nativeAccepts_nativeToken sha1Hash length_sha1Hash _ _

/-- The bytes of a packet with its header are read back as one frame. -/
lemma readFrames_frame (seq : UInt8) {payload : List UInt8} (h : payload.length < 2 ^ 24) :
    readFrames 3 1 (frame seq payload) = some [⟨[seq], payload⟩] := by
  unfold frame
  rw [List.append_assoc]
  exact readFrames_single rfl rfl ((littleEndian_packInt3_eq_iff _).mpr h).symm (by decide)

/-- **A login is read back**, and accepted for the account of the password. -/
lemma loginPayload_admitted {pass : List UInt8} (hc : con.Accepted) (hsha : env.sha1 = sha1Hash)
    (hpass : con.pass = some pass) (hlength : con.scrambleBuffer.length = sha1DigestLength)
    (hscramble : con.scrambleBuffer.headD 0 ≠ 0) :
    ∃ payload, loginPayload env con = some payload ∧
      (Account.of con.user pass).Admits con.scrambleBuffer (frame 1 payload) := by
  obtain ⟨n, token, htoken, hpayload, haccepts⟩ := loginPayload_token hsha hpass hlength hscramble
  obtain ⟨hsize, request, hread, huser, -, hrequest⟩ := decodeLogin_login hc htoken
  refine ⟨_, hpayload, ?_⟩
  have hlt : writeBufferSize < 2 ^ 24 := by decide
  unfold Account.Admits readLogin
  rw [readFrames_frame 1 (hsize.trans_lt hlt)]
  dsimp only
  rw [if_pos rfl, hread]
  exact haccepts request huser hrequest

/-- A write without TLS on a connection that is being made. -/
lemma sendWriteBuffer_connecting (hs : con.status = .connecting) (hstream : con.stream = true)
    (henabled : con.ssl.enabled = false) (hdone : con.ssl.handshakeDone = false) (payload : List UInt8)
    (hw : env.uvWrite (frame (con.packetNumber + 1) payload) = none) :
    sendWriteBuffer env con payload =
      { con with
        writeBuffer := con.writeBuffer.store 0 payload
        packetNumber := con.packetNumber + 1
        packetHeader := packInt3 payload.length ++ [con.packetNumber + 1]
        commandStatus := .readResponse
        pendingWrites := con.pendingWrites + 1
        trace := .write (frame (con.packetNumber + 1) payload) :: con.trace } := by
  have hparts : [packInt3 payload.length ++ [con.packetNumber + 1], payload].flatten =
      frame (con.packetNumber + 1) payload := by
    unfold frame
    simp
  have htls : ∀ con' : Con, con'.ssl = con.ssl → startTls env con' = con' := fun con' hssl =>
    if_neg (by rw [hssl, henabled]; exact fun h => Bool.false_ne_true h.1)
  unfold sendWriteBuffer sendData
  rw [htls { con with writeBuffer := con.writeBuffer.store 0 payload } rfl]
  dsimp only
  rw [if_neg (by exact fun h => h.2 hs)]
  unfold netWrite
  rw [if_neg (by exact Bool.eq_false_iff.mp hdone)]
  unfold uvWrite
  rw [if_pos hstream, hparts, hw]
  rfl

/-- What an opened packet leaves alone of what a login is made of. -/
lemma opened_login (a : Arrival) (payload : List UInt8) :
    (a.opened .handshake payload).user = a.con.user ∧ (a.opened .handshake payload).pass = a.con.pass ∧
      (a.opened .handshake payload).schema = a.con.schema ∧ (a.opened .handshake payload).ssl = a.con.ssl ∧
      (a.opened .handshake payload).stream = a.con.stream ∧
      (a.opened .handshake payload).packetNumber = a.con.packetNumber ∧
      ∃ x, (a.opened .handshake payload).trace = x ++ a.con.trace ∧ x.filterMap (Action.handed false) = [] := by
  unfold Arrival.opened packetReady packetOpen packetAwaited packetQueuePop countPacket Con.log
  exact ⟨rfl, rfl, rfl, rfl, rfl, rfl, [_, _], rfl, rfl⟩

/-- And the fields of a handshake. -/
lemma handshakeFields_login (con : Con) :
    (packetReadEnd (handshakeFields con)).user = con.user ∧ (packetReadEnd (handshakeFields con)).pass = con.pass ∧
      (packetReadEnd (handshakeFields con)).schema = con.schema ∧ (packetReadEnd (handshakeFields con)).ssl = con.ssl ∧
      (packetReadEnd (handshakeFields con)).stream = con.stream ∧
      (packetReadEnd (handshakeFields con)).packetNumber = con.packetNumber ∧
      (packetReadEnd (handshakeFields con)).status = con.status ∧
      (packetReadEnd (handshakeFields con)).nextPacketQueue = con.nextPacketQueue ∧
      (con.HasQueue → (packetReadEnd (handshakeFields con)).HasQueue) ∧
      ∃ x, (packetReadEnd (handshakeFields con)).trace = x ++ con.trace ∧ x.filterMap (Action.handed false) = [] := by
  unfold packetReadEnd handshakeFields Con.log
  exact ⟨rfl, rfl, rfl, rfl, rfl, rfl, rfl, rfl, id, [_], rfl, rfl⟩

end Parts

/-! ### The three packets -/

/-- What a connection makes of a greeting before it answers. -/
structure Con.ReadsGreeting (con con' : Con) (g : Greeting) : Prop where
  accepted : con'.Accepted
  user_eq : con'.user = con.user
  pass_eq : con'.pass = con.pass
  greeted_eq : con'.greeted = g.greeted
  queue_eq : con'.nextPacketQueue = []
  room : con'.HasQueue
  status_eq : con'.status = .connecting
  number_eq : con'.packetNumber = 0
  stream_eq : con'.stream = true
  enabled_eq : con'.ssl.enabled = false
  done_eq : con'.ssl.handshakeDone = false
  silent : ∃ x, con'.trace = x ++ con.trace ∧ x.filterMap (Action.handed false) = []

section Run

variable {a : Arrival} {g : Greeting} {pass scramble login : List UInt8}

/-- A greeting is read, and a login sent. -/
lemma greeting_read (h : a.con.AwaitsGreeting) (hg : g.Plain) (hb : a.Brings 0 g.payload) :
    ∃ con, a.con.ReadsGreeting con g ∧ (processPacket a.env a.con).con = handshakeLogin a.env con := by
  obtain ⟨hbears, hseq⟩ := hb
  have haccepts : a.con.Accepts .handshake (a.con.buf.mem (a.con.buf.bufferReadPtr + 3)) := by
    rw [hseq]
    show ((if PacketType.handshake = .handshake then a.con.packetNumber else a.con.packetNumber + 1).toNat : ℤ) = _
    rw [if_pos rfl, h.number_eq]
    decide
  have hopened : (a.opened .handshake g.payload).Opened g.payload := hbears.holds.opened .handshake
  have hqueue : (a.opened .handshake g.payload).nextPacketQueue = [] := by
    rw [opened_nextPacketQueue, h.queue_eq]
    rfl
  have hroom : (a.opened .handshake g.payload).HasQueue := h.room.opened (.refl _)
  have hstatus := (@opened_status a g.payload .handshake).trans h.status_eq
  obtain ⟨huser, hpass, hschema, hssl, hstream, hnumber, x, hx, hsilent⟩ := opened_login a g.payload
  rw [processPacket_delivers hbears h.queue_eq haccepts, deliver_of_bears hbears h.queue_eq]
  change ∃ con, _ ∧ packetReadHandshake a.env (a.opened .handshake g.payload) = handshakeLogin a.env con
  generalize a.opened .handshake g.payload = con₀ at *
  have hten : con₀.peekByte 0 = 10 := (List.cons.inj ((Memory.slice_succ _ _ _).symm.trans hopened.payload_eq)).1
  have hfields := handshakeFields_of_short hopened hg.version
  have hcapabilities : (handshakeFields con₀).serverCapabilities = g.capabilities.toNat :=
    congrArg Greeted.serverCapabilities hfields
  have hcheck : checkOldAuth (handshakeFields con₀) = handshakeFields con₀ :=
    if_pos (by rw [hcapabilities]; exact hg.protocol)
  obtain ⟨huser', hpass', hschema', hssl', hstream', hnumber', hstatus', hqueue', hroom', y, hy, hsilent'⟩ :=
    handshakeFields_login con₀
  rw [packetReadHandshake_ten a.env con₀ hten]
  unfold handshakeRead
  rw [hcheck]
  have hgreeted : (packetReadEnd (handshakeFields con₀)).greeted = g.greeted := hfields
  generalize packetReadEnd (handshakeFields con₀) = con at *
  refine ⟨con, ?_, if_neg (by rw [hssl', hssl, h.ssl_eq]; exact Bool.false_ne_true)⟩
  exact
    { accepted :=
        { user_le := by rw [huser', huser]; exact h.accepted.user_le
          user_nul := by rw [huser', huser]; exact h.accepted.user_nul
          schema_le := by rw [hschema', hschema]; exact h.accepted.schema_le
          schema_nul := by rw [hschema', hschema]; exact h.accepted.schema_nul }
      user_eq := huser'.trans huser
      pass_eq := hpass'.trans hpass
      greeted_eq := hgreeted
      queue_eq := hqueue'.trans hqueue
      room := hroom' hroom
      status_eq := hstatus'.trans hstatus
      number_eq := (hnumber'.trans hnumber).trans h.number_eq
      stream_eq := (hstream'.trans hstream).trans h.stream_eq
      enabled_eq := by rw [hssl', hssl, h.enabled_eq]
      done_eq := by rw [hssl', hssl, h.done_eq]
      silent := ⟨y ++ x, by rw [hy, hx, List.append_assoc], by rw [List.filterMap_append, hsilent', hsilent]; rfl⟩ }

/-- **The greeting is answered** with a login that a server reads, and that it accepts for the account of the password. -/
theorem greeting_answered (h : a.con.AwaitsGreeting) (hpass : a.con.pass = some pass) (hg : g.Plain) (he : a.env.Serves)
    (hb : a.Brings 0 g.payload) :
    ∃ login, handedOn a.con (processPacket a.env a.con).con = [login] ∧ (processPacket a.env a.con).con.AwaitsVerdict ∧
      (processPacket a.env a.con).con.greeted = g.greeted ∧ (Account.of a.con.user pass).Admits g.scramble login := by
  obtain ⟨con, hr, hround⟩ := greeting_read h hg hb
  have hbuffer : con.scrambleBuffer = g.scramble := congrArg Greeted.scramble hr.greeted_eq
  obtain ⟨payload, hpayload, hadmits⟩ := loginPayload_admitted hr.accepted he.sha1_eq (hr.pass_eq.trans hpass)
    (by rw [hbuffer]; exact g.scramble_length) (by rw [hbuffer]; exact hg.scramble)
  have hsent := sendWriteBuffer_connecting hr.status_eq hr.stream_eq hr.enabled_eq hr.done_eq payload
    (he.takes (frame (con.packetNumber + 1) payload))
  rw [hr.number_eq] at hsent
  refine ⟨frame 1 payload, ?_⟩
  rw [hround, handshakeLogin_of_some hpayload, hsent]
  rw [packetQueuePush_of_hasQueue a.env (by exact hr.queue_eq) (by exact hr.room)]
  obtain ⟨x, hx, hsilent⟩ := hr.silent
  refine ⟨?_, ⟨rfl, hr.status_eq, rfl, rfl⟩, hr.greeted_eq, ?_⟩
  · unfold handedOn
    have hwritten : .write (frame 1 payload) :: con.trace = (.write (frame 1 payload) :: x) ++ a.con.trace := by
      rw [hx, List.cons_append]
    rw [newActions_eq hwritten, h.done_eq]
    show (frame 1 payload :: x.filterMap (Action.handed false)).reverse = _
    rw [hsilent]
    rfl
  · rw [← hr.user_eq, ← hbuffer]
    exact hadmits

/-- What the verdict of a server makes of a connection. -/
def Con.Decided (con : Con) (admitted : Prop) : Prop :=
  con.nextPacketQueue = [] ∧ (admitted → con.status = .idle ∧ con.commandStatus = .connected) ∧
    (¬ admitted → con.status = .connectFailed ∧ con.serverErrno = 1045 ∧ con.serverMessage = Account.denied)

/-- **The verdict is followed.** -/
theorem verdict_followed (h : a.con.AwaitsVerdict) {account : Account}
    (hb : a.Brings 2 (account.verdict scramble login).payload) :
    (processPacket a.env a.con).con.Decided (account.Admits scramble login) := by
  obtain ⟨hbears, hseq⟩ := hb
  have haccepts : a.con.Accepts .response (a.con.buf.mem (a.con.buf.bufferReadPtr + 3)) := by
    rw [hseq]
    show ((if PacketType.response = .handshake then a.con.packetNumber else a.con.packetNumber + 1).toNat : ℤ) = _
    rw [if_neg (by decide), h.number_eq]
    decide
  rw [processPacket_delivers hbears h.queue_eq haccepts, deliver_of_bears hbears h.queue_eq]
  change (packetReadResponse a.env (a.opened .response (account.verdict scramble login).payload)).Decided _
  have hstatus := (@opened_status a (account.verdict scramble login).payload .response).trans h.status_eq
  have hcommand : (a.opened .response (account.verdict scramble login).payload).commandStatus = .readResponse :=
    opened_commandStatus.trans h.commandStatus_eq
  have hqueue : (a.opened .response (account.verdict scramble login).payload).nextPacketQueue = [] := by
    rw [opened_nextPacketQueue, h.queue_eq]
    rfl
  obtain ⟨hpayload, -⟩ := hbears.opened .response
  generalize hcon : a.opened .response (account.verdict scramble login).payload = con at hstatus hcommand hqueue hpayload ⊢
  have hsize : con.packetSize = (account.verdict scramble login).payload.length := by
    rw [← hcon]
    rfl
  unfold Account.verdict at hpayload hsize
  unfold Con.Decided
  by_cases hadmits : account.Admits scramble login
  · rw [if_pos hadmits] at hpayload
    have hzero : con.peekByte 0 = 0x00 := (List.cons.inj ((Memory.slice_succ _ _ _).symm.trans hpayload)).1
    unfold packetReadResponse
    rw [if_pos hzero]
    exact ⟨hqueue, fun _ => ⟨rfl, if_pos hstatus⟩, fun hn => absurd hadmits hn⟩
  · rw [if_neg hadmits] at hpayload hsize
    have hff : con.peekByte 0 = 0xff := (List.cons.inj ((Memory.slice_succ _ _ _).symm.trans hpayload)).1
    obtain ⟨herrno, -, hmessage⟩ := packetReadErr_found rfl hpayload hsize
    rw [packetReadResponse_of_err a.env con hff]
    exact ⟨rfl, fun hy => absurd hy hadmits, fun _ => ⟨if_pos hcommand, herrno, hmessage.trans (by decide)⟩⟩

end Run

/-- **A login, from the greeting to the verdict.**  The connection answers the greeting with one packet, which a server
accepts that has the account of the user and the password; whatever account the server has, the connection ends up
connected exactly when the server accepts, and failed with the server's error when it does not. -/
theorem login_run {a₁ : Arrival} {g : Greeting} {pass : List UInt8} (h : a₁.con.AwaitsGreeting)
    (hpass : a₁.con.pass = some pass) (hg : g.Plain) (he : a₁.env.Serves) (hb : a₁.Brings 0 g.payload) :
    ∃ login, handedOn a₁.con (processPacket a₁.env a₁.con).con = [login] ∧
      (processPacket a₁.env a₁.con).con.greeted = g.greeted ∧ (Account.of a₁.con.user pass).Admits g.scramble login ∧
      ∀ (account : Account) (a₂ : Arrival), (processPacket a₁.env a₁.con).con.Stands a₂.con →
        a₂.con.packetNumber = (processPacket a₁.env a₁.con).con.packetNumber →
        a₂.Brings 2 (account.verdict g.scramble login).payload →
        (processPacket a₂.env a₂.con).con.Decided (account.Admits g.scramble login) := by
  obtain ⟨login, hhanded, hawaits, hgreeted, hadmits⟩ := greeting_answered h hpass hg he hb
  refine ⟨login, hhanded, hgreeted, hadmits, fun account a₂ hstands hnumber hb₂ => verdict_followed ?_ hb₂⟩
  exact ⟨hstands.queue_eq.trans hawaits.queue_eq, hstands.status_eq.trans hawaits.status_eq,
    hstands.commandStatus_eq.trans hawaits.commandStatus_eq, hnumber.trans hawaits.number_eq⟩

/-- The greeting of a server of version 5.5. -/
def plainGreeting : Greeting := greetingOf [0x35, 0x2e, 0x35] (by decide) 7

/-- That greeting arrives on a connection that was just made for the user `t` with the password `a`. -/
def greetingArrives : Arrival where
  env := Env.calm.withSha1
  con := readInto (onAlloc .calm (onConnect .calm
    { Con.fresh 3306 [0x74] (some [0x61]) [0x64] with
      status := .connecting, nextPacketQueueSize := 10, nextPacketQueueBytes := 40 } none) 65536).1
    (frame 0 plainGreeting.payload)

theorem login_run_plain :
    ∃ login, handedOn greetingArrives.con (processPacket greetingArrives.env greetingArrives.con).con = [login] ∧
      (processPacket greetingArrives.env greetingArrives.con).con.greeted = plainGreeting.greeted ∧
      (Account.of [0x74] [0x61]).Admits plainGreeting.scramble login ∧
      ∀ (account : Account) (a₂ : Arrival), (processPacket greetingArrives.env greetingArrives.con).con.Stands a₂.con →
        a₂.con.packetNumber = (processPacket greetingArrives.env greetingArrives.con).con.packetNumber →
        a₂.Brings 2 (account.verdict plainGreeting.scramble login).payload →
        (processPacket a₂.env a₂.con).con.Decided (account.Admits plainGreeting.scramble login) := by
  have hawaits : greetingArrives.con.AwaitsGreeting :=
    { accepted := ⟨by decide +kernel, by decide +kernel, by decide +kernel, by decide +kernel⟩
      queue_eq := by decide +kernel
      room := ⟨by decide +kernel, by decide +kernel⟩
      status_eq := by decide +kernel
      number_eq := by decide +kernel
      stream_eq := by decide +kernel
      ssl_eq := by decide +kernel
      enabled_eq := by decide +kernel
      done_eq := by decide +kernel }
  exact login_run hawaits (by decide +kernel) ⟨by decide, by decide, by decide⟩ ⟨rfl, fun _ => rfl⟩ (by decide +kernel)

end LibAttachSql
