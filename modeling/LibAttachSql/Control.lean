import LibAttachSql.Structs
import LibAttachSql.Lib.Path

/-!
# The control state of a connection

What a poll answers depends on a few fields only: the status, the command status, the expected packets and the room for
them, the server's error number and status word, and the local error code.  Beside them stand the fields that decide
whether a call is let through and whether a callback is told, and the heap objects of the connection.  This module says
what the library can do to all of these: `Move` is a relation of control states, one constructor for each kind of thing a
function of the source does as a whole, labelled with the actions it leaves on the trace.  The functions of the source
are shown to follow it in the modules that come next, and the properties of runs are invariants of its paths.
-/

namespace LibAttachSql

open Lib

/-- A status for which a poll answers with an error. -/
def ConStatus.IsError (s : ConStatus) : Prop :=
  s = .parameterError ∨ s = .connectFailed ∨ s = .sslError ∨ s = .netError

instance : DecidablePred ConStatus.IsError := fun s => by
  unfold ConStatus.IsError
  infer_instance

/-- The fields that decide what is let through and told, and the heap objects; `allocated` says that the row buffer
has a size. -/
structure Aux where
  uv : UvPhase
  stream : Bool
  pool : Bool
  callbackFn : Bool
  lastCallback : Event
  inQuery : Bool
  allocated : Bool
  rowCount : ℕ
  allRowsBuffered : Bool
  own : Own

/-- The fields that decide what a connection does next. -/
structure Control where
  status : ConStatus
  commandStatus : CommandStatus
  queue : List PacketType
  queueSize : ℕ
  queueBytes : ℕ
  serverErrno : ℕ
  serverStatus : ℕ
  localErrcode : Ret
  aux : Aux

/-- The fields of a connection beside those that decide what it does next. -/
def Con.aux (con : Con) : Aux where
  uv := con.uv
  stream := con.stream
  pool := con.pool
  callbackFn := con.callbackFn
  lastCallback := con.lastCallback
  inQuery := con.inQuery
  allocated := decide (0 < con.rowBufferAllocSize)
  rowCount := con.rowBufferCount
  allRowsBuffered := con.allRowsBuffered
  own := con.own

/-- The control state of a connection. -/
def Con.control (con : Con) : Control where
  status := con.status
  commandStatus := con.commandStatus
  queue := con.nextPacketQueue
  queueSize := con.nextPacketQueueSize
  queueBytes := con.nextPacketQueueBytes
  serverErrno := con.serverErrno
  serverStatus := con.serverStatus
  localErrcode := con.localErrcode
  aux := con.aux

/-! ### Failures -/

namespace FailSite

/-- The error code a failure leaves; a push that fails leaves none. -/
def errcode : FailSite → Option Ret
  | loopInit | uncompressedAlloc | compressedAlloc | sslBioAlloc | stmtAlloc | execAlloc => some .outOfMemoryError
  | dns => some .dnsError
  | connectCallback => some .connectError
  | sslDataWrite | sslHandleError | sslRefused => some .netSslError
  | sslNetWrite | sendData | sendCompressed | commandSend | writeCallback => some .netWriteError
  | compress | uncompress => some .compressionFailure
  | readCallback => some .netReadError
  | compressedSequence | sequence => some .packetOutOfSequence
  | badProtocol => some .badProtocol
  | noOldAuth => some .noOldAuth
  | badScramble => some .badScramble
  | badStmtParameter => some .badStmtParameter
  | queueAlloc => none

/-- The command status a failure leaves, where it sets one. -/
def commandStatus : FailSite → Option CommandStatus
  | sslDataWrite | sslNetWrite | sslHandleError | sslRefused | sslBioAlloc | sendData | uncompressedAlloc
  | compressedAlloc | compress | sendCompressed | commandSend | writeCallback | stmtAlloc | execAlloc
  | badStmtParameter => some .sendFailed
  | readCallback | compressedSequence | uncompress | sequence => some .readFailed
  | loopInit | dns | connectCallback | badProtocol | noOldAuth | badScramble | queueAlloc => none

/-- The status a failure leaves, where it sets one. -/
def status : FailSite → Option ConStatus
  | loopInit | dns | connectCallback | sslRefused => some .connectFailed
  | sslDataWrite | sslHandleError => some .sslError
  | writeCallback | readCallback => some .netError
  | _ => none

/-- Whether a failure drops the expected packets: all that set a command status do, but the one of a statement. -/
def clears (site : FailSite) : Bool := site.commandStatus.isSome && site ≠ stmtAlloc

end FailSite

/-- A failure that sets the command status. -/
def Action.stops : Action → Bool
  | .failed site _ _ => site.commandStatus.isSome
  | _ => false

namespace Control

/-- The control state after a failure. -/
def afterFail (c : Control) (site : FailSite) : Control :=
  { c with
    status := site.status.getD c.status
    commandStatus := site.commandStatus.getD c.commandStatus
    queue := if site.clears then [] else c.queue
    localErrcode := site.errcode.getD c.localErrcode }

/-! ### The parts of a move -/

/-- Actions that change no field: bytes handed on, and escaping in the mode the status word asks for. -/
inductive Quiet (c : Control) : Action → Prop
  | write (bytes : List UInt8) : Quiet c (.write bytes)
  | encrypted (bytes : List UInt8) : Quiet c (.encrypted bytes)
  | sslBuffered (bytes : List UInt8) : Quiet c (.sslBuffered bytes)
  | compressedPacket (payload : List UInt8) : Quiet c (.compressedPacket payload)
  | checked (compressed : Bool) (expected byte : UInt8) :
    Quiet c (.checked compressed expected byte (decide ((expected.toNat : ℤ) = signedChar byte)))
  | received (bytes : List UInt8) : Quiet c (.received bytes)
  | expanded : Quiet c (.expanded (c.serverStatus.testBit serverStatusNoBackslashEscapes))
  | assertZero : Quiet c .assertZero
  | fault : Quiet c .fault

/-- Steps of a write once its bytes are in OpenSSL: libuv takes what OpenSSL hands out, or one of them fails. -/
inductive WireMove : Control → List Action → Control → Prop
  | encrypted {c : Control} (bytes : List UInt8) : WireMove c [.encrypted bytes] c
  | fault {c : Control} : WireMove c [.fault] c
  | fail {c : Control} (site : FailSite) (h : site = .sslDataWrite ∨ site = .sslNetWrite ∨ site = .sslHandleError) :
    WireMove c [.failed site c.status c.serverErrno] (c.afterFail site)

/-- Steps of a write: bytes handed on, and the failures of OpenSSL and of the writes it leads to. -/
inductive NetMove : Control → List Action → Control → Prop
  | quiet {c : Control} {a : Action} (h : Quiet c a) : NetMove c [a] c
  | fail {c : Control} (site : FailSite) (h : site = .sslDataWrite ∨ site = .sslNetWrite ∨ site = .sslHandleError) :
    NetMove c [.failed site c.status c.serverErrno] (c.afterFail site)

/-- Steps of the send functions: bytes handed on, failures, and the wait for a response. -/
inductive SendMove : Control → List Action → Control → Prop
  | quiet {c : Control} {a : Action} (h : Quiet c a) : SendMove c [a] c
  | fail {c : Control} (site : FailSite) : SendMove c [.failed site c.status c.serverErrno] (c.afterFail site)
  | await {c : Control} : SendMove c [] { c with commandStatus := .readResponse }

lemma WireMove.net {c c' : Control} {x : List Action} (h : WireMove c x c') : NetMove c x c' := by
  cases h with
  | encrypted bytes => exact .quiet (.encrypted bytes)
  | fault => exact .quiet .fault
  | fail site h => exact .fail site h

lemma NetMove.send {c c' : Control} {x : List Action} (h : NetMove c x c') : SendMove c x c' := by
  cases h with
  | quiet h => exact .quiet h
  | fail site _ => exact .fail site

/-- Pushing an expected packet: it is there, or the queue could not grow, or could not hold it. -/
inductive Pushed (t : PacketType) (c : Control) : List Action → Control → Prop
  | pushed (size bytes : ℕ) : Pushed t c [] { c with queue := t :: c.queue, queueSize := size, queueBytes := bytes }
  | refused (size : ℕ) : Pushed t c [.failed .queueAlloc c.status c.serverErrno] { c with queueSize := size }
  | fault (size bytes : ℕ) : Pushed t c [.fault] { c with queueSize := size, queueBytes := bytes }

/-- The control state after an ERR packet with this number. -/
def afterErr (c : Control) (n : ℕ) : Control :=
  { c with
    serverErrno := n
    status := if c.commandStatus = CommandStatus.readResponse then .connectFailed else .idle
    queue := []
    commandStatus := .eof }

/-- Reading a response. -/
inductive Response (c : Control) : List Action → Control → Prop
  | ok (s : ℕ) :
    Response c [.answered .ok c.status c.commandStatus, .reported s]
      { c with
        serverStatus := s
        commandStatus := if c.status = ConStatus.connecting then .connected else .eof
        status := .idle }
  | err (n : ℕ) : Response c [.answered (.err n) c.status c.commandStatus] (c.afterErr n)
  | columnsEnd (s : ℕ) {x : List Action} {c' : Control} (h : c.commandStatus = .readColumn)
    (hp : Pushed .row { c with serverStatus := s, commandStatus := .readRow } x c') :
    Response c (x ++ [.reported s]) c'
  | paramsEnd (s : ℕ) {x : List Action} {c' : Control} (h : c.commandStatus = .readStmtParam)
    (hp : Pushed .prepareColumn { c with serverStatus := s, commandStatus := .readStmtColumn } x c') :
    Response c (x ++ [.reported s]) c'
  | finish (s : ℕ) (h : c.commandStatus ≠ .readColumn) :
    Response c [.answered .eof c.status c.commandStatus, .reported s]
      { c with serverStatus := s, commandStatus := .eof, status := .idle }
  | fault (s : ℕ) : Response c [.fault, .reported s] { c with serverStatus := s }
  | header (ok : Bool) {x : List Action} {c' : Control}
    (hp : Pushed .column { c with aux.own := c.aux.own.newResultColumns ok } x c') :
    Response c x { c' with commandStatus := .readColumn }

/-- Reading the answer to a prepare that is no response. -/
inductive PrepareOk (c : Control) : List Action → Control → Prop
  | params {x : List Action} {c' : Control} (hp : Pushed .prepareParameter c x c') :
    PrepareOk c x { c' with commandStatus := .readStmtParam }
  | columns {x : List Action} {c' : Control} (hp : Pushed .prepareColumn c x c') :
    PrepareOk c x { c' with commandStatus := .readStmtColumn }
  | finish :
    PrepareOk c [.answered .eof c.status c.commandStatus] { c with commandStatus := .eof, status := .idle }

/-- Steps of a handshake response: those of sending, and the passage through the short request for TLS, whose packet
type is pushed and popped again, or popped because it was expected, or not pushed. -/
inductive LoginMove : Control → List Action → Control → Prop
  | send {c : Control} {x : List Action} {c' : Control} (h : SendMove c x c') : LoginMove c x c'
  | tls {c : Control} (size bytes : ℕ) : LoginMove c [] { c with queueSize := size, queueBytes := bytes }
  | dequeue {c : Control} {q : List PacketType} (h : c.queue = .handshakeSsl :: q) : LoginMove c [] { c with queue := q }
  | refused {c c' : Control} {x : List Action} (h : Pushed .handshakeSsl c x c') (hq : c'.queue = c.queue) :
    LoginMove c x c'

/-- After the push, the packet type that is popped is the one that was pushed, unless it was not pushed. -/
lemma Pushed.pop_login {c c' : Control} {x : List Action} {q : List PacketType} (h : Pushed .handshakeSsl c x c')
    (hq : c'.queue = .handshakeSsl :: q) : Path LoginMove c x { c' with queue := q } := by
  cases h with
  | pushed size bytes =>
    obtain ⟨-, rfl⟩ := List.cons_eq_cons.mp hq
    exact .single (.tls size bytes)
  | refused size =>
    have hdequeue : LoginMove { c with queueSize := size } [] { c with queue := q, queueSize := size } := .dequeue hq
    exact (Path.single (.refused (.refused size) rfl)).snoc hdequeue
  | fault size bytes =>
    have hdequeue : LoginMove { c with queueSize := size, queueBytes := bytes } []
      { c with queue := q, queueSize := size, queueBytes := bytes } := .dequeue hq
    exact (Path.single (.refused (.fault size bytes) rfl)).snoc hdequeue

/-- After a push that left another packet type in front, nothing was pushed. -/
lemma Pushed.refused_login {c c' : Control} {x : List Action} (h : Pushed .handshakeSsl c x c')
    (hq : c'.queue.head? ≠ some .handshakeSsl) : LoginMove c x c' := by
  cases h with
  | pushed size bytes => exact absurd rfl hq
  | refused size => exact .refused (.refused size) rfl
  | fault size bytes => exact .refused (.fault size bytes) rfl

/-- A response is waited for, unless one of the actions is a failure that set the command status. -/
def Waits (c : Control) (x : List Action) : Prop :=
  c.commandStatus = .readResponse ∨ ∃ a ∈ x, a.stops = true

lemma Waits.append {c : Control} {x : List Action} (h : c.Waits x) (y : List Action) : c.Waits (x ++ y) :=
  h.imp_right fun ⟨a, ha, hs⟩ => ⟨a, List.mem_append_left y ha, hs⟩

/-- A handshake response: it ends in a failure, or with a response expected. -/
inductive Login (c : Control) : List Action → Control → Prop
  | refused : Login c [.failed .sslRefused c.status c.serverErrno] (c.afterFail .sslRefused)
  | fault {x : List Action} {c' : Control} (h : Path LoginMove c x c') : Login c (.fault :: x) c'
  | scramble {x : List Action} {c' : Control} (h : Path LoginMove c x c') :
    Login c (.failed .badScramble c'.status c'.serverErrno :: x) (c'.afterFail .badScramble)
  | sent {x y : List Action} {c₁ c₂ : Control} (h : Path LoginMove c x c₁) (hp : Pushed .response c₁ y c₂)
    (hw : c₁.Waits x) : Login c (y ++ x) c₂

/-- Whether an ERR packet came instead of the handshake: it is read, and reading goes on. -/
inductive Greeting (c : Control) : List Action → Control → Prop
  | plain : Greeting c [] c
  | rejected (n : ℕ) : Greeting c [.answered (.err n) c.status c.commandStatus] (c.afterErr n)

/-- Reading a handshake. -/
inductive Handshake (c : Control) : List Action → Control → Prop
  | badProtocol {g : List Action} {c₁ : Control} (h : Greeting c g c₁) :
    Handshake c (.failed .badProtocol c₁.status c₁.serverErrno :: g) (c₁.afterFail .badProtocol)
  | login {g : List Action} {c₁ c₂ : Control} (s : ℕ) {x : List Action} (h : Greeting c g c₁)
    (hl : Login { c₁ with serverStatus := s } x c₂) : Handshake c (x ++ .reported s :: g) c₂
  | oldAuth {g : List Action} {c₁ c₂ : Control} (s : ℕ) {x : List Action} (h : Greeting c g c₁)
    (hl : Login ({ c₁ with serverStatus := s }.afterFail .noOldAuth) x c₂) :
    Handshake c (x ++ .failed .noOldAuth c₁.status c₁.serverErrno :: .reported s :: g) c₂

/-- Handing a packet of the given type to its reader, once it is off the queue. -/
inductive Dispatch : PacketType → Control → List Action → Control → Prop
  | handshake {c c' : Control} {x : List Action} (h : Handshake c x c') : Dispatch .handshake c x c'
  | handshakeSsl {c c' : Control} {x : List Action} (h : Login c x c') : Dispatch .handshakeSsl c x c'
  | response {t : PacketType} {c c' : Control} {x : List Action}
    (ht : t ∈ [PacketType.response, .prepareResponse, .row, .stmtRow]) (h : Response c x c') : Dispatch t c x c'
  | prepareOk {c c' : Control} {x : List Action} (h : PrepareOk c x c') : Dispatch .prepareResponse c x c'
  | definition {t t' : PacketType} {c c' : Control} {x : List Action} {o : Own}
    (ht : t ∈ [PacketType.column, .prepareParameter, .prepareColumn])
    (ho : o = c.aux.own ∨ o = c.aux.own.useResultColumns) (h : Pushed t' { c with aux.own := o } x c')
    (ht' : t' ∈ [PacketType.response, .column, .prepareParameter, .prepareColumn]) : Dispatch t c x c'
  | fault {t : PacketType} {c : Control} (ht : t ≠ .handshake) : Dispatch t c [.fault] c
  | row {t : PacketType} {c : Control} (ht : t = .row ∨ t = .stmtRow) :
    Dispatch t c [.answered .row c.status c.commandStatus] { c with commandStatus := .rowInBuffer, status := .idle }

/-- The control state a command starts from. -/
def commandReset (c : Control) : Control := { c with serverErrno := 0, serverStatus := 0, localErrcode := .ok }

/-- Sending a command: it is sent, with the answers expected that the path in use expects, or the write failed, or the
connection was not idle and the compressed path leaves it at that. -/
inductive Commanded (c : Control) : List Action → Control → Prop
  | sent {x y : List Action} {c₁ c₂ : Control} {t : PacketType} (h : Path SendMove c.commandReset x c₁)
    (ht : t = .response ∨ t = .prepareResponse) (hp : Pushed t c₁ y c₂) :
    Commanded c (.sent c₂.status :: (y ++ x)) { c₂ with commandStatus := .send, status := .busy }
  | unanswered {x : List Action} {c₁ : Control} (h : Path SendMove c.commandReset x c₁) :
    Commanded c (.sent c₁.status :: x) { c₁ with commandStatus := .send, status := .busy }
  | failed {x : List Action} {c₁ : Control} (h : Path SendMove c.commandReset x c₁) :
    Commanded c (.failed .commandSend c₁.status c₁.serverErrno :: x) (c₁.afterFail .commandSend)
  | compressed {x : List Action} {c₁ : Control} (h : Path SendMove c.commandReset x c₁) (hs : c₁.status ≠ .idle) :
    Commanded c x c₁

/-- What a poll or `attachsql_connect` tells the callback in this state. -/
inductive Tells (c : Control) : Event → Prop
  | failed (h : c.status.IsError) : Tells c .error
  | error (h : c.status = .idle) (he : c.serverErrno ≠ 0) : Tells c .error
  | eof (h : c.status = .idle) (he : c.serverErrno = 0) (hc : c.commandStatus = .eof) : Tells c .eof
  | rowReady (h : c.status = .idle) (he : c.serverErrno = 0) (hc : c.commandStatus = .rowInBuffer) : Tells c .rowReady
  | connected (h : c.status = .idle) (hc : c.commandStatus = .connected) : Tells c .connected

/-! ### Moves -/

/-- The fields beside the control state after `attachsql_query_close`, with the status word as it is. -/
def closed (c : Control) (ownsText buffering : Bool) : Aux :=
  { c.aux with
    inQuery := c.aux.inQuery && c.serverStatus.testBit serverStatusMoreResults
    allocated := false
    rowCount := 0
    allRowsBuffered := false
    own := ((c.aux.own.closeQuery ownsText buffering).freeResultColumns).closeRows c.aux.allocated }

/-- The fields beside the control state when one more row is kept in the row buffer. -/
def kept (c : Control) : Aux := { c.aux with own := c.aux.own.newBufferedRow, rowCount := c.aux.rowCount + 1 }

/-- What the library does without touching the fields a poll answers by. -/
inductive AuxMove (c : Control) : List Action → Aux → Prop
  /-- `on_resolved`: the host is connected to. -/
  | resolved (h : c.aux.uv = .resolving) : AuxMove c [] { c.aux with uv := .connecting }
  /-- libuv is done with the connection. -/
  | settled {u : UvPhase} (hu : u = .unused ∨ u = .closed) : AuxMove c [] { c.aux with uv := u }
  /-- The callback is told of an event it was not told of last. -/
  | callback {event : Event} (error : Option Err) (hne : event ≠ c.aux.lastCallback) (hp : c.aux.pool = true)
    (hf : c.aux.callbackFn = true) (ht : c.Tells event) :
    AuxMove c [.callback event error] { c.aux with lastCallback := event }
  /-- `attachsql_query` lets a query through. -/
  | begin (h : c.aux.inQuery = false) : AuxMove c [.queryBegun] { c.aux with inQuery := true }
  | rowNext : AuxMove c [.rowNext] { c.aux with lastCallback := .none }
  | close (ownsText buffering : Bool) :
    AuxMove c [.queryClosed (!buffering && c.aux.own.rowShared)] (c.closed ownsText buffering)
  | own {o : Own} (h : c.aux.own.Step o) : AuxMove c [] { c.aux with own := o }
  | grow (ok : Bool) :
    AuxMove c [.rowBufferGrown c.aux.own.stale] { c.aux with own := c.aux.own.growRowBuffer ok, allocated := true }
  /-- A row is kept in the row buffer, but there is no read buffer to get the next one from. -/
  | keepFault (ha : c.aux.allocated = true) (hs : c.aux.own.rowBuffer.isSome = true) :
    AuxMove c [.fault, .rowKept] c.kept
  | useRows (h : 0 < c.aux.rowCount) : AuxMove c [] { c.aux with own := c.aux.own.useRowBuffer }
  | shareRow {i : ℕ} (h : i < c.aux.rowCount) : AuxMove c [] { c.aux with own := c.aux.own.shareRow i }

/-- **What the library can do to the control state of a connection.** -/
inductive Move : Control → List Action → Control → Prop
  | quiet {c : Control} {a : Action} (h : Quiet c a) : Move c [a] c
  | fail {c : Control} (site : FailSite) : Move c [.failed site c.status c.serverErrno] (c.afterFail site)
  /-- `attachsql_do_connect` starts to resolve a host or to connect. -/
  | start {c : Control} {u : UvPhase} (h : c.status = .notConnected) (hu : u = .resolving ∨ u = .connecting) :
    Move c [] { c with status := .connecting, aux.uv := u }
  /-- `on_connect`: the handshake is expected. -/
  | connected {c c' : Control} {x : List Action} (h : c.aux.uv = .connecting) (hp : Pushed .handshake c x c') :
    Move c x { c' with aux.stream := true, aux.uv := .reading }
  /-- `on_write` for a successful write with nothing expected. -/
  | drained {c : Control} (h : c.queue = []) :
    Move c [.drained c.status] { c with status := .idle, commandStatus := .eof }
  /-- `on_write` for a failed write with nothing expected, which the connection was made idle for. -/
  | lost {c : Control} (h : c.queue = []) :
    Move c [.failed .writeCallback .idle c.serverErrno] (c.afterFail .writeCallback)
  | packet {c c' : Control} {x : List Action} {t : PacketType} {q : List PacketType} (payload : List UInt8)
    (hq : c.queue = t :: q) (h : Dispatch t { c with queue := q } x c') :
    Move c (x ++ [.packet t payload c.status]) c'
  | command {c c' : Control} {x : List Action} (cmd : Command) (tls : Bool) (h : Commanded c x c') :
    Move c (x ++ [.onStream c.aux.stream tls, .command cmd c.status]) c'
  /-- `attachsql_get_next_row`. -/
  | request {c c' : Control} {x : List Action} (hp : Pushed .row c x c') :
    Move c (x ++ [.rowRequested]) { c' with commandStatus := .readRow }
  | nextResult {c c' : Control} {x : List Action} (h : c.serverStatus.testBit serverStatusMoreResults = true)
    (hp : Pushed .response { c with serverErrno := 0, serverStatus := 0 } x c') :
    Move c (x ++ [.nextResult c.status]) { c' with commandStatus := .readResponse, status := .busy }
  /-- The end of a poll that reports the end of a result. -/
  | pollEof {c : Control} :
    Move c [.eofReported c.aux.lastCallback] { c with commandStatus := .eof, aux.allRowsBuffered := true }
  /-- A row is kept in the row buffer and the next one asked for. -/
  | keep {c c' : Control} {x : List Action} (ha : c.aux.allocated = true) (hs : c.aux.own.rowBuffer.isSome = true)
    (hp : Pushed .row { c with aux := c.kept } x c') :
    Move c (x ++ [.rowRequested, .rowKept]) { c' with commandStatus := .readRow }
  | aux {c : Control} {x : List Action} {a : Aux} (h : AuxMove c x a) : Move c x { c with aux := a }

lemma NetMove.move {c c' : Control} {x : List Action} (h : NetMove c x c') : Move c x c' := by
  cases h with
  | quiet h => exact .quiet h
  | fail site _ => exact .fail site

end Control

end LibAttachSql
