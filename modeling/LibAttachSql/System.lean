import LibAttachSql.ControlCalls
import LibAttachSql.Lib.Run

/-!
# Runs of a connection

A connection lives through calls of the application, polls, and what happens on the network.  The network moves while
the event loop turns: inside a call that runs the loop, or, for a connection of a pool, between calls.  An application
may also call the library from the callback of its pool, and those calls may lead to further callbacks.
-/

namespace LibAttachSql

open Lib

/-! ### Events -/

/-- What libuv reports for a connection. -/
inductive NetEvent where
  | resolved (failure : Option String)
  | connected (failure : Option String)
  | read (suggestedSize : ℕ) (bytes : List UInt8)
  | readError (name : String)
  | wrote (failure : Option String)
  | check

/-- The callback for a report.  A report libuv has no reason to make does nothing. -/
def netStep (con : Con) (e : Env × NetEvent) : Con :=
  match e.2 with
  | .resolved failure => if con.uv = .resolving then onResolved con failure else con
  | .connected failure => if con.uv = .connecting then onConnect e.1 con failure else con
  | .read suggestedSize bytes => if con.uv = .reading then uvRead e.1 con suggestedSize bytes else con
  | .readError name => if con.uv = .reading then readErrorCb con name else con
  | .wrote failure => if 0 < con.pendingWrites then onWrite con failure else con
  | .check => if con.uv = .reading then checkForDataCb e.1 con else con

/-- The calls of the interface that a connection is used with, but for the poll. -/
inductive Call where
  | setOption (capabilities : ℕ)
  | connect
  | query (statement : List UInt8) (parameters : List QueryParameter)
  | queryClose
  | queryRowNext
  | queryNextResult
  | queryBufferRows (enable : Bool)
  | queryBufferRowGet
  | queryColumnGet (column : ℕ)
  | queryRowGet
  | queryRowGetOffset (rowNumber : ℕ)
  | statementPrepare (statement : List UInt8)
  | statementSet (param : ℕ) (set : StmtParam → StmtParam)
  | statementExecute
  | statementReset
  | statementClose
  | statementSendLongData (param : ℕ) (data : List UInt8)
  | statementRowGet
  | statementGet (column : ℕ)
  | statementGetColumnType (column : ℕ)
  | statementRowNext

/-- A call in its surroundings. -/
def callStep (env : Env) (w : World) (error : ErrorPtr) (con : Con) : Call → Con
  | .setOption capabilities => { con with clientCapabilities := con.clientCapabilities ||| capabilities }
  | .connect => (connect env w con error).1
  | .query statement parameters => (query env w con statement parameters error).1
  | .queryClose => queryClose con
  | .queryRowNext => queryRowNext env con
  | .queryNextResult => (queryNextResult env con).1
  | .queryBufferRows enable => (queryBufferRows con enable).1
  | .queryBufferRowGet => (queryBufferRowGet con).1
  | .queryColumnGet column => (queryColumnGet con column).1
  | .queryRowGet => (queryRowGet env con error).1
  | .queryRowGetOffset rowNumber => (queryRowGetOffset con rowNumber).1
  | .statementPrepare statement => (statementPrepare env w con statement error).1
  | .statementSet param set => (statementSet env con param error set).1
  | .statementExecute => (statementExecute env con error).1
  | .statementReset => (statementReset env con error).1
  | .statementClose => statementClose env con
  | .statementSendLongData param data => (statementSendLongData env con param data error).1
  | .statementRowGet => (statementRowGet env con error).1
  | .statementGet column => (statementGet env con column error).1
  | .statementGetColumnType column => (statementGetColumnType con column).1
  | .statementRowNext => statementRowNext env con

/-- What surrounds a call: what the code outside the library answers, what happens on the network while the event loop
turns in it, what the application calls in its callback, and how deep callbacks in callbacks go. -/
structure Setting where
  env : Env
  nets : List (Env × NetEvent)
  app : Event → Con → List (Env × ErrorPtr × Call)
  depth : ℕ
  error : ErrorPtr

/-- What runs inside a call, down to a depth of callbacks in callbacks. -/
def Setting.worldAt (s : Setting) : ℕ → World
  | 0 => { uvRun := fun con => s.nets.foldl netStep con, callback := fun _ con => con }
  | n + 1 =>
    { uvRun := fun con => s.nets.foldl netStep con
      callback := fun event con =>
        (s.app event con).foldl (fun con c => callStep c.1 (s.worldAt n) c.2.1 con c.2.2) con }

/-- What runs inside a call. -/
def Setting.world (s : Setting) : World := s.worldAt s.depth

/-- One event of a run: the event loop of a pool reports something, the application calls or polls. -/
inductive SysEvent where
  | net (env : Env) (e : NetEvent)
  | call (s : Setting) (c : Call)
  | poll (s : Setting)

/-- What an event does to the connection. -/
def sysStep (con : Con) : SysEvent → Con
  | .net env e => if con.pool then netStep con (env, e) else con
  | .call s c => callStep s.env s.world s.error con c
  | .poll s => (connectPoll s.env s.world con s.error).1

/-- A connection as the application has made it, before anything is called on it. -/
inductive Initial : Con → Prop
  | made (port : ℕ) (user : List UInt8) (pass : Option (List UInt8)) (schema : List UInt8) (protocol : ConProtocol)
    (capabilities : ℕ) (ssl pool callbackFn : Bool) :
    Initial
      { Con.fresh port user pass schema with
        options.protocol := protocol
        clientCapabilities := capabilities
        ssl.ssl := ssl
        pool := pool
        callbackFn := callbackFn }

/-! ### Polls -/

/-- The connection the switch of a poll looks at, after the turn of the event loop. -/
def Con.seen (con : Con) (s : Setting) : Con := if con.pool then con else doPoll s.env s.world con

/-- What a poll answers. -/
def Con.answer (con : Con) (s : Setting) : Return := (connectPoll s.env s.world con s.error).2.2

/-- If the event is a poll, the connection its switch looks at has the property. -/
def PollSees (P : Con → Prop) (con : Con) : SysEvent → Prop
  | .poll s => P (con.seen s)
  | _ => True

instance {P : Con → Prop} [DecidablePred P] (con : Con) (e : SysEvent) : Decidable (PollSees P con e) := by
  unfold PollSees
  split <;> infer_instance

/-! ### Runs follow the control relation -/

variable (con : Con)

lemma netStep_does (e : Env × NetEvent) : Does (Path Control.Move) con (netStep con e) := by
  unfold netStep
  split
  · exact .ite (fun hu => onResolved_does con hu _) fun _ => .refl
  · exact .ite (fun hu => onConnect_does e.1 con hu _) fun _ => .refl
  · exact .ite (fun _ => uvRead_does e.1 con _ _) fun _ => .refl
  · exact .ite (fun _ => readErrorCb_does con _) fun _ => .refl
  · exact .ite (fun _ => onWrite_does con _) fun _ => .refl
  · exact .ite (fun _ => checkForDataCb_does e.1 con) fun _ => .refl

lemma callStep_does (env : Env) {w : World} (hw : w.Follows) (error : ErrorPtr) (c : Call) :
    Does (Path Control.Move) con (callStep env w error con c) := by
  cases c with
  | setOption _ => exact .same rfl rfl
  | connect => exact connect_does env con hw error
  | query statement parameters => exact query_does env con hw statement parameters error
  | queryClose => exact queryClose_does con
  | queryRowNext => exact queryRowNext_does env con
  | queryNextResult => exact queryNextResult_does env con
  | queryBufferRows enable => exact queryBufferRows_does con enable
  | queryBufferRowGet => exact queryBufferRowGet_does con
  | queryColumnGet column => exact queryColumnGet_does con column
  | queryRowGet => exact queryRowGet_does env con error
  | queryRowGetOffset rowNumber => exact queryRowGetOffset_does con rowNumber
  | statementPrepare statement => exact statementPrepare_does env con hw statement error
  | statementSet param set => exact statementSet_does env con param error set
  | statementExecute => exact statementExecute_does env con error
  | statementReset => exact statementCommand_does env con _ _ _ error
  | statementClose => exact statementClose_does env con
  | statementSendLongData param data => exact statementCommand_does env con _ _ _ error
  | statementRowGet => exact statementRowGet_does env con error
  | statementGet column => exact statementGet_does env con column error
  | statementGetColumnType column => exact statementGetColumnType_does con column
  | statementRowNext => exact statementRowNext_does env con

lemma Setting.worldAt_follows (s : Setting) (n : ℕ) : (s.worldAt n).Follows := by
  have hnets : ∀ con, Does (Path Control.Move) con (s.nets.foldl netStep con) :=
    Does.foldl (fun con e => netStep_does con e) s.nets
  induction n with
  | zero => exact ⟨hnets, fun _ _ => .refl⟩
  | succ n ih =>
    refine ⟨hnets, fun event con => ?_⟩
    exact Does.foldl (fun con c => callStep_does con c.1 ih c.2.1 c.2.2) (s.app event con) con

lemma Setting.world_follows (s : Setting) : s.world.Follows := s.worldAt_follows s.depth

lemma seen_does (s : Setting) : Does (Path Control.Move) con (con.seen s) :=
  .ite (fun _ => .refl) fun _ => doPoll_does s.env con s.world_follows

theorem sysStep_does (e : SysEvent) : Does (Path Control.Move) con (sysStep con e) := by
  cases e with
  | net env e => exact .ite (fun _ => netStep_does con (env, e)) fun _ => .refl
  | call s c => exact callStep_does con s.env s.world_follows s.error c
  | poll s => exact (seen_does con s).trans (pollSwitch_does s.env _ s.world_follows s.error)

/-! ### Invariants of runs -/

lemma Does.suffix {R : Control → List Action → Control → Prop} {con con' : Con} (h : Does R con con') :
    con.trace <:+ con'.trace := by
  obtain ⟨x, hx, -⟩ := h
  exact ⟨x, hx.symm⟩

lemma run_suffix (es : List SysEvent) : con.trace <:+ (run sysStep con es).trace := by
  induction es generalizing con with
  | nil => exact List.suffix_refl _
  | cons e es ih => exact (sysStep_does con e).suffix.trans (ih _)

/-- The trace of what a poll looks at is part of the trace of every run that goes on from that poll. -/
lemma seen_suffix (s : Setting) : (con.seen s).trace <:+ (sysStep con (.poll s)).trace :=
  (pollSwitch_does s.env (con.seen s) s.world_follows s.error).suffix

/-- **The invariant rule for what the library does**: what moves with allowed actions preserve. -/
theorem Does.invariant {I : Control → List Action → Prop} {ok : Action → Prop}
    (hstep : ∀ {c x y c'}, I c x → Control.Move c y c' → (∀ a ∈ y, ok a) → I c' (y ++ x)) {con con' : Con}
    (h : Does (Path Control.Move) con con') (hI : I con.control con.trace) (hok : ∀ a ∈ con'.trace, ok a) :
    I con'.control con'.trace := by
  obtain ⟨x, hx, hP⟩ := h
  rw [hx] at hok ⊢
  exact hP.invariant hstep hI fun a ha => hok a (List.mem_append_left _ ha)

/-- What a poll of a run looks at has a trace that the run only adds to. -/
theorem along_pollSees_suffix (es : List SysEvent) :
    Along sysStep (PollSees fun con' => con'.trace <:+ (run sysStep con es).trace) con es := by
  induction es generalizing con with
  | nil => trivial
  | cons e es ih =>
    refine ⟨?_, ih _⟩
    cases e with
    | poll s => exact (seen_suffix con s).trans (run_suffix _ es)
    | net _ _ => trivial
    | call _ _ => trivial

/-- **The invariant rule for runs**: what every move preserves. -/
theorem run_invariant_moves {I : Control → List Action → Prop}
    (hstep : ∀ {c x y c'}, I c x → Control.Move c y c' → I c' (y ++ x)) {con : Con} (hI : I con.control con.trace)
    (es : List SysEvent) : I (run sysStep con es).control (run sysStep con es).trace := by
  induction es generalizing con with
  | nil => exact hI
  | cons e es ih =>
    obtain ⟨x, hx, hP⟩ := sysStep_does con e
    exact ih (hx ▸ hP.preserves hstep hI)

/-- **The invariant rule for polls**: an invariant that moves with allowed actions preserve holds of everything a poll
of the run looks at. -/
theorem along_pollSees {I : Control → List Action → Prop} {ok : Action → Prop}
    (hstep : ∀ {c x y c'}, I c x → Control.Move c y c' → (∀ a ∈ y, ok a) → I c' (y ++ x)) {con : Con}
    {es : List SysEvent} (hI : I con.control con.trace) (hok : ∀ a ∈ (run sysStep con es).trace, ok a) :
    Along sysStep (PollSees fun con => I con.control con.trace) con es := by
  induction es generalizing con with
  | nil => trivial
  | cons e es ih =>
    have hok' : ∀ a ∈ (sysStep con e).trace, ok a := fun a ha => hok a ((run_suffix _ es).mem ha)
    refine ⟨?_, ih ((sysStep_does con e).invariant hstep hI hok') hok⟩
    cases e with
    | poll s => exact (seen_does con s).invariant hstep hI fun a ha => hok' a ((seen_suffix con s).mem ha)
    | net _ _ => trivial
    | call _ _ => trivial

/-- The invariant rule for polls when every action is allowed. -/
theorem along_pollSees_moves {I : Control → List Action → Prop}
    (hstep : ∀ {c x y c'}, I c x → Control.Move c y c' → I c' (y ++ x)) {con : Con} (hI : I con.control con.trace)
    (es : List SysEvent) : Along sysStep (PollSees fun con => I con.control con.trace) con es :=
  along_pollSees (fun hc hm (_ : ∀ _ ∈ _, True) => hstep hc hm) hI fun _ _ => trivial

/-! ### A run in which nothing goes wrong

Where a run with fixed inputs is looked at, memory is always found, every write is accepted, nothing is compressed and
the application has no callback.
-/

/-- An environment that refuses nothing. -/
def Env.calm : Env where
  malloc := fun _ => some { base := 4096, bytes := fun _ => 0 }
  uvWrite := fun _ => none
  uvGetaddrinfo := none
  uvLoopInit := true
  compressBound := fun n => n
  compress := fun bs _ => some bs
  uncompress := fun bs _ => some bs
  sha1 := id
  sslIsInitFinished := fun _ => false
  sslConnect := fun _ => .wantRead
  sslRead := fun _ => .wantRead
  sslWrite := fun _ _ => .wantRead
  bioRead := fun _ => []
  sslReadInto := fun _ _ => (.wantRead, [])

/-- A call during which the network reports these events. -/
def Setting.calm (nets : List NetEvent) : Setting where
  env := .calm
  nets := nets.map fun e => (.calm, e)
  app := fun _ _ => []
  depth := 0
  error := .at none

/-- A connection over TCP as user `t`, without a password. -/
def Con.calm (capabilities : ℕ) : Con :=
  { Con.fresh 3306 [0x74] (some []) [] with
    options.protocol := .unknown
    clientCapabilities := capabilities
    ssl.ssl := false
    pool := false
    callbackFn := false }

lemma Con.calm_initial (capabilities : ℕ) : Initial (Con.calm capabilities) := .made ..

/-- A packet with its header. -/
def frame (seq : UInt8) (payload : List UInt8) : List UInt8 := packInt3 payload.length ++ [seq] ++ payload

/-- The handshake of a server with this status word. -/
def greetingPacket (status : ℕ) : List UInt8 :=
  frame 0 ([10, 0x35, 0] ++ List.replicate 13 1 ++ [0, 2, 8] ++ packInt2 status ++ List.replicate 13 0 ++
    List.replicate 13 1)

/-- An OK packet with this status word. -/
def okPacket (seq : UInt8) (status : ℕ) : List UInt8 := frame seq ([0, 0, 0] ++ packInt2 status ++ [0, 0])

/-- An ERR packet for a syntax error. -/
def errPacket (seq : UInt8) : List UInt8 := frame seq ([0xff] ++ packInt2 1064 ++ [0x23, 0x34, 0x32, 0x30, 0x30, 0x30])

/-- An EOF packet with this status word. -/
def eofPacket (seq : UInt8) (status : ℕ) : List UInt8 := frame seq ([0xfe, 0, 0] ++ packInt2 status)

/-- The start of a result of one column, up to its first row, which bears the number 4. -/
def resultHead : List UInt8 :=
  frame 1 [1] ++ frame 2 ([3, 0x64, 0x65, 0x66, 0, 0, 0, 1, 0x61, 0, 12, 8, 0, 1] ++ List.replicate 9 0) ++ eofPacket 3 2

/-- The events that connect to a server with this status word, read its handshake and its answer to the login, and
send a query. -/
def connectAndQuery (status : ℕ) : List SysEvent := [
  .call (.calm [.resolved none, .connected none]) (.query [0x53] []),
  .poll (.calm [.read 65536 (greetingPacket status)]),
  .poll (.calm [.wrote none, .read 65536 (okPacket 2 status)])]

end LibAttachSql
