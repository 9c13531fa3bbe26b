import LibAttachSql.PoolIsolation

/-!
# Calls without an error

Every function that can fail takes a place for an error, and the documentation allows a null pointer instead.  Two calls
that differ in this argument only are compared: what they answer, and the connection they leave, with the null pointers
that were followed on its trace.
-/

namespace LibAttachSql

open Lib

/-! ### More functions that take an error -/

/-- What a getter for the value of a column answers: a number, the bytes of a `double`, or characters that may be null. -/
inductive Value where
  | int (value : ℤ)
  | double (bytes : List UInt8)
  | chars (bytes : Option (List UInt8))

/-- The functions `attachsql_statement_get_*` for a number.  They differ in the types of columns they convert, in how they
do it, and in the zero they answer otherwise. -/
def statementGetAs (env : Env) (con : Con) (column : ℕ) (zero : Value) (convert : Con → StmtCell → Option Value)
    (error : ErrorPtr) : Con × ErrorPtr × Value :=
  match statementGet env con column error with
  | (con, error, none) => (con, error, zero)
  | (con, error, some cell) =>
    match convert con cell with
    | some value => (con, error, value)
    | none => (con, errorClientCreate env error errorCodeParameter "22023" "Cannot convert to int", zero)

/-- `attachsql_statement_get_char`, which refuses a null pointer to the length behind its other checks. -/
def statementGetChar (env : Env) (con : Con) (column : ℕ) (hasLength : Bool) (convert : Con → StmtCell → Option Value)
    (error : ErrorPtr) : Con × ErrorPtr × Value :=
  if hasLength ∨ con.stmtRow.isNone ∨ con.result.columnCount ≤ column then
    statementGetAs env con column (.chars none) convert error
  else (con, errorClientCreate env error errorCodeParameter "22023" "Length parameter not valid", .chars none)

/-- What OpenSSL answers when its context is set up: for the cipher list and the certificate files, if they are given, and
for the certificate authority. -/
structure SslSetup where
  cipher : Option Bool
  authority : Bool
  certificate : Option Bool
  key : Bool
  keyCheck : Bool

/-- What `attachsql_connect_set_ssl` finds wrong with its arguments. -/
def SslSetup.refusal (setup : SslSetup) : Option String :=
  if setup.cipher = some false then some "Error setting SSL cipher list"
  else if ¬ setup.authority then some "Error loading the SSL certificate authority file"
  else if setup.certificate = none then none
  else if setup.certificate = some false then some "Error loading the SSL certificate file"
  else if ¬ setup.key then some "Cannot load the SSL key file"
  else if ¬ setup.keyCheck then some "Error validating the SSL private key"
  else none

/-- `attachsql_connect_set_ssl`. -/
def connectSetSsl (env : Env) (con : Con) (setup : SslSetup) (error : ErrorPtr) : Con × ErrorPtr × Bool :=
  match setup.refusal with
  | some msg => ({ con with errmsg := msg }, errorClientCreate env error errorCodeSsl "22023" msg, false)
  | none => ({ con with ssl.ssl := true }, error, true)

/-- `attachsql_pool_add_connection`, for a pool of so many connections. -/
def poolAddConnection (env : Env) (con : Con) (connectionCount : ℕ) (error : ErrorPtr) : Con × ErrorPtr :=
  if env.newArray (connectionCount + 1) 8 then ({ con with pool := true }, error)
  else (con, errorClientCreate env error errorCodeAlloc "82100" "Allocation failure for pool connection add")

/-! ### Calls with an error -/

/-- The functions of the interface that take a connection and a place for an error. -/
inductive ErrorCall where
  | connect
  | poll
  | query (statement : List UInt8) (parameters : List QueryParameter)
  | queryRowGet
  | statementPrepare (statement : List UInt8)
  | statementExecute
  | statementReset
  | statementSendLongData (param : ℕ) (data : List UInt8)
  | statementSet (param : ℕ) (set : StmtParam → StmtParam)
  | statementRowGet
  | statementGet (column : ℕ) (zero : Value) (convert : Con → StmtCell → Option Value)
  | statementGetChar (column : ℕ) (hasLength : Bool) (convert : Con → StmtCell → Option Value)
  | connectSetSsl (setup : SslSetup)
  | poolAddConnection (connectionCount : ℕ)

/-- What such a function answers. -/
inductive Reply where
  | void
  | bool (ok : Bool)
  | polled (r : Return)
  | row (cells : Option (List Cell))
  | value (v : Value)

/-- The connection a call leaves, and its answer, without the error. -/
def silence {α : Type} (reply : α → Reply) (r : Con × ErrorPtr × α) : Con × Reply := (r.1, reply r.2.2)

/-- A call with its error. -/
def ErrorCall.run (env : Env) (w : World) (con : Con) (error : ErrorPtr) : ErrorCall → Con × Reply
  | .connect => silence .bool (LibAttachSql.connect env w con error)
  | .poll => silence .polled (connectPoll env w con error)
  | .query statement parameters => silence .bool (LibAttachSql.query env w con statement parameters error)
  | .queryRowGet => silence .row (LibAttachSql.queryRowGet env con error)
  | .statementPrepare statement => silence .bool (LibAttachSql.statementPrepare env w con statement error)
  | .statementExecute => silence .bool (LibAttachSql.statementExecute env con error)
  | .statementReset => silence .bool (LibAttachSql.statementReset env con error)
  | .statementSendLongData param data => silence .bool (LibAttachSql.statementSendLongData env con param data error)
  | .statementSet param set => silence .bool (LibAttachSql.statementSet env con param error set)
  | .statementRowGet => silence .bool (LibAttachSql.statementRowGet env con error)
  | .statementGet column zero convert => silence .value (statementGetAs env con column zero convert error)
  | .statementGetChar column hasLength convert =>
    silence .value (LibAttachSql.statementGetChar env con column hasLength convert error)
  | .connectSetSsl setup => silence .bool (LibAttachSql.connectSetSsl env con setup error)
  | .poolAddConnection connectionCount => ((LibAttachSql.poolAddConnection env con connectionCount error).1, .void)

/-- A null pointer in place of the error changes neither the connection nor the answer.  Since a null pointer that is
followed is on the trace, it is not followed either. -/
def NullDisables (s : Setting) (con : Con) (c : ErrorCall) : Prop :=
  ∀ old, c.run s.env s.world con .null = c.run s.env s.world con (.at old)

/-! ### Calls that announce an event -/

/-- A connection for which `attachsql_connect` announces an event. -/
def Con.ConnectAnnounces (con : Con) : Prop := con.status.IsError ∨ con.status = .idle ∧ con.commandStatus = .connected

/-- A connection for which the switch of a poll announces an event. -/
def Con.PollAnnounces (con : Con) : Prop :=
  con.status.IsError ∨ con.status = .idle ∧ (con.serverErrno ≠ 0 ∨ con.commandStatus = .eof ∨
    con.commandStatus = .connected ∨ con.commandStatus = .rowInBuffer ∧ con.bufferRows = false)

/-- The connection `attachsql_query` opens for a query with no parameters. -/
def queryKept (con : Con) (statement : List UInt8) : Con :=
  setQueryBuffer ({ con with inQuery := true }.log .queryBegun) statement false

/-- The expansion of a query with parameters. -/
def queryExpansion (con : Con) (statement : List UInt8) (parameters : List QueryParameter) : Con × List UInt8 :=
  let begun := { con with inQuery := true }.log .queryBegun
  expandQuery { begun with own := begun.own.newQueryBuffer } statement parameters

/-- The connection `attachsql_query` opens for a query with parameters. -/
def queryExpanded (con : Con) (statement : List UInt8) (parameters : List QueryParameter) : Con :=
  setQueryBuffer (queryExpansion con statement parameters).1 (queryExpansion con statement parameters).2 true

/-- The connection `attachsql_statement_prepare` opens. -/
def prepareKept (con : Con) (statement : List UInt8) : Con :=
  { con with
    queryBuffer := statement
    queryBufferLength := statement.length
    queryBufferAlloc := false
    queryBufferStatement := true
    own := con.own.dropQueryBuffer }

/-- The call announces an event to the callback of a pool: an opening or a poll that finds the connection in such a
state, or a query or a prepare that opens the connection. -/
def ErrorCall.Announces (s : Setting) (con : Con) : ErrorCall → Prop
  | .connect => (doConnect s.env s.world con).ConnectAnnounces
  | .poll => (con.seen s).PollAnnounces
  | .query statement parameters =>
    con.inQuery = false ∧ con.status = .notConnected ∧
      if parameters = [] then (doConnect s.env s.world (queryKept con statement)).ConnectAnnounces
      else (s.env.newArray (statement.length + 1 + (parameters.map parameterRoom).sum) 1 ∨ statement = []) ∧
        (doConnect s.env s.world (queryExpanded con statement parameters)).ConnectAnnounces
  | .statementPrepare statement =>
    con.status = .notConnected ∧ (doConnect s.env s.world (prepareKept con statement)).ConnectAnnounces
  | _ => False

/-! ### Calls that announce nothing -/

/-- Two results that differ in the error only. -/
def SameButError {α : Type} (r r' : Con × ErrorPtr × α) : Prop := r.1 = r'.1 ∧ r.2.2 = r'.2.2

section Silent

variable (env : Env) (w : World) (con : Con) (error error' : ErrorPtr)

lemma silence_eq {α : Type} {reply : α → Reply} {r r' : Con × ErrorPtr × α} (h : SameButError r r') :
    silence reply r = silence reply r' := by
  unfold silence
  rw [h.1, h.2]

lemma queryRowGet_same : SameButError (queryRowGet env con error) (queryRowGet env con error') := by
  unfold queryRowGet
  split_ifs
  · exact ⟨rfl, rfl⟩
  · exact ⟨rfl, rfl⟩
  · dsimp only
    split
    · exact ⟨rfl, rfl⟩
    · exact ⟨rfl, rfl⟩

lemma statementExecute_same : SameButError (statementExecute env con error) (statementExecute env con error') := by
  unfold statementExecute
  split
  · exact ⟨rfl, rfl⟩
  · split
    · exact ⟨rfl, rfl⟩
    · split_ifs
      · exact ⟨rfl, rfl⟩
      · exact ⟨rfl, rfl⟩

lemma statementCommand_same (command : Command) (extra : Stmt → List UInt8) (data : List UInt8) :
    SameButError (statementCommand env con command extra data error)
      (statementCommand env con command extra data error') := by
  unfold statementCommand
  split
  · exact ⟨rfl, rfl⟩
  · split
    · exact ⟨rfl, rfl⟩
    · exact ⟨rfl, rfl⟩

lemma statementSet_same (param : ℕ) (set : StmtParam → StmtParam) :
    SameButError (statementSet env con param error set) (statementSet env con param error' set) := by
  unfold statementSet
  split
  · exact ⟨rfl, rfl⟩
  · split_ifs
    · exact ⟨rfl, rfl⟩
    · split
      · exact ⟨rfl, rfl⟩
      · exact ⟨rfl, rfl⟩

lemma writeStmtRow_same (row : List StmtCell) :
    SameButError (writeStmtRow env con row error) (writeStmtRow env con row error') := by
  unfold writeStmtRow
  split
  · split_ifs
    · exact ⟨rfl, rfl⟩
    · dsimp only
      split_ifs
      · exact ⟨rfl, rfl⟩
      · exact ⟨rfl, rfl⟩
  · exact ⟨rfl, rfl⟩

lemma statementRowGet_same : SameButError (statementRowGet env con error) (statementRowGet env con error') := by
  unfold statementRowGet
  dsimp only
  split
  · exact ⟨rfl, rfl⟩
  · exact writeStmtRow_same env _ error error' _

lemma statementGet_same (column : ℕ) :
    SameButError (statementGet env con column error) (statementGet env con column error') := by
  unfold statementGet
  split
  · exact ⟨rfl, rfl⟩
  · split_ifs
    · exact ⟨rfl, rfl⟩
    · exact ⟨rfl, rfl⟩

lemma statementGetAs_same (column : ℕ) (zero : Value) (convert : Con → StmtCell → Option Value) :
    SameButError (statementGetAs env con column zero convert error)
      (statementGetAs env con column zero convert error') := by
  have h := statementGet_same env con error error' column
  unfold statementGetAs
  generalize statementGet env con column error = r at h ⊢
  generalize statementGet env con column error' = r' at h ⊢
  obtain ⟨con₁, error₁, cell⟩ := r
  obtain ⟨con₂, error₂, cell'⟩ := r'
  obtain ⟨rfl, rfl⟩ : con₁ = con₂ ∧ cell = cell' := h
  cases cell with
  | none => exact ⟨rfl, rfl⟩
  | some cell =>
    dsimp only
    split
    · exact ⟨rfl, rfl⟩
    · exact ⟨rfl, rfl⟩

lemma statementGetChar_same (column : ℕ) (hasLength : Bool) (convert : Con → StmtCell → Option Value) :
    SameButError (statementGetChar env con column hasLength convert error)
      (statementGetChar env con column hasLength convert error') := by
  unfold statementGetChar
  split_ifs
  · exact statementGetAs_same env con error error' column _ convert
  · exact ⟨rfl, rfl⟩

lemma connectSetSsl_same (setup : SslSetup) :
    SameButError (connectSetSsl env con setup error) (connectSetSsl env con setup error') := by
  unfold connectSetSsl
  split
  · exact ⟨rfl, rfl⟩
  · exact ⟨rfl, rfl⟩

lemma poolAddConnection_same (connectionCount : ℕ) :
    (poolAddConnection env con connectionCount error).1 = (poolAddConnection env con connectionCount error').1 := by
  unfold poolAddConnection
  split_ifs
  · rfl
  · rfl

/-- An opening that announces nothing does not look at the error. -/
lemma connect_same (h : ¬ (doConnect env w con).ConnectAnnounces) :
    SameButError (connect env w con error) (connect env w con error') := by
  unfold connect
  dsimp only
  generalize doConnect env w con = con₁ at h ⊢
  cases hs : con₁.status with
  | notConnected => exact ⟨rfl, rfl⟩
  | connecting => exact ⟨rfl, rfl⟩
  | busy => exact ⟨rfl, rfl⟩
  | idle =>
    have hc : con₁.commandStatus ≠ .connected := fun hc => h (.inr ⟨hs, hc⟩)
    dsimp only
    rw [if_neg hc, if_neg hc]
    exact ⟨rfl, rfl⟩
  | parameterError => exact absurd (.inl (by rw [hs]; decide)) h
  | connectFailed => exact absurd (.inl (by rw [hs]; decide)) h
  | sslError => exact absurd (.inl (by rw [hs]; decide)) h
  | netError => exact absurd (.inl (by rw [hs]; decide)) h

/-- A poll that announces nothing does not look at the error. -/
lemma pollSwitch_same (h : ¬ con.PollAnnounces) :
    SameButError (pollSwitch env w con error) (pollSwitch env w con error') := by
  unfold pollSwitch
  cases hs : con.status with
  | notConnected => exact ⟨rfl, rfl⟩
  | connecting => exact ⟨rfl, rfl⟩
  | busy => exact ⟨rfl, rfl⟩
  | idle =>
    have hidle : ¬ (con.serverErrno ≠ 0 ∨ con.commandStatus = .eof ∨ con.commandStatus = .connected ∨
        con.commandStatus = .rowInBuffer ∧ con.bufferRows = false) := fun hi => h (.inr ⟨hs, hi⟩)
    simp only [ne_eq, not_or, not_and, not_not] at hidle
    obtain ⟨herrno, heof, hconnected, hrow⟩ := hidle
    unfold pollIdle
    dsimp only
    rw [if_neg (not_not_intro herrno), if_neg (not_not_intro herrno)]
    cases hc : con.commandStatus with
    | eof => exact absurd hc heof
    | connected => exact absurd hc hconnected
    | rowInBuffer =>
      have hbuffer : con.bufferRows = true := Bool.eq_true_of_not_eq_false (hrow hc)
      dsimp only
      rw [if_pos hbuffer, if_pos hbuffer]
      unfold queryRowBuffer
      split
      · exact ⟨rfl, rfl⟩
      · exact ⟨rfl, rfl⟩
    | _ => exact ⟨rfl, rfl⟩
  | parameterError => exact absurd (.inl (by rw [hs]; decide)) h
  | connectFailed => exact absurd (.inl (by rw [hs]; decide)) h
  | sslError => exact absurd (.inl (by rw [hs]; decide)) h
  | netError => exact absurd (.inl (by rw [hs]; decide)) h

/-- The expansion of a query changes nothing that an entry in the trace leaves alone. -/
lemma expandQuery_keeps {α : Type} (f : Con → α) (hlog : ∀ con a, f (con.log a) = f con) (statement : List UInt8)
    (params : List QueryParameter) : f (expandQuery con statement params).1 = f con := by
  have hparam : ∀ (con : Con) p, f (expandParameter con p).1 = f con := fun con p => by
    cases p with
    | char data => exact hlog con _
    | charLike data => exact hlog con _
    | none _ => rfl
    | int _ _ => rfl
    | bigint _ _ => rfl
    | float _ => rfl
    | double _ => rfl
  induction statement generalizing con params with
  | nil => rfl
  | cons c cs ih =>
    unfold expandQuery
    split_ifs
    · exact ih con params
    · cases params with
      | nil => exact hlog con _
      | cons p params => exact (ih _ params).trans (hparam con p)

lemma queryExpanded_status (statement : List UInt8) (parameters : List QueryParameter) :
    (queryExpanded con statement parameters).status = con.status := by
  unfold queryExpanded queryExpansion
  exact expandQuery_keeps _ Con.status (fun _ _ => rfl) statement parameters

/-- A query that is let through, with no parameters. -/
lemma query_plain (statement : List UInt8) (hquery : con.inQuery = false) :
    query env w con statement [] error = querySend env w
      (if con.status = .notConnected then queryKept con statement
        else { con with inQuery := true }.log .queryBegun) statement error := by
  unfold query
  rw [if_neg (by rw [hquery]; decide)]
  rfl

/-- A query that is let through, with parameters and the room for their values. -/
lemma query_expanded (statement : List UInt8) {parameters : List QueryParameter} (hquery : con.inQuery = false)
    (hparams : parameters ≠ [])
    (hroom : env.newArray (statement.length + 1 + (parameters.map parameterRoom).sum) 1 ∨ statement = []) :
    query env w con statement parameters error = querySend env w (queryExpanded con statement parameters)
      (queryExpansion con statement parameters).2 error := by
  unfold query
  rw [if_neg (by rw [hquery]; decide)]
  dsimp only
  rw [if_neg hparams, if_pos hroom]
  rfl

lemma querySend_same (text : List UInt8)
    (h : con.status = .notConnected → ¬ (doConnect env w con).ConnectAnnounces) :
    SameButError (querySend env w con text error) (querySend env w con text error') := by
  unfold querySend
  split_ifs with hs
  · exact connect_same env w con error error' (h hs)
  · split
    · exact ⟨rfl, rfl⟩
    · exact ⟨rfl, rfl⟩

variable (s : Setting)

/-- A query whose opening, if there is one, announces nothing. -/
lemma query_same (statement : List UInt8) (parameters : List QueryParameter)
    (h : ¬ (ErrorCall.query statement parameters).Announces s con) :
    SameButError (query s.env s.world con statement parameters error)
      (query s.env s.world con statement parameters error') := by
  by_cases hquery : con.inQuery = true
  · unfold query
    rw [if_pos hquery, if_pos hquery]
    exact ⟨rfl, rfl⟩
  have hfree : con.inQuery = false := Bool.not_eq_true _ ▸ hquery
  by_cases hparams : parameters = []
  · subst hparams
    rw [query_plain _ _ _ _ _ hfree, query_plain _ _ _ _ _ hfree]
    refine querySend_same s.env s.world _ error error' statement fun hs hannounces => h ⟨hfree, ?_⟩
    split_ifs at hs hannounces with hstatus
    · exact ⟨hstatus, by rw [if_pos rfl]; exact hannounces⟩
    · exact absurd hs hstatus
  · by_cases hroom : s.env.newArray (statement.length + 1 + (parameters.map parameterRoom).sum) 1 ∨ statement = []
    · rw [query_expanded _ _ _ _ statement hfree hparams hroom, query_expanded _ _ _ _ statement hfree hparams hroom]
      refine querySend_same s.env s.world _ error error' _ fun hs hannounces => h ⟨hfree, ?_⟩
      rw [queryExpanded_status] at hs
      exact ⟨hs, by rw [if_neg hparams]; exact ⟨hroom, hannounces⟩⟩
    · unfold query
      dsimp only
      rw [if_neg hquery, if_neg hquery, if_neg hparams, if_neg hparams, if_neg hroom, if_neg hroom]
      exact ⟨rfl, rfl⟩

/-- A prepare whose opening, if there is one, announces nothing. -/
lemma statementPrepare_same (statement : List UInt8)
    (h : ¬ (ErrorCall.statementPrepare statement).Announces s con) :
    SameButError (statementPrepare s.env s.world con statement error)
      (statementPrepare s.env s.world con statement error') := by
  unfold statementPrepare
  split_ifs with hs
  · exact connect_same s.env s.world _ error error' fun hannounces => h ⟨hs, hannounces⟩
  · exact ⟨rfl, rfl⟩
  · exact ⟨rfl, rfl⟩

/-- **A call that announces nothing does not look at its error.** -/
theorem run_same {c : ErrorCall} (h : ¬ c.Announces s con) :
    c.run s.env s.world con error = c.run s.env s.world con error' := by
  cases c with
  | connect => exact silence_eq (connect_same s.env s.world con error error' h)
  | poll => exact silence_eq (pollSwitch_same s.env s.world _ error error' h)
  | query statement parameters => exact silence_eq (query_same con error error' s statement parameters h)
  | queryRowGet => exact silence_eq (queryRowGet_same s.env con error error')
  | statementPrepare statement => exact silence_eq (statementPrepare_same con error error' s statement h)
  | statementExecute => exact silence_eq (statementExecute_same s.env con error error')
  | statementReset => exact silence_eq (statementCommand_same s.env con error error' _ _ _)
  | statementSendLongData param data => exact silence_eq (statementCommand_same s.env con error error' _ _ _)
  | statementSet param set => exact silence_eq (statementSet_same s.env con error error' param set)
  | statementRowGet => exact silence_eq (statementRowGet_same s.env con error error')
  | statementGet column zero convert =>
    exact silence_eq (statementGetAs_same s.env con error error' column zero convert)
  | statementGetChar column hasLength convert =>
    exact silence_eq (statementGetChar_same s.env con error error' column hasLength convert)
  | connectSetSsl setup => exact silence_eq (connectSetSsl_same s.env con error error' setup)
  | poolAddConnection connectionCount =>
    exact congrArg (·, Reply.void) (poolAddConnection_same s.env con error error' connectionCount)

end Silent

/-! ### Calls that announce something -/

/-- The history ends where it was, or goes on from there with something else than a null pointer followed. -/
def GoesOn (before after : List Action) : Prop := after = before ∨ ∃ a, a ≠ .fault ∧ a :: before <:+ after

lemma GoesOn.not_fault {before after : List Action} (h : GoesOn before after) : ¬ .fault :: before <:+ after := by
  rintro ⟨x, hx⟩
  rcases h with rfl | ⟨a, ha, y, hy⟩
  · have hlength := congrArg List.length hx
    simp only [List.length_append, List.length_cons] at hlength
    omega
  · have hsuffix : .fault :: before = a :: before :=
      (List.append_inj' (hx.trans hy.symm) rfl).2
    exact ha (List.cons.inj hsuffix).1.symm

section Announced

variable (s : Setting) (con : Con)

/-- With an error the callback is told, or nothing happens. -/
lemma sendCallback_goesOn (event : Event) (old : Option Err) :
    GoesOn con.trace (sendCallback s.world con event (.at old)).trace := by
  unfold sendCallback
  dsimp only
  split_ifs
  · exact .inl rfl
  · have hsuffix := (s.world_follows.callback event ({ con with lastCallback := event }.log (.callback event old))).suffix
    exact .inr ⟨.callback event old, nofun, hsuffix⟩
  · exact .inl rfl

lemma connectError_null (env : Env) : connectError env con .null = .null := by
  unfold connectError
  split_ifs
  · rfl
  · rfl
  · rfl
  · rfl

lemma reportError_null (env : Env) (w : World) : .fault :: con.trace <:+ (reportError env w con .null).1.trace := by
  unfold reportError
  dsimp only
  split
  · exact List.suffix_refl _
  · rw [connectError_null]
    exact List.suffix_refl _
  · exact List.suffix_refl _
  · exact List.suffix_refl _
  · exact List.suffix_refl _

lemma reportError_goesOn (old : Option Err) :
    GoesOn con.trace (reportError s.env s.world con (.at old)).1.trace := by
  obtain ⟨new, hnew⟩ := reportError_at s.env s.world con old
  rw [hnew]
  exact sendCallback_goesOn s con .error new

lemma GoesOn.cons {before after : List Action} (h : GoesOn before after) {a : Action} (ha : a ≠ .fault) :
    GoesOn before (a :: after) := by
  rcases h with rfl | ⟨b, hb, hsuffix⟩
  · exact .inr ⟨a, ha, List.suffix_refl _⟩
  · exact .inr ⟨b, hb, hsuffix.trans (List.suffix_cons _ _)⟩

lemma GoesOn.apart {con con₁ con₂ : Con} (h : GoesOn con.trace con₂.trace) (hnull : .fault :: con.trace <:+ con₁.trace) :
    con₁ ≠ con₂ := by
  rintro rfl
  exact h.not_fault hnull

/-- The two openings of a connection that announce something have different histories. -/
lemma connect_apart (h : (doConnect s.env s.world con).ConnectAnnounces) (old : Option Err) :
    (connect s.env s.world con .null).1 ≠ (connect s.env s.world con (.at old)).1 := by
  unfold connect
  dsimp only
  generalize doConnect s.env s.world con = con₁ at h ⊢
  rcases h with herror | ⟨hidle, hconnected⟩
  · have hreport := (reportError_goesOn s con₁ old).apart (reportError_null con₁ s.env s.world)
    rcases herror with hs | hs | hs | hs
    · rw [hs]
      exact hreport
    · rw [hs]
      exact hreport
    · rw [hs]
      exact hreport
    · rw [hs]
      exact hreport
  · rw [hidle]
    dsimp only
    rw [if_pos hconnected, if_pos hconnected]
    exact (sendCallback_goesOn s con₁ .connected old).apart (List.suffix_refl _)

/-- A command puts itself on the trace first. -/
lemma commandSend_goesOn (env : Env) (command : Command) (data : List UInt8) :
    GoesOn con.trace (commandSend env con command data).1.trace := by
  have h := commandSend_follows env con command data
  have hstart : .command command con.status :: con.trace <:+ (commandStart con command data.length).trace :=
    List.suffix_cons _ _
  exact .inr ⟨.command command con.status, nofun, hstart.trans h.suffix⟩

/-- On a connection that has been opened the kept query or prepare is sent. -/
lemma connectQuery_goesOn (env : Env) (w : World) (hs : con.status ≠ .notConnected) (error : ErrorPtr) :
    GoesOn con.trace (connectQuery env w con error).1.trace := by
  have hsend : ∀ text, GoesOn con.trace (connectSend env w con text).1.trace := fun text => by
    unfold connectSend
    dsimp only
    split_ifs
    · unfold statementPrepare
      dsimp only
      rw [if_neg hs]
      split_ifs
      · exact commandSend_goesOn { con with own := con.own.useQueryBuffer, stmt := some Stmt.fresh } env _ _
      · exact .inr ⟨.failed .stmtAlloc con.status con.serverErrno, nofun, List.suffix_refl _⟩
    · exact commandSend_goesOn { con with own := con.own.useQueryBuffer } env _ _
  have h := hsend (con.queryBuffer.take con.queryBufferLength)
  unfold connectQuery
  split
  · next hx => rwa [hx] at h
  · next hx => rwa [hx] at h

/-- What follows the callback of a connected event. -/
lemma connected_goesOn (hs : con.status = .idle) (old : Option Err) :
    GoesOn con.trace (if 0 < (sendCallback s.world con .connected (.at old)).queryBufferLength then
      connectQuery s.env s.world (sendCallback s.world con .connected (.at old)) (.at old)
      else (sendCallback s.world con .connected (.at old), .at old, .eof)).1.trace := by
  have hcallback : sendCallback s.world con .connected (.at old) = con ∨
      .callback .connected old :: con.trace <:+ (sendCallback s.world con .connected (.at old)).trace := by
    unfold sendCallback
    dsimp only
    split_ifs
    · exact .inl rfl
    · exact .inr (s.world_follows.callback .connected
        ({ con with lastCallback := .connected }.log (.callback .connected old))).suffix
    · exact .inl rfl
  rcases hcallback with heq | hsuffix
  · rw [heq]
    split_ifs
    · exact connectQuery_goesOn con s.env s.world (by rw [hs]; decide) _
    · exact .inl rfl
  · have hgoes : ∀ {x : List Action}, (sendCallback s.world con .connected (.at old)).trace <:+ x → GoesOn con.trace x :=
      fun h => .inr ⟨.callback .connected old, nofun, hsuffix.trans h⟩
    split_ifs
    · exact hgoes (connectQuery_does s.env _ s.world_follows _).suffix
    · exact hgoes (List.suffix_refl _)

/-- The two polls of a connection that announce something have different histories. -/
lemma pollSwitch_apart (h : con.PollAnnounces) (old : Option Err) :
    (pollSwitch s.env s.world con .null).1 ≠ (pollSwitch s.env s.world con (.at old)).1 := by
  unfold pollSwitch
  rcases h with herror | ⟨hidle, hcase⟩
  · have hreport := (reportError_goesOn s con old).apart (reportError_null con s.env s.world)
    rcases herror with hs | hs | hs | hs
    · rw [hs]
      exact hreport
    · rw [hs]
      exact hreport
    · rw [hs]
      exact hreport
    · rw [hs]
      exact hreport
  rw [hidle]
  dsimp only
  unfold pollIdle
  by_cases herrno : con.serverErrno ≠ 0
  · rw [if_pos herrno, if_pos herrno]
    obtain ⟨new, hnew⟩ := errorServerCreate_at s.env con old
    rw [hnew]
    exact (sendCallback_goesOn s con .error new).apart (List.suffix_refl _)
  rw [if_neg herrno, if_neg herrno]
  rcases hcase.resolve_left herrno with heof | hconnected | ⟨hrow, hbuffer⟩
  · rw [heof]
    have hgoes := sendCallback_goesOn s con .eof old
    exact (hgoes.cons (a := .eofReported (sendCallback s.world con .eof (.at old)).lastCallback) nofun).apart
      (List.suffix_cons _ _)
  · rw [hconnected]
    dsimp only
    refine (connected_goesOn s con hidle old).apart ?_
    split_ifs
    · exact (connectQuery_does s.env (sendCallback s.world con .connected .null) s.world_follows .null).suffix
    · exact List.suffix_refl _
  · rw [hrow]
    dsimp only
    rw [if_neg (by rw [hbuffer]; decide), if_neg (by rw [hbuffer]; decide)]
    exact (sendCallback_goesOn s con .rowReady old).apart (List.suffix_refl _)

/-- **A call that announces an event follows a null pointer** where a call with an error does not. -/
theorem run_apart {c : ErrorCall} (h : c.Announces s con) (old : Option Err) :
    c.run s.env s.world con .null ≠ c.run s.env s.world con (.at old) := by
  have hsilence : ∀ {α : Type} {reply : α → Reply} {r r' : Con × ErrorPtr × α}, r.1 ≠ r'.1 →
      silence reply r ≠ silence reply r' := fun hne heq => by
    have hcon := congrArg Prod.fst heq
    exact hne hcon
  have hsend : ∀ con₁ text, con₁.status = .notConnected → (doConnect s.env s.world con₁).ConnectAnnounces →
      (querySend s.env s.world con₁ text .null).1 ≠ (querySend s.env s.world con₁ text (.at old)).1 := by
    intro con₁ text hs hannounces
    unfold querySend
    rw [if_pos hs, if_pos hs]
    exact connect_apart s con₁ hannounces old
  cases c with
  | connect => exact hsilence (connect_apart s con h old)
  | poll => exact hsilence (pollSwitch_apart s _ h old)
  | query statement parameters =>
    obtain ⟨hfree, hs, hopen⟩ := h
    refine hsilence ?_
    by_cases hparams : parameters = []
    · subst hparams
      rw [if_pos rfl] at hopen
      rw [query_plain _ _ _ _ _ hfree, query_plain _ _ _ _ _ hfree, if_pos hs]
      exact hsend _ _ hs hopen
    · rw [if_neg hparams] at hopen
      rw [query_expanded _ _ _ _ statement hfree hparams hopen.1, query_expanded _ _ _ _ statement hfree hparams hopen.1]
      exact hsend _ _ (by rw [queryExpanded_status]; exact hs) hopen.2
  | statementPrepare statement =>
    refine hsilence ?_
    unfold statementPrepare
    rw [if_pos h.1, if_pos h.1]
    exact connect_apart s _ h.2 old
  | queryRowGet => exact h.elim
  | statementExecute => exact h.elim
  | statementReset => exact h.elim
  | statementSendLongData param data => exact h.elim
  | statementSet param set => exact h.elim
  | statementRowGet => exact h.elim
  | statementGet column zero convert => exact h.elim
  | statementGetChar column hasLength convert => exact h.elim
  | connectSetSsl setup => exact h.elim
  | poolAddConnection connectionCount => exact h.elim

end Announced

/-! ### The argument that may be null -/

/-- **When a null pointer only disables the error**: exactly when the call announces no event.  An announcement passes the
error itself on, and follows the null pointer for it. -/
theorem null_error_iff (s : Setting) (con : Con) (c : ErrorCall) : NullDisables s con c ↔ ¬ c.Announces s con := by
  constructor
  · intro h hannounces
    exact run_apart s con hannounces none (h none)
  · intro h old
    exact run_same con .null (.at old) s h

/-- A poll without an error of a connection whose command is over follows the null pointer, with no pool whose callback
could be told. -/
theorem null_error_followed :
    ¬ NullDisables (.calm []) { Con.calm 0 with status := .idle } .poll ∧
      (connectPoll .calm (Setting.calm []).world { Con.calm 0 with status := .idle } .null).1.trace =
        [.eofReported .none, .fault] ∧
      (connectPoll .calm (Setting.calm []).world { Con.calm 0 with status := .idle } (.at none)).1.trace =
        [.eofReported .none] := by
  refine ⟨fun h => ?_, rfl, rfl⟩
  have htrace := congrArg (fun r => r.1.trace.length) (h none)
  revert htrace
  decide

end LibAttachSql
