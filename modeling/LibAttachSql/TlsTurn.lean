import LibAttachSql.SendFrame
import LibAttachSql.SendPaths

/-!
# A turn of OpenSSL

What `attachsql_ssl_run` asks OpenSSL and libuv, and in which order, depends on the SSL part of the connection only.  So it
can be said from that part and the environment, before anything is done, whether a write through OpenSSL will fail, and
whether it will break the connection.
-/

namespace LibAttachSql

open Lib

/-! ### What will be answered -/

/-- libuv refuses these bytes at once. -/
def Env.refuses (env : Env) (stream : Bool) (bytes : List UInt8) : Bool := stream && (env.uvWrite bytes).isSome

/-- A call of OpenSSL failed. -/
def SslResult.isFailed : SslResult → Bool
  | .failed _ => true
  | _ => false

namespace Ssl

variable (env : Env) (stream : Bool) (ssl : Ssl)

/-- `SSL_write` fails for the unread part of the write buffer. -/
def writeFails : Bool :=
  match ssl.writeBuffer with
  | none => false
  | some b => decide (0 < b.unreadData) && (env.sslWrite ssl.calls (b.mem.slice b.bufferReadPtr b.unreadData)).isFailed

/-- The SSL part behind that call. -/
def afterWrite : Ssl :=
  match ssl.writeBuffer with
  | none => ssl
  | some b =>
    if 0 < b.unreadData then
      match env.sslWrite ssl.calls (b.mem.slice b.bufferReadPtr b.unreadData) with
      | .done r => { ssl with calls := ssl.calls + 1, writeBuffer := some (b.advance r) }
      | .wantRead | .failed _ => { ssl with calls := ssl.calls + 1 }
    else ssl

/-- `attachsql_ssl_data_check` fails: `SSL_write` does, or libuv refuses a chunk. -/
def checkFails : Bool := ssl.writeFails env || (env.bioRead (ssl.afterWrite env).calls).any (env.refuses stream)

/-- The SSL part behind `attachsql_ssl_data_check`. -/
def afterCheck : Ssl := { ssl.afterWrite env with calls := (ssl.afterWrite env).calls + 1 }

/-- What OpenSSL answers first in a turn. -/
def firstAnswer : SslResult :=
  if env.sslIsInitFinished ssl.calls then env.sslRead ssl.calls else env.sslConnect ssl.calls

/-- The SSL part behind a turn. -/
def afterRun : Ssl :=
  let next : Ssl := { ssl with calls := ssl.calls + 1 }
  match ssl.firstAnswer env with
  | .wantRead => (next.afterCheck env).afterCheck env
  | .done _ | .failed _ => next.afterCheck env

/-- A turn breaks the connection. -/
def runBreaks : Bool :=
  let next : Ssl := { ssl with calls := ssl.calls + 1 }
  match ssl.firstAnswer env with
  | .done _ => next.writeFails env
  | .wantRead => next.writeFails env || (next.afterCheck env).writeFails env
  | .failed _ => true

/-- A turn fails. -/
def runFails : Bool :=
  let next : Ssl := { ssl with calls := ssl.calls + 1 }
  match ssl.firstAnswer env with
  | .done _ => next.checkFails env stream
  | .wantRead => next.checkFails env stream || (next.afterCheck env).checkFails env stream
  | .failed _ => true

/-- The SSL part with these parts in its write buffer; there is none when the buffer cannot be made. -/
def filled (parts : List (List UInt8)) : Option Ssl :=
  let buffer := match ssl.writeBuffer with
    | some b => some b
    | none => bufferCreate env.malloc
  let buffer :=
    if bufferGetAvailable buffer < parts.flatten.length then (bufferIncrease env.malloc buffer).2 else buffer
  buffer.map fun b => { ssl with writeBuffer := some (parts.foldl BufferSt.append b) }

/-- A write breaks the connection. -/
def netBreaks (parts : List (List UInt8)) : Bool :=
  ssl.handshakeDone && ((ssl.filled env parts).map (·.runBreaks env)).getD false

/-- A write fails, through OpenSSL or straight to libuv. -/
def netFails (parts : List (List UInt8)) : Bool :=
  if ssl.handshakeDone then ((ssl.filled env parts).map (·.runFails env stream)).getD false
  else env.refuses stream parts.flatten

end Ssl

/-! ### What is answered -/

/-- What was done from one connection to the other holds a failure, or one that breaks the connection, or not so. -/
structure Con.Turns (fails breaks : Bool) (con con' : Con) : Prop where
  stream_eq : con'.stream = con.stream
  trace_eq : ∃ x, con'.trace = x ++ con.trace ∧ x.any Action.fails = fails ∧ x.any Action.breaks = breaks

namespace Con.Turns

variable {fails fails' breaks breaks' : Bool} {con con₁ con' : Con}

lemma trans (h : con.Turns fails breaks con₁) (h' : con₁.Turns fails' breaks' con') :
    con.Turns (fails || fails') (breaks || breaks') con' := by
  obtain ⟨x, hx, hf, hb⟩ := h.trace_eq
  obtain ⟨y, hy, hf', hb'⟩ := h'.trace_eq
  refine ⟨h'.stream_eq.trans h.stream_eq, y ++ x, by rw [hy, hx, List.append_assoc], ?_, ?_⟩
  · rw [List.any_append, hf, hf', Bool.or_comm]
  · rw [List.any_append, hb, hb', Bool.or_comm]

lemma same (hs : con'.stream = con.stream) (ht : con'.trace = con.trace) : con.Turns false false con' :=
  ⟨hs, [], ht, rfl, rfl⟩

/-- What comes before does nothing. -/
lemma after (h : con₁.Turns fails breaks con') (hs : con₁.stream = con.stream) (ht : con₁.trace = con.trace) :
    con.Turns fails breaks con' := by
  have h' := (same hs ht).trans h
  rwa [Bool.false_or, Bool.false_or] at h'

/-- One action. -/
lemma action {a : Action} (hs : con'.stream = con.stream) (ht : con'.trace = a :: con.trace) :
    con.Turns a.fails a.breaks con' :=
  ⟨hs, [a], ht, by rw [List.any_cons, List.any_nil, Bool.or_false], by rw [List.any_cons, List.any_nil, Bool.or_false]⟩

lemma congr (h : con.Turns fails breaks con') (hf : fails = fails') (hb : breaks = breaks') :
    con.Turns fails' breaks' con' := hf ▸ hb ▸ h

end Con.Turns

variable (env : Env) (con : Con)

lemma sslDataWrite_ssl : (sslDataWrite env con).ssl = con.ssl.afterWrite env := by
  unfold sslDataWrite Ssl.afterWrite
  cases hb : con.ssl.writeBuffer with
  | none => rfl
  | some b =>
    have hmark : { con.ssl with calls := con.ssl.calls + 1 } =
        { con.ssl with calls := con.ssl.calls + 1, writeBuffer := some b } :=
      congrArg (fun buffer => { con.ssl with calls := con.ssl.calls + 1, writeBuffer := buffer }) hb
    dsimp only
    split_ifs
    · cases env.sslWrite con.ssl.calls (b.mem.slice b.bufferReadPtr b.unreadData) with
      | done r => rfl
      | wantRead => exact hmark
      | failed reason => exact hmark
    · rfl

lemma sslDataWrite_turns :
    con.Turns (con.ssl.writeFails env) (con.ssl.writeFails env) (sslDataWrite env con) := by
  unfold sslDataWrite Ssl.writeFails
  cases con.ssl.writeBuffer with
  | none => exact .same rfl rfl
  | some b =>
    dsimp only
    split_ifs with hd
    · rw [decide_eq_true hd, Bool.true_and]
      cases env.sslWrite con.ssl.calls (b.mem.slice b.bufferReadPtr b.unreadData) with
      | done r => exact .same rfl rfl
      | wantRead => exact .same rfl rfl
      | failed reason => exact .action (a := .failed .sslDataWrite con.status con.serverErrno) rfl rfl
    · rw [decide_eq_false hd, Bool.false_and]
      exact .same rfl rfl

lemma sslNetWrite_turns (chunk : List UInt8) :
    con.Turns (env.refuses con.stream chunk) false (sslNetWrite env con chunk) := by
  unfold sslNetWrite uvWrite
  by_cases hs : con.stream = true
  · have hrefuses : env.refuses con.stream chunk = (env.uvWrite chunk).isSome := by
      unfold Env.refuses
      rw [hs, Bool.true_and]
    rw [if_pos hs, hrefuses]
    cases env.uvWrite chunk with
    | none => exact .action (a := .encrypted chunk) rfl rfl
    | some name => exact .action (a := .failed .sslNetWrite con.status con.serverErrno) rfl rfl
  · have hrefuses : env.refuses con.stream chunk = false := by
      unfold Env.refuses
      rw [Bool.eq_false_iff.mpr hs, Bool.false_and]
    rw [if_neg hs, hrefuses]
    exact .action (a := .fault) rfl rfl

/-- The chunks of a check, one after the other. -/
lemma sslNetWrites_turns (chunks : List (List UInt8)) :
    con.Turns (chunks.any (env.refuses con.stream)) false (chunks.foldl (sslNetWrite env) con) ∧
      (chunks.foldl (sslNetWrite env) con).ssl = con.ssl := by
  induction chunks generalizing con with
  | nil => exact ⟨.same rfl rfl, rfl⟩
  | cons chunk chunks ih =>
    have hchunk := sslNetWrite_turns env con chunk
    obtain ⟨hchunks, hssl⟩ := ih (sslNetWrite env con chunk)
    rw [hchunk.stream_eq] at hchunks
    exact ⟨hchunk.trans hchunks, hssl.trans (sslNetWrite_ssl env con chunk)⟩

lemma sslDataCheck_turns :
    con.Turns (con.ssl.checkFails env con.stream) (con.ssl.writeFails env) (sslDataCheck env con) ∧
      (sslDataCheck env con).ssl = con.ssl.afterCheck env := by
  have hwrite := sslDataWrite_turns env con
  have hssl := sslDataWrite_ssl env con
  unfold sslDataCheck Ssl.checkFails Ssl.afterCheck
  dsimp only
  generalize sslDataWrite env con = con₁ at hwrite hssl ⊢
  obtain ⟨hchunks, hssl'⟩ := sslNetWrites_turns env { con₁ with ssl.calls := con₁.ssl.calls + 1 }
    (env.bioRead con₁.ssl.calls)
  have h := hwrite.trans (hchunks.after rfl rfl)
  rw [Bool.or_false] at h
  rw [← hssl]
  refine ⟨?_, hssl'⟩
  rw [← hwrite.stream_eq]
  exact h

/-- A turn: what OpenSSL answers first is seen to, and then what it has to be handed on. -/
lemma sslRun_eq : sslRun env con =
    sslDataCheck env (sslResult env { con with ssl.calls := con.ssl.calls + 1 } (con.ssl.firstAnswer env)) := by
  unfold sslRun Ssl.firstAnswer
  dsimp only
  split_ifs <;> rfl

/-- **What a turn of OpenSSL comes to.** -/
theorem sslRun_turns :
    con.Turns (con.ssl.runFails env con.stream) (con.ssl.runBreaks env) (sslRun env con) ∧
      (sslRun env con).ssl = con.ssl.afterRun env := by
  rw [sslRun_eq]
  unfold Ssl.runFails Ssl.runBreaks Ssl.afterRun
  dsimp only
  generalize hnext : { con with ssl.calls := con.ssl.calls + 1 } = con₁
  have hssl : con₁.ssl = { con.ssl with calls := con.ssl.calls + 1 } := by rw [← hnext]
  have hstream : con₁.stream = con.stream := by rw [← hnext]
  have htrace : con₁.trace = con.trace := by rw [← hnext]
  rw [← hssl, ← hstream]
  cases con.ssl.firstAnswer env with
  | done r =>
    obtain ⟨h, hssl'⟩ := sslDataCheck_turns env con₁
    exact ⟨h.after hstream htrace, hssl'⟩
  | wantRead =>
    obtain ⟨hfirst, hfirst'⟩ := sslDataCheck_turns env con₁
    obtain ⟨hsecond, hsecond'⟩ := sslDataCheck_turns env (sslDataCheck env con₁)
    rw [hfirst', hfirst.stream_eq] at hsecond
    rw [hfirst'] at hsecond'
    exact ⟨(hfirst.trans hsecond).after hstream htrace, hsecond'⟩
  | failed reason =>
    have hfailed : con₁.Turns true true (sslResult env con₁ (.failed reason)) :=
      .action (a := .failed .sslHandleError con₁.status con₁.serverErrno) rfl rfl
    obtain ⟨h, hssl'⟩ := sslDataCheck_turns env (sslResult env con₁ (.failed reason))
    have h' := hfailed.trans h
    rw [Bool.true_or, Bool.true_or] at h'
    exact ⟨h'.after hstream htrace, hssl'⟩

/-- A turn that does not break the connection leaves its status alone. -/
lemma sslRun_status (h : con.ssl.runBreaks env = false) : (sslRun env con).status = con.status := by
  obtain ⟨x, hx, -, hb⟩ := (sslRun_turns env con).1.trace_eq
  obtain ⟨y, hy, hP⟩ := sslRun_does env con
  obtain rfl : x = y := List.append_cancel_right (hx.symm.trans hy)
  have hstatus : (sslRun env con).status = if x.any Action.breaks then .sslError else con.status :=
    (Control.written_of_path (Path.mono (fun h => Control.WireMove.net h) hP)).status
  rw [hstatus, hb, h, if_neg nofun]

/-- **What a write comes to**: through OpenSSL its failures are recorded, and libuv answers with its own. -/
theorem netWrite_turns {parts : List (List UInt8)} {con' : Con} {failure : Option String}
    (hw : netWrite env con parts = (con', failure)) :
    con.Turns (con.ssl.handshakeDone && con.ssl.netFails env con.stream parts) (con.ssl.netBreaks env parts) con' ∧
      failure.isSome = (!con.ssl.handshakeDone && con.ssl.netFails env con.stream parts) := by
  unfold netWrite at hw
  unfold Ssl.netFails Ssl.netBreaks
  cases hdone : con.ssl.handshakeDone with
  | true =>
    rw [if_pos hdone] at hw
    cases hw
    refine ⟨?_, rfl⟩
    rw [if_pos rfl, Bool.true_and, Bool.true_and]
    unfold sslBufferWrite Ssl.filled
    dsimp only
    generalize (if bufferGetAvailable _ < parts.flatten.length then _ else _ : Option BufferSt) = buffer
    cases buffer with
    | none => exact .action (a := .fault) rfl rfl
    | some b =>
      have hfill : con.Turns false false
          ({ con with ssl.writeBuffer := some (parts.foldl BufferSt.append b) }.log (.sslBuffered parts.flatten)) :=
        .action (a := .sslBuffered parts.flatten) rfl rfl
      have h := hfill.trans (sslRun_turns env _).1
      rwa [Bool.false_or, Bool.false_or] at h
  | false =>
    rw [if_neg (by rw [hdone]; decide)] at hw
    rw [if_neg nofun, Bool.false_and, Bool.false_and, Bool.not_false, Bool.true_and]
    unfold uvWrite at hw
    by_cases hs : con.stream = true
    · have hrefuses : env.refuses con.stream parts.flatten = (env.uvWrite parts.flatten).isSome := by
        unfold Env.refuses
        rw [hs, Bool.true_and]
      rw [if_pos hs] at hw
      rw [hrefuses]
      cases hu : env.uvWrite parts.flatten with
      | none =>
        rw [hu] at hw
        cases hw
        exact ⟨.action (a := .write parts.flatten) rfl rfl, rfl⟩
      | some name =>
        rw [hu] at hw
        cases hw
        exact ⟨.same rfl rfl, rfl⟩
    · have hrefuses : env.refuses con.stream parts.flatten = false := by
        unfold Env.refuses
        rw [Bool.eq_false_iff.mpr hs, Bool.false_and]
      rw [if_neg hs] at hw
      cases hw
      rw [hrefuses]
      exact ⟨.action (a := .fault) rfl rfl, rfl⟩

end LibAttachSql
