import LibAttachSql.Query

/-!
# Polling

`attachsql_connect_poll`: one turn of the event loop for a connection without a pool, and the answer to the
application by the status the connection is in.
-/

namespace LibAttachSql

/-- `attachsql_do_poll`.  In these statuses the event loop is not run. -/
def doPoll (env : Env) (w : World) (con : Con) : Con :=
  match con.status with
  | .notConnected | .connectFailed | .idle | .sslError => con
  | _ => runUvLoop w (if con.ssl.handshakeDone then sslRun env con else con)

/-- The send of `attachsql_connect_query`: a prepare or a query. -/
def connectSend (env : Env) (w : World) (con : Con) (text : List UInt8) : Con × CommandStatus :=
  let con := { con with own := con.own.useQueryBuffer }
  if con.queryBufferStatement then
    let con := (statementPrepare env w con text .null).1
    (con, con.commandStatus)
  else commandSend env con .query text

/-- `attachsql_connect_query`: the query that was asked for before the connection was there. -/
def connectQuery (env : Env) (w : World) (con : Con) (error : ErrorPtr) : Con × ErrorPtr × Return :=
  match connectSend env w con (con.queryBuffer.take con.queryBufferLength) with
  | (con, .sendFailed) =>
    (con, errorClientCreate env error errorCodeServerGone "08006" con.errmsg, .error)
  | (con, _) => (con, error, .processing)

/-- `attachsql_query_row_buffer`. -/
def queryRowBuffer (env : Env) (con : Con) (error : ErrorPtr) : Con × ErrorPtr × Return :=
  match queryRowBufferLoop env (con.buf.unreadData + 1) con with
  | (con, none) => (con, error, .processing)
  | (con, some failure) => (con, errorClientCreate env error errorCodeAlloc "82100" failure, .error)

/-- The IDLE case of `attachsql_connect_poll`. -/
def pollIdle (env : Env) (w : World) (con : Con) (error : ErrorPtr) : Con × ErrorPtr × Return :=
  if con.serverErrno ≠ 0 then
    let error := errorServerCreate env con error
    (sendCallback w con .error error, error, .error)
  else
    match con.commandStatus with
    | .eof =>
      let con := sendCallback w con .eof error
      ({ con with allRowsBuffered := true, commandStatus := .eof }.log (.eofReported con.lastCallback), error, .eof)
    | .rowInBuffer =>
      if con.bufferRows then queryRowBuffer env con error
      else (sendCallback w con .rowReady error, error, .rowReady)
    | .connected =>
      let con := sendCallback w con .connected error
      if 0 < con.queryBufferLength then connectQuery env w con error else (con, error, .eof)
    | _ => (con.log .assertZero, error, .eof)

/-- The switch of `attachsql_connect_poll`. -/
def pollSwitch (env : Env) (w : World) (con : Con) (error : ErrorPtr) : Con × ErrorPtr × Return :=
  match con.status with
  | .parameterError | .connectFailed | .sslError | .netError =>
    let (con, error) := reportError env w con error
    (con, error, .error)
  | .notConnected => (con, error, .notConnected)
  | .connecting => (con, error, .connecting)
  | .busy => (con, error, .processing)
  | .idle => pollIdle env w con error

/-- `attachsql_connect_poll`.  The connection of a pool is not polled on its own. -/
def connectPoll (env : Env) (w : World) (con : Con) (error : ErrorPtr) : Con × ErrorPtr × Return :=
  pollSwitch env w (if con.pool then con else doPoll env w con) error

end LibAttachSql
