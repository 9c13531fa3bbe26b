import LibAttachSql.System

/-!
# Pools

`pool.cc`: the connections of a pool share one event loop, and `attachsql_pool_run` polls them in their order.  All the
polls of one such run are given the same error variable, which is null at the start of the run and is not cleared in
between.
-/

namespace LibAttachSql

open Lib

/-- `attachsql_pool_t`: its connections, in the order in which they were added. -/
structure Pool where
  connections : List Con

/-- What surrounds one `attachsql_pool_run`: what the event loop reports, and for which connection, the surroundings of
the poll of each connection, and the calls that the callbacks of this poll make on other connections. -/
structure PoolTurn where
  nets : List (ℕ × Env × NetEvent)
  polls : ℕ → Setting
  calls : ℕ → List (ℕ × Setting × Call)

/-- The error an error pointer points to. -/
def ErrorPtr.value : ErrorPtr → Option Err
  | .null => none
  | .at err => err

namespace Pool

variable (pool : Pool)

/-- Something is done to connection `i`. -/
def on (i : ℕ) (f : Con → Con) : Pool := { connections := pool.connections.modify i f }

/-- A report of the event loop. -/
def net (e : ℕ × Env × NetEvent) : Pool := pool.on e.1 fun con => sysStep con (.net e.2.1 e.2.2)

/-- A call of the application. -/
def call (c : ℕ × Setting × Call) : Pool := pool.on c.1 fun con => sysStep con (.call c.2.1 c.2.2)

end Pool

/-- One round of the loop of `attachsql_pool_run`: connection `i` is polled, with the error variable as it is. -/
def poolPoll (r : PoolTurn) (st : Pool × Option Err) (i : ℕ) : Pool × Option Err :=
  match st.1.connections[i]? with
  | none => st
  | some con =>
    let s := r.polls i
    let (con, error, _) := connectPoll s.env s.world con (.at st.2)
    ((r.calls i).foldl Pool.call (st.1.on i fun _ => con), error.value)

/-- The pool after the turn of the event loop at the start of `attachsql_pool_run`. -/
def poolTurned (pool : Pool) (r : PoolTurn) : Pool := r.nets.foldl Pool.net pool

/-- `attachsql_pool_run`. -/
def poolRun (pool : Pool) (r : PoolTurn) : Pool :=
  (run (poolPoll r) (poolTurned pool r, none) (List.range pool.connections.length)).1

/-- One event of a pool: the application calls the library for connection `i`, or runs the pool. -/
inductive PoolEvent where
  | call (i : ℕ) (s : Setting) (c : Call)
  | turn (r : PoolTurn)

/-- What an event does to the pool. -/
def poolStep (pool : Pool) : PoolEvent → Pool
  | .call i s c => pool.call (i, s, c)
  | .turn r => poolRun pool r

/-! ### One connection of a pool -/

section One

variable {pool : Pool} {i k : ℕ} {f : Con → Con}

@[simp] lemma length_on : (pool.on k f).connections.length = pool.connections.length :=
  List.length_modify ..

lemma getElem?_on : (pool.on k f).connections[i]? = if k = i then pool.connections[i]?.map f else pool.connections[i]? := by
  show (pool.connections.modify k f)[i]? = _
  rw [List.getElem?_modify]
  split <;> simp [*]

end One

end LibAttachSql
