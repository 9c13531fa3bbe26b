import LibAttachSql.Pool
import Mathlib.Data.List.Infix

/-!
# Isolation of the connections of a pool

What a callback is given as the error is the error variable of the pool run, which an earlier poll of the same run may
have set.  A poll is isolated when that cannot show: the variable is null, the poll makes an error of its own, or no
callback is run.  When all its polls are isolated, a connection of a pool goes through what it would go through on its
own, with an error variable for each poll, and so whatever happens on the other connections.
-/

namespace LibAttachSql

open Lib

/-! ### One poll -/

/-- The poll makes an error of its own before a callback is run. -/
def OwnError (env : Env) (con : Con) : Prop :=
  env.newArray 1 sizeofError ∧
    (con.status = .parameterError ∨ con.status = .connectFailed ∨ con.status = .sslError ∨ con.status = .netError ∨
      con.status = .idle ∧ con.serverErrno ≠ 0)

/-- The event a poll has for the callback. -/
def Con.pollEvent (con : Con) : Option Event :=
  match con.status with
  | .parameterError | .connectFailed | .sslError | .netError => some .error
  | .notConnected | .connecting | .busy => none
  | .idle =>
    if con.serverErrno ≠ 0 then some .error
    else
      match con.commandStatus with
      | .eof => some .eof
      | .rowInBuffer => if con.bufferRows then none else some .rowReady
      | .connected => some .connected
      | _ => none

/-- The callback of the pool is run for this event. -/
def Con.Hears (con : Con) (event : Event) : Prop :=
  event ≠ con.lastCallback ∧ con.pool = true ∧ con.callbackFn = true

/-- The callback of this poll, if there is one, is given no error that was there before. -/
def Isolated (env : Env) (con : Con) (error : Option Err) : Prop :=
  error = none ∨ OwnError env con ∨ ∀ event, con.pollEvent = some event → ¬ con.Hears event

section Poll

variable {env : Env} {w : World} {con : Con} {error : Option Err}

lemma sendCallback_of_deaf {event : Event} (h : ¬ con.Hears event) : sendCallback w con event (.at error) = con := by
  unfold sendCallback
  dsimp only
  split
  · rfl
  · next hnew => exact if_neg fun hpool => h ⟨hnew, hpool⟩

lemma connectQuery_error (error error' : ErrorPtr) :
    (connectQuery env w con error).1 = (connectQuery env w con error').1 := by
  unfold connectQuery
  split <;> rfl

lemma queryRowBuffer_error (error error' : ErrorPtr) :
    (queryRowBuffer env con error).1 = (queryRowBuffer env con error').1 := by
  unfold queryRowBuffer
  split <;> rfl

section Own

variable (h : env.newArray 1 sizeofError = true)

include h

lemma errorClientCreate_own (code : ℕ) (sqlstate msg : String) :
    errorClientCreate env (.at error) code sqlstate msg = .at (some (.client code sqlstate msg)) := if_pos h

lemma errorServerCreate_own :
    errorServerCreate env con (.at error) =
      .at (some (.server con.serverErrno con.sqlstate (con.serverMessage.take (messageSize - 1)))) := if_pos h

lemma connectError_own : connectError env con (.at error) = connectError env con (.at none) := by
  unfold connectError
  simp only [errorClientCreate_own h, errorServerCreate_own h]

lemma reportError_own (hs : con.status = .parameterError ∨ con.status = .connectFailed ∨ con.status = .sslError ∨
    con.status = .netError) : reportError env w con (.at error) = reportError env w con (.at none) := by
  unfold reportError
  rcases hs with hs | hs | hs | hs <;> rw [hs] <;>
    simp only [errorClientCreate_own h, connectError_own h]

end Own

lemma errorClientCreate_at (env : Env) (error : Option Err) (code : ℕ) (sqlstate msg : String) :
    ∃ error', errorClientCreate env (.at error) code sqlstate msg = .at error' := by
  unfold errorClientCreate
  dsimp only
  split <;> exact ⟨_, rfl⟩

lemma errorServerCreate_at (env : Env) (con : Con) (error : Option Err) :
    ∃ error', errorServerCreate env con (.at error) = .at error' := by
  unfold errorServerCreate
  dsimp only
  split <;> exact ⟨_, rfl⟩

lemma connectError_at (env : Env) (con : Con) (error : Option Err) :
    ∃ error', connectError env con (.at error) = .at error' := by
  unfold connectError
  split_ifs
  · exact errorClientCreate_at _ _ _ _ _
  · exact errorServerCreate_at _ _ _
  all_goals exact errorClientCreate_at _ _ _ _ _

/-- An error variable stays one. -/
lemma reportError_at (env : Env) (w : World) (con : Con) (error : Option Err) :
    ∃ error', (reportError env w con (.at error)).1 = sendCallback w con .error (.at error') := by
  unfold reportError
  dsimp only
  split
  · obtain ⟨error', h⟩ := errorClientCreate_at env error errorCodeParameter "22023" "Bad parameter"
    exact ⟨error', by rw [h]⟩
  · obtain ⟨error', h⟩ := connectError_at env con error
    exact ⟨error', by rw [h]⟩
  · obtain ⟨error', h⟩ := errorClientCreate_at env error errorCodeSsl "08000" con.errmsg
    exact ⟨error', by rw [h]⟩
  · obtain ⟨error', h⟩ := errorClientCreate_at env error errorCodeServerLost "08006" con.errmsg
    exact ⟨error', by rw [h]⟩
  · exact ⟨error, rfl⟩

lemma reportError_of_deaf (h : ¬ con.Hears .error) : (reportError env w con (.at error)).1 = con := by
  obtain ⟨error', he⟩ := reportError_at env w con error
  rw [he, sendCallback_of_deaf h]

lemma pollEvent_idle (hs : con.status = .idle) (h : ¬ con.serverErrno ≠ 0) :
    con.pollEvent = match con.commandStatus with
      | .eof => some .eof
      | .rowInBuffer => if con.bufferRows then none else some .rowReady
      | .connected => some .connected
      | _ => none := by
  unfold Con.pollEvent
  rw [hs]
  exact if_neg h

/-- The IDLE case of a poll that is isolated. -/
lemma pollIdle_isolated (hs : con.status = .idle) (h : Isolated env con error) :
    (pollIdle env w con (.at error)).1 = (pollIdle env w con (.at none)).1 := by
  unfold pollIdle
  by_cases herrno : con.serverErrno ≠ 0
  · rw [if_pos herrno, if_pos herrno]
    rcases h with rfl | ⟨hmem, -⟩ | hdeaf
    · rfl
    · simp only [errorServerCreate_own hmem]
    · have hev : con.pollEvent = some .error := by
        unfold Con.pollEvent
        rw [hs]
        exact if_pos herrno
      obtain ⟨e₁, h₁⟩ := errorServerCreate_at env con error
      obtain ⟨e₂, h₂⟩ := errorServerCreate_at env con none
      simp only [h₁, h₂, sendCallback_of_deaf (hdeaf _ hev)]
  · rw [if_neg herrno, if_neg herrno]
    rcases h with rfl | ⟨-, hown⟩ | hdeaf
    · rfl
    · simp [hs, herrno] at hown
    · have hev := pollEvent_idle hs herrno
      cases hc : con.commandStatus with
      | eof =>
        rw [hc] at hev
        simp only [sendCallback_of_deaf (hdeaf _ hev)]
      | rowInBuffer =>
        rw [hc] at hev
        dsimp only at hev ⊢
        by_cases hb : con.bufferRows = true
        · rw [if_pos hb, if_pos hb]
          exact queryRowBuffer_error _ _
        · rw [if_neg hb] at hev
          rw [if_neg hb, if_neg hb]
          simp only [sendCallback_of_deaf (hdeaf _ hev)]
      | connected =>
        rw [hc] at hev
        simp only [sendCallback_of_deaf (hdeaf _ hev)]
        split
        · exact connectQuery_error _ _
        · rfl
      | _ => rfl

/-- **An isolated poll** leaves the connection as with a null error variable. -/
theorem pollSwitch_isolated (h : Isolated env con error) :
    (pollSwitch env w con (.at error)).1 = (pollSwitch env w con (.at none)).1 := by
  unfold pollSwitch
  cases hs : con.status with
  | notConnected => rfl
  | connecting => rfl
  | busy => rfl
  | idle => exact pollIdle_isolated hs h
  | _ =>
    rcases h with rfl | ⟨hmem, -⟩ | hdeaf
    · rfl
    · have hfailed : con.status = .parameterError ∨ con.status = .connectFailed ∨ con.status = .sslError ∨
          con.status = .netError := by simp [hs]
      exact congrArg (·.1) (reportError_own hmem hfailed)
    · have hev : con.pollEvent = some .error := by
        unfold Con.pollEvent
        rw [hs]
      exact (reportError_of_deaf (hdeaf _ hev)).trans (reportError_of_deaf (hdeaf _ hev)).symm

/-- The callback was told of an event, with this error. -/
lemma sendCallback_hears {event : Event} (hw : w.Follows) (h : con.Hears event) :
    .callback event error :: con.trace <:+ (sendCallback w con event (.at error)).trace := by
  unfold sendCallback
  dsimp only
  rw [if_neg h.1, if_pos h.2]
  have hcallback := hw.callback event ({ con with lastCallback := event }.log (.callback event error))
  exact hcallback.suffix

lemma reportError_foreign {err : Err} (hmem : ¬ env.newArray 1 sizeofError = true) :
    (reportError env w con (.at (some err))).1 = sendCallback w con .error (.at (some err)) := by
  have hclient : ∀ code sqlstate msg,
      errorClientCreate env (.at (some err)) code sqlstate msg = .at (some err) := fun _ _ _ => if_neg hmem
  have hserver : errorServerCreate env con (.at (some err)) = .at (some err) := if_neg hmem
  have hconnect : connectError env con (.at (some err)) = .at (some err) := by
    unfold connectError
    split_ifs <;> first | exact hclient _ _ _ | exact hserver
  unfold reportError
  cases con.status <;> simp only [hclient, hconnect]

/-- A poll that makes no error of its own passes on the one that was there. -/
lemma pollSwitch_foreign {err : Err} {event : Event} (hw : w.Follows) (hown : ¬ OwnError env con)
    (hev : con.pollEvent = some event) :
    (sendCallback w con event (.at (some err))).trace <:+ (pollSwitch env w con (.at (some err))).1.trace := by
  unfold pollSwitch
  cases hs : con.status with
  | idle =>
    dsimp only
    unfold pollIdle
    by_cases herrno : con.serverErrno ≠ 0
    · have hmem : ¬ env.newArray 1 sizeofError = true := fun hmem => hown ⟨hmem, by simp [hs, herrno]⟩
      have hserver : errorServerCreate env con (.at (some err)) = .at (some err) := if_neg hmem
      unfold Con.pollEvent at hev
      rw [hs] at hev
      dsimp only at hev
      rw [if_pos herrno] at hev
      cases hev
      rw [if_pos herrno, hserver]
    · rw [pollEvent_idle hs herrno] at hev
      rw [if_neg herrno]
      cases hc : con.commandStatus with
      | eof =>
        rw [hc] at hev
        cases hev
        exact List.suffix_cons _ _
      | rowInBuffer =>
        rw [hc] at hev
        dsimp only at hev ⊢
        split at hev
        · cases hev
        · next hb =>
          cases hev
          rw [if_neg hb]
      | connected =>
        rw [hc] at hev
        cases hev
        dsimp only
        split
        · exact (connectQuery_does env _ hw _).suffix
        · exact List.suffix_refl _
      | _ =>
        rw [hc] at hev
        cases hev
  | notConnected | connecting | busy =>
    unfold Con.pollEvent at hev
    rw [hs] at hev
    cases hev
  | _ =>
    have hmem : ¬ env.newArray 1 sizeofError = true := fun hmem => hown ⟨hmem, by simp [hs]⟩
    unfold Con.pollEvent at hev
    rw [hs] at hev
    cases hev
    dsimp only
    rw [reportError_foreign hmem]

/-- **In a poll that is not isolated, the callback is given the error that was there before.** -/
theorem not_isolated_hears (hw : w.Follows) (h : ¬ Isolated env con error) :
    ∃ event err, error = some err ∧
      .callback event (some err) :: con.trace <:+ (pollSwitch env w con (.at error)).1.trace := by
  unfold Isolated at h
  push Not at h
  obtain ⟨hne, hown, event, hev, hhears⟩ := h
  obtain ⟨err, rfl⟩ := Option.ne_none_iff_exists'.mp hne
  exact ⟨event, err, rfl, (sendCallback_hears hw hhears).trans (pollSwitch_foreign hw hown hev)⟩

end Poll

/-! ### One connection of a run -/

/-- The surroundings of a poll with an error variable of its own. -/
def Setting.alone (s : Setting) : Setting := { s with error := .at none }

lemma worldAt_alone (s : Setting) (n : ℕ) : s.alone.worldAt n = s.worldAt n := by
  induction n with
  | zero => rfl
  | succ n ih =>
    unfold Setting.worldAt
    rw [ih]
    rfl

/-- What the poll of connection `k` and the callbacks in it do to connection `i`. -/
def turnScript (r : PoolTurn) (i k : ℕ) : List SysEvent :=
  (if k = i then [.poll (r.polls k).alone] else []) ++
    ((r.calls k).filter (·.1 = i)).map fun c => .call c.2.1 c.2.2

/-- The reports of the event loop, calls and polls that an event of a pool of `n` connections has for connection `i`.
Every poll has an error variable of its own. -/
def PoolEvent.script (i n : ℕ) : PoolEvent → List SysEvent
  | .call k s c => if k = i then [.call s c] else []
  | .turn r =>
    ((r.nets.filter (·.1 = i)).map fun e => .net e.2.1 e.2.2) ++ (List.range n).flatMap (turnScript r i)

/-- If connection `i` is polled now, the poll is isolated. -/
def PollIsolated (r : PoolTurn) (i : ℕ) (st : Pool × Option Err) (k : ℕ) : Prop :=
  k = i → ∀ con, st.1.connections[i]? = some con → Isolated (r.polls i).env (con.seen (r.polls i)) st.2

/-- Every poll of connection `i` during an event is isolated. -/
def PoolIsolated (i : ℕ) (pool : Pool) : PoolEvent → Prop
  | .call _ _ _ => True
  | .turn r =>
    Along (poolPoll r) (PollIsolated r i) (poolTurned pool r, none) (List.range pool.connections.length)

section Run

variable {pool : Pool} {r : PoolTurn} {i k : ℕ} {st : Pool × Option Err}

/-- A list of events for all connections does to connection `i` what its own events do. -/
lemma getElem?_foldl_on {α : Type} (idx : α → ℕ) (ev : α → SysEvent) (ops : List α) (pool : Pool) :
    (ops.foldl (fun pool o => pool.on (idx o) fun con => sysStep con (ev o)) pool).connections[i]? =
      pool.connections[i]?.map fun con => run sysStep con ((ops.filter (idx · = i)).map ev) := by
  induction ops generalizing pool with
  | nil => simp
  | cons o ops ih =>
    rw [List.foldl_cons, ih, getElem?_on]
    by_cases ho : idx o = i
    · simp [ho, Function.comp_def]
    · simp [ho]

lemma length_foldl {α : Type} {f : Pool → α → Pool}
    (hf : ∀ pool o, (f pool o).connections.length = pool.connections.length) (ops : List α) (pool : Pool) :
    (ops.foldl f pool).connections.length = pool.connections.length := by
  induction ops generalizing pool with
  | nil => rfl
  | cons o ops ih => rw [List.foldl_cons, ih, hf]

lemma getElem?_foldl_call (ops : List (ℕ × Setting × Call)) (pool : Pool) :
    (ops.foldl Pool.call pool).connections[i]? =
      pool.connections[i]?.map fun con =>
        run sysStep con ((ops.filter (·.1 = i)).map fun c => .call c.2.1 c.2.2) :=
  getElem?_foldl_on (·.1) (fun c => .call c.2.1 c.2.2) ops pool

lemma getElem?_poolTurned :
    (poolTurned pool r).connections[i]? =
      pool.connections[i]?.map fun con =>
        run sysStep con ((r.nets.filter (·.1 = i)).map fun e => .net e.2.1 e.2.2) :=
  getElem?_foldl_on (·.1) (fun e => .net e.2.1 e.2.2) r.nets pool

lemma length_poolTurned : (poolTurned pool r).connections.length = pool.connections.length :=
  length_foldl (fun _ _ => length_on) r.nets pool

lemma length_poolPoll : (poolPoll r st k).1.connections.length = st.1.connections.length := by
  unfold poolPoll
  split
  · rfl
  · exact (length_foldl (fun _ _ => length_on) _ _).trans length_on

lemma connectPoll_alone (s : Setting) (con : Con) :
    sysStep con (.poll s.alone) = (connectPoll s.env s.world con (.at none)).1 := by
  have hw : s.alone.world = s.world := worldAt_alone s s.depth
  show (connectPoll s.env s.alone.world con (.at none)).1 = _
  rw [hw]

/-- A round of the poll loop does to connection `i` what its script says. -/
lemma getElem?_poolPoll (hk : k < st.1.connections.length) (h : PollIsolated r i st k) :
    (poolPoll r st k).1.connections[i]? =
      st.1.connections[i]?.map fun con => run sysStep con (turnScript r i k) := by
  have hcon : st.1.connections[k]? = some st.1.connections[k] := List.getElem?_eq_getElem hk
  unfold poolPoll turnScript
  rw [hcon]
  dsimp only
  rw [getElem?_foldl_call, getElem?_on]
  by_cases hi : k = i
  · subst hi
    rw [if_pos rfl, if_pos rfl, hcon]
    simp only [Option.map_some, run_append, run_cons, run_nil, connectPoll_alone]
    rw [show (connectPoll (r.polls k).env (r.polls k).world st.1.connections[k] (.at st.2)).1 = _ from
      pollSwitch_isolated (h rfl _ hcon)]
    rfl
  · rw [if_neg hi, if_neg hi, List.nil_append]

lemma run_poolPoll (ks : List ℕ) (hks : ∀ k ∈ ks, k < st.1.connections.length)
    (h : Along (poolPoll r) (PollIsolated r i) st ks) :
    (run (poolPoll r) st ks).1.connections[i]? =
      st.1.connections[i]?.map fun con => run sysStep con (ks.flatMap (turnScript r i)) := by
  induction ks generalizing st with
  | nil => simp
  | cons k ks ih =>
    obtain ⟨hk, hks⟩ := List.forall_mem_cons.mp hks
    rw [run_cons, ih (by rwa [length_poolPoll]) h.2, getElem?_poolPoll hk h.1, Option.map_map, List.flatMap_cons]
    simp only [run_append, Function.comp_def]

lemma length_run_poolPoll (ks : List ℕ) :
    (run (poolPoll r) st ks).1.connections.length = st.1.connections.length := by
  induction ks generalizing st with
  | nil => rfl
  | cons k ks ih => rw [run_cons, ih, length_poolPoll]

lemma length_poolStep (e : PoolEvent) : (poolStep pool e).connections.length = pool.connections.length := by
  cases e with
  | call k s c => exact length_on
  | turn r => exact (length_run_poolPoll _).trans length_poolTurned

/-- An event of the pool does to connection `i` what its script says. -/
lemma getElem?_poolStep {e : PoolEvent} (h : PoolIsolated i pool e) :
    (poolStep pool e).connections[i]? =
      pool.connections[i]?.map fun con => run sysStep con (e.script i pool.connections.length) := by
  cases e with
  | call k s c =>
    show (pool.on k _).connections[i]? = _
    rw [getElem?_on, PoolEvent.script]
    by_cases hi : k = i
    · simp only [if_pos hi]
      rfl
    · simp only [if_neg hi, run_nil, Option.map_id']
  | turn r =>
    show (run (poolPoll r) (poolTurned pool r, none) _).1.connections[i]? = _
    have hks : ∀ k ∈ List.range pool.connections.length, k < (poolTurned pool r).connections.length := by
      intro k hk
      rw [length_poolTurned]
      exact List.mem_range.mp hk
    rw [run_poolPoll _ hks h, getElem?_poolTurned, Option.map_map, PoolEvent.script]
    simp only [run_append, Function.comp_def]

/-- **A connection of a pool whose polls are isolated goes through what it would go through on its own.** -/
theorem pool_refines_connection {es : List PoolEvent} (h : Along poolStep (PoolIsolated i) pool es) :
    (run poolStep pool es).connections[i]? =
      pool.connections[i]?.map fun con =>
        run sysStep con (es.flatMap (PoolEvent.script i pool.connections.length)) := by
  induction es generalizing pool with
  | nil => simp
  | cons e es ih =>
    rw [run_cons, ih h.2, getElem?_poolStep h.1, length_poolStep, Option.map_map, List.flatMap_cons]
    simp only [run_append, Function.comp_def]

end Run

/-! ### Two runs -/

/-- The callbacks a connection was given so far: event and error, newest first. -/
def Con.callbacks (con : Con) : List (Event × Option Err) :=
  con.trace.filterMap fun
    | .callback event error => some (event, error)
    | _ => none

/-- **Pool isolation.**  Two pools hold the same connection, at any place and among any others, and what happens to it
and what the application calls on it is the same in a run of each.  If every poll of it is isolated in both runs, its
callbacks are the same. -/
theorem pool_isolation {i j : ℕ} {pool pool' : Pool} {es es' : List PoolEvent}
    (hcon : pool.connections[i]? = pool'.connections[j]?)
    (hscript : es.flatMap (PoolEvent.script i pool.connections.length) =
      es'.flatMap (PoolEvent.script j pool'.connections.length))
    (h : Along poolStep (PoolIsolated i) pool es) (h' : Along poolStep (PoolIsolated j) pool' es') :
    (run poolStep pool es).connections[i]?.map Con.callbacks =
      (run poolStep pool' es').connections[j]?.map Con.callbacks := by
  rw [pool_refines_connection h, pool_refines_connection h', hcon, hscript]

/-! ### A neighbour that failed to connect -/

/-- A connection of a pool with a callback. -/
def Con.member : Con := { Con.calm 0 with pool := true, callbackFn := true }

/-- A run of the pool in which the event loop reports these events for connection `i`. -/
def PoolTurn.calm (i : ℕ) (nets : List NetEvent) : PoolTurn where
  nets := nets.map fun e => (i, .calm, e)
  polls := fun _ => .calm []
  calls := fun _ => []

/-- Connection `i` is asked to connect, and does. -/
def connectMember (i : ℕ) : List PoolEvent := [
  .call i (.calm []) .connect,
  .turn (.calm i [.resolved none, .connected none, .read 65536 (greetingPacket 2), .wrote none,
    .read 65536 (okPacket 2 2)])]

/-- Connection `i` is asked to connect to a host whose name cannot be looked up. -/
def failMember (i : ℕ) : List PoolEvent :=
  [.call i { Setting.calm [] with env := { Env.calm with uvGetaddrinfo := some "ENOENT" } } .connect]

/-- Beside a connection that was never used, the callback is told what it is told alone. -/
theorem pool_isolation_idle_neighbour :
    (run poolStep { connections := [.member, .member] } (connectMember 1)).connections[1]?.map Con.callbacks =
      (run poolStep { connections := [.member] } (connectMember 0)).connections[0]?.map Con.callbacks :=
  pool_isolation rfl rfl ⟨trivial, ⟨nofun, fun _ _ _ => Or.inl rfl, trivial⟩, trivial⟩
    ⟨trivial, ⟨fun _ _ _ => Or.inl rfl, trivial⟩, trivial⟩

/-- Beside a connection that failed, the callback for a connection that was made is given the error of the other. -/
theorem neighbour_error_leaks : ¬ ∀ (i j : ℕ) (pool pool' : Pool) (es es' : List PoolEvent),
    pool.connections[i]? = pool'.connections[j]? →
    es.flatMap (PoolEvent.script i pool.connections.length) =
      es'.flatMap (PoolEvent.script j pool'.connections.length) →
    (run poolStep pool es).connections[i]?.map Con.callbacks =
      (run poolStep pool' es').connections[j]?.map Con.callbacks := by
  intro h
  have hleak := h 1 0 { connections := [.member, .member] } { connections := [.member] }
    (failMember 0 ++ connectMember 1) (connectMember 0) rfl rfl
  have hne : ¬ (run poolStep { connections := [.member, .member] }
        (failMember 0 ++ connectMember 1)).connections[1]?.map Con.callbacks =
      (run poolStep { connections := [.member] } (connectMember 0)).connections[0]?.map Con.callbacks := by
    decide +kernel
  exact hne hleak

end LibAttachSql
