import LibAttachSql.Outcomes
import LibAttachSql.PoolIsolation

/-!
# What the callback of a pool is told

A packet that completes something, or the write of a command that nothing is expected for, has an event for the
callback, and the next poll tells it, unless the callback was told the same event last.  What was told last is
forgotten only when a query asks for its next row.  So a response that ends like the one before it, or a row of a
statement behind another one, is not told.  This module says what is told, and when: each event once, as long as no
event comes right after itself.
-/

namespace LibAttachSql

open Lib

/-! ### What has to be told, and what was -/

/-- The event of an action that completes something.  An ERR packet without a number is taken for the end of a
command, but where it fails the login. -/
def Action.completion : Action → Option Event
  | .answered .ok status _ => some (if status = .connecting then .connected else .eof)
  | .answered (.err n) _ commandStatus => some (if n = 0 ∧ commandStatus ≠ .readResponse then .eof else .error)
  | .answered .eof _ _ => some .eof
  | .answered .row _ _ => some .rowReady
  | .drained _ => some .eof
  | _ => none

/-- How far the library is with what it was last asked for: the login, or a command, a row or a further result.  An
event is due until the callback is told of it, or a row is put into the row buffer instead. -/
inductive Stage where
  | login
  | asked
  | due (event : Event)
  | told (event : Event)
  deriving DecidableEq

namespace Stage

/-- The event that is due is told. -/
def tell : Stage → Stage
  | due event => told event
  | s => s

def isDue : Stage → Bool
  | due _ => true
  | _ => false

def isTold : Stage → Bool
  | told _ => true
  | _ => false

/-- How many packets may be expected. -/
def room : Stage → ℕ
  | login | asked => 1
  | due _ | told _ => 0

lemma not_due_of_room {s : Stage} (h : s.room = 1) : s.isDue = false := by
  cases s <;> first | rfl | cases h

lemma not_due_of_told {s : Stage} (h : s.isTold = true) : s.isDue = false := by
  cases s <;> first | rfl | cases h

lemma room_of_told {s : Stage} (h : s.isTold = true) : s.room = 0 := by
  cases s <;> first | rfl | cases h

lemma ne_login_of_told {s : Stage} (h : s.isTold = true) : s ≠ .login := by
  rintro rfl
  cases h

end Stage

/-- What an action does to the stage. -/
def Action.turn (s : Stage) : Action → Stage
  | .command _ _ | .nextResult _ | .rowRequested => .asked
  | .callback _ _ | .rowKept => s.tell
  | a => match a.completion with
    | some event => .due event
    | none => s

/-- The stage after the actions of a trace. -/
def stage : List Action → Stage
  | [] => .login
  | a :: x => a.turn (stage x)

/-- The event the callback was told of last, unless a row of a query was asked for since. -/
def lastTold : List Action → Event
  | [] => .none
  | .callback event _ :: _ => event
  | .rowNext :: _ => .none
  | _ :: x => lastTold x

/-- A callback is told of the event that is due, or of the loss of the connection.  Until then the event stays due:
nothing else is completed or asked for, but the row behind a row that is kept. -/
def Action.Told (a : Action) (x : List Action) : Prop :=
  match a with
  | .callback event _ =>
    stage x = .due event ∨ event = .error ∧ (stage x).isDue = false ∧ x.any Action.disconnects = true
  | .rowKept => stage x = .due .rowReady ∨ (stage x).isDue = false
  | a => (stage x).isDue = false ∨ a.completion = none ∧ a.turn (stage x) = stage x

/-- **Everything completed so far was told once**, but for what is due now. -/
def ToldOnce (x : List Action) : Prop := Chronicle Action.Told x

/-- If the event is a poll, and something is due that is not a row to be buffered, the callback is told of it. -/
def PollTells (con : Con) : SysEvent → Prop
  | .poll s => ∀ event, stage con.trace = .due event → (event = .rowReady → con.bufferRows = false) →
      ∃ error, .callback event error :: con.trace <:+ (sysStep con (.poll s)).trace
  | _ => True

/-! ### When it is told -/

/-- The handshake of the server. -/
def Action.greets : Action → Bool
  | .packet .handshake _ _ => true
  | _ => false

/-- What keeps the events apart.  Nothing is completed with the event that was told last.  A command or a further
result is asked for only when the event before it was told, a row only when the callback was told of one, and a call of
`attachsql_query_row_next` asks for a row.  No write is completed with nothing expected, unless something was asked for.
Nothing fails while an event is due, no null pointer is followed, no ERR packet takes the place of the handshake, and
the calls made from the callback for the end of a result lead to nothing that a poll has to tell at once. -/
def Action.Heeds (a : Action) (x : List Action) : Prop :=
  a.completion ≠ some (lastTold x) ∧ (x.head? = some .rowNext → a = .rowRequested) ∧
    match a with
    | .command _ _ | .nextResult _ => (stage x).isTold = true
    | .rowRequested => stage x = .told .rowReady
    | .drained _ => stage x = .asked
    | .failed site _ _ => site = .queueAlloc ∨ (stage x).isDue = false
    | .answered (.err _) _ _ => x.head?.any Action.greets = false
    | .eofReported lastCallback => lastCallback = .eof ∧ (stage x).isDue = false
    | .fault => False
    | _ => True

/-- The events were kept apart. -/
def Heeded (x : List Action) : Prop := Chronicle Action.Heeds x

instance (a : Action) (x : List Action) : Decidable (a.Told x) := by
  rcases a with ⟨⟩ <;> dsimp only [Action.Told] <;> infer_instance

instance (a : Action) (x : List Action) : Decidable (a.Heeds x) := by
  rcases a with ⟨⟩
  case answered answer _ _ => rcases answer with ⟨⟩ <;> dsimp only [Action.Heeds] <;> infer_instance
  all_goals dsimp only [Action.Heeds]; infer_instance

instance : DecidablePred ToldOnce := fun x => inferInstanceAs (Decidable (Chronicle _ x))

instance : DecidablePred Heeded := fun x => inferInstanceAs (Decidable (Chronicle _ x))

/-! ### Actions that turn nothing -/

/-- Actions that neither ask for anything, nor complete it, nor tell of it. -/
def Action.Mute : Action → Bool
  | .command _ _ | .nextResult _ | .rowRequested | .callback _ _ | .rowKept | .rowNext | .answered _ _ _
  | .drained _ => false
  | _ => true

lemma Action.mute_of_neutral {a : Action} (h : a.Neutral = true) : a.Mute = true := by
  cases a <;> first | rfl | cases h

variable {x y : List Action}

lemma Action.turn_mute {a : Action} (h : a.Mute = true) (s : Stage) : a.turn s = s := by
  cases a <;> first | rfl | cases h

lemma Action.told_mute {a : Action} (h : a.Mute = true) (x : List Action) : a.Told x := by
  cases a <;> first | exact .inr ⟨rfl, rfl⟩ | cases h

lemma stage_mute (hy : ∀ a ∈ y, a.Mute = true) : stage (y ++ x) = stage x := by
  induction y with
  | nil => rfl
  | cons a y ih =>
    obtain ⟨ha, hy⟩ := List.forall_mem_cons.mp hy
    exact (Action.turn_mute ha _).trans (ih hy)

lemma lastTold_mute (hy : ∀ a ∈ y, a.Mute = true) : lastTold (y ++ x) = lastTold x := by
  induction y with
  | nil => rfl
  | cons a y ih =>
    obtain ⟨ha, hy⟩ := List.forall_mem_cons.mp hy
    rw [← ih hy]
    cases a <;> first | rfl | cases ha

lemma ToldOnce.mute (h : ToldOnce x) (hy : ∀ a ∈ y, a.Mute = true) : ToldOnce (y ++ x) :=
  Chronicle.append (fun a ha => Action.told_mute (hy a ha)) h

/-- On a call of `attachsql_query_row_next` only its request follows. -/
lemma Heeded.not_rowNext {a : Action} (h : Heeded (y ++ a :: x)) (ha : a ≠ .rowRequested) :
    x.head? ≠ some .rowNext :=
  fun hx => ha (h.first.2.1 hx)

lemma Heeded.not_rowNext_mute (h : Heeded (y ++ x)) (hy : ∀ a ∈ y, a.Mute = true) (hne : y ≠ []) :
    x.head? ≠ some .rowNext := by
  obtain ⟨z, a, rfl⟩ := (List.eq_nil_or_concat y).resolve_left hne
  simp only [List.concat_eq_append, List.append_assoc, List.singleton_append] at h hy
  refine h.not_rowNext ?_
  rintro rfl
  exact absurd (hy .rowRequested (by simp)) (by decide)

/-! ### The invariant -/

namespace Control

variable {c c' : Control} {e e' : Event} {t : PacketType} {k : ℕ}

/-- There is one event to be told, and this is it. -/
def Due (c : Control) (e : Event) : Prop := c.Tells e ∧ ∀ e', c.Tells e' → e' = e

/-- The event to be told is determined by the state, but after an error in the login. -/
lemma Tells.due (h : c.Tells e) (hn : c.serverErrno = 0 ∨ c.commandStatus ≠ .connected) : c.Due e := by
  refine ⟨h, fun e' h' => ?_⟩
  have hidle : c.status = .idle → ¬ c.status.IsError := fun hs => by rw [hs]; decide
  cases h <;> cases h' <;> simp_all

/-- The host is looked up or connected to, or not even that. -/
def Opening (c : Control) : Prop :=
  c.aux.uv = .resolving ∨ c.aux.uv = .connecting ∨ c.status = .notConnected

/-- While an event is due, the state has just this one and nothing is expected; else the state has only what was told
last.  A packet is expected only when something was asked for. -/
structure Notified (c : Control) (x : List Action) : Prop where
  once : ToldOnce x
  pool : c.aux.pool = true ∧ c.aux.callbackFn = true
  last : c.aux.lastCallback = lastTold x
  due : ∀ {e}, stage x = .due e → c.Due e ∧ e ≠ lastTold x
  silent : (stage x).isDue = false → x.head? ≠ some .rowNext → c.status = .idle → ∀ {e}, c.Tells e → e = lastTold x
  errno : c.serverErrno ≠ 0 → stage x = .due .error ∨ stage x = .told .error
  lost : c.status.IsError → x.any Action.disconnects = true
  queue : c.queue.length ≤ (stage x).room
  opening : c.Opening → stage x = .login ∧ c.queue = []
  started : c.aux.uv = .resolving ∨ c.aux.uv = .connecting → c.status ≠ .notConnected

variable {x y : List Action}

lemma Tells.congr (h : c.Tells e) (hs : c'.status = c.status) (hc : c'.commandStatus = c.commandStatus)
    (hn : c'.serverErrno = c.serverErrno) : c'.Tells e := by
  cases h with
  | failed h => exact .failed (hs ▸ h)
  | error h he => exact .error (hs.trans h) (hn ▸ he)
  | eof h he hc' => exact .eof (hs.trans h) (hn.trans he) (hc.trans hc')
  | rowReady h he hc' => exact .rowReady (hs.trans h) (hn.trans he) (hc.trans hc')
  | connected h hc' => exact .connected (hs.trans h) (hc.trans hc')

/-- A connection that waits has nothing to tell. -/
lemma Tells.event (h : c.Tells e) (hs : c.status = .idle) (hn : c.serverErrno = 0) : c.commandStatus.IsEvent := by
  cases h with
  | failed h => exact absurd h (by rw [hs]; decide)
  | error _ he => exact absurd hn he
  | eof _ _ hc => exact .inl hc
  | rowReady _ _ hc => exact .inr (.inl hc)
  | connected _ hc => exact .inr (.inr hc)

/-- What a wait tells was told before it. -/
lemma Kept.tells (h : Kept k c y c') (hs : c'.status = .idle) (ht : c'.Tells e) : c.status = .idle ∧ c.Tells e := by
  have hidle : c.status = .idle := by
    rcases h.status with he | ⟨he, -⟩
    · exact he ▸ hs
    · exact absurd he (by rw [hs]; decide)
  refine ⟨hidle, ?_⟩
  by_cases hn : c.serverErrno = 0
  · rcases h.commandStatus with he | he
    · exact ht.congr (hidle.trans hs.symm) he.symm h.serverErrno.symm
    · exact absurd (ht.event hs (h.serverErrno.trans hn)) he
  · rcases h.commandStatus with he | he
    · exact ht.congr (hidle.trans hs.symm) he.symm h.serverErrno.symm
    · cases ht with
      | failed hf => exact absurd hf (by rw [hs]; decide)
      | error _ _ => exact .error hidle hn
      | eof _ hn' _ => exact absurd (h.serverErrno.symm.trans hn') hn
      | rowReady _ hn' _ => exact absurd (h.serverErrno.symm.trans hn') hn
      | connected _ hc => exact absurd (.inr (.inr hc)) he

namespace Notified

/-- Actions that turn nothing, in a state that tells nothing new. -/
lemma mute (hn : c.Notified x) (hy : ∀ a ∈ y, a.Mute = true) (ho : Heeded (y ++ x))
    (hpool : c'.aux.pool = c.aux.pool ∧ c'.aux.callbackFn = c.aux.callbackFn)
    (hlast : c'.aux.lastCallback = c.aux.lastCallback)
    (hdue : ∀ {e}, stage x = .due e → c.Due e → c'.Due e)
    (hsilent : ∀ {e}, (stage x).isDue = false → c'.status = .idle → c'.Tells e → c.status = .idle ∧ c.Tells e)
    (herrno : c'.serverErrno = c.serverErrno)
    (hlost : c'.status.IsError → c.status.IsError ∨ y.any Action.disconnects = true)
    (hqueue : c'.queue.length ≤ (stage x).room) (hopening : c'.Opening → stage x = .login ∧ c'.queue = [])
    (hstarted : c'.aux.uv = .resolving ∨ c'.aux.uv = .connecting → c'.status ≠ .notConnected) :
    c'.Notified (y ++ x) where
  once := hn.once.mute hy
  pool := ⟨hpool.1.trans hn.pool.1, hpool.2.trans hn.pool.2⟩
  last := by rw [lastTold_mute hy, hlast, hn.last]
  due h := by
    rw [stage_mute hy] at h
    rw [lastTold_mute hy]
    exact ⟨hdue h (hn.due h).1, (hn.due h).2⟩
  silent h hx hs _ ht := by
    rw [stage_mute hy] at h
    rw [lastTold_mute hy]
    obtain ⟨hs, ht⟩ := hsilent h hs ht
    refine hn.silent h ?_ hs ht
    cases y with
    | nil => exact hx
    | cons a y => exact ho.not_rowNext_mute hy (List.cons_ne_nil a y)
  errno h := by
    rw [stage_mute hy]
    exact hn.errno (herrno ▸ h)
  lost h := by
    rw [List.any_append, Bool.or_eq_true]
    exact (hlost h).elim (fun h => .inr (hn.lost h)) .inl
  queue := by rwa [stage_mute hy]
  opening h := by
    rw [stage_mute hy]
    exact hopening h
  started := hstarted

/-- A wait goes on, while no event is due. -/
lemma kept (hn : c.Notified x) (h : Kept k c y c') (ho : Heeded (y ++ x)) (hdue : (stage x).isDue = false)
    (hk : k = 0 ∨ ¬ c.Opening ∧ c.queue.length + k ≤ (stage x).room) : c'.Notified (y ++ x) := by
  have hopen : c'.Opening → c.Opening := by
    unfold Opening
    rw [h.aux]
    rintro (hu | hu | hs)
    · exact .inl hu
    · exact .inr (.inl hu)
    · rcases h.status with he | ⟨he, -⟩
      · exact .inr (.inr (he ▸ hs))
      · exact absurd he (by rw [hs]; decide)
  have hqueue := h.queue
  refine hn.mute (fun a ha => Action.mute_of_neutral (h.neutral a ha)) ho (by rw [h.aux]; exact ⟨rfl, rfl⟩)
    (by rw [h.aux]) (fun he _ => ?_) (fun _ => h.tells) h.serverErrno (fun hl => ?_) ?_ (fun hp => ?_) (fun hu hs => ?_)
  · rw [he] at hdue
    cases hdue
  · rcases h.status with he | ⟨-, hd⟩
    · exact .inl (he ▸ hl)
    · exact .inr hd
  · have := hn.queue
    omega
  · obtain ⟨hstage, hnil⟩ := hn.opening (hopen hp)
    refine ⟨hstage, List.length_eq_zero_iff.mp ?_⟩
    rw [hnil] at hqueue
    have hk0 : k = 0 := hk.resolve_right fun h => h.1 (hopen hp)
    simpa [hk0] using hqueue
  · rw [h.aux] at hu
    rcases h.status with he | ⟨he, -⟩
    · exact hn.started hu (he ▸ hs)
    · exact absurd he (by rw [hs]; decide)

/-- Nothing that matters changes. -/
lemma same (hn : c.Notified x) (hy : ∀ a ∈ y, a.Mute = true) (ho : Heeded (y ++ x)) (hs : c'.status = c.status)
    (hc : c'.commandStatus = c.commandStatus) (he : c'.serverErrno = c.serverErrno) (hq : c'.queue = c.queue)
    (hpool : c'.aux.pool = c.aux.pool ∧ c'.aux.callbackFn = c.aux.callbackFn)
    (hlast : c'.aux.lastCallback = c.aux.lastCallback)
    (hu : c'.aux.uv = .resolving ∨ c'.aux.uv = .connecting → c.aux.uv = .resolving ∨ c.aux.uv = .connecting) :
    c'.Notified (y ++ x) := by
  have hopen : c'.Opening → c.Opening := by
    unfold Opening
    rw [hs]
    tauto
  refine hn.mute hy ho hpool hlast (fun _ hd => ?_) (fun _ h ht => ⟨hs ▸ h, ht.congr hs.symm hc.symm he.symm⟩) he
    (fun h => .inl (hs ▸ h)) (hq ▸ hn.queue) (fun h => hq ▸ hn.opening (hopen h)) fun h => hs ▸ hn.started (hu h)
  exact ⟨hd.1.congr hs hc he, fun e' ht => hd.2 e' (ht.congr hs.symm hc.symm he.symm)⟩

/-- Something is asked for. -/
lemma asked (honce : ToldOnce x) (hstage : stage x = .asked) (hpool : c.aux.pool = true ∧ c.aux.callbackFn = true)
    (hlast : c.aux.lastCallback = lastTold x) (hsilent : c.status = .idle → ¬ c.commandStatus.IsEvent)
    (herrno : c.serverErrno = 0) (hlost : c.status.IsError → x.any Action.disconnects = true)
    (hqueue : c.queue.length ≤ 1) (hopening : ¬ c.Opening) : c.Notified x where
  once := honce
  pool := hpool
  last := hlast
  due h := by
    rw [hstage] at h
    cases h
  silent _ _ hs _ ht := absurd (ht.event hs herrno) (hsilent hs)
  errno h := absurd herrno h
  lost := hlost
  queue := by rwa [hstage]
  opening h := absurd h hopening
  started h := absurd (h.elim .inl fun h => .inr (.inl h)) hopening

/-- What was asked for is there. -/
lemma completed {a : Action} (hn : c.Notified x) (ho : Heeded (a :: x)) (ha : a.completion = some e)
    (hturn : a.turn (stage x) = .due e) (htold : a.Told x) (hlast : lastTold (a :: x) = lastTold x)
    (haux : c'.aux = c.aux) (hdue : c'.Due e) (herrno : c'.serverErrno ≠ 0 → e = .error)
    (hlost : c'.status.IsError → a.disconnects = true) (hqueue : c'.queue = []) (hopening : ¬ c'.Opening) :
    c'.Notified (a :: x) where
  once := ⟨htold, hn.once⟩
  pool := haux ▸ hn.pool
  last := by rw [haux, hlast, hn.last]
  due h := by
    cases hturn.symm.trans h
    refine ⟨hdue, fun he => ho.1.1 ?_⟩
    rw [ha, he, hlast]
  silent h := by
    rw [show stage (a :: x) = .due e from hturn] at h
    cases h
  errno h := by
    rw [← herrno h]
    exact .inl hturn
  lost h := by
    rw [List.any_cons, hlost h, Bool.true_or]
  queue := by
    rw [hqueue]
    exact Nat.zero_le _
  opening h := absurd h hopening
  started h := absurd (h.elim .inl fun h => .inr (.inl h)) hopening

/-- Before an event is due there is no error. -/
lemma errno_eq_zero (hn : c.Notified x) (hd : stage x ≠ .due .error) (ht : stage x ≠ .told .error) :
    c.serverErrno = 0 := by
  by_contra h
  exact (hn.errno h).elim hd ht

lemma queue_nil (hn : c.Notified x) (h : (stage x).room = 0) : c.queue = [] :=
  List.length_eq_zero_iff.mp (Nat.le_zero.mp (h ▸ hn.queue))

lemma not_opening (hn : c.Notified x) (h : stage x ≠ .login ∨ c.queue ≠ []) : ¬ c.Opening := by
  intro hp
  obtain ⟨hlogin, hnil⟩ := hn.opening hp
  exact h.elim (· hlogin) (· hnil)

end Notified

/-! ### Packets -/

lemma Answers.notified {a : Answer} (h : Answers c a c') (hn : c.Notified x) (hroom : (stage x).room = 1)
    (hq : c.queue = []) (hopen : ¬ c.Opening) (ho : Heeded (.answered a c.status c.commandStatus :: x)) :
    c'.Notified (.answered a c.status c.commandStatus :: x) := by
  have herrno : c.serverErrno = 0 := by
    refine hn.errno_eq_zero ?_ ?_ <;> intro hs <;> rw [hs] at hroom <;> cases hroom
  have hdue := Stage.not_due_of_room hroom
  have hopening : c'.aux = c.aux → c'.status ≠ .notConnected → ¬ c'.Opening := by
    unfold Opening at hopen ⊢
    intro haux hs
    rw [haux]
    tauto
  cases h with
  | ok s =>
    by_cases hs : c.status = .connecting
    · refine hn.completed (e := .connected) ho (congrArg some (if_pos hs)) ?_ (.inl hdue) rfl rfl ?_ (absurd herrno) nofun hq
        (hopening rfl nofun)
      · show Stage.due _ = _
        rw [if_pos hs]
      · exact Tells.due (.connected rfl (if_pos hs)) (.inl herrno)
    · refine hn.completed (e := .eof) ho (congrArg some (if_neg hs)) ?_ (.inl hdue) rfl rfl ?_ (absurd herrno) nofun hq
        (hopening rfl nofun)
      · show Stage.due _ = _
        rw [if_neg hs]
      · exact Tells.due (.eof rfl herrno (if_neg hs)) (.inl herrno)
  | err n =>
    by_cases hr : c.commandStatus = .readResponse
    · have hs : (c.afterErr n).status = .connectFailed := if_pos hr
      have hcompletion : (if n = 0 ∧ c.commandStatus ≠ .readResponse then Event.eof else .error) = .error :=
        if_neg fun h => h.2 hr
      have hfailed : (c.afterErr n).status.IsError := hs ▸ .inr (.inl rfl)
      exact hn.completed ho (congrArg some hcompletion) (congrArg Stage.due hcompletion) (.inl hdue) rfl rfl
        (Tells.due (.failed hfailed) (.inr nofun)) (fun _ => rfl) (fun _ => decide_eq_true hr) rfl
        (hopening rfl (hs ▸ nofun))
    · have hs : (c.afterErr n).status = .idle := if_neg hr
      have hlost : ¬ (c.afterErr n).status.IsError := by
        rw [hs]
        decide
      by_cases hzero : n = 0
      · have hcompletion : (if n = 0 ∧ c.commandStatus ≠ .readResponse then Event.eof else .error) = .eof :=
          if_pos ⟨hzero, hr⟩
        exact hn.completed ho (congrArg some hcompletion) (congrArg Stage.due hcompletion) (.inl hdue) rfl rfl
          (Tells.due (.eof hs hzero rfl) (.inl hzero)) (absurd hzero) (absurd · hlost) rfl (hopening rfl (hs ▸ nofun))
      · have hcompletion : (if n = 0 ∧ c.commandStatus ≠ .readResponse then Event.eof else .error) = .error :=
          if_neg fun h => hzero h.1
        exact hn.completed ho (congrArg some hcompletion) (congrArg Stage.due hcompletion) (.inl hdue) rfl rfl
          (Tells.due (.error hs hzero) (.inr nofun)) (fun _ => rfl) (absurd · hlost) rfl (hopening rfl (hs ▸ nofun))
  | eof s =>
    exact hn.completed ho rfl rfl (.inl hdue) rfl rfl (Tells.due (.eof rfl herrno rfl) (.inl herrno)) (absurd herrno) nofun
      hq (hopening rfl nofun)
  | row =>
    exact hn.completed ho rfl rfl (.inl hdue) rfl rfl (Tells.due (.rowReady rfl herrno rfl) (.inl herrno)) (absurd herrno)
      nofun hq (hopening rfl nofun)

/-- A packet completes what was asked for, or the wait goes on. -/
lemma Reads.notified (h : Reads t c y c') (payload : List UInt8) (s : ConStatus)
    (hn : c.Notified (.packet t payload s :: x)) (hroom : (stage x).room = 1) (hq : c.queue = []) (hopen : ¬ c.Opening)
    (ho : Heeded (y ++ .packet t payload s :: x)) : c'.Notified (y ++ .packet t payload s :: x) := by
  have hdue := Stage.not_due_of_room hroom
  cases h with
  | @answered a y c' hneutral h =>
    have hy := fun b hb => Action.mute_of_neutral (hneutral b hb)
    have hbefore : c.Notified (y ++ .packet t payload s :: x) :=
      hn.same hy ho.2 rfl rfl rfl rfl ⟨rfl, rfl⟩ rfl id
    exact h.notified hbefore ((congrArg Stage.room (stage_mute hy)).trans hroom) hq hopen ho
  | waits h =>
    refine hn.kept h ho hdue (.inr ⟨hopen, ?_⟩)
    rw [hq]
    exact hroom.ge
  | @rejected n y c' ht h =>
    rw [List.append_assoc] at ho
    subst ht
    have hgreets : true = false := ho.first.2.2
    cases hgreets

/-! ### Requests -/

/-- A command is sent. -/
lemma Sends.notified (h : Sends c y c') (cmd : Command) (tls : Bool) (hn : c.Notified x)
    (ho : Heeded (y ++ [.onStream c.aux.stream tls, .command cmd c.status] ++ x)) :
    c'.Notified (y ++ [.onStream c.aux.stream tls, .command cmd c.status] ++ x) := by
  have hy : ∀ a ∈ y ++ [.onStream c.aux.stream tls], a.Mute = true := by
    intro a ha
    rcases List.mem_append.mp ha with ha | ha
    · rcases h.neutral a ha with hneutral | ⟨s, rfl⟩
      · exact Action.mute_of_neutral hneutral
      · rfl
    · rw [List.mem_singleton.mp ha]
      rfl
  rw [show y ++ [.onStream c.aux.stream tls, .command cmd c.status] ++ x =
    (y ++ [.onStream c.aux.stream tls]) ++ .command cmd c.status :: x by simp] at ho ⊢
  have htold : (stage x).isTold = true := ho.first.2.2
  have hopen := hn.not_opening (.inl (Stage.ne_login_of_told htold))
  have honce : ToldOnce (.command cmd c.status :: x) := ⟨.inl (Stage.not_due_of_told htold), hn.once⟩
  refine Notified.asked (honce.mute hy) ((stage_mute hy).trans rfl) (by rw [h.aux]; exact hn.pool) ?_ h.silent
    h.serverErrno (fun hl => ?_) ?_ ?_
  · rw [h.aux, lastTold_mute hy]
    exact hn.last
  · rw [List.any_append, List.any_cons, Bool.or_eq_true, Bool.or_eq_true]
    rcases h.status with he | ⟨-, hd⟩ | he
    · exact .inr (.inr (hn.lost (he ▸ hl)))
    · rw [List.any_append, hd]
      exact .inl rfl
    · exact absurd hl (by rw [he]; decide)
  · have := h.queue
    rwa [hn.queue_nil (Stage.room_of_told htold)] at this
  · unfold Opening at hopen ⊢
    rw [h.aux]
    rintro (hu | hu | hs)
    · exact hopen (.inl hu)
    · exact hopen (.inr (.inl hu))
    · rcases h.status with he | ⟨he, -⟩ | he
      · exact hopen (.inr (.inr (he ▸ hs)))
      · exact absurd he (by rw [hs]; decide)
      · exact absurd (he.symm.trans hs) (by decide)

/-- A row or a further result is asked for, where `z` is what the library did for it before. -/
lemma Kept.requested {c₀ c₁ : Control} {z : List Action} (h : Kept 1 c₀ y c₁) (hn : c.Notified x) (hopen : ¬ c.Opening)
    (hz : stage (z ++ x) = .asked) (honce : ToldOnce (z ++ x)) (hlast : lastTold (z ++ x) = lastTold x)
    (hpool : c₀.aux.pool = c.aux.pool ∧ c₀.aux.callbackFn = c.aux.callbackFn)
    (hcallback : c₀.aux.lastCallback = c.aux.lastCallback) (huv : c₀.aux.uv = c.aux.uv) (hq : c₀.queue = [])
    (he : c₀.serverErrno = 0) (hs : c₀.status = c.status) (hevent : ¬ c'.commandStatus.IsEvent)
    (hs' : c'.status = c₁.status ∨ c'.status = .busy) (he' : c'.serverErrno = c₁.serverErrno)
    (hq' : c'.queue = c₁.queue) (haux : c'.aux = c₁.aux) : c'.Notified (y ++ z ++ x) := by
  have hy := fun a ha => Action.mute_of_neutral (h.neutral a ha)
  have haux₀ : c'.aux = { c₀.aux with own := c₁.aux.own } := haux.trans h.aux
  rw [List.append_assoc]
  refine Notified.asked (honce.mute hy) ((stage_mute hy).trans hz) ?_ ?_ (fun _ => hevent)
    (he'.trans (h.serverErrno.trans he)) (fun hl => ?_) ?_ ?_
  · rw [haux₀]
    exact ⟨hpool.1.trans hn.pool.1, hpool.2.trans hn.pool.2⟩
  · rw [haux₀, lastTold_mute hy, hlast]
    exact hcallback.trans hn.last
  · rw [List.any_append, List.any_append, Bool.or_eq_true, Bool.or_eq_true]
    rcases hs' with hs' | hs'
    · rcases h.status with hst | ⟨-, hd⟩
      · exact .inr (.inr (hn.lost (by rwa [hs', hst, hs] at hl)))
      · exact .inl hd
    · exact absurd hl (by rw [hs']; decide)
  · have := h.queue
    rwa [hq, ← hq'] at this
  · unfold Opening at hopen ⊢
    rw [haux₀]
    show ¬ (c₀.aux.uv = .resolving ∨ c₀.aux.uv = .connecting ∨ _)
    rw [huv]
    rintro (hu | hu | hopening)
    · exact hopen (.inl hu)
    · exact hopen (.inr (.inl hu))
    · rcases hs' with hs' | hs'
      · rw [hs'] at hopening
        rcases h.status with hst | ⟨hst, -⟩
        · exact hopen (.inr (.inr (by rwa [hst, hs] at hopening)))
        · exact absurd hst (by rw [hopening]; decide)
      · exact absurd (hs'.symm.trans hopening) (by decide)

/-! ### Moves -/

/-- The callback is told. -/
lemma Notified.callback {event : Event} {error : Option Err} (hn : c.Notified x) (hne : event ≠ c.aux.lastCallback)
    (ht : c.Tells event) (ho : Heeded (.callback event error :: x)) :
    Notified { c with aux.lastCallback := event } (.callback event error :: x) := by
  have htells : ∀ {e}, Tells { c with aux.lastCallback := event } e → c.Tells e := fun h => h.congr rfl rfl rfl
  cases hs : stage x with
  | due e =>
    obtain ⟨hdue, -⟩ := hn.due hs
    obtain rfl := hdue.2 event ht
    have hturn : stage (.callback event error :: x) = .told event := congrArg Stage.tell hs
    exact
      { once := ⟨.inl hs, hn.once⟩
        pool := hn.pool
        last := rfl
        due := fun h => by cases hturn.symm.trans h
        silent := fun _ _ _ _ h => hdue.2 _ (htells h)
        errno := fun h => by
          refine .inr (hturn.trans ?_)
          rcases hn.errno h with h | h <;> rw [hs] at h <;> cases h
          rfl
        lost := fun h => by rw [List.any_cons, hn.lost h, Bool.or_true]
        queue := by
          have hqueue := hn.queue
          rw [hs] at hqueue
          rwa [hturn]
        opening := fun h => by
          obtain ⟨h, -⟩ := hn.opening h
          rw [hs] at h
          cases h
        started := hn.started }
  | _ =>
    -- nothing is due, so it is the loss of the connection that is told
    have hd : (stage x).isDue = false := by rw [hs]; rfl
    have hhead : x.head? ≠ some .rowNext := fun hx => Action.noConfusion (ho.1.2.1 hx)
    have hidle : c.status ≠ .idle := fun hi => hne ((hn.silent hd hhead hi ht).trans hn.last.symm)
    have hturn : stage (.callback event error :: x) = stage x := by
      show (stage x).tell = stage x
      rw [hs]
      rfl
    obtain ⟨rfl, hf⟩ : event = .error ∧ c.status.IsError := by
      cases ht with
      | failed hf => exact ⟨rfl, hf⟩
      | _ => contradiction
    exact
      { once := ⟨.inr ⟨rfl, hd, hn.lost hf⟩, hn.once⟩
        pool := hn.pool
        last := rfl
        due := fun h => by
          rw [hturn.symm.trans h] at hd
          cases hd
        silent := fun _ _ hi => absurd hi hidle
        errno := fun h => hturn ▸ hn.errno h
        lost := fun h => by rw [List.any_cons, hn.lost h, Bool.or_true]
        queue := hturn ▸ hn.queue
        opening := fun h => hturn ▸ hn.opening h
        started := hn.started }

/-- What was told last is forgotten. -/
lemma Notified.rowNext (hn : c.Notified x) : Notified { c with aux.lastCallback := .none } (.rowNext :: x) where
  once := ⟨.inr ⟨rfl, rfl⟩, hn.once⟩
  pool := hn.pool
  last := rfl
  due h := by
    obtain ⟨hdue, -⟩ := hn.due h
    refine ⟨⟨hdue.1.congr rfl rfl rfl, fun e' ht => hdue.2 e' (ht.congr rfl rfl rfl)⟩, ?_⟩
    have ht := hdue.1
    rintro rfl
    cases ht
  silent _ h := absurd rfl h
  errno := hn.errno
  lost h := hn.lost h
  queue := hn.queue
  opening := hn.opening
  started := hn.started

lemma AuxMove.notified {a : Aux} (h : AuxMove c y a) (hn : c.Notified x) (ho : Heeded (y ++ x)) :
    Notified { c with aux := a } (y ++ x) := by
  have hfree : ∀ {a : Aux} {y : List Action}, Heeded (y ++ x) → (∀ b ∈ y, b.Mute = true) → a.pool = c.aux.pool →
      a.callbackFn = c.aux.callbackFn → a.lastCallback = c.aux.lastCallback →
      (a.uv = .resolving ∨ a.uv = .connecting → c.aux.uv = .resolving ∨ c.aux.uv = .connecting) →
      Notified { c with aux := a } (y ++ x) :=
    fun ho hy hp hf hl hu => hn.same hy ho rfl rfl rfl rfl ⟨hp, hf⟩ hl hu
  cases h with
  | resolved hu => exact hfree ho (List.forall_mem_nil _) rfl rfl rfl fun _ => .inl hu
  | settled hu =>
    refine hfree ho (List.forall_mem_nil _) rfl rfl rfl fun h => ?_
    rcases hu with rfl | rfl <;> rcases h with h | h <;> cases h
  | callback error hne _ _ ht => exact hn.callback hne ht ho
  | begin _ => exact hfree ho (List.forall_mem_singleton.mpr rfl) rfl rfl rfl id
  | rowNext => exact hn.rowNext
  | close _ _ => exact hfree ho (List.forall_mem_singleton.mpr rfl) rfl rfl rfl id
  | own _ => exact hfree ho (List.forall_mem_nil _) rfl rfl rfl id
  | grow _ => exact hfree ho (List.forall_mem_singleton.mpr rfl) rfl rfl rfl id
  | keepFault _ _ => exact absurd ho.1.2.2 id
  | useRows _ => exact hfree ho (List.forall_mem_nil _) rfl rfl rfl id
  | shareRow _ => exact hfree ho (List.forall_mem_nil _) rfl rfl rfl id

/-- The handshake is expected. -/
lemma Pushed.connected_notified (h : Pushed .handshake c y c') (hu : c.aux.uv = .connecting) (hn : c.Notified x)
    (ho : Heeded (y ++ x)) : Notified { c' with aux.stream := true, aux.uv := .reading } (y ++ x) := by
  have hk := h.kept
  have hstatus : c'.status ≠ .notConnected := by
    intro hs
    rcases hk.status with he | ⟨he, -⟩
    · exact hn.started (.inr hu) (he ▸ hs)
    · exact absurd he (by rw [hs]; decide)
  obtain ⟨hlogin, hnil⟩ := hn.opening (.inr (.inl hu))
  refine hn.mute (fun a ha => Action.mute_of_neutral (hk.neutral a ha)) ho ?_ ?_ (fun h => ?_) (fun _ hs ht => ?_)
    hk.serverErrno (fun hl => ?_) ?_ (fun h => ?_) fun _ => hstatus
  · rw [hk.aux]
    exact ⟨rfl, rfl⟩
  · rw [hk.aux]
  · rw [hlogin] at h
    cases h
  · exact hk.tells hs (ht.congr rfl rfl rfl)
  · rcases hk.status with he | ⟨-, hd⟩
    · exact .inl (he ▸ hl)
    · exact .inr hd
  · have := hk.queue
    rw [hnil] at this
    rwa [hlogin]
  · rcases h with h | h | h
    · cases h
    · cases h
    · exact absurd h hstatus

/-- The end of a result is set once more, after the callback was told of it and of nothing else. -/
lemma Notified.eofReported {last : Event} (hn : c.Notified x) (ho : Heeded (.eofReported last :: x))
    (hl : last = c.aux.lastCallback) :
    Notified { c with commandStatus := .eof, aux.allRowsBuffered := true } (.eofReported last :: x) := by
  obtain ⟨heof, hdue⟩ := ho.1.2.2
  have htold : lastTold x = .eof := hn.last.symm.trans (hl.symm.trans heof)
  have hhead : x.head? ≠ some .rowNext := fun hx => Action.noConfusion (ho.1.2.1 hx)
  exact
    { once := ⟨.inr ⟨rfl, rfl⟩, hn.once⟩
      pool := hn.pool
      last := hn.last
      due := fun h => by
        rw [show stage x = _ from h] at hdue
        cases hdue
      silent := fun _ _ hs e ht => by
        show e = lastTold x
        cases ht with
        | failed hf => exact absurd hf (by rw [hs]; decide)
        | error _ he => exact hn.silent hdue hhead hs (.error hs he)
        | eof _ _ _ => exact htold.symm
        | rowReady _ _ hc => cases hc
        | connected _ hc => cases hc
      errno := hn.errno
      lost := hn.lost
      queue := hn.queue
      opening := hn.opening
      started := hn.started }

/-- **Every move keeps the invariant**, as long as the events are kept apart. -/
theorem Move.notified (h : Move c y c') (hn : c.Notified x) (ho : Heeded (y ++ x)) : c'.Notified (y ++ x) := by
  cases h with
  | @quiet a h =>
    have hmute : ∀ b ∈ [a], b.Mute = true := fun b hb => Action.mute_of_neutral (h.kept.neutral b hb)
    exact hn.same hmute ho rfl rfl rfl rfl ⟨rfl, rfl⟩ rfl id
  | fail site =>
    rcases ho.1.2.2 with rfl | hdue
    · exact hn.same (List.forall_mem_singleton.mpr rfl) ho rfl rfl rfl rfl ⟨rfl, rfl⟩ rfl id
    · exact hn.kept (.fail site _ _) ho hdue (.inl rfl)
  | start hs _ =>
    obtain ⟨hlogin, hnil⟩ := hn.opening (.inr (.inr hs))
    have hfailed : ¬ ConStatus.IsError .connecting := by decide
    refine hn.mute (List.forall_mem_nil _) ho ⟨rfl, rfl⟩ rfl (fun h => ?_) (fun _ h => by cases h) rfl
      (fun h => absurd h hfailed) hn.queue (fun _ => ⟨hlogin, hnil⟩) fun _ => nofun
    rw [hlogin] at h
    cases h
  | connected hu hp => exact hp.connected_notified hu hn ho
  | drained hq =>
    have hasked : stage x = .asked := ho.1.2.2
    have hopen := hn.not_opening (.inl (by rw [hasked]; nofun))
    have herrno : c.serverErrno = 0 := by
      refine hn.errno_eq_zero ?_ ?_ <;> rw [hasked] <;> nofun
    have hdue : (stage x).isDue = false := by
      rw [hasked]
      rfl
    refine hn.completed ho rfl rfl (.inl hdue) rfl rfl (Tells.due (.eof rfl herrno rfl) (.inl herrno)) (absurd herrno)
      nofun hq fun h => ?_
    rcases h with h | h | h
    · exact hopen (.inl h)
    · exact hopen (.inr (.inl h))
    · cases h
  | lost _ =>
    have hdue := ho.1.2.2.resolve_left nofun
    exact hn.kept (.fail .writeCallback _ _) ho hdue (.inl rfl)
  | @packet _ _ t q payload hq h =>
    rw [List.append_assoc] at ho ⊢
    have hopen := hn.not_opening (.inr (by rw [hq]; nofun))
    have hlen := hn.queue
    rw [hq, List.length_cons] at hlen
    have hroom : (stage x).room = 1 := by
      cases hs : stage x <;> rw [hs] at hlen <;> first | rfl | cases hlen
    have hnil : q = [] := by
      rw [hroom] at hlen
      exact List.length_eq_zero_iff.mp (by omega)
    subst hnil
    have hpop : Notified { c with queue := [] } ([.packet t payload c.status] ++ x) :=
      hn.mute (List.forall_mem_singleton.mpr rfl) ho.suffix ⟨rfl, rfl⟩ rfl
        (fun _ hd => ⟨hd.1.congr rfl rfl rfl, fun e' ht => hd.2 e' (ht.congr rfl rfl rfl)⟩)
        (fun _ hs ht => ⟨hs, ht.congr rfl rfl rfl⟩) rfl .inl (Nat.zero_le _) (fun h => absurd h hopen) hn.started
    exact h.reads.notified payload c.status hpop hroom rfl hopen ho
  | command cmd tls h => exact h.sends.notified cmd tls hn ho
  | request hp =>
    rw [List.append_assoc] at ho
    have hs : stage x = .told .rowReady := ho.first.2.2
    have hopen := hn.not_opening (.inl (by rw [hs]; nofun))
    have herrno : c.serverErrno = 0 := by
      refine hn.errno_eq_zero ?_ ?_ <;> rw [hs] <;> nofun
    have hdue : (stage x).isDue = false := by
      rw [hs]
      rfl
    exact hp.kept.requested hn hopen rfl ⟨.inl hdue, hn.once⟩ rfl ⟨rfl, rfl⟩ rfl rfl
      (hn.queue_nil (by rw [hs]; rfl)) herrno rfl (show ¬ CommandStatus.IsEvent .readRow by decide) (.inl rfl) rfl rfl
      rfl
  | nextResult _ hp =>
    rw [List.append_assoc] at ho
    have htold : (stage x).isTold = true := ho.first.2.2
    have hopen := hn.not_opening (.inl (Stage.ne_login_of_told htold))
    exact hp.kept.requested hn hopen rfl ⟨.inl (Stage.not_due_of_told htold), hn.once⟩ rfl ⟨rfl, rfl⟩ rfl rfl
      (hn.queue_nil (Stage.room_of_told htold)) rfl rfl (show ¬ CommandStatus.IsEvent .readResponse by decide) (.inr rfl)
      rfl rfl rfl
  | pollEof => exact hn.eofReported ho rfl
  | keep _ _ hp =>
    rw [List.append_assoc] at ho
    have hs : (stage x).tell = .told .rowReady := ho.first.2.2
    have hrow : stage x = .due .rowReady ∨ stage x = .told .rowReady := by
      cases hst : stage x <;> rw [hst] at hs <;> cases hs
      · exact .inl rfl
      · exact .inr rfl
    have honce : ToldOnce (.rowRequested :: .rowKept :: x) := by
      refine ⟨.inl ?_, ?_, hn.once⟩
      · exact (congrArg Stage.isDue hs).trans rfl
      · rcases hrow with h | h
        · exact .inl h
        · exact .inr (by rw [h]; rfl)
    have hopen := hn.not_opening (.inl (by rcases hrow with h | h <;> rw [h] <;> nofun))
    have herrno : c.serverErrno = 0 := by
      refine hn.errno_eq_zero ?_ ?_ <;> rcases hrow with h | h <;> rw [h] <;> nofun
    have hnil := hn.queue_nil (by rcases hrow with h | h <;> rw [h] <;> rfl)
    exact hp.kept.requested hn hopen rfl honce rfl ⟨rfl, rfl⟩ rfl rfl hnil herrno rfl
      (show ¬ CommandStatus.IsEvent .readRow by decide) (.inl rfl) rfl rfl rfl
  | aux h => exact h.notified hn ho

end Control

/-! ### Polls -/

section Poll

variable {con : Con} {event : Event}

/-- The poll has the event that is due, unless it is a row to be buffered. -/
lemma pollEvent_of_due (h : con.control.Due event) (hb : event = .rowReady → con.bufferRows = false) :
    con.pollEvent = some event := by
  obtain ⟨ht, honly⟩ := h
  cases ht with
  | failed hf =>
    unfold Con.pollEvent
    rcases hf with hs | hs | hs | hs <;> rw [show con.status = _ from hs]
  | error hs he =>
    unfold Con.pollEvent
    rw [show con.status = _ from hs]
    exact if_pos he
  | eof hs he hc => rw [pollEvent_idle hs (not_not.mpr he), show con.commandStatus = _ from hc]
  | rowReady hs he hc =>
    rw [pollEvent_idle hs (not_not.mpr he), show con.commandStatus = _ from hc]
    exact if_neg (Bool.eq_false_iff.mp (hb rfl))
  | connected hs hc =>
    have he : ¬ con.serverErrno ≠ 0 := fun he => Event.noConfusion (honly .error (.error hs he))
    rw [pollEvent_idle hs he, show con.commandStatus = _ from hc]

/-- A poll hands its event to the callback. -/
lemma pollSwitch_sends (env : Env) {w : World} (hw : w.Follows) (hev : con.pollEvent = some event) (error : ErrorPtr) :
    ∃ error', (sendCallback w con event error').trace <:+ (pollSwitch env w con error).1.trace := by
  unfold pollSwitch
  unfold Con.pollEvent at hev
  cases hs : con.status with
  | idle =>
    rw [hs] at hev
    dsimp only at hev ⊢
    unfold pollIdle
    by_cases he : con.serverErrno ≠ 0
    · rw [if_pos he] at hev ⊢
      cases hev
      exact ⟨_, List.suffix_refl _⟩
    · rw [if_neg he] at hev ⊢
      cases hc : con.commandStatus with
      | eof =>
        rw [hc] at hev
        cases hev
        exact ⟨error, List.suffix_cons _ _⟩
      | rowInBuffer =>
        rw [hc] at hev
        dsimp only at hev ⊢
        split at hev
        · cases hev
        · next hb =>
          cases hev
          rw [if_neg hb]
          exact ⟨error, List.suffix_refl _⟩
      | connected =>
        rw [hc] at hev
        cases hev
        dsimp only
        refine ⟨error, ?_⟩
        split
        · exact (connectQuery_does env _ hw error).suffix
        · exact List.suffix_refl _
      | _ =>
        rw [hc] at hev
        cases hev
  | notConnected | connecting | busy =>
    rw [hs] at hev
    cases hev
  | _ =>
    rw [hs] at hev
    cases hev
    exact ⟨_, List.suffix_refl _⟩

lemma pollTells {s : SysEvent} (hn : con.control.Notified con.trace) (ho : Heeded (sysStep con s).trace) :
    PollTells con s := by
  cases s with
  | net _ _ => trivial
  | call _ _ => trivial
  | poll s =>
    intro event hs hb
    obtain ⟨hdue, hne⟩ := hn.due hs
    have hpool : con.pool = true ∧ con.callbackFn = true := hn.pool
    have hhears : con.Hears event := ⟨fun he => hne (he.trans hn.last), hpool⟩
    obtain ⟨error, hsuffix⟩ := pollSwitch_sends s.env s.world_follows (pollEvent_of_due hdue hb) s.error
    have hpoll : sysStep con (.poll s) = (pollSwitch s.env s.world con s.error).1 := by
      show (pollSwitch s.env s.world (if con.pool then con else _) s.error).1 = _
      rw [if_pos hpool.1]
    rw [hpoll] at ho ⊢
    cases error with
    | null =>
      obtain ⟨z, hz⟩ := hsuffix
      rw [← hz] at ho
      exact absurd ho.first.2.2 id
    | «at» err => exact ⟨err, (sendCallback_hears s.world_follows hhears).trans hsuffix⟩

end Poll

/-! ### Runs of a connection -/

lemma Initial.notified {con : Con} (h : Initial con) (hpool : con.pool = true) (hf : con.callbackFn = true) :
    con.control.Notified con.trace := by
  cases h
  exact
    { once := trivial
      pool := ⟨hpool, hf⟩
      last := rfl
      due := nofun
      silent := fun _ _ => nofun
      errno := fun h => absurd rfl h
      lost := by
        have : ¬ ConStatus.IsError .notConnected := by decide
        exact fun h => absurd h this
      queue := Nat.zero_le _
      opening := fun _ => ⟨rfl, rfl⟩
      started := nofun }

/-- In a run whose events are kept apart, everything completed is told once. -/
lemma connection_tells_once {con : Con} (hn : con.control.Notified con.trace) (es : List SysEvent)
    (ho : Heeded (run sysStep con es).trace) :
    ToldOnce (run sysStep con es).trace ∧ Along sysStep PollTells con es := by
  have hrun : ∀ {con : Con} (es : List SysEvent), con.control.Notified con.trace → Heeded (run sysStep con es).trace →
      (run sysStep con es).control.Notified (run sysStep con es).trace := fun es hn =>
    run_invariant_moves (I := fun c x => Heeded x → c.Notified x) (fun hn hm ho => hm.notified (hn ho.suffix) ho)
      (fun _ => hn) es
  refine ⟨(hrun es hn ho).once, ?_⟩
  induction es generalizing con with
  | nil => trivial
  | cons e es ih =>
    obtain ⟨z, hz⟩ := run_suffix (sysStep con e) es
    have hone : Heeded (sysStep con e).trace := by
      rw [run_cons, ← hz] at ho
      exact ho.suffix
    exact ⟨pollTells hn hone, ih (hrun [e] hn hone) ho⟩

/-! ### Runs of a pool -/

/-- A poll with this error variable. -/
def Setting.within (s : Setting) (error : Option Err) : Setting := { s with error := .at error }

/-- What the poll of connection `k` and the callbacks in it do to connection `i`. -/
def pollEvents (r : PoolTurn) (i : ℕ) (error : Option Err) (k : ℕ) : List SysEvent :=
  (if k = i then [.poll ((r.polls k).within error)] else []) ++
    ((r.calls k).filter (·.1 = i)).map fun c => .call c.2.1 c.2.2

/-- What the polls of these connections do to connection `i`. -/
def turnEvents (r : PoolTurn) (i : ℕ) : Pool × Option Err → List ℕ → List SysEvent
  | _, [] => []
  | st, k :: ks => pollEvents r i st.2 k ++ turnEvents r i (poolPoll r st k) ks

/-- What an event of a pool does to connection `i`. -/
def PoolEvent.events (i : ℕ) (pool : Pool) : PoolEvent → List SysEvent
  | .call k s c => if k = i then [.call s c] else []
  | .turn r =>
    ((r.nets.filter (·.1 = i)).map fun e => .net e.2.1 e.2.2) ++
      turnEvents r i (poolTurned pool r, none) (List.range pool.connections.length)

/-- **What a run of a pool does to connection `i`**: the reports of the event loop, the calls and the polls, each with
the error variable it is given. -/
def poolEvents (i : ℕ) : Pool → List PoolEvent → List SysEvent
  | _, [] => []
  | pool, e :: es => e.events i pool ++ poolEvents i (poolStep pool e) es

section Pool

variable {pool : Pool} {r : PoolTurn} {i k : ℕ} {st : Pool × Option Err}

lemma worldAt_within (s : Setting) (error : Option Err) (n : ℕ) : (s.within error).worldAt n = s.worldAt n := by
  induction n with
  | zero => rfl
  | succ n ih =>
    unfold Setting.worldAt
    rw [ih]
    rfl

lemma connectPoll_within (s : Setting) (con : Con) (error : Option Err) :
    sysStep con (.poll (s.within error)) = (connectPoll s.env s.world con (.at error)).1 := by
  have hw : (s.within error).world = s.world := worldAt_within s error s.depth
  show (connectPoll s.env (s.within error).world con (.at error)).1 = _
  rw [hw]

lemma getElem?_poolPoll_within (hk : k < st.1.connections.length) :
    (poolPoll r st k).1.connections[i]? =
      st.1.connections[i]?.map fun con => run sysStep con (pollEvents r i st.2 k) := by
  have hcon : st.1.connections[k]? = some st.1.connections[k] := List.getElem?_eq_getElem hk
  unfold poolPoll pollEvents
  rw [hcon]
  dsimp only
  rw [getElem?_foldl_call, getElem?_on]
  by_cases hi : k = i
  · subst hi
    rw [if_pos rfl, if_pos rfl, hcon]
    simp only [Option.map_some, run_append, run_cons, run_nil, connectPoll_within]
  · rw [if_neg hi, if_neg hi, List.nil_append]

lemma run_poolPoll_within (ks : List ℕ) (hks : ∀ k ∈ ks, k < st.1.connections.length) :
    (run (poolPoll r) st ks).1.connections[i]? =
      st.1.connections[i]?.map fun con => run sysStep con (turnEvents r i st ks) := by
  induction ks generalizing st with
  | nil => simp [turnEvents]
  | cons k ks ih =>
    obtain ⟨hk, hks⟩ := List.forall_mem_cons.mp hks
    rw [run_cons, ih (by rwa [length_poolPoll]), getElem?_poolPoll_within hk, Option.map_map, turnEvents]
    simp only [run_append, Function.comp_def]

lemma getElem?_poolStep_within (e : PoolEvent) :
    (poolStep pool e).connections[i]? = pool.connections[i]?.map fun con => run sysStep con (e.events i pool) := by
  cases e with
  | call k s c =>
    show (pool.on k _).connections[i]? = _
    rw [getElem?_on, PoolEvent.events]
    by_cases hi : k = i
    · simp only [if_pos hi]
      rfl
    · simp only [if_neg hi, run_nil, Option.map_id']
  | turn r =>
    show (run (poolPoll r) (poolTurned pool r, none) _).1.connections[i]? = _
    have hks : ∀ k ∈ List.range pool.connections.length, k < (poolTurned pool r).connections.length := by
      intro k hk
      rw [length_poolTurned]
      exact List.mem_range.mp hk
    rw [run_poolPoll_within _ hks, getElem?_poolTurned, Option.map_map, PoolEvent.events]
    simp only [run_append, Function.comp_def]

/-- **A connection of a pool goes through a run of its own**, whatever happens to the others. -/
theorem pool_runs_connection (es : List PoolEvent) :
    (run poolStep pool es).connections[i]? =
      pool.connections[i]?.map fun con => run sysStep con (poolEvents i pool es) := by
  induction es generalizing pool with
  | nil => simp [poolEvents]
  | cons e es ih =>
    rw [run_cons, ih, getElem?_poolStep_within, Option.map_map, poolEvents]
    simp only [run_append, Function.comp_def]

end Pool

/-- **Exactly-once events**: in every run of a pool whose events are kept apart, everything that a connection of the
pool has completed was told to the callback once, at the next poll. -/
theorem pool_tells_once {pool : Pool} {i : ℕ} {con : Con} (hi : pool.connections[i]? = some con) (h : Initial con)
    (hpool : con.pool = true) (hf : con.callbackFn = true) (es : List PoolEvent)
    (ho : Heeded (run sysStep con (poolEvents i pool es)).trace) :
    (run poolStep pool es).connections[i]? = some (run sysStep con (poolEvents i pool es)) ∧
      ToldOnce (run sysStep con (poolEvents i pool es)).trace ∧
      Along sysStep PollTells con (poolEvents i pool es) := by
  refine ⟨?_, connection_tells_once (h.notified hpool hf) _ ho⟩
  rw [pool_runs_connection, hi]
  rfl

/-- A query is sent on connection `i`, and the server answers. -/
def queryMember (i : ℕ) (answer : List UInt8) : List PoolEvent := [
  .call i (.calm []) (.query [0x53] []),
  .turn (.calm i [.wrote none, .read 65536 answer]),
  .call i (.calm []) .queryClose]

lemma Con.member_initial : Initial Con.member := .made ..

/-- A query that succeeds, one that fails, and another one that succeeds. -/
def queriesAlternating : List PoolEvent :=
  connectMember 0 ++ queryMember 0 (okPacket 1 2) ++ queryMember 0 (errPacket 1) ++ queryMember 0 (okPacket 1 2)

/-- When queries succeed and fail by turns, the callback is told of the end of each. -/
theorem pool_tells_once_alternating :
    ToldOnce (run sysStep .member (poolEvents 0 { connections := [.member] } queriesAlternating)).trace :=
  (@pool_tells_once { connections := [.member] } 0 .member rfl Con.member_initial rfl rfl queriesAlternating
    (by decide +kernel)).2.1

/-- Of two queries that succeed, one after the other, the callback is told of the first one only, and when the third
one is sent, the end of the second one is not told any more. -/
theorem second_eof_lost :
    ∃ es, (run poolStep { connections := [.member] } es).connections[0]?.map
        (fun con => (con.trace.filterMap Action.completion, con.callbacks.map (·.1))) =
          some ([.eof, .eof, .connected], [.eof, .connected]) ∧
      ¬ ∀ es', ToldOnce (run sysStep .member (poolEvents 0 { connections := [.member] } (es ++ es'))).trace := by
  refine ⟨connectMember 0 ++ queryMember 0 (okPacket 1 2) ++ queryMember 0 (okPacket 1 2), by decide +kernel, ?_⟩
  intro h
  exact absurd (h [.call 0 (.calm []) (.query [0x53] [])]) (by decide +kernel)

end LibAttachSql
