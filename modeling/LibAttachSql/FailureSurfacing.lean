import LibAttachSql.System

/-!
# Failures and the polls after them

A poll answers with an error by the status of the connection, or by the server's error number when it is idle.  Most
places that record a failure set the command status, the error code and the queue, but leave the status alone; and a
status that says error can be overwritten by what comes after it.  A failure is reported by the polls that follow as
long as neither happens.
-/

namespace LibAttachSql

open Lib

/-- With a status and a server error number a poll answers with an error. -/
def ConStatus.Reports (s : ConStatus) (serverErrno : ℕ) : Prop := s.IsError ∨ s = .idle ∧ serverErrno ≠ 0

instance (s : ConStatus) (n : ℕ) : Decidable (s.Reports n) := by
  unfold ConStatus.Reports
  infer_instance

/-- A failure has been recorded, and no command was sent since.  A push that fails records nothing. -/
def Pending : List Action → Prop
  | [] => False
  | .failed site _ _ :: x => site ≠ .queueAlloc ∨ Pending x
  | .command _ _ :: _ => False
  | _ :: x => Pending x

instance : DecidablePred Pending := fun x => by
  induction x with
  | nil => exact isFalse id
  | cons a x ih =>
    rcases a with ⟨⟩
    case failed site _ _ => exact inferInstanceAs (Decidable (site ≠ .queueAlloc ∨ Pending x))
    case command => exact isFalse id
    all_goals exact ih

/-- Every failure was recorded where an error status is set, or on a connection that reports an error already; while a
failure is pending, nothing overwrites the status: no packet is read, no write completed with nothing expected, no further
result asked for, and no command goes on to be sent after its write failed. -/
def Undisturbed : List Action → Prop
  | [] => True
  | .failed site s n :: x => (site = .queueAlloc ∨ site.status.isSome ∨ s.Reports n) ∧ Undisturbed x
  | .packet _ _ _ :: x => ¬ Pending x ∧ Undisturbed x
  | .drained _ :: x => ¬ Pending x ∧ Undisturbed x
  | .nextResult _ :: x => ¬ Pending x ∧ Undisturbed x
  | .sent _ :: x => ¬ Pending x ∧ Undisturbed x
  | .fault :: _ => False
  | _ :: x => Undisturbed x

instance : DecidablePred Undisturbed := fun x => by
  induction x with
  | nil => exact isTrue trivial
  | cons a x ih =>
    rcases a with ⟨⟩
    case failed site s n => exact inferInstanceAs (Decidable (_ ∧ Undisturbed x))
    case packet => exact inferInstanceAs (Decidable (¬ Pending x ∧ Undisturbed x))
    case drained => exact inferInstanceAs (Decidable (¬ Pending x ∧ Undisturbed x))
    case nextResult => exact inferInstanceAs (Decidable (¬ Pending x ∧ Undisturbed x))
    case sent => exact inferInstanceAs (Decidable (¬ Pending x ∧ Undisturbed x))
    case fault => exact isFalse id
    all_goals exact ih

lemma Undisturbed.suffix {x y : List Action} (h : Undisturbed x) (hy : y <:+ x) : Undisturbed y := by
  obtain ⟨z, rfl⟩ := hy
  induction z with
  | nil => exact h
  | cons a z ih =>
    cases a with
    | failed _ _ _ => exact ih h.2
    | packet _ _ _ => exact ih h.2
    | drained _ => exact ih h.2
    | nextResult _ => exact ih h.2
    | sent _ => exact ih h.2
    | fault => exact h.elim
    | _ => exact ih h

namespace Control

/-- In an undisturbed run a pending failure shows. -/
def Surfaced (c : Control) (x : List Action) : Prop := Undisturbed x → Pending x → c.status.Reports c.serverErrno

variable {c c' : Control} {x y : List Action} {t : PacketType}

lemma status_afterFail (site : FailSite) : ∀ s, site.status = some s → s.IsError := by
  cases site <;> decide

lemma Surfaced.of_not_pending (h : Undisturbed x → ¬ Pending x) : c.Surfaced x := fun hu hp => absurd hp (h hu)

/-- A failure sets an error status, or is recorded where an error is reported. -/
lemma Surfaced.fail (h : c.Surfaced x) (site : FailSite) :
    (c.afterFail site).Surfaced (.failed site c.status c.serverErrno :: x) := by
  rintro ⟨hs, hu⟩ hp
  unfold afterFail
  cases hsite : site.status with
  | some s => exact .inl (status_afterFail site s hsite)
  | none =>
    rcases hs with rfl | hs | hs
    · exact h hu (hp.resolve_left fun hne => hne rfl)
    · simp [hsite] at hs
    · exact hs

lemma Quiet.surfaced {a : Action} (h : Quiet c a) (hc : c.Surfaced x) : c.Surfaced (a :: x) := by
  cases h with
  | fault => exact fun hu => hu.elim
  | _ => exact hc

lemma SendMove.surfaced (h : SendMove c y c') (hc : c.Surfaced x) : c'.Surfaced (y ++ x) := by
  cases h with
  | quiet h => exact h.surfaced hc
  | fail site => exact hc.fail site
  | await => exact hc

lemma SendMove.surfaced_path (h : Path SendMove c y c') (hc : c.Surfaced x) : c'.Surfaced (y ++ x) :=
  h.preserves (fun hc h => h.surfaced hc) hc

lemma Pushed.surfaced (h : Pushed t c y c') (hc : c.Surfaced x) : c'.Surfaced (y ++ x) := by
  cases h with
  | pushed _ _ => exact hc
  | refused _ => exact hc.fail .queueAlloc
  | fault _ _ => exact fun hu => hu.elim

/-! ### Readers of packets

A packet is read only while no failure is pending, and most readers record none. -/

lemma Pushed.not_pending (h : Pushed t c y c') (hx : Undisturbed x → ¬ Pending x) :
    Undisturbed (y ++ x) → ¬ Pending (y ++ x) := by
  cases h with
  | pushed _ _ => exact hx
  | refused _ => exact fun hu hp => hx hu.2 (hp.resolve_left fun hne => hne rfl)
  | fault _ _ => exact fun hu => hu.elim

lemma Response.not_pending (h : Response c y c') (hx : Undisturbed x → ¬ Pending x) :
    Undisturbed (y ++ x) → ¬ Pending (y ++ x) := by
  have hr : ∀ s, Undisturbed (.reported s :: x) → ¬ Pending (.reported s :: x) := fun _ => hx
  cases h with
  | ok s => exact hr s
  | err _ => exact hx
  | columnsEnd s _ hp =>
    rw [List.append_assoc]
    exact hp.not_pending (hr s)
  | paramsEnd s _ hp =>
    rw [List.append_assoc]
    exact hp.not_pending (hr s)
  | finish s _ => exact hr s
  | fault s => exact fun hu => hu.elim
  | header _ hp => exact hp.not_pending hx

lemma PrepareOk.not_pending (h : PrepareOk c y c') (hx : Undisturbed x → ¬ Pending x) :
    Undisturbed (y ++ x) → ¬ Pending (y ++ x) := by
  cases h with
  | params hp => exact hp.not_pending hx
  | columns hp => exact hp.not_pending hx
  | finish => exact hx

lemma LoginMove.surfaced (h : LoginMove c y c') (hc : c.Surfaced x) : c'.Surfaced (y ++ x) := by
  cases h with
  | send h => exact h.surfaced hc
  | tls _ _ => exact hc
  | dequeue _ => exact hc
  | refused h _ => exact h.surfaced hc

lemma LoginMove.surfaced_path (h : Path LoginMove c y c') (hc : c.Surfaced x) : c'.Surfaced (y ++ x) :=
  h.preserves (fun hc h => h.surfaced hc) hc

lemma Login.surfaced (h : Login c y c') (hc : c.Surfaced x) : c'.Surfaced (y ++ x) := by
  cases h with
  | refused => exact hc.fail .sslRefused
  | fault _ => exact fun hu => hu.elim
  | scramble h => exact (LoginMove.surfaced_path h hc).fail .badScramble
  | sent h hp =>
    rw [List.append_assoc]
    exact hp.surfaced (LoginMove.surfaced_path h hc)

lemma Greeting.not_pending (h : Greeting c y c') (hx : Undisturbed x → ¬ Pending x) :
    Undisturbed (y ++ x) → ¬ Pending (y ++ x) := by
  cases h <;> exact hx

lemma Handshake.surfaced (h : Handshake c y c') (hx : Undisturbed x → ¬ Pending x) : c'.Surfaced (y ++ x) := by
  cases h with
  | badProtocol hg => exact (Surfaced.of_not_pending (hg.not_pending hx)).fail .badProtocol
  | login s hg hl =>
    have hx' := hg.not_pending hx
    rw [List.append_assoc]
    exact hl.surfaced (.of_not_pending hx')
  | @oldAuth _ c₁ _ s _ hg hl =>
    have hx' := hg.not_pending hx
    rw [List.append_assoc]
    exact hl.surfaced (Surfaced.fail (c := { c₁ with serverStatus := s }) (.of_not_pending hx') .noOldAuth)

lemma Dispatch.surfaced (h : Dispatch t c y c') (hx : Undisturbed x → ¬ Pending x) : c'.Surfaced (y ++ x) := by
  cases h with
  | handshake h => exact h.surfaced hx
  | handshakeSsl h => exact h.surfaced (.of_not_pending hx)
  | response _ h => exact .of_not_pending (h.not_pending hx)
  | prepareOk h => exact .of_not_pending (h.not_pending hx)
  | definition _ _ h _ => exact .of_not_pending (h.not_pending hx)
  | fault _ => exact fun hu => hu.elim
  | row _ => exact .of_not_pending hx

/-! ### Commands -/

/-- With a command a failure before it is forgotten; its own failures show, unless it goes on to be sent. -/
lemma Commanded.surfaced (h : Commanded c y c') (stream tls : Bool) (command : Command) (s : ConStatus) :
    c'.Surfaced (y ++ .onStream stream tls :: .command command s :: x) := by
  have hc : c.commandReset.Surfaced (.onStream stream tls :: .command command s :: x) := .of_not_pending fun _ => id
  cases h with
  | sent _ _ _ => exact .of_not_pending fun hu => hu.1
  | unanswered _ => exact .of_not_pending fun hu => hu.1
  | failed h => exact (SendMove.surfaced_path h hc).fail .commandSend
  | compressed h _ => exact SendMove.surfaced_path h hc

lemma AuxMove.surfaced {a : Aux} (h : AuxMove c y a) (hc : c.Surfaced x) : Surfaced { c with aux := a } (y ++ x) := by
  cases h with
  | keepFault _ _ => exact fun hu => hu.elim
  | _ => exact hc

/-- **Every move keeps pending failures in the status**, as long as the run is undisturbed. -/
theorem Move.surfaced (h : Move c y c') (hc : c.Surfaced x) : c'.Surfaced (y ++ x) := by
  cases h with
  | quiet h => exact h.surfaced hc
  | fail site => exact hc.fail site
  | start hs _ =>
    intro hu hp
    have := hc hu hp
    rw [hs] at this
    exact absurd this (by simp [ConStatus.Reports, ConStatus.IsError])
  | connected _ hp => exact hp.surfaced hc
  | drained _ => exact .of_not_pending fun hu => hu.1
  | lost _ => exact fun _ _ => .inl (.inr (.inr (.inr rfl)))
  | packet _ _ h =>
    rw [List.append_assoc]
    exact h.surfaced fun hu => hu.1
  | command command tls h =>
    rw [List.append_assoc]
    exact h.surfaced c.aux.stream tls command c.status
  | request hp =>
    rw [List.append_assoc]
    exact hp.surfaced hc
  | nextResult _ hp =>
    rw [List.append_assoc]
    exact .of_not_pending (hp.not_pending fun hu => hu.1)
  | pollEof => exact hc
  | keep _ _ hp =>
    rw [List.append_assoc]
    exact hp.surfaced hc
  | aux h => exact h.surfaced hc

end Control

/-! ### The polls of a run -/

/-- The switch of a poll answers with an error for an error status, and for a server error on an idle connection. -/
lemma pollSwitch_of_reports {env : Env} {w : World} {con : Con} {error : ErrorPtr}
    (h : con.status.Reports con.serverErrno) : (pollSwitch env w con error).2.2 = .error := by
  unfold pollSwitch
  rcases h with (h | h | h | h) | ⟨h, hn⟩ <;> rw [h]
  dsimp only [pollIdle]
  rw [if_pos hn]

/-- If the event is a poll with a failure pending, in a run undisturbed so far, it answers with an error. -/
def FailureReported (con : Con) : SysEvent → Prop
  | .poll s => Pending (con.seen s).trace → con.answer s = .error
  | _ => True

instance (con : Con) (e : SysEvent) : Decidable (FailureReported con e) := by
  rcases e with ⟨⟩ <;> dsimp only [FailureReported] <;> infer_instance

/-- **When failures surface**: in every undisturbed run from a fresh connection, every poll answers with an error from a
failure on until the next command. -/
theorem failures_surface {con : Con} {es : List SysEvent} (h : Initial con)
    (hu : Undisturbed (run sysStep con es).trace) : Along sysStep FailureReported con es := by
  have hI : con.control.Surfaced con.trace := by
    cases h
    exact .of_not_pending fun _ => id
  have hs := along_pollSees_moves (fun hc hm => hm.surfaced hc) hI es
  refine (hs.and (along_pollSees_suffix con es)).imp fun con e he => ?_
  cases e with
  | poll s => exact fun hp => pollSwitch_of_reports (he.1 (hu.suffix he.2) hp)
  | net _ _ => trivial
  | call _ _ => trivial

/-- The connection is lost while a query is answered, and polled once more. -/
theorem failures_surface_lost_connection :
    Along sysStep FailureReported (.calm 0)
      (connectAndQuery 2 ++ [.poll (.calm [.wrote none, .readError "ECONNRESET"]), .poll (.calm [])]) :=
  failures_surface (Con.calm_initial 0) (by decide +kernel)

/-- The answer to a query bears a wrong number: the failure is recorded, nothing is expected any more, and every poll
goes on to report that the query is being processed. -/
theorem failure_hidden :
    ∃ con es, Initial con ∧ ¬ Along sysStep FailureReported con es ∧
      (run sysStep con es).commandStatus = .readFailed ∧ (run sysStep con es).nextPacketQueue = [] ∧
      (run sysStep con es).answer (.calm []) = .processing :=
  ⟨.calm 0, connectAndQuery 2 ++ [.poll (.calm [.wrote none, .read 65536 (okPacket 5 2)])],
    Con.calm_initial 0, by decide +kernel, by decide +kernel, by decide +kernel, by decide +kernel⟩

end LibAttachSql
