import LibAttachSql.System

/-!
# What a poll finds on an idle connection

The IDLE case of a poll knows three command statuses and a server error; for anything else it ends in `assert(0)`.  An
idle connection that is in none of these is waiting for a packet, or a step failed on it and left the status alone.
So the polls of a run are answered exactly as long as no poll comes while a row that was asked for is still on its way,
and nothing fails at a place that leaves the connection idle.
-/

namespace LibAttachSql

open Lib

namespace Control

/-- The IDLE case of a poll has an answer. -/
def Answerable (c : Control) : Prop :=
  c.serverErrno ≠ 0 ∨ c.commandStatus = .eof ∨ c.commandStatus = .rowInBuffer ∨ c.commandStatus = .connected

/-- An idle connection can be answered for, or waits for a packet other than a handshake. -/
def Settled (c : Control) : Prop := c.status = .idle → c.Answerable ∨ ∃ t ∈ c.queue, t ≠ .handshake

/-- An action that is no fault, and no failure that leaves a connection idle, without a server error, and with a command
status or a queue it should not have. -/
def Harmless : Action → Prop
  | .fault => False
  | .failed site .idle n => n ≠ 0 ∨ site.status.isSome ∨ site = .badProtocol ∨ site = .noOldAuth
  | _ => True

instance : DecidablePred Harmless := fun a => by
  unfold Harmless
  split <;> infer_instance

variable {c c' : Control} {x : List Action} {t : PacketType}

lemma Settled.of_ne_idle (h : c.status ≠ .idle) : c.Settled := fun hs => absurd hs h

lemma Settled.of_eof (h : c.commandStatus = .eof) : c.Settled := fun _ => .inl (.inr (.inl h))

/-- No failure makes a connection idle. -/
lemma status_afterFail_ne_idle {site : FailSite} (h : c.status ≠ .idle ∨ site.status.isSome) :
    (c.afterFail site).status ≠ .idle := by
  have hsite : site.status ≠ some .idle := by cases site <;> decide
  unfold afterFail
  cases hs : site.status with
  | none => exact h.resolve_right (by simp [hs])
  | some status => exact fun he => hsite (hs.trans (congrArg some he))

lemma Settled.of_errno (h : c.serverErrno ≠ 0) : c.Settled := fun _ => .inl (.inl h)

/-- A failure at the head of harmless actions that sets no status: on an idle connection there is a server error. -/
lemma errno_of_harmless {site : FailSite} (hx : ∀ a ∈ Action.failed site c.status c.serverErrno :: x, Harmless a)
    (hsite : site.status = none ∧ site ≠ .badProtocol ∧ site ≠ .noOldAuth) (hs : c.status = .idle) :
    c.serverErrno ≠ 0 := by
  have h := hx _ (List.mem_cons_self ..)
  rw [hs] at h
  simpa [Harmless, hsite] using h

/-- The connection after such a failure. -/
lemma Settled.afterFail {site : FailSite} (hx : ∀ a ∈ Action.failed site c.status c.serverErrno :: x, Harmless a)
    (hsite : site.status = none ∧ site ≠ .badProtocol ∧ site ≠ .noOldAuth) : (c.afterFail site).Settled := by
  by_cases hs : c.status = .idle
  · have hn := errno_of_harmless hx hsite hs
    exact .of_errno hn
  · exact .of_ne_idle (status_afterFail_ne_idle (.inl hs))

/-- A push that is neither refused on an idle connection nor out of bounds leaves a packet expected. -/
lemma Pushed.settled (h : Pushed t c x c') (hx : ∀ a ∈ x, Harmless a) (ht : t ≠ .handshake) :
    c'.status = .idle → c'.serverErrno ≠ 0 ∨ ∃ t ∈ c'.queue, t ≠ .handshake := by
  cases h with
  | pushed _ _ => exact fun _ => .inr ⟨t, List.mem_cons_self .., ht⟩
  | refused _ => exact fun hs => .inl (errno_of_harmless (c := c) hx (by decide) hs)
  | fault _ _ => exact absurd (hx _ (List.mem_singleton_self _)) id

lemma Response.settled (h : Response c x c') (hx : ∀ a ∈ x, Harmless a) : c'.Settled := by
  cases h with
  | ok s => exact fun _ => .inl (.inr (by split_ifs <;> simp))
  | err n => exact .of_eof rfl
  | columnsEnd s _ hp =>
    have h := hp.settled (fun a ha => hx a (List.mem_append_left _ ha)) (by decide)
    exact fun hs => (h hs).imp_left .inl
  | paramsEnd s _ hp =>
    have h := hp.settled (fun a ha => hx a (List.mem_append_left _ ha)) (by decide)
    exact fun hs => (h hs).imp_left .inl
  | finish s _ => exact .of_eof rfl
  | fault s => exact absurd (hx _ (List.mem_cons_self ..)) id
  | header _ hp =>
    have h := hp.settled hx (by decide)
    exact fun hs => (h hs).imp_left .inl

lemma PrepareOk.settled (h : PrepareOk c x c') (hx : ∀ a ∈ x, Harmless a) : c'.Settled := by
  cases h with
  | params hp =>
    have h := hp.settled hx (by decide)
    exact fun hs => (h hs).imp_left .inl
  | columns hp =>
    have h := hp.settled hx (by decide)
    exact fun hs => (h hs).imp_left .inl
  | finish => exact .of_eof rfl

lemma Login.settled (h : Login c x c') (hx : ∀ a ∈ x, Harmless a) : c'.Settled := by
  cases h with
  | refused => exact .of_ne_idle nofun
  | fault _ => exact absurd (hx _ (List.mem_cons_self ..)) id
  | scramble _ => exact .afterFail hx (by decide)
  | sent _ hp =>
    have h := hp.settled (fun a ha => hx a (List.mem_append_left _ ha)) (by decide)
    exact fun hs => (h hs).imp_left .inl

/-- The greeting leaves an idle connection as settled as it was, if the handshake was not what it waited for. -/
lemma Greeting.settled (h : Greeting c x c') (hc : c.Settled) : c'.Settled := by
  cases h with
  | plain => exact hc
  | rejected n => exact .of_eof rfl

lemma Handshake.settled (h : Handshake c x c') (hc : c.Settled) (hx : ∀ a ∈ x, Harmless a) : c'.Settled := by
  cases h with
  | badProtocol hg => exact hg.settled hc
  | login s _ hl => exact hl.settled fun a ha => hx a (List.mem_append_left _ ha)
  | oldAuth s _ hl => exact hl.settled fun a ha => hx a (List.mem_append_left _ ha)

/-- Only a handshake needs the connection settled before: every other packet settles it. -/
lemma Dispatch.settled (h : Dispatch t c x c') (hc : t = .handshake → c.Settled) (hx : ∀ a ∈ x, Harmless a) :
    c'.Settled := by
  cases h with
  | handshake h => exact h.settled (hc rfl) hx
  | handshakeSsl h => exact h.settled hx
  | response _ h => exact h.settled hx
  | prepareOk h => exact h.settled hx
  | definition _ _ h ht' =>
    have h := h.settled hx (by rintro rfl; revert ht'; decide)
    exact fun hs => (h hs).imp_left .inl
  | fault _ => exact absurd (hx _ (List.mem_singleton_self _)) id
  | row _ => exact fun _ => .inl (.inr (.inr (.inl rfl)))

lemma Commanded.settled (h : Commanded c x c') (hx : ∀ a ∈ x, Harmless a) : c'.Settled := by
  cases h with
  | sent _ _ _ => exact .of_ne_idle nofun
  | unanswered _ => exact .of_ne_idle nofun
  | failed _ => exact .afterFail hx (by decide)
  | compressed _ hs => exact .of_ne_idle hs

/-- Taking a packet that is no handshake from the queue, or a handshake, leaves the rest of what is waited for. -/
lemma Settled.pop {q : List PacketType} (hc : c.Settled) (hq : c.queue = t :: q) (ht : t = .handshake) :
    Settled { c with queue := q } := by
  intro hs
  rcases hc hs with h | ⟨u, hu, hne⟩
  · exact .inl h
  · rw [hq] at hu
    rcases List.mem_cons.mp hu with rfl | hu
    · exact absurd ht hne
    · exact .inr ⟨u, hu, hne⟩

lemma Settled.fail (hc : c.Settled) (site : FailSite) (h : Harmless (.failed site c.status c.serverErrno)) :
    (c.afterFail site).Settled := by
  by_cases hs : c.status = .idle
  · rw [hs] at h
    rcases h with h | h | rfl | rfl
    · exact .of_errno h
    · exact .of_ne_idle (status_afterFail_ne_idle (.inr h))
    · exact hc
    · exact hc
  · exact .of_ne_idle (status_afterFail_ne_idle (.inl hs))

/-- **Every move of harmless actions keeps a connection settled.** -/
theorem Move.settled (h : Move c x c') (hc : c.Settled) (hx : ∀ a ∈ x, Harmless a) : c'.Settled := by
  cases h with
  | quiet _ => exact hc
  | fail site => exact hc.fail site (hx _ (List.mem_singleton_self _))
  | start _ _ => exact .of_ne_idle nofun
  | connected _ hp =>
    cases hp with
    | pushed _ _ =>
      intro hs
      refine (hc hs).imp_right ?_
      rintro ⟨u, hu, hne⟩
      exact ⟨u, List.mem_cons_of_mem _ hu, hne⟩
    | refused _ => exact hc
    | fault _ _ => exact hc
  | drained _ => exact .of_eof rfl
  | lost _ => exact .of_ne_idle nofun
  | packet _ hq h => exact h.settled (fun ht => hc.pop hq ht) fun a ha => hx a (List.mem_append_left _ ha)
  | command _ _ h => exact h.settled fun a ha => hx a (List.mem_append_left _ ha)
  | request hp =>
    have h := hp.settled (fun a ha => hx a (List.mem_append_left _ ha)) (by decide)
    exact fun hs => (h hs).imp_left .inl
  | nextResult _ _ => exact .of_ne_idle nofun
  | pollEof => exact .of_eof rfl
  | keep _ _ hp =>
    have h := hp.settled (fun a ha => hx a (List.mem_append_left _ ha)) (by decide)
    exact fun hs => (h hs).imp_left .inl
  | aux _ => exact hc

end Control

/-! ### The polls of a run -/

/-- The IDLE case of a poll has an answer for the connection, if that is idle. -/
def IdleAnswered (con : Con) : Prop := con.status = .idle → con.control.Answerable

/-- Nothing is expected by an idle connection. -/
def IdleDrained (con : Con) : Prop := con.status = .idle → con.nextPacketQueue = []

instance : DecidablePred IdleAnswered := fun con => by
  unfold IdleAnswered Control.Answerable
  infer_instance

instance : DecidablePred IdleDrained := fun con => by
  unfold IdleDrained
  infer_instance

lemma Control.Settled.answered {con : Con} (h : con.control.Settled) (hd : IdleDrained con) : IdleAnswered con := by
  intro hs
  refine (h hs).resolve_right ?_
  rintro ⟨t, ht, -⟩
  rw [show con.control.queue = [] from hd hs] at ht
  cases ht

/-- **When the polls of a run are answered**: in every run from a fresh connection whose actions are harmless, and in
which no poll finds an idle connection that still expects a packet, every poll that finds an idle connection has an
answer for it. -/
theorem idle_polls_answered {con : Con} {es : List SysEvent} (h : Initial con)
    (hx : ∀ a ∈ (run sysStep con es).trace, Control.Harmless a)
    (hd : Along sysStep (PollSees IdleDrained) con es) : Along sysStep (PollSees IdleAnswered) con es := by
  have hI : con.control.Settled := by
    cases h
    exact .of_ne_idle nofun
  have hs := along_pollSees (I := fun c _ => c.Settled) (fun hc hm hok => hm.settled hc hok) hI hx
  refine (hs.and hd).imp fun con e he => ?_
  cases e with
  | poll s => exact he.1.answered he.2
  | net _ _ => trivial
  | call _ _ => trivial

/-- A result that arrives in one read is walked through with polls that are all answered. -/
theorem idle_polls_answered_one_read :
    Along sysStep (PollSees IdleAnswered) (.calm 0) (connectAndQuery 2 ++ [
      .poll (.calm [.wrote none, .read 65536 (resultHead ++ frame 4 [1, 0x78] ++ eofPacket 5 2)]),
      .call (.calm []) .queryRowNext,
      .poll (.calm [])]) :=
  idle_polls_answered (Con.calm_initial 0) (by decide +kernel) (by decide +kernel)

/-- The row that was asked for is still on its way when the connection is polled: the poll falls through to
`assert(0)`, and would report the end of the result.  Nothing has failed in the run. -/
theorem idle_poll_falls_through :
    ∃ con es, Initial con ∧ (∀ a ∈ (run sysStep con es).trace, Control.Harmless a) ∧
      ¬ Along sysStep (PollSees IdleAnswered) con es ∧ .assertZero ∈ (run sysStep con es).trace ∧
      (run sysStep con es).answer (.calm []) = .eof :=
  ⟨.calm 0, connectAndQuery 2 ++ [
      .poll (.calm [.wrote none, .read 65536 (resultHead ++ frame 4 [1, 0x78])]),
      .call (.calm []) .queryRowNext,
      .poll (.calm [])],
    Con.calm_initial 0, by decide +kernel, by decide +kernel, by decide +kernel, by decide +kernel⟩

end LibAttachSql
