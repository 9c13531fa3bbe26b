import LibAttachSql.Authentication

/-!
# Errors of commands and errors of the connection

An ERR packet makes the connection fail when the command status says that a response is read, which the login sets, but
a further result and a compressed command set as well.  This module reads off the history of a connection what the server
was asked for last, and with it how an ERR packet is taken.
-/

namespace LibAttachSql

open Lib

/-! ### What was asked for -/

/-- What a connection has asked the server for. -/
inductive Asked where
  /-- To accept the login: the handshake was answered, and nothing of that failed. -/
  | login
  /-- For a further result. -/
  | further
  /-- To run a command that is begun, but not taken for sent: a compressed one on a connection that is not idle. -/
  | unsent
  /-- To run a command that was sent, to go on with a result, or for nothing. -/
  | served
  /-- It cannot be said: a null pointer was followed, or the login or a command broke off. -/
  | unclear
  deriving DecidableEq

/-- What was asked for, after a failure. -/
def Asked.afterFail (s : Asked) (site : FailSite) : Asked :=
  if site.commandStatus.isSome then if s = .served ∨ s = .further then .served else .unclear
  else if site = .badProtocol ∨ site = .badScramble then .unclear
  else s

/-- What was asked for last in a history. -/
def asked : List Action → Asked
  | [] => .served
  | a :: x =>
    match a with
    | .packet .handshake _ _ | .packet .handshakeSsl _ _ => .login
    | .nextResult _ => .further
    | .command _ _ => .unsent
    | .sent _ | .rowRequested | .answered _ _ _ | .drained _ | .eofReported _ => .served
    | .packet .response _ _ | .packet .prepareResponse _ _ | .packet .row _ _ | .packet .stmtRow _ _ => .served
    | .failed site _ _ => (asked x).afterFail site
    | .fault => .unclear
    | _ => asked x

/-- An ERR packet comes when it is expected: before the login is accepted not in place of the handshake, but in answer to
the login or to what a further result was asked of, and afterwards in answer to a command that was sent or in a result. -/
def ErrorInPlace : Action → List Action → Prop
  | .answered (.err _) _ _, .packet t _ _ :: x =>
    t ≠ .handshake ∧ if Authenticated x then asked x = .served else asked x = .login ∨ asked x = .further
  | _, _ => True

/-- An ERR packet makes the connection fail exactly before the login is accepted.  The reader of ERR packets sets the
status CONNECT_FAILED when the command status is that of a response. -/
def ErrorRight : Action → List Action → Prop
  | .answered (.err _) _ commandStatus, x => commandStatus = .readResponse ↔ ¬ Authenticated x
  | _, _ => True

instance (a : Action) (x : List Action) : Decidable (ErrorInPlace a x) := by
  unfold ErrorInPlace
  split <;> infer_instance

instance (a : Action) (x : List Action) : Decidable (ErrorRight a x) := by
  unfold ErrorRight
  split <;> infer_instance

/-- When the reader of ERR packets makes the connection fail, and what it records of it. -/
lemma packetReadErr_connectFailed (con : Con) :
    ((packetReadErr con).status = .connectFailed ↔ con.commandStatus = .readResponse) ∧
      (packetReadErr con).trace =
        .answered (.err (packetReadErr con).serverErrno) con.status con.commandStatus :: con.trace := by
  refine ⟨?_, packetReadErr_trace con⟩
  have hstatus : (packetReadErr con).status =
      if con.commandStatus = CommandStatus.readResponse then .connectFailed else .idle := rfl
  rw [hstatus]
  split_ifs with h
  · exact iff_of_true rfl h
  · exact iff_of_false nofun h

/-! ### Actions that ask for nothing -/

variable {x y : List Action}

/-- A failure that sets the command status. -/
lemma Asked.afterFail_stops {site : FailSite} (h : site.commandStatus.isSome = true) (s : Asked) :
    s.afterFail site = .served ∨ s.afterFail site = .unclear := by
  unfold Asked.afterFail
  rw [if_pos h]
  split_ifs
  · exact .inl rfl
  · exact .inr rfl

/-- A failure that leaves the command status. -/
lemma Asked.afterFail_goes {site : FailSite} (h : site.commandStatus.isSome = false) (s : Asked) :
    s.afterFail site = s ∨ s.afterFail site = .unclear := by
  unfold Asked.afterFail
  rw [if_neg (Bool.eq_false_iff.mp h)]
  split_ifs
  · exact .inr rfl
  · exact .inl rfl

/-- A failure while something is asked for that is not served. -/
lemma Asked.afterFail_of_ne {s : Asked} (hs : s ≠ .served ∧ s ≠ .further) {site : FailSite}
    (h : site.commandStatus.isSome = true) : s.afterFail site = .unclear := by
  unfold Asked.afterFail
  rw [if_pos h, if_neg fun hcase => hcase.elim hs.1 hs.2]

/-- What one more neutral action makes of what was asked for, when that is not served. -/
lemma asked_neutral {a : Action} (ha : a.Neutral = true) (hx : asked x ≠ .served ∧ asked x ≠ .further) :
    asked (a :: x) = asked x ∧ a.stops = false ∨ asked (a :: x) = .unclear := by
  cases a with
  | failed site s n =>
    cases hstops : site.commandStatus.isSome with
    | true => exact .inr (Asked.afterFail_of_ne hx hstops)
    | false => exact (Asked.afterFail_goes hstops (asked x)).imp_left fun h => ⟨h, hstops⟩
  | fault => exact .inr rfl
  | write _ | encrypted _ | sslBuffered _ | compressedPacket _ | checked _ _ _ _ | received _ | reported _ | expanded _
  | assertZero => exact .inl ⟨rfl, rfl⟩
  | _ => cases ha

/-- Neutral actions after the login or a command was begun: it stays so, without a failure that ends it, or it cannot be
said. -/
lemma asked_neutrals (hy : ∀ a ∈ y, a.Neutral = true) (hx : asked x ≠ .served ∧ asked x ≠ .further) :
    asked (y ++ x) = asked x ∧ (∀ a ∈ y, a.stops = false) ∨ asked (y ++ x) = .unclear := by
  induction y with
  | nil => exact .inl ⟨rfl, nofun⟩
  | cons a y ih =>
    have ha := hy a (List.mem_cons_self ..)
    rcases ih fun b hb => hy b (List.mem_cons_of_mem _ hb) with ⟨hsame, hstops⟩ | hunclear
    · refine (asked_neutral ha (hsame.symm ▸ hx)).imp_left fun h => ⟨h.1.trans hsame, ?_⟩
      exact List.forall_mem_cons.mpr ⟨h.2, hstops⟩
    · refine .inr ((asked_neutral ha (hunclear.symm ▸ ⟨nofun, nofun⟩)).elim (fun h => h.1.trans hunclear) id)

namespace Control

/-! ### What was asked for and the command status -/

/-- The command status is that of a response when the login or a further result was asked for, and is not when a command
was sent or a result goes on. -/
structure Classified (c : Control) (x : List Action) : Prop where
  served : asked x = .served → c.commandStatus ≠ .readResponse
  login : asked x = .login → c.commandStatus = .readResponse
  further : asked x = .further → c.commandStatus = .readResponse

variable {c c' : Control} {t : PacketType}

namespace Classified

lemma of_unclear (h : asked x = .unsent ∨ asked x = .unclear) : c.Classified x := by
  constructor <;> intro he <;> rw [he] at h <;> rcases h with h | h <;> cases h

lemma of_served (hc : c.commandStatus ≠ .readResponse) (h : asked x = .served ∨ asked x = .unclear) :
    c.Classified x where
  served _ := hc
  login he := by
    rw [he] at h
    rcases h with h | h <;> cases h
  further he := by
    rw [he] at h
    rcases h with h | h <;> cases h

lemma of_awaited (hc : c.commandStatus = .readResponse) (h : asked x ≠ .served) : c.Classified x :=
  ⟨fun he => absurd he h, fun _ => hc, fun _ => hc⟩

/-- What asks for nothing and leaves the command status. -/
lemma same (h : c.Classified x) (hc : c'.commandStatus = c.commandStatus)
    (hx : asked (y ++ x) = asked x ∨ asked (y ++ x) = .unclear) : c'.Classified (y ++ x) := by
  rcases hx with hx | hx
  · constructor <;> rw [hx, hc]
    · exact h.served
    · exact h.login
    · exact h.further
  · exact of_unclear (.inr hx)

lemma fail (h : c.Classified x) (site : FailSite) (s : ConStatus) (n : ℕ) :
    (c.afterFail site).Classified (.failed site s n :: x) := by
  have hsite : ∀ s, site.commandStatus = some s → s ≠ .readResponse := by cases site <;> decide
  cases hstops : site.commandStatus with
  | none =>
    have hgoes := @Asked.afterFail_goes site (by rw [hstops]; rfl) (asked x)
    refine h.same (y := [_]) ?_ hgoes
    unfold afterFail
    rw [hstops]
    rfl
  | some s =>
    refine of_served ?_ (Asked.afterFail_stops (by rw [hstops]; rfl) (asked x))
    unfold afterFail
    rw [hstops]
    exact hsite s hstops

end Classified

lemma Pushed.asked (h : Pushed t c y c') (x : List Action) : asked (y ++ x) = asked x ∨ asked (y ++ x) = .unclear := by
  cases h with
  | pushed _ _ => exact .inl rfl
  | refused _ => exact Asked.afterFail_goes rfl (LibAttachSql.asked x)
  | fault _ _ => exact .inr rfl

lemma Pushed.commandStatus (h : Pushed t c y c') : c'.commandStatus = c.commandStatus := by
  cases h <;> rfl

lemma Pushed.classified (h : Pushed t c y c') (hc : c.Classified x) : c'.Classified (y ++ x) :=
  hc.same h.commandStatus (h.asked x)

/-- A push after which another command status is set. -/
lemma Pushed.served (h : Pushed t c y c') (hx : LibAttachSql.asked x = .served) {c₁ : Control}
    (hc : c₁.commandStatus ≠ .readResponse) : c₁.Classified (y ++ x) :=
  .of_served hc ((h.asked x).imp_left (·.trans hx))

lemma Quiet.classified {a : Action} (h : Quiet c a) (hc : c.Classified x) : c.Classified (a :: x) := by
  cases h with
  | fault => exact .of_unclear (.inr rfl)
  | _ => exact hc.same (y := [_]) rfl (.inl rfl)

/-- Reading a response, whatever it is, serves what was asked for. -/
lemma Response.classified (h : Response c y c') (hx : asked x = .served) : c'.Classified (y ++ x) := by
  cases h with
  | ok s =>
    refine .of_served ?_ (.inl rfl)
    dsimp only
    split_ifs <;> decide
  | err n => exact .of_served (fun h : CommandStatus.eof = .readResponse => nomatch h) (.inl rfl)
  | columnsEnd s _ hp =>
    rw [List.append_assoc]
    exact hp.served (x := .reported s :: x) hx (by rw [hp.commandStatus]; exact nofun)
  | paramsEnd s _ hp =>
    rw [List.append_assoc]
    exact hp.served (x := .reported s :: x) hx (by rw [hp.commandStatus]; exact nofun)
  | finish s _ => exact .of_served (fun h : CommandStatus.eof = .readResponse => nomatch h) (.inl rfl)
  | fault s => exact .of_unclear (.inr rfl)
  | header _ hp => exact hp.served hx (fun h : CommandStatus.readColumn = .readResponse => nomatch h)

lemma PrepareOk.classified (h : PrepareOk c y c') (hx : asked x = .served) : c'.Classified (y ++ x) := by
  cases h with
  | params hp => exact hp.served hx (fun h : CommandStatus.readStmtParam = .readResponse => nomatch h)
  | columns hp => exact hp.served hx (fun h : CommandStatus.readStmtColumn = .readResponse => nomatch h)
  | finish => exact .of_served (fun h : CommandStatus.eof = .readResponse => nomatch h) (.inl rfl)

/-- A handshake response that is sent waits for the answer to the login. -/
lemma Login.classified (h : Login c y c') (hx : asked x = .login) : c'.Classified (y ++ x) := by
  have hne : asked x ≠ .served ∧ asked x ≠ .further := by
    rw [hx]
    exact ⟨nofun, nofun⟩
  have hneutral := h.kept.neutral
  cases h with
  | refused => exact .of_unclear (.inr (Asked.afterFail_of_ne hne rfl))
  | fault _ => exact .of_unclear (.inr rfl)
  | scramble _ => exact .of_unclear (.inr rfl)
  | @sent z w c₁ _ _ hp hw =>
    rcases asked_neutrals hneutral hne with ⟨hsame, hstops⟩ | hunclear
    · refine .of_awaited ?_ (hsame.symm ▸ hne.1)
      rw [hp.commandStatus]
      refine hw.resolve_right fun ⟨a, ha, hs⟩ => ?_
      rw [hstops a (List.mem_append_right w ha)] at hs
      cases hs
    · exact .of_unclear (.inr hunclear)

/-- What a packet leaves asked for, when it is no ERR packet in place of the handshake. -/
lemma Dispatch.classified (h : Dispatch t c y c') {payload : List UInt8} {s : ConStatus} (hc : c.Classified x)
    (ho : Chronicle ErrorInPlace (y ++ .packet t payload s :: x)) : c'.Classified (y ++ .packet t payload s :: x) := by
  cases h with
  | handshake h =>
    cases h with
    | badProtocol _ => exact .of_unclear (.inr rfl)
    | login _ hg hl =>
      rw [List.append_assoc] at ho ⊢
      cases hg with
      | plain => exact hl.classified rfl
      | rejected n => exact absurd rfl ho.suffix.2.1.1
    | oldAuth _ hg hl =>
      rw [List.append_assoc] at ho ⊢
      cases hg with
      | plain => exact hl.classified rfl
      | rejected n => exact absurd rfl ho.suffix.2.2.1.1
  | handshakeSsl h => exact h.classified rfl
  | response ht h =>
    refine h.classified ?_
    simp only [List.mem_cons, List.not_mem_nil, or_false] at ht
    rcases ht with rfl | rfl | rfl | rfl <;> rfl
  | prepareOk h => exact h.classified rfl
  | definition ht _ h _ =>
    refine h.classified (hc.same (y := [_]) rfl (.inl ?_))
    simp only [List.mem_cons, List.not_mem_nil, or_false] at ht
    rcases ht with rfl | rfl | rfl <;> rfl
  | fault _ => exact .of_unclear (.inr rfl)
  | row _ => exact .of_served (fun h : CommandStatus.rowInBuffer = .readResponse => nomatch h) (.inl rfl)

lemma Commanded.classified (h : Commanded c y c') (hx : asked x = .unsent) : c'.Classified (y ++ x) := by
  have hne : asked x ≠ .served ∧ asked x ≠ .further := by
    rw [hx]
    exact ⟨nofun, nofun⟩
  have hsend : CommandStatus.send ≠ .readResponse := nofun
  cases h with
  | sent _ _ _ => exact .of_served hsend (.inl rfl)
  | unanswered _ => exact .of_served hsend (.inl rfl)
  | @failed z _ h =>
    refine .of_unclear (.inr ?_)
    have hz : asked (z ++ x) ≠ .served ∧ asked (z ++ x) ≠ .further := by
      rcases asked_neutrals (Kept.path SendMove.kept h).neutral hne with ⟨hsame, -⟩ | hunclear
      · rw [hsame]
        exact hne
      · rw [hunclear]
        exact ⟨nofun, nofun⟩
    exact Asked.afterFail_of_ne hz rfl
  | compressed h _ =>
    exact .of_unclear ((asked_neutrals (Kept.path SendMove.kept h).neutral hne).imp_left fun hsame => hsame.1.trans hx)

lemma AuxMove.classified {a : Aux} (h : AuxMove c y a) (hc : c.Classified x) :
    Classified { c with aux := a } (y ++ x) := by
  cases h with
  | keepFault _ _ => exact .of_unclear (.inr rfl)
  | _ => exact hc.same rfl (.inl rfl)

/-- **Every move keeps the command status that of what was asked for**, as long as ERR packets come in their place. -/
theorem Move.classified (h : Move c y c') (hc : c.Classified x) (ho : Chronicle ErrorInPlace (y ++ x)) :
    c'.Classified (y ++ x) := by
  cases h with
  | quiet h => exact h.classified hc
  | fail site => exact hc.fail site _ _
  | start _ _ => exact hc.same (y := []) rfl (.inl rfl)
  | connected _ hp => exact hc.same hp.commandStatus (hp.asked x)
  | drained _ => exact .of_served (fun h : CommandStatus.eof = .readResponse => nomatch h) (.inl rfl)
  | lost _ => exact hc.fail .writeCallback _ _
  | packet payload _ h =>
    rw [List.append_assoc] at ho ⊢
    exact h.classified (c := { c with queue := _ }) ⟨hc.served, hc.login, hc.further⟩ ho
  | command cmd tls h =>
    rw [List.append_assoc]
    exact h.classified rfl
  | request hp =>
    rw [List.append_assoc]
    exact hp.served (x := .rowRequested :: x) rfl (fun h : CommandStatus.readRow = .readResponse => nomatch h)
  | nextResult _ hp =>
    rw [List.append_assoc]
    refine .of_awaited rfl ?_
    rcases hp.asked (.nextResult c.status :: x) with h | h <;> exact fun he => nomatch h.symm.trans he
  | pollEof => exact .of_served (fun h : CommandStatus.eof = .readResponse => nomatch h) (.inl rfl)
  | keep _ _ hp =>
    rw [List.append_assoc]
    exact hp.served (x := .rowRequested :: .rowKept :: x) rfl
      (fun h : CommandStatus.readRow = .readResponse => nomatch h)
  | aux h => exact h.classified hc

/-! ### ERR packets -/

/-- Neutral actions are no ERR packets. -/
lemma errorRight_neutral (hy : ∀ a ∈ y, a.Neutral = true) (h : Chronicle ErrorRight x) : Chronicle ErrorRight (y ++ x) := by
  refine h.append fun a ha x => ?_
  have hneutral := hy a ha
  cases a with
  | answered _ _ _ => cases hneutral
  | _ => trivial

/-- An ERR packet in its place is taken for what it is. -/
lemma Classified.errorRight (hc : c.Classified x) {n : ℕ} {s s' : ConStatus} {payload : List UInt8}
    (ho : ErrorInPlace (.answered (.err n) s c.commandStatus) (.packet t payload s' :: x)) :
    ErrorRight (.answered (.err n) s c.commandStatus) (.packet t payload s' :: x) := by
  obtain ⟨-, ho⟩ := ho
  show c.commandStatus = .readResponse ↔ ¬ Authenticated x
  split_ifs at ho with ha
  · exact iff_of_false (hc.served ho) (not_not.mpr ha)
  · exact iff_of_true (ho.elim hc.login hc.further) ha

lemma Dispatch.errorRight (h : Dispatch t c y c') {payload : List UInt8} {s : ConStatus} (hc : c.Classified x)
    (ho : Chronicle ErrorInPlace (y ++ .packet t payload s :: x)) (hr : Chronicle ErrorRight x) :
    Chronicle ErrorRight (y ++ .packet t payload s :: x) := by
  have hpacket : Chronicle ErrorRight (.packet t payload s :: x) := ⟨trivial, hr⟩
  cases h with
  | handshake h =>
    cases h with
    | badProtocol hg =>
      cases hg with
      | plain => exact ⟨trivial, hpacket⟩
      | rejected n => exact absurd rfl ho.2.1.1
    | login _ hg hl =>
      rw [List.append_assoc] at ho ⊢
      cases hg with
      | plain => exact errorRight_neutral hl.kept.neutral ⟨trivial, hpacket⟩
      | rejected n => exact absurd rfl ho.suffix.2.1.1
    | oldAuth _ hg hl =>
      rw [List.append_assoc] at ho ⊢
      cases hg with
      | plain => exact errorRight_neutral hl.kept.neutral ⟨trivial, trivial, hpacket⟩
      | rejected n => exact absurd rfl ho.suffix.2.2.1.1
  | handshakeSsl h => exact errorRight_neutral h.kept.neutral hpacket
  | response _ h =>
    cases h with
    | ok _ => exact ⟨trivial, trivial, hpacket⟩
    | err n => exact ⟨hc.errorRight ho.1, hpacket⟩
    | columnsEnd _ _ hp =>
      rw [List.append_assoc]
      exact errorRight_neutral hp.kept.neutral ⟨trivial, hpacket⟩
    | paramsEnd _ _ hp =>
      rw [List.append_assoc]
      exact errorRight_neutral hp.kept.neutral ⟨trivial, hpacket⟩
    | finish _ _ => exact ⟨trivial, trivial, hpacket⟩
    | fault _ => exact ⟨trivial, trivial, hpacket⟩
    | header _ hp => exact errorRight_neutral hp.kept.neutral hpacket
  | prepareOk h =>
    cases h with
    | params hp => exact errorRight_neutral hp.kept.neutral hpacket
    | columns hp => exact errorRight_neutral hp.kept.neutral hpacket
    | finish => exact ⟨trivial, hpacket⟩
  | definition _ _ hp _ => exact errorRight_neutral hp.kept.neutral hpacket
  | fault _ => exact ⟨trivial, hpacket⟩
  | row _ => exact ⟨trivial, hpacket⟩

/-- **Every move takes ERR packets that come in their place for what they are.** -/
theorem Move.errorRight (h : Move c y c') (hc : c.Classified x) (ho : Chronicle ErrorInPlace (y ++ x))
    (hr : Chronicle ErrorRight x) : Chronicle ErrorRight (y ++ x) := by
  cases h with
  | quiet h => exact errorRight_neutral h.kept.neutral hr
  | fail _ => exact ⟨trivial, hr⟩
  | start _ _ => exact hr
  | connected _ hp => exact errorRight_neutral hp.kept.neutral hr
  | drained _ => exact ⟨trivial, hr⟩
  | lost _ => exact ⟨trivial, hr⟩
  | packet payload _ h =>
    rw [List.append_assoc] at ho ⊢
    exact h.errorRight (c := { c with queue := _ }) ⟨hc.served, hc.login, hc.further⟩ ho hr
  | command cmd tls h =>
    rw [List.append_assoc]
    have hr' : Chronicle ErrorRight ([.onStream c.aux.stream tls, .command cmd c.status] ++ x) := ⟨trivial, trivial, hr⟩
    refine hr'.append fun a ha z => ?_
    rcases h.sends.neutral a ha with hneutral | ⟨s, rfl⟩
    · cases a with
      | answered _ _ _ => cases hneutral
      | _ => trivial
    · trivial
  | request hp =>
    rw [List.append_assoc]
    exact errorRight_neutral hp.kept.neutral ⟨trivial, hr⟩
  | nextResult _ hp =>
    rw [List.append_assoc]
    exact errorRight_neutral hp.kept.neutral ⟨trivial, hr⟩
  | pollEof => exact ⟨trivial, hr⟩
  | keep _ _ hp =>
    rw [List.append_assoc]
    exact errorRight_neutral hp.kept.neutral ⟨trivial, trivial, hr⟩
  | aux h =>
    cases h with
    | callback _ _ _ _ _ => exact ⟨trivial, hr⟩
    | begin _ => exact ⟨trivial, hr⟩
    | rowNext => exact ⟨trivial, hr⟩
    | close _ _ => exact ⟨trivial, hr⟩
    | grow _ => exact ⟨trivial, hr⟩
    | keepFault _ _ => exact ⟨trivial, trivial, hr⟩
    | _ => exact hr

end Control

/-- **When a command error is told from a connection failure**: in every run from a fresh connection in which ERR packets
come in their place, an ERR packet makes the connection fail exactly when the login is not accepted yet. -/
theorem command_errors_apart {con : Con} (h : Initial con) (es : List SysEvent)
    (ho : Chronicle ErrorInPlace (run sysStep con es).trace) :
    Chronicle ErrorRight (run sysStep con es).trace ∧
      ∀ con : Con, ((packetReadErr con).status = .connectFailed ↔ con.commandStatus = .readResponse) ∧
        (packetReadErr con).trace =
          .answered (.err (packetReadErr con).serverErrno) con.status con.commandStatus :: con.trace := by
  have hI : Chronicle ErrorInPlace con.trace → con.control.Classified con.trace ∧ Chronicle ErrorRight con.trace := by
    cases h
    exact fun _ => ⟨⟨fun _ => nofun, nofun, nofun⟩, trivial⟩
  have hrun := run_invariant_moves
    (I := fun c x => Chronicle ErrorInPlace x → c.Classified x ∧ Chronicle ErrorRight x)
    (fun hg hm ho => ⟨hm.classified (hg ho.suffix).1 ho, hm.errorRight (hg ho.suffix).1 ho (hg ho.suffix).2⟩) hI es
  exact ⟨(hrun ho).2, packetReadErr_connectFailed⟩

/-- A login and a query, the one accepted and the other answered by an error. -/
theorem command_errors_apart_query :
    Chronicle ErrorRight (run sysStep (.calm 0) (connectAndQuery 2 ++
        [.poll (.calm [.wrote none, .read 65536 (errPacket 1)])])).trace ∧
      ∀ con : Con, ((packetReadErr con).status = .connectFailed ↔ con.commandStatus = .readResponse) ∧
        (packetReadErr con).trace =
          .answered (.err (packetReadErr con).serverErrno) con.status con.commandStatus :: con.trace :=
  command_errors_apart (Con.calm_initial 0) _ (by decide +kernel)

/-- A server that answers a first statement with OK, and the second one of the same query with an error, makes the
connection fail; a server that refuses the connection with an ERR packet in place of the handshake does not. -/
theorem command_errors_confused :
    ∃ con es es', Initial con ∧
      (¬ Chronicle ErrorRight (run sysStep con es).trace ∧ Authenticated (run sysStep con es).trace ∧
        (run sysStep con es).status = .connectFailed) ∧
      ¬ Chronicle ErrorRight (run sysStep con es').trace ∧ ¬ Authenticated (run sysStep con es').trace ∧
        (run sysStep con es').status ≠ .connectFailed :=
  ⟨.calm 0,
    connectAndQuery 2 ++ [
      .poll (.calm [.wrote none, .read 65536 (okPacket 1 10)]),
      .call (.calm []) .queryNextResult,
      .poll (.calm [.read 65536 (errPacket 2)])],
    [.call (.calm [.resolved none, .connected none]) .connect, .poll (.calm [.read 65536 (errPacket 0)])],
    Con.calm_initial 0, by decide +kernel, by decide +kernel, by decide +kernel, by decide +kernel⟩

end LibAttachSql
