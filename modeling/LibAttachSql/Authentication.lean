import LibAttachSql.Outcomes
import LibAttachSql.System

/-!
# Commands before the login is accepted

`attachsql_query` and `attachsql_statement_prepare` look only at whether the connection is not connected, and the other
commands not even at that, so that a command can be sent while a connection is still being made, or after that failed.
A command that is sent on an idle or a busy connection follows the OK packet that accepts the login, as long as nothing
else has made the connection idle or busy before.
-/

namespace LibAttachSql

open Lib

/-- The OK packet that accepts the login: it is read while the connection is being made. -/
def Action.accepts : Action → Bool
  | .answered .ok .connecting _ => true
  | _ => false

/-- The server has accepted the login. -/
def Authenticated (x : List Action) : Prop := x.any Action.accepts = true

instance : DecidablePred Authenticated := fun x => inferInstanceAs (Decidable (x.any Action.accepts = true))

/-- Every command was sent after the server had accepted the login, on an idle or a busy connection, and on a stream
that is there. -/
def CommandsAuthenticated : List Action → Prop
  | [] => True
  | .command _ s :: x => (s = .idle ∨ s = .busy) ∧ Authenticated x ∧ CommandsAuthenticated x
  | .onStream stream _ :: x => stream = true ∧ CommandsAuthenticated x
  | _ :: x => CommandsAuthenticated x

/-- Commands are sent only on an idle or a busy connection.  Before the login is accepted no row and no further result
is asked for, every write is completed while an answer to it is expected, and the answer to the login is an OK packet,
or an ERR packet that is read as that answer. -/
def LoginFirst : List Action → Prop
  | [] => True
  | .command _ s :: x => (s = .idle ∨ s = .busy) ∧ LoginFirst x
  | .rowRequested :: x => Authenticated x ∧ LoginFirst x
  | .nextResult _ :: x => Authenticated x ∧ LoginFirst x
  | .drained _ :: x => Authenticated x ∧ LoginFirst x
  | .answered a s cs :: x =>
    (Authenticated x ∨ a = .ok ∧ s = .connecting ∨ a.isErr ∧ cs = .readResponse) ∧ LoginFirst x
  | _ :: x => LoginFirst x

instance : DecidablePred CommandsAuthenticated := fun x => by
  induction x with
  | nil => exact isTrue trivial
  | cons a x ih =>
    cases a with
    | command _ s => exact inferInstanceAs (Decidable ((s = .idle ∨ s = .busy) ∧ Authenticated x ∧ _))
    | onStream stream _ => exact inferInstanceAs (Decidable (stream = true ∧ _))
    | _ => exact ih

instance : DecidablePred LoginFirst := fun x => by
  induction x with
  | nil => exact isTrue trivial
  | cons a x ih =>
    cases a with
    | command _ s => exact inferInstanceAs (Decidable ((s = .idle ∨ s = .busy) ∧ _))
    | rowRequested => exact inferInstanceAs (Decidable (Authenticated x ∧ _))
    | nextResult _ => exact inferInstanceAs (Decidable (Authenticated x ∧ _))
    | drained _ => exact inferInstanceAs (Decidable (Authenticated x ∧ _))
    | answered a s cs =>
      exact inferInstanceAs
        (Decidable ((Authenticated x ∨ a = .ok ∧ s = .connecting ∨ a.isErr ∧ cs = .readResponse) ∧ _))
    | _ => exact ih

/-! ### Actions that do not matter -/

/-- Actions that neither send a command nor complete anything. -/
def Action.Aside : Action → Bool
  | .command _ _ | .onStream _ _ | .answered _ _ _ => false
  | _ => true

lemma Action.aside_of_neutral {a : Action} (h : a.Neutral = true) : a.Aside = true := by
  cases a <;> first | rfl | cases h

variable {x y : List Action}

lemma Authenticated.append (h : Authenticated x) (y : List Action) : Authenticated (y ++ x) := by
  unfold Authenticated at h ⊢
  rw [List.any_append, h, Bool.or_true]

lemma authenticated_aside (hy : ∀ a ∈ y, a.Aside = true) : Authenticated (y ++ x) ↔ Authenticated x := by
  refine ⟨fun h => ?_, fun h => h.append y⟩
  unfold Authenticated at h ⊢
  rw [List.any_append, Bool.or_eq_true] at h
  refine h.resolve_left fun hany => ?_
  obtain ⟨a, ha, hacc⟩ := List.any_eq_true.mp hany
  have haside := hy a ha
  cases a with
  | answered _ _ _ => cases haside
  | _ => cases hacc

lemma CommandsAuthenticated.aside (h : CommandsAuthenticated x) (hy : ∀ a ∈ y, a.Aside = true) :
    CommandsAuthenticated (y ++ x) := by
  induction y with
  | nil => exact h
  | cons a y ih =>
    have haside := hy a (List.mem_cons_self ..)
    have hrest := ih fun b hb => hy b (List.mem_cons_of_mem _ hb)
    cases a with
    | command _ _ => cases haside
    | onStream _ _ => cases haside
    | _ => exact hrest

lemma LoginFirst.suffix (h : LoginFirst (y ++ x)) : LoginFirst x := by
  induction y with
  | nil => exact h
  | cons a y ih =>
    cases a with
    | command _ _ => exact ih h.2
    | rowRequested => exact ih h.2
    | nextResult _ => exact ih h.2
    | drained _ => exact ih h.2
    | answered _ _ _ => exact ih h.2
    | _ => exact ih h

/-! ### The invariant -/

namespace Control

/-- Before the login is accepted the connection is neither idle nor busy, and without a stream nothing is expected. -/
structure Guarded (c : Control) (x : List Action) : Prop where
  commands : CommandsAuthenticated x
  status : ¬ Authenticated x → c.status ≠ .idle ∧ c.status ≠ .busy
  stream : c.aux.stream = false → ¬ Authenticated x ∧ c.queue = []

variable {c c' : Control} {t : PacketType} {k : ℕ}

namespace Guarded

/-- Once the login is accepted. -/
lemma after (hc : CommandsAuthenticated x) (ha : Authenticated x) (hs : c.aux.stream = true) : c.Guarded x :=
  ⟨hc, fun h => absurd ha h, fun h => absurd hs (Bool.eq_false_iff.mp h)⟩

lemma stream_of_authenticated (hg : c.Guarded x) (ha : Authenticated x) : c.aux.stream = true :=
  Bool.eq_true_of_not_eq_false fun hs => (hg.stream hs).1 ha

lemma stream_of_queue (hg : c.Guarded x) {q : List PacketType} (hq : c.queue = t :: q) : c.aux.stream = true := by
  refine Bool.eq_true_of_not_eq_false fun hs => ?_
  rw [(hg.stream hs).2] at hq
  cases hq

/-- What the library does once the login is accepted. -/
lemma requested (hg : c.Guarded x) (ha : Authenticated x) (hy : ∀ a ∈ y, a.Aside = true)
    (hs : c'.aux.stream = c.aux.stream) : c'.Guarded (y ++ x) :=
  .after (hg.commands.aside hy) (ha.append y) (hs.trans (hg.stream_of_authenticated ha))

lemma status_aside (hg : c.Guarded x) (hy : ∀ a ∈ y, a.Aside = true) (hs : c'.status = c.status ∨ c'.status.IsError)
    (ha : ¬ Authenticated (y ++ x)) : c'.status ≠ .idle ∧ c'.status ≠ .busy := by
  rw [authenticated_aside hy] at ha
  rcases hs with hs | hs
  · rw [hs]
    exact hg.status ha
  · constructor <;> rintro he <;> rw [he] at hs <;> revert hs <;> decide

/-- What leaves the status, or makes it an error, and the stream. -/
lemma aside (hg : c.Guarded x) (hy : ∀ a ∈ y, a.Aside = true) (hs : c'.status = c.status ∨ c'.status.IsError)
    (hstream : c'.aux.stream = c.aux.stream) (hq : c.aux.stream = true ∨ c'.queue.length ≤ c.queue.length) :
    c'.Guarded (y ++ x) where
  commands := hg.commands.aside hy
  status := hg.status_aside hy hs
  stream h := by
    rw [hstream] at h
    obtain ⟨ha, hnil⟩ := hg.stream h
    rw [authenticated_aside hy]
    refine ⟨ha, ?_⟩
    have hlen := hq.resolve_left (Bool.eq_false_iff.mp h)
    rw [hnil] at hlen
    exact List.length_eq_zero_iff.mp (Nat.le_zero.mp hlen)

lemma kept (hg : c.Guarded x) (h : Kept k c y c') (hk : c.aux.stream = true ∨ k = 0) : c'.Guarded (y ++ x) :=
  hg.aside (fun a ha => Action.aside_of_neutral (h.neutral a ha)) (h.status.imp_right And.left) (by rw [h.aux])
    (hk.imp_right fun h0 => h.queue.trans (by omega))

/-- A packet that completes something, once the stream is there. -/
lemma answered (hg : c.Guarded x) (hs : c.aux.stream = true) {a : Answer} (h : Answers c a c')
    (ho : LoginFirst (.answered a c.status c.commandStatus :: x)) :
    c'.Guarded (.answered a c.status c.commandStatus :: x) := by
  have hs' : c'.aux.stream = true := by cases h <;> exact hs
  rcases ho.1 with ha | ⟨rfl, hc⟩ | ⟨ha, hc⟩
  · exact .after hg.commands (ha.append [_]) hs'
  · refine .after hg.commands ?_ hs'
    rw [hc]
    rfl
  · refine ⟨hg.commands, fun _ => ?_, fun hf => absurd hs' (Bool.eq_false_iff.mp hf)⟩
    cases h with
    | err n =>
      have hfailed : (c.afterErr n).status = .connectFailed := if_pos hc
      rw [hfailed]
      exact ⟨nofun, nofun⟩
    | ok _ | eof _ | row => cases ha

end Guarded

lemma Reads.guarded (h : Reads t c y c') (hg : c.Guarded x) (hs : c.aux.stream = true) (ho : LoginFirst (y ++ x)) :
    c'.Guarded (y ++ x) := by
  cases h with
  | @answered a y c' hn h =>
    have hy : c.Guarded (y ++ x) :=
      hg.aside (fun b hb => Action.aside_of_neutral (hn b hb)) (.inl rfl) rfl (.inl hs)
    exact hy.answered hs h ho
  | waits h => exact hg.kept h (.inl hs)
  | @rejected n y c' _ h =>
    rw [List.append_assoc] at ho ⊢
    have hy : (c.afterErr n).Guarded ([.answered (.err n) c.status c.commandStatus] ++ x) :=
      hg.answered hs (.err n) ho.suffix
    exact hy.kept h (.inl hs)

lemma Sends.guarded (h : Sends c y c') (hg : c.Guarded x) (cmd : Command) (tls : Bool)
    (ho : c.status = .idle ∨ c.status = .busy) :
    c'.Guarded (y ++ [.onStream c.aux.stream tls, .command cmd c.status] ++ x) := by
  have ha : Authenticated x := by
    by_contra ha
    obtain ⟨hidle, hbusy⟩ := hg.status ha
    exact ho.elim hidle hbusy
  have hs := hg.stream_of_authenticated ha
  have hc : CommandsAuthenticated (.onStream c.aux.stream tls :: .command cmd c.status :: x) := ⟨hs, ho, ha, hg.commands⟩
  rw [List.append_assoc]
  refine .after (hc.aside fun a hmem => ?_) (ha.append [_, _] |>.append y) (by rw [h.aux]; exact hs)
  rcases h.neutral a hmem with hn | ⟨s, rfl⟩
  · exact Action.aside_of_neutral hn
  · rfl

/-- The actions of a request. -/
lemma aside_append {z : List Action} (h : Kept k c y c') (hz : ∀ a ∈ z, a.Aside = true) :
    ∀ a ∈ y ++ z, a.Aside = true :=
  fun a ha => (List.mem_append.mp ha).elim (fun ha => Action.aside_of_neutral (h.neutral a ha)) (hz a)

lemma AuxMove.guarded {a : Aux} (h : AuxMove c y a) (hg : c.Guarded x) : Guarded { c with aux := a } (y ++ x) := by
  refine hg.aside ?_ (.inl rfl) ?_ (.inr le_rfl)
  · intro b hb
    cases h <;> simp at hb <;> first | (subst hb; rfl) | (rcases hb with rfl | rfl <;> rfl)
  · cases h <;> rfl

/-- **Every move keeps the invariant**, as long as the login comes first. -/
theorem Move.guarded (h : Move c y c') (hg : c.Guarded x) (ho : LoginFirst (y ++ x)) : c'.Guarded (y ++ x) := by
  cases h with
  | quiet h => exact hg.kept h.kept (.inr rfl)
  | fail site => exact hg.kept (.fail site _ _) (.inr rfl)
  | start _ _ => exact ⟨hg.commands, fun _ => ⟨nofun, nofun⟩, hg.stream⟩
  | connected _ hp =>
    have hy := fun a ha => Action.aside_of_neutral (hp.kept.neutral a ha)
    exact ⟨hg.commands.aside hy, hg.status_aside hy (hp.kept.status.imp_right And.left), nofun⟩
  | drained _ =>
    have ha : Authenticated x := ho.1
    exact .after hg.commands (ha.append [_]) (hg.stream_of_authenticated ha)
  | lost _ => exact hg.kept (.fail .writeCallback _ _) (.inr rfl)
  | @packet _ _ t q payload hq h =>
    have hs := hg.stream_of_queue hq
    rw [List.append_assoc] at ho ⊢
    have hpop : Guarded { c with queue := q } ([.packet t payload c.status] ++ x) :=
      hg.aside (fun a ha => List.mem_singleton.mp ha ▸ rfl) (.inl rfl) rfl (.inl hs)
    exact h.reads.guarded hpop hs ho
  | command cmd tls h =>
    rw [List.append_assoc] at ho
    exact h.sends.guarded hg cmd tls ho.suffix.1
  | request hp =>
    rw [List.append_assoc] at ho
    exact hg.requested ho.suffix.1 (aside_append hp.kept (by decide)) (by rw [hp.kept.aux])
  | nextResult _ hp =>
    rw [List.append_assoc] at ho
    exact hg.requested ho.suffix.1 (aside_append hp.kept (by simp [Action.Aside])) (by rw [hp.kept.aux])
  | pollEof => exact hg.aside (fun a ha => List.mem_singleton.mp ha ▸ rfl) (.inl rfl) rfl (.inr le_rfl)
  | keep _ _ hp =>
    rw [List.append_assoc] at ho
    exact hg.requested ho.suffix.1 (aside_append hp.kept (by decide)) (by rw [hp.kept.aux]; rfl)
  | aux h => exact h.guarded hg

end Control

/-- **When commands are authenticated**: in every run from a fresh connection in which the login comes first, every
command is sent after the server has accepted the login, on an idle or a busy connection, and on a stream. -/
theorem commands_authenticated {con : Con} (h : Initial con) (es : List SysEvent)
    (ho : LoginFirst (run sysStep con es).trace) : CommandsAuthenticated (run sysStep con es).trace := by
  have hI : LoginFirst con.trace → con.control.Guarded con.trace := by
    cases h
    exact fun _ => ⟨trivial, fun _ => ⟨nofun, nofun⟩, fun _ => ⟨nofun, rfl⟩⟩
  have hrun := run_invariant_moves (I := fun c x => LoginFirst x → c.Guarded x)
    (fun hg hm ho => hm.guarded (hg ho.suffix) ho) hI es
  exact (hrun ho).commands

/-- A query that was asked for before the connection was made is sent when the login is accepted. -/
theorem commands_authenticated_deferred :
    CommandsAuthenticated (run sysStep (.calm 0) (connectAndQuery 2)).trace :=
  commands_authenticated (Con.calm_initial 0) _ (by decide +kernel)

/-- Two queries that come while the connection is being made: one is sent before there is a stream, the other one goes
out to the server in place of the handshake response. -/
theorem commands_unauthenticated :
    ∃ con es es', Initial con ∧
      ¬ CommandsAuthenticated (run sysStep con es).trace ∧
      .onStream false false ∈ (run sysStep con es).trace ∧ .sent .connecting ∈ (run sysStep con es).trace ∧
      ¬ CommandsAuthenticated (run sysStep con es').trace ∧
      .write [2, 0, 0, 0, 0x03, 0x53] ∈ (run sysStep con es').trace ∧ ¬ Authenticated (run sysStep con es').trace :=
  ⟨.calm 0,
    [.call (.calm []) .connect, .call (.calm []) (.query [0x53] [])],
    [.call (.calm [.resolved none, .connected none]) .connect, .call (.calm []) (.query [0x53] [])],
    Con.calm_initial 0, by decide +kernel, by decide +kernel, by decide +kernel, by decide +kernel,
    by decide +kernel, by decide +kernel⟩

end LibAttachSql
