import LibAttachSql.Control
import Mathlib.Logic.Relation

/-!
# What the moves come to

Most of what the library does leaves a connection waiting as it was: bytes are handed on, failures recorded, packets
expected.  `Kept` sums this up for all relations of control states at once.  What is left are the packets that complete
something: `Reads` says that a packet does so at most once, and what the connection is like then.
-/

namespace LibAttachSql

open Lib

/-- A command status for which a poll of an idle connection has an event. -/
def CommandStatus.IsEvent (s : CommandStatus) : Prop := s = .eof ∨ s = .rowInBuffer ∨ s = .connected

instance : DecidablePred CommandStatus.IsEvent := fun s => by
  unfold CommandStatus.IsEvent
  infer_instance

/-- Actions that neither ask for anything nor complete it, and are not seen by the application. -/
def Action.Neutral : Action → Bool
  | .write _ | .encrypted _ | .sslBuffered _ | .failed _ _ _ | .compressedPacket _ | .checked _ _ _ _ | .received _
  | .reported _ | .expanded _ | .assertZero | .fault => true
  | _ => false

/-- Actions that leave the connection in a status for which a poll answers with an error. -/
def Action.disconnects : Action → Bool
  | .failed site _ _ => site.status.isSome
  | .answered (.err _) _ commandStatus => commandStatus = .readResponse
  | _ => false

namespace Control

/-- What was waited for still is, and at most `k` packets more. -/
structure Kept (k : ℕ) (c : Control) (x : List Action) (c' : Control) : Prop where
  neutral : ∀ a ∈ x, a.Neutral = true
  status : c'.status = c.status ∨ c'.status.IsError ∧ x.any Action.disconnects = true
  commandStatus : c'.commandStatus = c.commandStatus ∨ ¬ c'.commandStatus.IsEvent
  serverErrno : c'.serverErrno = c.serverErrno
  expected : ∀ p : PacketType → Bool, c'.queue.countP p ≤ c.queue.countP p + k
  aux : c'.aux = { c.aux with own := c'.aux.own }
  own : Relation.ReflTransGen Own.Step c.aux.own c'.aux.own

variable {c c₁ c' : Control} {x y : List Action} {t : PacketType} {k l : ℕ}

namespace Kept

lemma refl : Kept 0 c [] c where
  neutral := nofun
  status := .inl rfl
  commandStatus := .inl rfl
  serverErrno := rfl
  expected _ := le_rfl
  aux := rfl
  own := .refl

lemma trans (h : Kept k c x c₁) (h' : Kept l c₁ y c') : Kept (k + l) c (y ++ x) c' where
  neutral a ha := (List.mem_append.mp ha).elim (h'.neutral a) (h.neutral a)
  status := by
    simp only [List.any_append, Bool.or_eq_true]
    rcases h'.status with he | ⟨he, hd⟩
    · rw [he]
      exact h.status.imp_right (And.imp_right .inr)
    · exact .inr ⟨he, .inl hd⟩
  commandStatus := h'.commandStatus.elim (fun he => he ▸ h.commandStatus) .inr
  serverErrno := h'.serverErrno.trans h.serverErrno
  expected p := by
    have := h.expected p
    have := h'.expected p
    omega
  aux := by rw [h'.aux, h.aux]
  own := h.own.trans h'.own

lemma mono (h : Kept k c x c') (hk : k ≤ l) : Kept l c x c' :=
  { h with expected := fun p => (h.expected p).trans (Nat.add_le_add_left hk _) }

/-- All packets together. -/
lemma queue (h : Kept k c x c') : c'.queue.length ≤ c.queue.length + k := by
  have hall := h.expected fun _ => true
  simpa only [List.countP_true] using hall

/-- A path of moves that expect nothing more. -/
lemma path {M : Control → List Action → Control → Prop} (hM : ∀ {c x c'}, M c x c' → Kept 0 c x c')
    (h : Path M c x c') : Kept 0 c x c' := by
  induction h with
  | refl => exact .refl
  | snoc _ hm ih => exact ih.trans (hM hm)

/-- An action on which nothing depends. -/
lemma action {a : Action} (ha : a.Neutral = true) : Kept 0 c [a] c :=
  { Kept.refl with
    neutral := fun _ hb => List.mem_singleton.mp hb ▸ ha
    status := .inl rfl }

/-- A wait that goes on with another command status. -/
lemma waiting {s : CommandStatus} (h : Kept k c x c') (hs : ¬ s.IsEvent) :
    Kept k c x { c' with commandStatus := s } :=
  { h with commandStatus := .inr hs }

end Kept

lemma afterFail_status (site : FailSite) :
    (c.afterFail site).status = c.status ∨ (c.afterFail site).status.IsError ∧ site.status.isSome = true := by
  have hsite : ∀ s, site.status = some s → s.IsError := by cases site <;> decide
  unfold afterFail
  cases hs : site.status with
  | none => exact .inl rfl
  | some s => exact .inr ⟨hsite s hs, rfl⟩

lemma afterFail_commandStatus (site : FailSite) :
    (c.afterFail site).commandStatus = c.commandStatus ∨ ¬ (c.afterFail site).commandStatus.IsEvent := by
  have hsite : ∀ s, site.commandStatus = some s → ¬ s.IsEvent := by cases site <;> decide
  unfold afterFail
  cases hs : site.commandStatus with
  | none => exact .inl rfl
  | some s => exact .inr (hsite s hs)

lemma Kept.fail (site : FailSite) (s : ConStatus) (n : ℕ) : Kept 0 c [.failed site s n] (c.afterFail site) where
  neutral a ha := List.mem_singleton.mp ha ▸ rfl
  status := (afterFail_status site).imp_right (And.imp_right fun h => by simpa [Action.disconnects] using h)
  commandStatus := afterFail_commandStatus site
  serverErrno := rfl
  expected p := by
    unfold afterFail
    dsimp only
    split_ifs <;> simp
  aux := rfl
  own := .refl

lemma Quiet.kept {a : Action} (h : Quiet c a) : Kept 0 c [a] c := by
  cases h <;> exact .action rfl

lemma SendMove.kept (h : SendMove c x c') : Kept 0 c x c' := by
  cases h with
  | quiet h => exact h.kept
  | fail site => exact .fail site _ _
  | await => exact Kept.refl.waiting (by decide)

lemma Pushed.kept (h : Pushed t c x c') : Kept 1 c x c' := by
  cases h with
  | pushed _ _ => exact { Kept.refl with expected := fun p => by rw [List.countP_cons]; split_ifs <;> omega }
  | refused _ => exact { Kept.fail .queueAlloc c.status c.serverErrno with expected := fun _ => Nat.le_succ _ }
  | fault _ _ => exact { Kept.action (a := .fault) rfl with expected := fun _ => Nat.le_succ _ }

lemma LoginMove.kept (h : LoginMove c x c') : Kept 0 c x c' := by
  cases h with
  | send h => exact h.kept
  | tls _ _ => exact { Kept.refl with expected := fun _ => le_rfl }
  | dequeue hq => exact { Kept.refl with expected := fun p => hq ▸ (List.sublist_cons_self _ _).countP_le }
  | refused h hq => exact { h.kept with expected := fun p => by simp [hq] }

lemma Login.kept (h : Login c x c') : Kept 1 c x c' := by
  cases h with
  | refused => exact (Kept.fail .sslRefused _ _).mono (Nat.zero_le 1)
  | fault h => exact ((Kept.path LoginMove.kept h).trans (.action rfl)).mono (Nat.zero_le 1)
  | scramble h => exact ((Kept.path LoginMove.kept h).trans (.fail .badScramble _ _)).mono (Nat.zero_le 1)
  | sent h hp => exact (Kept.path LoginMove.kept h).trans hp.kept

/-! ### Packets that complete something -/

/-- The control state after a packet that completes something. -/
inductive Answers (c : Control) : Answer → Control → Prop
  | ok (s : ℕ) :
    Answers c .ok
      { c with
        serverStatus := s
        commandStatus := if c.status = ConStatus.connecting then .connected else .eof
        status := .idle }
  | err (n : ℕ) : Answers c (.err n) (c.afterErr n)
  | eof (s : ℕ) : Answers c .eof { c with serverStatus := s, commandStatus := .eof, status := .idle }
  | row : Answers c .row { c with commandStatus := .rowInBuffer, status := .idle }

/-- What reading a packet comes to: it completes something, or leaves at most one more packet expected, or, in place of
a handshake, it is an ERR packet after which the login goes on. -/
inductive Reads (t : PacketType) (c : Control) : List Action → Control → Prop
  | answered {a : Answer} {y : List Action} {c' : Control} (hn : ∀ b ∈ y, b.Neutral = true) (h : Answers c a c') :
    Reads t c (.answered a c.status c.commandStatus :: y) c'
  | waits {y : List Action} {c' : Control} (h : Kept 1 c y c') : Reads t c y c'
  | rejected {n : ℕ} {y : List Action} {c' : Control} (ht : t = .handshake) (h : Kept 1 (c.afterErr n) y c') :
    Reads t c (y ++ [.answered (.err n) c.status c.commandStatus]) c'

/-- What comes after the status word was read. -/
lemma Kept.reported {s : ℕ} (h : Kept k { c with serverStatus := s } x c') : Kept k c (x ++ [.reported s]) c' := by
  have hs : Kept 0 c [.reported s] { c with serverStatus := s } :=
    { Kept.action (c := c) (a := .reported s) rfl with expected := fun _ => le_rfl }
  exact (hs.trans h).mono (Nat.zero_add k).le

/-- What comes after a command status was set for which a poll has no event. -/
lemma Kept.awaiting {s : CommandStatus} (hs : ¬ s.IsEvent) (h : Kept k { c with commandStatus := s } x c') :
    Kept k c x c' :=
  { h with
    commandStatus := by
      rcases h.commandStatus with he | he
      · exact .inr (he ▸ hs)
      · exact .inr he }

/-- What comes after a step of the heap objects. -/
lemma Kept.owning {o : Own} (ho : Relation.ReflTransGen Own.Step c.aux.own o) (h : Kept k { c with aux.own := o } x c') :
    Kept k c x c' :=
  { h with
    aux := h.aux.trans rfl
    own := ho.trans h.own }

lemma neutral_reported (s : ℕ) : ∀ a ∈ [Action.reported s], a.Neutral = true := by
  intro a ha
  rw [List.mem_singleton.mp ha]
  rfl

lemma Response.reads (h : Response c x c') : Reads t c x c' := by
  cases h with
  | ok s => exact .answered (neutral_reported s) (.ok s)
  | err n => exact .answered nofun (.err n)
  | columnsEnd s _ hp =>
    have hrow : Kept 1 { c with serverStatus := s, commandStatus := .readRow } _ c' := hp.kept
    exact .waits (Kept.reported (hrow.awaiting (c := { c with serverStatus := s }) (by decide)))
  | paramsEnd s _ hp =>
    have hcolumn : Kept 1 { c with serverStatus := s, commandStatus := .readStmtColumn } _ c' := hp.kept
    exact .waits (Kept.reported (hcolumn.awaiting (c := { c with serverStatus := s }) (by decide)))
  | finish s _ => exact .answered (neutral_reported s) (.eof s)
  | fault s =>
    have hfault : Kept 0 { c with serverStatus := s } [.fault] { c with serverStatus := s } := .action rfl
    exact .waits (Kept.reported (hfault.mono (Nat.zero_le 1)))
  | header _ hp => exact .waits ((hp.kept.owning (.single (.newResultColumns _))).waiting (by decide))

lemma PrepareOk.reads (h : PrepareOk c x c') : Reads t c x c' := by
  cases h with
  | params hp => exact .waits (hp.kept.waiting (by decide))
  | columns hp => exact .waits (hp.kept.waiting (by decide))
  | finish => exact .answered nofun (.eof c.serverStatus)

lemma Handshake.reads (h : Handshake c x c') : Reads .handshake c x c' := by
  have hlogin : ∀ {c₁ : Control} (s : ℕ) {y : List Action}, Login { c₁ with serverStatus := s } y c' →
      Kept 1 c₁ (y ++ [.reported s]) c' := fun s y hl => hl.kept.reported
  have hold : ∀ {c₁ : Control} (s : ℕ) {y : List Action}, Login ({ c₁ with serverStatus := s }.afterFail .noOldAuth) y c' →
      Kept 1 c₁ (y ++ [.failed .noOldAuth c₁.status c₁.serverErrno, .reported s]) c' := by
    intro c₁ s y hl
    have hfail : Kept 0 { c₁ with serverStatus := s } _ _ := .fail .noOldAuth c₁.status c₁.serverErrno
    have := ((hfail.trans hl.kept).mono le_rfl).reported
    rwa [List.append_assoc] at this
  cases h with
  | badProtocol hg =>
    cases hg with
    | plain => exact .waits ((Kept.fail .badProtocol _ _).mono (Nat.zero_le 1))
    | rejected n => exact .rejected rfl ((Kept.fail .badProtocol _ _).mono (Nat.zero_le 1))
  | login s hg hl =>
    cases hg with
    | plain => exact .waits (hlogin s hl)
    | rejected n =>
      have := Reads.rejected (t := .handshake) (c := c) rfl (hlogin s hl)
      rwa [List.append_assoc] at this
  | oldAuth s hg hl =>
    cases hg with
    | plain => exact .waits (hold s hl)
    | rejected n =>
      have := Reads.rejected (t := .handshake) (c := c) rfl (hold s hl)
      rwa [List.append_assoc] at this

/-- **Every packet completes something at most once.** -/
theorem Dispatch.reads (h : Dispatch t c x c') : Reads t c x c' := by
  cases h with
  | handshake h => exact h.reads
  | handshakeSsl h => exact .waits h.kept
  | response _ h => exact h.reads
  | prepareOk h => exact h.reads
  | definition _ ho h _ =>
    rcases ho with rfl | rfl
    · exact .waits (h.kept.owning .refl)
    · exact .waits (h.kept.owning (.single .useResultColumns))
  | fault _ => exact .waits ((Kept.action rfl).mono (Nat.zero_le 1))
  | row _ => exact .answered nofun .row

/-! ### Commands -/

/-- What sending a command comes to: at most one answer is expected, and there is no event to be told of. -/
structure Sends (c : Control) (x : List Action) (c' : Control) : Prop where
  neutral : ∀ a ∈ x, a.Neutral = true ∨ ∃ s, a = .sent s
  status : c'.status = c.status ∨ c'.status.IsError ∧ x.any Action.disconnects = true ∨ c'.status = .busy
  silent : c'.status = .idle → ¬ c'.commandStatus.IsEvent
  serverErrno : c'.serverErrno = 0
  expected : ∀ p : PacketType → Bool, c'.queue.countP p ≤ c.queue.countP p + 1
  aux : c'.aux = { c.aux with own := c'.aux.own }
  own : Relation.ReflTransGen Own.Step c.aux.own c'.aux.own

/-- All packets together. -/
lemma Sends.queue (h : Sends c x c') : c'.queue.length ≤ c.queue.length + 1 := by
  have hall := h.expected fun _ => true
  simpa only [List.countP_true] using hall

/-- A command that is on its way. -/
lemma Kept.sent (h : Kept 1 c.commandReset x c₁) (s : ConStatus) :
    Sends c (.sent s :: x) { c₁ with commandStatus := .send, status := .busy } where
  neutral a ha := (List.mem_cons.mp ha).elim (fun he => .inr ⟨s, he⟩) fun ha => .inl (h.neutral a ha)
  status := .inr (.inr rfl)
  silent := nofun
  serverErrno := h.serverErrno
  expected := h.expected
  aux := h.aux
  own := h.own

lemma Commanded.sends (h : Commanded c x c') : Sends c x c' := by
  cases h with
  | sent h _ hp => exact ((Kept.path SendMove.kept h).trans hp.kept).sent _
  | unanswered h => exact ((Kept.path SendMove.kept h).mono (Nat.zero_le 1)).sent _
  | @failed _ c₁ h =>
    have hk := (Kept.path SendMove.kept h).trans (.fail .commandSend c₁.status c₁.serverErrno)
    exact
      { neutral := fun a ha => .inl (hk.neutral a ha)
        status := hk.status.imp_right .inl
        silent := fun _ => show ¬ CommandStatus.IsEvent .sendFailed by decide
        serverErrno := hk.serverErrno
        expected := fun p => (hk.expected p).trans (Nat.le_succ _)
        aux := hk.aux
        own := hk.own }
  | compressed h hs =>
    have hk := Kept.path SendMove.kept h
    exact
      { neutral := fun a ha => .inl (hk.neutral a ha)
        status := hk.status.imp_right .inl
        silent := fun hi => absurd hi hs
        serverErrno := hk.serverErrno
        expected := fun p => (hk.expected p).trans (Nat.le_succ _)
        aux := hk.aux
        own := hk.own }

end Control

end LibAttachSql
