import LibAttachSql.Outcomes
import LibAttachSql.ServerWords

/-!
# What goes out in clear text

A connection that `attachsql_connect_set_ssl` was called on answers the handshake of a server twice: with a short request
for TLS, and, through OpenSSL, with the login; or, when the server does not offer TLS, not at all.  What is sent in answer
to a handshake is safe, then.  But `attachsql_command_send` does not look at how far the login has come, so that a command
that is sent before TLS is running goes out in clear text.  This module says that nothing else does.
-/

namespace LibAttachSql

open Lib

/-! ### Requests for TLS -/

/-- The payload of a request for TLS.  There is nothing of the login in it. -/
def sslRequest (capabilities : ℕ) : List UInt8 :=
  packInt4 capabilities ++ packInt4 defaultBufferSize ++ [0] ++ List.replicate 23 0

/-- A request for TLS in a packet, or in a packet within the frame of a compressed one, as a connection that is no longer
connecting would send it. -/
def IsSslRequest (bytes : List UInt8) : Prop :=
  ∃ capabilities number, bytes = frame number (sslRequest capabilities) ∨
    ∃ outer, bytes = compressedFrame outer (frame number (sslRequest capabilities)) 0

/-- A request for TLS comes to 36 bytes, or 43. -/
lemma IsSslRequest.length {bytes : List UInt8} (h : IsSslRequest bytes) : bytes.length = 36 ∨ bytes.length = 43 := by
  obtain ⟨_, _, rfl | ⟨_, rfl⟩⟩ := h
  · exact .inl rfl
  · exact .inr rfl

/-- What is written in clear text is a request for TLS. -/
def Action.Secure (a : Action) : Prop := ∀ bytes, a = .write bytes → IsSslRequest bytes

/-- The handshake of a server that does not offer TLS. -/
def RefusesTls (payload : List UInt8) : Prop :=
  VersionFits payload ∧ ∃ w, offeredCapabilities payload = some w ∧ w.testBit capabilitySsl = false

/-- Behind a handshake that does not offer TLS the login has failed, and nothing was sent. -/
def RefusedSilently (x : List Action) : Prop :=
  ∀ y payload s z, x = y ++ .packet .handshake payload s :: z → RefusesTls payload →
    (∃ s n, .failed .sslRefused s n ∈ y) ∧ ∀ a ∈ y, a.outgoing = false

/-! ### One handshake -/

/-- A packet that was read as a handshake. -/
def Action.isGreeting : Action → Bool
  | .packet t _ _ => t.greets
  | _ => false

namespace Control

/-- libuv looks for the host, or connects to it. -/
def Dialing (c : Control) : Prop := c.aux.uv = .resolving ∨ c.aux.uv = .connecting

instance (c : Control) : Decidable c.Dialing := inferInstanceAs (Decidable (_ ∨ _))

/-- How often a handshake was read, is expected, or may come to be. -/
def greetings (c : Control) (x : List Action) : ℕ :=
  x.countP Action.isGreeting + c.queue.count .handshake +
    ((if c.Dialing then 1 else 0) + if c.status = .notConnected then 1 else 0)

/-- At most one handshake is read, and the marker of the request for TLS is never left in the queue. -/
structure GreetedOnce (c : Control) (x : List Action) : Prop where
  greetings_le : c.greetings x ≤ 1
  unmarked : .handshakeSsl ∉ c.queue
  unread : ∀ payload s, .packet .handshakeSsl payload s ∉ x

/-- No handshake is read, and none comes to be expected. -/
structure Onward (c : Control) (x : List Action) (c' : Control) : Prop where
  packets : ∀ a ∈ x, a.isGreeting = false
  queue : ∀ t : PacketType, t.greets = true → c'.queue.count t ≤ c.queue.count t
  status : c'.status = .notConnected → c.status = .notConnected
  dialing : c'.Dialing → c.Dialing

variable {c c₁ c' : Control} {x y : List Action} {t : PacketType}

namespace Onward

lemma refl : Onward c [] c := ⟨List.forall_mem_nil _, fun _ _ => le_rfl, id, id⟩

lemma trans (h : Onward c x c₁) (h' : Onward c₁ y c') : Onward c (y ++ x) c' where
  packets a ha := (List.mem_append.mp ha).elim (h'.packets a) (h.packets a)
  queue t ht := (h'.queue t ht).trans (h.queue t ht)
  status hs := h.status (h'.status hs)
  dialing ho := h.dialing (h'.dialing ho)

lemma path {M : Control → List Action → Control → Prop} (hM : ∀ {c x c'}, M c x c' → Onward c x c')
    (h : Path M c x c') : Onward c x c' := by
  induction h with
  | refl => exact .refl
  | snoc _ hm ih => exact ih.trans (hM hm)

/-- Actions that read no handshake, with the queue as it is or dropped. -/
lemma actions (hx : ∀ a ∈ x, a.isGreeting = false) (hq : c'.queue = c.queue ∨ c'.queue = [])
    (hs : c'.status = .notConnected → c.status = .notConnected) (hu : c'.aux.uv = c.aux.uv) : Onward c x c' where
  packets := hx
  queue t _ := by
    rcases hq with hq | hq
    · rw [hq]
    · rw [hq]
      exact Nat.zero_le _
  status := hs
  dialing ho := by
    unfold Dialing at ho ⊢
    rwa [← hu]

/-- One of them. -/
lemma action {a : Action} (ha : a.isGreeting = false) : Onward c [a] c :=
  actions (List.forall_mem_singleton.mpr ha) (.inl rfl) id rfl

lemma fail (site : FailSite) (s : ConStatus) (n : ℕ) : Onward c [.failed site s n] (c.afterFail site) := by
  refine actions (List.forall_mem_singleton.mpr rfl) ?_ (fun hs => ?_) rfl
  · unfold afterFail
    dsimp only
    split_ifs
    · exact .inr rfl
    · exact .inl rfl
  · rcases afterFail_status (c := c) site with he | ⟨he, -⟩
    · exact he.symm.trans hs
    · rw [hs] at he
      exact absurd he (by decide)

/-- What comes before reads no handshake. -/
lemma behind (h : Onward c₁ x c') (hq : c₁.queue = c.queue) (hs : c₁.status = c.status ∨ c₁.status ≠ .notConnected)
    (hu : c₁.aux.uv = c.aux.uv) : Onward c x c' := by
  have hfirst : Onward c [] c₁ := by
    refine actions (List.forall_mem_nil _) (.inl hq) (fun hn => ?_) hu
    rcases hs with he | he
    · exact he.symm.trans hn
    · exact absurd hn he
  have h' := hfirst.trans h
  rwa [List.append_nil] at h'

/-- What comes after. -/
lemma ending (h : Onward c x c₁) (hq : c'.queue = c₁.queue) (hs : c'.status = c₁.status ∨ c'.status ≠ .notConnected)
    (hu : c'.aux.uv = c₁.aux.uv) : Onward c x c' := by
  refine h.trans (actions (List.forall_mem_nil _) (.inl hq) (fun hn => ?_) hu)
  rcases hs with he | he
  · exact he.symm.trans hn
  · exact absurd hn he

end Onward

lemma Pushed.onward (h : Pushed t c x c') (ht : t.greets = false) : Onward c x c' := by
  cases h with
  | pushed _ _ =>
    refine ⟨List.forall_mem_nil _, fun t' ht' => ?_, id, id⟩
    have hne : t ≠ t' := fun he => by
      rw [he, ht'] at ht
      cases ht
    exact (List.count_cons_of_ne hne).le
  | refused _ => exact .actions (List.forall_mem_singleton.mpr rfl) (.inl rfl) id rfl
  | fault _ _ => exact .actions (List.forall_mem_singleton.mpr rfl) (.inl rfl) id rfl

/-- The handshake comes to be expected. -/
lemma Pushed.greeting (h : Pushed .handshake c x c') : (∀ a ∈ x, a.isGreeting = false) ∧
    c'.queue.count .handshake ≤ c.queue.count .handshake + 1 ∧ c'.status = c.status ∧
    (.handshakeSsl ∈ c'.queue → .handshakeSsl ∈ c.queue) := by
  cases h with
  | pushed _ _ =>
    refine ⟨List.forall_mem_nil _, List.count_cons_self.le, rfl, fun hm => ?_⟩
    exact (List.mem_cons.mp hm).resolve_left nofun
  | refused _ => exact ⟨List.forall_mem_singleton.mpr rfl, Nat.le_succ _, rfl, id⟩
  | fault _ _ => exact ⟨List.forall_mem_singleton.mpr rfl, Nat.le_succ _, rfl, id⟩

lemma Quiet.onward {a : Action} (h : Quiet c a) : Onward c [a] c := .action (by cases h <;> rfl)

lemma SendMove.onward (h : SendMove c x c') : Onward c x c' := by
  cases h with
  | quiet h => exact h.onward
  | fail site => exact .fail site _ _
  | await => exact .actions (List.forall_mem_nil _) (.inl rfl) id rfl

lemma LoginMove.onward (h : LoginMove c x c') : Onward c x c' := by
  cases h with
  | send h => exact h.onward
  | tls _ _ => exact .actions (List.forall_mem_nil _) (.inl rfl) id rfl
  | dequeue hq =>
    refine ⟨List.forall_mem_nil _, fun t _ => ?_, id, id⟩
    rw [hq]
    exact List.count_le_count_cons
  | refused h hq =>
    have hx : ∀ a ∈ x, a.isGreeting = false := by cases h <;> simp [Action.isGreeting]
    refine .actions hx (.inl hq) (fun hs => ?_) ?_
    · cases h <;> exact hs
    · cases h <;> rfl

lemma Login.onward (h : Login c x c') : Onward c x c' := by
  cases h with
  | refused => exact .fail .sslRefused _ _
  | fault h => exact (Onward.path LoginMove.onward h).trans (.action (a := .fault) rfl)
  | scramble h => exact (Onward.path LoginMove.onward h).trans (.fail .badScramble _ _)
  | sent h hp => exact (Onward.path LoginMove.onward h).trans (hp.onward rfl)

lemma afterErr_onward (n : ℕ) : Onward c [.answered (.err n) c.status c.commandStatus] (c.afterErr n) := by
  refine .actions (List.forall_mem_singleton.mpr rfl) (.inr rfl) (fun hs => ?_) rfl
  unfold afterErr at hs
  dsimp only at hs
  split_ifs at hs

lemma Response.onward (h : Response c x c') : Onward c x c' := by
  have hreport : ∀ s, Onward c [.reported s] { c with serverStatus := s } := fun s =>
    .actions (List.forall_mem_singleton.mpr rfl) (.inl rfl) id rfl
  cases h with
  | ok s => exact .actions (by simp [Action.isGreeting]) (.inl rfl) nofun rfl
  | err n => exact afterErr_onward n
  | columnsEnd s _ hp => exact (hreport s).trans ((hp.onward rfl).behind rfl (.inl rfl) rfl)
  | paramsEnd s _ hp => exact (hreport s).trans ((hp.onward rfl).behind rfl (.inl rfl) rfl)
  | finish s _ => exact .actions (by simp [Action.isGreeting]) (.inl rfl) nofun rfl
  | fault s => exact .actions (by simp [Action.isGreeting]) (.inl rfl) id rfl
  | header _ hp =>
    have hpush : Onward c x _ := (hp.onward rfl).behind rfl (.inl rfl) rfl
    exact hpush.ending rfl (.inl rfl) rfl

lemma PrepareOk.onward (h : PrepareOk c x c') : Onward c x c' := by
  cases h with
  | params hp => exact (hp.onward rfl).ending rfl (.inl rfl) rfl
  | columns hp => exact (hp.onward rfl).ending rfl (.inl rfl) rfl
  | finish => exact .actions (List.forall_mem_singleton.mpr rfl) (.inl rfl) nofun rfl

lemma Greeting.onward (h : Greeting c x c') : Onward c x c' := by
  cases h with
  | plain => exact .refl
  | rejected n => exact afterErr_onward n

lemma Handshake.onward (h : Handshake c x c') : Onward c x c' := by
  have hreport : ∀ (c : Control) s, Onward c [.reported s] { c with serverStatus := s } := fun c s =>
    .actions (List.forall_mem_singleton.mpr rfl) (.inl rfl) id rfl
  cases h with
  | badProtocol hg => exact hg.onward.trans (.fail .badProtocol _ _)
  | @login g c₁ _ s _ hg hl => exact (hg.onward.trans (hreport c₁ s)).trans hl.onward
  | @oldAuth g c₁ _ s _ hg hl =>
    have hold : Onward { c₁ with serverStatus := s } _ _ := .fail .noOldAuth c₁.status c₁.serverErrno
    exact ((hg.onward.trans (hreport c₁ s)).trans hold).trans hl.onward

lemma Dispatch.onward (h : Dispatch t c x c') : Onward c x c' := by
  cases h with
  | handshake h => exact h.onward
  | handshakeSsl h => exact h.onward
  | response _ h => exact h.onward
  | prepareOk h => exact h.onward
  | definition _ ho h ht' =>
    simp only [List.mem_cons, List.not_mem_nil, or_false] at ht'
    have hpush := h.onward (by rcases ht' with rfl | rfl | rfl | rfl <;> rfl)
    rcases ho with rfl | rfl
    · exact hpush.behind rfl (.inl rfl) rfl
    · exact hpush.behind rfl (.inl rfl) rfl
  | fault _ => exact .action rfl
  | row _ => exact .actions (List.forall_mem_singleton.mpr rfl) (.inl rfl) nofun rfl

lemma Commanded.onward (h : Commanded c x c') : Onward c x c' := by
  have hsent : ∀ {c₁ : Control} {y : List Action}, Path SendMove c.commandReset y c₁ → Onward c y c₁ := fun h =>
    (Onward.path SendMove.onward h).behind rfl (.inl rfl) rfl
  have hbusy : ∀ c₁ : Control, Onward c₁ [.sent c₁.status] { c₁ with commandStatus := .send, status := .busy } := fun c₁ =>
    .actions (List.forall_mem_singleton.mpr rfl) (.inl rfl) nofun rfl
  cases h with
  | @sent _ _ _ c₂ t h ht hp =>
    have hpush := hp.onward (by rcases ht with rfl | rfl <;> rfl)
    exact ((hsent h).trans hpush).trans (hbusy c₂)
  | @unanswered _ c₁ h => exact (hsent h).trans (hbusy c₁)
  | failed h => exact (hsent h).trans (.fail .commandSend _ _)
  | compressed h _ => exact hsent h

lemma AuxMove.onward {a : Aux} (h : AuxMove c x a) : Onward c x { c with aux := a } := by
  have hx : ∀ b ∈ x, b.isGreeting = false := by cases h <;> simp [Action.isGreeting]
  refine ⟨hx, fun _ _ => le_rfl, id, fun ho => ?_⟩
  cases h with
  | resolved hr => exact .inl hr
  | settled hu => rcases hu with rfl | rfl <;> exact (ho.elim nofun nofun)
  | _ => exact ho

namespace GreetedOnce

lemma onward (h : c.GreetedOnce x) (h' : Onward c y c') : c'.GreetedOnce (y ++ x) where
  greetings_le := by
    have hle := h.greetings_le
    have hqueue := h'.queue .handshake rfl
    have hzero : y.countP Action.isGreeting = 0 := List.countP_eq_zero.mpr fun a ha => by rw [h'.packets a ha]; exact nofun
    have hdialing : (if c'.Dialing then 1 else 0) ≤ if c.Dialing then 1 else 0 := by
      by_cases ho : c'.Dialing
      · rw [if_pos ho, if_pos (h'.dialing ho)]
      · rw [if_neg ho]
        exact Nat.zero_le _
    have hstatus : (if c'.status = .notConnected then 1 else 0) ≤ if c.status = .notConnected then 1 else 0 := by
      by_cases hs : c'.status = .notConnected
      · rw [if_pos hs, if_pos (h'.status hs)]
      · rw [if_neg hs]
        exact Nat.zero_le _
    unfold greetings at hle ⊢
    rw [List.countP_append, hzero]
    omega
  unmarked hm := h.unmarked (List.count_pos_iff.mp ((List.count_pos_iff.mpr hm).trans_le (h'.queue .handshakeSsl rfl)))
  unread payload s hm := by
    rcases List.mem_append.mp hm with hm | hm
    · exact absurd (h'.packets _ hm) nofun
    · exact h.unread payload s hm

/-- A packet is read. -/
lemma popped (h : c.GreetedOnce x) {q : List PacketType} (hq : c.queue = t :: q) (payload : List UInt8) (s : ConStatus) :
    GreetedOnce { c with queue := q } ([.packet t payload s] ++ x) := by
  have hle := h.greetings_le
  have hmarked := h.unmarked
  rw [hq] at hmarked
  refine ⟨?_, fun hm => hmarked (List.mem_cons_of_mem _ hm), fun payload' s' hm => ?_⟩
  · unfold greetings at hle ⊢
    rw [hq, List.count_cons] at hle
    rw [List.countP_append, List.countP_singleton]
    have hdialing : ({ c with queue := q } : Control).Dialing ↔ c.Dialing := Iff.rfl
    simp only [hdialing]
    by_cases ht : t = .handshake
    · subst ht
      rw [if_pos (show Action.isGreeting (.packet .handshake payload s) = true from rfl)]
      simp only [beq_self_eq_true, if_true] at hle
      omega
    · have hgreets : Action.isGreeting (.packet t payload s) = false := by
        refine decide_eq_false (not_or.mpr ⟨ht, fun he => ?_⟩)
        rw [he] at hmarked
        exact hmarked (List.mem_cons_self ..)
      rw [hgreets, if_neg nofun]
      omega
  · rcases List.mem_append.mp hm with hm | hm
    · cases List.mem_singleton.mp hm
      exact hmarked (List.mem_cons_self ..)
    · exact h.unread payload' s' hm

/-- The connection is being made. -/
lemma started (h : c.GreetedOnce x) (hs : c.status = .notConnected) (hs' : c'.status ≠ .notConnected)
    (hq : c'.queue = c.queue) : c'.GreetedOnce x := by
  refine ⟨?_, by rw [hq]; exact h.unmarked, h.unread⟩
  have hle := h.greetings_le
  unfold greetings at hle ⊢
  rw [if_pos hs] at hle
  rw [hq, if_neg hs']
  have hone : (if c'.Dialing then 1 else 0) ≤ 1 := by split_ifs <;> simp
  omega

/-- There is a stream to read the handshake from. -/
lemma connected (h : c.GreetedOnce x) (hu : c.aux.uv = .connecting) (hp : Pushed .handshake c y c₁) (ho : ¬ c'.Dialing)
    (hs : c'.status = c₁.status) (hq : c'.queue = c₁.queue) : c'.GreetedOnce (y ++ x) := by
  obtain ⟨hy, hcount, hstatus, hmarked⟩ := hp.greeting
  refine ⟨?_, fun hm => h.unmarked (hmarked (hq ▸ hm)), fun payload s hm => ?_⟩
  · have hle := h.greetings_le
    have hdialing : c.Dialing := .inr hu
    have hzero : y.countP Action.isGreeting = 0 := List.countP_eq_zero.mpr fun a ha => by rw [hy a ha]; exact nofun
    unfold greetings at hle ⊢
    rw [if_pos hdialing] at hle
    rw [if_neg ho, hs, hstatus, hq, List.countP_append, hzero]
    omega
  · rcases List.mem_append.mp hm with hm | hm
    · exact absurd (hy _ hm) nofun
    · exact h.unread payload s hm

/-- **Every move keeps to one handshake.** -/
theorem move (h : c.GreetedOnce x) (hm : Move c y c') : c'.GreetedOnce (y ++ x) := by
  cases hm with
  | quiet hq => exact h.onward hq.onward
  | fail site => exact h.onward (.fail site _ _)
  | start hs _ => exact h.started hs nofun rfl
  | connected hu hp => exact h.connected hu hp (fun ho => ho.elim nofun nofun) rfl rfl
  | drained hq => exact h.onward (.actions (List.forall_mem_singleton.mpr rfl) (.inl rfl) nofun rfl)
  | lost hq => exact h.onward (.fail .writeCallback _ _)
  | packet payload hq hd =>
    rw [List.append_assoc]
    exact (h.popped hq payload c.status).onward hd.onward
  | command cmd tls hd =>
    have hstart : Onward c [.onStream c.aux.stream tls, .command cmd c.status] c :=
      .actions (by simp [Action.isGreeting]) (.inl rfl) id rfl
    exact h.onward (hstart.trans hd.onward)
  | request hp =>
    exact h.onward (((Onward.action (a := .rowRequested) rfl).trans (hp.onward rfl)).ending rfl (.inl rfl) rfl)
  | nextResult _ hp =>
    have hstart : Onward c [.nextResult c.status] { c with serverErrno := 0, serverStatus := 0 } :=
      .actions (List.forall_mem_singleton.mpr rfl) (.inl rfl) id rfl
    exact h.onward ((hstart.trans (hp.onward rfl)).ending rfl (.inr nofun) rfl)
  | pollEof => exact h.onward (.actions (List.forall_mem_singleton.mpr rfl) (.inl rfl) id rfl)
  | keep _ _ hp =>
    have hstart : Onward c [.rowRequested, .rowKept] { c with aux := c.kept } :=
      .actions (by simp [Action.isGreeting]) (.inl rfl) id rfl
    exact h.onward ((hstart.trans (hp.onward rfl)).ending rfl (.inl rfl) rfl)
  | aux ha => exact h.onward ha.onward

end GreetedOnce

end Control

/-! ### What is sent in answer to a handshake -/

section Answer

/-- Actions that send nothing but a request for TLS in clear text, and read no handshake. -/
def Action.Discreet (a : Action) : Prop := a.Secure ∧ a.isGreeting = false

variable (env : Env) {con : Con}

lemma discreet_of_not_write {a : Action} (h : ∀ bytes, a ≠ .write bytes) (hg : a.isGreeting = false) : a.Discreet :=
  ⟨fun bytes hb => absurd hb (h bytes), hg⟩

lemma Action.Discreet.not_handshake {payload : List UInt8} {s : ConStatus}
    (h : Action.Discreet (.packet .handshake payload s)) : False := nomatch (show true = false from h.2)

lemma discreet_of_inward {a : Action} (h : a.inward = true) : a.Discreet :=
  discreet_of_not_write (by rintro bytes rfl; cases h) (by cases a <;> first | rfl | cases h)

/-- Once TLS is running. -/
lemma discreet_of_tls (h : con.ssl.handshakeDone = true) (bytes : List UInt8) : (con.outgoing bytes).Discreet := by
  unfold Con.outgoing
  rw [if_pos h]
  exact discreet_of_not_write nofun rfl

lemma discreet_of_request {bytes : List UInt8} (h : IsSslRequest bytes) : (con.outgoing bytes).Discreet := by
  unfold Con.outgoing
  split_ifs
  · exact discreet_of_not_write nofun rfl
  · exact ⟨fun bytes' hb => Action.write.inj hb ▸ h, rfl⟩

/-- The request for TLS. -/
lemma request_discreet (m : Memory UInt8) : { con with writeBuffer := m }.Emits Action.Discreet
    (sendData env { con with writeBuffer := m } (handshakeHead con)) := by
  have hrequest : ∃ capabilities, handshakeHead con = sslRequest capabilities := ⟨_, rfl⟩
  obtain ⟨capabilities, hrequest⟩ := hrequest
  rw [hrequest]
  refine sendData_emits env _ (fun _ => discreet_of_not_write nofun rfl) _ (fun _ number => ?_) fun _ =>
    ⟨fun _ outer number => ?_, fun hlong => ?_⟩
  · exact discreet_of_request ⟨capabilities, number, .inl rfl⟩
  · exact discreet_of_request ⟨capabilities, number, .inr ⟨outer, rfl⟩⟩
  · exact absurd hlong (by show ¬ minimumCompressSize < 32; decide)

/-- The login, once TLS is enabled. -/
lemma handshakeLogin_discreet (h : con.ssl.enabled = true) : con.Emits Action.Discreet (handshakeLogin env con) := by
  refine handshakeLogin_emits env con fun payload => sendWriteBuffer_emits env con fun m => ?_
  have hdone : (startTls env { con with writeBuffer := m }).ssl.handshakeDone = true := startTls_done env _ h
  exact sendData_emits env _ (fun _ => discreet_of_not_write nofun rfl) payload (fun _ _ => discreet_of_tls hdone _)
    fun _ => ⟨fun _ _ _ => discreet_of_tls hdone _, fun _ _ _ _ => discreet_of_tls hdone _⟩

/-- **All that is sent in clear text in answer to a handshake is a request for TLS.** -/
lemma handshakeResponse_discreet (hssl : con.ssl.ssl = true) :
    con.Emits Action.Discreet (handshakeResponse env con) := by
  refine handshakeResponse_emits env con (fun h => ?_) (fun _ => ?_) (fun _ => ?_) fun _ => ?_
  · rw [hssl] at h
    cases h
  · exact (@handshakeLogin_discreet env (tlsEnabled con) rfl).after (.same rfl rfl)
  · exact sendWriteBuffer_emits env con (request_discreet env)
  · exact (@handshakeLogin_discreet env (tlsEnabled (tlsRequested env con)) rfl).after (.same rfl rfl)

lemma packetReadHandshake_discreet (hssl : con.ssl.ssl = true) :
    con.Emits Action.Discreet (packetReadHandshake env con) := by
  refine packetReadHandshake_emits env con (fun _ => discreet_of_not_write nofun rfl) (handshakeResponse_discreet env ?_)
  rw [(handshakeRead_tells _).ssl_eq, (errRead_tells con).ssl_eq]
  exact hssl

lemma checkOldAuth_capabilities (con : Con) : (checkOldAuth con).serverCapabilities = con.serverCapabilities := by
  unfold checkOldAuth
  split_ifs <;> rfl

/-- **A server that does not offer TLS is sent nothing**, and the login fails. -/
theorem packetReadHandshake_refused (hssl : con.ssl.ssl = true) {payload : List UInt8} (h : con.Opened payload)
    (hr : RefusesTls payload) :
    (packetReadHandshake env con).status = .connectFailed ∧ (packetReadHandshake env con).ssl = con.ssl ∧
      ∃ x, (packetReadHandshake env con).trace = x ++ con.trace ∧ (∃ s n, .failed .sslRefused s n ∈ x) ∧
        ∀ a ∈ x, a.outgoing = false ∧ a.isGreeting = false := by
  obtain ⟨hfit, w, hw, hbit⟩ := hr
  have hten : con.peekByte 0 = 10 := by
    have hhead := head_of_greetingWord hw
    have hne : payload ≠ [] := by
      rintro rfl
      cases hhead
    exact Option.some.inj ((h.head hne).symm.trans hhead)
  have hcapabilities : (handshakeRead con).serverCapabilities.testBit capabilitySsl = false := by
    have hsame : (handshakeRead con).serverCapabilities = (handshakeFields con).serverCapabilities :=
      checkOldAuth_capabilities _
    rw [hsame, serverCapabilities_of_offered h hfit hw]
    exact hbit
  have hread := handshakeRead_tells con
  rw [packetReadHandshake_ten env con hten, handshakeResponse_eq]
  generalize handshakeRead con = con₁ at hcapabilities hread ⊢
  rw [if_pos (by rw [hread.ssl_eq]; exact hssl), if_pos (by rw [hcapabilities]; decide)]
  obtain ⟨x, hx, hP⟩ := (hread.emits (P := fun a => ∃ s, a = .reported s) fun s => ⟨s, rfl⟩).trace_eq
  refine ⟨rfl, hread.ssl_eq, .failed .sslRefused con₁.status con₁.serverErrno :: x, congrArg (_ :: ·) hx,
    ⟨_, _, List.mem_cons_self ..⟩, List.forall_mem_cons.mpr ⟨⟨rfl, rfl⟩, fun a ha => ?_⟩⟩
  rcases hP a ha with hin | ⟨s, rfl⟩
  · exact ⟨(by cases a <;> first | rfl | cases hin), (discreet_of_inward hin).2⟩
  · exact ⟨rfl, rfl⟩

end Answer

/-! ### Runs -/

/-- Nothing but requests for TLS was written in clear text, TLS has not begun before a handshake was read, and behind a
handshake that does not offer it it has not begun either, and nothing was sent. -/
structure Con.Discreet (con : Con) : Prop where
  ssl : con.ssl.ssl = true
  secure : ∀ a ∈ con.trace, a.Secure
  greeted : con.ssl.enabled = true ∨ con.ssl.handshakeDone = true → ∃ a ∈ con.trace, a.isGreeting = true
  refused : ∀ y payload s z, con.trace = y ++ .packet .handshake payload s :: z → RefusesTls payload →
    con.ssl.enabled = false ∧ con.ssl.handshakeDone = false ∧ (∃ s n, .failed .sslRefused s n ∈ y) ∧
      ∀ a ∈ y, a.outgoing = false

/-- A history of a connection whose commands are all sent while TLS is running, and in which one handshake is read. -/
structure Commissioned (x : List Action) : Prop where
  commands : ∀ stream, .onStream stream false ∉ x
  greetings : x.countP Action.isGreeting ≤ 1
  unread : ∀ payload s, .packet .handshakeSsl payload s ∉ x

/-- The handshake that is read is the first one. -/
lemma Commissioned.first {x y u z : List Action} {a : Action} (h : Commissioned x) (ha : a.isGreeting = true)
    (hx : x = y ++ a :: (u ++ z)) : ∀ b ∈ z, b.isGreeting = false := by
  have hcount := h.greetings
  rw [hx, List.countP_append, List.countP_cons_of_pos ha, List.countP_append] at hcount
  have hzero : z.countP Action.isGreeting = 0 := by omega
  exact fun b hb => Bool.eq_false_iff.mpr (List.countP_eq_zero.mp hzero b hb)

namespace Con.Discreet

variable {con con' : Con} {x : List Action}

/-- Where no handshake is read. -/
lemma extend (h : con.Discreet) (htls : con'.tls = con.tls) (hx : con'.trace = x ++ con.trace)
    (hd : ∀ a ∈ x, a.Discreet) (ho : con.ssl.handshakeDone = false → ∀ a ∈ x, a.outgoing = false) : con'.Discreet := by
  have hssl : con'.ssl.ssl = con.ssl.ssl := congrArg Prod.fst htls
  have henabled : con'.ssl.enabled = con.ssl.enabled := congrArg (fun t => t.2.1) htls
  have hdone : con'.ssl.handshakeDone = con.ssl.handshakeDone := congrArg (fun t => t.2.2) htls
  refine ⟨hssl.trans h.ssl, fun a ha => ?_, fun hbegun => ?_, fun y payload s z hsplit hr => ?_⟩
  · rw [hx] at ha
    exact (List.mem_append.mp ha).elim (fun ha => (hd a ha).1) (h.secure a)
  · rw [henabled, hdone] at hbegun
    obtain ⟨a, ha, hg⟩ := h.greeted hbegun
    exact ⟨a, hx ▸ List.mem_append_right _ ha, hg⟩
  · rw [hx] at hsplit
    obtain ⟨y', rfl, hsplit'⟩ := split_behind (fun hm => (hd _ hm).not_handshake) hsplit
    obtain ⟨henabled', hdone', ⟨s', n, hfailed⟩, hsilent⟩ := h.refused y' payload s z hsplit' hr
    refine ⟨henabled.trans henabled', hdone.trans hdone', ⟨s', n, List.mem_append_right _ hfailed⟩, fun a ha => ?_⟩
    exact (List.mem_append.mp ha).elim (ho hdone' a) (hsilent a)

lemma still (h : con.Discreet) (hs : con.Still con') : con'.Discreet := by
  obtain ⟨x, hx, hstill⟩ := hs.trace_eq
  refine h.extend hs.tls_eq hx (fun a ha => ?_) fun hdone a ha => ?_
  · have ha := hstill a ha
    exact discreet_of_not_write (by rintro bytes rfl; cases ha) (by cases a <;> first | rfl | cases ha)
  · have ha := hstill a ha
    rw [hdone] at ha
    cases a <;> first | rfl | cases ha

/-- A command that is sent while TLS is running. -/
lemma command (h : con.Discreet) {env : Env} {cmd : Command} {data : List UInt8}
    (hok : Commissioned (commandSend env con cmd data).1.trace) : (commandSend env con cmd data).1.Discreet := by
  have hdone : con.ssl.handshakeDone = true := by
    refine Bool.eq_true_of_not_eq_false fun hdone => hok.commands con.stream ?_
    have hentered := commandSend_onStream env con cmd data
    rwa [hdone] at hentered
  have hemit : con.Emits Action.Discreet (commandSend env con cmd data).1 :=
    commandSend_emits env con (fun _ => discreet_of_not_write nofun rfl) cmd data (discreet_of_not_write nofun rfl)
      (discreet_of_not_write nofun rfl) (fun _ _ _ => discreet_of_tls hdone _) fun _ _ _ _ => discreet_of_tls hdone _
  obtain ⟨x, hx, hd⟩ := hemit.trace_eq
  refine h.extend (commandSend_tls env con cmd data) hx (fun a ha => (hd a ha).elim discreet_of_inward id) fun hf => ?_
  rw [hdone] at hf
  cases hf

/-- What an alike connection is told apart by is not seen. -/
lemma alike (h : con.Discreet) (ha : con.Alike con') : con'.Discreet :=
  h.extend (x := []) (tls_of_ssl ha.ssl_eq) ha.trace_eq (List.forall_mem_nil _) fun _ => List.forall_mem_nil _

lemma nextResult (h : con.Discreet) (env : Env) : (commandNextResult env con).1.Discreet := by
  obtain ⟨x, hx, hP⟩ := (commandNextResult_emits (P := (· = .nextResult con.status)) env con rfl).trace_eq
  refine h.extend (tls_of_ssl (commandNextResult_ssl env con)) hx (fun a ha => ?_) fun _ a ha => ?_
  · rcases hP a ha with hin | rfl
    · exact discreet_of_inward hin
    · exact discreet_of_not_write nofun rfl
  · rcases hP a ha with hin | rfl
    · cases a <;> first | rfl | cases hin
    · rfl

/-- What is told of a packet is discreet. -/
lemma tells {s : Option ℕ} (h : con.Discreet) (ht : con.Tells s con') : con'.Discreet := by
  obtain ⟨x, hx, hP⟩ := (ht.emits (P := fun a => ∃ s, a = .reported s) fun s => ⟨s, rfl⟩).trace_eq
  refine h.extend (tls_of_ssl ht.ssl_eq) hx (fun a ha => ?_) fun _ a ha => ?_
  · rcases hP a ha with hin | ⟨s, rfl⟩
    · exact discreet_of_inward hin
    · exact discreet_of_not_write nofun rfl
  · rcases hP a ha with hin | ⟨s, rfl⟩
    · cases a <;> first | rfl | cases hin
    · rfl

/-- A packet that is no handshake. -/
lemma packet (h : con.Discreet) (env : Env) (b : BufferSt) {t : PacketType} (seq : UInt8) (n : ℕ)
    (ht : t.greets = false) : (packetDispatch env (packetReady con b t seq n) t).con.Discreet := by
  have hready : (packetReady con b t seq n).Discreet := by
    refine h.extend (tls_of_ssl (packetReady_ssl con b t seq n)) (packetReady_trace con b t seq n) (fun a ha => ?_)
      fun _ a ha => ?_
    · rcases List.mem_pair.mp ha with rfl | rfl
      · exact discreet_of_not_write nofun ht
      · exact discreet_of_not_write nofun rfl
    · rcases List.mem_pair.mp ha with rfl | rfl <;> rfl
  exact hready.tells (packetDispatch_tells env _ (PacketType.ne_of_greets ht))

/-- Before a handshake is read, TLS has not begun. -/
lemma unsecured (h : con.Discreet) (hfirst : ∀ a ∈ con.trace, a.isGreeting = false) :
    con.ssl.enabled = false ∧ con.ssl.handshakeDone = false := by
  have hnone : ¬ (con.ssl.enabled = true ∨ con.ssl.handshakeDone = true) := fun hb => by
    obtain ⟨a, ha, hg⟩ := h.greeted hb
    rw [hfirst a ha] at hg
    cases hg
  exact ⟨Bool.eq_false_iff.mpr fun hb => hnone (.inl hb), Bool.eq_false_iff.mpr fun hb => hnone (.inr hb)⟩

/-- The handshake. -/
lemma handshake (h : con.Discreet) {env : Env} {b : BufferSt} {seq : UInt8} {payload : List UInt8}
    (hholds : con.Holds b seq payload)
    (hok : Commissioned (packetReadHandshake env (packetReady con b .handshake seq payload.length)).trace) :
    (packetReadHandshake env (packetReady con b .handshake seq payload.length)).Discreet := by
  have hopened := hholds.opened .handshake
  have hready : (packetReady con b .handshake seq payload.length).trace = [.packet .handshake payload con.status,
      .checked false (countPacket con .handshake).packetNumber seq true] ++ con.trace := by
    conv_rhs => rw [← hholds.payload_eq]
    exact packetReady_trace con b _ seq _
  have hssl := packetReady_ssl con b .handshake seq payload.length
  generalize packetReady con b .handshake seq payload.length = con₁ at hok hopened hready hssl ⊢
  have hssl₁ : con₁.ssl.ssl = true := by rw [hssl]; exact h.ssl
  have hemit := packetReadHandshake_discreet env hssl₁
  obtain ⟨x, hx, hd⟩ := hemit.trace_eq
  have hfirst : ∀ a ∈ con.trace, a.isGreeting = false := hok.first (y := x) (u := [_]) rfl (hx.trans (by rw [hready]; rfl))
  have hbegun := h.unsecured hfirst
  refine ⟨hemit.ssl_eq.trans hssl₁, fun a ha => ?_, fun _ => ?_, fun y payload' s z hsplit hr => ?_⟩
  · rw [hx, hready] at ha
    rcases List.mem_append.mp ha with ha | ha
    · exact ((hd a ha).elim discreet_of_inward id).1
    · rcases List.mem_append.mp ha with ha | ha
      · rcases List.mem_pair.mp ha with rfl | rfl <;> exact fun _ hb => nomatch hb
      · exact h.secure a ha
  · exact ⟨_, by rw [hx, hready]; exact List.mem_append_right _ (List.mem_cons_self ..), rfl⟩
  · -- the handshake is the one that is read now
    rw [hx, hready] at hsplit
    obtain ⟨y', rfl, hsplit'⟩ := split_behind
      (fun hm => ((hd _ hm).elim discreet_of_inward id).not_handshake) hsplit
    cases y' with
    | cons a y' =>
      have hmem : .packet .handshake payload' s ∈ Action.checked false (countPacket con .handshake).packetNumber seq true ::
          con.trace := by
        have htail : Action.checked false (countPacket con .handshake).packetNumber seq true :: con.trace =
            y' ++ .packet .handshake payload' s :: z := (List.cons.inj hsplit').2
        rw [htail]
        exact List.mem_append_right y' (List.mem_cons_self ..)
      exact nomatch (show true = false from hfirst _ ((List.mem_cons.mp hmem).resolve_left nofun))
    | nil =>
      obtain ⟨hpacket, -⟩ := List.cons.inj hsplit'
      cases hpacket
      obtain ⟨-, hsame, x', hx', hfailed, hsilent⟩ := packetReadHandshake_refused env hssl₁ hopened hr
      obtain rfl : x' = x := List.append_cancel_right (hx'.symm.trans hx)
      rw [hsame, hssl, List.append_nil]
      exact ⟨hbegun.1, hbegun.2, hfailed, fun a ha => (hsilent a ha).1⟩

end Con.Discreet

lemma Commissioned.suffix {x y : List Action} (h : Commissioned (y ++ x)) : Commissioned x where
  commands stream hm := h.commands stream (List.mem_append_right _ hm)
  greetings := (Nat.le_add_left ..).trans (List.countP_append.symm.le.trans h.greetings)
  unread payload s hm := h.unread payload s (List.mem_append_right _ hm)

/-- **One act.** -/
theorem Con.Discreet.act {con : Con} {a : Act} (h : con.Discreet) (hl : a.Legal con)
    (hok : Commissioned (a.apply con).trace) : (a.apply con).Discreet := by
  rcases apply_cases hl with hstill | ⟨env, b, seq, payload, t, q, hholds, hq, ha, he⟩ | ⟨env, he⟩ |
    ⟨env, con₁, cmd, data, halike, he⟩
  · exact h.still hstill
  · rw [he] at hok ⊢
    cases hg : t.greets with
    | false => exact h.packet env b seq _ hg
    | true =>
      by_cases ht : t = .handshake
      · subst ht
        exact h.handshake hholds hok
      · -- the marker is never read
        obtain rfl : t = .handshakeSsl := (of_decide_eq_true hg).resolve_left ht
        refine absurd ?_ (hok.unread (b.mem.slice (b.bufferReadPtr + 4) payload.length) con.status)
        exact packet_mem_dispatch env con b .handshakeSsl seq payload.length
  · rw [he]
    exact h.nextResult env
  · rw [he] at hok ⊢
    exact (h.alike halike).command hok

/-- **No credentials in clear text.**  In every run of a connection with TLS whose commands are all sent while TLS is
running, all that is written in clear text is a request for TLS; and when a handshake does not offer TLS, nothing is
sent any more, and the status becomes that of a connection that failed. -/
theorem clear_text {con : Con} (h : Initial con) (hssl : con.ssl.ssl = true) (es : List SysEvent)
    (hcommands : ∀ stream, .onStream stream false ∉ (run sysStep con es).trace) :
    (∀ bytes, .write bytes ∈ (run sysStep con es).trace → IsSslRequest bytes) ∧
      RefusedSilently (run sysStep con es).trace ∧
      ∀ (env : Env) (con' : Con) b seq payload q, con'.ssl.ssl = true → con'.Holds b seq payload →
        con'.nextPacketQueue = .handshake :: q → con'.Accepts .handshake seq → RefusesTls payload →
        (processPacket env con').con.status = .connectFailed := by
  have honce : con.control.GreetedOnce con.trace := by
    cases h
    exact ⟨le_rfl, nofun, nofun⟩
  have hrun := run_invariant_moves (fun hc hm => hc.move hm) honce es
  have hok : Commissioned (run sysStep con es).trace :=
    ⟨hcommands, (Nat.le_add_right _ _).trans ((Nat.le_add_right _ _).trans hrun.greetings_le), hrun.unread⟩
  have hfresh : con.Discreet := by
    cases h
    refine ⟨hssl, List.forall_mem_nil _, fun hb => hb.elim nofun nofun, fun y payload s z hsplit => ?_⟩
    cases y <;> cases hsplit
  have hdiscreet : (run sysStep con es).Discreet :=
    (run_acts con es).invariant Commissioned.suffix (fun hI hl hok => hI.act hl hok) hfresh hok
  refine ⟨fun bytes hb => hdiscreet.secure _ hb bytes rfl, fun y payload s z hsplit hr => ?_,
    fun env con' b seq payload q hssl hholds hq ha hr => ?_⟩
  · exact (hdiscreet.refused y payload s z hsplit hr).2.2
  · rw [processPacket_accepted hholds hq ha]
    exact (packetReadHandshake_refused env (by exact hssl) (hholds.opened .handshake) hr).1

/-- A connection that `attachsql_connect_set_ssl` was called on. -/
def Con.calmTls : Con := { Con.calm 0 with ssl.ssl := true }

lemma Con.calmTls_initial : Initial .calmTls := .made ..

/-- A connection is made, and the handshake of a server that has these capabilities is read. -/
def greetWith (capabilities : ℕ) : List SysEvent := [
  .call (.calm [.resolved none, .connected none]) .connect,
  .poll (.calm [.read 65536 (frame 0 ([10, 0x35, 0] ++ List.replicate 13 1 ++ packInt2 capabilities ++ [8] ++ packInt2 2 ++
    List.replicate 13 0 ++ List.replicate 13 1))])]

theorem clear_text_login :
    (∀ bytes, .write bytes ∈ (run sysStep .calmTls (greetWith 0x0a00 ++
        [.call (.calm []) (.query [0x53] [])])).trace → IsSslRequest bytes) ∧
      RefusedSilently (run sysStep .calmTls (greetWith 0x0200)).trace :=
  ⟨(clear_text Con.calmTls_initial rfl _ (by decide +kernel)).1,
    (clear_text Con.calmTls_initial rfl _ (by decide +kernel)).2.1⟩

/-- A query that comes while the connection is being made goes out in clear text, and so does one that comes after a server
did not offer TLS. -/
theorem clear_text_command :
    ∃ con es es', Initial con ∧ con.ssl.ssl = true ∧
      ¬ (∀ bytes, .write bytes ∈ (run sysStep con es).trace → IsSslRequest bytes) ∧
      ¬ RefusedSilently (run sysStep con es').trace := by
  refine ⟨.calmTls, [.call (.calm [.resolved none, .connected none]) .connect, .call (.calm []) (.query [0x53] [])],
    greetWith 0x0200 ++ [.call (.calm []) (.query [0x53] [])], Con.calmTls_initial, rfl, fun h => ?_, fun h => ?_⟩
  · have hwrite := h [2, 0, 0, 0, 0x03, 0x53] (by decide +kernel)
    rcases hwrite.length with hlen | hlen <;> cases hlen
  · generalize htrace : (run sysStep _ _).trace = x at h
    have hx : ∃ y z, x = y ++ .packet .handshake ((greetingPacket 2).drop 4) .connecting :: z ∧
        .write [2, 0, 0, 0, 0x03, 0x53] ∈ y := by
      refine ⟨x.take 7, x.drop 8, ?_, ?_⟩
      · subst htrace
        decide +kernel
      · subst htrace
        decide +kernel
    obtain ⟨y, z, hsplit, hwrite⟩ := hx
    have hsilent := (h y _ _ z hsplit ⟨by decide +kernel, 512, by decide +kernel, by decide⟩).2
    exact nomatch hsilent _ hwrite

end LibAttachSql
