import LibAttachSql.Send
import LibAttachSql.Control

/-!
# The send functions follow the control relation

What a function of the source does to a connection is a step of a relation of control states when it adds to the trace
the actions the step is labelled with.  This module says so of the functions of `net.cc` that send.
-/

namespace LibAttachSql

open Lib

/-! ### What a function does -/

/-- The connection got from `con` to `con'` by a step of the relation, whose actions are on the trace. -/
def Does (R : Control → List Action → Control → Prop) (con con' : Con) : Prop :=
  ∃ x, con'.trace = x ++ con.trace ∧ R con.control x con'.control

namespace Does

variable {R R' : Control → List Action → Control → Prop} {con con₁ con₂ con' : Con}

/-- Only the control state and the trace of the first connection matter. -/
lemma congr_left (h : Does R con₁ con') (hc : con₁.control = con.control) (ht : con₁.trace = con.trace) :
    Does R con con' := by
  obtain ⟨x, hx, hR⟩ := h
  exact ⟨x, by rw [hx, ht], hc ▸ hR⟩

/-- Only the control state and the trace of the last connection matter. -/
lemma congr_right (h : Does R con con₁) (hc : con'.control = con₁.control) (ht : con'.trace = con₁.trace) :
    Does R con con' := by
  obtain ⟨x, hx, hR⟩ := h
  exact ⟨x, by rw [ht, hx], hc ▸ hR⟩

lemma mono (h : Does R con con') (hR : ∀ {c x c'}, R c x c' → R' c x c') : Does R' con con' := by
  obtain ⟨x, hx, h⟩ := h
  exact ⟨x, hx, hR h⟩

/-- A step after actions that are on the trace already. -/
lemma prepend (h : Does R con₁ con') (x : List Action) (ht : con₁.trace = x ++ con.trace)
    (hR : ∀ {y}, R con₁.control y con'.control → R' con.control (y ++ x) con'.control) : Does R' con con' := by
  obtain ⟨y, hy, h⟩ := h
  exact ⟨y ++ x, by rw [hy, ht, List.append_assoc], hR h⟩

/-- A function that changes neither the control state nor the trace. -/
lemma same (hc : con'.control = con.control) (ht : con'.trace = con.trace) : Does (Path R) con con' :=
  ⟨[], by rw [ht, List.nil_append], hc ▸ .refl⟩

lemma refl : Does (Path R) con con := same rfl rfl

lemma single (h : Does R con con') : Does (Path R) con con' := h.mono .single

/-- A step, and what comes after it. -/
lemma after (h' : Does (Path R) con₁ con') (h : Does R con con₁) : Does (Path R) con con' := by
  obtain ⟨x, hx, hR⟩ := h
  obtain ⟨y, hy, hR'⟩ := h'
  exact ⟨y ++ x, by rw [hy, hx, List.append_assoc], (Path.single hR).trans hR'⟩

lemma trans (h : Does (Path R) con con₁) (h' : Does (Path R) con₁ con') : Does (Path R) con con' := by
  obtain ⟨x, hx, hR⟩ := h
  obtain ⟨y, hy, hR'⟩ := h'
  exact ⟨y ++ x, by rw [hy, hx, List.append_assoc], hR.trans hR'⟩

lemma ite {p : Prop} [Decidable p] (ht : p → Does R con con₁) (hf : ¬ p → Does R con con₂) :
    Does R con (if p then con₁ else con₂) := by
  split
  · next h => exact ht h
  · next h => exact hf h

/-- A fold does what its rounds do. -/
lemma foldl {β : Type} {f : Con → β → Con} (h : ∀ con b, Does (Path R) con (f con b)) (bs : List β) (con : Con) :
    Does (Path R) con (bs.foldl f con) := by
  induction bs generalizing con with
  | nil => exact .refl
  | cons b bs ih => exact (h con b).trans (ih (f con b))

end Does

/-! ### The queue of expected packets -/

lemma packetQueueStore_does (con : Con) (t : PacketType) (size bytes : ℕ) :
    Does (Control.Pushed t) con
      (packetQueueStore { con with nextPacketQueueSize := size, nextPacketQueueBytes := bytes } t) := by
  unfold packetQueueStore
  split_ifs
  · exact ⟨[], rfl, .pushed size bytes⟩
  · exact ⟨[.fault], rfl, .fault size bytes⟩

lemma packetQueuePush_does (env : Env) (con : Con) (t : PacketType) :
    Does (Control.Pushed t) con (packetQueuePush env con t) := by
  unfold packetQueuePush
  split_ifs
  · cases env.malloc.get (4 * defaultPacketQueueSize) with
    | none =>
      exact ⟨[.failed .queueAlloc con.status con.serverErrno], rfl, .refused defaultPacketQueueSize⟩
    | some _ => exact packetQueueStore_does con t _ _
  · cases env.malloc.get (con.nextPacketQueueSize * 2) with
    | none =>
      exact ⟨[.failed .queueAlloc con.status con.serverErrno], rfl, .refused con.nextPacketQueueSize⟩
    | some _ => exact packetQueueStore_does con t _ _
  · exact packetQueueStore_does con t con.nextPacketQueueSize con.nextPacketQueueBytes

/-! ### libuv and OpenSSL -/

section Steps

variable {R : Control → List Action → Control → Prop} {con con' : Con}

lemma quiet_does {a : Action} (h : R con.control [a] con.control) (hc : con'.control = con.control)
    (ht : con'.trace = a :: con.trace) : Does R con con' := by
  refine ⟨[a], ht, ?_⟩
  rwa [hc]

lemma fault_does (h : R con.control [.fault] con.control) : Does R con (con.log .fault) := quiet_does h rfl rfl

lemma fail_does {site : FailSite}
    (h : R con.control [.failed site con.status con.serverErrno] (con.control.afterFail site))
    (hc : con'.control = con.control.afterFail site)
    (ht : con'.trace = .failed site con.status con.serverErrno :: con.trace) : Does R con con' := by
  refine ⟨[.failed site con.status con.serverErrno], ht, ?_⟩
  rwa [hc]

end Steps

section Writes

variable (env : Env) (con : Con)

lemma uvWrite_does {R : Control → List Action → Control → Prop} {written : List UInt8 → Action} {bytes : List UInt8}
    (hwritten : ∀ c, R c [written bytes] c) (hfault : ∀ c, R c [.fault] c) {con' : Con} {failure : Option String}
    (hw : uvWrite env con written bytes = (con', failure)) : Does (Path R) con con' := by
  unfold uvWrite at hw
  split_ifs at hw
  · split at hw <;> cases hw
    · exact .single (quiet_does (hwritten _) rfl rfl)
    · exact .refl
  · cases hw
    exact .single (fault_does (hfault _))

lemma sslNetWrite_does (chunk : List UInt8) : Does (Path Control.WireMove) con (sslNetWrite env con chunk) := by
  have hwrite := fun {con' failure} => @uvWrite_does env con Control.WireMove .encrypted chunk
    (fun _ => .encrypted chunk) (fun _ => .fault) con' failure
  unfold sslNetWrite
  split
  · next con' hw => exact hwrite hw
  · next con' name hw => exact (hwrite hw).trans (.single (fail_does (.fail .sslNetWrite (by decide)) rfl rfl))

lemma sslDataWrite_does : Does (Path Control.WireMove) con (sslDataWrite env con) := by
  unfold sslDataWrite
  cases con.ssl.writeBuffer with
  | none => exact .refl
  | some b =>
    dsimp only
    split_ifs
    · cases env.sslWrite con.ssl.calls (b.mem.slice b.bufferReadPtr b.unreadData) with
      | done r => exact .same rfl rfl
      | wantRead => exact .same rfl rfl
      | failed reason => exact .single (fail_does (.fail .sslDataWrite (by decide)) rfl rfl)
    · exact .refl

lemma sslDataCheck_does : Does (Path Control.WireMove) con (sslDataCheck env con) :=
  (sslDataWrite_does env con).trans
    ((Does.foldl (fun con chunk => sslNetWrite_does env con chunk) _ _).congr_left rfl rfl)

lemma sslHandleError_does (reason : Option String) :
    Does (Path Control.WireMove) con (sslHandleError env con reason) := by
  cases reason with
  | none => exact sslDataCheck_does env con
  | some reason => exact .single (fail_does (.fail .sslHandleError (by decide)) rfl rfl)

lemma sslResult_does (r : SslResult) : Does (Path Control.WireMove) con (sslResult env con r) := by
  cases r with
  | done _ => exact .refl
  | wantRead => exact sslHandleError_does env con none
  | failed reason => exact sslHandleError_does env con (some reason)

lemma sslRun_does : Does (Path Control.WireMove) con (sslRun env con) := by
  unfold sslRun
  dsimp only
  split_ifs
  · exact ((sslResult_does env _ _).trans (sslDataCheck_does env _)).congr_left rfl rfl
  · exact ((sslResult_does env _ _).trans (sslDataCheck_does env _)).congr_left rfl rfl

lemma sslBufferWrite_does (parts : List (List UInt8)) :
    Does (Path Control.NetMove) con (sslBufferWrite env con parts) := by
  unfold sslBufferWrite
  dsimp only
  split
  · exact .single (fault_does (.quiet .fault))
  · exact ((sslRun_does env _).mono (Path.mono Control.WireMove.net)).after
      (quiet_does (.quiet (.sslBuffered parts.flatten)) rfl rfl)

lemma netWrite_does {parts : List (List UInt8)} {con' : Con} {failure : Option String}
    (hw : netWrite env con parts = (con', failure)) : Does (Path Control.NetMove) con con' := by
  unfold netWrite at hw
  split_ifs at hw
  · cases hw
    exact sslBufferWrite_does env con parts
  · exact uvWrite_does env con (fun _ => .quiet (.write _)) (fun _ => .quiet .fault) hw

end Writes

/-! ### Packets -/

section Sends

variable (env : Env) (con : Con)

lemma await_does {con' : Con} (hc : con'.control = { con.control with commandStatus := .readResponse })
    (ht : con'.trace = con.trace) : Does Control.SendMove con con' := by
  refine ⟨[], ht, ?_⟩
  rw [hc]
  exact .await

lemma sendWrite_does {parts : List (List UInt8)} {con' : Con} {failure : Option String}
    (hw : netWrite env con parts = (con', failure)) : Does (Path Control.SendMove) con con' :=
  (netWrite_does env con hw).mono (Path.mono Control.NetMove.send)

lemma sendCompressedBuffers_does (body : List UInt8) (uncompressed : ℕ) :
    Does (Path Control.SendMove) con (sendCompressedBuffers env con body uncompressed) := by
  unfold sendCompressedBuffers
  dsimp only
  split
  · next con' hw => exact (sendWrite_does env _ hw).after (await_does con rfl rfl)
  · next con' name hw =>
    exact ((sendWrite_does env _ hw).after (await_does con rfl rfl)).trans
      (.single (fail_does (.fail .sendCompressed) rfl rfl))

lemma compressPacket_does (body : List UInt8) :
    Does (Path Control.SendMove) con (compressPacket env con body) := by
  unfold compressPacket
  dsimp only
  split_ifs
  · exact .single (fail_does (.fail .compressedAlloc) rfl rfl)
  · split
    · exact .single (fail_does (.fail .compress) rfl rfl)
    · split_ifs
      · exact .single (fail_does (.fail .compress) rfl rfl)
      · exact (sendCompressedBuffers_does env _ _ _).congr_left rfl rfl

lemma sendCompressedPacket_does (data : List UInt8) (command : Option Command) :
    Does (Path Control.SendMove) con (sendCompressedPacket env con data command) := by
  unfold sendCompressedPacket
  dsimp only
  refine .ite (fun _ => ?_) fun _ => .ite (fun _ => ?_) fun _ => ?_
  · exact .single (fail_does (.fail .uncompressedAlloc) rfl rfl)
  · exact (compressPacket_does env _ _).congr_left rfl rfl
  · exact (sendCompressedBuffers_does env _ _ _).congr_left rfl rfl

lemma startTls_does : Does (Path Control.SendMove) con (startTls env con) := by
  have h : Does (Path Control.SendMove) con (sslRun env { con with ssl.calls := con.ssl.calls + 1 }) :=
    ((sslRun_does env _).mono (Path.mono fun h => h.net.send)).congr_left rfl rfl
  exact .ite (fun _ => h.congr_right rfl rfl) fun _ => .refl

lemma sendData_does (data : List UInt8) : Does (Path Control.SendMove) con (sendData env con data) := by
  unfold sendData
  dsimp only
  refine (startTls_does env con).trans ?_
  split_ifs
  · exact (sendCompressedPacket_does env _ _ _).congr_left rfl rfl
  · split
    · next con' hw => exact (sendWrite_does env _ hw).after (await_does _ rfl rfl)
    · next con' name hw =>
      exact ((sendWrite_does env _ hw).after (await_does _ rfl rfl)).trans
        (.single (fail_does (.fail .sendData) rfl rfl))

/-! ### What is waited for -/

/-- After a write the command status is what it was before, or the write has failed. -/
lemma Control.NetMove.path_waits {c c' : Control} {x : List Action} (h : Path Control.NetMove c x c')
    (hc : c.commandStatus = .readResponse) : c'.Waits x := by
  induction h with
  | refl => exact .inl hc
  | @snoc x y t u _ hm ih =>
    cases hm with
    | quiet _ =>
      refine ih.imp_right ?_
      rintro ⟨a, ha, hs⟩
      exact ⟨a, List.mem_append_right _ ha, hs⟩
    | fail site hsite =>
      refine .inr ⟨_, List.mem_append_left _ (List.mem_singleton_self _), ?_⟩
      rcases hsite with rfl | rfl | rfl
      · rfl
      · rfl
      · rfl

/-- A response is waited for, or a failure of the send is on the trace. -/
def Awaits (con con' : Con) : Prop := Does (fun _ x c => c.Waits x) con con'

lemma Awaits.after {con con₁ con' : Con} (h' : Awaits con₁ con') {x : List Action} (ht : con₁.trace = x ++ con.trace) :
    Awaits con con' := h'.prepend x ht fun hw => hw.append x

lemma failed_awaits {con con' : Con} {site : FailSite} {s : ConStatus} {n : ℕ}
    (ht : con'.trace = .failed site s n :: con.trace) (hs : site.commandStatus.isSome = true) : Awaits con con' :=
  ⟨[.failed site s n], ht, .inr ⟨_, List.mem_singleton_self _, hs⟩⟩

/-- The end of a send: the packet is handed on, or the write fails. -/
lemma netWrite_awaits {parts : List (List UInt8)} {con' : Con} {failure : Option String}
    (hc : con.commandStatus = .readResponse) (hw : netWrite env con parts = (con', failure)) : Awaits con con' := by
  obtain ⟨x, hx, hP⟩ := netWrite_does env con hw
  exact ⟨x, hx, Control.NetMove.path_waits hP hc⟩

/-- A failure behind what was handed on. -/
lemma Does.failed_awaits {R : Control → List Action → Control → Prop} {con con₁ con' : Con} (h : Does R con con₁)
    {site : FailSite} {s : ConStatus} {n : ℕ} (ht : con'.trace = .failed site s n :: con₁.trace)
    (hs : site.commandStatus.isSome = true) : Awaits con con' := by
  obtain ⟨x, hx, -⟩ := h
  exact (LibAttachSql.failed_awaits ht hs).after hx

lemma sendCompressedBuffers_awaits (body : List UInt8) (uncompressed : ℕ) :
    Awaits con (sendCompressedBuffers env con body uncompressed) := by
  unfold sendCompressedBuffers
  dsimp only
  split
  · next con' hw => exact (netWrite_awaits env _ rfl hw).after (x := []) rfl
  · next con' name hw => exact ((netWrite_does env _ hw).failed_awaits rfl rfl).after (x := []) rfl

lemma compressPacket_awaits (body : List UInt8) : Awaits con (compressPacket env con body) := by
  unfold compressPacket
  dsimp only
  split_ifs
  · exact failed_awaits rfl rfl
  · split
    · exact failed_awaits rfl rfl
    · split_ifs
      · exact failed_awaits rfl rfl
      · exact (sendCompressedBuffers_awaits env _ _ _).after (x := []) rfl

lemma sendCompressedPacket_awaits (data : List UInt8) (command : Option Command) :
    Awaits con (sendCompressedPacket env con data command) := by
  unfold sendCompressedPacket
  dsimp only
  refine Does.ite (fun _ => ?_) fun _ => Does.ite (fun _ => ?_) fun _ => ?_
  · exact failed_awaits rfl rfl
  · exact (compressPacket_awaits env _ _).after (x := []) rfl
  · exact (sendCompressedBuffers_awaits env _ _ _).after (x := []) rfl

/-- **What is waited for after a packet was sent.** -/
lemma sendData_awaits (data : List UInt8) : Awaits con (sendData env con data) := by
  obtain ⟨x, hx, -⟩ := startTls_does env con
  unfold sendData
  dsimp only
  generalize startTls env con = con₁ at hx ⊢
  refine Awaits.after ?_ hx
  split_ifs
  · exact (sendCompressedPacket_awaits env _ _ _).after (x := []) rfl
  · split
    · next con' hw => exact (netWrite_awaits env _ rfl hw).after (x := []) rfl
    · next con' name hw => exact ((netWrite_does env _ hw).failed_awaits rfl rfl).after (x := []) rfl

end Sends

end LibAttachSql
