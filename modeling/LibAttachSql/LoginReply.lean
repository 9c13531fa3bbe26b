import LibAttachSql.Emissions
import LibAttachSql.Lib.NativeLogin

/-!
# The answer to the greeting

What `attachsql_handshake_response` puts into the write buffer for the login and hands on, and what a server reads out of it:
the user, the schema, and a token that proves the password.  With TLS asked for a short request goes out before the login.
-/

namespace LibAttachSql

open Lib

/-! ### Connections that are accepted -/

/-- `ATTACHSQL_MAX_USER_SIZE`. -/
def maxUserSize : ℕ := 16

/-- A C string in a memory that goes on behind its NUL. -/
def cString (bytes : List UInt8) : List UInt8 := bytes.takeWhile (· ≠ 0)

/-- `attachsql_connect_create` from the checks of its arguments on; `none` is a null pointer. -/
def connectCreate (env : Env) (port : ℕ) (user pass schema : Option (List UInt8)) (error : ErrorPtr) :
    Option Con × ErrorPtr :=
  match user with
  | none => (none, errorClientCreate env error errorCodeParameter "22023" "User name too long")
  | some user =>
    if maxUserSize < (cString user).length then
      (none, errorClientCreate env error errorCodeParameter "22023" "User name too long")
    else
      match schema with
      | none => (none, errorClientCreate env error errorCodeParameter "22023" "Schema too long")
      | some schema =>
        if maxSchemaSize < (cString schema).length then
          (none, errorClientCreate env error errorCodeParameter "22023" "Schema too long")
        else (some (.fresh port (cString user) (pass.map cString) (cString schema)), error)

/-- The user and the schema are as `attachsql_connect_create` lets them through. -/
structure Con.Accepted (con : Con) : Prop where
  user_le : con.user.length ≤ maxUserSize
  user_nul : 0 ∉ con.user
  schema_le : con.schema.length ≤ maxSchemaSize
  schema_nul : 0 ∉ con.schema

lemma zero_notMem_cString (bytes : List UInt8) : 0 ∉ cString bytes := fun h => by
  have hne := List.mem_takeWhile_imp h
  revert hne
  decide

/-- **What is created is accepted.** -/
theorem connectCreate_accepted {env : Env} {port : ℕ} {user pass schema : Option (List UInt8)} {error error' : ErrorPtr}
    {con : Con} (h : connectCreate env port user pass schema error = (some con, error')) : con.Accepted := by
  unfold connectCreate at h
  cases user with
  | none => cases h
  | some user =>
    dsimp only at h
    by_cases huser : maxUserSize < (cString user).length
    · rw [if_pos huser] at h
      cases h
    · rw [if_neg huser] at h
      cases schema with
      | none => cases h
      | some schema =>
        dsimp only at h
        by_cases hschema : maxSchemaSize < (cString schema).length
        · rw [if_pos hschema] at h
          cases h
        · rw [if_neg hschema] at h
          cases h
          exact ⟨Nat.not_lt.mp huser, zero_notMem_cString user, Nat.not_lt.mp hschema, zero_notMem_cString schema⟩

/-! ### The payload -/

/-- The login that `attachsql_handshake_response` builds; without a place to read the password from, or a scramble, there
is none. -/
def loginPayload (env : Env) (con : Con) : Option (List UInt8) :=
  let head := handshakeHead con ++ con.user ++ [0]
  match con.pass with
  | none => none
  | some [] => some (head ++ [0] ++ con.schema ++ [0])
  | some (c :: pass) =>
    (scramblePassword env con (c :: pass)).map fun token =>
      head ++ [UInt8.ofNat sha1DigestLength] ++ token ++ con.schema ++ [0]

section Payload

variable {env : Env} {con : Con}

/-- The payload is what is sent, and an answer is expected. -/
lemma handshakeLogin_of_some {payload : List UInt8} (h : loginPayload env con = some payload) :
    handshakeLogin env con = packetQueuePush env (sendWriteBuffer env con payload) .response := by
  unfold loginPayload at h
  unfold handshakeLogin
  cases hpass : con.pass with
  | none =>
    rw [hpass] at h
    cases h
  | some pass =>
    rw [hpass] at h
    cases pass with
    | nil =>
      cases h
      rfl
    | cons c pass =>
      dsimp only at h ⊢
      cases htoken : scramblePassword env con (c :: pass) with
      | none =>
        rw [htoken] at h
        cases h
      | some token =>
        rw [htoken] at h
        cases h
        rfl

/-- Without a payload nothing is written. -/
lemma handshakeLogin_of_none (h : loginPayload env con = none) : handshakeLogin env con = con.log .fault ∨
    handshakeLogin env con = { con.fail .badScramble with localErrcode := .badScramble } := by
  unfold loginPayload at h
  unfold handshakeLogin
  cases hpass : con.pass with
  | none => exact .inl rfl
  | some pass =>
    rw [hpass] at h
    cases pass with
    | nil => cases h
    | cons c pass =>
      dsimp only at h ⊢
      cases htoken : scramblePassword env con (c :: pass) with
      | none => exact .inr rfl
      | some token =>
        rw [htoken] at h
        cases h

/-- When there is a payload: there is a password, and a scramble for it unless it is empty. -/
lemma loginPayload_isSome_iff : (loginPayload env con).isSome = true ↔
    con.pass ≠ none ∧ (con.pass = some [] ∨ con.scrambleBuffer.headD 0 ≠ 0) := by
  unfold loginPayload scramblePassword
  cases con.pass with
  | none => exact iff_of_false nofun fun h => h.1 rfl
  | some pass =>
    cases pass with
    | nil => exact iff_of_true rfl ⟨nofun, .inl rfl⟩
    | cons c pass =>
      dsimp only
      split_ifs with hzero
      · refine iff_of_false nofun fun h => ?_
        rcases h.2 with hnil | hne
        · cases hnil
        · exact hne hzero
      · exact iff_of_true rfl ⟨nofun, .inr hzero⟩

end Payload

/-! ### What is sent -/

/-- What a login is made of. -/
def Con.credentials (con : Con) : List UInt8 × Option (List UInt8) × List UInt8 × List UInt8 × ℕ × ℕ :=
  (con.user, con.pass, con.schema, con.scrambleBuffer, con.serverCapabilities, con.clientCapabilities)

/-- TLS was not asked for; or the server has it, and the marker of the short request stands first among the expected packets
or finds room there.  The request leaves nothing expected when it fails. -/
def TlsGoesOn (env : Env) (con : Con) : Prop :=
  con.ssl.ssl = true → con.serverCapabilities.testBit capabilitySsl = true ∧
    (packetQueuePeek con = some .handshakeSsl ∨
      queueHasRoom env con (if dataFails env con (handshakeHead con) then 0 else con.nextPacketQueue.length) = true)

section Sent

variable {env : Env} {con : Con}

lemma length_handshakeHead (con : Con) : (handshakeHead con).length = 32 := rfl

lemma loginPayload_congr {con con' : Con} (h : con'.credentials = con.credentials) (hssl : con'.ssl.ssl = con.ssl.ssl) :
    loginPayload env con' = loginPayload env con := by
  simp only [Con.credentials, Prod.mk.injEq] at h
  obtain ⟨huser, hpass, hschema, hscramble, hserver, hclient⟩ := h
  unfold loginPayload handshakeHead scramblePassword
  rw [huser, hpass, hschema, hscramble, hserver, hclient, hssl]

/-- What is sent from the write buffer stands there, behind a push as well, and the credentials stay. -/
lemma sendWriteBuffer_push (payload : List UInt8) (t : PacketType) :
    (packetQueuePush env (sendWriteBuffer env con payload) t).writeBuffer = con.writeBuffer.store 0 payload ∧
      (packetQueuePush env (sendWriteBuffer env con payload) t).credentials = con.credentials ∧
      (packetQueuePush env (sendWriteBuffer env con payload) t).ssl.ssl = con.ssl.ssl := by
  have hkept : ∀ {con con' : Con}, con.SendOnly con' →
      (con'.writeBuffer, con'.credentials) = (con.writeBuffer, con.credentials) := fun h => by
    unfold Con.SendOnly at h
    rw [h]
    rfl
  have hsend := sendData_keeps env { con with writeBuffer := con.writeBuffer.store 0 payload }
    (fun con => (con.writeBuffer, con.credentials)) hkept (fun _ _ => rfl) payload
  have hemits : con.Emits (fun _ => True) (sendWriteBuffer env con payload) := sendWriteBuffer_emits env con fun m =>
    sendData_emits env _ (fun _ => trivial) payload (fun _ _ => trivial)
      fun _ => ⟨fun _ _ _ => trivial, fun _ _ _ _ => trivial⟩
  obtain ⟨_, _, _, _, hpush⟩ := packetQueuePush_frame env (sendWriteBuffer env con payload) t
  rw [hpush]
  exact ⟨congrArg Prod.fst hsend, congrArg Prod.snd hsend, hemits.ssl_eq⟩

/-- When the marker of the short request comes to stand first. -/
lemma tlsRequested_peek_iff (h : packetQueuePeek con ≠ some .handshakeSsl) :
    packetQueuePeek (tlsRequested env con) = some .handshakeSsl ↔
      queueHasRoom env con (if dataFails env con (handshakeHead con) then 0 else con.nextPacketQueue.length) = true := by
  have hkept : ∀ {con con' : Con}, con.SendOnly con' →
      (con'.nextPacketQueueSize, con'.nextPacketQueueBytes) = (con.nextPacketQueueSize, con.nextPacketQueueBytes) :=
    fun h => by
      unfold Con.SendOnly at h
      rw [h]
  have hsend := sendData_keeps env { con with writeBuffer := con.writeBuffer.store 0 (handshakeHead con) }
    (fun con => (con.nextPacketQueueSize, con.nextPacketQueueBytes)) hkept (fun _ _ => rfl) (handshakeHead con)
  have hroom : queueHasRoom env (sendWriteBuffer env con (handshakeHead con)) = queueHasRoom env con :=
    queueHasRoom_congr env (congrArg Prod.fst hsend) (congrArg Prod.snd hsend)
  have hqueue : (sendWriteBuffer env con (handshakeHead con)).nextPacketQueue =
      if dataFails env con (handshakeHead con) then [] else con.nextPacketQueue := sendData_queue
  have hlength : (if dataFails env con (handshakeHead con) then 0 else con.nextPacketQueue.length) =
      (if dataFails env con (handshakeHead con) then [] else con.nextPacketQueue).length := by
    split_ifs <;> rfl
  have hhead : (if dataFails env con (handshakeHead con) then [] else con.nextPacketQueue).head? ≠ some .handshakeSsl := by
    split_ifs
    · exact nofun
    · exact h
  unfold packetQueuePeek tlsRequested
  rw [packetQueuePush_queue, hroom, hqueue, hlength]
  generalize (if dataFails env con (handshakeHead con) then [] else con.nextPacketQueue) = q at hhead ⊢
  split_ifs with hr
  · exact iff_of_true rfl hr
  · exact iff_of_false hhead hr

/-- **How a handshake is answered**: by the login, on a connection that differs in what the request for TLS left; or not. -/
theorem handshakeResponse_cases :
    (TlsGoesOn env con ∧ ∃ con₁, handshakeResponse env con = handshakeLogin env con₁ ∧
      (con.ssl.ssl = true → con₁.ssl.enabled = true) ∧ loginPayload env con₁ = loginPayload env con ∧
      ∀ a, 32 ≤ a → con₁.writeBuffer a = con.writeBuffer a) ∨
    (¬ TlsGoesOn env con ∧ ∀ a, 32 ≤ a → (handshakeResponse env con).writeBuffer a = con.writeBuffer a) := by
  have hrequested := @sendWriteBuffer_push env con (handshakeHead con) .handshakeSsl
  have hbehind : ∀ a, 32 ≤ a → (tlsRequested env con).writeBuffer a = con.writeBuffer a := fun a ha => by
    have hbuffer : (tlsRequested env con).writeBuffer = con.writeBuffer.store 0 (handshakeHead con) := hrequested.1
    rw [hbuffer]
    exact Memory.store_of_ge (by rw [length_handshakeHead, Nat.zero_add]; exact ha)
  rw [handshakeResponse_eq]
  unfold TlsGoesOn
  by_cases hssl : con.ssl.ssl = true
  · rw [if_pos hssl]
    by_cases hserver : con.serverCapabilities.testBit capabilitySsl = true
    · rw [if_neg (not_not_intro hserver)]
      by_cases hpeek : packetQueuePeek con = some .handshakeSsl
      · rw [if_pos hpeek]
        refine .inl ⟨fun _ => ⟨hserver, .inl hpeek⟩, tlsEnabled con, rfl, fun _ => rfl, ?_, fun _ _ => rfl⟩
        exact loginPayload_congr rfl rfl
      · rw [if_neg hpeek]
        by_cases hmarked : packetQueuePeek (tlsRequested env con) = some .handshakeSsl
        · rw [if_pos hmarked]
          refine .inl ⟨fun _ => ⟨hserver, .inr ((tlsRequested_peek_iff hpeek).mp hmarked)⟩,
            tlsEnabled (tlsRequested env con), rfl, fun _ => rfl, ?_, hbehind⟩
          exact loginPayload_congr hrequested.2.1 hrequested.2.2
        · rw [if_neg hmarked]
          refine .inr ⟨fun hgoes => ?_, hbehind⟩
          rcases (hgoes hssl).2 with hn | hroom
          · exact hpeek hn
          · exact hmarked ((tlsRequested_peek_iff hpeek).mpr hroom)
    · rw [if_pos hserver]
      exact .inr ⟨fun hgoes => hserver (hgoes hssl).1, fun _ _ => rfl⟩
  · rw [if_neg hssl]
    exact .inl ⟨fun h => absurd h hssl, con, rfl, fun h => absurd h hssl, rfl, fun _ _ => rfl⟩

end Sent

/-! ### What a server reads -/

/-- The answer to the greeting hands this payload on as the login.  It fits in the write buffer, and stands there in the end
whatever was there before; with TLS asked for, TLS is enabled when it is sent; and its answer is expected. -/
structure SendsLogin (env : Env) (con : Con) (payload : List UInt8) : Prop where
  fits : payload.length ≤ writeBufferSize
  written : ∀ m, (handshakeResponse env { con with writeBuffer := m }).writeBuffer.slice 0 payload.length = payload
  sent : ∃ con₁ : Con, (con.ssl.ssl = true → con₁.ssl.enabled = true) ∧
    handshakeResponse env con = packetQueuePush env (sendWriteBuffer env con₁ payload) .response

/-- A server reads the user and the schema out of the login, and a token: none without a password, and else one that it
accepts for the password and the scramble it has sent. -/
def LoginReply (env : Env) (con : Con) : Prop :=
  ∃ payload request, SendsLogin env con payload ∧ decodeLogin payload = some request ∧
    request.user = con.user ∧ request.schema = con.schema ∧
    (con.pass.getD [] = [] → request.token = []) ∧
    (con.pass.getD [] ≠ [] →
      NativeAccepts env.sha1 con.scrambleBuffer (env.sha1 (env.sha1 (con.pass.getD []))) request.token)

section Reply

variable {env : Env} {con : Con}

/-- A login with a token of so many bytes fits and is read back. -/
lemma decodeLogin_login (h : con.Accepted) {token : List UInt8} {n : UInt8} (hn : token.length = n.toNat) :
    (handshakeHead con ++ con.user ++ [0] ++ [n] ++ token ++ con.schema ++ [0]).length ≤ writeBufferSize ∧
      ∃ request, decodeLogin (handshakeHead con ++ con.user ++ [0] ++ [n] ++ token ++ con.schema ++ [0]) = some request ∧
        request.user = con.user ∧ request.schema = con.schema ∧ request.token = token := by
  constructor
  · have huser := h.user_le
    have hschema := h.schema_le
    have htoken := n.toNat_lt
    simp only [List.length_append, length_handshakeHead, List.length_singleton]
    unfold maxUserSize at huser
    unfold maxSchemaSize at hschema
    unfold writeBufferSize
    omega
  · unfold handshakeHead
    dsimp only
    rw [decodeLogin_append rfl rfl rfl h.user_nul hn h.schema_nul]
    exact ⟨_, rfl, rfl, rfl, rfl⟩

/-- Without a payload, or with a request for TLS that does not go on, the write buffer is as before behind the fixed
fields. -/
lemma handshakeResponse_writeBuffer (h : ¬ (TlsGoesOn env con ∧ (loginPayload env con).isSome = true)) {a : ℕ}
    (ha : 32 ≤ a) : (handshakeResponse env con).writeBuffer a = con.writeBuffer a := by
  rcases @handshakeResponse_cases env con with ⟨hgoes, con₁, he, -, hpayload, hbuffer⟩ | ⟨-, hbuffer⟩
  · have hnone : loginPayload env con₁ = none := by
      rw [hpayload]
      exact Option.not_isSome_iff_eq_none.mp fun hsome => h ⟨hgoes, hsome⟩
    rw [he, ← hbuffer a ha]
    rcases handshakeLogin_of_none hnone with hfault | hfailed
    · rw [hfault]
      rfl
    · rw [hfailed]
      rfl
  · exact hbuffer a ha

/-- A login that a server can read was built. -/
lemma SendsLogin.goesOn {payload : List UInt8} {request : LoginRequest} (h : SendsLogin env con payload)
    (hread : decodeLogin payload = some request) : TlsGoesOn env con ∧ (loginPayload env con).isSome = true := by
  by_contra hnot
  have hlen := lt_length_of_decodeLogin hread
  -- the byte behind the fixed fields would be what was there before, whatever that was
  have hbyte : ∀ b : UInt8, payload[32] = b := fun b => by
    have hcell : (handshakeResponse env { con with writeBuffer := fun _ => b }).writeBuffer 32 = b :=
      @handshakeResponse_writeBuffer env { con with writeBuffer := fun _ => b } hnot 32 le_rfl
    have hslice := Memory.getElem_slice (handshakeResponse env { con with writeBuffer := fun _ => b }).writeBuffer 0
      payload.length 32 (by rw [Memory.length_slice]; exact hlen)
    rw [Nat.zero_add, hcell] at hslice
    rw [← hslice]
    exact getElem_congr_coll (h.written _).symm
  exact absurd ((hbyte 0).symm.trans (hbyte 1)) (by decide)

/-- A payload that was built is sent. -/
lemma sendsLogin_of_payload {payload : List UInt8} (hgoes : TlsGoesOn env con)
    (hpayload : loginPayload env con = some payload) (hfits : payload.length ≤ writeBufferSize) :
    SendsLogin env con payload := by
  have hresponse : ∀ m, ∃ con₁ : Con, (con.ssl.ssl = true → con₁.ssl.enabled = true) ∧
      handshakeResponse env { con with writeBuffer := m } =
        packetQueuePush env (sendWriteBuffer env con₁ payload) .response := fun m => by
    rcases @handshakeResponse_cases env { con with writeBuffer := m } with
      ⟨-, con₁, he, hssl, hpayload', -⟩ | ⟨hstops, -⟩
    · exact ⟨con₁, hssl, he.trans (handshakeLogin_of_some (hpayload'.trans hpayload))⟩
    · exact absurd hgoes hstops
  refine ⟨hfits, fun m => ?_, hresponse con.writeBuffer⟩
  obtain ⟨con₁, -, he⟩ := hresponse m
  rw [he, (sendWriteBuffer_push payload .response).1, Memory.slice_store]

/-- **When the login is read back**: exactly when the password is no null pointer, and is empty or goes with a scramble
that does not begin with a NUL, and TLS goes on if it was asked for. -/
theorem login_reply_iff (hc : con.Accepted) (hscramble : con.scrambleBuffer.length = sha1DigestLength)
    (hsha1 : ∀ bytes, (env.sha1 bytes).length = sha1DigestLength) :
    LoginReply env con ↔
      con.pass ≠ none ∧ (con.pass = some [] ∨ con.scrambleBuffer.headD 0 ≠ 0) ∧ TlsGoesOn env con := by
  constructor
  · rintro ⟨payload, request, hsends, hread, -⟩
    obtain ⟨hgoes, hsome⟩ := hsends.goesOn hread
    obtain ⟨hpass, hcase⟩ := loginPayload_isSome_iff.mp hsome
    exact ⟨hpass, hcase, hgoes⟩
  · rintro ⟨hpass, hcase, hgoes⟩
    cases hp : con.pass with
    | none => exact absurd hp hpass
    | some pass =>
      cases pass with
      | nil =>
        have hpayload : loginPayload env con =
            some (handshakeHead con ++ con.user ++ [0] ++ [0] ++ [] ++ con.schema ++ [0]) := by
          unfold loginPayload
          rw [hp, List.append_nil]
        obtain ⟨hlength, request, hread, huser, hschema, htoken⟩ := @decodeLogin_login con hc [] 0 rfl
        refine ⟨_, request, sendsLogin_of_payload hgoes hpayload hlength, hread, huser, hschema, fun _ => htoken, ?_⟩
        rw [hp]
        exact fun hne => absurd rfl hne
      | cons c pass =>
        have hzero : con.scrambleBuffer.headD 0 ≠ 0 := hcase.resolve_left fun hnil => by
          rw [hp] at hnil
          cases hnil
        have htoken : scramblePassword env con (c :: pass) = some (nativeToken env.sha1 con.scrambleBuffer (c :: pass)) := by
          unfold scramblePassword nativeToken xorBytes
          rw [if_neg hzero, List.take_of_length_le hscramble.le]
        have hpayload : loginPayload env con = some (handshakeHead con ++ con.user ++ [0] ++
            [UInt8.ofNat sha1DigestLength] ++ nativeToken env.sha1 con.scrambleBuffer (c :: pass) ++ con.schema ++ [0]) := by
          unfold loginPayload
          rw [hp]
          dsimp only
          rw [htoken]
          rfl
        have hlen : (nativeToken env.sha1 con.scrambleBuffer (c :: pass)).length = (UInt8.ofNat sha1DigestLength).toNat :=
          length_nativeToken env.sha1 hsha1 _ _
        obtain ⟨hlength, request, hread, huser, hschema, hrequest⟩ := @decodeLogin_login con hc _ _ hlen
        refine ⟨_, request, sendsLogin_of_payload hgoes hpayload hlength, hread, huser, hschema, ?_, fun _ => ?_⟩
        · rw [hp]
          exact fun hnil => by cases hnil
        · rw [hp, hrequest]
          exact nativeAccepts_nativeToken env.sha1 hsha1 _ _

end Reply

/-! ### A login -/

/-- `SHA1("a")`, and its hash. -/
def hashOfA : List UInt8 :=
  [0x86, 0xf7, 0xe4, 0x37, 0xfa, 0xa5, 0xa7, 0xfc, 0xe1, 0x5d, 0x1d, 0xdc, 0xb9, 0xea, 0xea, 0xea, 0x37, 0x76, 0x67, 0xb8]

def doubleHashOfA : List UInt8 :=
  [0x66, 0x7f, 0x40, 0x7d, 0xe7, 0xc6, 0xad, 0x07, 0x35, 0x8f, 0xa3, 0x8d, 0xae, 0xd7, 0x82, 0x8a, 0x72, 0x01, 0x4b, 0x4e]

/-- A scramble of ones. -/
def onesScramble : List UInt8 := List.replicate 20 1

/-- The hash of that scramble and the double hash. -/
def hashOfScramble : List UInt8 :=
  [0xcd, 0x8e, 0x28, 0x0b, 0x4f, 0xfc, 0x79, 0xec, 0x20, 0x86, 0xfb, 0x27, 0x96, 0xcb, 0x42, 0x41, 0x66, 0x98, 0x0c, 0xbc]

/-- An environment whose SHA-1 is right on what is hashed to log in with the password `a` and that scramble. -/
def Env.hashing : Env := { Env.calm with
  sha1 := fun bytes =>
    if bytes = [0x61] then hashOfA
    else if bytes = hashOfA then doubleHashOfA
    else if bytes = onesScramble ++ doubleHashOfA then hashOfScramble
    else List.replicate 20 0 }

/-- A connection with a password that has read a scramble. -/
def Con.scrambled (pass : Option (List UInt8)) (scramble : List UInt8) : Con :=
  { Con.fresh 3306 [0x74] pass [0x64] with scrambleBuffer := scramble }

lemma Con.scrambled_accepted (pass : Option (List UInt8)) (scramble : List UInt8) : (scrambled pass scramble).Accepted := by
  constructor
  · show 1 ≤ 16
    decide
  · show 0 ∉ [(0x74 : UInt8)]
    decide
  · show 1 ≤ 64
    decide
  · show 0 ∉ [(0x64 : UInt8)]
    decide

lemma Env.length_hashing (bytes : List UInt8) : (Env.hashing.sha1 bytes).length = sha1DigestLength := by
  show (if _ then _ else if _ then _ else if _ then _ else _ : List UInt8).length = _
  split_ifs
  · rfl
  · rfl
  · rfl
  · rfl

theorem login_reply_ones : LoginReply .hashing (.scrambled (some [0x61]) onesScramble) :=
  (login_reply_iff (Con.scrambled_accepted _ _) rfl Env.length_hashing).mpr ⟨nofun, .inr (by decide), nofun⟩

/-- A scramble that begins with a NUL. -/
def nulScramble : List UInt8 := 0 :: List.replicate 19 1

/-- A connection with a password for which TLS was asked for, to a server that has none. -/
def Con.untrusted : Con := { Con.scrambled (some [0x61]) onesScramble with ssl.ssl := true }

/-- There is no login for a null password, none for a scramble that begins with a NUL, and none to a server without TLS when
that was asked for. -/
theorem login_reply_refused :
    ((Con.scrambled none onesScramble).Accepted ∧ ¬ LoginReply .hashing (.scrambled none onesScramble)) ∧
      ((Con.scrambled (some [0x61]) nulScramble).Accepted ∧
        ¬ LoginReply .hashing (.scrambled (some [0x61]) nulScramble)) ∧
      Con.untrusted.Accepted ∧ ¬ LoginReply .hashing .untrusted := by
  have hnone : ∀ con : Con, ¬ (TlsGoesOn .hashing con ∧ (loginPayload .hashing con).isSome = true) →
      ¬ LoginReply .hashing con := fun con hnot hreply => by
    obtain ⟨payload, request, hsends, hread, -⟩ := hreply
    exact hnot (hsends.goesOn hread)
  refine ⟨⟨Con.scrambled_accepted _ _, hnone _ fun h => ?_⟩, ⟨Con.scrambled_accepted _ _, hnone _ fun h => ?_⟩,
    ?_, hnone _ fun h => ?_⟩
  · cases h.2
  · cases h.2
  · have h := Con.scrambled_accepted (some [0x61]) onesScramble
    exact ⟨h.user_le, h.user_nul, h.schema_le, h.schema_nul⟩
  · have hserver := (h.1 rfl).1
    revert hserver
    decide

end LibAttachSql
