import LibAttachSql.SendFraming

/-!
# The compressed send path

With compression the packet of a command is gathered in one work buffer, compressed into a second one unless its data is
short, and handed on behind a header of seven bytes: the length of what follows, a number, and the length the packet had
before, or 0 for a packet that is stored.  This module says when what is handed on stands for the packet that would be
handed on without compression, and when a packet is refused that zlib compressed.
-/

namespace LibAttachSql

open Lib

/-! ### zlib -/

/-- What the library relies on in zlib: `compress` stays inside the buffer it is given, and `uncompress` undoes it in any
buffer with room for the result. -/
structure Env.Zlib (env : Env) : Prop where
  fits : ∀ {bs z : List UInt8} {n : ℕ}, env.compress bs n = some z → z.length ≤ n
  inverts : ∀ {bs z : List UInt8} {n m : ℕ}, env.compress bs n = some z → bs.length ≤ m → env.uncompress z m = some bs

/-- The packet a compressed packet stands for: with an uncompressed length of 0 what it carries, else what that
inflates to, which must have this length. -/
def inflate (env : Env) (packet : Frame) : Option (List UInt8) :=
  let uncompressed := littleEndian (packet.header.drop 1)
  if uncompressed = 0 then some packet.payload
  else (env.uncompress packet.payload uncompressed).filter (·.length = uncompressed)

/-! ### The work buffers -/

variable (env : Env) (con : Con) (command : Command) (data : List UInt8)

/-- The size of the buffer the packet is gathered in. -/
def uncompressedRoom : ℕ := enlarged con.uncompressedBufferLen (commandPacket con command data).length

/-- The size of the buffer the packet is compressed into. -/
def compressedRoom : ℕ :=
  enlarged con.compressedBufferLen (env.compressBound (commandPacket con command data).length)

/-- What zlib makes of the packet. -/
def deflated : Option (List UInt8) :=
  env.compress (commandPacket con command data) (compressedRoom env con command data)

/-- The stores that gather the packet, by their place in the work buffer. -/
def gatherStores : List (ℕ × List UInt8) := [
  (0, packInt3 (data.length + 1 + con.writeBufferExtra) ++ [0]),
  (4, [command.code]),
  (5, con.writeBuffer.slice 1 con.writeBufferExtra),
  (5 + con.writeBufferExtra, data)]

lemma length_commandPacket :
    (commandPacket con command data).length = data.length + 4 + (1 + con.writeBufferExtra) := by
  unfold commandPacket
  rw [List.length_append, length_commandPayload]
  simp only [packInt3, List.length_append, List.length_cons, List.length_nil]
  omega

lemma le_enlarged (len required : ℕ) : required ≤ enlarged len required := by
  unfold enlarged enlarge writeBufferSize
  split_ifs <;> omega

/-- The stores stay inside the work buffer. -/
lemma gatherStores_inside {s : ℕ × List UInt8} (h : s ∈ gatherStores con command data) :
    s.1 + s.2.length ≤ uncompressedRoom con command data := by
  have hroom := le_enlarged con.uncompressedBufferLen (commandPacket con command data).length
  rw [length_commandPacket] at hroom
  unfold uncompressedRoom
  rw [length_commandPacket]
  simp only [gatherStores, List.mem_cons, List.not_mem_nil, or_false] at h
  rcases h with rfl | rfl | rfl | rfl
  · simp only [packInt3, List.length_append, List.length_cons, List.length_nil]
    omega
  · simp only [List.length_cons, List.length_nil]
    omega
  · simp only [Memory.length_slice]
    omega
  · dsimp only
    omega

/-! ### What a send comes to -/

/-- The packet was refused for what zlib answered. -/
def Action.refuses : Action → Bool
  | .failed .compress _ _ => true
  | _ => false

/-- From `con` to `con'` some pieces were handed on, and a packet refused or not. -/
def Comes (tls : Bool) (P : List (List UInt8) → Bool → Prop) (con con' : Con) : Prop :=
  ∃ x, con'.trace = x ++ con.trace ∧ P (x.filterMap (Action.handed tls)) (x.any Action.refuses)

section Comes

variable {tls : Bool} {P Q : List (List UInt8) → Bool → Prop} {con con₁ con' : Con} {x : List Action}

lemma Comes.before (h : Comes tls P con₁ con') (ht : con₁.trace = x ++ con.trace)
    (hx : x.filterMap (Action.handed tls) = []) (hr : x.any Action.refuses = false) : Comes tls P con con' := by
  obtain ⟨y, hy, h⟩ := h
  refine ⟨y ++ x, by rw [hy, ht, List.append_assoc], ?_⟩
  rwa [List.filterMap_append, hx, List.append_nil, List.any_append, hr, Bool.or_false]

lemma Comes.after (h : Comes tls P con con₁) (ht : con'.trace = x ++ con₁.trace)
    (hx : x.filterMap (Action.handed tls) = []) (hr : x.any Action.refuses = false) : Comes tls P con con' := by
  obtain ⟨y, hy, h⟩ := h
  refine ⟨x ++ y, by rw [ht, hy, List.append_assoc], ?_⟩
  rwa [List.filterMap_append, hx, List.nil_append, List.any_append, hr, Bool.false_or]

lemma Comes.mono (h : Comes tls P con con') (hPQ : ∀ {ps r}, P ps r → Q ps r) : Comes tls Q con con' := by
  obtain ⟨x, hx, h⟩ := h
  exact ⟨x, hx, hPQ h⟩

lemma net_refuses {c c' : Control} (h : Path Control.NetMove c x c') : x.any Action.refuses = false := by
  induction h with
  | refl => rfl
  | snoc _ hm ih =>
    rw [List.any_append, ih, Bool.or_false]
    cases hm with
    | quiet hq => cases hq <;> rfl
    | fail site hs => rcases hs with rfl | rfl | rfl <;> rfl

lemma pushed_refuses {t : PacketType} {c c' : Control} (h : Control.Pushed t c x c') :
    x.any Action.refuses = false := by
  cases h <;> rfl

/-- A write hands on its parts in one piece and refuses nothing. -/
lemma netWrite_comes {env : Env} {con con' : Con} {parts : List (List UInt8)} {failure : Option String}
    (hw : netWrite env con parts = (con', failure)) :
    Comes con.ssl.handshakeDone (fun ps r => (∀ p ∈ ps, p = parts.flatten) ∧ r = false) con con' := by
  obtain ⟨x, hx, hP⟩ := netWrite_does env con hw
  obtain ⟨y, hy, h⟩ := netWrite_hands env con hw
  obtain rfl : x = y := List.append_cancel_right (hx.symm.trans hy)
  refine ⟨x, hx, ?_, net_refuses hP⟩
  rcases h with h | ⟨-, h⟩ <;> rw [h] <;> simp

end Comes

/-- The packet a compressed body is handed on as. -/
def compressedFrame (number : UInt8) (body : List UInt8) (uncompressed : ℕ) : List UInt8 :=
  packInt3 body.length ++ [number] ++ packInt3 uncompressed ++ body

lemma sendCompressedBuffers_comes (body : List UInt8) (uncompressed : ℕ) :
    Comes con.ssl.handshakeDone
      (fun ps r => (∀ p ∈ ps, p = compressedFrame con.compressedPacketNumber body uncompressed) ∧ r = false) con
      (sendCompressedBuffers env con body uncompressed) := by
  have hframe : [packInt3 body.length ++ [con.compressedPacketNumber] ++ packInt3 uncompressed, body].flatten =
      compressedFrame con.compressedPacketNumber body uncompressed := by
    simp [compressedFrame]
  unfold sendCompressedBuffers
  dsimp only
  rw [← hframe]
  split
  · next con' hw =>
    have h := netWrite_comes hw
    exact h
  · next con' name hw =>
    have h := netWrite_comes hw
    exact h.after (x := [.failed .sendCompressed con'.status con'.serverErrno]) rfl rfl rfl

/-- A work buffer has the room that is required, or is given it. -/
def RoomFor (env : Env) (len required : ℕ) : Prop :=
  ¬ (len < required ∧ (env.malloc.get (enlarge required)).isNone)

instance (len required : ℕ) : Decidable (RoomFor env len required) := by
  unfold RoomFor
  infer_instance

lemma compressPacket_comes (body : List UInt8) :
    Comes con.ssl.handshakeDone
      (fun ps r =>
        (∀ p ∈ ps, ∃ z, env.compress body (enlarged con.compressedBufferLen (env.compressBound body.length)) = some z ∧
          p = compressedFrame con.compressedPacketNumber z body.length) ∧
        (r = true ↔ RoomFor env con.compressedBufferLen (env.compressBound body.length) ∧
          ∀ z, env.compress body (enlarged con.compressedBufferLen (env.compressBound body.length)) = some z →
            con.uncompressedBufferLen < z.length)) con (compressPacket env con body) := by
  unfold compressPacket
  dsimp only
  split_ifs with hroom
  · refine ⟨[.failed .compressedAlloc con.status con.serverErrno], rfl, nofun, ?_⟩
    exact iff_of_false Bool.false_ne_true fun h => h.1 hroom
  · split
    · next hz =>
      refine ⟨[.failed .compress con.status con.serverErrno], rfl, nofun, iff_of_true rfl ⟨hroom, fun z h => ?_⟩⟩
      rw [hz] at h
      cases h
    · next z hz =>
      split_ifs with hlong
      · refine ⟨[.failed .compress con.status con.serverErrno], rfl, nofun, iff_of_true rfl ⟨hroom, fun z' h => ?_⟩⟩
        rw [hz] at h
        cases h
        exact hlong
      · obtain ⟨x, hx, hps, hr⟩ := sendCompressedBuffers_comes env
          { con with compressedBufferLen := enlarged con.compressedBufferLen (env.compressBound body.length) } z body.length
        refine ⟨x, hx, fun p hp => ⟨z, hz, hps p hp⟩, ?_⟩
        rw [hr]
        exact iff_of_false Bool.false_ne_true fun hall => hlong (hall.2 z hz)

/-- The packet a compressed command may be handed on as: stored when its data is short, else deflated. -/
def CompressedAs (p : List UInt8) : Prop :=
  data.length ≤ minimumCompressSize ∧ p = compressedFrame 0 (commandPacket con command data) 0 ∨
    minimumCompressSize < data.length ∧ ∃ z, deflated env con command data = some z ∧
      p = compressedFrame 0 z (commandPacket con command data).length

/-- The packet of a command is refused: it is to be compressed, both work buffers are there, and zlib fails or makes it
longer than the buffer it was gathered in. -/
def PacketRefused : Prop :=
  minimumCompressSize < data.length ∧
    RoomFor env con.uncompressedBufferLen (commandPacket con command data).length ∧
    RoomFor env con.compressedBufferLen (env.compressBound (commandPacket con command data).length) ∧
    ∀ z, deflated env con command data = some z → uncompressedRoom con command data < z.length

/-- The connection whose packet is gathered. -/
def gathered (con : Con) (command : Command) (data : List UInt8) : Con :=
  { commandStart con command data.length with
    compressedPacketNumber := 0
    uncompressedBufferLen := uncompressedRoom con command data
    writeBufferExtra := 0 }

@[simp] lemma gathered_number : (gathered con command data).compressedPacketNumber = 0 := rfl

@[simp] lemma gathered_uncompressed :
    (gathered con command data).uncompressedBufferLen = uncompressedRoom con command data := rfl

@[simp] lemma gathered_compressed :
    (gathered con command data).compressedBufferLen = con.compressedBufferLen := rfl

@[simp] lemma gathered_tls : (gathered con command data).ssl.handshakeDone = con.ssl.handshakeDone := rfl

lemma sendCompressedPacket_eq :
    sendCompressedPacket env (commandStart con command data.length) data (some command) =
      if con.uncompressedBufferLen < (commandPacket con command data).length ∧
          (env.malloc.get (enlarge (commandPacket con command data).length)).isNone then
        { commandStart con command data.length with compressedPacketNumber := 0 }.sendFailed .uncompressedAlloc
          .outOfMemoryError
      else if minimumCompressSize < data.length then
        compressPacket env (gathered con command data) (commandPacket con command data)
      else sendCompressedBuffers env (gathered con command data) (commandPacket con command data) 0 := by
  have hbody : uncompressedBody (commandStart con command data.length) data (some command) =
      commandPacket con command data := rfl
  have hlength : data.length + 4 + (if (some command).isSome then
      1 + (commandStart con command data.length).writeBufferExtra else 0) = (commandPacket con command data).length :=
    (length_commandPacket con command data).symm
  unfold sendCompressedPacket
  dsimp only
  rw [hbody, hlength]
  rfl

lemma sendCompressedPacket_comes :
    Comes con.ssl.handshakeDone
      (fun ps r => (∀ p ∈ ps, CompressedAs env con command data p) ∧ (r = true ↔ PacketRefused env con command data))
      (commandStart con command data.length)
      (sendCompressedPacket env (commandStart con command data.length) data (some command)) := by
  rw [sendCompressedPacket_eq]
  split_ifs with hroom hlong
  · exact ⟨[.failed .uncompressedAlloc con.status 0], rfl, nofun, iff_of_false Bool.false_ne_true fun h => h.2.1 hroom⟩
  · have hsend := compressPacket_comes env (gathered con command data) (commandPacket con command data)
    simp only [gathered_number, gathered_uncompressed, gathered_compressed, gathered_tls] at hsend
    obtain ⟨x, hx, hps, hr⟩ := hsend
    refine ⟨x, hx, fun p hp => .inr ⟨hlong, hps p hp⟩, hr.trans ?_⟩
    exact ⟨fun h => ⟨hlong, hroom, h⟩, fun h => h.2.2⟩
  · have hsend := sendCompressedBuffers_comes env (gathered con command data) (commandPacket con command data) 0
    simp only [gathered_number, gathered_tls] at hsend
    obtain ⟨x, hx, hps, hr⟩ := hsend
    refine ⟨x, hx, fun p hp => .inl ⟨Nat.not_lt.mp hlong, hps p hp⟩, ?_⟩
    rw [hr]
    exact iff_of_false Bool.false_ne_true fun h => hlong h.1

/-- **What a command comes to with compression**: its packet is handed on, stored or deflated, or nothing is; and when it
is refused. -/
theorem commandSend_comes (h : con.wantsCompress = true) :
    Comes con.ssl.handshakeDone
      (fun ps r => (∀ p ∈ ps, CompressedAs env con command data p) ∧ (r = true ↔ PacketRefused env con command data)) con
      (commandSend env con command data).1 := by
  have hcompressed : commandSend env con command data =
      commandSendCompressed env (commandStart con command data.length) command data := if_pos h
  have hsend := (sendCompressedPacket_comes env con command data).before
    (x := [.onStream con.stream con.ssl.handshakeDone, .command command con.status]) rfl rfl rfl
  rw [hcompressed]
  unfold commandSendCompressed
  dsimp only
  generalize sendCompressedPacket env (commandStart con command data.length) data (some command) = con₁ at hsend
  by_cases hidle : con₁.status = .idle
  · rw [if_pos hidle]
    obtain ⟨x, hx, hp⟩ := packetQueuePush_does env con₁ (if command = .stmtPrepare then .prepareResponse else .response)
    exact (hsend.after hx (pushed_handed hp) (pushed_refuses hp)).after (x := [.sent _]) rfl rfl rfl
  · rw [if_neg hidle]
    exact hsend

/-! ### Reading a compressed packet -/

lemma readFrames_compressedFrame {number : UInt8} {body : List UInt8} {uncompressed : ℕ} (h : body.length < 2 ^ 24) :
    readFrames 3 4 (compressedFrame number body uncompressed) = some [⟨number :: packInt3 uncompressed, body⟩] := by
  have hframe : compressedFrame number body uncompressed =
      packInt3 body.length ++ (number :: packInt3 uncompressed ++ body) := by
    simp [compressedFrame]
  rw [hframe]
  exact readFrames_single rfl rfl ((littleEndian_packInt3_eq_iff _).mpr h).symm (by decide)

/-- A stored packet stands for what it carries. -/
lemma inflate_stored {number : UInt8} {body : List UInt8} : inflate env ⟨number :: packInt3 0, body⟩ = some body := rfl

/-- A deflated packet stands for what was compressed. -/
lemma inflate_deflated (hz : env.Zlib) {number : UInt8} {bs z : List UInt8} {n : ℕ} (h : env.compress bs n = some z)
    (hpos : 0 < bs.length) (hlt : bs.length < 2 ^ 24) :
    inflate env ⟨number :: packInt3 bs.length, z⟩ = some bs := by
  have hlen : littleEndian ((number :: packInt3 bs.length).drop 1) = bs.length :=
    (littleEndian_packInt3_eq_iff _).mpr hlt
  unfold inflate
  dsimp only
  rw [hlen, if_neg (by omega), hz.inverts h (le_refl _)]
  simp

lemma CompressedAs.stands {env : Env} {con : Con} {command : Command} {data p : List UInt8}
    (h : CompressedAs env con command data p) (hz : env.Zlib) (hp : (commandPacket con command data).length < 2 ^ 24)
    (hd : ∀ z, deflated env con command data = some z → z.length < 2 ^ 24) :
    ∃ packet, readFrames 3 4 p = some [packet] ∧ inflate env packet = some (commandPacket con command data) := by
  rcases h with ⟨-, rfl⟩ | ⟨-, z, hdef, rfl⟩
  · exact ⟨_, readFrames_compressedFrame hp, inflate_stored env⟩
  · have hpos : 0 < (commandPacket con command data).length := by
      rw [length_commandPacket]
      omega
    exact ⟨_, readFrames_compressedFrame (hd z hdef), inflate_deflated env hz hdef hpos hp⟩

/-! ### Where the compressed path is right -/

/-- The compressed path does for a command what the plain one does. -/
structure SendsAsPlain : Prop where
  /-- What is handed on is a compressed packet that stands for the packet of the plain path. -/
  stands : ∀ p ∈ handedOn con (commandSend env con command data).1,
    ∃ packet, readFrames 3 4 p = some [packet] ∧ inflate env packet = some (commandPacket con command data)
  /-- The packet is gathered inside the first work buffer. -/
  gathers : ∀ s ∈ gatherStores con command data, s.1 + s.2.length ≤ uncompressedRoom con command data
  /-- The packet is compressed inside the second one. -/
  deflates : ∀ z, deflated env con command data = some z → z.length ≤ compressedRoom env con command data
  /-- A packet zlib can compress is not refused. -/
  keeps : ∀ z, deflated env con command data = some z →
    (newActions con (commandSend env con command data).1).any Action.refuses = false

/-- zlib makes the packet longer than the buffer it was gathered in. -/
def Overgrown : Prop :=
  minimumCompressSize < data.length ∧
    RoomFor env con.uncompressedBufferLen (commandPacket con command data).length ∧
    RoomFor env con.compressedBufferLen (env.compressBound (commandPacket con command data).length) ∧
    ∃ z, deflated env con command data = some z ∧ uncompressedRoom con command data < z.length

/-- **Where the compressed path sends as the plain one**: everywhere but where zlib makes the packet longer than the
buffer it was gathered in. -/
theorem compressed_send_iff (h : con.wantsCompress = true) (hz : env.Zlib)
    (hp : (commandPacket con command data).length < 2 ^ 24)
    (hd : ∀ z, deflated env con command data = some z → z.length < 2 ^ 24) :
    SendsAsPlain env con command data ↔ ¬ Overgrown env con command data := by
  obtain ⟨x, hx, hpieces, hrefused⟩ := commandSend_comes env con command data h
  have hnew := newActions_eq hx
  constructor
  · rintro hplain ⟨hlong, hu, hc, z, hdef, hroom⟩
    have hkeeps := hplain.keeps z hdef
    rw [hnew] at hkeeps
    refine Bool.eq_false_iff.mp hkeeps (hrefused.mpr ⟨hlong, hu, hc, fun z' hz' => ?_⟩)
    rw [hdef] at hz'
    cases hz'
    exact hroom
  · intro hover
    refine ⟨fun p hpiece => ?_, fun s hs => gatherStores_inside con command data hs, fun z hdef => hz.fits hdef,
      fun z hdef => ?_⟩
    · unfold handedOn at hpiece
      rw [hnew, List.mem_reverse] at hpiece
      exact (hpieces p hpiece).stands hz hp hd
    · rw [hnew]
      refine Bool.eq_false_iff.mpr fun hr => hover ?_
      obtain ⟨hlong, hu, hc, hall⟩ := hrefused.mp hr
      exact ⟨hlong, hu, hc, z, hdef, hall z hdef⟩

/-! ### Data zlib cannot shrink

On data it finds no repetition in, zlib writes a stored block: two bytes of header, a byte that announces the only block,
its length twice, the data, and a checksum.
-/

/-- The checksum of zlib. -/
def adler32 (bs : List UInt8) : ℕ :=
  let sums := bs.foldl (fun s b => ((s.1 + b.toNat) % 65521, (s.2 + s.1 + b.toNat) % 65521)) (1, 0)
  sums.2 * 2 ^ 16 + sums.1

/-- What zlib makes of fewer than `2 ^ 16` bytes it cannot shrink. -/
def storedBlock (bs : List UInt8) : List UInt8 :=
  [0x78, 0x9c, 0x01] ++ packInt2 bs.length ++ packInt2 (65535 - bs.length) ++ bs ++ (packInt4 (adler32 bs)).reverse

/-- zlib as it is on data it cannot shrink. -/
def Env.incompressible : Env :=
  { Env.calm with
    compressBound := fun n => n + n / 2 ^ 12 + n / 2 ^ 14 + n / 2 ^ 25 + 13
    compress := fun bs n => if bs.length < 2 ^ 16 ∧ bs.length + 11 ≤ n then some (storedBlock bs) else none
    uncompress := fun z n =>
      let bs := (z.drop 7).take (z.length - 11)
      if z = storedBlock bs ∧ bs.length ≤ n then some bs else none }

lemma Env.incompressible_zlib : Env.incompressible.Zlib := by
  have hlength : ∀ bs, (storedBlock bs).length = bs.length + 11 := fun bs => by
    simp only [storedBlock, packInt2, packInt4, List.length_append, List.length_cons, List.length_nil,
      List.length_reverse]
    omega
  have hdata : ∀ bs, ((storedBlock bs).drop 7).take ((storedBlock bs).length - 11) = bs := fun bs => by
    rw [hlength, Nat.add_sub_cancel]
    simp [storedBlock, packInt2]
  constructor
  · intro bs z n h
    obtain ⟨⟨-, hn⟩, hz⟩ := Option.ite_none_right_eq_some.mp h
    cases hz
    rw [hlength]
    exact hn
  · intro bs z n m h hm
    obtain ⟨-, hz⟩ := Option.ite_none_right_eq_some.mp h
    cases hz
    change (if _ ∧ _ then _ else _) = _
    rw [hdata, if_pos ⟨rfl, hm⟩]

/-- Bytes without repetition, from a linear congruential generator. -/
def noise (seed : ℕ) : ℕ → List UInt8
  | 0 => []
  | n + 1 =>
    let next := (1103515245 * seed + 12345) % 2 ^ 31
    UInt8.ofNat (next / 2 ^ 16) :: noise next n

/-- A connection that compresses. -/
def Con.compressing : Con := { Con.calm (2 ^ capabilityCompress) with stream := true }

/-- What zlib writes for a packet of the connection is no longer than the second work buffer. -/
lemma deflated_lt {command : Command} {data z : List UInt8}
    (h : deflated .incompressible .compressing command data = some z)
    (hroom : compressedRoom .incompressible .compressing command data < 2 ^ 24) : z.length < 2 ^ 24 :=
  (Env.incompressible_zlib.fits h).trans_lt hroom

/-- A query of one byte, which is stored. -/
theorem compressed_send_iff_query :
    SendsAsPlain .incompressible .compressing .query [0x53] ↔ ¬ Overgrown .incompressible .compressing .query [0x53] :=
  compressed_send_iff .incompressible .compressing .query [0x53] (by decide) Env.incompressible_zlib (by decide)
    fun _ hdef => deflated_lt hdef (by decide +kernel)

/-- A query of 1018 bytes zlib cannot shrink fills the buffer it is gathered in but for one byte, and is refused. -/
theorem noise_refused :
    (commandPacket .compressing .query (noise 12345 1018)).length < 2 ^ 24 ∧
      (∀ z, deflated .incompressible .compressing .query (noise 12345 1018) = some z → z.length < 2 ^ 24) ∧
      ¬ SendsAsPlain .incompressible .compressing .query (noise 12345 1018) := by
  refine ⟨by decide +kernel, fun _ hdef => deflated_lt hdef (by decide +kernel), fun hplain => ?_⟩
  have hdef : (deflated .incompressible .compressing .query (noise 12345 1018)).isSome := by decide +kernel
  have hrefuses : (newActions .compressing (commandSend .incompressible .compressing .query (noise 12345 1018)).1).any
      Action.refuses = true := by decide +kernel
  obtain ⟨z, hz⟩ := Option.isSome_iff_exists.mp hdef
  rw [hplain.keeps z hz] at hrefuses
  cases hrefuses

end LibAttachSql
