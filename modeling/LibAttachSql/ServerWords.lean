import LibAttachSql.Emissions
import LibAttachSql.Lib.NativeLogin

/-!
# What the server says

The words of a server that the client goes by, its capabilities and its status, as they stand in the payloads of its packets,
whoever reads them.  The readers of the library look for them at addresses of the read buffer; where a packet is whole
(`Whole`) they find the same words there.
-/

namespace LibAttachSql

open Lib

/-! ### Words in payloads -/

/-- The version in a handshake of protocol 10, and the numbers behind it. -/
def greetingParts : List UInt8 → Option (List UInt8 × List UInt8)
  | [] => none
  | b :: bs => if b = 10 then takeCString bs else none

/-- The word `i` places behind the version of a handshake. -/
def greetingWord (i : ℕ) (payload : List UInt8) : Option ℕ :=
  (greetingParts payload).bind fun g => (takeInt 2 (g.2.drop i)).map Prod.fst

/-- The capabilities that a handshake offers: behind a thread id, the first part of the scramble and a NUL. -/
def offeredCapabilities (payload : List UInt8) : Option ℕ := greetingWord 13 payload

/-- The version of a handshake fits where it is copied to. -/
def VersionFits (payload : List UInt8) : Prop :=
  ∀ g, greetingParts payload = some g → g.1.length < maxServerVersionLen

instance : DecidablePred VersionFits := fun payload => by
  unfold VersionFits
  cases greetingParts payload with
  | none => exact isTrue nofun
  | some g =>
    exact decidable_of_iff (g.1.length < maxServerVersionLen) ⟨fun h _ hg => Option.some.inj hg ▸ h, fun h => h g rfl⟩

/-- The status word of an OK packet, behind two numbers in as many bytes as they need. -/
def okWord (payload : List UInt8) : Option ℕ :=
  (takeLength (payload.drop 1)).bind fun r => (takeLength r.2).bind fun r => (takeInt 2 r.2).map Prod.fst

/-- The status word of an EOF packet, behind a number of warnings; a longer packet is none. -/
def eofWord (payload : List UInt8) : Option ℕ :=
  if payload.length < 9 then (takeInt 2 (payload.drop 3)).map Prod.fst else none

/-- The status word in a packet of this type, if there is one: in a handshake, an OK packet or an EOF packet. -/
def statusIn (t : PacketType) (payload : List UInt8) : Option ℕ :=
  match t with
  | .handshake => greetingWord 16 payload
  | .response =>
    if payload.head? = some 0x00 then okWord payload else if payload.head? = some 0xfe then eofWord payload else none
  | .prepareResponse | .row | .stmtRow => if payload.head? = some 0xfe then eofWord payload else none
  | .handshakeSsl | .prepareParameter | .prepareColumn | .column => none

/-- The packet is whole: a handshake has a version that fits and its status word, and is no ERR packet, an OK packet has its
numbers, and what begins like an EOF packet is one. -/
def Whole (t : PacketType) (payload : List UInt8) : Prop :=
  payload ≠ [] ∧
    match t with
    | .handshake =>
      payload.head? ≠ some 0xff ∧ VersionFits payload ∧
        (payload.head? = some 10 → (greetingWord 16 payload).isSome = true)
    | .response =>
      (payload.head? = some 0x00 → (okWord payload).isSome = true) ∧
        (payload.head? = some 0xfe → (eofWord payload).isSome = true)
    | .prepareResponse | .row | .stmtRow => payload.head? = some 0xfe → (eofWord payload).isSome = true
    | .handshakeSsl | .prepareParameter | .prepareColumn | .column => True

instance (t : PacketType) (payload : List UInt8) : Decidable (Whole t payload) := by
  unfold Whole
  cases t <;> infer_instance

/-! ### Words in a memory -/

section Memory

variable {m : Memory UInt8} {p : ℕ} {bs : List UInt8}

lemma littleEndian_slice_two (m : Memory UInt8) (p : ℕ) : littleEndian (m.slice p 2) = unpackInt2 m p := by
  simp only [Memory.slice_succ, Memory.slice_zero, littleEndian, unpackInt2]
  omega

/-- Bytes that stand at an address: those behind the first `k`. -/
lemma slice_drop (h : m.slice p bs.length = bs) (k : ℕ) : m.slice (p + k) (bs.drop k).length = bs.drop k := by
  rw [List.length_drop, ← Memory.drop_slice, h]

/-- A word that can be taken is the one that is read. -/
lemma unpackInt2_of_takeInt (h : m.slice p bs.length = bs) {r : ℕ × List UInt8} (hr : takeInt 2 bs = some r) :
    unpackInt2 m p = r.1 := by
  unfold takeInt takeBytes at hr
  split_ifs at hr with hlen
  · cases hr
    rw [← littleEndian_slice_two, ← h, Memory.take_slice, Nat.min_eq_left hlen]
  · cases hr

lemma unpackInt2_of_word (h : m.slice p bs.length = bs) {w : ℕ} (hw : (takeInt 2 bs).map Prod.fst = some w) :
    unpackInt2 m p = w := by
  obtain ⟨r, hr, rfl⟩ := Option.map_eq_some_iff.mp hw
  exact unpackInt2_of_takeInt h hr

lemma takeInt_rest {n : ℕ} {r : ℕ × List UInt8} (hr : takeInt n bs = some r) : r.2 = bs.drop n := by
  unfold takeInt takeBytes at hr
  split_ifs at hr
  · cases hr
    rfl
  · cases hr

/-- A length that can be taken is read in as many bytes. -/
lemma unpackLength_of_takeLength (h : m.slice p bs.length = bs) {r : ℕ × List UInt8} (hr : takeLength bs = some r) :
    r.2 = bs.drop (unpackLength m p).bytes := by
  cases bs with
  | nil => cases hr
  | cons b bs =>
    have hb : m p = b := (List.cons.inj ((Memory.slice_succ m _ _).symm.trans h)).1
    unfold takeLength at hr
    dsimp only at hr
    unfold unpackLength
    rw [hb]
    split_ifs at hr with h₁ h₂ h₃ h₄
    · cases hr
      rw [if_pos (UInt8.lt_iff_toNat_lt.mpr h₁)]
      rfl
    · subst h₂
      exact (takeInt_rest hr).trans rfl
    · subst h₃
      exact (takeInt_rest hr).trans rfl
    · subst h₄
      exact (takeInt_rest hr).trans rfl

end Memory

/-! ### Packets that are open -/

/-- A packet is open for its reader: it stands at the read pointer, and its size is known. -/
structure Con.Opened (con : Con) (payload : List UInt8) : Prop where
  buffer : con.readBuffer.isSome = true
  size_eq : con.packetSize = payload.length
  payload_eq : con.buf.mem.slice con.buf.bufferReadPtr payload.length = payload

instance (con : Con) (payload : List UInt8) : Decidable (con.Opened payload) :=
  decidable_of_iff (con.readBuffer.isSome = true ∧ con.packetSize = payload.length ∧
      con.buf.mem.slice con.buf.bufferReadPtr payload.length = payload)
    ⟨fun ⟨h₁, h₂, h₃⟩ => ⟨h₁, h₂, h₃⟩, fun h => ⟨h.buffer, h.size_eq, h.payload_eq⟩⟩

/-- The packet loop opens the packets it hands to the readers. -/
lemma Con.Holds.opened {con : Con} {b : BufferSt} {seq : UInt8} {payload : List UInt8} (h : con.Holds b seq payload)
    (t : PacketType) : (packetReady con b t seq payload.length).Opened payload :=
  ⟨rfl, rfl, h.payload_eq⟩

/-- The address behind the version, as it is computed from what was kept of it. -/
def Con.behindVersion (con : Con) : ℕ :=
  con.buf.bufferReadPtr + 1 + (handshakeFields con).serverVersion.length + 1

section Open

variable {con : Con} {payload : List UInt8}

lemma Con.Opened.head (h : con.Opened payload) (hp : payload ≠ []) : payload.head? = some (con.peekByte 0) := by
  cases payload with
  | nil => exact absurd rfl hp
  | cons b bs => exact congrArg some (List.cons.inj ((Memory.slice_succ con.buf.mem _ _).symm.trans h.payload_eq)).1.symm

/-- The words of an OK packet are read where they are. -/
lemma okStatus_of_okWord (h : con.Opened payload) {w : ℕ} (hw : okWord payload = some w) : con.okStatus = w := by
  obtain ⟨r, hr, hw⟩ := Option.bind_eq_some_iff.mp hw
  obtain ⟨r', hr', hw⟩ := Option.bind_eq_some_iff.mp hw
  have h₁ := slice_drop h.payload_eq 1
  have hrest := unpackLength_of_takeLength h₁ hr
  have h₂ := slice_drop h₁ (unpackLength con.buf.mem (con.buf.bufferReadPtr + 1)).bytes
  rw [← hrest] at h₂
  have hrest' := unpackLength_of_takeLength h₂ hr'
  have h₃ := slice_drop h₂ (unpackLength con.buf.mem
    (con.buf.bufferReadPtr + 1 + (unpackLength con.buf.mem (con.buf.bufferReadPtr + 1)).bytes)).bytes
  rw [← hrest'] at h₃
  exact unpackInt2_of_word h₃ hw

lemma eofStatus_of_eofWord (h : con.Opened payload) {w : ℕ} (hw : eofWord payload = some w) : con.eofStatus = w := by
  unfold eofWord at hw
  split_ifs at hw
  exact unpackInt2_of_word (slice_drop h.payload_eq 3) hw

/-- A version that fits is read up to its end, and the numbers behind it are where they are looked for. -/
lemma numbers_behindVersion (h : con.Opened payload) (hfit : VersionFits payload) {version rest : List UInt8}
    (hg : greetingParts payload = some (version, rest)) :
    (handshakeFields con).serverVersion = version ∧ con.buf.mem.slice con.behindVersion rest.length = rest := by
  have hshort : version.length < maxServerVersionLen := hfit _ hg
  cases payload with
  | nil => cases hg
  | cons b bs =>
    unfold greetingParts at hg
    dsimp only at hg
    split_ifs at hg
    obtain ⟨hbs, hnul⟩ := takeCString_eq_some hg
    dsimp only at hbs hnul
    subst hbs
    obtain ⟨-, hbytes⟩ := List.cons.inj ((Memory.slice_succ con.buf.mem _ _).symm.trans h.payload_eq)
    obtain ⟨hversion, hrest⟩ := Memory.slice_eq_append hbytes
    rw [List.length_cons, Memory.slice_succ] at hrest
    obtain ⟨hzero, hrest⟩ := List.cons.inj hrest
    have hkept : (handshakeFields con).serverVersion = version := by
      obtain ⟨d, hd⟩ := Nat.exists_eq_add_of_lt hshort
      show ((con.buf.mem.slice (con.buf.bufferReadPtr + 1) maxServerVersionLen).takeWhile (· ≠ 0)).take
        (maxServerVersionLen - 1) = version
      rw [hd, Nat.add_assoc, Memory.slice_add, hversion, Memory.slice_succ, hzero,
        List.takeWhile_append_of_pos fun b hb => decide_eq_true (ne_of_mem_of_not_mem hb hnul),
        List.takeWhile_cons_of_neg (by simp), List.append_nil, List.take_of_length_le (by omega)]
    refine ⟨hkept, ?_⟩
    unfold Con.behindVersion
    rw [hkept]
    exact hrest

/-- A word of a handshake is read where it is. -/
lemma greetingWord_read (h : con.Opened payload) (hfit : VersionFits payload) {i w : ℕ}
    (hw : greetingWord i payload = some w) : unpackInt2 con.buf.mem (con.behindVersion + i) = w := by
  obtain ⟨⟨version, rest⟩, hg, hw⟩ := Option.bind_eq_some_iff.mp hw
  exact unpackInt2_of_word (slice_drop (numbers_behindVersion h hfit hg).2 i) hw

/-- The capabilities that are offered are those that are read. -/
lemma serverCapabilities_of_offered (h : con.Opened payload) (hfit : VersionFits payload) {w : ℕ}
    (hw : offeredCapabilities payload = some w) : (handshakeFields con).serverCapabilities = w :=
  greetingWord_read h hfit hw

lemma head_of_greetingWord {i w : ℕ} (hw : greetingWord i payload = some w) : payload.head? = some 10 := by
  obtain ⟨g, hg, -⟩ := Option.bind_eq_some_iff.mp hw
  cases payload with
  | nil => cases hg
  | cons b bs =>
    unfold greetingParts at hg
    dsimp only at hg
    split_ifs at hg with hb
    rw [hb]
    rfl

/-- What begins like an EOF packet, and is one, has the word that is read. -/
lemma eofStatus_eq (h : con.Opened payload) (hne : payload ≠ [])
    (hend : payload.head? = some 0xfe → (eofWord payload).isSome = true) (hb : con.peekByte 0 = 0xfe) :
    some con.eofStatus = eofWord payload := by
  obtain ⟨w, hword⟩ := Option.isSome_iff_exists.mp (hend (by rw [h.head hne, hb]))
  rw [hword, eofStatus_of_eofWord h hword]

/-- The word of what comes in place of a row. -/
lemma rowStatus_eq (h : con.Opened payload) (hne : payload ≠ [])
    (hend : payload.head? = some 0xfe → (eofWord payload).isSome = true) :
    con.rowStatus = if payload.head? = some 0xfe then eofWord payload else none := by
  unfold Con.rowStatus Con.responseStatus
  by_cases hb : con.peekByte 0 = 0xfe
  · rw [if_pos hb, if_neg (by rw [hb]; decide), if_neg (by rw [hb]; decide), if_pos hb,
      if_pos (by rw [h.head hne, hb]), eofStatus_eq h hne hend hb]
  · rw [if_neg hb, if_neg fun hp => hb (Option.some.inj ((h.head hne).symm.trans hp))]

/-- **The status word of a whole packet is the one its reader takes from it**, a handshake apart. -/
theorem readStatus_eq {t : PacketType} (h : con.Opened payload) (hw : Whole t payload) (ht : t ≠ .handshake) :
    con.readStatus t = statusIn t payload := by
  obtain ⟨hne, hw⟩ := hw
  have hhead := h.head hne
  have hother : ∀ b, con.peekByte 0 ≠ b → payload.head? ≠ some b := fun b hb hp =>
    hb (Option.some.inj (hhead.symm.trans hp))
  cases t with
  | handshake => exact absurd rfl ht
  | response =>
    unfold Con.readStatus Con.responseStatus statusIn
    dsimp only
    by_cases h₀ : con.peekByte 0 = 0x00
    · have hok : payload.head? = some 0x00 := by rw [hhead, h₀]
      obtain ⟨w, hword⟩ := Option.isSome_iff_exists.mp (hw.1 hok)
      rw [if_pos h₀, if_pos hok, hword, okStatus_of_okWord h hword]
    · rw [if_neg h₀, if_neg (hother _ h₀)]
      by_cases hend : con.peekByte 0 = 0xfe
      · rw [if_neg (by rw [hend]; decide), if_pos hend, if_pos (by rw [hhead, hend]), eofStatus_eq h hne hw.2 hend]
      · rw [if_neg (hother _ hend), if_neg hend, ite_self]
  | prepareResponse =>
    unfold Con.readStatus Con.prepareStatus Con.responseStatus statusIn
    dsimp only
    by_cases hend : con.peekByte 0 = 0xfe
    · rw [if_pos (by rw [hend]; decide), if_neg (by rw [hend]; decide), if_neg (by rw [hend]; decide), if_pos hend,
        if_pos (by rw [hhead, hend]), eofStatus_eq h hne hw hend]
    · rw [if_neg (hother _ hend), if_neg hend, ite_self]
      by_cases h₀ : con.peekByte 0 = 0x00
      · rw [if_neg (not_not.mpr h₀)]
      · rw [if_pos h₀, if_neg h₀]
  | row => exact rowStatus_eq h hne hw
  | stmtRow => exact rowStatus_eq h hne hw
  | handshakeSsl => rfl
  | prepareParameter => rfl
  | prepareColumn => rfl
  | column => rfl

/-- The status word of a whole handshake is the one that is read. -/
lemma handshakeStatus_eq (h : con.Opened payload) (hw : Whole .handshake payload) (hten : con.peekByte 0 = 10) :
    some (handshakeFields con).serverStatus = statusIn .handshake payload := by
  obtain ⟨hne, -, hfit, hword⟩ := hw
  obtain ⟨w, hw⟩ := Option.isSome_iff_exists.mp (hword (by rw [h.head hne, hten]))
  have hread := greetingWord_read h hfit hw
  exact (congrArg some hread).trans hw.symm

end Open

end LibAttachSql
