import LibAttachSql.Footprints
import LibAttachSql.Handshake
import LibAttachSql.PrepareRun

/-!
# The bounds of a packet

The readers of packets trust their packet: no read is compared with `packet_end_ptr`, and the number of bytes that remain for
a message is a difference that nothing keeps from being negative.  For each reader, and any payload, this module says exactly
when the reader stays between the start of the payload and the end of the packet.
-/

namespace LibAttachSql

open Lib

/-! ### Cursors -/

/-- The bytes of a payload as a memory, with NULs behind them. -/
def view (payload : List UInt8) : Memory UInt8 := fun i => payload.getD i 0

/-- An address is where a cursor stands in a block that starts at `q`.  Both may have gone around the address space. -/
structure Points (q c a : ℕ) : Prop where
  cursor_lt : c < 2 ^ 64
  address : a = q + c ∨ 0 < q ∧ a ≤ 2 ^ 64 ∧ a % 2 ^ 64 = (q + c) % 2 ^ 64

section Cursor

variable {m : Memory UInt8} {payload : List UInt8} {q c a : ℕ}

lemma view_of_slice (h : m.slice q payload.length = payload) {i : ℕ} (hi : i < payload.length) :
    m (q + i) = view payload i := by
  have hlen : i < (m.slice q payload.length).length := by
    rw [Memory.length_slice]
    exact hi
  have hget : (m.slice q payload.length)[i] = m (q + i) := Memory.getElem_slice m q payload.length i hlen
  unfold view
  rw [List.getD_eq_getElem _ _ hi, ← hget]
  exact List.getElem_of_eq h _

section Congr

variable {m' : Memory UInt8} {p p' : ℕ}

lemma unpackInt2_congr (h : ∀ i < 2, m (p + i) = m' (p' + i)) : unpackInt2 m p = unpackInt2 m' p' := by
  have h₀ : m p = m' p' := h 0 (by decide)
  unfold unpackInt2
  rw [h₀, h 1 (by decide)]

lemma unpackInt3_congr (h : ∀ i < 3, m (p + i) = m' (p' + i)) : unpackInt3 m p = unpackInt3 m' p' := by
  have h₀ : m p = m' p' := h 0 (by decide)
  unfold unpackInt3
  rw [h₀, h 1 (by decide), h 2 (by decide)]

lemma unpackInt4_congr (h : ∀ i < 4, m (p + i) = m' (p' + i)) : unpackInt4 m p = unpackInt4 m' p' := by
  have h₀ : m p = m' p' := h 0 (by decide)
  unfold unpackInt4
  rw [h₀, h 1 (by decide), h 2 (by decide), h 3 (by decide)]

/-- Bytes that agree, from the `k`-th on. -/
lemma agree_add {n : ℕ} (h : ∀ i < n, m (p + i) = m' (p' + i)) (k : ℕ) : ∀ i < n - k, m (p + k + i) = m' (p' + k + i) := by
  intro i hi
  rw [Nat.add_assoc, Nat.add_assoc]
  exact h (k + i) (by omega)

/-- A length is the same wherever its bytes are. -/
lemma unpackLength_congr (h : ∀ i < (unpackLength m' p').bytes, m (p + i) = m' (p' + i)) :
    unpackLength m p = unpackLength m' p' := by
  have hfirst : m p = m' p' := h 0 (bytes_pos m' p')
  unfold unpackLength at h ⊢
  rw [hfirst]
  split_ifs at h ⊢
  · rfl
  · rfl
  · rw [unpackInt2_congr (agree_add h 1)]
  · rw [unpackInt3_congr (agree_add h 1)]
  · unfold unpackInt8
    have hhigh : ∀ i < 4, m (p + 1 + 4 + i) = m' (p' + 1 + 4 + i) := agree_add (agree_add h 1) 4
    rw [unpackInt4_congr fun i hi => agree_add h 1 i (show i < 8 by omega), unpackInt4_congr hhigh]

end Congr

/-- How many bytes a length stands in depends on the first of them. -/
lemma bytes_congr {m' : Memory UInt8} {p p' : ℕ} (h : m p = m' p') :
    (unpackLength m p).bytes = (unpackLength m' p').bytes := by
  unfold unpackLength
  rw [h]
  split_ifs <;> rfl

lemma Points.start (h : c < 2 ^ 64) : Points q c (q + c) := ⟨h, .inl rfl⟩

/-- In the block, the address is the start of the block and the cursor; outside of it, neither is inside. -/
lemma Points.inside (h : Points q c a) (hq : q + payload.length ≤ 2 ^ 64) :
    c < payload.length ∧ a = q + c ∨ payload.length ≤ c ∧ (a < q ∨ q + payload.length ≤ a) := by
  have hc := h.cursor_lt
  rcases h.address with ha | ⟨hpos, ha, hmod⟩
  · omega
  · omega

lemma ptrAdd_eq (p n : ℕ) : ptrAdd p n = (p + n) % 2 ^ 64 := by
  unfold ptrAdd sizeT
  omega

lemma ptrAdd_lt (p n : ℕ) : ptrAdd p n < 2 ^ 64 := by
  rw [ptrAdd_eq]
  exact Nat.mod_lt _ (Nat.two_pow_pos 64)

/-- Cursor and address move on together. -/
lemma Points.next (h : Points q c a) (k n : ℕ) : Points q (ptrAdd (c + k) n) (ptrAdd (a + k) n) := by
  have hc := h.cursor_lt
  refine ⟨ptrAdd_lt _ _, ?_⟩
  rw [ptrAdd_eq, ptrAdd_eq]
  rcases Nat.eq_zero_or_pos q with hq | hq
  · subst hq
    rcases h.address with ha | ⟨hpos, -⟩
    · left
      rw [ha, Nat.zero_add, Nat.zero_add]
    · exact absurd hpos (Nat.lt_irrefl 0)
  · right
    rcases h.address with ha | ⟨-, ha, hmod⟩ <;> omega

/-- A length at the cursor: it is inside if the payload says so, and then it is the one of the payload. -/
lemma Points.length (h : Points q c a) (hq : q + payload.length ≤ 2 ^ 64) (hm : m.slice q payload.length = payload) :
    (q ≤ a ∧ a + (unpackLength m a).bytes ≤ q + payload.length ↔
      c + (unpackLength (view payload) c).bytes ≤ payload.length) ∧
    (c + (unpackLength (view payload) c).bytes ≤ payload.length →
      a = q + c ∧ unpackLength m a = unpackLength (view payload) c) := by
  have hpos := bytes_pos m a
  have hpos' := bytes_pos (view payload) c
  rcases h.inside hq with ⟨hc, rfl⟩ | ⟨hc, ha⟩
  · have hbytes : (unpackLength m (q + c)).bytes = (unpackLength (view payload) c).bytes :=
      bytes_congr (view_of_slice hm hc)
    refine ⟨by rw [hbytes]; omega, fun hfits => ⟨rfl, unpackLength_congr fun i hi => ?_⟩⟩
    rw [Nat.add_assoc]
    exact view_of_slice hm (by omega)
  · exact ⟨⟨fun _ => by omega, fun _ => by omega⟩, fun _ => by omega⟩

end Cursor

/-! ### Which payloads fit -/

/-- A response is long enough: an OK packet for its two lengths, status and warnings, an ERR packet for its number and
SQLSTATE, an EOF packet for its warnings and status, a header for the number of columns. -/
def ResponseFits (payload : List UInt8) : Prop :=
  let m := view payload
  0 < payload.length ∧
    if m 0 = 0x00 then
      5 + (unpackLength m 1).bytes + (unpackLength m (1 + (unpackLength m 1).bytes)).bytes ≤ payload.length
    else if m 0 = 0xff then 9 ≤ payload.length
    else if m 0 = 0xfe then 5 ≤ payload.length
    else (unpackLength m 0).bytes ≤ payload.length

/-- So is the answer to a prepare. -/
def PrepareResponseFits (payload : List UInt8) : Prop :=
  if view payload 0 = 0x00 then 12 ≤ payload.length else ResponseFits payload

/-- Strings behind their lengths, for fields of these sizes, from the cursor on: the length is inside, and so are the bytes
that are kept; then comes the rest. -/
def FieldsFit (payload : List UInt8) (rest : ℕ → Prop) : List ℕ → ℕ → Prop
  | [], c => rest c
  | size :: sizes, c =>
    let len := unpackLength (view payload) c
    c + len.bytes + min len.length (size - 1) ≤ payload.length ∧
      FieldsFit payload rest sizes (ptrAdd (c + len.bytes) len.length)

/-- The numbers of a definition are inside, and behind them the length of a default value and its bytes that are kept. -/
def NumbersFit (payload : List UInt8) (c : ℕ) : Prop :=
  let len := unpackLength (view payload) (c + 12)
  c + 12 + len.bytes + min len.length (maxDefaultValueSize - 1) ≤ payload.length

/-- The sizes of the fields of a definition.  Nothing is kept of the catalog. -/
def fieldSizes : List ℕ := [1, maxSchemaSize, maxTableSize, maxTableSize, maxColumnSize, maxColumnSize]

/-- A definition is long enough for what its lengths lead to, the default value included. -/
def ColumnFits (payload : List UInt8) : Prop :=
  FieldsFit payload (fun c => NumbersFit payload (ptrAdd c 1)) fieldSizes 0

/-- So many lengths of a text row are inside, each where the one before leads to. -/
def TextRowFits (payload : List UInt8) : ℕ → ℕ → Prop
  | 0, _ => True
  | n + 1, c =>
    let len := unpackLength (view payload) c
    c + len.bytes ≤ payload.length ∧ TextRowFits payload n (ptrAdd (c + len.bytes) len.length)

/-- For the columns of a binary row from number `i` on: the byte of the bitmap is inside, and so are the bytes before the
value, if its type has any; a type that is not known ends the row. -/
def BinaryRowFits (payload : List UInt8) : ℕ → ℕ → List Column → Prop
  | _, _, [] => True
  | i, c, column :: columns =>
    let isNull := (view payload (1 + (i + 2) / 8)).toNat.testBit ((i + 2) % 8)
    1 + (i + 2) / 8 < payload.length ∧
      match stmtValue (view payload) c (if isNull then columnTypeNull else column.type.toNat) with
      | none => True
      | some (bytes, length) =>
        (bytes ≠ 0 → c + bytes ≤ payload.length) ∧ BinaryRowFits payload (i + 1) (ptrAdd (c + bytes) length) columns

/-- A row, or the response in place of one. -/
def RowFits (payload : List UInt8) (row : Prop) : Prop :=
  0 < payload.length ∧ if view payload 0 = 0xfe then ResponseFits payload else row

/-- A handshake is no ERR packet, and long enough if its version is known: the version of the server is read up to its NUL or
up to 32 bytes, and what follows takes 44 bytes. -/
def HandshakeFits (payload : List UInt8) : Prop :=
  0 < payload.length ∧ view payload 0 ≠ 0xff ∧
    (view payload 0 = 10 →
      45 + min (maxServerVersionLen - 1) ((payload.drop 1).takeWhile (· ≠ 0)).length ≤ payload.length)

/-! ### Responses -/

section Response

variable {m : Memory UInt8} {payload : List UInt8} {q : ℕ}

/-- The first byte is inside unless there is none. -/
lemma start_mem (n : ℕ) : q ∈ Set.Ico q (q + n) ↔ 0 < n := by
  rw [Set.mem_Ico]
  omega

/-- Reading a number of the answer changes nothing about the reads. -/
lemma within_bind_pure {α β γ : Type} {m : Memory α} {s : Set ℕ} (x : Reading α β) (f : β → γ) :
    (x >>= fun b => pure (f b)).Within m s ↔ x.Within m s := by
  rw [Reading.within_bind, Reading.within_pure, and_true]

/-- The reads of an OK packet. -/
lemma within_okReading (q L : ℕ) :
    (okReading q L).Within m (Set.Ico q (q + L)) ∧ 0 ≤ ((okReading q L).run m).remaining ↔
      5 + (unpackLength m (q + 1)).bytes + (unpackLength m (q + 1 + (unpackLength m (q + 1)).bytes)).bytes ≤ L := by
  rw [run_okReading]
  unfold okReading
  simp only [Reading.within_bind, run_lengthReading, within_lengthReading, run_int2Reading, within_int2Reading,
    Reading.within_pure, and_true]
  generalize (unpackLength m (q + 1)).bytes = b₁
  generalize (unpackLength m (q + 1 + b₁)).bytes = b₂
  constructor
  · rintro ⟨⟨-, -, -, hwarnings, -⟩, -⟩
    omega
  · intro h
    exact ⟨⟨by omega, by omega, by omega, by omega, within_textReading (by omega) (by omega) (by omega) _⟩, by omega⟩

/-- The reads of an ERR packet. -/
lemma within_errReading (q L : ℕ) :
    (errReading q L).Within m (Set.Ico q (q + L)) ∧ 0 ≤ ((errReading q L).run m).remaining ↔ 9 ≤ L := by
  rw [run_errReading]
  unfold errReading
  simp only [Reading.within_bind, within_int2Reading, Reading.within_block_Ico (show 0 < 5 by decide), Reading.within_pure,
    and_true]
  constructor
  · rintro ⟨-, hremaining⟩
    omega
  · intro h
    exact ⟨⟨by omega, by omega, within_textReading (by omega) (by omega) (by omega) _⟩, by omega⟩

/-- The lengths of an OK packet stand in as many bytes as the payload says, as far as they are inside. -/
lemma okBytes_iff (hm : m.slice q payload.length = payload) :
    5 + (unpackLength m (q + 1)).bytes + (unpackLength m (q + 1 + (unpackLength m (q + 1)).bytes)).bytes ≤ payload.length ↔
      5 + (unpackLength (view payload) 1).bytes +
        (unpackLength (view payload) (1 + (unpackLength (view payload) 1).bytes)).bytes ≤ payload.length := by
  by_cases hlen : payload.length < 5
  · constructor
    · intro h
      omega
    · intro h
      omega
  have hrows : (unpackLength m (q + 1)).bytes = (unpackLength (view payload) 1).bytes :=
    bytes_congr (view_of_slice hm (by omega))
  rw [hrows]
  generalize (unpackLength (view payload) 1).bytes = b₁
  by_cases hb : payload.length < 5 + b₁
  · constructor
    · intro h
      omega
    · intro h
      omega
  have hid : (unpackLength m (q + 1 + b₁)).bytes = (unpackLength (view payload) (1 + b₁)).bytes := by
    rw [Nat.add_assoc]
    exact bytes_congr (view_of_slice hm (by omega))
  rw [hid]

/-- **A response stays inside** exactly if it is long enough. -/
lemma response_within (hm : m.slice q payload.length = payload) :
    (responseReading q payload.length).Within m (Set.Ico q (q + payload.length)) ∧
      (∀ n ∈ ((responseReading q payload.length).run m).remaining, 0 ≤ n) ↔ ResponseFits payload := by
  unfold ResponseFits responseReading
  rw [Reading.within_bind, Reading.within_get, Reading.run_bind, Reading.run_get, start_mem, and_assoc]
  refine and_congr_right fun hpos => ?_
  have hfirst : m q = view payload 0 := view_of_slice hm hpos
  rw [hfirst]
  split_ifs
  · rw [within_bind_pure, Reading.run_bind, Reading.run_pure]
    have hsome : (∀ n ∈ (ResponseFields.ok ((okReading q payload.length).run m)).remaining, 0 ≤ n) ↔
        0 ≤ ((okReading q payload.length).run m).remaining := by simp [ResponseFields.remaining]
    rw [hsome, within_okReading]
    exact okBytes_iff hm
  · rw [within_bind_pure, Reading.run_bind, Reading.run_pure]
    have hsome : (∀ n ∈ (ResponseFields.err ((errReading q payload.length).run m)).remaining, 0 ≤ n) ↔
        0 ≤ ((errReading q payload.length).run m).remaining := by simp [ResponseFields.remaining]
    rw [hsome, within_errReading]
  · simp only [Reading.within_bind, within_int2Reading, Reading.within_pure, Reading.run_bind, Reading.run_pure,
      ResponseFields.remaining, Option.mem_def, reduceCtorEq, false_implies, implies_true, and_true]
    omega
  · simp only [Reading.within_bind, within_lengthReading, Reading.within_pure, Reading.run_bind, Reading.run_pure,
      ResponseFields.remaining, Option.mem_def, reduceCtorEq, false_implies, implies_true, and_true]
    rw [bytes_congr hfirst]
    omega

end Response

/-! ### Column definitions -/

section Column

variable {m : Memory UInt8} {payload : List UInt8} {q c a : ℕ}

/-- Strings behind their lengths are read inside of a set, and so is the rest. -/
def FieldsWithin (m : Memory UInt8) (s : Set ℕ) (rest : ℕ → Prop) : List ℕ → ℕ → Prop
  | [], a => rest a
  | size :: sizes, a => (fieldReading a size).Within m s ∧ FieldsWithin m s rest sizes (readField m a size).2

/-- One string: it is inside if the payload says so, and then reading goes on where the payload says. -/
lemma Points.field (h : Points q c a) (hq : q + payload.length ≤ 2 ^ 64) (hm : m.slice q payload.length = payload) {size : ℕ}
    (hsize : 0 < size) :
    let len := unpackLength (view payload) c
    ((fieldReading a size).Within m (Set.Ico q (q + payload.length)) ↔
      c + len.bytes + min len.length (size - 1) ≤ payload.length) ∧
    (c + len.bytes ≤ payload.length → Points q (ptrAdd (c + len.bytes) len.length) (readField m a size).2 ∧
      (readField m a size).2 < 2 ^ 64) := by
  dsimp only
  obtain ⟨hiff, heq⟩ := h.length hq hm
  rw [within_fieldReading a hsize]
  by_cases hfits : c + (unpackLength (view payload) c).bytes ≤ payload.length
  · obtain ⟨ha, hlen⟩ := heq hfits
    refine ⟨by rw [hlen, ha]; omega, fun _ => ⟨?_, ptrAdd_lt _ _⟩⟩
    unfold readField
    rw [hlen]
    exact h.next _ _
  · refine ⟨⟨fun ⟨hlo, hhi⟩ => absurd (hiff.mp ⟨hlo, by omega⟩) hfits, fun hle => absurd (by omega) hfits⟩, fun hle =>
      absurd hle hfits⟩

/-- **A row of strings** is read inside exactly if it fits, when the rest is. -/
lemma fields_within (hq : q + payload.length ≤ 2 ^ 64) (hm : m.slice q payload.length = payload) {rest fits : ℕ → Prop}
    (hrest : ∀ c a, Points q c a → a < 2 ^ 64 → (rest a ↔ fits c)) {sizes : List ℕ} (hsizes : ∀ size ∈ sizes, 0 < size)
    (h : Points q c a) (ha : a < 2 ^ 64) :
    FieldsWithin m (Set.Ico q (q + payload.length)) rest sizes a ↔ FieldsFit payload fits sizes c := by
  induction sizes generalizing c a with
  | nil => exact hrest c a h ha
  | cons size sizes ih =>
    obtain ⟨hsize, hsizes⟩ := List.forall_mem_cons.mp hsizes
    obtain ⟨hiff, hnext⟩ := h.field hq hm hsize
    unfold FieldsWithin FieldsFit
    dsimp only
    rw [hiff]
    refine and_congr_right fun hfits => ?_
    obtain ⟨hpoints, hlt⟩ := hnext (by omega)
    exact ih hsizes hpoints hlt

/-- The reads of the numbers of a definition and of the default value behind them. -/
def NumbersWithin (m : Memory UInt8) (s : Set ℕ) (p : ℕ) : Prop :=
  (int2Reading p).Within m s ∧ (int4Reading (p + 2)).Within m s ∧ p + 6 ∈ s ∧ (int2Reading (p + 7)).Within m s ∧
    p + 9 ∈ s ∧ (fieldReading (p + 12) maxDefaultValueSize).Within m s

/-- The numbers are read inside exactly if they fit. -/
lemma Points.numbers (h : Points q c a) (hq : q + payload.length ≤ 2 ^ 64) (hm : m.slice q payload.length = payload) :
    NumbersWithin m (Set.Ico q (q + payload.length)) a ↔ NumbersFit payload c := by
  unfold NumbersWithin NumbersFit
  dsimp only
  simp only [within_int2Reading, within_int4Reading, Set.mem_Ico]
  have hdefault : a = q + c → c + 12 < 2 ^ 64 → ((fieldReading (a + 12) maxDefaultValueSize).Within m
      (Set.Ico q (q + payload.length)) ↔ c + 12 + (unpackLength (view payload) (c + 12)).bytes +
        min (unpackLength (view payload) (c + 12)).length (maxDefaultValueSize - 1) ≤ payload.length) := by
    rintro rfl hlt
    rw [Nat.add_assoc]
    exact ((Points.start hlt).field hq hm (show 0 < maxDefaultValueSize by decide)).1
  have hbytes := bytes_pos m (a + 12)
  have hbytes' := bytes_pos (view payload) (c + 12)
  rcases h.inside hq with ⟨hc, ha⟩ | ⟨hc, ha⟩
  · constructor
    · rintro ⟨-, -, -, -, -, hfield⟩
      have hend := (within_fieldReading _ (show 0 < maxDefaultValueSize by decide)).mp hfield
      exact (hdefault ha (by omega)).mp hfield
    · intro hfits
      exact ⟨by omega, by omega, by omega, by omega, by omega, (hdefault ha (by omega)).mpr hfits⟩
  · constructor
    · rintro ⟨hfirst, -⟩
      omega
    · intro hfits
      omega

/-- One place further, an address that has not gone around the address space. -/
lemma Points.succ (h : Points q c a) (hpos : 0 < q) (ha : a < 2 ^ 64) : Points q (ptrAdd c 1) (a + 1) := by
  have hc := h.cursor_lt
  refine ⟨ptrAdd_lt _ _, .inr ⟨hpos, ha, ?_⟩⟩
  rw [ptrAdd_eq]
  rcases h.address with hadd | ⟨-, -, hmod⟩
  · omega
  · omega

/-- The reads of a definition, one string after the other. -/
lemma within_columnReading (column : Column) (s : Set ℕ) (hs : ∃ lo hi, s = Set.Ico lo hi) (p : ℕ) :
    (columnReading column p).Within m s ↔ FieldsWithin m s (fun a => NumbersWithin m s (a + 1)) fieldSizes p := by
  obtain ⟨lo, hi, rfl⟩ := hs
  have hskip : (skipReading p).Within m (Set.Ico lo hi) ↔ (fieldReading p 1).Within m (Set.Ico lo hi) := by
    rw [within_skipReading, within_fieldReading p Nat.one_pos, Nat.sub_self, Nat.min_zero, Nat.add_zero]
  unfold columnReading
  simp only [Reading.within_bind, run_skipReading p 1, run_fieldReading, Reading.within_pure, Reading.within_get, and_true,
    hskip]
  exact Iff.rfl

/-- **A definition stays inside** exactly if it is long enough. -/
lemma column_within (column : Column) (hpos : 0 < q) (hq : q + payload.length ≤ 2 ^ 64)
    (hm : m.slice q payload.length = payload) :
    (columnReading column q).Within m (Set.Ico q (q + payload.length)) ↔ ColumnFits payload := by
  rw [within_columnReading column _ ⟨_, _, rfl⟩]
  rcases Nat.eq_zero_or_pos payload.length with hempty | hlen
  · unfold ColumnFits fieldSizes FieldsWithin FieldsFit
    rw [within_fieldReading q Nat.one_pos, hempty]
    have hbytes := bytes_pos m q
    have hbytes' := bytes_pos (view payload) 0
    constructor
    · rintro ⟨h, -⟩
      omega
    · rintro ⟨h, -⟩
      omega
  · refine fields_within hq hm (fun c a h ha => ?_) (by decide) (Points.start (Nat.two_pow_pos 64)) (by omega)
    exact (h.succ hpos ha).numbers hq hm

end Column

/-! ### Rows -/

section Row

variable {m : Memory UInt8} {payload : List UInt8} {q c a : ℕ}

/-- **The columns of a text row** stay inside exactly if their lengths do. -/
lemma cells_within (hq : q + payload.length ≤ 2 ^ 64) (hm : m.slice q payload.length = payload) (n : ℕ)
    (h : Points q c a) :
    (cellsReading n a).Within m (Set.Ico q (q + payload.length)) ↔ TextRowFits payload n c := by
  induction n generalizing c a with
  | zero => exact Reading.within_pure _
  | succ n ih =>
    obtain ⟨hiff, heq⟩ := h.length hq hm
    unfold cellsReading TextRowFits
    dsimp only
    rw [Reading.within_bind, within_lengthReading, run_lengthReading, within_bind_pure, hiff]
    refine and_congr_right fun hfits => ?_
    obtain ⟨-, hlen⟩ := heq hfits
    rw [hlen]
    exact ih (h.next _ _)

/-- The reads before a value: they are inside if the payload says so, and then the value is where the payload says. -/
lemma Points.stmtValue (h : Points q c a) (hq : q + payload.length ≤ 2 ^ 64) (hm : m.slice q payload.length = payload)
    (type : ℕ) :
    ((stmtValueReading a type).Within m (Set.Ico q (q + payload.length)) ↔
      ∀ v ∈ stmtValue (view payload) c type, v.1 ≠ 0 → c + v.1 ≤ payload.length) ∧
    ((∀ v ∈ stmtValue (view payload) c type, v.1 ≠ 0 → c + v.1 ≤ payload.length) →
      LibAttachSql.stmtValue m a type = LibAttachSql.stmtValue (view payload) c type) := by
  have hfixed (v : Option (ℕ × ℕ)) (hv : ∀ w ∈ v, w.1 = 0) :
      ((pure v : Reading UInt8 (Option (ℕ × ℕ))).Within m (Set.Ico q (q + payload.length)) ↔
        ∀ w ∈ v, w.1 ≠ 0 → c + w.1 ≤ payload.length) ∧ ((∀ w ∈ v, w.1 ≠ 0 → c + w.1 ≤ payload.length) → v = v) :=
    ⟨⟨fun _ w hw hne => absurd (hv w hw) hne, fun _ => (Reading.within_pure v).mpr trivial⟩, fun _ => rfl⟩
  unfold stmtValueReading LibAttachSql.stmtValue
  split_ifs
  · obtain ⟨hiff, heq⟩ := h.length hq hm
    have hpos := bytes_pos (view payload) c
    simp only [Option.mem_def, Option.some.injEq, forall_eq', within_bind_pure, within_lengthReading, hiff]
    refine ⟨⟨fun hfits _ => hfits, fun hfits => hfits (by omega)⟩, fun hfits => ?_⟩
    rw [(heq (hfits (by omega))).2]
  · simp only [Option.mem_def, Option.some.injEq, forall_eq', within_bind_pure, Reading.within_get, Set.mem_Ico]
    rcases h.inside hq with ⟨hc, ha⟩ | ⟨hc, ha⟩
    · refine ⟨⟨fun _ _ => hc, fun _ => by omega⟩, fun _ => ?_⟩
      rw [ha, view_of_slice hm hc]
    · exact ⟨⟨fun _ => by omega, fun hfits => absurd (hfits Nat.one_ne_zero) (by omega)⟩,
        fun hfits => absurd (hfits Nat.one_ne_zero) (by omega)⟩
  all_goals exact hfixed _ (by simp)

/-- **The columns of a binary row** stay inside exactly if they fit. -/
lemma stmtCells_within (hq : q + payload.length ≤ 2 ^ 64) (hm : m.slice q payload.length = payload) (columns : List Column)
    (i : ℕ) (h : Points q c a) :
    (stmtCellsReading (q + 1) i a columns).Within m (Set.Ico q (q + payload.length)) ↔
      BinaryRowFits payload i c columns := by
  induction columns generalizing i c a with
  | nil => exact Reading.within_pure _
  | cons column columns ih =>
    unfold stmtCellsReading BinaryRowFits
    dsimp only
    rw [Reading.within_bind, Reading.within_get, Reading.run_get, Set.mem_Ico, Nat.add_assoc]
    have hbit : (q ≤ q + (1 + (i + 2) / 8) ∧ q + (1 + (i + 2) / 8) < q + payload.length) ↔
        1 + (i + 2) / 8 < payload.length := by omega
    rw [hbit]
    refine and_congr_right fun hinside => ?_
    rw [view_of_slice hm hinside, Reading.within_bind, run_stmtValueReading]
    generalize (if (view payload (1 + (i + 2) / 8)).toNat.testBit ((i + 2) % 8) = true then columnTypeNull
      else column.type.toNat) = type
    obtain ⟨hiff, heq⟩ := h.stmtValue hq hm type
    rw [hiff]
    cases hv : LibAttachSql.stmtValue (view payload) c type with
    | none =>
      rw [hv] at heq
      have hnone := heq fun v hv => absurd hv (Option.not_mem_none v)
      rw [hnone]
      simp
    | some value =>
      rw [hv] at heq
      simp only [Option.mem_def, Option.some.injEq, forall_eq'] at heq ⊢
      refine and_congr_right fun hfits => ?_
      rw [heq hfits]
      dsimp only
      rw [within_bind_pure]
      exact ih (i + 1) (h.next _ _)

/-- **A row stays inside** exactly if it fits, when the function that takes it apart does. -/
lemma row_within {β : Type} {get : Reading UInt8 β} {fits : Prop} (hm : m.slice q payload.length = payload)
    (hget : get.Within m (Set.Ico q (q + payload.length)) ↔ fits) :
    (rowReading q payload.length get).Within m (Set.Ico q (q + payload.length)) ∧
      (∀ n ∈ ((rowReading q payload.length get).run m).elim ResponseFields.remaining fun _ => none, 0 ≤ n) ↔
        RowFits payload fits := by
  unfold RowFits rowReading
  rw [Reading.within_bind, Reading.within_get, Reading.run_bind, Reading.run_get, start_mem, and_assoc]
  refine and_congr_right fun hpos => ?_
  have hfirst : m q = view payload 0 := view_of_slice hm hpos
  rw [hfirst]
  split_ifs
  · rw [within_bind_pure, Reading.run_bind, Reading.run_pure]
    exact response_within hm
  · rw [within_bind_pure, Reading.run_bind, Reading.run_pure, hget]
    simp

end Row

/-! ### Prepared statements and the handshake -/

section Others

variable {m : Memory UInt8} {payload : List UInt8} {q : ℕ}

/-- **The answer to a prepare stays inside** exactly if it is long enough. -/
lemma prepareResponse_within (hm : m.slice q payload.length = payload) :
    (prepareResponseReading q payload.length).Within m (Set.Ico q (q + payload.length)) ∧
      (∀ n ∈ ((prepareResponseReading q payload.length).run m).elim ResponseFields.remaining fun f => some f.remaining,
        0 ≤ n) ↔
        PrepareResponseFits payload := by
  unfold PrepareResponseFits prepareResponseReading
  rw [Reading.within_bind, Reading.within_get, Reading.run_bind, Reading.run_get, start_mem, and_assoc]
  have hpos : (if view payload 0 = 0x00 then 12 ≤ payload.length else ResponseFits payload) → 0 < payload.length := by
    split_ifs
    · intro h
      omega
    · exact And.left
  refine (and_congr_right fun hlen => ?_).trans (and_iff_right_of_imp hpos)
  have hfirst : m q = view payload 0 := view_of_slice hm hlen
  rw [hfirst, ite_not]
  split_ifs
  · simp only [Reading.run_bind, Reading.run_pure, prepareOkReading, Reading.within_bind, within_int4Reading,
      within_int2Reading, Reading.within_pure, Sum.elim_inr, Option.mem_def, Option.some.injEq, forall_eq', and_true]
    omega
  · rw [within_bind_pure, Reading.run_bind, Reading.run_pure]
    exact response_within hm

/-- The version in a handshake is as long as the payload says, if the payload is longer than the field for it. -/
lemma version_length (hm : m.slice q payload.length = payload) (hlen : maxServerVersionLen < payload.length) :
    min (maxServerVersionLen - 1) ((m.slice (q + 1) maxServerVersionLen).takeWhile fun c => decide (c ≠ 0)).length =
      min (maxServerVersionLen - 1) ((payload.drop 1).takeWhile (· ≠ 0)).length := by
  have hslice : m.slice (q + 1) maxServerVersionLen = (payload.drop 1).take maxServerVersionLen := by
    rw [← hm, Memory.drop_slice, Memory.take_slice, Nat.min_eq_left (by omega)]
  rw [hslice, takeWhile_of_take, List.length_take]
  omega

/-- The reads of a handshake of protocol 10 stay inside exactly if it is long enough. -/
lemma greeting_within (hm : m.slice q payload.length = payload) :
    (greetingReading q).Within m (Set.Ico q (q + payload.length)) ↔
      45 + min (maxServerVersionLen - 1) ((payload.drop 1).takeWhile (· ≠ 0)).length ≤ payload.length := by
  have hsize : maxServerVersionLen = 32 := rfl
  have hall : (greetingReading q).Within m (Set.Ico q (q + payload.length)) ↔
      45 + min (maxServerVersionLen - 1) ((m.slice (q + 1) maxServerVersionLen).takeWhile fun c => decide (c ≠ 0)).length ≤
        payload.length := by
    unfold greetingReading
    simp only [Reading.within_bind, Reading.within_scan, Reading.run_scan, stop_eq, within_int4Reading, within_int2Reading,
      Reading.within_get, Reading.within_block_Ico (show 0 < 8 by decide),
      Reading.within_block_Ico (show 0 < 12 by decide), Reading.within_pure, Set.mem_Ico, List.length_take, and_true]
    generalize ((m.slice (q + 1) maxServerVersionLen).takeWhile fun c => decide (c ≠ 0)).length = v
    constructor
    · rintro ⟨-, -, -, -, -, -, -, hend⟩
      omega
    · intro h
      refine ⟨fun i hi hv => ?_, ?_⟩
      · omega
      · omega
  rw [hall]
  by_cases hlen : maxServerVersionLen < payload.length
  · rw [version_length hm hlen]
  · exact ⟨fun h => absurd h (by omega), fun h => absurd h (by omega)⟩

/-- **A handshake stays inside** exactly if it is long enough and no ERR packet: behind one, reading goes on outside. -/
lemma handshake_within (hm : m.slice q payload.length = payload) {next : ℕ}
    (hnext : next ∉ Set.Ico q (q + payload.length)) :
    (handshakeReading q payload.length next).Within m (Set.Ico q (q + payload.length)) ∧
      (∀ n ∈ ((handshakeReading q payload.length next).run m).1.bind ResponseFields.remaining, 0 ≤ n) ↔
        HandshakeFits payload := by
  unfold HandshakeFits handshakeReading
  rw [Reading.within_bind, Reading.within_get, Reading.run_bind, Reading.run_get, start_mem, and_assoc]
  refine and_congr_right fun hpos => ?_
  have hfirst : m q = view payload 0 := view_of_slice hm hpos
  rw [hfirst]
  split_ifs with herr
  · simp only [Reading.within_bind, protocolReading, Reading.within_get, hnext, herr, ne_eq, not_true_eq_false, false_and,
      and_false]
  · rw [within_bind_pure, Reading.run_bind, Reading.run_pure]
    unfold protocolReading
    rw [Reading.within_bind, Reading.within_get, Reading.run_get, start_mem, hfirst, ite_not]
    split_ifs with hversion
    · rw [within_bind_pure, greeting_within hm]
      simp [hpos, hversion]
    · simp [hpos, herr, hversion]

end Others

/-! ### The readers -/

/-- A packet with this payload is open, and its end is known: the loop of `attachsql_con_process_packets` has passed its
header and set `packet_end_ptr`.  `column_count` is a `uint16_t`. -/
structure Con.Delimited (con : Con) (payload : List UInt8) : Prop extends con.Opened payload where
  packetEnd : con.buf.packetEndPtr = some (con.buf.bufferReadPtr + payload.length)
  header : con.buf.buffer + 4 ≤ con.buf.bufferReadPtr
  space : con.buf.bufferReadPtr + payload.length ≤ 2 ^ 64
  columnCount_lt : con.result.columnCount < 2 ^ 16

/-- The packets that are read from what a server sends, by the function that takes them apart. -/
inductive PacketReader where
  | handshake
  | response
  | prepareResponse
  | column (record : Column)
  | textRow
  | binaryRow

/-- What a reader computes besides the fields: the number of bytes it takes to remain in the packet, if it asks for it, and
whether it came to the end. -/
structure Progress where
  remaining : Option ℤ
  complete : Bool
  deriving DecidableEq

namespace PacketReader

/-- The columns a row of a statement is taken apart by. -/
def rowColumns (con : Con) : List Column := (con.result.columns.getD []).take con.result.columnCount

/-- The reads of a reader. -/
def reading (con : Con) : PacketReader → Reading UInt8 Progress
  | handshake => do
    let (rejection, fields) ← handshakeReading con.buf.bufferReadPtr con.packetSize con.buf.packetReadEnd.bufferReadPtr
    pure { remaining := rejection.bind ResponseFields.remaining, complete := fields.isSome }
  | response => do
    let fields ← responseReading con.buf.bufferReadPtr con.packetSize
    pure { remaining := fields.remaining, complete := true }
  | prepareResponse => do
    let fields ← prepareResponseReading con.buf.bufferReadPtr con.packetSize
    pure { remaining := fields.elim ResponseFields.remaining fun f => some f.remaining, complete := true }
  | column record => do
    let _ ← columnReading record con.buf.bufferReadPtr
    pure { remaining := none, complete := true }
  | textRow => do
    let row ← rowReading con.buf.bufferReadPtr con.packetSize (cellsReading con.result.columnCount con.buf.bufferReadPtr)
    pure { remaining := row.elim ResponseFields.remaining fun _ => none, complete := true }
  | binaryRow => do
    let row ← rowReading con.buf.bufferReadPtr con.packetSize
      (stmtCellsReading (con.buf.bufferReadPtr + 1) 0 (con.buf.bufferReadPtr + 1 + (con.result.columnCount + 9) / 8)
        (rowColumns con))
    pure { remaining := row.elim ResponseFields.remaining fun _ => none, complete := row.elim (fun _ => true) Prod.snd }

/-- The reader reports an error: a handshake an incompatible protocol, a row of a statement bad data. -/
def Reports (env : Env) (con : Con) : PacketReader → Prop
  | handshake => (packetReadHandshake env con).localErrcode = .badProtocol
  | binaryRow => ∀ error, (statementRowGet env (packetReadRow env con) error).2.2 = false
  | response | prepareResponse | column _ | textRow => False

/-- **The reader stays inside the packet**: it reads nothing but bytes of the payload, takes no negative number of them to
remain, and reports an error unless it comes to the end. -/
structure Stays (env : Env) (con : Con) (r : PacketReader) : Prop where
  inside : (r.reading con).Within con.buf.mem (Set.Ico con.buf.bufferReadPtr (con.buf.packetEndPtr.getD 0))
  remaining : ∀ n ∈ ((r.reading con).run con.buf.mem).remaining, 0 ≤ n
  reported : ((r.reading con).run con.buf.mem).complete = false → r.Reports env con

/-- The payload is long enough for what the reader takes from it. -/
def Fits (con : Con) (payload : List UInt8) : PacketReader → Prop
  | handshake => HandshakeFits payload
  | response => ResponseFits payload
  | prepareResponse => PrepareResponseFits payload
  | column _ => ColumnFits payload
  | textRow => RowFits payload (TextRowFits payload con.result.columnCount 0)
  | binaryRow => RowFits payload (BinaryRowFits payload 0 (1 + (con.result.columnCount + 9) / 8) (rowColumns con))

end PacketReader

section Readers

variable {env : Env} {con : Con} {payload : List UInt8}

/-- That place is outside of the packet. -/
lemma Con.Delimited.next_outside (h : con.Delimited payload) :
    con.buf.packetReadEnd.bufferReadPtr ∉
      Set.Ico con.buf.bufferReadPtr (con.buf.bufferReadPtr + payload.length) := by
  have hheader := h.header
  rw [Set.mem_Ico]
  by_cases hd : con.buf.packetEndPtr = some con.buf.bufferWritePtr
  · rw [BufferSt.packetReadEnd_of_drained hd]
    dsimp only
    omega
  · have hne : con.buf.bufferReadPtr + payload.length ≠ con.buf.bufferWritePtr := fun he => hd (he ▸ h.packetEnd)
    rw [BufferSt.packetReadEnd_of_undrained h.packetEnd hne]
    dsimp only
    omega

/-- A version that is not known is reported. -/
lemma handshake_reports (h₁ : con.peekByte 0 ≠ 0xff) (h₂ : con.peekByte 0 ≠ 10) :
    (packetReadHandshake env con).localErrcode = .badProtocol := by
  unfold packetReadHandshake
  rw [if_neg h₁, if_pos h₂]

/-- The error of the loop over the columns is answered. -/
lemma writeStmtRow_fails {row : List StmtCell} {error : ErrorPtr} (hbad : ∀ p ∈ con.result.rowData,
    (stmtCells con.buf.mem (p + 1) 0 (p + 1 + (con.result.columnCount + 9) / 8) (PacketReader.rowColumns con)).2 = false) :
    (writeStmtRow env con row error).2.2 = false := by
  unfold writeStmtRow
  cases hp : con.result.rowData with
  | none => rfl
  | some p =>
    cases hc : con.result.columns with
    | none => rfl
    | some columns =>
      have hcells := hbad p hp
      unfold PacketReader.rowColumns at hcells
      rw [hc, Option.getD_some] at hcells
      dsimp only
      rw [hcells]
      split_ifs with hroom hok
      · rfl
      · exact hok.elim
      · rfl

/-- A type that is not known is reported. -/
lemma binaryRow_reports (hrow : con.peekByte 0 ≠ 0xfe)
    (hbad : (stmtCells con.buf.mem (con.buf.bufferReadPtr + 1) 0
      (con.buf.bufferReadPtr + 1 + (con.result.columnCount + 9) / 8) (PacketReader.rowColumns con)).2 = false)
    (error : ErrorPtr) : (statementRowGet env (packetReadRow env con) error).2.2 = false := by
  have hread : (packetReadRow env con).result = { con.result with
      rowData := some con.buf.bufferReadPtr, rowLength := con.packetSize } := by
    unfold packetReadRow
    rw [if_neg hrow]
    rfl
  have hbuf : (packetReadRow env con).buf = con.buf := by
    unfold packetReadRow
    rw [if_neg hrow]
    rfl
  have hcells : ∀ p ∈ (packetReadRow env con).result.rowData, (stmtCells (packetReadRow env con).buf.mem (p + 1) 0
      (p + 1 + ((packetReadRow env con).result.columnCount + 9) / 8)
      (PacketReader.rowColumns (packetReadRow env con))).2 = false := by
    intro p hp
    unfold PacketReader.rowColumns
    rw [hread] at hp ⊢
    rw [hbuf]
    obtain rfl := Option.some.inj hp
    exact hbad
  generalize packetReadRow env con = con₁ at hcells
  unfold statementRowGet
  dsimp only
  split
  · rfl
  · exact writeStmtRow_fails hcells

/-- A handshake that is no ERR packet and is not read to its end has a version that is not known. -/
lemma unknown_version {size next : ℕ} (herr : con.peekByte 0 ≠ 0xff)
    (hfail : ((handshakeReading con.buf.bufferReadPtr size next).run con.buf.mem).2.isSome = false) :
    con.peekByte 0 ≠ 10 := by
  intro hversion
  have herr' : con.buf.mem con.buf.bufferReadPtr ≠ 0xff := herr
  have hversion' : con.buf.mem con.buf.bufferReadPtr = 10 := hversion
  unfold handshakeReading protocolReading at hfail
  rw [Reading.run_bind, Reading.run_get, if_neg herr', Reading.run_bind, Reading.run_pure, Reading.run_bind,
    Reading.run_get, if_neg (not_not.mpr hversion'), Reading.run_bind, Reading.run_pure] at hfail
  exact Bool.noConfusion hfail

/-- A row that is not taken apart to its end is reported. -/
lemma binaryRow_unread {size : ℕ} (hfail : ((rowReading con.buf.bufferReadPtr size
      (stmtCellsReading (con.buf.bufferReadPtr + 1) 0 (con.buf.bufferReadPtr + 1 + (con.result.columnCount + 9) / 8)
        (PacketReader.rowColumns con))).run con.buf.mem).elim (fun _ => true) Prod.snd = false) :
    PacketReader.Reports env con .binaryRow := by
  unfold rowReading at hfail
  rw [Reading.run_bind, Reading.run_get] at hfail
  by_cases hrow : con.buf.mem con.buf.bufferReadPtr = 0xfe
  · rw [if_pos hrow, Reading.run_bind, Reading.run_pure] at hfail
    exact Bool.noConfusion hfail
  · rw [if_neg hrow, Reading.run_bind, Reading.run_pure, run_stmtCellsReading] at hfail
    exact binaryRow_reports hrow hfail

/-- **Packet readers stay inside the packet** exactly if the payload is long enough for what they take from it: nothing is
compared with the end of the packet. -/
theorem packet_readers (env : Env) {con : Con} {payload : List UInt8} (h : con.Delimited payload) (r : PacketReader) :
    r.Stays env con ↔ r.Fits con payload := by
  have hm := h.payload_eq
  have hq := h.space
  have hend : con.buf.packetEndPtr.getD 0 = con.buf.bufferReadPtr + payload.length := by
    rw [h.packetEnd, Option.getD_some]
  -- the part about errors goes without saying where the reader always comes to the end
  have hstays : r.Stays env con ↔ ((r.reading con).Within con.buf.mem
      (Set.Ico con.buf.bufferReadPtr (con.buf.bufferReadPtr + payload.length)) ∧
      ∀ n ∈ ((r.reading con).run con.buf.mem).remaining, 0 ≤ n) ∧
        (((r.reading con).run con.buf.mem).complete = false → r.Reports env con) :=
    ⟨fun hs => ⟨⟨hend ▸ hs.inside, hs.remaining⟩, hs.reported⟩, fun hs => ⟨hend.symm ▸ hs.1.1, hs.1.2, hs.2⟩⟩
  rw [hstays]
  cases r with
  | handshake =>
    unfold PacketReader.reading PacketReader.Fits
    simp only
    rw [h.size_eq, within_bind_pure, Reading.run_bind, Reading.run_pure, handshake_within hm h.next_outside]
    refine and_iff_left_of_imp fun hfits hfail => ?_
    have herr : con.peekByte 0 ≠ 0xff := fun he => hfits.2.1 ((view_of_slice (i := 0) hm hfits.1).symm.trans he)
    exact handshake_reports herr (unknown_version herr hfail)
  | response =>
    unfold PacketReader.reading PacketReader.Fits
    simp only
    rw [h.size_eq, within_bind_pure, Reading.run_bind, Reading.run_pure, response_within hm]
    exact and_iff_left fun hfail => Bool.noConfusion hfail
  | prepareResponse =>
    unfold PacketReader.reading PacketReader.Fits
    simp only
    rw [h.size_eq, within_bind_pure, Reading.run_bind, Reading.run_pure, prepareResponse_within hm]
    exact and_iff_left fun hfail => Bool.noConfusion hfail
  | column record =>
    have hpos : 0 < con.buf.bufferReadPtr := by
      have hheader := h.header
      omega
    unfold PacketReader.reading PacketReader.Fits
    simp only
    rw [within_bind_pure, Reading.run_bind, Reading.run_pure, column_within record hpos hq hm, and_assoc]
    exact and_iff_left ⟨fun n hn => absurd hn (Option.not_mem_none n), fun hfail => Bool.noConfusion hfail⟩
  | textRow =>
    have hstart : Points con.buf.bufferReadPtr 0 con.buf.bufferReadPtr := Points.start (Nat.two_pow_pos 64)
    unfold PacketReader.reading PacketReader.Fits
    simp only
    rw [h.size_eq, within_bind_pure, Reading.run_bind, Reading.run_pure, row_within hm (cells_within hq hm _ hstart)]
    exact and_iff_left fun hfail => Bool.noConfusion hfail
  | binaryRow =>
    have hcount := h.columnCount_lt
    have hstart : Points con.buf.bufferReadPtr (1 + (con.result.columnCount + 9) / 8)
        (con.buf.bufferReadPtr + 1 + (con.result.columnCount + 9) / 8) := by
      rw [Nat.add_assoc]
      exact Points.start (by omega)
    unfold PacketReader.reading PacketReader.Fits
    simp only
    rw [h.size_eq, within_bind_pure, Reading.run_bind, Reading.run_pure,
      row_within hm (stmtCells_within hq hm _ 0 hstart)]
    exact and_iff_left fun hfail => binaryRow_unread hfail

end Readers

/-! ### Packets that arrive -/

instance (payload : List UInt8) : Decidable (ResponseFits payload) := by
  unfold ResponseFits
  infer_instance

/-- A packet that has arrived, complete, is open for its reader. -/
lemma Arrival.opened_delimited {a : Arrival} {payload : List UInt8} (hb : a.con.Bears payload)
    (hcount : a.con.result.columnCount < 2 ^ 16) (t : PacketType) : (a.opened t payload).Delimited payload := by
  obtain ⟨hpayload, hspace⟩ := hb.opened t
  have hread := hb.wf.buffer_le_read
  exact ⟨⟨rfl, rfl, hpayload⟩, rfl, Nat.add_le_add_right hread 4, hspace, hcount⟩

/-- A connection that has received a packet and expects it as a response. -/
def receiving (payload : List UInt8) : Arrival where
  env := .calm
  con := { readInto (onAlloc .calm (Con.calm 0) 65536).1 (frame 1 payload) with nextPacketQueue := [.response] }

/-- The payload of an OK packet. -/
def okPayload : List UInt8 := [0, 1, 0, 2, 0, 0, 0]

/-- An OK packet stays inside. -/
theorem packet_readers_ok :
    ((receiving okPayload).opened .response okPayload).Delimited okPayload ∧
      PacketReader.response.Stays .calm ((receiving okPayload).opened .response okPayload) := by
  have hdelimited : ((receiving okPayload).opened .response okPayload).Delimited okPayload :=
    Arrival.opened_delimited (by decide +kernel) (by decide) .response
  exact ⟨hdelimited, (packet_readers .calm hdelimited .response).mpr (show ResponseFits okPayload by decide)⟩

/-- The first bytes of an ERR packet, that is all. -/
def shortError : List UInt8 := [0xff, 0x28, 0x04]

/-- An ERR packet of three bytes: minus six bytes are said to remain for its message, the SQLSTATE is read behind its end,
and what is found there is stored as if nothing had happened. -/
theorem packet_readers_shortError :
    ((receiving shortError).opened .response shortError).Delimited shortError ∧
      ((PacketReader.response.reading ((receiving shortError).opened .response shortError)).run
        ((receiving shortError).opened .response shortError).buf.mem) = { remaining := some (-6), complete := true } ∧
      ¬ PacketReader.response.Stays .calm ((receiving shortError).opened .response shortError) := by
  have hdelimited : ((receiving shortError).opened .response shortError).Delimited shortError :=
    Arrival.opened_delimited (by decide +kernel) (by decide) .response
  have hrun : ((PacketReader.response.reading ((receiving shortError).opened .response shortError)).run
      ((receiving shortError).opened .response shortError).buf.mem) = { remaining := some (-6), complete := true } := by
    decide +kernel
  refine ⟨hdelimited, hrun, fun hs => ?_⟩
  have hremaining := hs.remaining (-6) (by rw [hrun]; rfl)
  omega

end LibAttachSql
