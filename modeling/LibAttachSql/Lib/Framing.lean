import LibAttachSql.Lib.BinaryProtocol

/-!
# Framed streams

A stream of frames.  A frame is its length in `n` bytes, the lowest first, `k` further bytes of header, and a payload of
that length.  The frames of a stream account for all of its bytes, so a stream that holds one payload behind one header
is read as that frame or not at all as a split of it.
-/

namespace LibAttachSql.Lib

/-- A frame, without its length. -/
structure Frame where
  header : List UInt8
  payload : List UInt8
  deriving DecidableEq

/-- The number of bytes a frame takes up. -/
def Frame.size (n : ℕ) (f : Frame) : ℕ := n + f.header.length + f.payload.length

/-! ### Readers -/

/-- The first frame of a stream and the bytes behind it. -/
def takeFrame (n k : ℕ) (bs : List UInt8) : Option (Frame × List UInt8) :=
  (takeInt n bs).bind fun len =>
    (takeBytes k len.2).bind fun header =>
      (takeBytes len.1 header.2).map fun payload => (⟨header.1, payload.1⟩, payload.2)

/-- At most so many frames, when they use the stream up. -/
def takeFrames (n k : ℕ) : ℕ → List UInt8 → Option (List Frame)
  | _, [] => some []
  | 0, _ :: _ => none
  | m + 1, b :: bs => (takeFrame n k (b :: bs)).bind fun r => (takeFrames n k m r.2).map (r.1 :: ·)

/-- The frames of a stream.  A frame takes up a byte at least, so there are no more of them than bytes. -/
def readFrames (n k : ℕ) (bs : List UInt8) : Option (List Frame) := takeFrames n k bs.length bs

/-! ### Reading a frame back -/

variable {n k m : ℕ} {bs : List UInt8}

/-- The length of a frame is what its first bytes say. -/
lemma takeFrame_append {len header payload rest : List UInt8} (hn : len.length = n) (hk : header.length = k)
    (hp : payload.length = littleEndian len) :
    takeFrame n k (len ++ (header ++ (payload ++ rest))) = some (⟨header, payload⟩, rest) := by
  unfold takeFrame
  simp only [takeInt_append hn, takeBytes_append hk, takeBytes_append hp, Option.bind_some, Option.map_some]

/-- A stream of one frame. -/
lemma readFrames_single {len header payload : List UInt8} (hn : len.length = n) (hk : header.length = k)
    (hp : payload.length = littleEndian len) (h : 0 < n) :
    readFrames n k (len ++ (header ++ payload)) = some [⟨header, payload⟩] := by
  have hframe := @takeFrame_append n k len header payload [] hn hk hp
  rw [List.append_nil] at hframe
  unfold readFrames
  cases hbs : len ++ (header ++ payload) with
  | nil =>
    have hlen := congrArg List.length hbs
    simp only [List.length_append, List.length_nil] at hlen
    omega
  | cons b bs =>
    rw [hbs] at hframe
    rw [List.length_cons, takeFrames, hframe, Option.bind_some]
    cases bs.length <;> rfl

/-! ### How long a stream is -/

lemma size_takeFrame {r : Frame × List UInt8} (h : takeFrame n k bs = some r) :
    bs.length = r.1.size n + r.2.length ∧ r.1.header.length = k := by
  unfold takeFrame at h
  obtain ⟨len, hlen, h⟩ := Option.bind_eq_some_iff.mp h
  obtain ⟨header, hheader, h⟩ := Option.bind_eq_some_iff.mp h
  obtain ⟨payload, hpayload, rfl⟩ := Option.map_eq_some_iff.mp h
  have h₁ := (length_of_takeInt hlen).2
  have h₂ := length_of_takeBytes hheader
  have h₃ := length_of_takeBytes hpayload
  unfold Frame.size
  dsimp only
  omega

/-- **The frames of a stream account for all of its bytes.** -/
theorem length_of_takeFrames {fs : List Frame} (h : takeFrames n k m bs = some fs) :
    bs.length = (fs.map Frame.payload).flatten.length + fs.length * (n + k) := by
  induction m generalizing bs fs with
  | zero =>
    cases bs with
    | nil =>
      cases h
      simp
    | cons b bs => cases h
  | succ m ih =>
    cases bs with
    | nil =>
      cases h
      simp
    | cons b bs =>
      obtain ⟨r, hr, hfs⟩ := Option.bind_eq_some_iff.mp h
      obtain ⟨fs', hfs', rfl⟩ := Option.map_eq_some_iff.mp hfs
      obtain ⟨hsize, hheader⟩ := size_takeFrame hr
      rw [hsize, ih hfs']
      simp only [Frame.size, hheader, List.map_cons, List.flatten_cons, List.length_append, List.length_cons]
      rw [Nat.add_one_mul]
      omega

/-- A stream that is not empty starts with its first frame. -/
lemma takeFrame_of_readFrames {f : Frame} {fs : List Frame} (h : readFrames n k bs = some (f :: fs)) :
    ∃ rest, takeFrame n k bs = some (f, rest) := by
  unfold readFrames at h
  cases bs with
  | nil => cases h
  | cons b bs =>
    obtain ⟨r, hr, hfs⟩ := Option.bind_eq_some_iff.mp h
    obtain ⟨fs', -, hcons⟩ := Option.map_eq_some_iff.mp hfs
    cases hcons
    exact ⟨r.2, hr⟩

/-- The payload of the first frame is as long as the first bytes of the stream say. -/
lemma payload_length_of_takeFrame {len rest : List UInt8} {r : Frame × List UInt8} (hn : len.length = n)
    (h : takeFrame n k (len ++ rest) = some r) : r.1.payload.length = littleEndian len := by
  unfold takeFrame at h
  rw [takeInt_append hn, Option.bind_some] at h
  obtain ⟨header, -, h⟩ := Option.bind_eq_some_iff.mp h
  obtain ⟨payload, hpayload, rfl⟩ := Option.map_eq_some_iff.mp h
  exact (length_of_takeBytes hpayload).1

/-- **A payload behind one header is read back exactly when its length is the one in the header.** -/
theorem readFrames_eq_payload_iff {len header payload : List UInt8} (hn : len.length = n) (hk : header.length = k)
    (h : 0 < n) :
    (readFrames n k (len ++ (header ++ payload))).map (fun fs => (fs.map Frame.payload).flatten) = some payload ↔
      littleEndian len = payload.length := by
  constructor
  · intro hread
    obtain ⟨fs, hfs, hpayload⟩ := Option.map_eq_some_iff.mp hread
    have hlength : _ = _ + fs.length * (n + k) := length_of_takeFrames hfs
    rw [hpayload] at hlength
    simp only [List.length_append] at hlength
    have hone : fs.length = 1 := by
      have hsame : fs.length * (n + k) = 1 * (n + k) := by omega
      exact Nat.eq_of_mul_eq_mul_right (by omega) hsame
    obtain ⟨f, rfl⟩ := List.length_eq_one_iff.mp hone
    obtain ⟨rest, hf⟩ := takeFrame_of_readFrames hfs
    have hf' := payload_length_of_takeFrame hn hf
    simp only [List.map_cons, List.map_nil, List.flatten_cons, List.flatten_nil, List.append_nil] at hpayload
    rw [← hf', hpayload]
  · intro hlen
    rw [readFrames_single hn hk hlen.symm h]
    simp

/-! ### Cutting a stream -/

/-- So many of the complete frames a stream starts with, and what is behind them. -/
def cutFrames (n k : ℕ) : ℕ → List UInt8 → List Frame × List UInt8
  | 0, bs => ([], bs)
  | m + 1, bs =>
    match takeFrame n k bs with
    | none => ([], bs)
    | some (f, rest) => (f :: (cutFrames n k m rest).1, (cutFrames n k m rest).2)

/-- The complete frames a stream starts with. -/
def leadingFrames (n k : ℕ) (bs : List UInt8) : List Frame := (cutFrames n k bs.length bs).1

/-- What is behind the complete frames a stream starts with. -/
def residue (n k : ℕ) (bs : List UInt8) : List UInt8 := (cutFrames n k bs.length bs).2

lemma cutFrames_of_none (h : takeFrame n k bs = none) : cutFrames n k m bs = ([], bs) := by
  cases m with
  | zero => rfl
  | succ m =>
    unfold cutFrames
    rw [h]

lemma cutFrames_of_some {f : Frame} {rest : List UInt8} (h : takeFrame n k bs = some (f, rest)) :
    cutFrames n k (m + 1) bs = (f :: (cutFrames n k m rest).1, (cutFrames n k m rest).2) := by
  rw [cutFrames, h]

/-- A frame takes up a byte at least, so as many cuts as there are bytes are enough. -/
lemma cutFrames_of_le (hn : 0 < n) {l : ℕ} (hm : bs.length ≤ m) (hl : bs.length ≤ l) :
    cutFrames n k m bs = cutFrames n k l bs := by
  induction m generalizing bs l with
  | zero =>
    obtain rfl : bs = [] := List.length_eq_zero_iff.mp (Nat.le_zero.mp hm)
    have hnone : takeFrame n k [] = none := by
      refine Option.eq_none_iff_forall_ne_some.mpr fun r hr => ?_
      have hsize := (size_takeFrame hr).1
      unfold Frame.size at hsize
      rw [List.length_nil] at hsize
      omega
    rw [cutFrames_of_none hnone, cutFrames_of_none hnone]
  | succ m ih =>
    cases hf : takeFrame n k bs with
    | none => rw [cutFrames_of_none hf, cutFrames_of_none hf]
    | some r =>
      obtain ⟨f, rest⟩ := r
      have hsize := (size_takeFrame hf).1
      unfold Frame.size at hsize
      dsimp only at hsize
      obtain ⟨l, rfl⟩ : ∃ l', l = l' + 1 := Nat.exists_eq_add_one.mpr (by omega)
      have hrest : cutFrames n k m rest = cutFrames n k l rest := ih (by omega) (by omega)
      rw [cutFrames_of_some hf, cutFrames_of_some hf, hrest]

lemma leadingFrames_of_none (h : takeFrame n k bs = none) : leadingFrames n k bs = [] :=
  congrArg Prod.fst (cutFrames_of_none h)

lemma residue_of_none (h : takeFrame n k bs = none) : residue n k bs = bs := congrArg Prod.snd (cutFrames_of_none h)

/-- Behind a frame the stream is cut as one of its own. -/
lemma residue_of_some (hn : 0 < n) {f : Frame} {rest : List UInt8} (h : takeFrame n k bs = some (f, rest)) :
    residue n k bs = residue n k rest := by
  have hsize := (size_takeFrame h).1
  unfold Frame.size at hsize
  dsimp only at hsize
  obtain ⟨l, hl⟩ : ∃ l, bs.length = l + 1 := Nat.exists_eq_add_one.mpr (by omega)
  have hcut : cutFrames n k l rest = cutFrames n k rest.length rest := cutFrames_of_le hn (by omega) le_rfl
  unfold residue
  rw [hl, cutFrames_of_some h, hcut]

/-- **What is behind the complete frames starts with none.** -/
theorem takeFrame_residue (hn : 0 < n) (bs : List UInt8) : takeFrame n k (residue n k bs) = none := by
  induction hlen : bs.length using Nat.strong_induction_on generalizing bs with
  | _ l ih =>
    cases h : takeFrame n k bs with
    | none => rwa [residue_of_none h]
    | some r =>
      have hsize := (size_takeFrame h).1
      unfold Frame.size at hsize
      rw [residue_of_some hn h]
      exact ih r.2.length (by omega) r.2 rfl

end LibAttachSql.Lib
