import Mathlib.Algebra.Ring.Nat
import Mathlib.Data.List.Basic
import Mathlib.Data.Nat.Basic

/-!
# The binary protocol for prepared statements

What a server reads out of the payload of an execution: a statement id, flags, an iteration count, a bitmap of the
parameters that are NULL, a byte that announces types, a type of two bytes for each parameter, and the values of the
parameters that are not NULL.  Integers are little-endian, strings come behind their length, dates and times leave out
what is zero at their end.

Each reader answers the value and the bytes behind it, and for each there is a bound on how few bytes a value can be
read from.
-/

namespace LibAttachSql.Lib

/-- The number of a list of bytes, the lowest first. -/
def littleEndian : List UInt8 → ℕ
  | [] => 0
  | b :: bs => b.toNat + 256 * littleEndian bs

/-- The value of a parameter.  Integers are given by their bits and whether they are unsigned, a floating-point number by
its bytes. -/
inductive BinaryValue where
  | null
  | long (isUnsigned : Bool) (bits : ℕ)
  | longlong (isUnsigned : Bool) (bits : ℕ)
  | double (bytes : List UInt8)
  | string (bytes : List UInt8)
  | blob (bytes : List UInt8)
  | datetime (year month day hour minute second microsecond : ℕ)
  | time (isNegative : Bool) (days hour minute second microsecond : ℕ)
  deriving DecidableEq

/-! ### Readers -/

/-- The first `n` bytes and the rest. -/
def takeBytes (n : ℕ) (bs : List UInt8) : Option (List UInt8 × List UInt8) :=
  if n ≤ bs.length then some (bs.take n, bs.drop n) else none

/-- An integer of `n` bytes. -/
def takeInt (n : ℕ) (bs : List UInt8) : Option (ℕ × List UInt8) :=
  (takeBytes n bs).map fun r => (littleEndian r.1, r.2)

/-- A length in one, three, four or nine bytes. -/
def takeLength : List UInt8 → Option (ℕ × List UInt8)
  | [] => none
  | b :: bs =>
    if b.toNat < 0xfb then some (b.toNat, bs)
    else if b = 0xfc then takeInt 2 bs
    else if b = 0xfd then takeInt 3 bs
    else if b = 0xfe then takeInt 8 bs
    else none

/-- A string behind its length. -/
def takeString (bs : List UInt8) : Option (List UInt8 × List UInt8) :=
  (takeLength bs).bind fun r => takeBytes r.1 r.2

/-- A block of bytes behind a byte with its length. -/
def takeBlock : List UInt8 → Option (List UInt8 × List UInt8)
  | [] => none
  | b :: bs => takeBytes b.toNat bs

/-- A date and time, from a block of 0, 4, 7 or 11 bytes. -/
def readDatetime : List UInt8 → Option BinaryValue
  | [] => some (.datetime 0 0 0 0 0 0 0)
  | [y₀, y₁, mo, d] => some (.datetime (littleEndian [y₀, y₁]) mo.toNat d.toNat 0 0 0 0)
  | [y₀, y₁, mo, d, h, mi, s] =>
    some (.datetime (littleEndian [y₀, y₁]) mo.toNat d.toNat h.toNat mi.toNat s.toNat 0)
  | [y₀, y₁, mo, d, h, mi, s, u₀, u₁, u₂, u₃] =>
    some (.datetime (littleEndian [y₀, y₁]) mo.toNat d.toNat h.toNat mi.toNat s.toNat
      (littleEndian [u₀, u₁, u₂, u₃]))
  | _ => none

/-- A time, from a block of 0, 8 or 12 bytes. -/
def readTime : List UInt8 → Option BinaryValue
  | [] => some (.time false 0 0 0 0 0)
  | [n, d₀, d₁, d₂, d₃, h, mi, s] =>
    some (.time (n != 0) (littleEndian [d₀, d₁, d₂, d₃]) h.toNat mi.toNat s.toNat 0)
  | [n, d₀, d₁, d₂, d₃, h, mi, s, u₀, u₁, u₂, u₃] =>
    some (.time (n != 0) (littleEndian [d₀, d₁, d₂, d₃]) h.toNat mi.toNat s.toNat (littleEndian [u₀, u₁, u₂, u₃]))
  | _ => none

/-- A value of a type. -/
def takeValue (type : UInt8) (isUnsigned : Bool) (bs : List UInt8) : Option (BinaryValue × List UInt8) :=
  if type = 0x03 then (takeInt 4 bs).map fun r => (.long isUnsigned r.1, r.2)
  else if type = 0x08 then (takeInt 8 bs).map fun r => (.longlong isUnsigned r.1, r.2)
  else if type = 0x05 then (takeBytes 8 bs).map fun r => (.double r.1, r.2)
  else if type = 0xfe then (takeString bs).map fun r => (.string r.1, r.2)
  else if type = 0xfc then (takeString bs).map fun r => (.blob r.1, r.2)
  else if type = 0x0c then (takeBlock bs).bind fun r => (readDatetime r.1).map (·, r.2)
  else if type = 0x0b then (takeBlock bs).bind fun r => (readTime r.1).map (·, r.2)
  else none

/-- The types of `n` parameters, with their flags for unsigned integers. -/
def takeTypes : ℕ → List UInt8 → Option (List (UInt8 × Bool) × List UInt8)
  | 0, bs => some ([], bs)
  | n + 1, type :: flag :: bs => (takeTypes n bs).map fun r => ((type, flag == 0x80) :: r.1, r.2)
  | _ + 1, _ => none

/-- Whether the bitmap says that a parameter is NULL. -/
def nullBit (bitmap : List UInt8) (i : ℕ) : Bool := (bitmap.getD (i / 8) 0).toNat.testBit (i % 8)

/-- The values of the parameters from number `i` on. -/
def takeValues (bitmap : List UInt8) : ℕ → List (UInt8 × Bool) → List UInt8 → Option (List BinaryValue × List UInt8)
  | _, [], bs => some ([], bs)
  | i, (type, isUnsigned) :: types, bs =>
    if nullBit bitmap i then (takeValues bitmap (i + 1) types bs).map fun r => (.null :: r.1, r.2)
    else
      (takeValue type isUnsigned bs).bind fun v =>
        (takeValues bitmap (i + 1) types v.2).map fun r => (v.1 :: r.1, r.2)

/-- The statement id and the parameters of an execution with `n` parameters, if the payload is used up. -/
def decodeExecute (n : ℕ) (bs : List UInt8) : Option (ℕ × List BinaryValue) :=
  (takeInt 4 bs).bind fun id =>
    (takeBytes 5 id.2).bind fun fixed =>
      (takeBytes ((n + 7) / 8) fixed.2).bind fun bitmap =>
        (takeBytes 1 bitmap.2).bind fun newBind =>
          if newBind.1 = [1] then
            (takeTypes n newBind.2).bind fun types =>
              (takeValues bitmap.1 0 types.1 types.2).bind fun values =>
                if values.2 = [] then some (id.1, values.1) else none
          else none

/-! ### Reading what was appended -/

variable {bs rest : List UInt8} {n : ℕ}

lemma takeBytes_append (h : bs.length = n) : takeBytes n (bs ++ rest) = some (bs, rest) := by
  subst h
  unfold takeBytes
  rw [if_pos (by simp), List.take_left, List.drop_left]

lemma takeInt_append (h : bs.length = n) : takeInt n (bs ++ rest) = some (littleEndian bs, rest) := by
  unfold takeInt
  rw [takeBytes_append h, Option.map_some]

lemma takeBlock_append {b : UInt8} (h : bs.length = b.toNat) : takeBlock (b :: (bs ++ rest)) = some (bs, rest) :=
  takeBytes_append h

section TakeValue

variable (u : Bool) (bs : List UInt8)

@[simp] lemma takeValue_long : takeValue 0x03 u bs = (takeInt 4 bs).map fun r => (.long u r.1, r.2) := by
  simp [takeValue]

@[simp] lemma takeValue_longlong : takeValue 0x08 u bs = (takeInt 8 bs).map fun r => (.longlong u r.1, r.2) := by
  simp [takeValue]

@[simp] lemma takeValue_double : takeValue 0x05 u bs = (takeBytes 8 bs).map fun r => (.double r.1, r.2) := by
  simp [takeValue]

@[simp] lemma takeValue_string : takeValue 0xfe u bs = (takeString bs).map fun r => (.string r.1, r.2) := by
  simp [takeValue]

@[simp] lemma takeValue_blob : takeValue 0xfc u bs = (takeString bs).map fun r => (.blob r.1, r.2) := by
  simp [takeValue]

@[simp] lemma takeValue_datetime :
    takeValue 0x0c u bs = (takeBlock bs).bind fun r => (readDatetime r.1).map (·, r.2) := by
  simp [takeValue]

@[simp] lemma takeValue_time : takeValue 0x0b u bs = (takeBlock bs).bind fun r => (readTime r.1).map (·, r.2) := by
  simp [takeValue]

end TakeValue

/-! ### How few bytes a value can be read from -/

/-- The length of the shortest form of a length. -/
def lengthSize (n : ℕ) : ℕ := if n < 0xfb then 1 else if n < 2 ^ 16 then 3 else if n < 2 ^ 24 then 4 else 9

/-- The length of the shortest form of a value. -/
def BinaryValue.size : BinaryValue → ℕ
  | .null => 0
  | .long _ _ => 4
  | .longlong _ _ => 8
  | .double _ => 8
  | .string bytes => lengthSize bytes.length + bytes.length
  | .blob bytes => lengthSize bytes.length + bytes.length
  | .datetime y mo d h mi s us =>
    if us ≠ 0 then 12 else if h ≠ 0 ∨ mi ≠ 0 ∨ s ≠ 0 then 8 else if y ≠ 0 ∨ mo ≠ 0 ∨ d ≠ 0 then 5 else 1
  | .time neg d h mi s us =>
    if us ≠ 0 then 13 else if neg ∨ d ≠ 0 ∨ h ≠ 0 ∨ mi ≠ 0 ∨ s ≠ 0 then 9 else 1

lemma littleEndian_lt (bs : List UInt8) : littleEndian bs < 256 ^ bs.length := by
  induction bs with
  | nil => exact Nat.one_pos
  | cons b bs ih =>
    have hb := b.toNat_lt
    rw [littleEndian, List.length_cons, Nat.pow_succ]
    omega

lemma length_of_takeBytes {r : List UInt8 × List UInt8} (h : takeBytes n bs = some r) :
    r.1.length = n ∧ bs.length = n + r.2.length := by
  unfold takeBytes at h
  split at h
  · next hn =>
    cases h
    simp only [List.length_take, List.length_drop]
    omega
  · cases h

lemma length_of_takeInt {r : ℕ × List UInt8} (h : takeInt n bs = some r) :
    r.1 < 256 ^ n ∧ bs.length = n + r.2.length := by
  unfold takeInt at h
  rw [Option.map_eq_some_iff] at h
  obtain ⟨a, ha, rfl⟩ := h
  obtain ⟨h₁, h₂⟩ := length_of_takeBytes ha
  exact ⟨h₁ ▸ littleEndian_lt a.1, h₂⟩

lemma length_of_takeLength {r : ℕ × List UInt8} (h : takeLength bs = some r) :
    lengthSize r.1 + r.2.length ≤ bs.length := by
  cases bs with
  | nil => cases h
  | cons b bs =>
    rw [takeLength] at h
    rw [List.length_cons]
    unfold lengthSize
    split_ifs at h with h₁ h₂ h₃ h₄
    · cases h
      dsimp only
      rw [if_pos h₁]
      omega
    · obtain ⟨hlt, hlen⟩ := length_of_takeInt h
      split_ifs <;> omega
    · obtain ⟨hlt, hlen⟩ := length_of_takeInt h
      split_ifs <;> omega
    · obtain ⟨-, hlen⟩ := length_of_takeInt h
      split_ifs <;> omega

lemma length_of_takeString {r : List UInt8 × List UInt8} (h : takeString bs = some r) :
    lengthSize r.1.length + r.1.length + r.2.length ≤ bs.length := by
  unfold takeString at h
  rw [Option.bind_eq_some_iff] at h
  obtain ⟨a, ha, hr⟩ := h
  have h₁ := length_of_takeLength ha
  obtain ⟨h₂, h₃⟩ := length_of_takeBytes hr
  rw [h₂]
  omega

lemma length_of_takeBlock {r : List UInt8 × List UInt8} (h : takeBlock bs = some r) :
    bs.length = r.1.length + r.2.length + 1 := by
  cases bs with
  | nil => cases h
  | cons b bs =>
    obtain ⟨h₁, h₂⟩ := length_of_takeBytes h
    rw [List.length_cons, h₁]
    omega

lemma size_readDatetime {v : BinaryValue} (h : readDatetime bs = some v) : v.size ≤ bs.length + 1 := by
  unfold readDatetime at h
  split at h <;> cases h <;> unfold BinaryValue.size <;> simp only [List.length_cons, List.length_nil] <;>
    split_ifs <;> omega

lemma size_readTime {v : BinaryValue} (h : readTime bs = some v) : v.size ≤ bs.length + 1 := by
  unfold readTime at h
  split at h <;> cases h <;> unfold BinaryValue.size <;> simp only [List.length_cons, List.length_nil] <;>
    split_ifs <;> simp_all

lemma size_takeValue {type : UInt8} {isUnsigned : Bool} {r : BinaryValue × List UInt8}
    (h : takeValue type isUnsigned bs = some r) : r.1.size + r.2.length ≤ bs.length := by
  unfold takeValue at h
  split_ifs at h
  · obtain ⟨a, ha, rfl⟩ := Option.map_eq_some_iff.mp h
    exact Nat.le_of_eq (length_of_takeInt ha).2.symm
  · obtain ⟨a, ha, rfl⟩ := Option.map_eq_some_iff.mp h
    exact Nat.le_of_eq (length_of_takeInt ha).2.symm
  · obtain ⟨a, ha, rfl⟩ := Option.map_eq_some_iff.mp h
    exact Nat.le_of_eq (length_of_takeBytes ha).2.symm
  · obtain ⟨a, ha, rfl⟩ := Option.map_eq_some_iff.mp h
    exact length_of_takeString ha
  · obtain ⟨a, ha, rfl⟩ := Option.map_eq_some_iff.mp h
    exact length_of_takeString ha
  · obtain ⟨a, ha, hr⟩ := Option.bind_eq_some_iff.mp h
    obtain ⟨v, hv, rfl⟩ := Option.map_eq_some_iff.mp hr
    have h₁ := length_of_takeBlock ha
    have h₂ := size_readDatetime hv
    dsimp only
    omega
  · obtain ⟨a, ha, hr⟩ := Option.bind_eq_some_iff.mp h
    obtain ⟨v, hv, rfl⟩ := Option.map_eq_some_iff.mp hr
    have h₁ := length_of_takeBlock ha
    have h₂ := size_readTime hv
    dsimp only
    omega

lemma length_of_takeTypes {r : List (UInt8 × Bool) × List UInt8} (h : takeTypes n bs = some r) :
    r.1.length = n ∧ bs.length = 2 * n + r.2.length := by
  induction n generalizing bs r with
  | zero =>
    cases h
    simp
  | succ n ih =>
    match bs with
    | [] => cases h
    | [_] => cases h
    | type :: flag :: bs =>
      obtain ⟨a, ha, rfl⟩ := Option.map_eq_some_iff.mp h
      obtain ⟨h₁, h₂⟩ := ih ha
      simp only [List.length_cons]
      omega

lemma size_takeValues {bitmap : List UInt8} {i : ℕ} {types : List (UInt8 × Bool)} {r : List BinaryValue × List UInt8}
    (h : takeValues bitmap i types bs = some r) : (r.1.map BinaryValue.size).sum + r.2.length ≤ bs.length := by
  induction types generalizing i bs r with
  | nil =>
    cases h
    simp
  | cons t types ih =>
    obtain ⟨type, isUnsigned⟩ := t
    rw [takeValues] at h
    split_ifs at h
    · obtain ⟨a, ha, rfl⟩ := Option.map_eq_some_iff.mp h
      have h₁ := ih ha
      simp only [List.map_cons, List.sum_cons, BinaryValue.size]
      omega
    · obtain ⟨v, hv, hr⟩ := Option.bind_eq_some_iff.mp h
      obtain ⟨a, ha, rfl⟩ := Option.map_eq_some_iff.mp hr
      have h₁ := size_takeValue hv
      have h₂ := ih ha
      simp only [List.map_cons, List.sum_cons]
      omega

/-- **A payload is as long as its parameters need at least**: each has a type, and those that are not NULL a value. -/
theorem size_decodeExecute {r : ℕ × List BinaryValue} (h : decodeExecute n bs = some r) :
    10 + (n + 7) / 8 + 2 * n + (r.2.map BinaryValue.size).sum ≤ bs.length := by
  unfold decodeExecute at h
  obtain ⟨id, hid, h⟩ := Option.bind_eq_some_iff.mp h
  obtain ⟨fixed, hfixed, h⟩ := Option.bind_eq_some_iff.mp h
  obtain ⟨bitmap, hbitmap, h⟩ := Option.bind_eq_some_iff.mp h
  obtain ⟨newBind, hnewBind, h⟩ := Option.bind_eq_some_iff.mp h
  split_ifs at h
  obtain ⟨types, htypes, h⟩ := Option.bind_eq_some_iff.mp h
  obtain ⟨values, hvalues, h⟩ := Option.bind_eq_some_iff.mp h
  split_ifs at h
  cases h
  have h₁ := (length_of_takeInt hid).2
  have h₂ := (length_of_takeBytes hfixed).2
  have h₃ := (length_of_takeBytes hbitmap).2
  have h₄ := (length_of_takeBytes hnewBind).2
  have h₅ := (length_of_takeTypes htypes).2
  have h₆ := size_takeValues hvalues
  dsimp only
  omega

/-- A payload made of its parts is read back. -/
theorem decodeExecute_append {id fixed bitmap types values : List UInt8} {ts : List (UInt8 × Bool)}
    {vs : List BinaryValue} (hid : id.length = 4) (hfixed : fixed.length = 5) (hbitmap : bitmap.length = (n + 7) / 8)
    (htypes : takeTypes n (types ++ values) = some (ts, values))
    (hvalues : takeValues bitmap 0 ts values = some (vs, [])) :
    decodeExecute n (id ++ (fixed ++ (bitmap ++ ([1] ++ (types ++ values))))) = some (littleEndian id, vs) := by
  have hnewBind : takeBytes 1 ([1] ++ (types ++ values)) = some ([1], types ++ values) := takeBytes_append rfl
  unfold decodeExecute
  simp only [takeInt_append hid, takeBytes_append hfixed, takeBytes_append hbitmap, hnewBind, htypes, hvalues,
    Option.bind_some, if_true]

end LibAttachSql.Lib
