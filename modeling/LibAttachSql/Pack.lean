import LibAttachSql.Constants
import LibAttachSql.Lib.Memory

/-!
# Packing and unpacking

`pack.cc` and `pack_macros.h`: little-endian integers and length-encoded integers, read at an address of a memory and
written as lists of bytes.  Plain `char` is signed, as on x86.
-/

namespace LibAttachSql

open Lib

/-! ### Reading -/

/-- `attachsql_unpack_int2`. -/
def unpackInt2 (m : Memory UInt8) (p : ℕ) : ℕ := (m p).toNat + (m (p + 1)).toNat * 2 ^ 8

/-- `attachsql_unpack_int3`. -/
def unpackInt3 (m : Memory UInt8) (p : ℕ) : ℕ :=
  (m p).toNat + (m (p + 1)).toNat * 2 ^ 8 + (m (p + 2)).toNat * 2 ^ 16

/-- `attachsql_unpack_int4`. -/
def unpackInt4 (m : Memory UInt8) (p : ℕ) : ℕ :=
  (m p).toNat + (m (p + 1)).toNat * 2 ^ 8 + (m (p + 2)).toNat * 2 ^ 16 + (m (p + 3)).toNat * 2 ^ 24

/-- `attachsql_unpack_int8`. -/
def unpackInt8 (m : Memory UInt8) (p : ℕ) : ℕ := unpackInt4 m p + unpackInt4 m (p + 4) * 2 ^ 32

/-- A plain `char` as the `int` it is promoted to. -/
def signedChar (c : UInt8) : ℤ := if c.toNat < 128 then c.toNat else c.toNat - 256

/-- What `attachsql_unpack_length` answers: the value, the number of bytes it stands in, and whether it is NULL. -/
structure Unpacked where
  length : ℕ
  bytes : ℕ
  null : Bool
  deriving DecidableEq, Repr

/-- `attachsql_unpack_length` at an address.  A one-byte length is a `char` converted to `uint64_t`. -/
def unpackLength (m : Memory UInt8) (p : ℕ) : Unpacked :=
  if m p < 0xfb then { length := sizeT (signedChar (m p)), bytes := 1, null := false }
  else if m p = 0xfb then { length := 0, bytes := 1, null := true }
  else if m p = 0xfc then { length := unpackInt2 m (p + 1), bytes := 3, null := false }
  else if m p = 0xfd then { length := unpackInt3 m (p + 1), bytes := 4, null := false }
  else { length := unpackInt8 m (p + 1), bytes := 9, null := false }

/-! ### Writing -/

/-- The byte at place `i` of a number. -/
def byteAt (n i : ℕ) : UInt8 := UInt8.ofNat (n / 2 ^ (8 * i) % 256)

/-- `attachsql_pack_int2`. -/
def packInt2 (n : ℕ) : List UInt8 := [byteAt n 0, byteAt n 1]

/-- `attachsql_pack_int3`. -/
def packInt3 (n : ℕ) : List UInt8 := [byteAt n 0, byteAt n 1, byteAt n 2]

/-- `attachsql_pack_int4`. -/
def packInt4 (n : ℕ) : List UInt8 := [byteAt n 0, byteAt n 1, byteAt n 2, byteAt n 3]

/-- `attachsql_pack_int8`. -/
def packInt8 (n : ℕ) : List UInt8 :=
  [byteAt n 0, byteAt n 1, byteAt n 2, byteAt n 3, byteAt n 4, byteAt n 5, byteAt n 6, byteAt n 7]

/-- `attachsql_pack_length`. -/
def packLength (length : ℕ) : List UInt8 :=
  if length ≤ 0xfa then [byteAt length 0]
  else if length ≤ 0xffff then 0xfc :: packInt2 length
  else if length ≤ 0xffffff then 0xfd :: packInt3 length
  else 0xfe :: packInt8 length

/-- `attachsql_pack_data`. -/
def packData (data : List UInt8) : List UInt8 := packLength data.length ++ data

lemma toNat_byteAt (n i : ℕ) : (byteAt n i).toNat = n / 2 ^ (8 * i) % 256 := by
  simp only [byteAt, UInt8.toNat_ofNat']
  omega

/-! ### Reading a slice -/

lemma unpackInt4_lt (m : Memory UInt8) (p : ℕ) : unpackInt4 m p < 2 ^ 32 := by
  have h₀ := (m p).toNat_lt
  have h₁ := (m (p + 1)).toNat_lt
  have h₂ := (m (p + 2)).toNat_lt
  have h₃ := (m (p + 3)).toNat_lt
  unfold unpackInt4
  omega

/-- What was packed into three bytes is unpacked from them. -/
lemma unpackInt3_of_slice {m : Memory UInt8} {p n : ℕ} (h : m.slice p 3 = packInt3 n) (hn : n < 2 ^ 24) :
    unpackInt3 m p = n := by
  simp only [Memory.slice_succ, Memory.slice_zero, packInt3, List.cons.injEq, and_true] at h
  obtain ⟨h₀, h₁, h₂⟩ := h
  unfold unpackInt3
  rw [h₀, h₁, h₂]
  simp only [byteAt, UInt8.toNat_ofNat']
  omega

end LibAttachSql
