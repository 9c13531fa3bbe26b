import LibAttachSql.Lib.BinaryProtocol
import Mathlib.Data.List.TakeWhile

/-!
# Logging in with a password

The answer of a client to the greeting of a server: capabilities, the largest packet, a charset and 23 bytes of zeros, then
the user, a token and the schema.  Strings end with a NUL, the token stands behind its length.

The token proves that the client knows a password whose double hash the server has.  The server draws a scramble; the
client hashes it together with the double hash, and adds its single hash to the result, bit by bit.  The server takes
the result off again and hashes what is left.
-/

namespace LibAttachSql.Lib

/-! ### Strings that end with a NUL -/

/-- A string up to its NUL, and what is behind. -/
def takeCString : List UInt8 → Option (List UInt8 × List UInt8)
  | [] => none
  | b :: bs => if b = 0 then some ([], bs) else (takeCString bs).map fun r => (b :: r.1, r.2)

lemma takeCString_append {s : List UInt8} (h : 0 ∉ s) (rest : List UInt8) :
    takeCString (s ++ 0 :: rest) = some (s, rest) := by
  induction s with
  | nil => rfl
  | cons b s ih =>
    obtain ⟨hb, hs⟩ := List.ne_and_not_mem_of_not_mem_cons h
    rw [List.cons_append, takeCString, if_neg (Ne.symm hb), ih hs]
    rfl

/-- What a string up to its NUL was taken from. -/
lemma takeCString_eq_some {bs : List UInt8} {r : List UInt8 × List UInt8} (h : takeCString bs = some r) :
    bs = r.1 ++ 0 :: r.2 ∧ 0 ∉ r.1 := by
  induction bs generalizing r with
  | nil => cases h
  | cons b bs ih =>
    unfold takeCString at h
    split_ifs at h with hb
    · cases h
      exact ⟨by rw [hb]; rfl, List.not_mem_nil⟩
    · obtain ⟨r', hr', rfl⟩ := Option.map_eq_some_iff.mp h
      obtain ⟨rfl, hnul⟩ := ih hr'
      exact ⟨rfl, fun hmem => (List.mem_cons.mp hmem).elim (fun hz => hb hz.symm) hnul⟩

/-! ### The request -/

/-- What a server reads out of a login. -/
structure LoginRequest where
  capabilities : ℕ
  maxPacket : ℕ
  charset : List UInt8
  user : List UInt8
  token : List UInt8
  schema : List UInt8

/-- The login in a payload that is used up. -/
def decodeLogin (bs : List UInt8) : Option LoginRequest :=
  (takeInt 4 bs).bind fun capabilities =>
    (takeInt 4 capabilities.2).bind fun maxPacket =>
      (takeBytes 1 maxPacket.2).bind fun charset =>
        (takeBytes 23 charset.2).bind fun zeros =>
          (takeCString zeros.2).bind fun user =>
            (takeBlock user.2).bind fun token =>
              (takeCString token.2).bind fun schema =>
                if zeros.1 = List.replicate 23 0 ∧ schema.2 = [] then
                  some ⟨capabilities.1, maxPacket.1, charset.1, user.1, token.1, schema.1⟩
                else none

/-- **A login is read back.** -/
theorem decodeLogin_append {capabilities maxPacket charset user token schema : List UInt8} {n : UInt8}
    (hcapabilities : capabilities.length = 4) (hmax : maxPacket.length = 4) (hcharset : charset.length = 1)
    (huser : 0 ∉ user) (htoken : token.length = n.toNat) (hschema : 0 ∉ schema) :
    decodeLogin (capabilities ++ maxPacket ++ charset ++ List.replicate 23 0 ++ user ++ [0] ++ [n] ++ token ++ schema ++
        [0]) =
      some ⟨littleEndian capabilities, littleEndian maxPacket, charset, user, token, schema⟩ := by
  have hzeros : (List.replicate 23 (0 : UInt8)).length = 23 := List.length_replicate
  have hblock := @takeBlock_append token (schema ++ [0]) n htoken
  have hend := takeCString_append hschema []
  unfold decodeLogin
  simp only [List.append_assoc, List.cons_append, List.nil_append]
  simp only [takeInt_append hcapabilities, takeInt_append hmax, takeBytes_append hcharset, takeBytes_append hzeros,
    takeCString_append huser, hblock, hend, Option.bind_some, and_self, if_true]

/-- A login does not end with its fixed fields. -/
theorem lt_length_of_decodeLogin {bs : List UInt8} {request : LoginRequest} (h : decodeLogin bs = some request) :
    32 < bs.length := by
  obtain ⟨capabilities, hcapabilities, h⟩ := Option.bind_eq_some_iff.mp h
  obtain ⟨maxPacket, hmax, h⟩ := Option.bind_eq_some_iff.mp h
  obtain ⟨charset, hcharset, h⟩ := Option.bind_eq_some_iff.mp h
  obtain ⟨zeros, hzeros, h⟩ := Option.bind_eq_some_iff.mp h
  obtain ⟨user, huser, -⟩ := Option.bind_eq_some_iff.mp h
  have hlen := congrArg List.length (takeCString_eq_some huser).1
  rw [List.length_append, List.length_cons] at hlen
  rw [(length_of_takeInt hcapabilities).2, (length_of_takeInt hmax).2, (length_of_takeBytes hcharset).2,
    (length_of_takeBytes hzeros).2, hlen]
  omega

/-! ### The token -/

section Token

variable (hash : List UInt8 → List UInt8)

/-- Bit by bit, as long as both go. -/
def xorBytes (xs ys : List UInt8) : List UInt8 := List.zipWith (· ^^^ ·) xs ys

/-- The token of a client for a password. -/
def nativeToken (scramble password : List UInt8) : List UInt8 :=
  xorBytes (hash (scramble ++ hash (hash password))) (hash password)

/-- The server, which has the double hash of the password, accepts a token. -/
def NativeAccepts (scramble doubleHash token : List UInt8) : Prop :=
  hash (xorBytes token (hash (scramble ++ doubleHash))) = doubleHash

lemma xorBytes_cancel {xs ys : List UInt8} (h : xs.length = ys.length) : xorBytes (xorBytes xs ys) xs = ys := by
  induction xs generalizing ys with
  | nil => exact (List.length_eq_zero_iff.mp h.symm).symm
  | cons x xs ih =>
    cases ys with
    | nil => cases h
    | cons y ys =>
      have hxy : x ^^^ y ^^^ x = y := by rw [UInt8.xor_comm x y, UInt8.xor_assoc, UInt8.xor_self, UInt8.xor_zero]
      show (x ^^^ y ^^^ x) :: xorBytes (xorBytes xs ys) xs = y :: ys
      rw [hxy, ih (Nat.succ.inj h)]

lemma length_nativeToken {n : ℕ} (hhash : ∀ bs, (hash bs).length = n) (scramble password : List UInt8) :
    (nativeToken hash scramble password).length = n := by
  unfold nativeToken xorBytes
  rw [List.length_zipWith, hhash, hhash, Nat.min_self]

/-- **The token of the password is accepted**, whatever is hashed with, as long as all hashes have one length. -/
theorem nativeAccepts_nativeToken {n : ℕ} (hhash : ∀ bs, (hash bs).length = n) (scramble password : List UInt8) :
    NativeAccepts hash scramble (hash (hash password)) (nativeToken hash scramble password) := by
  unfold NativeAccepts nativeToken
  rw [xorBytes_cancel (by rw [hhash, hhash])]

end Token

end LibAttachSql.Lib
