import LibAttachSql.LoginReply
import LibAttachSql.Sha1

/-!
# The hashing of a password

`scramble_password` uses one context for its three hashes.  So far the hash was whatever the environment computes; here
the calls into `sha1.cc` stand in its place, and the token is one for SHA-1.
-/

namespace LibAttachSql

open Lib

/-- `scramble_password` with its calls; `none` when one of them does not return, and `some none` is
`ATTACHSQL_RET_NO_SCRAMBLE`.  The context is not initialised by the declaration. -/
def scramblePasswordSha1 (ctx : Sha1Ctx) (con : Con) (pass : List UInt8) : Option (Option (List UInt8)) :=
  if con.scrambleBuffer.headD 0 = 0 then some none
  else do
    -- Double hash the password
    let ctx ← sha1Update (sha1Init ctx) pass
    let (stage1, ctx) ← sha1Final ctx
    let ctx ← sha1Update (sha1Init ctx) stage1
    let (stage2, ctx) ← sha1Final ctx
    -- Hash the scramble with the double hash
    let ctx ← sha1Update (sha1Init ctx) (con.scrambleBuffer.take sha1DigestLength)
    let ctx ← sha1Update ctx stage2
    let (buffer, _) ← sha1Final ctx
    some (some (List.zipWith (· ^^^ ·) buffer stage1))

/-- The environment whose hash is SHA-1. -/
def Env.withSha1 (env : Env) : Env := { env with sha1 := sha1Hash }

lemma length_sha1Hash (message : List UInt8) : (sha1Hash message).length = sha1DigestLength := by
  unfold sha1Hash sha1Digest
  rw [List.length_map, List.length_range]
  rfl

/-- A hash of one piece. -/
lemma sha1_one (ctx : Sha1Ctx) {data : List UInt8} (h : data.length + 63 < 2 ^ 32) :
    ∃ ctx', sha1Update (sha1Init ctx) data = some ctx' ∧ sha1Final ctx' = some (sha1Hash data, .wiped) := by
  obtain ⟨ctx', hupdate, hholds⟩ := sha1Update_holds (sha1Init_holds ctx) h
  exact ⟨ctx', hupdate, sha1Final_holds hholds⟩

/-- A hash of two pieces. -/
lemma sha1_two (ctx : Sha1Ctx) {data rest : List UInt8} (h : data.length + 63 < 2 ^ 32) (hrest : rest.length + 63 < 2 ^ 32) :
    ∃ ctx₁ ctx₂, sha1Update (sha1Init ctx) data = some ctx₁ ∧ sha1Update ctx₁ rest = some ctx₂ ∧
      sha1Final ctx₂ = some (sha1Hash (data ++ rest), .wiped) := by
  obtain ⟨ctx₁, hupdate, hholds⟩ := sha1Update_holds (sha1Init_holds ctx) h
  obtain ⟨ctx₂, hrest, hall⟩ := sha1Update_holds hholds hrest
  exact ⟨ctx₁, ctx₂, hupdate, hrest, sha1Final_holds hall⟩

/-- **The calls compute what the environment computes when its hash is SHA-1**, whatever the context holds at first. -/
lemma scramblePasswordSha1_eq (env : Env) (ctx : Sha1Ctx) (con : Con) {pass : List UInt8} (h : pass.length + 63 < 2 ^ 32) :
    scramblePasswordSha1 ctx con pass = some (scramblePassword env.withSha1 con pass) := by
  unfold scramblePasswordSha1 scramblePassword
  split_ifs with hzero
  · rfl
  · have hdigest : ∀ message, (sha1Hash message).length + 63 < 2 ^ 32 := fun message => by
      rw [length_sha1Hash]
      decide
    have htake : (con.scrambleBuffer.take sha1DigestLength).length + 63 < 2 ^ 32 := by
      have hle : (con.scrambleBuffer.take sha1DigestLength).length ≤ 20 := List.length_take_le ..
      omega
    obtain ⟨ctx₁, hpass, hstage1⟩ := sha1_one ctx h
    obtain ⟨ctx₂, hupdate, hstage2⟩ := sha1_one .wiped (hdigest pass)
    obtain ⟨ctx₃, ctx₄, hscramble, hdouble, hbuffer⟩ := sha1_two .wiped htake (hdigest (sha1Hash pass))
    simp only [Option.bind_eq_bind, hpass, Option.bind_some, hstage1, hupdate, hstage2, hscramble, hdouble, hbuffer]
    rfl

/-- **The token proves the password**: without a scramble there is none; with one the calls return, and what they leave is
20 bytes that a server accepts which knows `SHA1(SHA1(password))` and nothing else of the password. -/
theorem scramble_sha1 (ctx : Sha1Ctx) (con : Con) (pass : List UInt8) (hpass : pass.length + 63 < 2 ^ 32)
    (hscramble : con.scrambleBuffer.length = sha1DigestLength) :
    (con.scrambleBuffer.headD 0 = 0 → scramblePasswordSha1 ctx con pass = some none) ∧
      (con.scrambleBuffer.headD 0 ≠ 0 → ∃ token, scramblePasswordSha1 ctx con pass = some (some token) ∧
        token.length = sha1DigestLength ∧
        NativeAccepts sha1Hash con.scrambleBuffer (sha1Hash (sha1Hash pass)) token) := by
  constructor
  · intro hzero
    unfold scramblePasswordSha1
    rw [if_pos hzero]
  · intro hzero
    refine ⟨nativeToken sha1Hash con.scrambleBuffer pass, ?_, length_nativeToken _ length_sha1Hash _ _,
      nativeAccepts_nativeToken _ length_sha1Hash _ _⟩
    rw [scramblePasswordSha1_eq .calm ctx con hpass]
    unfold scramblePassword nativeToken xorBytes
    rw [if_neg hzero, List.take_of_length_le hscramble.le]
    rfl

theorem scramble_sha1_ones :
    (onesScramble.headD 0 = 0 → scramblePasswordSha1 .wiped (.scrambled none onesScramble) [0x61] = some none) ∧
      (onesScramble.headD 0 ≠ 0 → ∃ token,
        scramblePasswordSha1 .wiped (.scrambled none onesScramble) [0x61] = some (some token) ∧
          token.length = sha1DigestLength ∧ NativeAccepts sha1Hash onesScramble (sha1Hash (sha1Hash [0x61])) token) :=
  scramble_sha1 .wiped (.scrambled none onesScramble) [0x61] (by decide) rfl

end LibAttachSql
