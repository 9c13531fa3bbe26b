import LibAttachSql.Handshake
import LibAttachSql.NullError
import Mathlib.Data.BitVec

/-!
# The text of a query

`attachsql_query` copies the statement and puts the values of the parameters in the place of its question marks.  This
module says what text comes out, compared with the text that was asked for, and that all that is written on the way stays
in the buffer that was made for it.
-/

namespace LibAttachSql

open Lib

/-! ### Decimal numbers -/

/-- The number that digits stand for. -/
def digitsValue (digits : List UInt8) : ℕ := digits.foldl (fun n c => 10 * n + (c.toNat - 48)) 0

/-- The number a decimal literal stands for. -/
def decimalValue : List UInt8 → ℤ
  | [] => 0
  | c :: cs => if c = 0x2d then -digitsValue cs else digitsValue (c :: cs)

/-- The bytes of the digits of a number. -/
def digitBytes (n : ℕ) : List UInt8 := (Nat.toDigits 10 n).map fun c => UInt8.ofNat c.toNat

lemma decimal_natCast (n : ℕ) : decimal n = digitBytes n := by
  unfold decimal digitBytes
  rw [Int.toString_eq_repr, Int.repr_eq_if, if_pos (Int.natCast_nonneg n), Int.toNat_natCast, Nat.toList_repr]

lemma decimal_of_neg {v : ℤ} (h : v < 0) : decimal v = 0x2d :: digitBytes v.natAbs := by
  unfold decimal digitBytes
  rw [Int.toString_eq_repr, Int.repr_eq_if, if_neg (not_le.mpr h), String.toList_append, Nat.toList_repr,
    show (-v).toNat = v.natAbs by omega]
  rfl

lemma decimal_of_nonneg {v : ℤ} (h : 0 ≤ v) : decimal v = digitBytes v.natAbs := by
  rw [← decimal_natCast, Int.natAbs_of_nonneg h]

/-- A digit is a byte from `0` to `9`. -/
lemma toNat_of_mem_digits {n : ℕ} {c : Char} (h : c ∈ Nat.toDigits 10 n) : 48 ≤ c.toNat ∧ c.toNat ≤ 57 := by
  have hdigit := Nat.isDigit_of_mem_toDigits (by decide) (by decide) h
  unfold Char.isDigit at hdigit
  rw [Bool.and_eq_true, decide_eq_true_iff, decide_eq_true_iff, ge_iff_le, UInt32.le_iff_toNat_le,
    UInt32.le_iff_toNat_le] at hdigit
  exact hdigit

lemma digitsValue_digitBytes (n : ℕ) : digitsValue (digitBytes n) = n := by
  have hfold : ∀ (cs : List Char) (acc : ℕ), (∀ c ∈ cs, 48 ≤ c.toNat ∧ c.toNat ≤ 57) →
      (cs.map fun c => UInt8.ofNat c.toNat).foldl (fun n c => 10 * n + (c.toNat - 48)) acc = Nat.ofDigitChars 10 cs acc := by
    intro cs
    induction cs with
    | nil => exact fun acc _ => rfl
    | cons c cs ih =>
      intro acc hall
      obtain ⟨hc, hcs⟩ := List.forall_mem_cons.mp hall
      have hbyte : (UInt8.ofNat c.toNat).toNat = c.toNat := by
        rw [UInt8.toNat_ofNat']
        omega
      rw [List.map_cons, List.foldl_cons, ih _ hcs, Nat.ofDigitChars_cons, hbyte]
      rfl
  exact (hfold _ 0 fun c => toNat_of_mem_digits).trans Nat.ofDigitChars_ten_toDigits

/-- The digits of a number start with a digit. -/
lemma digitBytes_cons (n : ℕ) : ∃ c cs, digitBytes n = c :: cs ∧ c ≠ 0x2d := by
  obtain ⟨c, cs, hcs⟩ := List.exists_cons_of_ne_nil (@Nat.toDigits_ne_nil n 10)
  obtain ⟨hlow, hhigh⟩ := toNat_of_mem_digits (n := n) (c := c) (by rw [hcs]; exact List.mem_cons_self)
  refine ⟨UInt8.ofNat c.toNat, cs.map fun c => UInt8.ofNat c.toNat, by unfold digitBytes; rw [hcs]; rfl, fun h => ?_⟩
  have hnat := congrArg UInt8.toNat h
  rw [UInt8.toNat_ofNat'] at hnat
  change c.toNat % 2 ^ 8 = 45 at hnat
  omega

/-- **A decimal literal stands for its number.** -/
theorem decimalValue_decimal (v : ℤ) : decimalValue (decimal v) = v := by
  rcases lt_or_ge v 0 with h | h
  · rw [decimal_of_neg h, decimalValue, if_pos rfl, digitsValue_digitBytes]
    omega
  · obtain ⟨c, cs, hcs, hc⟩ := digitBytes_cons v.natAbs
    rw [decimal_of_nonneg h, hcs, decimalValue, if_neg hc, ← hcs, digitsValue_digitBytes]
    omega

lemma length_decimal_le {v : ℤ} {k : ℕ} (hk : 0 < k) (h : v.natAbs < 10 ^ k) : (decimal v).length ≤ k + 1 := by
  have hdigits : (digitBytes v.natAbs).length ≤ k := by
    unfold digitBytes
    rw [List.length_map]
    exact (Nat.length_toDigits_le_iff (by decide) hk).mpr h
  rcases lt_or_ge v 0 with hv | hv
  · rw [decimal_of_neg hv, List.length_cons]
    omega
  · rw [decimal_of_nonneg hv]
    omega

/-! ### What is asked for and what is written -/

/-- A string as it is escaped in the given mode. -/
def escapedAs (noBackslash : Bool) (data : List UInt8) : List UInt8 :=
  if noBackslash then queryNoBackslashEscapeData data else queryEscapeData data

namespace QueryParameter

/-- What is to stand for a parameter in the text of a query: a number is the decimal literal of its value, which is read
with the signedness that is given. -/
def rendered (noBackslash : Bool) : QueryParameter → List UInt8
  | .none data => data
  | .char data => quote :: escapedAs noBackslash data ++ [quote]
  | .charLike data => escapedAs noBackslash data
  | .int bits isUnsigned => decimal (if isUnsigned then bits.toNat else bits.toInt)
  | .bigint bits isUnsigned => decimal (if isUnsigned then bits.toNat else bits.toInt)
  | .float text => text
  | .double text => text

/-- What `attachsql_query` writes for a parameter. -/
def written (noBackslash : Bool) (p : QueryParameter) : List UInt8 :=
  match p with
  | .bigint bits isUnsigned => decimal (if isUnsigned then bits.toInt else bits.toNat)
  | p => p.rendered noBackslash

/-- A number of 64 bits has its top bit clear. -/
def Plain : QueryParameter → Prop
  | .bigint bits _ => bits.msb = false
  | _ => True

instance : DecidablePred Plain := fun p => by
  unfold Plain
  split <;> infer_instance

/-- One of two literals has a sign. -/
def HeadsDiffer (v w : List UInt8) : Prop := ∃ a v' b w', v = a :: v' ∧ w = b :: w' ∧ a ≠ b

lemma headsDiffer_decimal {v w : ℤ} (hv : v < 0) (hw : 0 ≤ w) : HeadsDiffer (decimal v) (decimal w) := by
  obtain ⟨c, cs, hcs, hc⟩ := digitBytes_cons w.natAbs
  exact ⟨_, _, c, cs, decimal_of_neg hv, (decimal_of_nonneg hw).trans hcs, Ne.symm hc⟩

lemma HeadsDiffer.symm {v w : List UInt8} (h : HeadsDiffer v w) : HeadsDiffer w v := by
  obtain ⟨a, v', b, w', hv, hw, hne⟩ := h
  exact ⟨b, w', a, v', hw, hv, hne.symm⟩

lemma HeadsDiffer.ne {v w : List UInt8} (h : HeadsDiffer v w) : v ≠ w := by
  obtain ⟨a, v', b, w', rfl, rfl, hne⟩ := h
  exact fun heq => hne (List.cons.inj heq).1

/-- **What is written for a parameter is what is asked for**, or differs in its first byte. -/
lemma written_cases (noBackslash : Bool) (p : QueryParameter) :
    p.Plain ∧ p.written noBackslash = p.rendered noBackslash ∨
      ¬ p.Plain ∧ HeadsDiffer (p.written noBackslash) (p.rendered noBackslash) := by
  cases p with
  | bigint bits isUnsigned =>
    show bits.msb = false ∧ decimal (if isUnsigned then bits.toInt else bits.toNat) =
        decimal (if isUnsigned then bits.toNat else bits.toInt) ∨
      ¬ bits.msb = false ∧ HeadsDiffer (decimal (if isUnsigned then bits.toInt else bits.toNat))
        (decimal (if isUnsigned then bits.toNat else bits.toInt))
    have hint := bits.toInt_eq_msb_cond
    cases hm : bits.msb with
    | false =>
      rw [hm, if_neg (by decide)] at hint
      rw [hint, ite_self]
      exact .inl ⟨rfl, rfl⟩
    | true =>
      rw [hm, if_pos rfl] at hint
      have hlt := bits.isLt
      have hneg : bits.toInt < 0 := by omega
      have hdiffer : HeadsDiffer (decimal bits.toInt) (decimal bits.toNat) :=
        headsDiffer_decimal hneg (Int.natCast_nonneg _)
      refine .inr ⟨by decide, ?_⟩
      cases isUnsigned with
      | true => exact hdiffer
      | false => exact hdiffer.symm
  | _ => exact .inl ⟨trivial, rfl⟩

end QueryParameter

/-- A statement with values in the place of its question marks, the first for the first and so on. -/
def substitute : List UInt8 → List (List UInt8) → List UInt8
  | [], _ => []
  | c :: cs, values =>
    if c ≠ 0x3f then c :: substitute cs values
    else
      match values with
      | [] => []
      | v :: values => v ++ substitute cs values

lemma substitute_plain {c : UInt8} (hc : c ≠ 0x3f) (cs : List UInt8) (values : List (List UInt8)) :
    substitute (c :: cs) values = c :: substitute cs values :=
  if_pos hc

lemma substitute_mark (cs v : List UInt8) (values : List (List UInt8)) :
    substitute (0x3f :: cs) (v :: values) = v ++ substitute cs values :=
  if_neg (not_not.mpr rfl)

/-- The mode the strings of a query are escaped in. -/
def Con.noBackslash (con : Con) : Bool := con.serverStatus.testBit serverStatusNoBackslashEscapes

section Substitute

variable {con : Con}

lemma expandParameter_text (con : Con) (p : QueryParameter) :
    (expandParameter con p).2 = p.written con.noBackslash ∧
      (expandParameter con p).1.serverStatus = con.serverStatus := by
  cases p <;> exact ⟨rfl, rfl⟩

/-- **The loop over the statement** writes the values in the place of the question marks. -/
lemma expandQuery_text (con : Con) (statement : List UInt8) (params : List QueryParameter) :
    (expandQuery con statement params).2 = substitute statement (params.map (·.written con.noBackslash)) := by
  induction statement generalizing con params with
  | nil => rfl
  | cons c cs ih =>
    unfold expandQuery
    split_ifs with hc
    · rw [substitute_plain hc]
      exact congrArg (c :: ·) (ih con params)
    · rw [not_not] at hc
      subst hc
      cases params with
      | nil => rfl
      | cons p params =>
        obtain ⟨htext, hstatus⟩ := expandParameter_text con p
        have hmode : (expandParameter con p).1.noBackslash = con.noBackslash := by
          unfold Con.noBackslash
          rw [hstatus]
        have htail := ih (expandParameter con p).1 params
        rw [hmode] at htail
        rw [List.map_cons, substitute_mark]
        dsimp only
        rw [htext, htail]

/-- Different values make different texts, when they differ in their first bytes and all are used. -/
lemma substitute_eq_iff {statement : List UInt8} {params : List QueryParameter} {f g : QueryParameter → List UInt8}
    (h : ∀ p ∈ params, f p = g p ∨ QueryParameter.HeadsDiffer (f p) (g p)) (hcount : params.length ≤ statement.count 0x3f) :
    substitute statement (params.map f) = substitute statement (params.map g) ↔ ∀ p ∈ params, f p = g p := by
  induction statement generalizing params with
  | nil =>
    have hnil : params = [] := List.eq_nil_of_length_eq_zero (Nat.le_zero.mp hcount)
    subst hnil
    exact iff_of_true rfl (by simp)
  | cons c cs ih =>
    by_cases hc : c ≠ 0x3f
    · rw [List.count_cons_of_ne hc] at hcount
      rw [substitute_plain hc, substitute_plain hc, List.cons.injEq, and_iff_right rfl]
      exact ih h hcount
    · rw [not_not] at hc
      subst hc
      rw [List.count_cons_self] at hcount
      cases params with
      | nil => exact iff_of_true rfl (by simp)
      | cons p params =>
        obtain ⟨hp, hparams⟩ := List.forall_mem_cons.mp h
        rw [List.map_cons, List.map_cons, substitute_mark, substitute_mark, List.forall_mem_cons]
        rcases hp with heq | ⟨a, v, b, w, hv, hw, hne⟩
        · rw [heq, List.append_right_inj, and_iff_right rfl]
          exact ih hparams (by rw [List.length_cons] at hcount; omega)
        · refine iff_of_false (fun htext => ?_) fun hall => ?_
          · rw [hv, hw] at htext
            exact hne (List.cons.inj htext).1
          · rw [hv, hw] at hall
            exact hne (List.cons.inj hall.1).1

end Substitute

lemma queryExpansion_text (con : Con) (statement : List UInt8) (parameters : List QueryParameter) :
    (queryExpansion con statement parameters).2 = substitute statement (parameters.map (·.written con.noBackslash)) := by
  have htext : ∀ con₁ : Con, con₁.serverStatus = con.serverStatus →
      (expandQuery con₁ statement parameters).2 = substitute statement (parameters.map (·.written con.noBackslash)) :=
    fun con₁ hstatus => by
      rw [expandQuery_text]
      unfold Con.noBackslash
      rw [hstatus]
  unfold queryExpansion
  exact htext _ rfl

/-- **When the text is the one that was asked for**: the query is sent, or kept, with the text that was built, whose length
is recorded; this is the statement with its question marks replaced by what the parameters say exactly if no number of 64
bits has its top bit set. -/
theorem expansion {con : Con} {statement : List UInt8} {parameters : List QueryParameter}
    (h : statement.count 0x3f = parameters.length) :
    (∀ env w error, con.inQuery = false → parameters ≠ [] →
        (env.newArray (statement.length + 1 + (parameters.map parameterRoom).sum) 1 ∨ statement = []) →
        query env w con statement parameters error =
          querySend env w (queryExpanded con statement parameters) (queryExpanded con statement parameters).queryBuffer
            error) ∧
      ((queryExpanded con statement parameters).queryBuffer =
            substitute statement (parameters.map (·.rendered con.noBackslash)) ∧
          (queryExpanded con statement parameters).queryBufferLength =
            (queryExpanded con statement parameters).queryBuffer.length ↔
        ∀ p ∈ parameters, p.Plain) := by
  refine ⟨fun env w error => query_expanded env w con error statement, ?_⟩
  have htext := queryExpansion_text con statement parameters
  rw [show (queryExpanded con statement parameters).queryBuffer = (queryExpansion con statement parameters).2 from rfl,
    show (queryExpanded con statement parameters).queryBufferLength = (queryExpansion con statement parameters).2.length
      from rfl, and_iff_left rfl, htext]
  rw [substitute_eq_iff (fun p _ => (p.written_cases con.noBackslash).imp And.right And.right) h.ge]
  refine forall₂_congr fun p _ => ?_
  rcases p.written_cases con.noBackslash with ⟨hplain, heq⟩ | ⟨hplain, hdiffer⟩
  · exact iff_of_true heq hplain
  · exact iff_of_false hdiffer.ne hplain

/-- The statement `SELECT ?,?`. -/
def selectTwo : List UInt8 := [0x53, 0x45, 0x4c, 0x45, 0x43, 0x54, 0x20, 0x3f, 0x2c, 0x3f]

theorem expansion_selectTwo :
    selectTwo.count 0x3f = [QueryParameter.bigint 42 false, .char [0x27]].length ∧
      (∀ env w error, (Con.calm 0).inQuery = false → [QueryParameter.bigint 42 false, .char [0x27]] ≠ [] →
        (env.newArray (selectTwo.length + 1 + ([QueryParameter.bigint 42 false, .char [0x27]].map parameterRoom).sum) 1 ∨
          selectTwo = []) →
        query env w (Con.calm 0) selectTwo [.bigint 42 false, .char [0x27]] error =
          querySend env w (queryExpanded (Con.calm 0) selectTwo [.bigint 42 false, .char [0x27]])
            (queryExpanded (Con.calm 0) selectTwo [.bigint 42 false, .char [0x27]]).queryBuffer error) ∧
      ((queryExpanded (Con.calm 0) selectTwo [.bigint 42 false, .char [0x27]]).queryBuffer =
            substitute selectTwo
              ([QueryParameter.bigint 42 false, .char [0x27]].map (·.rendered (Con.calm 0).noBackslash)) ∧
          (queryExpanded (Con.calm 0) selectTwo [.bigint 42 false, .char [0x27]]).queryBufferLength =
            (queryExpanded (Con.calm 0) selectTwo [.bigint 42 false, .char [0x27]]).queryBuffer.length ↔
        ∀ p ∈ [QueryParameter.bigint 42 false, .char [0x27]], p.Plain) :=
  ⟨by decide, expansion (by decide)⟩

/-- The signed number -1 of 64 bits is written as 18446744073709551615, and the unsigned number 2⁶³ with a sign. -/
theorem expansion_swapped :
    (queryExpanded (Con.calm 0) [0x3f] [.bigint (-1) false]).queryBuffer = decimal 18446744073709551615 ∧
      (queryExpanded (Con.calm 0) [0x3f] [.bigint (2 ^ 63) true]).queryBuffer = decimal (-9223372036854775808) ∧
      (queryExpanded (Con.calm 0) [0x3f] [.bigint (-1) false]).queryBuffer ≠
        substitute [0x3f] [(QueryParameter.bigint (-1) false).rendered (Con.calm 0).noBackslash] := by
  refine ⟨by decide +kernel, by decide +kernel, by decide +kernel⟩

/-! ### What is written on the way -/

/-- A copy into the query buffer: where it starts, and its bytes. -/
structure TextStore where
  pos : ℕ
  bytes : List UInt8
  deriving DecidableEq

/-- The copies for a parameter at a place of the query buffer.  `sprintf` and `snprintf` end what they write with a NUL,
and `snprintf` writes no more than its limit. -/
def QueryParameter.stores (noBackslash : Bool) (pos : ℕ) : QueryParameter → List TextStore
  | .none data => [⟨pos, data⟩]
  | .char data =>
    [⟨pos, [quote]⟩, ⟨pos + 1, escapedAs noBackslash data⟩, ⟨pos + 1 + (escapedAs noBackslash data).length, [quote]⟩]
  | .charLike data => [⟨pos, escapedAs noBackslash data⟩]
  | .int bits isUnsigned => [⟨pos, decimal (if isUnsigned then bits.toNat else bits.toInt) ++ [0]⟩]
  | .bigint bits isUnsigned => [⟨pos, decimal (if isUnsigned then bits.toInt else bits.toNat) ++ [0]⟩]
  | .float text => [⟨pos, text.take (floatMaxLen - 1) ++ [0]⟩]
  | .double text => [⟨pos, text.take (doubleMaxLen - 1) ++ [0]⟩]

/-- The copies of the loop over the statement, in their order. -/
def expandStores (noBackslash : Bool) (pos : ℕ) : List UInt8 → List QueryParameter → List TextStore
  | [], _ => []
  | c :: cs, params =>
    if c ≠ 0x3f then ⟨pos, [c]⟩ :: expandStores noBackslash (pos + 1) cs params
    else
      match params with
      | [] => []
      | p :: params =>
        p.stores noBackslash pos ++ expandStores noBackslash (pos + (p.written noBackslash).length) cs params

/-- The memory after the copies, one after the other. -/
def storeAll (m : Memory UInt8) (stores : List TextStore) : Memory UInt8 :=
  stores.foldl (fun m s => m.store s.pos s.bytes) m

/-- A floating-point number is printed with so many characters as `%.7f` and `%.15f` need at most. -/
def QueryParameter.Printed : QueryParameter → Prop
  | .float text => text.length ≤ 48
  | .double text => text.length ≤ 326
  | _ => True

instance : DecidablePred QueryParameter.Printed := fun p => by
  unfold QueryParameter.Printed
  split <;> infer_instance

/-- The size of the query buffer, as a number of any size. -/
def queryRoom (statement : List UInt8) (parameters : List QueryParameter) : ℕ :=
  statement.length + 1 + (parameters.map parameterRoom).sum

section Stores

variable {noBackslash : Bool}

lemma length_flatMap_le {f : UInt8 → List UInt8} (hf : ∀ c, (f c).length ≤ 2) (data : List UInt8) :
    (data.flatMap f).length ≤ data.length * 2 := by
  induction data with
  | nil => exact Nat.zero_le _
  | cons c data ih =>
    have hc := hf c
    rw [List.flatMap_cons, List.length_append, List.length_cons]
    omega

/-- Escaping doubles the length at most. -/
lemma length_escapedAs_le (noBackslash : Bool) (data : List UInt8) :
    (escapedAs noBackslash data).length ≤ data.length * 2 := by
  unfold escapedAs
  split_ifs
  · refine length_flatMap_le (fun c => ?_) data
    split_ifs <;> simp
  · refine length_flatMap_le (fun c => ?_) data
    split <;> simp

/-- **What is written for a parameter** fits in its room and the place of its question mark. -/
lemma length_written_le {p : QueryParameter} (hp : p.Printed) :
    (p.written noBackslash).length ≤ parameterRoom p + 1 := by
  cases p with
  | none data => exact Nat.le_succ _
  | char data =>
    have hle := length_escapedAs_le noBackslash data
    show (quote :: escapedAs noBackslash data ++ [quote]).length ≤ data.length * 2 + 2 + 1
    rw [List.length_append, List.length_cons, List.length_singleton]
    omega
  | charLike data => exact (length_escapedAs_le noBackslash data).trans (Nat.le_succ _)
  | int bits isUnsigned =>
    have hlt := bits.isLt
    have hint := bits.toInt_eq_msb_cond
    have hbound : (if isUnsigned then (bits.toNat : ℤ) else bits.toInt).natAbs < 10 ^ 10 := by
      split_ifs at hint ⊢ <;> omega
    exact length_decimal_le (k := 10) (by decide) hbound
  | bigint bits isUnsigned =>
    have hlt := bits.isLt
    have hint := bits.toInt_eq_msb_cond
    have hbound : (if isUnsigned then bits.toInt else (bits.toNat : ℤ)).natAbs < 10 ^ 20 := by
      split_ifs at hint ⊢ <;> omega
    exact length_decimal_le (k := 20) (by decide) hbound
  | float text =>
    have hle : text.length ≤ 48 := hp
    show text.length ≤ floatMaxLen + 1
    exact hle.trans (by decide)
  | double text =>
    have hle : text.length ≤ 326 := hp
    show text.length ≤ doubleMaxLen + 1
    exact hle.trans (by decide)

/-- The copies for a parameter start at its place, and go at most one byte behind what is written. -/
lemma stores_inside {p : QueryParameter} (hp : p.Printed) {pos : ℕ} {s : TextStore} (hs : s ∈ p.stores noBackslash pos) :
    pos ≤ s.pos ∧ s.pos + s.bytes.length ≤ pos + (p.written noBackslash).length + 1 := by
  cases p with
  | none data =>
    rw [List.mem_singleton.mp hs]
    exact ⟨le_rfl, Nat.le_succ _⟩
  | char data =>
    have hlength : ((QueryParameter.char data).written noBackslash).length = (escapedAs noBackslash data).length + 2 := by
      show (quote :: escapedAs noBackslash data ++ [quote]).length = _
      rw [List.length_append, List.length_cons, List.length_singleton]
    rw [hlength]
    simp only [QueryParameter.stores, List.mem_cons, List.not_mem_nil, or_false] at hs
    rcases hs with rfl | rfl | rfl
    · exact ⟨le_rfl, by dsimp only; rw [List.length_singleton]; omega⟩
    · exact ⟨Nat.le_succ _, by dsimp only; omega⟩
    · exact ⟨by dsimp only; omega, by dsimp only; rw [List.length_singleton]; omega⟩
  | charLike data =>
    rw [List.mem_singleton.mp hs]
    exact ⟨le_rfl, Nat.le_succ _⟩
  | int bits isUnsigned =>
    rw [List.mem_singleton.mp hs]
    refine ⟨le_rfl, ?_⟩
    rw [List.length_append]
    exact le_rfl
  | bigint bits isUnsigned =>
    rw [List.mem_singleton.mp hs]
    refine ⟨le_rfl, ?_⟩
    rw [List.length_append]
    exact le_rfl
  | float text =>
    rw [List.mem_singleton.mp hs]
    refine ⟨le_rfl, ?_⟩
    rw [List.length_append, List.length_take]
    exact Nat.add_le_add_left (Nat.add_le_add_right (Nat.min_le_right _ _) 1) pos
  | double text =>
    rw [List.mem_singleton.mp hs]
    refine ⟨le_rfl, ?_⟩
    rw [List.length_append, List.length_take]
    exact Nat.add_le_add_left (Nat.add_le_add_right (Nat.min_le_right _ _) 1) pos

/-- **Every copy stays in the buffer**: a parameter takes its room and at most the byte its question mark had, and the one
byte behind the statement is left for the last NUL. -/
lemma expandStores_inside {statement : List UInt8} {params : List QueryParameter} (hp : ∀ p ∈ params, p.Printed) {pos : ℕ}
    {s : TextStore} (hs : s ∈ expandStores noBackslash pos statement params) :
    s.pos + s.bytes.length ≤ pos + queryRoom statement params := by
  induction statement generalizing pos params with
  | nil => cases hs
  | cons c cs ih =>
    unfold expandStores at hs
    unfold queryRoom at ih ⊢
    rw [List.length_cons]
    split_ifs at hs
    · rcases List.mem_cons.mp hs with rfl | hs
      · dsimp only
        rw [List.length_singleton]
        omega
      · have hrest := ih hp hs
        omega
    · cases params with
      | nil => cases hs
      | cons p params =>
        obtain ⟨hhead, htail⟩ := List.forall_mem_cons.mp hp
        have hlength := @length_written_le noBackslash p hhead
        rw [List.map_cons, List.sum_cons]
        rcases List.mem_append.mp hs with hs | hs
        · have hinside := (stores_inside hhead hs).2
          omega
        · have hrest := ih htail hs
          omega

/-! ### The copies make the text -/

variable {m : Memory UInt8} {pos : ℕ}

/-- A block is stored: it stands there, and what is below stays. -/
structure Puts (m m' : Memory UInt8) (pos : ℕ) (bytes : List UInt8) : Prop where
  slice_eq : m'.slice pos bytes.length = bytes
  below : ∀ a < pos, m' a = m a

lemma puts_store (m : Memory UInt8) (pos : ℕ) (bytes : List UInt8) : Puts m (m.store pos bytes) pos bytes :=
  ⟨Memory.slice_store m pos bytes, fun _ ha => Memory.store_of_lt ha⟩

/-- A block behind a block. -/
lemma Puts.append {m' m'' : Memory UInt8} {bs cs : List UInt8} (h : Puts m m' pos bs)
    (h' : Puts m' m'' (pos + bs.length) cs) : Puts m m'' pos (bs ++ cs) := by
  refine ⟨?_, fun a ha => (h'.below a (by omega)).trans (h.below a ha)⟩
  rw [List.length_append, Memory.slice_add, h'.slice_eq, Memory.slice_congr fun a _ hlt => h'.below a hlt, h.slice_eq]

/-- Of a block only the first part counts. -/
lemma Puts.left {m' : Memory UInt8} {bs cs : List UInt8} (h : Puts m m' pos (bs ++ cs)) : Puts m m' pos bs :=
  ⟨(Memory.slice_eq_append h.slice_eq).1, h.below⟩

lemma storeAll_append (m : Memory UInt8) (xs ys : List TextStore) :
    storeAll m (xs ++ ys) = storeAll (storeAll m xs) ys := List.foldl_append

/-- A text that is printed below the limit of `snprintf`. -/
lemma puts_printed {text : List UInt8} {limit : ℕ} (h : text.length ≤ limit - 1) :
    Puts m (storeAll m [⟨pos, text.take (limit - 1) ++ [0]⟩]) pos text := by
  rw [List.take_of_length_le h]
  exact (puts_store m pos (text ++ [0])).left

/-- The copies for a parameter put there what is written for it. -/
lemma puts_written {p : QueryParameter} (hp : p.Printed) :
    Puts m (storeAll m (p.stores noBackslash pos)) pos (p.written noBackslash) := by
  cases p with
  | none data => exact puts_store m pos data
  | char data =>
    have hquote := puts_store m pos [quote]
    have hdata := puts_store (m.store pos [quote]) (pos + 1) (escapedAs noBackslash data)
    have hend := puts_store ((m.store pos [quote]).store (pos + 1) (escapedAs noBackslash data))
      (pos + 1 + (escapedAs noBackslash data).length) [quote]
    have hall := (hquote.append hdata).append (by
      rw [List.length_append, List.length_singleton, ← Nat.add_assoc]
      exact hend)
    exact hall
  | charLike data => exact puts_store m pos _
  | int bits isUnsigned => exact (puts_store m pos _).left
  | bigint bits isUnsigned => exact (puts_store m pos _).left
  | float text => exact puts_printed (le_trans (show text.length ≤ 48 from hp) (by decide))
  | double text => exact puts_printed (le_trans (show text.length ≤ 326 from hp) (by decide))

/-- **The copies put the text** of the query there. -/
lemma puts_substitute {statement : List UInt8} {params : List QueryParameter} (hp : ∀ p ∈ params, p.Printed) :
    Puts m (storeAll m (expandStores noBackslash pos statement params)) pos
      (substitute statement (params.map (·.written noBackslash))) := by
  induction statement generalizing m pos params with
  | nil => exact ⟨rfl, fun _ _ => rfl⟩
  | cons c cs ih =>
    unfold expandStores
    split_ifs with hc
    · rw [substitute_plain hc, ← List.singleton_append, ← List.singleton_append, storeAll_append]
      exact (puts_store m pos [c]).append (ih hp)
    · rw [not_not] at hc
      subst hc
      cases params with
      | nil => exact ⟨rfl, fun _ _ => rfl⟩
      | cons p params =>
        obtain ⟨hhead, htail⟩ := List.forall_mem_cons.mp hp
        rw [List.map_cons, substitute_mark, storeAll_append]
        exact (puts_written hhead).append (ih htail)

end Stores

/-- With a parameter for every question mark, only the escaping of strings leaves marks. -/
lemma expandQuery_trace (con : Con) {statement : List UInt8} {params : List QueryParameter}
    (h : statement.count 0x3f ≤ params.length) :
    ∃ x, (expandQuery con statement params).1.trace = x ++ con.trace ∧ .fault ∉ x := by
  have hparam : ∀ (con : Con) p, ∃ x, (expandParameter con p).1.trace = x ++ con.trace ∧ .fault ∉ x := fun con p => by
    cases p with
    | char data => exact ⟨[_], rfl, by simp⟩
    | charLike data => exact ⟨[_], rfl, by simp⟩
    | _ => exact ⟨[], rfl, by simp⟩
  induction statement generalizing con params with
  | nil => exact ⟨[], rfl, by simp⟩
  | cons c cs ih =>
    unfold expandQuery
    split_ifs with hc
    · rw [List.count_cons_of_ne hc] at h
      exact ih con h
    · rw [not_not] at hc
      subst hc
      rw [List.count_cons_self] at h
      cases params with
      | nil => cases h
      | cons p params =>
        obtain ⟨x, hx, hxf⟩ := hparam con p
        obtain ⟨y, hy, hyf⟩ := ih (expandParameter con p).1 (Nat.le_of_succ_le_succ h)
        refine ⟨y ++ x, ?_, List.not_mem_append hyf hxf⟩
        rw [List.append_assoc, ← hx]
        exact hy

/-- **The expansion of a query stays in its buffer**: with a parameter for every question mark, all copies, with the NULs
behind numbers, stay in the size that was computed for them, they are the ones that make the text, and no parameter behind
the last one is looked at. -/
theorem expansion_inside {con : Con} {statement : List UInt8} {parameters : List QueryParameter}
    (hcount : statement.count 0x3f ≤ parameters.length) (hprinted : ∀ p ∈ parameters, p.Printed)
    (hsum : queryRoom statement parameters < 2 ^ 64) :
    (∀ s ∈ expandStores con.noBackslash 0 statement parameters,
        s.pos + s.bytes.length ≤ sizeT (queryRoom statement parameters : ℕ)) ∧
      (∀ m, (storeAll m (expandStores con.noBackslash 0 statement parameters)).slice 0
          (queryExpansion con statement parameters).2.length = (queryExpansion con statement parameters).2) ∧
      .fault ∉ con.since (queryExpansion con statement parameters).1 := by
  refine ⟨fun s hs => ?_, fun m => ?_, ?_⟩
  · rw [sizeT_of_lt hsum, ← Nat.zero_add (queryRoom statement parameters)]
    exact expandStores_inside hprinted hs
  · rw [queryExpansion_text]
    exact (puts_substitute hprinted).slice_eq
  · unfold queryExpansion
    obtain ⟨x, hx, hxf⟩ := expandQuery_trace
      { ({ con with inQuery := true }.log .queryBegun) with own := con.own.newQueryBuffer } hcount
    rw [Con.since_of_append (x := x ++ [.queryBegun]) (by rw [List.append_assoc]; exact hx)]
    exact List.not_mem_append hxf (by simp)

/-- A number of each kind, and strings, at their longest for their size. -/
def longParameters : List QueryParameter :=
  [.int (2 ^ 31) false, .bigint (2 ^ 63) true, .char [0x27], .float (List.replicate 48 0x31)]

theorem expansion_inside_long :
    (([0x3f, 0x3f, 0x3f, 0x3f] : List UInt8).count 0x3f ≤ longParameters.length ∧
        (∀ p ∈ longParameters, p.Printed) ∧ queryRoom [0x3f, 0x3f, 0x3f, 0x3f] longParameters < 2 ^ 64) ∧
      (∀ s ∈ expandStores (Con.calm 0).noBackslash 0 [0x3f, 0x3f, 0x3f, 0x3f] longParameters,
        s.pos + s.bytes.length ≤ sizeT (queryRoom [0x3f, 0x3f, 0x3f, 0x3f] longParameters : ℕ)) ∧
      (∀ m, (storeAll m (expandStores (Con.calm 0).noBackslash 0 [0x3f, 0x3f, 0x3f, 0x3f] longParameters)).slice 0
          (queryExpansion (Con.calm 0) [0x3f, 0x3f, 0x3f, 0x3f] longParameters).2.length =
        (queryExpansion (Con.calm 0) [0x3f, 0x3f, 0x3f, 0x3f] longParameters).2) ∧
      .fault ∉ (Con.calm 0).since (queryExpansion (Con.calm 0) [0x3f, 0x3f, 0x3f, 0x3f] longParameters).1 :=
  ⟨⟨by decide, by decide, by decide⟩, expansion_inside (by decide) (by decide) (by decide)⟩

/-- A signed number of ten digits needs one byte more than its room, and the NUL behind it one more: the byte of the question
mark and the one behind the statement. -/
example : expandStores false 0 [0x3f] [.int (2 ^ 31) false] = [⟨0, decimal (-2147483648) ++ [0]⟩] ∧
    (decimal (-2147483648) ++ [0]).length = queryRoom [0x3f] [.int (2 ^ 31) false] := by decide +kernel

end LibAttachSql
