import LibAttachSql.Query
import Mathlib.Data.Nat.Bitwise

/-!
# Escaping against the lexer of the server

What the escaping functions of `query.cc` write is read back by the server's lexer for string literals.  The lexer is
stated here on its own, after the rules of MySQL: a character of several bytes is taken whole, a backslash escapes
unless the mode forbids it, a doubled quote is a quote, and a single one ends the literal.
-/

namespace LibAttachSql

/-! ### The lexer -/

/-- Bytes from 0x80 on. -/
def IsHigh (c : UInt8) : Prop := 0x80 ≤ c.toNat

instance : DecidablePred IsHigh := fun c => inferInstanceAs (Decidable (0x80 ≤ c.toNat))

/-- A character set: the length of the character of several bytes at the start of a string, 0 or 1 where there is
none.  No byte below 0x80 occurs inside such a character. -/
structure Charset where
  mbChar : List UInt8 → ℕ
  mbChar_le : ∀ s, mbChar s ≤ s.length
  high_of_mem : ∀ s, ∀ c ∈ s.take (mbChar s), 1 < mbChar s → IsHigh c

/-- The byte an escape sequence stands for; the two wildcards keep their backslash. -/
def unescape (c : UInt8) : List UInt8 :=
  if c = 0x6e then [0x0a]
  else if c = 0x74 then [0x09]
  else if c = 0x72 then [0x0d]
  else if c = 0x62 then [0x08]
  else if c = 0x30 then [0x00]
  else if c = 0x5a then [0x1a]
  else if c = 0x5f ∨ c = 0x25 then [backslash, c]
  else [c]

/-- Puts bytes in front of the value of a literal. -/
def prependValue (v : List UInt8) (lit : Option (List UInt8 × List UInt8)) : Option (List UInt8 × List UInt8) :=
  lit.map fun p => (v ++ p.1, p.2)

/-- A string literal behind its opening quote: its value and what follows the closing quote; `none` when it is not
closed. -/
def lexBody (cs : Charset) (noBackslash : Bool) : List UInt8 → Option (List UInt8 × List UInt8)
  | [] => none
  | c :: s =>
    if 1 < cs.mbChar (c :: s) then
      prependValue (c :: s.take (cs.mbChar (c :: s) - 1)) (lexBody cs noBackslash (s.drop (cs.mbChar (c :: s) - 1)))
    else if c = backslash ∧ noBackslash = false then
      match s with
      | [] => none
      | d :: s => prependValue (unescape d) (lexBody cs noBackslash s)
    else if c = quote then
      match s with
      | [] => some ([], [])
      | d :: s => if d = quote then prependValue [quote] (lexBody cs noBackslash s) else some ([], d :: s)
    else prependValue [c] (lexBody cs noBackslash s)
  termination_by s => s.length
  decreasing_by
    · exact Nat.lt_succ_of_le (List.drop_sublist _ _).length_le
    · exact Nat.lt_add_right 1 (Nat.lt_succ_self _)
    · exact Nat.lt_add_right 1 (Nat.lt_succ_self _)
    · exact Nat.lt_succ_self _

/-- A string literal. -/
def lexString (cs : Charset) (noBackslash : Bool) : List UInt8 → Option (List UInt8 × List UInt8)
  | [] => none
  | c :: s => if c = quote then lexBody cs noBackslash s else none

/-! ### Single bytes -/

section Bytes

variable {cs : Charset} {noBackslash : Bool} {c : UInt8} {s : List UInt8}

lemma lexBody_cons :
    lexBody cs noBackslash (c :: s) =
      if 1 < cs.mbChar (c :: s) then
        prependValue (c :: s.take (cs.mbChar (c :: s) - 1))
          (lexBody cs noBackslash (s.drop (cs.mbChar (c :: s) - 1)))
      else if c = backslash ∧ noBackslash = false then
        match s with
        | [] => none
        | d :: s => prependValue (unescape d) (lexBody cs noBackslash s)
      else if c = quote then
        match s with
        | [] => some ([], [])
        | d :: s => if d = quote then prependValue [quote] (lexBody cs noBackslash s) else some ([], d :: s)
      else prependValue [c] (lexBody cs noBackslash s) := by
  rw [lexBody.eq_def]

lemma mbChar_of_not_high (hc : ¬ IsHigh c) : ¬ 1 < cs.mbChar (c :: s) := by
  intro h
  refine hc (cs.high_of_mem (c :: s) c ?_ h)
  rw [show cs.mbChar (c :: s) = cs.mbChar (c :: s) - 1 + 1 by omega, List.take_succ_cons]
  exact List.mem_cons_self

/-- A byte below 0x80 that is neither a quote nor an active backslash stands for itself. -/
lemma lexBody_plain (hc : ¬ IsHigh c) (hb : ¬ (c = backslash ∧ noBackslash = false)) (hq : c ≠ quote) :
    lexBody cs noBackslash (c :: s) = prependValue [c] (lexBody cs noBackslash s) := by
  rw [lexBody_cons, if_neg (mbChar_of_not_high hc), if_neg hb, if_neg hq]

lemma lexBody_backslash (d : UInt8) :
    lexBody cs false (backslash :: d :: s) = prependValue (unescape d) (lexBody cs false s) := by
  rw [lexBody_cons, if_neg (mbChar_of_not_high (by decide)), if_pos ⟨rfl, rfl⟩]

lemma lexBody_quotes :
    lexBody cs noBackslash (quote :: quote :: s) = prependValue [quote] (lexBody cs noBackslash s) := by
  rw [lexBody_cons, if_neg (mbChar_of_not_high (by decide)), if_neg (by simp [quote, backslash]), if_pos rfl]
  exact if_pos rfl

/-- A quote that no quote follows ends the literal. -/
lemma lexBody_close (h : s.head? ≠ some quote) : lexBody cs noBackslash (quote :: s) = some ([], s) := by
  rw [lexBody_cons, if_neg (mbChar_of_not_high (by decide)), if_neg (by simp [quote, backslash]), if_pos rfl]
  cases s with
  | nil => rfl
  | cons d s => exact if_neg (by simpa using h)

end Bytes

/-! ### Encodings of single bytes -/

/-- An encoding of bytes that the lexer undoes: bytes from 0x80 on are left alone, every other is written as bytes
below 0x80 that the lexer reads as that byte. -/
structure Encodes (cs : Charset) (noBackslash : Bool) (e : UInt8 → List UInt8) : Prop where
  high : ∀ c, IsHigh c → e c = [c]
  low_head : ∀ c, ¬ IsHigh c → ∃ d s, e c = d :: s ∧ ¬ IsHigh d
  low_lex : ∀ c, ¬ IsHigh c → ∀ s, lexBody cs noBackslash (e c ++ s) = prependValue [c] (lexBody cs noBackslash s)

section Encodes

variable {cs : Charset} {noBackslash : Bool} {e : UInt8 → List UInt8}

/-- Where the encoding of `d` and a closing quote start with `k` bytes from 0x80 on, those are the first `k` bytes
of `d`. -/
lemma Encodes.high_prefix (he : Encodes cs noBackslash e) {r : List UInt8} {k : ℕ} {d : List UInt8}
    (h : ∀ c ∈ (d.flatMap e ++ quote :: r).take k, IsHigh c) (hk : k ≤ (d.flatMap e ++ quote :: r).length) :
    k ≤ d.length ∧ (d.flatMap e ++ quote :: r).take k = d.take k ∧
      (d.flatMap e ++ quote :: r).drop k = (d.drop k).flatMap e ++ quote :: r := by
  induction k generalizing d with
  | zero => simp
  | succ k ih =>
    cases d with
    | nil => exact absurd (h quote (by simp)) (by decide)
    | cons c d =>
      by_cases hc : IsHigh c
      · simp only [List.flatMap_cons, he.high c hc, List.cons_append, List.nil_append, List.take_succ_cons,
          List.drop_succ_cons, List.mem_cons, forall_eq_or_imp, List.length_cons] at h hk ⊢
        obtain ⟨h₁, h₂, h₃⟩ := ih h.2 (by omega)
        exact ⟨by omega, by rw [h₂], h₃⟩
      · obtain ⟨x, xs, hx, hlow⟩ := he.low_head c hc
        exact absurd (h x (by simp [hx])) hlow

/-- **What a sound encoding writes is read back**, by induction on the length of the value. -/
theorem Encodes.lexBody_flatMap (he : Encodes cs noBackslash e) {r : List UInt8} (hr : r.head? ≠ some quote)
    (d : List UInt8) : lexBody cs noBackslash (d.flatMap e ++ quote :: r) = some (d, r) := by
  induction hn : d.length using Nat.strong_induction_on generalizing d with
  | _ n ih =>
    cases d with
    | nil => exact lexBody_close hr
    | cons c d =>
      rw [List.length_cons] at hn
      by_cases hc : IsHigh c
      · have hcons : (c :: d).flatMap e ++ quote :: r = c :: (d.flatMap e ++ quote :: r) := by
          simp [he.high c hc]
        rw [hcons, lexBody_cons]
        by_cases hmb : 1 < cs.mbChar (c :: (d.flatMap e ++ quote :: r))
        · -- the character is taken whole; its further bytes are the next ones of the value
          rw [if_pos hmb]
          have hle := cs.mbChar_le (c :: (d.flatMap e ++ quote :: r))
          have hhigh := cs.high_of_mem (c :: (d.flatMap e ++ quote :: r))
          generalize cs.mbChar (c :: (d.flatMap e ++ quote :: r)) = k at hmb hle hhigh ⊢
          obtain ⟨j, rfl⟩ : ∃ j, k = j + 1 := ⟨k - 1, by omega⟩
          rw [List.take_succ_cons] at hhigh
          obtain ⟨h₁, h₂, h₃⟩ := he.high_prefix (k := j) (d := d)
            (fun x hx => hhigh x (List.mem_cons_of_mem _ hx) hmb) (by simpa using hle)
          rw [Nat.add_sub_cancel, h₂, h₃, ih (d.drop j).length (by rw [List.length_drop]; omega) _ rfl]
          simp [prependValue]
        · have hne : ∀ x : UInt8, ¬ IsHigh x → c ≠ x := fun x hx heq => hx (heq ▸ hc)
          rw [if_neg hmb, if_neg (fun h => hne backslash (by decide) h.1), if_neg (hne quote (by decide)),
            ih d.length (by omega) d rfl]
          rfl
      · rw [List.flatMap_cons, List.append_assoc, he.low_lex c hc, ih d.length (by omega) d rfl]
        rfl

end Encodes

/-! ### The two escaping functions -/

/-- Doubling quotes is read back where backslashes do not escape. -/
lemma encodes_noBackslash (cs : Charset) : Encodes cs true fun c => if c = quote then [quote, c] else [c] where
  high c hc := if_neg fun h => absurd hc (by rw [h]; decide)
  low_head c hc := by
    split
    · exact ⟨quote, [c], rfl, by decide⟩
    · exact ⟨c, [], rfl, hc⟩
  low_lex c hc s := by
    split
    · next h =>
      subst h
      exact lexBody_quotes
    · next h => exact lexBody_plain hc (by simp) h

lemma isHigh_iff_and (c : UInt8) : IsHigh c ↔ c &&& 0x80 ≠ 0 := by
  have hlt := c.toNat_lt
  have hand : (c &&& 0x80).toNat = (c.toNat.testBit 7).toNat * 2 ^ 7 := by
    rw [UInt8.toNat_and, ← Nat.and_two_pow]
    rfl
  have hbit : c.toNat.testBit 7 = true ↔ IsHigh c := by
    rw [Nat.testBit_eq_decide_div_mod_eq, decide_eq_true_iff, IsHigh]
    omega
  rw [← hbit, ne_eq, ← UInt8.toNat_inj, hand]
  cases c.toNat.testBit 7 <;> simp

/-- An escaped letter stands for the byte it replaces. -/
lemma unescape_escapeLetter {c letter : UInt8} (h : escapeLetter c = some letter) : unescape letter = [c] := by
  unfold escapeLetter at h
  split_ifs at h <;> cases h <;> subst c <;> rfl

/-- A byte that is left alone is neither a quote nor a backslash. -/
lemma ne_of_escapeLetter_none {c : UInt8} (h : escapeLetter c = none) : c ≠ quote ∧ c ≠ backslash := by
  constructor <;> rintro rfl <;> revert h <;> decide

lemma encodes_backslash (cs : Charset) :
    Encodes cs false fun c => match escapeLetter c with
      | some letter => [backslash, letter]
      | none => [c] where
  high c hc := by
    have h : escapeLetter c = none := by
      unfold escapeLetter
      rw [if_pos ((isHigh_iff_and c).mp hc)]
    rw [h]
  low_head c hc := by
    cases h : escapeLetter c with
    | none => exact ⟨c, [], rfl, hc⟩
    | some letter => exact ⟨backslash, [letter], rfl, by decide⟩
  low_lex c hc s := by
    cases h : escapeLetter c with
    | none =>
      obtain ⟨hq, hb⟩ := ne_of_escapeLetter_none h
      exact lexBody_plain hc (fun hcb => hb hcb.1) hq
    | some letter =>
      show lexBody cs false (backslash :: letter :: s) = _
      rw [lexBody_backslash, unescape_escapeLetter h]

/-- **No value breaks out of its literal**: in either mode the lexer reads the escaped value back, and goes on behind
the closing quote. -/
theorem lexString_escape (cs : Charset) (d r : List UInt8) (hr : r.head? ≠ some quote) :
    lexString cs false (quote :: queryEscapeData d ++ quote :: r) = some (d, r) ∧
      lexString cs true (quote :: queryNoBackslashEscapeData d ++ quote :: r) = some (d, r) := by
  constructor
  · rw [List.cons_append, lexString, if_pos rfl]
    exact (encodes_backslash cs).lexBody_flatMap hr d
  · rw [List.cons_append, lexString, if_pos rfl]
    exact (encodes_noBackslash cs).lexBody_flatMap hr d

/-- A continuation byte of UTF-8. -/
def isContinuation (c : UInt8) : Bool := 0x80 ≤ c.toNat ∧ c.toNat < 0xc0

/-- Behind the first byte of the string come `n` continuation bytes. -/
def continued (s : List UInt8) (n : ℕ) : Bool := n + 1 ≤ s.length ∧ (s.tail.take n).all isContinuation

/-- The length of the UTF-8 character of several bytes at the start of a string. -/
def utf8MbChar (s : List UInt8) : ℕ :=
  let lead := (s.headD 0).toNat
  if 0xc2 ≤ lead ∧ lead < 0xe0 ∧ continued s 1 then 2
  else if 0xe0 ≤ lead ∧ lead < 0xf0 ∧ continued s 2 then 3
  else if 0xf0 ≤ lead ∧ lead < 0xf5 ∧ continued s 3 then 4
  else 0

lemma high_of_continued {s : List UInt8} {n : ℕ} (hlead : IsHigh (s.headD 0)) (h : continued s n = true) :
    ∀ c ∈ s.take (n + 1), IsHigh c := by
  rw [continued, decide_eq_true_iff] at h
  cases s with
  | nil => simp
  | cons a s =>
    intro c hc
    rw [List.take_succ_cons, List.mem_cons] at hc
    rcases hc with rfl | hc
    · exact hlead
    · have := List.all_eq_true.mp h.2 c hc
      rw [isContinuation, decide_eq_true_iff] at this
      exact this.1

/-- A character of several bytes is one of the three forms of UTF-8. -/
lemma utf8MbChar_cases (s : List UInt8) :
    utf8MbChar s = 0 ∨ IsHigh (s.headD 0) ∧ ∃ n, utf8MbChar s = n + 1 ∧ continued s n = true := by
  unfold utf8MbChar IsHigh
  dsimp only
  split_ifs with h₁ h₂ h₃
  · exact Or.inr ⟨by omega, 1, rfl, h₁.2.2⟩
  · exact Or.inr ⟨by omega, 2, rfl, h₂.2.2⟩
  · exact Or.inr ⟨by omega, 3, rfl, h₃.2.2⟩
  · exact Or.inl rfl

/-- UTF-8, in which all bytes of a character of several bytes are from 0x80 on. -/
def utf8 : Charset where
  mbChar := utf8MbChar
  mbChar_le s := by
    rcases utf8MbChar_cases s with h | ⟨-, n, h, hc⟩
    · omega
    · rw [continued, decide_eq_true_iff] at hc
      omega
  high_of_mem s c hc h := by
    rcases utf8MbChar_cases s with h' | ⟨hlead, n, h', hn⟩
    · omega
    · rw [h'] at hc
      exact high_of_continued hlead hn c hc

/-- A value of a two-byte character, a quote, a backslash and a broken character at the end, followed by a
parenthesis. -/
theorem lexString_escape_utf8 :
    lexString utf8 false (quote :: queryEscapeData [0xc3, 0xa9, 0x27, 0x5c, 0xc3] ++ quote :: [0x29]) =
        some ([0xc3, 0xa9, 0x27, 0x5c, 0xc3], [0x29]) ∧
      lexString utf8 true (quote :: queryNoBackslashEscapeData [0xc3, 0xa9, 0x27, 0x5c, 0xc3] ++ quote :: [0x29]) =
        some ([0xc3, 0xa9, 0x27, 0x5c, 0xc3], [0x29]) :=
  lexString_escape utf8 [0xc3, 0xa9, 0x27, 0x5c, 0xc3] [0x29] (by decide)

end LibAttachSql
