import Mathlib.Data.List.Basic
import Mathlib.Tactic.Ring

/-!
# Taking a stream in block by block

An iterated hash function keeps a chaining value and the part of the next block that is there already.  Whoever feeds it
may cut the stream as he likes: `absorb` takes it in element by element, so two pieces are taken in as their
concatenation is.  The standards cut a padded message into blocks instead; `foldBlocks` does that, and both agree.
-/

namespace LibAttachSql.Lib

/-- A chaining value, and what is there of the next block. -/
@[ext] structure Absorbed (σ α : Type) where
  chain : σ
  pending : List α

section Absorb

variable {σ α : Type} (compress : σ → List α → σ) (size : ℕ)

namespace Absorbed

/-- One element more; a block that is full goes into the chaining value. -/
def feed (s : Absorbed σ α) (a : α) : Absorbed σ α :=
  if s.pending.length + 1 = size then ⟨compress s.chain (s.pending ++ [a]), []⟩ else ⟨s.chain, s.pending ++ [a]⟩

/-- A stream is taken in. -/
def absorb (s : Absorbed σ α) (xs : List α) : Absorbed σ α := xs.foldl (feed compress size) s

end Absorbed

/-- So many blocks of a message, one after the other. -/
def foldBlocks : ℕ → σ → List α → σ
  | 0, c, _ => c
  | n + 1, c, xs => foldBlocks n (compress c (xs.take size)) (xs.drop size)

namespace Absorbed

variable {compress size} {s : Absorbed σ α} {xs : List α}

/-- **Where the stream is cut does not matter.** -/
lemma absorb_append (s : Absorbed σ α) (xs ys : List α) :
    s.absorb compress size (xs ++ ys) = (s.absorb compress size xs).absorb compress size ys :=
  List.foldl_append ..

/-- What does not fill the block is kept. -/
lemma absorb_short (h : s.pending.length + xs.length < size) :
    s.absorb compress size xs = ⟨s.chain, s.pending ++ xs⟩ := by
  induction xs generalizing s with
  | nil => rw [List.append_nil]; rfl
  | cons a xs ih =>
    rw [List.length_cons] at h
    have hfeed : feed compress size s a = ⟨s.chain, s.pending ++ [a]⟩ := if_neg (by omega)
    have hlength : (s.pending ++ [a]).length + xs.length < size := by
      rw [List.length_append, List.length_singleton]
      omega
    show (feed compress size s a).absorb compress size xs = _
    rw [hfeed, ih hlength, List.append_assoc, List.singleton_append]

/-- What fills the block goes into the chaining value. -/
lemma absorb_full (h : s.pending.length + xs.length = size) (hne : xs ≠ []) :
    s.absorb compress size xs = ⟨compress s.chain (s.pending ++ xs), []⟩ := by
  obtain ⟨ys, a, rfl⟩ := (List.eq_nil_or_concat' xs).resolve_left hne
  rw [List.length_append, List.length_singleton] at h
  have hshort : s.absorb compress size ys = ⟨s.chain, s.pending ++ ys⟩ := absorb_short (by omega)
  rw [absorb_append, hshort]
  show feed compress size ⟨s.chain, s.pending ++ ys⟩ a = _
  unfold feed
  rw [if_pos (by rw [List.length_append]; omega), List.append_assoc]

/-- How much is kept. -/
lemma length_pending (hs : s.pending.length < size) (xs : List α) :
    (s.absorb compress size xs).pending.length = (s.pending.length + xs.length) % size := by
  induction xs generalizing s with
  | nil => exact (Nat.mod_eq_of_lt hs).symm
  | cons a xs ih =>
    show ((feed compress size s a).absorb compress size xs).pending.length = _
    rw [List.length_cons]
    by_cases hfull : s.pending.length + 1 = size
    · have hfeed : feed compress size s a = ⟨compress s.chain (s.pending ++ [a]), []⟩ := if_pos hfull
      have hsum : s.pending.length + (xs.length + 1) = xs.length + size := by omega
      rw [hfeed, ih (by rw [List.length_nil]; omega), List.length_nil, Nat.zero_add, hsum, Nat.add_mod_right]
    · have hfeed : feed compress size s a = ⟨s.chain, s.pending ++ [a]⟩ := if_neg hfull
      have hlength : (s.pending ++ [a]).length = s.pending.length + 1 := by rw [List.length_append, List.length_singleton]
      rw [hfeed, ih (by rw [hlength]; omega), hlength, Nat.add_assoc, Nat.add_comm 1]

/-- **A message of whole blocks is taken in block by block.** -/
theorem absorb_blocks (hsize : 0 < size) {n : ℕ} (h : xs.length = n * size) (c : σ) :
    absorb compress size ⟨c, []⟩ xs = ⟨foldBlocks compress size n c xs, []⟩ := by
  induction n generalizing c xs with
  | zero =>
    rw [Nat.zero_mul] at h
    rw [List.length_eq_zero_iff.mp h]
    rfl
  | succ n ih =>
    rw [Nat.succ_mul] at h
    have htake : (xs.take size).length = size := by rw [List.length_take]; omega
    have hne : xs.take size ≠ [] := fun hnil => by
      rw [hnil, List.length_nil] at htake
      omega
    have hfull : absorb compress size ⟨c, []⟩ (xs.take size) = ⟨compress c (xs.take size), []⟩ :=
      absorb_full (s := ⟨c, []⟩) (by rw [List.length_nil, Nat.zero_add, htake]) hne
    have hdrop : (xs.drop size).length = n * size := by rw [List.length_drop]; omega
    conv_lhs => rw [← List.take_append_drop size xs]
    rw [absorb_append, hfull, ih hdrop]
    rfl

end Absorbed

end Absorb

end LibAttachSql.Lib
