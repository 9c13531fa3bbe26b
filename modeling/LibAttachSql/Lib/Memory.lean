import Mathlib.Data.List.Basic
import Mathlib.Data.List.GetD

/-!
# Flat memory

A memory is a map from addresses to cells.  A block of cells is read out as a list (`slice`), written from a
list (`store`) and moved with overlap allowed (`move`, the `memmove` of C).  The lemmas say which cells each of
them touches, and how slices of adjacent blocks compose.
-/

namespace LibAttachSql.Lib

/-- A flat memory: one cell at every address. -/
abbrev Memory (α : Type) := ℕ → α

namespace Memory

variable {α : Type}

/-- The `n` cells from the address `p` on. -/
def slice (m : Memory α) (p n : ℕ) : List α := (List.range n).map fun i => m (p + i)

/-- The memory with the list `xs` written from the address `p` on. -/
def store (m : Memory α) (p : ℕ) (xs : List α) : Memory α :=
  fun a => if p ≤ a then (xs[a - p]?).getD (m a) else m a

/-- The memory with the `n` cells at `src` moved to `dst`, the source block being read first. -/
def move (m : Memory α) (src dst n : ℕ) : Memory α := m.store dst (m.slice src n)

/-! ### Slices -/

@[simp] lemma length_slice (m : Memory α) (p n : ℕ) : (m.slice p n).length = n := by simp [slice]

@[simp] lemma slice_zero (m : Memory α) (p : ℕ) : m.slice p 0 = [] := rfl

lemma getElem_slice (m : Memory α) (p n i : ℕ) (h : i < (m.slice p n).length) :
    (m.slice p n)[i] = m (p + i) := by
  simp [slice]

/-- Adjacent slices join. -/
lemma slice_add (m : Memory α) (p a b : ℕ) : m.slice p (a + b) = m.slice p a ++ m.slice (p + a) b := by
  unfold slice
  rw [List.range_add, List.map_append, List.map_map]
  congr 1
  refine List.map_congr_left fun i _ => ?_
  simp [Nat.add_assoc]

lemma slice_succ (m : Memory α) (p n : ℕ) : m.slice p (n + 1) = m p :: m.slice (p + 1) n := by
  rw [Nat.add_comm n 1, slice_add]
  simp [slice]

lemma drop_slice (m : Memory α) (p n k : ℕ) : (m.slice p n).drop k = m.slice (p + k) (n - k) := by
  rcases Nat.le_total k n with h | h
  · obtain ⟨d, rfl⟩ := Nat.exists_eq_add_of_le h
    rw [slice_add, List.drop_left' (by simp)]
    simp
  · rw [List.drop_eq_nil_of_le (by simpa using h), Nat.sub_eq_zero_of_le h, slice_zero]

lemma take_slice (m : Memory α) (p n k : ℕ) : (m.slice p n).take k = m.slice p (min k n) := by
  rcases Nat.le_total k n with h | h
  · obtain ⟨d, rfl⟩ := Nat.exists_eq_add_of_le h
    rw [slice_add, List.take_left' (by simp), Nat.min_eq_left h]
  · rw [List.take_of_length_le (by simpa using h), Nat.min_eq_right h]

/-- Two memories that agree on a block have the same slice there. -/
lemma slice_congr {m m' : Memory α} {p n : ℕ} (h : ∀ a, p ≤ a → a < p + n → m a = m' a) :
    m.slice p n = m'.slice p n := by
  refine List.map_congr_left fun i hi => ?_
  exact h _ (by omega) (by simpa using hi)

/-- A prefix of a slice is read at the same address, a list in the middle of it at its offset. -/
lemma slice_eq_append {m : Memory α} {p n : ℕ} {xs ys : List α} (h : m.slice p n = xs ++ ys) :
    m.slice p xs.length = xs ∧ m.slice (p + xs.length) ys.length = ys := by
  have hn : n = xs.length + ys.length := by rw [← m.length_slice p n, h, List.length_append]
  rw [hn, slice_add] at h
  exact List.append_inj h (by simp)

/-! ### Stores -/

lemma store_of_lt {m : Memory α} {p a : ℕ} {xs : List α} (h : a < p) : m.store p xs a = m a := by
  unfold store
  rw [if_neg (by omega)]

lemma store_of_ge {m : Memory α} {p a : ℕ} {xs : List α} (h : p + xs.length ≤ a) :
    m.store p xs a = m a := by
  unfold store
  rw [if_pos (by omega), List.getElem?_eq_none (by omega), Option.getD_none]

lemma store_of_mem {m : Memory α} {p i : ℕ} {xs : List α} (h : i < xs.length) :
    m.store p xs (p + i) = xs[i] := by
  unfold store
  rw [if_pos (by omega), Nat.add_sub_cancel_left, List.getElem?_eq_getElem h, Option.getD_some]

@[simp] lemma store_nil (m : Memory α) (p : ℕ) : m.store p [] = m := by
  funext a
  rcases Nat.lt_or_ge a p with h | h
  · exact store_of_lt h
  · exact store_of_ge (by simpa using h)

/-- What was stored is read back. -/
@[simp] lemma slice_store (m : Memory α) (p : ℕ) (xs : List α) : (m.store p xs).slice p xs.length = xs := by
  refine List.ext_getElem (by simp) fun i hi _ => ?_
  rw [getElem_slice, store_of_mem]

/-- A block apart from the stored one is unchanged. -/
lemma slice_store_of_disjoint {m : Memory α} {p q n : ℕ} {xs : List α}
    (h : q + n ≤ p ∨ p + xs.length ≤ q) : (m.store p xs).slice q n = m.slice q n := by
  refine slice_congr fun a h₁ h₂ => ?_
  rcases h with h | h
  · exact store_of_lt (by omega)
  · exact store_of_ge (by omega)

/-- Storing just behind a block appends to it. -/
lemma slice_store_append (m : Memory α) (p n : ℕ) (xs : List α) :
    (m.store (p + n) xs).slice p (n + xs.length) = m.slice p n ++ xs := by
  rw [slice_add, slice_store, slice_store_of_disjoint (Or.inl (Nat.le_refl _))]

/-- A list is stored as its parts are, one behind the other. -/
lemma store_append (m : Memory α) (p : ℕ) (xs ys : List α) :
    m.store p (xs ++ ys) = (m.store p xs).store (p + xs.length) ys := by
  funext a
  rcases Nat.lt_or_ge a (p + xs.length) with ha | ha
  · rw [store_of_lt ha]
    unfold store
    split_ifs with h
    · rw [List.getElem?_append_left (by omega)]
    · rfl
  · obtain ⟨i, rfl⟩ := Nat.exists_eq_add_of_le ha
    have hi : p + xs.length + i - p = xs.length + i := by omega
    unfold store
    rw [if_pos (by omega), if_pos ha, if_pos (by omega), hi, List.getElem?_append_right (by omega),
      Nat.add_sub_cancel_left, Nat.add_sub_cancel_left, List.getElem?_eq_none (l := xs) (by omega), Option.getD_none]

/-- Blocks apart from one another can be stored in either order. -/
lemma store_comm {m : Memory α} {p q : ℕ} {xs ys : List α} (h : p + xs.length ≤ q) :
    (m.store q ys).store p xs = (m.store p xs).store q ys := by
  funext a
  rcases Nat.lt_or_ge a q with ha | ha
  · rw [store_of_lt ha]
    unfold store
    rw [if_neg (Nat.not_le.mpr ha)]
  · rw [store_of_ge (by omega)]
    unfold store
    rw [if_pos ha, if_pos ha, if_pos (by omega), List.getElem?_eq_none (l := xs) (by omega), Option.getD_none]

/-- The parts of a list may be stored from its end on. -/
lemma store_store_append (m : Memory α) (p : ℕ) (xs ys : List α) :
    (m.store (p + xs.length) ys).store p xs = m.store p (xs ++ ys) := by
  rw [store_comm (Nat.le_refl _), store_append]

/-- The moved block reads as its source did. -/
@[simp] lemma slice_move (m : Memory α) (src dst n : ℕ) : (m.move src dst n).slice dst n = m.slice src n := by
  have h := slice_store m dst (m.slice src n)
  rwa [length_slice] at h

end Memory

end LibAttachSql.Lib
